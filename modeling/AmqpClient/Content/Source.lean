import AmqpClient.Error

/-! Sources of bytes that a caller supplies. A source may hand out fewer bytes than asked for, may be
interrupted any number of times before it does, and may fail for good where its data ends. -/
namespace AmqpClient

/- How one read of a source goes: how often it is interrupted before, and the most bytes it yields. -/
structure Pace where
  interruptions : Nat := 0
  most : Option Nat := none
  deriving DecidableEq, Repr

structure Source where
  data : Bytes
  failure : Option IoFault := none
  pace : Nat → Pace := fun _ => {}
  turn : Nat := 0
  interrupted : Nat := 0

namespace Source

def ofBytes (data : Bytes) : Source := { data }

def failingAt (place : Nat) (fault : IoFault) (source : Source) : Source :=
  if source.data.length < place then source
  else { source with data := source.data.take place, failure := some fault }

def read (room : Nat) (source : Source) : Except IoFault Bytes × Source :=
  let pace := source.pace source.turn
  if source.interrupted < pace.interruptions then
    (.error ⟨.interrupted, ""⟩, { source with interrupted := source.interrupted + 1 })
  else
    let next := { source with turn := source.turn + 1, interrupted := 0 }
    match source.data, source.failure with
    | [], some fault => (.error fault, next)
    | data, _ =>
      let count := match pace.most with
        | some most => min room most
        | none => room
      (.ok (data.take count), { next with data := data.drop count })

/- The source after the interruptions that precede its next answer. Reading again after each of them comes
to the same. -/
def settle (source : Source) : Source :=
  { source with interrupted := (source.pace source.turn).interruptions }

def readSettled (room : Nat) (source : Source) : Except IoFault Bytes × Source :=
  source.settle.read room

end Source

end AmqpClient
