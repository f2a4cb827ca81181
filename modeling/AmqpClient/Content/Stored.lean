import AmqpClient.Content.Body
import AmqpClient.Content.Spill.Buffered

/-! Bodies as they are stored, with a place in memory, a buffered file or a caller's reader under them, and the
reads of them. What the caller's reader does is its own affair: it is a parameter. -/
namespace AmqpClient

namespace Reads

variable {σ : Type} (read : Nat → σ → Except IoFault Bytes × σ)

def all : List Nat → σ → List (Except IoFault Bytes) × σ
  | [], s => ([], s)
  | room :: rooms, s =>
    let (result, s) := read room s
    let (results, last) := all rooms s
    (result :: results, last)

/- Reads to the end, and again after an interruption. Each read has room for something; how much is up to the
caller. Only a reader that is interrupted for ever does not come to an end. -/
def toEnd (rooms : Nat → Nat) : (fuel : Nat) → (turn : Nat) → (gathered : Bytes) → σ →
    Option (Except IoFault Bytes × σ)
  | 0, _, _, _ => none
  | fuel + 1, turn, gathered, s =>
    match read (rooms turn + 1) s with
    | (.error fault, s) =>
      if fault.kind = .interrupted then toEnd rooms fuel (turn + 1) gathered s else some (.error fault, s)
    | (.ok [], s) => some (.ok gathered, s)
    | (.ok bytes, s) => toEnd rooms fuel (turn + 1) (gathered ++ bytes) s

end Reads

inductive BodyStorage (σ : Type)
  | memory (bytes : Bytes) (place : Nat)
  | spilled (reader : Spill.Reader)
  | stream (s : σ)

structure StoredBody (σ : Type) where
  storage : BodyStorage σ
  length : UInt64

namespace StoredBody

variable {σ : Type}

def ofBytes (bytes : Bytes) : StoredBody σ := ⟨.memory bytes 0, UInt64.ofNat bytes.length⟩

def ofSpill (reader : Spill.Reader) : StoredBody σ := ⟨.spilled reader, UInt64.ofNat reader.length⟩

def ofStream (s : σ) (length : UInt64) : StoredBody σ := ⟨.stream s, length⟩

def isSpilled (body : StoredBody σ) : Bool :=
  match body.storage with
  | .spilled _ => true
  | _ => false

variable (pull : Nat → σ → Except IoFault Bytes × σ)

def read (room : Nat) (body : StoredBody σ) : Except IoFault Bytes × StoredBody σ :=
  match body.storage with
  | .memory bytes place =>
    let front := (bytes.drop place).take room
    (.ok front, { body with storage := .memory bytes (place + front.length) })
  | .spilled reader =>
    let (result, reader) := reader.read room
    (result, { body with storage := .spilled reader })
  | .stream s =>
    let (result, s) := pull room s
    (result, { body with storage := .stream s })

def failure (body : StoredBody σ) (fault : IoFault) : Error :=
  if body.isSpilled then .spillBuffer fault else .io fault

/- For a body that declares at most `Bytes.longest` bytes: room for that many is asked for at once, and a stream
may declare more, for which the program panics. -/
def intoVec (rooms : Nat → Nat) (fuel : Nat) (body : StoredBody σ) : Option (Except Error Bytes) :=
  match Reads.toEnd (read pull) rooms fuel 0 [] body with
  | none => none
  | some (.ok bytes, _) => some (.ok bytes)
  | some (.error fault, _) => some (.error (body.failure fault))

end StoredBody

end AmqpClient
