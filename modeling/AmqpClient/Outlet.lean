import AmqpClient.Frame

/-! A buffered way out. A sink takes bytes a call at a time and may fail for good after some of them; an
outlet gathers small pieces in front of a sink. What a flush could not put out stays in the outlet, in
order. -/
namespace AmqpClient

structure Sink where
  accepted : Array UInt8 := #[]
  -- without a room it never fails
  room : Option Nat := none
  -- the most bytes that it takes in each of its calls
  most : Nat → Option Nat := fun _ => none
  turn : Nat := 0
  fault : IoFault := ⟨.brokenPipe, ""⟩

namespace Sink

def write (bytes : Bytes) (sink : Sink) : Except IoFault Nat × Sink :=
  let next := { sink with turn := sink.turn + 1 }
  if sink.room = some 0 then (.error sink.fault, next)
  else
    let limit := match sink.room, sink.most sink.turn with
      | some room, some most => some (min room most)
      | some room, none => some room
      | none, most => most
    let front : Bytes := match limit with
      | some limit => bytes.take limit
      | none => bytes
    (.ok front.length,
      { next with accepted := sink.accepted ++ front, room := sink.room.map (· - front.length) })

def pushWithin : (fuel : Nat) → Bytes → Sink → Option IoFault × Bytes × Sink
  | 0, bytes, sink => (none, bytes, sink)
  | _, [], sink => (none, [], sink)
  | fuel + 1, bytes, sink =>
    match sink.write bytes with
    | (.error fault, sink) => (some fault, bytes, sink)
    | (.ok 0, sink) => (some ⟨.writeZero, ""⟩, bytes, sink)
    | (.ok count, sink) => pushWithin fuel (bytes.drop count) sink

/- Calls until everything is taken or a call fails. Yields the failure and what was not taken. A call that
takes nothing counts as a failure, so the number of bytes bounds the calls. -/
def push (bytes : Bytes) (sink : Sink) : Option IoFault × Bytes × Sink :=
  pushWithin bytes.length bytes sink

def writeAll (bytes : Bytes) (sink : Sink) : Except IoFault Unit × Sink :=
  match sink.push bytes with
  | (none, _, sink) => (.ok (), sink)
  | (some fault, _, sink) => (.error fault, sink)

end Sink

structure Outlet where
  held : Array UInt8 := #[]
  sink : Sink := {}

namespace Outlet

def capacity : Nat := 8192

def flush (outlet : Outlet) : Except IoFault Unit × Outlet :=
  match outlet.sink.push outlet.held.toList with
  | (none, left, sink) => (.ok (), ⟨left.toArray, sink⟩)
  | (some fault, left, sink) => (.error fault, ⟨left.toArray, sink⟩)

def takeAccepted (outlet : Outlet) : Bytes × Outlet :=
  (outlet.sink.accepted.toList, { outlet with sink := { outlet.sink with accepted := #[] } })

/- Adds a piece to what is gathered. A piece as large as the whole room goes straight to the sink. -/
def place (bytes : Bytes) (outlet : Outlet) : Except IoFault Unit × Outlet :=
  if capacity ≤ bytes.length then
    match outlet.sink.push bytes with
    | (none, _, sink) => (.ok (), { outlet with sink })
    | (some fault, _, sink) => (.error fault, { outlet with sink })
  else (.ok (), { outlet with held := outlet.held ++ bytes })

def write (bytes : Bytes) (outlet : Outlet) : Except IoFault Unit × Outlet :=
  if capacity < outlet.held.size + bytes.length then
    match outlet.flush with
    | (.error fault, outlet) => (.error fault, outlet)
    | (.ok (), outlet) => outlet.place bytes
  else outlet.place bytes

def writeAll : List Bytes → Outlet → Except IoFault Unit × Outlet
  | [], outlet => (.ok (), outlet)
  | piece :: rest, outlet =>
    match outlet.write piece with
    | (.error fault, outlet) => (.error fault, outlet)
    | (.ok (), outlet) => writeAll rest outlet

def writeFrame (outlet : Outlet) (frame : Frame) : Except IoFault Unit × Outlet :=
  outlet.writeAll [frame.encodeHeader, frame.payload, [Frame.endByte]]

end Outlet

end AmqpClient
