import AmqpClient.Frame.Cut

/-! Frames out of a stream that arrives in arbitrary pieces. An intake holds the bytes that have arrived
and were not handed out yet. Taking a piece off its front is separate from reading more, so an error in
between loses nothing but the piece it reports. -/
namespace AmqpClient

inductive Arrival
  | data (bytes : Bytes)
  | fault (kind : IoKind)
  deriving DecidableEq, Repr

abbrev Stream := List Arrival

namespace Stream

/- One read of at most `room` bytes: what it yields, and the stream after it. No bytes mean that the stream
has ended. A read never joins two arrivals. -/
def read (room : Nat) : Stream → Except IoKind Bytes × Stream
  | [] => (.ok [], [])
  | .fault kind :: later => (.error kind, later)
  | .data bytes :: later =>
    match bytes.drop room with
    | [] => (.ok (bytes.take room), later)
    | rest => (.ok (bytes.take room), .data rest :: later)

def weight : Stream → Nat
  | [] => 0
  | .data bytes :: later => bytes.length + 1 + weight later
  | .fault _ :: later => 1 + weight later

end Stream

structure Intake where
  pending : Bytes := []
  deriving DecidableEq, Repr

namespace Intake

def leastRead : Nat := 4096

def want (intake : Intake) : Nat :=
  match Frame.sizeAhead? intake.pending with
  | some size => max leastRead (size - intake.pending.length)
  | none => leastRead

def take (intake : Intake) : Except Error (Option Frame) × Intake :=
  match Frame.cutOne? intake.pending with
  | none => (.ok none, intake)
  | some (piece, rest) => ((Frame.parse piece).map some, ⟨rest⟩)

def absorb (intake : Intake) (bytes : Bytes) : Intake := ⟨intake.pending ++ bytes⟩

inductive Filled
  | read (count : Nat)
  | wouldBlock
  deriving DecidableEq, Repr

def fill (intake : Intake) : Stream → Except Error Filled × Intake × Stream
  | [] => (.error .unexpectedSocketClose, intake, [])
  | .fault .interrupted :: later => fill intake later
  | .fault .wouldBlock :: later => (.ok .wouldBlock, intake, later)
  | .fault .timedOut :: later => (.ok .wouldBlock, intake, later)
  | .fault kind :: later => (.error (.io ⟨kind, ""⟩), intake, later)
  | .data bytes :: later =>
    match Stream.read intake.want (.data bytes :: later) with
    | (.ok [], later) => (.error .unexpectedSocketClose, intake, later)
    | (.ok bytes, later) => (.ok (.read bytes.length), intake.absorb bytes, later)
    | (.error kind, later) => (.error (.io ⟨kind, ""⟩), intake, later)

def drainWithin (handler : σ → Frame → Except Error Unit × σ) :
    (fuel : Nat) → σ → Intake → Except Error Unit × σ × Intake
  | 0, s, intake => (.ok (), s, intake)
  | fuel + 1, s, intake =>
    match intake.take with
    | (.error e, intake) => (.error e, s, intake)
    | (.ok none, intake) => (.ok (), s, intake)
    | (.ok (some frame), intake) =>
      match handler s frame with
      | (.error e, s) => (.error e, s, intake)
      | (.ok (), s) => drainWithin handler fuel s intake

def drain (handler : σ → Frame → Except Error Unit × σ) (s : σ) (intake : Intake) :
    Except Error Unit × σ × Intake :=
  drainWithin handler intake.pending.length s intake

structure Run (σ α : Type) where
  result : Except Error α
  state : σ
  intake : Intake
  stream : Stream

def readFromWithin (handler : σ → Frame → Except Error Unit × σ) :
    (fuel : Nat) → (total : Nat) → σ → Intake → Stream → Run σ Nat
  | 0, total, s, intake, stream => ⟨.ok total, s, intake, stream⟩
  | fuel + 1, total, s, intake, stream =>
    match drain handler s intake with
    | (.error e, s, intake) => ⟨.error e, s, intake, stream⟩
    | (.ok (), s, intake) =>
      match intake.fill stream with
      | (.error e, intake, stream) => ⟨.error e, s, intake, stream⟩
      | (.ok .wouldBlock, intake, stream) => ⟨.ok total, s, intake, stream⟩
      | (.ok (.read count), intake, stream) =>
        readFromWithin handler fuel (total + count) s intake stream

def readFrom (handler : σ → Frame → Except Error Unit × σ) (s : σ) (intake : Intake)
    (stream : Stream) : Run σ Nat :=
  readFromWithin handler (Stream.weight stream + 1) 0 s intake stream

def nextFrameWithin : (fuel : Nat) → Intake → Stream → Except Error Frame × Intake × Stream
  | 0, intake, stream => (.error .unexpectedSocketClose, intake, stream)
  | fuel + 1, intake, stream =>
    match intake.take with
    | (.error e, intake) => (.error e, intake, stream)
    | (.ok (some frame), intake) => (.ok frame, intake, stream)
    | (.ok none, intake) =>
      match intake.fill stream with
      | (.error e, intake, stream) => (.error e, intake, stream)
      | (.ok .wouldBlock, intake, stream) => (.error (.io ⟨.timedOut, ""⟩), intake, stream)
      | (.ok (.read _), intake, stream) => nextFrameWithin fuel intake stream

def nextFrame (intake : Intake) (stream : Stream) : Except Error Frame × Intake × Stream :=
  nextFrameWithin (Stream.weight stream + 1) intake stream

end Intake

end AmqpClient
