import AmqpClient.Frame

/-! Cutting a byte string at its frames' length fields. Each piece is as long as the length field in it
says. -/
namespace AmqpClient

namespace Frame

inductive Piece
  | frame (whole : Frame)
  | malformed (bytes : Bytes)
  deriving DecidableEq, Repr

namespace Piece

def ofBytes (bytes : Bytes) : Piece :=
  match parse? bytes with
  | some whole => .frame whole
  | none => .malformed bytes

def frame? : Piece → Option Frame
  | .frame whole => some whole
  | .malformed _ => none

end Piece

def cutOne? (bytes : Bytes) : Option (Bytes × Bytes) := do
  let size ← sizeAhead? bytes
  Bytes.split? size bytes

def cutWithin : (fuel : Nat) → Bytes → List Bytes × Bytes
  | 0, bytes => ([], bytes)
  | fuel + 1, bytes =>
    match cutOne? bytes with
    | none => ([], bytes)
    | some (piece, rest) =>
      let (pieces, left) := cutWithin fuel rest
      (piece :: pieces, left)

/- All complete pieces of a byte string, and the incomplete rest. A piece is never empty, so the string's
length bounds their number. -/
def cut (bytes : Bytes) : List Piece × Bytes :=
  let (pieces, rest) := cutWithin bytes.length bytes
  (pieces.map Piece.ofBytes, rest)

end Frame

end AmqpClient
