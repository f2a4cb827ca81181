import AmqpClient.Method.Wire

/-! Content headers: the class, the body's size and the message properties. A flag word says which of the
fourteen properties are present; they follow in one fixed order, highest flag first. -/
namespace AmqpClient

def OptionalRow : List Part → Type
  | [] => Unit
  | part :: rest => Option part.Value × OptionalRow rest

namespace OptionalRow

def empty : (parts : List Part) → OptionalRow parts
  | [] => ()
  | _ :: rest => (none, empty rest)

def flag (remaining : Nat) : Nat := 1 <<< (remaining + 1)

def flags : (parts : List Part) → OptionalRow parts → Nat
  | [], () => 0
  | part :: rest, (value, row) =>
    (if value.isSome then flag (part :: rest).length else 0) + flags rest row

def write : (parts : List Part) → OptionalRow parts → Bytes
  | [], () => []
  | part :: rest, (some value, row) => part.write value ++ write rest row
  | _ :: rest, (none, row) => write rest row

/- Reads a value that its flag announces. A short text whose bytes are all there but are not text counts as
absent, and what follows is read from where it started. -/
def readOne : (part : Part) → Bytes → Option (Option part.Value × Bytes)
  | .shortText, bytes =>
    match Text.scanShort bytes with
    | .text text rest => some (some text, rest)
    | .invalid => some (none, bytes)
    | .cutOff => none
  | part, bytes => do
    let (value, rest) ← part.read bytes
    some (some value, rest)

def read (flags : Nat) : (parts : List Part) → Bytes → Option (OptionalRow parts × Bytes)
  | [], bytes => some ((), bytes)
  | part :: rest, bytes => do
    if flags.testBit ((part :: rest).length + 1) then
      let (value, bytes) ← readOne part bytes
      let (row, bytes) ← read flags rest bytes
      some ((value, row), bytes)
    else
      let (row, bytes) ← read flags rest bytes
      some ((none, row), bytes)

end OptionalRow

namespace Properties

def parts : List Part :=
  [ .shortText  -- content type
  , .shortText  -- content encoding
  , .table      -- headers
  , .u8         -- delivery mode
  , .u8         -- priority
  , .shortText  -- correlation id
  , .shortText  -- reply to
  , .shortText  -- expiration
  , .shortText  -- message id
  , .u64        -- timestamp
  , .shortText  -- type
  , .shortText  -- user id
  , .shortText  -- application id
  , .shortText  -- cluster id
  ]

end Properties

structure Properties where
  row : OptionalRow Properties.parts

namespace Properties

def empty : Properties := ⟨OptionalRow.empty parts⟩

instance : Inhabited Properties := ⟨empty⟩

def write (properties : Properties) : Bytes :=
  Bytes.ofNat 2 (OptionalRow.flags parts properties.row) ++ OptionalRow.write parts properties.row

def read? (bytes : Bytes) : Option Properties := do
  let (flags, rest) ← Bytes.readNat 2 bytes
  let (row, _) ← OptionalRow.read flags parts rest
  some ⟨row⟩

end Properties

structure ContentHeader where
  classCode : UInt16
  bodySize : UInt64
  properties : Properties

namespace ContentHeader

def basicClass : UInt16 := 60

def basic (bodySize : UInt64) (properties : Properties) : ContentHeader :=
  ⟨basicClass, bodySize, properties⟩

def write (header : ContentHeader) : Bytes :=
  Bytes.ofU16 header.classCode ++ (0 :: 0 :: (Bytes.ofU64 header.bodySize ++ header.properties.write))

def read? (payload : Bytes) : Option ContentHeader :=
  if UInt32.size ≤ payload.length then none
  else do
    let (classCode, rest) ← Bytes.readU16 payload
    let (_, rest) ← Bytes.readU16 rest
    let (bodySize, rest) ← Bytes.readU64 rest
    let properties ← Properties.read? rest
    some ⟨classCode, bodySize, properties⟩

def frame (channel : UInt16) (header : ContentHeader) : Except Error Frame :=
  Frame.ofPayload .header channel header.write

end ContentHeader

namespace Frame

def method (frame : Frame) : Except Error Method :=
  match frame.kind with
  | .method =>
    match Method.read? frame.payload with
    | some method => .ok method
    | none => .error .malformedFrame
  | .header =>
    match ContentHeader.read? frame.payload with
    | some _ => .error (.unexpectedFrame .method .header)
    | none => .error .malformedFrame
  | received => .error (.unexpectedFrame .method received)

def contentHeader (frame : Frame) : Except Error ContentHeader :=
  match frame.kind with
  | .header =>
    match ContentHeader.read? frame.payload with
    | some header => .ok header
    | none => .error .malformedFrame
  | .method =>
    match Method.read? frame.payload with
    | some _ => .error (.unexpectedFrame .header .method)
    | none => .error .malformedFrame
  | received => .error (.unexpectedFrame .header received)

end Frame

end AmqpClient
