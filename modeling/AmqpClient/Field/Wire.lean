import AmqpClient.Field

/-! The wire form of field values and tables. A value is a type byte and what the type calls for. Reading
a table or an array takes its declared length first and then keeps the entries up to the first one that
is cut off, unknown or not text; writing follows the order of the keys. -/
namespace AmqpClient

mutual
def FieldValue.write : FieldValue → Bytes
  | .boolean value => [0x74, if value then 1 else 0]
  | .int8 value => [0x62, value.toUInt8]
  | .uint8 value => [0x42, value]
  | .int16 value => 0x73 :: Bytes.ofU16 value.toUInt16
  | .uint16 value => 0x75 :: Bytes.ofU16 value
  | .int32 value => 0x49 :: Bytes.ofU32 value.toUInt32
  | .uint32 value => 0x69 :: Bytes.ofU32 value
  | .int64 value => 0x6C :: Bytes.ofU64 value.toUInt64
  | .float bits => 0x66 :: Bytes.ofU32 bits
  | .double bits => 0x64 :: Bytes.ofU64 bits
  | .decimal scale digits => 0x44 :: scale :: Bytes.ofU32 digits
  | .text value => 0x53 :: Text.writeLong value
  | .array items =>
    let inner := items.writeItems
    0x41 :: (Bytes.ofNat 4 inner.length ++ inner)
  | .timestamp seconds => 0x54 :: Bytes.ofU64 seconds
  | .table entries =>
    let inner := entries.writeEntries
    0x46 :: (Bytes.ofNat 4 inner.length ++ inner)
  | .bytes value => 0x78 :: (Bytes.ofNat 4 value.length ++ value)
  | .void => [0x56]
def FieldArray.writeItems : FieldArray → Bytes
  | .nil => []
  | .cons item rest => item.write ++ rest.writeItems
def FieldTable.writeEntries : FieldTable → Bytes
  | .nil => []
  | .cons key value rest => Text.writeShort key ++ (value.write ++ rest.writeEntries)
end

def FieldTable.write (table : FieldTable) : Bytes :=
  let inner := table.writeEntries
  Bytes.ofNat 4 inner.length ++ inner

def FieldValue.readPlain (type : UInt8) (bytes : Bytes) : Option (FieldValue × Bytes) :=
  match type with
  | 0x74 => do
    let (value, rest) ← Bytes.readU8 bytes
    some (.boolean (value != 0), rest)
  | 0x62 => do
    let (value, rest) ← Bytes.readU8 bytes
    some (.int8 value.toInt8, rest)
  | 0x42 => do
    let (value, rest) ← Bytes.readU8 bytes
    some (.uint8 value, rest)
  | 0x73 | 0x55 => do
    let (value, rest) ← Bytes.readU16 bytes
    some (.int16 value.toInt16, rest)
  | 0x75 => do
    let (value, rest) ← Bytes.readU16 bytes
    some (.uint16 value, rest)
  | 0x49 => do
    let (value, rest) ← Bytes.readU32 bytes
    some (.int32 value.toInt32, rest)
  | 0x69 => do
    let (value, rest) ← Bytes.readU32 bytes
    some (.uint32 value, rest)
  | 0x6C | 0x4C => do
    let (value, rest) ← Bytes.readU64 bytes
    some (.int64 value.toInt64, rest)
  | 0x66 => do
    let (bits, rest) ← Bytes.readU32 bytes
    some (.float bits, rest)
  | 0x64 => do
    let (bits, rest) ← Bytes.readU64 bytes
    some (.double bits, rest)
  | 0x44 => do
    let (scale, rest) ← Bytes.readU8 bytes
    let (digits, rest) ← Bytes.readU32 rest
    some (.decimal scale digits, rest)
  | 0x53 => do
    let (value, rest) ← Text.readLong bytes
    some (.text value, rest)
  | 0x54 => do
    let (seconds, rest) ← Bytes.readU64 bytes
    some (.timestamp seconds, rest)
  | 0x78 => do
    let (count, rest) ← Bytes.readNat 4 bytes
    let (value, rest) ← Bytes.split? count rest
    some (.bytes value, rest)
  | 0x56 => some (.void, bytes)
  | _ => none

mutual
def FieldValue.readWithin : (depth : Nat) → (type : UInt8) → Bytes → Option (FieldValue × Bytes)
  | 0, _, _ => none
  | depth + 1, type, bytes =>
    if type = 0x41 then do
      let (count, rest) ← Bytes.readNat 4 bytes
      let (inner, rest) ← Bytes.split? count rest
      some (.array (FieldArray.readWithin depth inner), rest)
    else if type = 0x46 then do
      let (count, rest) ← Bytes.readNat 4 bytes
      let (inner, rest) ← Bytes.split? count rest
      some (.table (FieldTable.readWithin depth inner .nil), rest)
    else FieldValue.readPlain type bytes
def FieldArray.readWithin : (depth : Nat) → Bytes → FieldArray
  | 0, _ => .nil
  | _ + 1, [] => .nil
  | depth + 1, type :: rest =>
    match FieldValue.readWithin depth type rest with
    | none => .nil
    | some (item, rest) => .cons item (FieldArray.readWithin depth rest)
def FieldTable.readWithin : (depth : Nat) → Bytes → FieldTable → FieldTable
  | 0, _, table => table
  | depth + 1, bytes, table =>
    match Text.readShort bytes with
    | none => table
    | some (_, []) => table
    | some (key, type :: rest) =>
      match FieldValue.readWithin depth type rest with
      | none => table
      | some (value, rest) => FieldTable.readWithin depth rest (table.insert key value)
end

/- Reads the entries of a table whose length was taken off already. Every step into a value or on to the
next entry takes at least one byte, so the number of bytes bounds the depth. -/
def FieldTable.readEntries (bytes : Bytes) : FieldTable :=
  FieldTable.readWithin (bytes.length + 2) bytes .nil

/- Reads a table behind its four-byte length. Only missing bytes make this fail. -/
def FieldTable.read (bytes : Bytes) : Option (FieldTable × Bytes) := do
  let (count, rest) ← Bytes.readNat 4 bytes
  let (inner, rest) ← Bytes.split? count rest
  some (FieldTable.readEntries inner, rest)

end AmqpClient
