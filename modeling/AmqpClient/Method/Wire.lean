import AmqpClient.Method
import AmqpClient.Frame

/-! The wire form of methods: both numbers, then the parts in order. Reading and writing follow the same
list of parts. Reading fails on unknown numbers, missing bytes and bytes that are not text, and on what is too
long for a frame; it ignores what follows the arguments and gives up what it cannot keep of tables and flags. -/
namespace AmqpClient

namespace FlagRow

def toNat : (uses : List FlagUse) → FlagRow uses → Nat
  | [], () => 0
  | _ :: rest, (flag, row) => flag.toNat + 2 * toNat rest row

def ofNat : (uses : List FlagUse) → Nat → FlagRow uses
  | [], _ => ()
  | .read :: rest, value => (value % 2 = 1, ofNat rest (value / 2))
  | .unread :: rest, value => (false, ofNat rest (value / 2))

end FlagRow

namespace Part

def write : (part : Part) → part.Value → Bytes
  | .u8, value => Bytes.ofU8 value
  | .u16, value => Bytes.ofU16 value
  | .u32, value => Bytes.ofU32 value
  | .u64, value => Bytes.ofU64 value
  | .shortText, value => Text.writeShort value
  | .longText, value => Text.writeLong value
  | .table, value => FieldTable.write value
  | .flags uses, row => [UInt8.ofNat (FlagRow.toNat uses row)]

def read : (part : Part) → Bytes → Option (part.Value × Bytes)
  | .u8, bytes => Bytes.readU8 bytes
  | .u16, bytes => Bytes.readU16 bytes
  | .u32, bytes => Bytes.readU32 bytes
  | .u64, bytes => Bytes.readU64 bytes
  | .shortText, bytes => Text.readShort bytes
  | .longText, bytes => Text.readLong bytes
  | .table, bytes => FieldTable.read bytes
  | .flags uses, bytes => (Bytes.readU8 bytes).map fun (b, rest) => (FlagRow.ofNat uses b.toNat, rest)

end Part

namespace Arguments

def write : (parts : List Part) → Arguments parts → Bytes
  | [], () => []
  | part :: rest, (value, values) => part.write value ++ write rest values

def read : (parts : List Part) → Bytes → Option (Arguments parts × Bytes)
  | [], bytes => some ((), bytes)
  | part :: rest, bytes => do
    let (value, bytes) ← part.read bytes
    let (values, bytes) ← read rest bytes
    some ((value, values), bytes)

end Arguments

namespace Method

def write (method : Method) : Bytes :=
  let (classCode, methodCode) := method.kind.codes
  Bytes.ofU16 classCode ++ (Bytes.ofU16 methodCode ++ Arguments.write method.kind.parts method.arguments)

def read? (payload : Bytes) : Option Method :=
  if UInt32.size ≤ payload.length then none
  else do
    let (classCode, rest) ← Bytes.readU16 payload
    let (methodCode, rest) ← Bytes.readU16 rest
    let kind ← MethodKind.ofCodes? (classCode, methodCode)
    let (arguments, _) ← Arguments.read kind.parts rest
    some ⟨kind, arguments⟩

def frame (channel : UInt16) (method : Method) : Except Error Frame :=
  Frame.ofPayload .method channel method.write

end Method

end AmqpClient
