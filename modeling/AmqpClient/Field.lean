import AmqpClient.Text

/-! Field values and tables: the typed data in message properties, method arguments and peer properties.
A table keeps one value a key, in the order of the keys' bytes. -/
namespace AmqpClient

mutual
inductive FieldValue where
  | boolean (value : Bool)
  | int8 (value : Int8)
  | uint8 (value : UInt8)
  | int16 (value : Int16)
  | uint16 (value : UInt16)
  | int32 (value : Int32)
  | uint32 (value : UInt32)
  | int64 (value : Int64)
  | float (bits : UInt32)
  | double (bits : UInt64)
  | decimal (scale : UInt8) (digits : UInt32)
  | text (value : String)
  | array (items : FieldArray)
  | timestamp (seconds : UInt64)
  | table (entries : FieldTable)
  | bytes (value : Bytes)
  | void
  deriving DecidableEq, Repr
inductive FieldArray where
  | nil
  | cons (item : FieldValue) (rest : FieldArray)
  deriving DecidableEq, Repr
inductive FieldTable where
  | nil
  | cons (key : String) (value : FieldValue) (rest : FieldTable)
  deriving DecidableEq, Repr
end

namespace FieldTable

def before (a b : String) : Bool := decide (Text.encode a < Text.encode b)

def insert (key : String) (value : FieldValue) : FieldTable → FieldTable
  | nil => cons key value nil
  | cons other old rest =>
    if key = other then cons key value rest
    else if before key other then cons key value (cons other old rest)
    else cons other old (insert key value rest)

def ofList (entries : List (String × FieldValue)) : FieldTable :=
  entries.foldl (fun table entry => insert entry.1 entry.2 table) nil

def toList : FieldTable → List (String × FieldValue)
  | nil => []
  | cons key value rest => (key, value) :: toList rest

def get? (key : String) : FieldTable → Option FieldValue
  | nil => none
  | cons other value rest => if key = other then some value else get? key rest

def Ordered (table : FieldTable) : Prop :=
  (table.toList.map Prod.fst).Pairwise fun a b => before a b = true

instance : Inhabited FieldTable := ⟨nil⟩

end FieldTable

namespace FieldArray

def ofList : List FieldValue → FieldArray
  | [] => nil
  | item :: rest => cons item (ofList rest)

def toList : FieldArray → List FieldValue
  | nil => []
  | cons item rest => item :: toList rest

end FieldArray

/- Equality of the numbers that two single-precision patterns denote: the zeros are one number, and what is
not a number equals nothing. -/
def sameFloat (a b : UInt32) : Bool :=
  let size := fun bits : UInt32 => bits.toNat % 0x80000000
  let isNumber := fun bits => decide (size bits ≤ 0x7F800000)
  isNumber a && isNumber b && (a == b || (size a == 0 && size b == 0))

def sameDouble (a b : UInt64) : Bool :=
  let size := fun bits : UInt64 => bits.toNat % 0x8000000000000000
  let isNumber := fun bits => decide (size bits ≤ 0x7FF0000000000000)
  isNumber a && isNumber b && (a == b || (size a == 0 && size b == 0))

mutual
def FieldValue.same : FieldValue → FieldValue → Bool
  | .float a, .float b => sameFloat a b
  | .double a, .double b => sameDouble a b
  | .array a, .array b => a.same b
  | .table a, .table b => a.same b
  | .boolean a, .boolean b => a == b
  | .int8 a, .int8 b => a == b
  | .uint8 a, .uint8 b => a == b
  | .int16 a, .int16 b => a == b
  | .uint16 a, .uint16 b => a == b
  | .int32 a, .int32 b => a == b
  | .uint32 a, .uint32 b => a == b
  | .int64 a, .int64 b => a == b
  | .decimal scale digits, .decimal scale' digits' => scale == scale' && digits == digits'
  | .text a, .text b => a == b
  | .timestamp a, .timestamp b => a == b
  | .bytes a, .bytes b => a == b
  | .void, .void => true
  | _, _ => false
def FieldArray.same : FieldArray → FieldArray → Bool
  | .nil, .nil => true
  | .cons a rest, .cons b rest' => a.same b && rest.same rest'
  | _, _ => false
def FieldTable.same : FieldTable → FieldTable → Bool
  | .nil, .nil => true
  | .cons key a rest, .cons key' b rest' => key == key' && a.same b && rest.same rest'
  | _, _ => false
end

end AmqpClient
