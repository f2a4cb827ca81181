import AmqpClient.Bytes

/-! Text on the wire is UTF-8 behind a length. A short text has a one-byte length and a long text a
four-byte length; lengths that do not fit keep their lowest bytes while all of the text follows. Words are what stands between
white space in the sense of the Unicode property of that name. -/
namespace AmqpClient

namespace Text

def encode (text : String) : Bytes := text.toByteArray.data.toList

def decode? (bytes : Bytes) : Option String := String.fromUTF8? ⟨bytes.toArray⟩

def writeShort (text : String) : Bytes :=
  let bytes := encode text
  UInt8.ofNat bytes.length :: bytes

def writeLong (text : String) : Bytes :=
  let bytes := encode text
  Bytes.ofNat 4 bytes.length ++ bytes

inductive ShortRead
  | text (text : String) (rest : Bytes)
  | invalid
  | cutOff

def scanShort : Bytes → ShortRead
  | [] => .cutOff
  | count :: rest =>
    match Bytes.split? count.toNat rest with
    | none => .cutOff
    | some (front, rest) =>
      match decode? front with
      | none => .invalid
      | some text => .text text rest

def readShort (bytes : Bytes) : Option (String × Bytes) :=
  match scanShort bytes with
  | .text text rest => some (text, rest)
  | _ => none

def readLong (bytes : Bytes) : Option (String × Bytes) := do
  let (count, rest) ← Bytes.readNat 4 bytes
  let (front, rest) ← Bytes.split? count rest
  let text ← decode? front
  some (text, rest)

theorem decodeEncode (text : String) : decode? (encode text) = some text := by
  have same : (⟨(encode text).toArray⟩ : ByteArray) = text.toByteArray := by simp [encode]
  rw [decode?, same, String.fromUTF8?, dif_pos text.isValidUTF8]
  rfl

theorem encodeOfDecode {bytes : Bytes} {text : String} (h : decode? bytes = some text) :
    encode text = bytes := by
  simp only [decode?, String.fromUTF8?] at h
  split at h
  · obtain rfl := Option.some.inj h
    exact List.toList_toArray
  · contradiction

def isBlank (c : Char) : Bool :=
  let code := c.toNat
  (0x9 ≤ code && code ≤ 0xD) || code == 0x20 || code == 0x85 || code == 0xA0 || code == 0x1680
    || (0x2000 ≤ code && code ≤ 0x200A) || code == 0x2028 || code == 0x2029 || code == 0x202F
    || code == 0x205F || code == 0x3000

def wordsFrom (current : List Char) : List Char → List (List Char)
  | [] => if current.isEmpty then [] else [current.reverse]
  | c :: rest =>
    if isBlank c then
      if current.isEmpty then wordsFrom [] rest else current.reverse :: wordsFrom [] rest
    else wordsFrom (c :: current) rest

def words (text : String) : List String := (wordsFrom [] text.toList).map String.ofList

end Text

end AmqpClient
