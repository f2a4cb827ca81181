import AmqpClient.Method.Wire
import AmqpClient.Proofs.Field.Reading

/-! Methods that are read back. What is read fits where it came from and is read again from what it is written to;
of what is written, reading gives up the flags that are never read, and takes all the rest if its short texts are
short. -/
namespace AmqpClient

namespace FlagRow

def kept : (uses : List FlagUse) → FlagRow uses → FlagRow uses
  | [], () => ()
  | .read :: rest, (flag, row) => (flag, kept rest row)
  | .unread :: rest, (_, row) => (false, kept rest row)

theorem toNatBound : (uses : List FlagUse) → (row : FlagRow uses) → toNat uses row < 1 <<< uses.length
  | [], () => Nat.one_pos
  | _ :: rest, (flag, row) => by
    have later := toNatBound rest row
    have now := Bool.toNat_le flag
    simp only [toNat, List.length_cons, Nat.one_shiftLeft, Nat.pow_succ] at later ⊢
    omega

theorem ofNatToNat : (uses : List FlagUse) → (row : FlagRow uses) → ofNat uses (toNat uses row) = kept uses row
  | [], () => rfl
  | use :: rest, (flag, row) => by
    have half : (flag.toNat + 2 * toNat rest row) / 2 = toNat rest row := by
      have now := Bool.toNat_le flag
      omega
    have odd : decide ((flag.toNat + 2 * toNat rest row) % 2 = 1) = flag := by
      cases flag <;> simp
    have halved : ofNat rest ((flag.toNat + 2 * toNat rest row) / 2) = kept rest row := by
      rw [half, ofNatToNat rest row]
    cases use with
    | read => exact Prod.ext odd halved
    | unread => exact Prod.ext rfl halved

theorem keptOfNat : (uses : List FlagUse) → (value : Nat) → kept uses (ofNat uses value) = ofNat uses value
  | [], _ => rfl
  | .read :: rest, value => Prod.ext rfl (keptOfNat rest (value / 2))
  | .unread :: rest, value => Prod.ext rfl (keptOfNat rest (value / 2))

end FlagRow

namespace Part

variable {part : Part} {bytes rest : Bytes} {value : part.Value}

def kept : (part : Part) → part.Value → part.Value
  | .flags uses, row => FlagRow.kept uses row
  | .u8, value => value
  | .u16, value => value
  | .u32, value => value
  | .u64, value => value
  | .shortText, value => value
  | .longText, value => value
  | .table, value => value

def Sound : (part : Part) → part.Value → Prop
  | .shortText, text => Text.IsShort text
  | .table, entries => entries.Throughout KeysSound
  | _, _ => True

def Narrow : Part → Prop
  | .flags uses => uses.length ≤ 8
  | _ => True

theorem readSound (read : part.read bytes = some (value, rest)) :
    part.Sound value ∧ part.kept value = value ∧ (part.write value).length + rest.length ≤ bytes.length := by
  cases part with
  | u8 =>
    obtain rfl := Bytes.readU8Iff.mp read
    exact ⟨trivial, rfl, by simp [write]⟩
  | u16 =>
    obtain rfl := Bytes.readU16Iff.mp read
    exact ⟨trivial, rfl, by simp [write]⟩
  | u32 =>
    obtain rfl := Bytes.readU32Iff.mp read
    exact ⟨trivial, rfl, by simp [write]⟩
  | u64 =>
    obtain rfl := Bytes.readU64Iff.mp read
    exact ⟨trivial, rfl, by simp [write]⟩
  | shortText =>
    obtain ⟨short, rfl⟩ := Text.readShortIff.mp read
    exact ⟨short, rfl, by simp [write]⟩
  | longText =>
    obtain ⟨_, rfl⟩ := Text.readLongIff.mp read
    exact ⟨trivial, rfl, by simp [write]⟩
  | table =>
    obtain ⟨sound, fewer⟩ := FieldTable.readSound read
    exact ⟨sound, rfl, fewer⟩
  | flags uses =>
    obtain ⟨⟨b, _⟩, read, same⟩ := Option.map_eq_some_iff.mp read
    cases same
    obtain rfl := Bytes.readU8Iff.mp read
    exact ⟨trivial, FlagRow.keptOfNat uses b.toNat, by simp [write, Bytes.ofU8, Nat.add_comm]⟩

theorem readWritten (narrow : part.Narrow) (fits : (part.write value).length < UInt32.size) (sound : part.Sound value)
    (rest : Bytes) : part.read (part.write value ++ rest) = some (part.kept value, rest) := by
  cases part with
  | u8 => exact Bytes.readU8Iff.mpr rfl
  | u16 => exact Bytes.readU16Iff.mpr rfl
  | u32 => exact Bytes.readU32Iff.mpr rfl
  | u64 => exact Bytes.readU64Iff.mpr rfl
  | shortText => exact Text.readShortIff.mpr ⟨sound, rfl⟩
  | longText =>
    have small : (Text.encode value).length < UInt32.size := by
      have length : (write .longText value).length = _ := Text.writeLongLength value
      omega
    exact Text.readLongIff.mpr ⟨small, rfl⟩
  | table => exact FieldTable.readWriteOf fits sound rest
  | flags uses =>
    have few : FlagRow.toNat uses value < 256 := by
      have bound := FlagRow.toNatBound uses value
      rw [Nat.one_shiftLeft] at bound
      exact Nat.lt_of_lt_of_le bound (Nat.pow_le_pow_right Nat.two_pos narrow)
    have byte : (UInt8.ofNat (FlagRow.toNat uses value)).toNat = FlagRow.toNat uses value :=
      UInt8.toNat_ofNat_of_lt' few
    simp only [read, write, List.singleton_append, Bytes.readU8, Option.map_some, byte]
    exact congrArg (fun row => some (row, rest)) (FlagRow.ofNatToNat uses value)

theorem soundKept : (part : Part) → (value : part.Value) → (part.Sound (part.kept value) ↔ part.Sound value)
  | .flags _, _ | .u8, _ | .u16, _ | .u32, _ | .u64, _ | .shortText, _ | .longText, _ | .table, _ => Iff.rfl

end Part

namespace Arguments

def kept : (parts : List Part) → Arguments parts → Arguments parts
  | [], () => ()
  | part :: rest, (value, values) => (part.kept value, kept rest values)

def Sound : (parts : List Part) → Arguments parts → Prop
  | [], () => True
  | part :: rest, (value, values) => part.Sound value ∧ Sound rest values

theorem readSound : {parts : List Part} → {bytes rest : Bytes} → {arguments : Arguments parts} →
    read parts bytes = some (arguments, rest) → Sound parts arguments ∧ kept parts arguments = arguments ∧
      (write parts arguments).length + rest.length ≤ bytes.length
  | [], _, _, _, known => by
    cases known
    exact ⟨trivial, rfl, by simp [write]⟩
  | part :: parts, _, _, _, known => by
    simp only [read, bind, Option.bind_eq_some_iff, Option.some.injEq, Prod.exists] at known
    obtain ⟨value, behind, first, values, rest, later, rfl, rfl⟩ := known
    obtain ⟨sound, same, fewer⟩ := Part.readSound first
    obtain ⟨sounder, still, further⟩ := readSound later
    refine ⟨⟨sound, sounder⟩, Prod.ext same still, ?_⟩
    rw [write, List.length_append]
    omega

theorem readWritten : {parts : List Part} → {arguments : Arguments parts} → (∀ part ∈ parts, part.Narrow) →
    (write parts arguments).length < UInt32.size → Sound parts arguments → (rest : Bytes) →
    read parts (write parts arguments ++ rest) = some (kept parts arguments, rest)
  | [], (), _, _, _, _ => rfl
  | part :: parts, (value, values), narrow, fits, ⟨sound, sounder⟩, rest => by
    obtain ⟨slim, slimmer⟩ := List.forall_mem_cons.mp narrow
    rw [write, List.length_append] at fits
    have first := Part.readWritten slim (by omega) sound (write parts values ++ rest)
    have later := readWritten slimmer (by omega) sounder rest
    simp only [read, write, List.append_assoc, first, bind, Option.bind_some, later, kept]

theorem soundKept : (parts : List Part) → (arguments : Arguments parts) →
    (Sound parts (kept parts arguments) ↔ Sound parts arguments)
  | [], () => Iff.rfl
  | part :: rest, (value, values) => and_congr (part.soundKept value) (soundKept rest values)

end Arguments

theorem MethodKind.narrow (kind : MethodKind) : ∀ part ∈ kind.parts, part.Narrow := by
  cases kind <;> simp [MethodKind.parts, Part.Narrow]

namespace Method

variable {method : Method} {payload : Bytes}

def kept (method : Method) : Method := ⟨method.kind, Arguments.kept method.kind.parts method.arguments⟩

def Sound (method : Method) : Prop := Arguments.Sound method.kind.parts method.arguments

theorem writeParts (method : Method) :
    method.write = Bytes.ofU16 method.kind.codes.1 ++ (Bytes.ofU16 method.kind.codes.2 ++
      Arguments.write method.kind.parts method.arguments) := rfl

theorem readSound (read : read? payload = some method) :
    method.Sound ∧ method.kept = method ∧ method.write.length ≤ payload.length ∧ payload.length < UInt32.size := by
  unfold read? at read
  split at read
  · cases read
  · rename_i few
    simp only [bind, Option.bind_eq_some_iff, Option.some.injEq, Prod.exists, Bytes.readU16Iff] at read
    obtain ⟨classCode, _, rfl, methodCode, _, rfl, kind, known, arguments, rest, read, rfl⟩ := read
    obtain ⟨sound, same, fewer⟩ := Arguments.readSound read
    refine ⟨sound, congrArg (Method.mk kind) same, ?_, Nat.lt_of_not_le few⟩
    simp only [writeParts, List.length_append, Bytes.lengthOfU16]
    omega

theorem readWritten (fits : method.write.length < UInt32.size) (sound : method.Sound) :
    read? method.write = some method.kept := by
  have whole := fits
  rw [writeParts, List.length_append, List.length_append] at fits
  have read := Arguments.readWritten method.kind.narrow (by omega) sound []
  rw [List.append_nil] at read
  have known : MethodKind.ofCodes? (method.kind.codes.1, method.kind.codes.2) = some method.kind :=
    MethodKind.ofCodesCodes method.kind
  rw [read?, if_neg (Nat.not_le.mpr whole), writeParts]
  simp only [bind, Bytes.readU16Iff.mpr rfl, Option.bind_some, known, read]
  rfl

end Method

end AmqpClient
