import AmqpClient.Content.Header
import AmqpClient.Proofs.Method.Reading

/-! Headers that are read back, and the frames of what was read. The flag word says exactly which properties follow,
so a header is read again from what it is written to; a property that is announced and is not text is left out from
then on. A frame made of what was read holds no more than what it was read from, so there is always room for it. -/
namespace AmqpClient

namespace OptionalRow

variable {part : Part} {bytes rest : Bytes}

theorem flagsBelow : (parts : List Part) → (row : OptionalRow parts) → flags parts row < 1 <<< (parts.length + 2)
  | [], () => by decide
  | part :: parts, (value, row) => by
    have below := flagsBelow parts row
    simp only [flags, flag, List.length_cons, Nat.one_shiftLeft, Nat.pow_succ] at below ⊢
    split <;> omega

theorem flagsHead (parts : List Part) (value : Option part.Value) (row : OptionalRow parts) :
    (flags (part :: parts) (value, row)).testBit ((part :: parts).length + 1) = value.isSome := by
  have below := flagsBelow parts row
  rw [Nat.one_shiftLeft] at below
  have later := Nat.testBit_lt_two_pow below
  rw [flags, flag, Nat.one_shiftLeft, List.length_cons]
  cases value with
  | none => simpa using later
  | some value => simp [Nat.testBit_two_pow_add_eq, later]

theorem flagsTail (parts : List Part) (value : Option part.Value) (row : OptionalRow parts) {place : Nat}
    (lower : place < parts.length + 2) :
    (flags (part :: parts) (value, row)).testBit place = (flags parts row).testBit place := by
  rw [flags, flag, Nat.one_shiftLeft, List.length_cons]
  cases value with
  | none => simp
  | some value => simp [Nat.testBit_two_pow_add_gt lower]

theorem readOnePlain (plain : part ≠ .shortText) :
    readOne part bytes = (part.read bytes).bind fun (value, rest) => some (some value, rest) := by
  cases part with
  | shortText => contradiction
  | _ => rfl

theorem readOneSome {value : part.Value} :
    readOne part bytes = some (some value, rest) ↔ part.read bytes = some (value, rest) := by
  by_cases short : part = .shortText
  · subst short
    rw [readOne, Part.read, Text.readShort]
    cases Text.scanShort bytes with
    | text => exact ⟨fun same => by cases same; rfl, fun same => by cases same; rfl⟩
    | invalid | cutOff => simp
  · simp [readOnePlain short, Option.bind_eq_some_iff]

theorem readOneNone (read : readOne part bytes = some (none, rest)) : rest = bytes := by
  by_cases short : part = .shortText
  · subst short
    rw [readOne] at read
    cases scanned : Text.scanShort bytes <;> simp_all
  · simp [readOnePlain short, Option.bind_eq_some_iff] at read

def kept : (parts : List Part) → OptionalRow parts → OptionalRow parts
  | [], () => ()
  | part :: rest, (value, row) => (value.map part.kept, kept rest row)

def Sound : (parts : List Part) → OptionalRow parts → Prop
  | [], () => True
  | part :: rest, (value, row) => (∀ present ∈ value, part.Sound present) ∧ Sound rest row

theorem writeCons (parts : List Part) (value : Option part.Value) (row : OptionalRow parts) :
    write (part :: parts) (value, row) = value.elim [] part.write ++ write parts row := by
  cases value <;> rfl

theorem readOneSound {value : Option part.Value} (read : readOne part bytes = some (value, rest)) :
    (∀ present ∈ value, part.Sound present) ∧ value.map part.kept = value ∧
      (value.elim [] part.write).length + rest.length ≤ bytes.length := by
  cases value with
  | none =>
    obtain rfl := readOneNone read
    exact ⟨nofun, rfl, Nat.le_of_eq (Nat.zero_add _)⟩
  | some value =>
    obtain ⟨sound, same, fewer⟩ := Part.readSound (readOneSome.mp read)
    refine ⟨fun present its => ?_, congrArg some same, fewer⟩
    obtain rfl := Option.some.inj its
    exact sound

theorem readSound (word : Nat) : {parts : List Part} → {bytes rest : Bytes} → {row : OptionalRow parts} →
    read word parts bytes = some (row, rest) → Sound parts row ∧ kept parts row = row ∧
      (write parts row).length + rest.length ≤ bytes.length
  | [], _, _, _, known => by
    cases known
    exact ⟨trivial, rfl, Nat.le_of_eq (Nat.zero_add _)⟩
  | part :: parts, _, _, _, known => by
    unfold read at known
    split at known
    · simp only [bind, Option.bind_eq_some_iff, Option.some.injEq, Prod.exists] at known
      obtain ⟨value, _, first, row, _, later, same⟩ := known
      cases same
      obtain ⟨sound, still, fewer⟩ := readOneSound first
      obtain ⟨sounder, stiller, further⟩ := readSound word later
      refine ⟨⟨sound, sounder⟩, Prod.ext still stiller, ?_⟩
      rw [writeCons, List.length_append]
      omega
    · simp only [bind, Option.bind_eq_some_iff, Option.some.injEq, Prod.exists] at known
      obtain ⟨row, _, later, same⟩ := known
      cases same
      obtain ⟨sounder, stiller, further⟩ := readSound word later
      exact ⟨⟨nofun, sounder⟩, Prod.ext rfl stiller, further⟩

theorem readWritten {word : Nat} : {parts : List Part} → {row : OptionalRow parts} →
    (∀ part ∈ parts, part.Narrow) → (write parts row).length < UInt32.size → Sound parts row →
    (∀ place < parts.length + 2, word.testBit place = (flags parts row).testBit place) → (rest : Bytes) →
    read word parts (write parts row ++ rest) = some (kept parts row, rest)
  | [], (), _, _, _, _, _ => rfl
  | part :: parts, (value, row), narrow, fits, ⟨sound, sounder⟩, same, rest => by
    obtain ⟨slim, slimmer⟩ := List.forall_mem_cons.mp narrow
    rw [writeCons, List.length_append] at fits
    have later := readWritten slimmer (by omega) sounder
      (fun place lower => (same place (Nat.lt_succ_of_lt lower)).trans (flagsTail parts value row lower)) rest
    have announced := (same _ (Nat.lt_succ_self _)).trans (flagsHead parts value row)
    rw [writeCons, List.append_assoc, read, announced]
    cases value with
    | none => simp [later, kept]
    | some value =>
      have first := readOneSome.mpr (Part.readWritten slim (Nat.lt_of_le_of_lt (Nat.le_add_right ..) fits)
        (sound value rfl) (write parts row ++ rest))
      simp [first, later, kept]

end OptionalRow

namespace Properties

variable {properties : Properties} {bytes : Bytes}

def kept (properties : Properties) : Properties := ⟨OptionalRow.kept parts properties.row⟩

def Sound (properties : Properties) : Prop := OptionalRow.Sound parts properties.row

theorem narrow : ∀ part ∈ parts, part.Narrow := by
  simp [parts, Part.Narrow]

theorem readSound (read : read? bytes = some properties) :
    properties.Sound ∧ properties.kept = properties ∧ properties.write.length ≤ bytes.length := by
  simp only [read?, bind, Option.bind_eq_some_iff, Option.some.injEq, Prod.exists, Bytes.readNatIff] at read
  obtain ⟨word, _, ⟨_, rfl⟩, row, rest, read, rfl⟩ := read
  obtain ⟨sound, same, fewer⟩ := OptionalRow.readSound word read
  refine ⟨sound, congrArg Properties.mk same, ?_⟩
  simp only [write, List.length_append, Bytes.lengthOfNat]
  omega

theorem readWritten (fits : properties.write.length < UInt32.size) (sound : properties.Sound) :
    read? properties.write = some properties.kept := by
  have word := Bytes.readNatIff.mpr ⟨OptionalRow.flagsBelow parts properties.row,
    Eq.refl (Bytes.ofNat 2 _ ++ OptionalRow.write parts properties.row)⟩
  rw [write, List.length_append] at fits
  have read := OptionalRow.readWritten narrow (Nat.lt_of_le_of_lt (Nat.le_add_left ..) fits) sound
    (fun _ _ => rfl) []
  rw [List.append_nil] at read
  simp only [read?, write, bind, word, Option.bind_some, read]
  rfl

end Properties

namespace ContentHeader

variable {header : ContentHeader} {payload : Bytes}

def kept (header : ContentHeader) : ContentHeader := { header with properties := header.properties.kept }

def Sound (header : ContentHeader) : Prop := header.properties.Sound

theorem readSound (read : read? payload = some header) :
    header.Sound ∧ header.kept = header ∧ header.write.length ≤ payload.length ∧ payload.length < UInt32.size := by
  unfold read? at read
  split at read
  · cases read
  · rename_i few
    simp only [bind, Option.bind_eq_some_iff, Option.some.injEq, Prod.exists, Bytes.readU16Iff, Bytes.readU64Iff] at read
    obtain ⟨classCode, _, rfl, weight, _, rfl, bodySize, _, rfl, properties, read, rfl⟩ := read
    obtain ⟨sound, same, fewer⟩ := Properties.readSound read
    refine ⟨sound, congrArg (ContentHeader.mk classCode bodySize) same, ?_, Nat.lt_of_not_le few⟩
    simp only [write, List.length_append, List.length_cons, Bytes.lengthOfU16, Bytes.lengthOfU64]
    omega

theorem readWritten (fits : header.write.length < UInt32.size) (sound : header.Sound) :
    read? header.write = some header.kept := by
  have whole := fits
  simp only [write, List.length_append, List.length_cons] at fits
  have read : Properties.read? header.properties.write = _ := Properties.readWritten (by omega) sound
  have weight (rest : Bytes) : Bytes.readU16 (0 :: 0 :: rest) = some (0, rest) := Bytes.readU16Iff.mpr rfl
  rw [read?, if_neg (Nat.not_le.mpr whole), write]
  simp only [bind, Bytes.readU16Iff.mpr rfl, Option.bind_some, weight, Bytes.readU64Iff.mpr rfl, read]
  rfl

end ContentHeader

namespace Frame

variable {frame : Frame} {method : Method} {header : ContentHeader}

theorem methodIff : frame.method = .ok method ↔ frame.kind = .method ∧ Method.read? frame.payload = some method := by
  obtain ⟨kind, channel, payload⟩ := frame
  cases kind with
  | method => cases read : Method.read? payload <;> simp [Frame.method, read]
  | header => cases read : ContentHeader.read? payload <;> simp [Frame.method, read]
  | _ => simp [Frame.method]

theorem contentHeaderIff :
    frame.contentHeader = .ok header ↔ frame.kind = .header ∧ ContentHeader.read? frame.payload = some header := by
  obtain ⟨kind, channel, payload⟩ := frame
  cases kind with
  | header => cases read : ContentHeader.read? payload <;> simp [Frame.contentHeader, read]
  | method => cases read : Method.read? payload <;> simp [Frame.contentHeader, read]
  | _ => simp [Frame.contentHeader]

/- What was read of a frame makes a frame from which the same is read, and which it then makes again. -/
theorem decodedAgain (frame : Frame) (channel : UInt16) :
    (∀ method, frame.method = .ok method → ∃ again, method.frame channel = .ok again ∧
      again.kind = .method ∧ again.channel = channel ∧ again.size ≤ frame.size ∧
      ∃ second, again.method = .ok second ∧ second = method ∧ second.frame channel = .ok again) ∧
    (∀ header, frame.contentHeader = .ok header → ∃ again, header.frame channel = .ok again ∧
      again.kind = .header ∧ again.channel = channel ∧ again.size ≤ frame.size ∧
      ∃ second, again.contentHeader = .ok second ∧ second = header ∧ second.frame channel = .ok again) := by
  constructor
  · intro method decoded
    obtain ⟨sound, same, fewer, few⟩ := Method.readSound (methodIff.mp decoded).2
    have fits := Nat.lt_of_le_of_lt fewer few
    have framed : method.frame channel = .ok ⟨.method, channel, method.write⟩ := if_pos fits
    have read := Method.readWritten fits sound
    rw [same] at read
    exact ⟨_, framed, rfl, rfl, Nat.add_le_add_left fewer _, method, methodIff.mpr ⟨rfl, read⟩, rfl, framed⟩
  · intro header decoded
    obtain ⟨sound, same, fewer, few⟩ := ContentHeader.readSound (contentHeaderIff.mp decoded).2
    have fits := Nat.lt_of_le_of_lt fewer few
    have framed : header.frame channel = .ok ⟨.header, channel, header.write⟩ := if_pos fits
    have read := ContentHeader.readWritten fits sound
    rw [same] at read
    exact ⟨_, framed, rfl, rfl, Nat.add_le_add_left fewer _, header, contentHeaderIff.mpr ⟨rfl, read⟩, rfl, framed⟩

def nestedEntries : Bytes :=
  [0, 0, 0, 26, 1, 0x6B, 0x49, 0, 0, 0, 1, 1, 0x6B, 0x46, 0, 0, 0, 12, 1, 0x61, 0x41, 0, 0, 0, 5, 0x66, 0x7F, 0xC0, 0, 1]

def nestedTable : FieldTable :=
  .cons "k" (.table (.cons "a" (.array (.cons (.float 0x7FC00001) .nil)) .nil)) .nil

def nestedMethod : Method :=
  ⟨.queueDeclare, ((0 : UInt16), "q", (false, true, false, false, false, ()), nestedTable, ())⟩

def nestedHeader : ContentHeader :=
  ⟨ContentHeader.basicClass, 12345,
    ⟨(none, none, some nestedTable, some (2 : UInt8), none, none, none, none, none, none, none, none, none, none, ())⟩⟩

set_option maxRecDepth 4000 in
theorem nestedDecodedAgain :
    (∃ frame : Frame, frame.payload = [0, 50, 0, 10, 0, 0, 1, 0x71, 2] ++ nestedEntries ∧
      frame.method = .ok nestedMethod ∧ ∃ again, nestedMethod.frame 3 = .ok again ∧
      again.kind = .method ∧ again.channel = 3 ∧ again.size ≤ frame.size ∧
      ∃ second, again.method = .ok second ∧ second = nestedMethod ∧ second.frame 3 = .ok again) ∧
    (∃ frame : Frame, frame.payload = [0, 60, 0, 0, 0, 0, 0, 0, 0, 0, 0x30, 0x39, 0x30, 0] ++ nestedEntries ++ [2] ∧
      frame.contentHeader = .ok nestedHeader ∧ ∃ again, nestedHeader.frame 3 = .ok again ∧
      again.kind = .header ∧ again.channel = 3 ∧ again.size ≤ frame.size ∧
      ∃ second, again.contentHeader = .ok second ∧ second = nestedHeader ∧ second.frame 3 = .ok again) := by
  constructor
  · have decoded : Frame.method ⟨.method, 1, [0, 50, 0, 10, 0, 0, 1, 0x71, 2] ++ nestedEntries⟩ = .ok nestedMethod := by
      rfl
    exact ⟨_, rfl, decoded, (decodedAgain _ 3).1 nestedMethod decoded⟩
  · have decoded : Frame.contentHeader
        ⟨.header, 1, [0, 60, 0, 0, 0, 0, 0, 0, 0, 0, 0x30, 0x39, 0x30, 0] ++ nestedEntries ++ [2]⟩ =
          .ok nestedHeader := by rfl
    exact ⟨_, rfl, decoded, (decodedAgain _ 3).2 nestedHeader decoded⟩

end Frame

end AmqpClient
