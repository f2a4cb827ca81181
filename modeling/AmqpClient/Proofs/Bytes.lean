import AmqpClient.Text

/-! Numbers and texts among other bytes. A number is read from exactly the bytes that it is written to, and so is a
text that its length field can tell the length of. -/
namespace AmqpClient

namespace Bytes

variable {bytes rest : Bytes}

theorem splitIff {count : Nat} {front : Bytes} :
    split? count bytes = some (front, rest) ↔ front.length = count ∧ bytes = front ++ rest := by
  constructor
  · exact fun split => (splitSome split).symm
  · rintro ⟨rfl, rfl⟩
    exact splitAppend front rest

theorem readNatIff {width value : Nat} :
    readNat width bytes = some (value, rest) ↔ value < Nat.pow 256 width ∧ bytes = ofNat width value ++ rest := by
  simp only [readNat, bind, Option.bind_eq_some_iff, Option.some.injEq, Prod.mk.injEq, Prod.exists, splitIff]
  constructor
  · rintro ⟨front, _, ⟨sized, rfl⟩, rfl, rfl⟩
    exact ⟨sized ▸ toNatLt front, by rw [ofNatToNat width front sized]⟩
  · rintro ⟨small, rfl⟩
    refine ⟨ofNat width value, rest, ⟨lengthOfNat width value, rfl⟩, ?_, rfl⟩
    rw [toNatOfNat, Nat.mod_eq_of_lt small]

theorem readU8Iff {value : UInt8} : readU8 bytes = some (value, rest) ↔ bytes = ofU8 value ++ rest := by
  cases bytes <;> simp [readU8, ofU8]

theorem readWordIff {ω : Type} {ofNumber : Nat → ω} {number : ω → Nat} {width : Nat} {value : ω}
    (exact : ∀ value, ofNumber (number value) = value) (below : ∀ value, number value < Nat.pow 256 width)
    (back : ∀ count < Nat.pow 256 width, number (ofNumber count) = count) :
    ((readNat width bytes).bind fun counted => some (ofNumber counted.1, counted.2)) = some (value, rest) ↔
      bytes = ofNat width (number value) ++ rest := by
  simp only [Option.bind_eq_some_iff, Option.some.injEq, Prod.mk.injEq, Prod.exists, readNatIff]
  constructor
  · rintro ⟨count, _, ⟨small, rfl⟩, rfl, rfl⟩
    rw [back count small]
  · rintro rfl
    exact ⟨number value, rest, ⟨below value, rfl⟩, exact value, rfl⟩

theorem readU16Iff {value : UInt16} : readU16 bytes = some (value, rest) ↔ bytes = ofU16 value ++ rest :=
  readWordIff (fun _ => UInt16.ofNat_toNat) UInt16.toNat_lt fun _ small => UInt16.toNat_ofNat_of_lt' small

theorem readU32Iff {value : UInt32} : readU32 bytes = some (value, rest) ↔ bytes = ofU32 value ++ rest :=
  readWordIff (fun _ => UInt32.ofNat_toNat) UInt32.toNat_lt fun _ small => UInt32.toNat_ofNat_of_lt' small

theorem readU64Iff {value : UInt64} : readU64 bytes = some (value, rest) ↔ bytes = ofU64 value ++ rest :=
  readWordIff (fun _ => UInt64.ofNat_toNat) UInt64.toNat_lt fun _ small => UInt64.toNat_ofNat_of_lt' small

@[simp] theorem lengthOfU16 (value : UInt16) : (ofU16 value).length = 2 := lengthOfNat ..

@[simp] theorem lengthOfU32 (value : UInt32) : (ofU32 value).length = 4 := lengthOfNat ..

@[simp] theorem lengthOfU64 (value : UInt64) : (ofU64 value).length = 8 := lengthOfNat ..

theorem readCount {inner : Bytes} (small : inner.length < UInt32.size) (rest : Bytes) :
    readNat 4 (ofNat 4 inner.length ++ (inner ++ rest)) = some (inner.length, inner ++ rest) :=
  readNatIff.mpr ⟨small, rfl⟩

end Bytes

namespace Text

variable {bytes rest : Bytes} {text : String}

def longest : Nat := 255

def IsShort (text : String) : Prop := (encode text).length ≤ longest

theorem encodeInjective {one other : String} (same : encode one = encode other) : one = other :=
  Option.some.inj ((decodeEncode one).symm.trans (same ▸ decodeEncode other))

theorem decodeIff : decode? bytes = some text ↔ bytes = encode text :=
  ⟨fun decoded => (encodeOfDecode decoded).symm, fun same => same ▸ decodeEncode text⟩

theorem writeShortLength (text : String) : (writeShort text).length = (encode text).length + 1 := rfl

theorem writeLongLength (text : String) : (writeLong text).length = (encode text).length + 4 := by
  simp [writeLong, Nat.add_comm]

theorem scanShortIff : scanShort bytes = .text text rest ↔ IsShort text ∧ bytes = writeShort text ++ rest := by
  constructor
  · intro scanned
    unfold scanShort at scanned
    split at scanned
    · cases scanned
    · split at scanned
      · cases scanned
      · rename_i split
        split at scanned
        · cases scanned
        · rename_i decoded
          cases scanned
          obtain ⟨rfl, sized⟩ := Bytes.splitSome split
          obtain rfl := decodeIff.mp decoded
          constructor
          · rw [IsShort, sized]
            exact Nat.le_of_lt_succ (UInt8.toNat_lt _)
          · rw [writeShort, sized, UInt8.ofNat_toNat]
            rfl
  · rintro ⟨short, rfl⟩
    have small : (encode text).length < UInt8.size := Nat.lt_succ_of_le short
    have count : (UInt8.ofNat (encode text).length).toNat = (encode text).length := UInt8.toNat_ofNat_of_lt' small
    rw [writeShort, List.cons_append, scanShort, count, Bytes.splitAppend]
    simp only [decodeEncode]

theorem readShortIff : readShort bytes = some (text, rest) ↔ IsShort text ∧ bytes = writeShort text ++ rest := by
  rw [← scanShortIff, readShort]
  cases scanShort bytes <;> simp

theorem readLongIff :
    readLong bytes = some (text, rest) ↔ (encode text).length < UInt32.size ∧ bytes = writeLong text ++ rest := by
  simp only [readLong, bind, Option.bind_eq_some_iff, Option.some.injEq, Prod.mk.injEq, Prod.exists, decodeIff,
    Bytes.readNatIff, Bytes.splitIff, writeLong, List.append_assoc]
  constructor
  · rintro ⟨_, _, ⟨small, rfl⟩, _, _, ⟨rfl, rfl⟩, _, rfl, rfl, rfl⟩
    exact ⟨small, rfl⟩
  · rintro ⟨small, rfl⟩
    exact ⟨_, _, ⟨small, rfl⟩, _, _, ⟨rfl, rfl⟩, _, rfl, rfl, rfl⟩

end Text

end AmqpClient
