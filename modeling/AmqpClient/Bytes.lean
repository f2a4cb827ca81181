/-! Byte strings, the big-endian numbers in them and their hexadecimal digits. `toNatOfNat` and `ofNatToNat` say that
a number and its bytes determine each other once the width is fixed. -/
namespace AmqpClient

abbrev Bytes := List UInt8

namespace Bytes

def ofNat : (width : Nat) → Nat → Bytes
  | 0, _ => []
  | width + 1, value => ofNat width (value / 256) ++ [UInt8.ofNat value]

def toNat (bytes : Bytes) : Nat := bytes.foldl (fun value b => value * 256 + b.toNat) 0

def split? (count : Nat) (bytes : Bytes) : Option (Bytes × Bytes) :=
  let front := bytes.take count
  if front.length = count then some (front, bytes.drop count) else none

def readNat (width : Nat) (bytes : Bytes) : Option (Nat × Bytes) := do
  let (front, rest) ← split? width bytes
  some (front.toNat, rest)

/- As many bytes as one allocation can have. That there is memory for them is taken for granted. -/
def longest : Nat := Nat.pow 2 63 - 1

def overwrite (place : Nat) (part bytes : Bytes) : Bytes :=
  bytes.take place ++ (part ++ bytes.drop (place + part.length))

def ofU8 (value : UInt8) : Bytes := [value]
def ofU16 (value : UInt16) : Bytes := ofNat 2 value.toNat
def ofU32 (value : UInt32) : Bytes := ofNat 4 value.toNat
def ofU64 (value : UInt64) : Bytes := ofNat 8 value.toNat

def readU8 : Bytes → Option (UInt8 × Bytes)
  | [] => none
  | b :: rest => some (b, rest)

def readU16 (bytes : Bytes) : Option (UInt16 × Bytes) := do
  let (value, rest) ← readNat 2 bytes
  some (UInt16.ofNat value, rest)

def readU32 (bytes : Bytes) : Option (UInt32 × Bytes) := do
  let (value, rest) ← readNat 4 bytes
  some (UInt32.ofNat value, rest)

def readU64 (bytes : Bytes) : Option (UInt64 × Bytes) := do
  let (value, rest) ← readNat 8 bytes
  some (UInt64.ofNat value, rest)

@[simp] theorem lengthOfNat (width value : Nat) : (ofNat width value).length = width := by
  induction width generalizing value with
  | zero => rfl
  | succ width ih => simp [ofNat, ih]

theorem toNatSnoc (bytes : Bytes) (b : UInt8) :
    toNat (bytes ++ [b]) = toNat bytes * 256 + b.toNat := by
  simp [toNat, List.foldl_append]

theorem toNatOfNat (width value : Nat) : toNat (ofNat width value) = value % Nat.pow 256 width := by
  induction width generalizing value with
  | zero => exact (Nat.mod_one value).symm
  | succ width ih =>
    have low : (UInt8.ofNat value).toNat = value % 256 := by simp
    have split := Nat.mod_mul (x := value) (a := 256) (b := Nat.pow 256 width)
    have more : Nat.pow 256 (width + 1) = 256 * Nat.pow 256 width := Nat.mul_comm ..
    rw [ofNat, toNatSnoc, ih, low, more, split]
    omega

theorem ofNatToNat (width : Nat) (bytes : Bytes) (same : bytes.length = width) :
    ofNat width (toNat bytes) = bytes := by
  induction width generalizing bytes with
  | zero => simp [ofNat, List.length_eq_zero_iff.mp same]
  | succ width ih =>
    obtain ⟨front, last, rfl⟩ : ∃ front last, bytes = front ++ [last] :=
      ⟨bytes.dropLast, bytes.getLast (by intro empty; simp [empty] at same),
        (List.dropLast_concat_getLast _).symm⟩
    have short : front.length = width := by simpa using same
    have bound := last.toNat_lt
    have high : (toNat front * 256 + last.toNat) / 256 = toNat front := by omega
    have low : UInt8.ofNat (toNat front * 256 + last.toNat) = last := by
      apply UInt8.toNat_inj.mp
      rw [UInt8.toNat_ofNat']
      omega
    rw [ofNat, toNatSnoc, high, ih front short, low]

theorem toNatLt (bytes : Bytes) : toNat bytes < Nat.pow 256 bytes.length := by
  have same := congrArg toNat (ofNatToNat bytes.length bytes rfl)
  rw [toNatOfNat] at same
  rw [← same]
  exact Nat.mod_lt _ (Nat.pow_pos (by decide))

theorem splitAppend (front rest : Bytes) : split? front.length (front ++ rest) = some (front, rest) := by
  simp [split?]

theorem splitSome {count : Nat} {bytes front rest : Bytes} (h : split? count bytes = some (front, rest)) :
    bytes = front ++ rest ∧ front.length = count := by
  simp only [split?] at h
  split at h
  · rename_i enough
    simp only [Option.some.injEq, Prod.mk.injEq] at h
    obtain ⟨rfl, rfl⟩ := h
    exact ⟨(List.take_append_drop count bytes).symm, enough⟩
  · contradiction

def digit (value : Nat) : Char := Char.ofNat (if value < 10 then 48 + value else 87 + value)

def digitValue (c : Char) : Nat :=
  if '0' ≤ c ∧ c ≤ '9' then c.toNat - 48
  else if 'a' ≤ c ∧ c ≤ 'f' then c.toNat - 87
  else if 'A' ≤ c ∧ c ≤ 'F' then c.toNat - 55
  else 0

def toHex (bytes : Bytes) : String :=
  bytes.foldl (fun text byte => (text.push (digit (byte.toNat / 16))).push (digit (byte.toNat % 16))) ""

def ofDigits (collected : Array UInt8) : List Char → Bytes
  | high :: low :: rest =>
    ofDigits (collected.push (UInt8.ofNat (digitValue high * 16 + digitValue low))) rest
  | _ => collected.toList

def ofHex (text : String) : Bytes := ofDigits #[] text.toList

end Bytes

end AmqpClient
