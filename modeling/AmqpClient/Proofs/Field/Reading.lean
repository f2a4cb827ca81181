import AmqpClient.Proofs.Field.Ordering

/-! Field values that are read back. What is read has ordered tables with short keys, is written in no more bytes
than it was read from, and is read again from what it is written to. -/
namespace AmqpClient

mutual
def FieldValue.Every (about : List String → Prop) : FieldValue → Prop
  | .array items => items.Every about
  | .table entries => about entries.keys ∧ entries.Every about
  | _ => True
def FieldArray.Every (about : List String → Prop) : FieldArray → Prop
  | .nil => True
  | .cons item rest => item.Every about ∧ rest.Every about
def FieldTable.Every (about : List String → Prop) : FieldTable → Prop
  | .nil => True
  | .cons _ value rest => value.Every about ∧ rest.Every about
end

def FieldTable.Throughout (about : List String → Prop) (table : FieldTable) : Prop :=
  about table.keys ∧ table.Every about

def KeysOrdered (keys : List String) : Prop := keys.Pairwise fun a b => FieldTable.before a b = true

def KeysShort (keys : List String) : Prop := ∀ key ∈ keys, Text.IsShort key

def KeysSound (keys : List String) : Prop := KeysOrdered keys ∧ KeysShort keys

mutual
theorem FieldValue.everyAnd (one other : List String → Prop) (value : FieldValue) :
    value.Every (fun keys => one keys ∧ other keys) ↔ value.Every one ∧ value.Every other := by
  cases value with
  | array items => exact FieldArray.everyAnd one other items
  | table entries =>
    simp only [FieldValue.Every, FieldTable.everyAnd one other entries]
    exact and_and_and_comm
  | _ => exact and_self_iff.symm
theorem FieldArray.everyAnd (one other : List String → Prop) : (items : FieldArray) →
    (items.Every (fun keys => one keys ∧ other keys) ↔ items.Every one ∧ items.Every other)
  | .nil => and_self_iff.symm
  | .cons item rest => by
    simp only [FieldArray.Every, FieldValue.everyAnd one other item, FieldArray.everyAnd one other rest]
    exact and_and_and_comm
theorem FieldTable.everyAnd (one other : List String → Prop) : (table : FieldTable) →
    (table.Every (fun keys => one keys ∧ other keys) ↔ table.Every one ∧ table.Every other)
  | .nil => and_self_iff.symm
  | .cons _ value rest => by
    simp only [FieldTable.Every, FieldValue.everyAnd one other value, FieldTable.everyAnd one other rest]
    exact and_and_and_comm
end

theorem FieldTable.soundIff {table : FieldTable} :
    table.Throughout KeysSound ↔ table.Throughout KeysOrdered ∧ table.Throughout KeysShort :=
  (and_congr Iff.rfl (FieldTable.everyAnd KeysOrdered KeysShort table)).trans and_and_and_comm

namespace FieldValue

variable {bytes rest : Bytes} {type : UInt8} {value : FieldValue}

def IsPlain : FieldValue → Prop
  | .array _ | .table _ => False
  | _ => True

theorem IsPlain.every (plain : value.IsPlain) (about : List String → Prop) : value.Every about := by
  cases value <;> trivial

theorem readPlainRead (read : readPlain type bytes = some (value, rest)) :
    value.IsPlain ∧ value.write.length + rest.length = bytes.length + 1 := by
  unfold readPlain at read
  split at read <;>
    simp only [bind, Option.bind_eq_some_iff, Option.some.injEq, Prod.mk.injEq, Prod.exists, reduceCtorEq,
      Bytes.readU8Iff, Bytes.readU16Iff, Bytes.readU32Iff, Bytes.readU64Iff, Bytes.readNatIff, Bytes.splitIff,
      Text.readLongIff] at read
  case h_13 =>
    obtain ⟨scale, _, rfl, digits, _, rfl, rfl, rfl⟩ := read
    exact ⟨trivial, by simp [write, Bytes.ofU8]; omega⟩
  case h_14 =>
    obtain ⟨text, _, ⟨_, rfl⟩, rfl, rfl⟩ := read
    exact ⟨trivial, by simp [write]; omega⟩
  case h_16 =>
    obtain ⟨_, _, ⟨_, rfl⟩, inner, _, ⟨rfl, rfl⟩, rfl, rfl⟩ := read
    exact ⟨trivial, by simp [write]; omega⟩
  case h_17 =>
    obtain ⟨rfl, rfl⟩ := read
    exact ⟨trivial, Nat.add_comm ..⟩
  all_goals
    obtain ⟨number, _, rfl, rfl, rfl⟩ := read
    exact ⟨trivial, by simp [write, Bytes.ofU8]; omega⟩

theorem readPlainWritten (plain : value.IsPlain) (fits : value.write.length < UInt32.size) :
    ∃ type content, value.write = type :: content ∧ type ≠ 0x41 ∧ type ≠ 0x46 ∧
      ∀ rest, readPlain type (content ++ rest) = some (value, rest) := by
  cases value with
  | array => cases plain
  | table => cases plain
  | boolean value =>
    refine ⟨_, _, rfl, by decide, by decide, fun rest => ?_⟩
    cases value <;> rfl
  | text value =>
    refine ⟨_, _, rfl, by decide, by decide, fun rest => ?_⟩
    have small : (Text.encode value).length < UInt32.size := by
      simp only [write, List.length_cons, Text.writeLongLength] at fits
      omega
    simp [readPlain, Text.readLongIff.mpr ⟨small, rfl⟩]
  | bytes value =>
    refine ⟨_, _, rfl, by decide, by decide, fun rest => ?_⟩
    have small : value.length < UInt32.size := by
      simp only [write, List.length_cons, List.length_append] at fits
      omega
    simp [readPlain, Bytes.readCount small, Bytes.splitAppend]
  | _ =>
    refine ⟨_, _, rfl, by decide, by decide, fun rest => ?_⟩
    simp [readPlain, Bytes.readU8, Bytes.readU16Iff.mpr rfl, Bytes.readU32Iff.mpr rfl, Bytes.readU64Iff.mpr rfl]

end FieldValue

namespace FieldTable

variable {about : List String → Prop} {key : String} {value : FieldValue} {table : FieldTable}

theorem nilSound : nil.Throughout KeysSound := ⟨⟨.nil, nofun⟩, trivial⟩

theorem insertEvery (every : table.Every about) (its : value.Every about) : (table.insert key value).Every about := by
  fun_induction insert key value table with
  | case1 => exact ⟨its, trivial⟩
  | case2 => exact ⟨its, every.2⟩
  | case3 => exact ⟨its, every⟩
  | case4 _ _ _ _ _ ih => exact ⟨every.1, ih every.2⟩

theorem insertSound (sound : table.Throughout KeysSound) (short : Text.IsShort key) (its : value.Every KeysSound) :
    (table.insert key value).Throughout KeysSound := by
  refine ⟨⟨Ordered.insert sound.1.1 key value, fun other member => ?_⟩, insertEvery sound.2 its⟩
  rcases memInsert.mp member with rfl | before
  · exact short
  · exact sound.1.2 other before

theorem insertLength (key : String) (value : FieldValue) (table : FieldTable) :
    (table.insert key value).writeEntries.length ≤
      table.writeEntries.length + ((Text.writeShort key).length + value.write.length) := by
  fun_induction insert key value table with
  | case1 | case2 | case3 => simp only [writeEntries, List.length_append, List.length_nil]; omega
  | case4 _ _ _ _ _ ih => simp only [writeEntries, List.length_append]; omega

end FieldTable

/-! Reading loses bytes, but adds none, and the keys that it takes are short and in order. -/

def FieldValue.ReadsSound (depth : Nat) : Prop :=
  ∀ type bytes value rest, FieldValue.readWithin depth type bytes = some (value, rest) →
    value.Every KeysSound ∧ value.write.length + rest.length ≤ bytes.length + 1

def FieldArray.ReadsSound (depth : Nat) : Prop :=
  ∀ bytes, (FieldArray.readWithin depth bytes).Every KeysSound ∧
    (FieldArray.readWithin depth bytes).writeItems.length ≤ bytes.length

def FieldTable.ReadsSound (depth : Nat) : Prop :=
  ∀ bytes table, table.Throughout KeysSound → (FieldTable.readWithin depth bytes table).Throughout KeysSound ∧
    (FieldTable.readWithin depth bytes table).writeEntries.length ≤ table.writeEntries.length + bytes.length

section Deeper

variable {depth : Nat}

theorem FieldValue.readsDeeper (arrays : FieldArray.ReadsSound depth) (tables : FieldTable.ReadsSound depth) :
    FieldValue.ReadsSound (depth + 1) := by
  intro type bytes value rest read
  unfold FieldValue.readWithin at read
  split at read
  · simp only [bind, Option.bind_eq_some_iff, Option.some.injEq, Prod.mk.injEq, Prod.exists, Bytes.readNatIff,
      Bytes.splitIff] at read
    obtain ⟨_, _, ⟨_, rfl⟩, inner, _, ⟨rfl, rfl⟩, rfl, rfl⟩ := read
    obtain ⟨every, fewer⟩ := arrays inner
    exact ⟨every, by simp [FieldValue.write]; omega⟩
  · split at read
    · simp only [bind, Option.bind_eq_some_iff, Option.some.injEq, Prod.mk.injEq, Prod.exists, Bytes.readNatIff,
        Bytes.splitIff] at read
      obtain ⟨_, _, ⟨_, rfl⟩, inner, _, ⟨rfl, rfl⟩, rfl, rfl⟩ := read
      obtain ⟨every, fewer⟩ := tables inner .nil FieldTable.nilSound
      have nothing : FieldTable.nil.writeEntries.length = 0 := rfl
      exact ⟨every, by simp [FieldValue.write]; omega⟩
    · obtain ⟨plain, exact⟩ := FieldValue.readPlainRead read
      exact ⟨plain.every _, Nat.le_of_eq exact⟩

theorem FieldArray.readsDeeper (values : FieldValue.ReadsSound depth) (arrays : FieldArray.ReadsSound depth) :
    FieldArray.ReadsSound (depth + 1) := by
  intro bytes
  cases bytes with
  | nil => exact ⟨trivial, Nat.zero_le _⟩
  | cons type behind =>
    unfold FieldArray.readWithin
    split
    · exact ⟨trivial, Nat.zero_le _⟩
    · rename_i item rest read
      obtain ⟨its, fewer⟩ := values _ _ _ _ read
      obtain ⟨every, further⟩ := arrays rest
      refine ⟨⟨its, every⟩, ?_⟩
      rw [FieldArray.writeItems, List.length_append, List.length_cons]
      omega

theorem FieldTable.readsDeeper (values : FieldValue.ReadsSound depth) (tables : FieldTable.ReadsSound depth) :
    FieldTable.ReadsSound (depth + 1) := by
  intro bytes table sound
  unfold FieldTable.readWithin
  split
  · exact ⟨sound, Nat.le_add_right ..⟩
  · exact ⟨sound, Nat.le_add_right ..⟩
  · rename_i key type behind known
    obtain ⟨short, rfl⟩ := Text.readShortIff.mp known
    split
    · exact ⟨sound, Nat.le_add_right ..⟩
    · rename_i value rest read
      obtain ⟨its, fewer⟩ := values _ _ _ _ read
      obtain ⟨sounder, further⟩ := tables rest _ (FieldTable.insertSound sound short its)
      have put := FieldTable.insertLength key value table
      refine ⟨sounder, ?_⟩
      rw [List.length_append, List.length_cons]
      omega

end Deeper

theorem FieldValue.readsSound (depth : Nat) :
    FieldValue.ReadsSound depth ∧ FieldArray.ReadsSound depth ∧ FieldTable.ReadsSound depth := by
  induction depth with
  | zero =>
    refine ⟨fun _ _ _ _ read => ?_, fun _ => ⟨trivial, Nat.zero_le _⟩, fun _ _ sound =>
      ⟨sound, Nat.le_add_right ..⟩⟩
    cases read
  | succ depth ih =>
    obtain ⟨values, arrays, tables⟩ := ih
    exact ⟨FieldValue.readsDeeper arrays tables, FieldArray.readsDeeper values arrays, FieldTable.readsDeeper values tables⟩

theorem FieldTable.readSound {bytes rest : Bytes} {table : FieldTable} (read : FieldTable.read bytes = some (table, rest)) :
    table.Throughout KeysSound ∧ table.write.length + rest.length ≤ bytes.length := by
  simp only [FieldTable.read, bind, Option.bind_eq_some_iff, Option.some.injEq, Prod.mk.injEq, Prod.exists,
    Bytes.readNatIff, Bytes.splitIff] at read
  obtain ⟨_, _, ⟨_, rfl⟩, inner, _, ⟨rfl, rfl⟩, rfl, rfl⟩ := read
  obtain ⟨sound, fewer⟩ := (FieldValue.readsSound (inner.length + 2)).2.2 inner .nil nilSound
  have nothing : FieldTable.nil.writeEntries.length = 0 := rfl
  exact ⟨sound, by simp [FieldTable.write, FieldTable.readEntries]; omega⟩

/-! Reading what was written -/

theorem FieldValue.writePositive (value : FieldValue) : 0 < value.write.length := by
  cases value <;> simp [FieldValue.write]

theorem FieldValue.readInner {inner : Bytes} (small : inner.length < UInt32.size) (depth : Nat) (rest : Bytes) :
    FieldValue.readWithin (depth + 1) 0x41 (Bytes.ofNat 4 inner.length ++ inner ++ rest) =
        some (.array (FieldArray.readWithin depth inner), rest) ∧
      FieldValue.readWithin (depth + 1) 0x46 (Bytes.ofNat 4 inner.length ++ inner ++ rest) =
        some (.table (FieldTable.readWithin depth inner .nil), rest) := by
  rw [List.append_assoc]
  constructor <;> simp [FieldValue.readWithin, Bytes.readCount small, Bytes.splitAppend]

-- A value or an entry takes one step of the depth and at least one byte.
mutual
theorem FieldValue.readWritten (value : FieldValue) (depth : Nat) (enough : value.write.length ≤ depth)
    (fits : value.write.length < UInt32.size) (sound : value.Every KeysSound) :
    ∃ type content, value.write = type :: content ∧
      ∀ rest, FieldValue.readWithin depth type (content ++ rest) = some (value, rest) := by
  obtain ⟨depth, rfl⟩ := Nat.exists_eq_succ_of_ne_zero (Nat.ne_of_gt (Nat.lt_of_lt_of_le value.writePositive enough))
  cases value with
  | array items =>
    have length : (FieldValue.array items).write.length = items.writeItems.length + 5 := by
      simp [FieldValue.write]
      omega
    have read := FieldArray.readWritten items depth (by omega) (by omega) sound
    refine ⟨_, _, rfl, fun rest => ?_⟩
    rw [(FieldValue.readInner (by omega) depth rest).1, read]
  | table entries =>
    have length : (FieldValue.table entries).write.length = entries.writeEntries.length + 5 := by
      simp [FieldValue.write]
      omega
    have read := FieldTable.readWritten entries depth (by omega) (by omega) sound.1.2 sound.2 .nil
    have whole : _ = entries := FieldTable.ofListToList sound.1.1
    refine ⟨_, _, rfl, fun rest => ?_⟩
    rw [(FieldValue.readInner (by omega) depth rest).2, read]
    exact congrArg (fun table => some (FieldValue.table table, rest)) whole
  | _ =>
    obtain ⟨type, content, written, noArray, noTable, read⟩ := FieldValue.readPlainWritten (by trivial) fits
    exact ⟨type, content, written, fun rest => by rw [FieldValue.readWithin, if_neg noArray, if_neg noTable, read]⟩
theorem FieldArray.readWritten (items : FieldArray) (depth : Nat) (enough : items.writeItems.length < depth)
    (fits : items.writeItems.length < UInt32.size) (sound : items.Every KeysSound) :
    FieldArray.readWithin depth items.writeItems = items := by
  obtain ⟨depth, rfl⟩ := Nat.exists_eq_succ_of_ne_zero (Nat.ne_of_gt (Nat.zero_lt_of_lt enough))
  cases items with
  | nil => rfl
  | cons item rest =>
    rw [FieldArray.writeItems, List.length_append] at enough fits
    have positive := item.writePositive
    obtain ⟨type, content, written, read⟩ := FieldValue.readWritten item depth (by omega) (by omega) sound.1
    have further := FieldArray.readWritten rest depth (by omega) (by omega) sound.2
    rw [FieldArray.writeItems, written, List.cons_append, FieldArray.readWithin, read]
    dsimp only
    rw [further]
theorem FieldTable.readWritten (entries : FieldTable) (depth : Nat) (enough : entries.writeEntries.length < depth)
    (fits : entries.writeEntries.length < UInt32.size) (short : KeysShort entries.keys)
    (sound : entries.Every KeysSound) (table : FieldTable) :
    FieldTable.readWithin depth entries.writeEntries table =
      entries.toList.foldl (fun table entry => table.insert entry.1 entry.2) table := by
  obtain ⟨depth, rfl⟩ := Nat.exists_eq_succ_of_ne_zero (Nat.ne_of_gt (Nat.zero_lt_of_lt enough))
  cases entries with
  | nil => rfl
  | cons key value rest =>
    obtain ⟨brief, later⟩ := List.forall_mem_cons.mp short
    rw [FieldTable.writeEntries, List.length_append, List.length_append, Text.writeShortLength] at enough fits
    have positive := value.writePositive
    obtain ⟨type, content, written, read⟩ := FieldValue.readWritten value depth (by omega) (by omega) sound.1
    have further := FieldTable.readWritten rest depth (by omega) (by omega) later sound.2
    have known : Text.readShort (Text.writeShort key ++ (type :: (content ++ rest.writeEntries))) = _ :=
      Text.readShortIff.mpr ⟨brief, rfl⟩
    rw [FieldTable.writeEntries, written, List.cons_append, FieldTable.readWithin, known]
    dsimp only
    rw [read]
    exact further _
end

theorem FieldTable.writeLength (table : FieldTable) : table.write.length = table.writeEntries.length + 4 := by
  simp [FieldTable.write, Nat.add_comm]

theorem FieldTable.readWriteOf {table : FieldTable} (fits : table.write.length < UInt32.size)
    (sound : table.Throughout KeysSound) (rest : Bytes) : FieldTable.read (table.write ++ rest) = some (table, rest) := by
  rw [FieldTable.writeLength] at fits
  have read := FieldTable.readWritten table _ (Nat.lt_add_of_pos_right (Nat.two_pos)) (by omega) sound.1.2 sound.2 .nil
  have whole : _ = table := FieldTable.ofListToList sound.1.1
  have small : table.writeEntries.length < UInt32.size := by omega
  simp only [FieldTable.read, FieldTable.write, List.append_assoc, bind, Bytes.readCount small, Option.bind_some,
    Bytes.splitAppend, FieldTable.readEntries, read]
  exact congrArg (fun table => some (table, rest)) whole

end AmqpClient
