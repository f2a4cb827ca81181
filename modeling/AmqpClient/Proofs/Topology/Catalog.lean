import AmqpClient.Topology.Catalog
import Mathlib.Data.List.Nodup

/-! Catalogs hold each key once, whatever is recorded, taken out or put in another's place; and a record
under a new key takes the old one's place exactly. -/
namespace AmqpClient.Catalog

variable {α : Type} [Keyed α] {catalog : Catalog α} {item : α} {key old : String}

theorem containsIff : catalog.contains key = true ↔ key ∈ catalog.keys := by
  simp [contains, keys]

theorem findSome (found : catalog.find? key = some item) : item ∈ catalog.items ∧ Keyed.key item = key :=
  ⟨List.mem_of_find?_eq_some found, by simpa using List.find?_some found⟩

theorem findKnown (known : key ∈ catalog.keys) : ∃ item, catalog.find? key = some item := by
  obtain ⟨item, member, rfl⟩ := List.mem_map.mp known
  exact Option.isSome_iff_exists.mp (List.find?_isSome.mpr ⟨item, member, by simp⟩)

theorem findMissing (missing : key ∉ catalog.keys) : catalog.find? key = none :=
  List.find?_eq_none.mpr fun item member same => missing (List.mem_map.mpr ⟨item, member, by simpa using same⟩)

theorem findUnique {other : α} (distinct : catalog.keys.Nodup) (found : catalog.find? key = some item)
    (member : other ∈ catalog.items) (same : Keyed.key other = key) : other = item := by
  obtain ⟨inside, itsKey⟩ := findSome found
  exact List.inj_on_of_nodup_map distinct member inside (same.trans itsKey.symm)

theorem recordKeys (catalog : Catalog α) (item : α) :
    (catalog.record item).keys
      = if Keyed.key item ∈ catalog.keys then catalog.keys else catalog.keys ++ [Keyed.key item] := by
  unfold record
  by_cases known : Keyed.key item ∈ catalog.keys
  · rw [if_pos (containsIff.mpr known), if_pos known]
    simp only [keys, List.map_map]
    refine List.map_congr_left fun other _ => ?_
    by_cases same : Keyed.key other = Keyed.key item <;> simp [same]
  · rw [if_neg (fun contained => known (containsIff.mp contained)), if_neg known]
    simp [keys]

theorem recordNodup (distinct : catalog.keys.Nodup) (item : α) : (catalog.record item).keys.Nodup := by
  rw [recordKeys]
  split
  · exact distinct
  · rename_i fresh
    exact List.nodup_append'.mpr ⟨distinct, List.nodup_singleton _, by simpa using fresh⟩

theorem recordMember : key ∈ (catalog.record item).keys ↔ key = Keyed.key item ∨ key ∈ catalog.keys := by
  rw [recordKeys]
  split
  · rename_i known
    exact ⟨.inr, fun either => either.elim (fun same => same ▸ known) id⟩
  · rw [List.mem_append, List.mem_singleton, or_comm]

theorem recordItem {other : α} (member : other ∈ (catalog.record item).items) :
    other = item ∨ other ∈ catalog.items := by
  unfold record at member
  split at member
  · obtain ⟨before, inside, rfl⟩ := List.mem_map.mp member
    split
    · exact .inl rfl
    · exact .inr inside
  · exact (List.mem_append.mp member).symm.imp_left List.mem_singleton.mp

theorem supersedeItems {front : List α} {last : α} (split : (catalog.record item).items = front ++ [last]) :
    (catalog.supersede old item).items
      = front.map fun other => if Keyed.key other == old then last else other := by
  simp [supersede, split]

theorem supersedeFresh (fresh : Keyed.key item ∉ catalog.keys) :
    (catalog.supersede old item).items
      = catalog.items.map fun other => if Keyed.key other == old then item else other := by
  refine supersedeItems ?_
  rw [record, if_neg fun contained => fresh (containsIff.mp contained)]

theorem recordLength (catalog : Catalog α) (item : α) :
    (catalog.record item).items.length
      = if Keyed.key item ∈ catalog.keys then catalog.items.length else catalog.items.length + 1 := by
  have length : (catalog.record item).items.length = (catalog.record item).keys.length := (List.length_map _).symm
  rw [length, recordKeys]
  split <;> simp [keys]

theorem supersedeLength (catalog : Catalog α) (old : String) (item : α) :
    (catalog.supersede old item).items.length
      = if Keyed.key item ∈ catalog.keys then catalog.items.length - 1 else catalog.items.length := by
  have one : (catalog.supersede old item).items.length = (catalog.record item).items.length - 1 := by
    rcases List.eq_nil_or_concat' (catalog.record item).items with empty | ⟨front, last, split⟩
    · simp [supersede, empty]
    · simp [supersedeItems split, split]
  rw [one, recordLength]
  split
  · rfl
  · exact Nat.add_sub_cancel ..

theorem supersedeItem {other : α} (member : other ∈ (catalog.supersede old item).items) :
    other = item ∨ other ∈ catalog.items := by
  rcases List.eq_nil_or_concat' (catalog.record item).items with empty | ⟨front, last, split⟩
  · simp [supersede, empty] at member
  · rw [supersedeItems split] at member
    obtain ⟨before, inside, rfl⟩ := List.mem_map.mp member
    refine recordItem ?_
    rw [split]
    split
    · exact List.mem_append_right _ (List.mem_singleton_self _)
    · exact List.mem_append_left _ inside

theorem supersedeKey (member : key ∈ (catalog.supersede old item).keys) :
    key = Keyed.key item ∨ key ∈ catalog.keys := by
  obtain ⟨other, inside, rfl⟩ := List.mem_map.mp member
  rcases supersedeItem inside with rfl | before
  · exact .inl rfl
  · exact .inr (List.mem_map_of_mem before)

theorem supersedeKeys (old : String) {front : List α} {last : α}
    (split : (catalog.record item).items = front ++ [last]) :
    (catalog.record item).keys = front.map Keyed.key ++ [Keyed.key last] ∧
      (catalog.supersede old item).keys = (front.map Keyed.key).map
        fun key => if key = old then Keyed.key last else key := by
  refine ⟨by simp [keys, split], ?_⟩
  simp only [keys, supersedeItems split, List.map_map]
  refine List.map_congr_left fun other _ => ?_
  by_cases same : Keyed.key other = old <;> simp [same]

theorem supersedeNodup (distinct : catalog.keys.Nodup) (old : String) (item : α) :
    (catalog.supersede old item).keys.Nodup := by
  have recorded := recordNodup distinct item
  rcases List.eq_nil_or_concat' (catalog.record item).items with empty | ⟨front, last, split⟩
  · simp [supersede, empty, keys]
  · obtain ⟨before, after⟩ := supersedeKeys old split
    rw [before] at recorded
    obtain ⟨distinct, _, apart⟩ := List.nodup_append'.mp recorded
    have absent : Keyed.key last ∉ front.map Keyed.key := fun member => apart member (List.mem_singleton_self _)
    rw [after]
    refine List.Nodup.map_on (fun one first two second same => ?_) distinct
    by_cases left : one = old <;> by_cases right : two = old
    · exact left.trans right.symm
    · rw [if_pos left, if_neg right] at same
      exact absurd (same ▸ second) absent
    · rw [if_neg left, if_pos right] at same
      exact absurd (same ▸ first) absent
    · rwa [if_neg left, if_neg right] at same

theorem supersedeGone (distinct : catalog.keys.Nodup) (old : String) (item : α) :
    old ∉ (catalog.supersede old item).keys := by
  have recorded := recordNodup distinct item
  rcases List.eq_nil_or_concat' (catalog.record item).items with empty | ⟨front, last, split⟩
  · simp [supersede, empty, keys]
  · obtain ⟨before, after⟩ := supersedeKeys old split
    rw [before] at recorded
    obtain ⟨_, _, apart⟩ := List.nodup_append'.mp recorded
    rw [after]
    intro member
    obtain ⟨other, inside, same⟩ := List.mem_map.mp member
    by_cases itself : other = old
    · rw [if_pos itself] at same
      exact apart inside (List.mem_singleton.mpr (itself.trans same.symm))
    · rw [if_neg itself] at same
      exact itself same

theorem supersedeMember (distinct : catalog.keys.Nodup) (known : old ∈ catalog.keys)
    (other : Keyed.key item ≠ old) : key ∈ (catalog.supersede old item).keys ↔
      key = Keyed.key item ∨ key ∈ catalog.keys ∧ key ≠ old := by
  constructor
  · intro member
    have stays : key ≠ old := fun same => supersedeGone distinct old item (same ▸ member)
    exact (supersedeKey member).imp_right fun before => ⟨before, stays⟩
  · intro either
    have stays : key ≠ old := either.elim (fun same => same ▸ other) And.right
    have recorded : key ∈ (catalog.record item).keys := recordMember.mpr (either.imp_right And.left)
    have listed : old ∈ (catalog.record item).keys := recordMember.mpr (.inr known)
    rcases List.eq_nil_or_concat' (catalog.record item).items with empty | ⟨front, last, split⟩
    · simp [keys, empty] at recorded
    · obtain ⟨before, after⟩ := supersedeKeys old split
      rw [before] at recorded listed
      rw [after]
      rcases List.mem_append.mp recorded with inside | ending
      · exact List.mem_map.mpr ⟨key, inside, if_neg stays⟩
      · obtain rfl := List.mem_singleton.mp ending
        have inside := (List.mem_append.mp listed).resolve_right fun last => stays (List.mem_singleton.mp last).symm
        exact List.mem_map.mpr ⟨old, inside, if_pos rfl⟩

theorem findFiltered (catalog : Catalog α) (stays : String → Bool) (key : String) :
    (Catalog.mk (catalog.items.filter fun item => stays (Keyed.key item))).find? key
      = if stays key then catalog.find? key else none := by
  unfold find?
  rw [List.find?_filter]
  cases kept : stays key with
  | true =>
    refine congrArg (catalog.items.find? ·) (funext fun item => ?_)
    by_cases same : Keyed.key item = key <;> simp [same, kept]
  | false =>
    refine List.find?_eq_none.mpr fun item _ => ?_
    by_cases same : Keyed.key item = key <;> simp [same, kept]

theorem eraseSublist (catalog : Catalog α) (key : String) : (catalog.erase key).items.Sublist catalog.items :=
  List.filter_sublist

theorem eraseMember {other : String} : other ∈ (catalog.erase key).keys ↔ other ∈ catalog.keys ∧ other ≠ key := by
  simp only [keys, erase, List.mem_map, List.mem_filter, bne_iff_ne]
  constructor
  · rintro ⟨item, ⟨inside, stays⟩, rfl⟩
    exact ⟨⟨item, inside, rfl⟩, stays⟩
  · rintro ⟨⟨item, inside, rfl⟩, stays⟩
    exact ⟨item, ⟨inside, stays⟩, rfl⟩

theorem eraseItem [DecidableEq α] (distinct : catalog.keys.Nodup) (member : item ∈ catalog.items) :
    (catalog.erase (Keyed.key item)).items = catalog.items.erase item := by
  have whole := List.Nodup.of_map _ distinct
  rw [whole.erase_eq_filter, erase]
  refine List.filter_congr fun other inside => ?_
  rw [Bool.eq_iff_iff, bne_iff_ne, bne_iff_ne]
  exact not_congr ⟨fun same => List.inj_on_of_nodup_map distinct inside member same, fun same => same ▸ rfl⟩

theorem erasePerm (distinct : catalog.keys.Nodup) (found : catalog.find? key = some item) :
    (item :: (catalog.erase key).items).Perm catalog.items := by
  obtain ⟨member, rfl⟩ := findSome found
  have whole := List.Nodup.of_map _ distinct
  have once : (item :: (catalog.erase (Keyed.key item)).items).Nodup :=
    List.nodup_cons.mpr ⟨by simp [erase], whole.filter _⟩
  refine (List.perm_ext_iff_of_nodup once whole).mpr fun other => ?_
  simp only [erase, List.mem_cons, List.mem_filter, bne_iff_ne]
  constructor
  · rintro (rfl | ⟨inside, _⟩)
    · exact member
    · exact inside
  · intro inside
    by_cases same : Keyed.key other = Keyed.key item
    · exact .inl (findUnique distinct found inside same)
    · exact .inr ⟨inside, same⟩

end AmqpClient.Catalog
