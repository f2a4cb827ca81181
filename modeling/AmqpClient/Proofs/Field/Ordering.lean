import AmqpClient.Field.Wire
import AmqpClient.Proofs.Bytes

/-! The order of a table's keys. Putting in an entry keeps it, and the entries of a table that has it, put in one
after the other, make up the table. -/
namespace AmqpClient.FieldTable

variable {key other third : String} {value : FieldValue} {table : FieldTable}

def keys (table : FieldTable) : List String := table.toList.map Prod.fst

theorem beforeIrrefl : before key key = false := decide_eq_false (List.lt_irrefl _)

theorem beforeTrans (one : before key other = true) (two : before other third = true) : before key third = true :=
  decide_eq_true (List.lt_trans (of_decide_eq_true one) (of_decide_eq_true two))

theorem beforeElse (differ : key ≠ other) (behind : before key other = false) : before other key = true := by
  refine decide_eq_true (Classical.byContradiction fun ahead => differ ?_)
  exact Text.encodeInjective (List.le_antisymm (List.not_lt.mp ahead) (List.not_lt.mp (of_decide_eq_false behind)))

theorem memInsert : other ∈ (table.insert key value).keys ↔ other = key ∨ other ∈ table.keys := by
  fun_induction insert key value table with
  | case1 => simp [keys, toList]
  | case2 => simp [keys, toList]
  | case3 found old rest differ ahead => simp [keys, toList]
  | case4 found old rest differ behind ih =>
    simp only [keys, toList, List.map_cons, List.mem_cons] at ih ⊢
    rw [ih]
    exact or_left_comm

theorem Ordered.insert (ordered : table.Ordered) (key : String) (value : FieldValue) :
    (table.insert key value).Ordered := by
  fun_induction FieldTable.insert key value table with
  | case1 => exact List.pairwise_singleton ..
  | case2 => exact ordered
  | case3 found old rest differ ahead =>
    refine List.pairwise_cons.mpr ⟨?_, ordered⟩
    exact List.forall_mem_cons.mpr ⟨ahead, fun later member =>
      beforeTrans ahead ((List.pairwise_cons.mp ordered).1 later member)⟩
  | case4 found old rest differ behind ih =>
    obtain ⟨first, later⟩ := List.pairwise_cons.mp ordered
    refine List.pairwise_cons.mpr ⟨fun next member => ?_, ih later⟩
    rcases memInsert.mp member with rfl | member
    · exact beforeElse differ ((Bool.not_eq_true _).mp behind)
    · exact first next member

theorem insertLast (last : ∀ other ∈ table.keys, before other key = true) :
    (table.insert key value).toList = table.toList ++ [(key, value)] := by
  fun_induction insert key value table with
  | case1 => rfl
  | case2 =>
    have same := last _ List.mem_cons_self
    rw [beforeIrrefl] at same
    contradiction
  | case3 found old rest differ ahead =>
    have around := beforeTrans (last _ List.mem_cons_self) ahead
    rw [beforeIrrefl] at around
    contradiction
  | case4 found old rest differ behind ih =>
    rw [toList, toList, ih fun other member => last other (List.mem_cons_of_mem _ member), List.cons_append]

theorem toListInjective : {one other : FieldTable} → one.toList = other.toList → one = other
  | nil, nil, _ => rfl
  | nil, cons .., same => by cases same
  | cons .., nil, same => by cases same
  | cons key value rest, cons other found more, same => by
    obtain ⟨entry, later⟩ := List.cons.inj same
    cases entry
    rw [toListInjective later]

theorem insertAllLast (entries : List (String × FieldValue)) (table : FieldTable)
    (ordered : ((table.toList ++ entries).map Prod.fst).Pairwise fun a b => before a b = true) :
    (entries.foldl (fun table entry => table.insert entry.1 entry.2) table).toList = table.toList ++ entries := by
  induction entries generalizing table with
  | nil => exact (List.append_nil _).symm
  | cons entry rest ih =>
    have last : ∀ other ∈ table.keys, before other entry.1 = true := fun other member => by
      rw [List.map_append] at ordered
      exact (List.pairwise_append.mp ordered).2.2 other member _ (List.mem_cons_self ..)
    have inserted : (table.insert entry.1 entry.2).toList = _ := insertLast last
    have whole : (table.insert entry.1 entry.2).toList ++ rest = table.toList ++ entry :: rest := by
      rw [inserted, List.append_assoc, List.singleton_append]
    rw [List.foldl_cons, ih _ (whole ▸ ordered), whole]

theorem ofListToList (ordered : table.Ordered) : ofList table.toList = table :=
  toListInjective (insertAllLast table.toList nil ordered)

end AmqpClient.FieldTable
