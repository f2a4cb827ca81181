import AmqpClient.Topology.Catalog
import AmqpClient.Proofs.Topology.Renaming

/-! Earlier names and where they lead: what becomes of them when a name is given up for a new one, and when
all that lead to a name are dropped. -/
namespace AmqpClient.Aliases

variable {aliases : Aliases} {name current : String}

def names (aliases : Aliases) : List String := aliases.pairs.map Prod.fst

theorem resolveEither (aliases : Aliases) (name : String) :
    (aliases.resolve name = name ∧ name ∉ aliases.names) ∨ (name, aliases.resolve name) ∈ aliases.pairs := by
  unfold resolve
  cases found : aliases.pairs.find? fun pair => pair.1 == name with
  | none =>
    refine .inl ⟨rfl, fun member => ?_⟩
    obtain ⟨pair, inside, same⟩ := List.mem_map.mp member
    exact absurd same (by simpa using List.find?_eq_none.mp found pair inside)
  | some pair =>
    have same : pair.1 = name := by simpa using List.find?_some found
    exact .inr (same ▸ List.mem_of_find?_eq_some found)

theorem resolveUnknown (unknown : name ∉ aliases.names) : aliases.resolve name = name := by
  rcases aliases.resolveEither name with ⟨same, _⟩ | member
  · exact same
  · exact absurd (List.mem_map_of_mem member) unknown

theorem resolveOf (once : aliases.names.Nodup) (member : (name, current) ∈ aliases.pairs) :
    aliases.resolve name = current := by
  rcases aliases.resolveEither name with ⟨_, unknown⟩ | led
  · exact absurd (List.mem_map_of_mem member) unknown
  · exact congrArg Prod.snd (List.inj_on_of_nodup_map once led member rfl)

theorem keptResolve {kept : Aliases} {keep : String → Bool} (once : aliases.names.Nodup)
    (pairs : kept.pairs = aliases.pairs.filter fun pair => keep pair.2) (name : String) :
    kept.resolve name = if keep (aliases.resolve name) then aliases.resolve name else name := by
  have fewer : kept.names.Sublist aliases.names := by
    unfold names
    rw [pairs]
    exact List.filter_sublist.map _
  rcases aliases.resolveEither name with ⟨same, unknown⟩ | led
  · rw [same, ite_self]
    exact resolveUnknown fun member => unknown (fewer.subset member)
  · split
    · rename_i stays
      refine resolveOf (once.sublist fewer) ?_
      rw [pairs]
      exact List.mem_filter.mpr ⟨led, stays⟩
    · rename_i goes
      refine resolveUnknown fun member => goes ?_
      obtain ⟨pair, inside, rfl⟩ := List.mem_map.mp member
      rw [pairs] at inside
      obtain ⟨before, stays⟩ := List.mem_filter.mp inside
      rwa [resolveOf once before]

theorem forgetResolve (once : aliases.names.Nodup) (current name : String) :
    (aliases.forget current).resolve name
      = if aliases.resolve name = current then name else aliases.resolve name := by
  have kept := @keptResolve aliases (aliases.forget current) (· != current) once rfl name
  by_cases led : aliases.resolve name = current
  · rw [if_pos led]
    exact kept.trans (if_neg (by simp [led]))
  · rw [if_neg led]
    exact kept.trans (if_pos (by simpa using led))

theorem redirectNames (once : aliases.names.Nodup) (old new : String) : (aliases.redirect old new).names.Nodup ∧
    (aliases.redirect old new).names ⊆ old :: aliases.names := by
  have moved : (aliases.pairs.map fun pair => if pair.2 == old then (pair.1, new) else pair).map Prod.fst
      = aliases.names := by
    rw [List.map_map]
    refine List.map_congr_left fun pair _ => ?_
    by_cases led : pair.2 = old <;> simp [led]
  have kept := List.Sublist.map Prod.fst (List.filter_sublist (p := fun pair : String × String => pair.1 != old)
    (l := aliases.pairs.map fun pair => if pair.2 == old then (pair.1, new) else pair))
  rw [moved] at kept
  unfold redirect names
  refine ⟨List.nodup_cons.mpr ⟨fun member => ?_, once.sublist kept⟩, ?_⟩
  · obtain ⟨pair, inside, same⟩ := List.mem_map.mp member
    exact absurd same (by simpa using (List.mem_filter.mp inside).2)
  · exact List.cons_subset_cons old kept.subset

theorem redirectResolve (aliases : Aliases) (old new name : String) :
    (aliases.redirect old new).resolve name
      = if name = old then new else replacing old new (aliases.resolve name) := by
  by_cases same : name = old
  · simp [resolve, redirect, same]
  · have found (pairs : List (String × String)) :
        ((pairs.map fun pair => if pair.2 == old then (pair.1, new) else pair).filter
          fun pair => pair.1 != old).find? (fun pair => pair.1 == name)
          = (pairs.find? fun pair => pair.1 == name).map fun pair =>
            if pair.2 == old then (pair.1, new) else pair := by
      induction pairs with
      | nil => rfl
      | cons pair rest ih =>
        by_cases its : pair.1 = name
        · by_cases led : pair.2 = old <;> simp [its, led, same]
        · by_cases led : pair.2 = old <;> by_cases gone : pair.1 = old <;> simp_all
    have other : (old == name) = false := beq_eq_false_iff_ne.mpr (Ne.symm same)
    simp only [resolve, redirect, List.find?_cons, if_neg same, other, found]
    cases aliases.pairs.find? fun pair => pair.1 == name with
    | none => simp [replacing, same]
    | some pair => by_cases led : pair.2 = old <;> simp [replacing, led]

end AmqpClient.Aliases
