import AmqpClient.Proofs.Topology.Aliases

/-! Where names lead, seen apart from the records under them: names are taken, released, lost or moved. After each
of these it is known exactly whether what is recorded is found under its own name, and whether names that lead
elsewhere lead to something recorded. -/
namespace AmqpClient

/- What is recorded under its own name, and where a name leads. -/
@[ext]
structure Naming where
  known : String → Prop
  leads : String → String

namespace Naming

def of {α : Type} [Keyed α] (catalog : Catalog α) (aliases : Aliases) : Naming :=
  ⟨fun key => key ∈ catalog.keys, aliases.resolve⟩

def take (naming : Naming) (name : String) : Naming :=
  { naming with known := fun key => key = name ∨ naming.known key }

def release (naming : Naming) (gone : List String) : Naming where
  known key := naming.known key ∧ key ∉ gone
  leads name := if naming.leads name ∈ gone then name else naming.leads name

def lose (naming : Naming) (gone : List String) : Naming :=
  { naming with known := fun key => naming.known key ∧ key ∉ gone }

def move (naming : Naming) (old new : String) : Naming where
  known key := key = new ∨ naming.known key ∧ key ≠ old
  leads name := if name = old ∨ naming.leads name = old then new else naming.leads name

def Own (naming : Naming) : Prop := ∀ key, naming.known key → naming.leads key = key

def Led (naming : Naming) : Prop := ∀ name, naming.leads name ≠ name → naming.known (naming.leads name)

variable {naming : Naming} {name key old new : String} {gone : List String}

theorem releaseNothing (naming : Naming) : naming.release [] = naming := by
  simp [release]

theorem loseNothing (naming : Naming) : naming.lose [] = naming := by
  simp [lose]

theorem ownTake (own : Own naming) : Own (naming.take name) ↔ naming.leads name = name := by
  constructor
  · intro after
    exact after name (.inl rfl)
  · rintro itself key (rfl | before)
    · exact itself
    · exact own key before

theorem ownRelease (own : Own naming) (gone : List String) : Own (naming.release gone) := by
  rintro key ⟨before, stays⟩
  have itself := own key before
  simp only [release, itself, if_neg stays]

theorem ownMove (own : Own naming) (other : new ≠ old) :
    Own (naming.move old new) ↔ naming.leads new = new ∨ naming.leads new = old := by
  constructor
  · intro after
    by_cases led : naming.leads new = old
    · exact .inr led
    · have stays : (naming.move old new).leads new = naming.leads new := if_neg (not_or.mpr ⟨other, led⟩)
      exact .inl (stays.symm.trans (after new (.inl rfl)))
  · rintro either key (rfl | ⟨before, stays⟩)
    · rcases either with itself | led
      · simp only [move, itself, ite_self]
      · simp only [move, led, or_true, if_true]
    · simp only [move, own key before, stays, or_self, if_false]

theorem ledTake (led : Led naming) (name : String) : Led (naming.take name) :=
  fun other elsewhere => .inr (led other elsewhere)

theorem ledRelease (led : Led naming) (gone : List String) : Led (naming.release gone) := by
  intro name elsewhere
  simp only [release] at elsewhere ⊢
  split at elsewhere
  · exact absurd rfl elsewhere
  · rename_i stays
    rw [if_neg stays]
    exact ⟨led name elsewhere, stays⟩

theorem ledLose (led : Led naming) :
    Led (naming.lose gone) ↔ ∀ key ∈ gone, ∀ name, naming.leads name = key → name = key := by
  constructor
  · rintro after key goes name rfl
    by_contra elsewhere
    exact (after name (Ne.symm elsewhere)).2 goes
  · intro spared name elsewhere
    exact ⟨led name elsewhere, fun goes => elsewhere (spared _ goes name rfl).symm⟩

theorem ledMove (led : Led naming) (old new : String) : Led (naming.move old new) := by
  intro name elsewhere
  simp only [move] at elsewhere ⊢
  split at elsewhere
  · rename_i moved
    rw [if_pos moved]
    exact .inl rfl
  · rename_i stays
    rw [if_neg stays]
    exact .inr ⟨led name elsewhere, (not_or.mp stays).2⟩

theorem releaseLeads (stays : key ∉ gone) :
    ((naming.release gone).leads name = key → name = key) ↔ (naming.leads name = key → name = key) := by
  simp only [release]
  split
  · rename_i goes
    exact ⟨fun _ led => absurd (led ▸ goes) stays, fun _ => id⟩
  · exact Iff.rfl

section

variable {α : Type} [Keyed α] {catalog : Catalog α} {aliases : Aliases}

theorem ofRecord (catalog : Catalog α) (aliases : Aliases) (item : α) :
    of (catalog.record item) aliases = (of catalog aliases).take (Keyed.key item) :=
  Naming.ext (funext fun _ => propext Catalog.recordMember) rfl

theorem ofFilter (distinct : catalog.keys.Nodup) (aliases : Aliases) (stays : α → Bool) :
    of ⟨catalog.items.filter stays⟩ aliases
      = (of catalog aliases).lose ((catalog.items.filter fun item => !stays item).map Keyed.key) := by
  refine Naming.ext (funext fun key => propext ?_) rfl
  simp only [of, lose, Catalog.keys, List.mem_map, List.mem_filter, Bool.not_eq_true']
  constructor
  · rintro ⟨item, ⟨inside, kept⟩, rfl⟩
    refine ⟨⟨item, inside, rfl⟩, ?_⟩
    rintro ⟨other, ⟨among, gone⟩, same⟩
    obtain rfl := List.inj_on_of_nodup_map distinct among inside same
    exact absurd kept (by simp [gone])
  · rintro ⟨⟨item, inside, rfl⟩, stays⟩
    refine ⟨item, ⟨inside, ?_⟩, rfl⟩
    by_contra gone
    exact stays ⟨item, ⟨inside, by simpa using gone⟩, rfl⟩

theorem ofErase (catalog : Catalog α) (once : aliases.names.Nodup) (gone : String) :
    of (catalog.erase gone) (aliases.forget gone) = (of catalog aliases).release [gone] := by
  refine Naming.ext (funext fun key => propext ?_) (funext fun name => ?_) <;>
    simp only [of, release, List.mem_singleton]
  · exact Catalog.eraseMember
  · exact Aliases.forgetResolve once gone name

theorem ofMoved [Movable α] (distinct : catalog.keys.Nodup) (known : old ∈ catalog.keys) (aliases : Aliases)
    (other : new ≠ old) : of (catalog.moved old new) (aliases.redirect old new) = (of catalog aliases).move old new := by
  obtain ⟨item, found⟩ := Catalog.findKnown known
  have named := Movable.keyUnder new item
  refine Naming.ext (funext fun key => propext ?_) (funext fun name => ?_)
  · simp only [of, move, Catalog.moved, beq_iff_eq, if_neg other.symm, found]
    rw [Catalog.supersedeMember distinct known (named.symm ▸ other), named]
  · simp only [of, move, Aliases.redirectResolve, replacing]
    by_cases itself : name = old <;> simp [itself]

end

end Naming

end AmqpClient
