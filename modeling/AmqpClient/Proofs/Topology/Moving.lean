import AmqpClient.Proofs.Topology.Catalog

/-! Records that move to other keys, one after the other. As long as no record moves to a key that another one
has at that time, this comes to moving all of them at once; if one does, a record is lost. -/
namespace AmqpClient

def replacing (old new name : String) : String := if name = old then new else name

theorem replacingSame (old name : String) : replacing old old name = name := by
  unfold replacing
  split
  · rename_i same
    exact same.symm
  · rfl

def newName : List (String × String) → String → String
  | [], name => name
  | (old, new) :: rest, name => if name = old then new else newName rest name

theorem newNameFresh {pairs : List (String × String)} {name : String}
    (fresh : name ∉ pairs.map Prod.fst) : newName pairs name = name := by
  induction pairs with
  | nil => rfl
  | cons pair rest ih =>
    obtain ⟨apart, fresh⟩ := List.ne_and_not_mem_of_not_mem_cons fresh
    rw [newName, if_neg apart, ih fresh]

/- Replacing one name after another comes to replacing all of them at once, as long as no new name is
still to be replaced. -/
theorem newNameAfter {old new : String} {rest : List (String × String)}
    (fresh : new ∉ rest.map Prod.fst) :
    (fun name => newName rest (replacing old new name)) = newName ((old, new) :: rest) := by
  funext name
  by_cases same : name = old
  · simp [replacing, newName, same, newNameFresh fresh]
  · simp [replacing, newName, same]

theorem newNames {pairs : List (String × String)} (distinct : (pairs.map Prod.fst).Nodup) :
    (pairs.map Prod.fst).map (newName pairs) = pairs.map Prod.snd := by
  induction pairs with
  | nil => rfl
  | cons pair rest ih =>
    obtain ⟨old, new⟩ := pair
    obtain ⟨absent, distinct⟩ := List.nodup_cons.mp distinct
    have others : (rest.map Prod.fst).map (newName ((old, new) :: rest)) = (rest.map Prod.fst).map (newName rest) :=
      List.map_congr_left fun name member => if_neg fun same : name = old => absent (same ▸ member)
    rw [List.map_cons, List.map_cons, others, ih distinct]
    exact congrArg (· :: rest.map Prod.snd) (if_pos rfl)

theorem zipFirst (olds news : List String) : ((olds.zip news).map Prod.fst).Sublist olds := by
  induction olds generalizing news with
  | nil => exact List.Sublist.refl _
  | cons old olds ih =>
    cases news with
    | nil => exact List.nil_sublist _
    | cons new news => exact (ih news).cons_cons old

theorem zipSecond (olds news : List String) : (olds.zip news).map Prod.snd ⊆ news := by
  intro name member
  obtain ⟨pair, inside, rfl⟩ := List.mem_map.mp member
  exact (List.of_mem_zip inside).2

/- No new name is taken twice, and none while it is still someone else's old one. -/
def Apart (pairs : List (String × String)) : Prop :=
  pairs.Pairwise fun earlier later => earlier.2 ≠ later.1 ∧ earlier.2 ≠ later.2

instance (pairs : List (String × String)) : Decidable (Apart pairs) :=
  inferInstanceAs (Decidable (pairs.Pairwise _))

namespace Catalog

variable {α : Type} [Keyed α] {catalog : Catalog α} {old new : String} {rest : List (String × String)}

structure Listed (catalog : Catalog α) (pairs : List (String × String)) : Prop where
  distinct : catalog.keys.Nodup
  once : (pairs.map Prod.fst).Nodup
  recorded : pairs.map Prod.fst ⊆ catalog.keys

structure Separable (catalog : Catalog α) (pairs : List (String × String)) : Prop extends Listed catalog pairs where
  apart : Apart pairs
  vacant : ∀ key ∈ catalog.keys, key ∈ pairs.map Prod.fst ∨ ∀ pair ∈ pairs, pair.2 ≠ key

namespace Listed

theorem known (listed : catalog.Listed ((old, new) :: rest)) : old ∈ catalog.keys :=
  listed.recorded List.mem_cons_self

theorem other (listed : catalog.Listed ((old, new) :: rest)) {key : String} (member : key ∈ rest.map Prod.fst) :
    key ≠ old :=
  fun same => (List.nodup_cons.mp listed.once).1 (same ▸ member)

end Listed

namespace Separable

theorem settled (separable : catalog.Separable ((old, new) :: rest)) : new ∉ rest.map Prod.fst := by
  intro member
  obtain ⟨pair, inside, same⟩ := List.mem_map.mp member
  exact ((List.pairwise_cons.mp separable.apart).1 pair inside).1 same.symm

theorem fresh (separable : catalog.Separable ((old, new) :: rest)) : new ≠ old → new ∉ catalog.keys := by
  intro different known
  rcases separable.vacant new known with listed | free
  · exact (List.mem_cons.mp listed).elim different separable.settled
  · exact free _ List.mem_cons_self rfl

end Separable

theorem wholeKeys {keys : List String} (length : keys.length = catalog.items.length) :
    (catalog.keys.zip keys).map Prod.fst = catalog.keys ∧ (catalog.keys.zip keys).map Prod.snd = keys := by
  have same : keys.length = catalog.keys.length := by rw [Catalog.keys, List.length_map, length]
  exact ⟨List.map_fst_zip (Nat.le_of_eq same.symm), List.map_snd_zip (Nat.le_of_eq same)⟩

theorem listedZip (distinct : catalog.keys.Nodup) (keys : List String) : catalog.Listed (catalog.keys.zip keys) :=
  ⟨distinct, distinct.sublist (zipFirst _ keys), (zipFirst _ keys).subset⟩

theorem separableWhole {keys : List String} (distinct : catalog.keys.Nodup)
    (length : keys.length = catalog.items.length) (apart : Apart (catalog.keys.zip keys)) :
    catalog.Separable (catalog.keys.zip keys) := by
  obtain ⟨olds, _⟩ := wholeKeys length
  exact ⟨listedZip distinct keys, apart, fun key member => .inl (by rwa [olds])⟩

end Catalog

class Movable (α : Type) [Keyed α] where
  under : String → α → α
  keyUnder : ∀ key item, Keyed.key (under key item) = key
  underOwn : ∀ item, under (Keyed.key item) item = item
  underTwice : ∀ first second item, under second (under first item) = under second item

namespace Catalog

variable {α : Type} [Keyed α] [Movable α] {catalog : Catalog α} {old new : String}
  {pairs rest : List (String × String)}

def moved (catalog : Catalog α) (old new : String) : Catalog α :=
  if old == new then catalog
  else match catalog.find? old with
    | none => catalog
    | some item => catalog.supersede old (Movable.under new item)

def movedAll (catalog : Catalog α) (pairs : List (String × String)) : Catalog α :=
  pairs.foldl (fun catalog pair => catalog.moved pair.1 pair.2) catalog

theorem movedNodup (distinct : catalog.keys.Nodup) (old new : String) : (catalog.moved old new).keys.Nodup := by
  unfold moved
  split
  · exact distinct
  · split
    · exact distinct
    · exact supersedeNodup distinct old _

theorem movedItems (distinct : catalog.keys.Nodup) (known : old ∈ catalog.keys)
    (vacant : new ≠ old → new ∉ catalog.keys) :
    (catalog.moved old new).items
      = catalog.items.map fun item => Movable.under (replacing old new (Keyed.key item)) item := by
  by_cases same : old = new
  · subst same
    simp [moved, replacingSame, Movable.underOwn]
  · obtain ⟨item, found⟩ := findKnown known
    have absent : Keyed.key (Movable.under new item) ∉ catalog.keys := by
      rw [Movable.keyUnder]
      exact vacant (Ne.symm same)
    simp only [moved, beq_iff_eq, if_neg same, found]
    refine (supersedeFresh absent).trans (List.map_congr_left fun other member => ?_)
    by_cases itself : Keyed.key other = old
    · obtain rfl := findUnique distinct found member itself
      simp [replacing, itself]
    · simp [replacing, itself, Movable.underOwn]

theorem movedKeys (distinct : catalog.keys.Nodup) (known : old ∈ catalog.keys)
    (vacant : new ≠ old → new ∉ catalog.keys) :
    (catalog.moved old new).keys = catalog.keys.map (replacing old new) := by
  simp only [keys, movedItems distinct known vacant, List.map_map]
  exact List.map_congr_left fun item _ => Movable.keyUnder _ item

theorem movedLength (catalog : Catalog α) (old new : String) :
    (catalog.moved old new).items.length =
      if old ∈ catalog.keys ∧ new ∈ catalog.keys ∧ old ≠ new then catalog.items.length - 1
      else catalog.items.length := by
  unfold moved
  by_cases same : old = new
  · simp [same]
  · cases found : catalog.find? old with
    | none =>
      have absent : old ∉ catalog.keys := fun known => by
        obtain ⟨item, its⟩ := findKnown known
        exact absurd (found.symm.trans its) (by simp)
      simp [same, absent]
    | some item =>
      obtain ⟨inside, rfl⟩ := findSome found
      have known : Keyed.key item ∈ catalog.keys := List.mem_map_of_mem inside
      simp [same, known, supersedeLength, Movable.keyUnder]

theorem movedAllLength (catalog : Catalog α) (pairs : List (String × String)) :
    (catalog.movedAll pairs).items.length ≤ catalog.items.length := by
  refine List.foldlRecOn (motive := fun next : Catalog α => next.items.length ≤ catalog.items.length) _ _
    (Nat.le_refl _) ?_
  intro next fewer pair _
  rw [movedLength]
  split
  · exact Nat.le_trans (Nat.sub_le ..) fewer
  · exact fewer

theorem Listed.next (listed : catalog.Listed ((old, new) :: rest)) (vacant : new ≠ old → new ∉ catalog.keys) :
    (catalog.moved old new).Listed rest where
  distinct := movedNodup listed.distinct old new
  once := (List.nodup_cons.mp listed.once).2
  recorded := fun key member => by
    rw [movedKeys listed.distinct listed.known vacant]
    exact List.mem_map.mpr ⟨key, listed.recorded (List.mem_cons_of_mem _ member), if_neg (listed.other member)⟩

theorem Separable.next (separable : catalog.Separable ((old, new) :: rest)) :
    (catalog.moved old new).Separable rest := by
  obtain ⟨first, apart⟩ := List.pairwise_cons.mp separable.apart
  refine ⟨separable.toListed.next separable.fresh, apart, fun key member => ?_⟩
  rw [movedKeys separable.distinct separable.known separable.fresh] at member
  obtain ⟨before, known, rfl⟩ := List.mem_map.mp member
  by_cases itself : before = old
  · rw [replacing, if_pos itself]
    exact .inr fun pair inside => (first pair inside).2.symm
  · rw [replacing, if_neg itself]
    rcases separable.vacant before known with listed | free
    · exact .inl ((List.mem_cons.mp listed).resolve_left itself)
    · exact .inr fun pair inside => free pair (List.mem_cons_of_mem _ inside)

theorem movedAllItems (separable : catalog.Separable pairs) :
    (catalog.movedAll pairs).items
      = catalog.items.map fun item => Movable.under (newName pairs (Keyed.key item)) item := by
  induction pairs generalizing catalog with
  | nil =>
    refine (List.map_id _).symm.trans (List.map_congr_left fun item _ => ?_)
    exact (Movable.underOwn item).symm
  | cons pair rest ih =>
    obtain ⟨old, new⟩ := pair
    refine (ih separable.next).trans ?_
    rw [movedItems separable.distinct separable.known separable.fresh, List.map_map,
      ← newNameAfter separable.settled]
    exact List.map_congr_left fun item _ => by simp only [Function.comp_apply, Movable.keyUnder, Movable.underTwice]

theorem separableOfLength (listed : catalog.Listed pairs)
    (length : (catalog.movedAll pairs).items.length = catalog.items.length) : catalog.Separable pairs := by
  induction pairs generalizing catalog with
  | nil => exact ⟨listed, .nil, fun _ _ => .inr (List.forall_mem_nil _)⟩
  | cons pair rest ih =>
    obtain ⟨old, new⟩ := pair
    have fewer := movedAllLength (catalog.moved old new) rest
    have whole : ((catalog.moved old new).movedAll rest).items.length = catalog.items.length := length
    have one := movedLength catalog old new
    have some : 0 < catalog.items.length := by
      obtain ⟨item, member, _⟩ := List.mem_map.mp listed.known
      exact List.length_pos_of_mem member
    have vacant : new ≠ old → new ∉ catalog.keys := by
      intro different known
      rw [if_pos ⟨listed.known, known, different.symm⟩] at one
      omega
    have same : (catalog.moved old new).items.length = catalog.items.length := by
      split at one <;> omega
    have later := ih (listed.next vacant) (whole.trans same.symm)
    have keys := movedKeys listed.distinct listed.known vacant
    have free : new ∉ rest.map Prod.fst := fun member =>
      vacant (listed.other member) (listed.recorded (List.mem_cons_of_mem _ member))
    have taken : new ∈ (catalog.moved old new).keys := by
      rw [keys]
      exact List.mem_map.mpr ⟨old, listed.known, if_pos rfl⟩
    have others := (later.vacant new taken).resolve_left free
    refine ⟨listed, List.pairwise_cons.mpr ⟨fun pair inside => ⟨?_, (others pair inside).symm⟩, later.apart⟩, ?_⟩
    · exact fun same : new = pair.1 => free (same ▸ List.mem_map_of_mem inside)
    · intro key known
      by_cases itself : key = old
      · exact .inl (itself ▸ List.mem_cons_self)
      · have stays : key ∈ (catalog.moved old new).keys := by
          rw [keys]
          exact List.mem_map.mpr ⟨key, known, if_neg itself⟩
        refine (later.vacant key stays).imp (List.mem_cons_of_mem _) fun free => ?_
        exact List.forall_mem_cons.mpr ⟨fun same : new = key => vacant (same ▸ itself) (same ▸ known), free⟩

theorem movedAllZip {keys : List String} (separable : catalog.Separable (catalog.keys.zip keys))
    (length : keys.length = catalog.items.length) :
    (catalog.movedAll (catalog.keys.zip keys)).items
      = List.zipWith (fun item key => Movable.under key item) catalog.items keys := by
  obtain ⟨olds, news⟩ := wholeKeys length
  have names := newNames separable.once
  rw [olds, news] at names
  have each : keys = catalog.items.map fun item => newName (catalog.keys.zip keys) (Keyed.key item) :=
    names.symm.trans (List.map_map ..)
  rw [movedAllItems separable]
  conv_rhs => rw [each, List.zipWith_map_right, List.zipWith_self]

end Catalog

end AmqpClient
