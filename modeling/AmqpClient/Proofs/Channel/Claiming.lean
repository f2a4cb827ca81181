import AmqpClient.Channel.Ids
import Mathlib.Data.Finset.Card
import Mathlib.Order.Interval.Finset.Nat

/-! Channel numbers that are claimed and given back, in any order. Whoever asks for any number gets one, unless all
are held: the search goes round all of them and ends at the first that is free. -/
namespace AmqpClient.ChannelIds

variable {α : Type}

def Usable (max id : UInt16) : Prop := id ≠ 0 ∧ id ≤ max

def Holds (ids : ChannelIds α) (id : UInt16) : Prop := (ids.get? id).isSome

/- The search as a loop that nothing bounds: from a number, it either ends at one that is free or never. -/
inductive Searches (ids : ChannelIds α) : UInt16 → UInt16 → Prop
  | found {id : UInt16} : ¬ ids.Holds (ids.wrap id) → Searches ids id (ids.wrap id)
  | passed {id found : UInt16} : ids.Holds (ids.wrap id) → Searches ids (ids.wrap id + 1) found → Searches ids id found

def choose (ids : ChannelIds α) : Option UInt16 → Except Error UInt16 × ChannelIds α
  | some id => (if id = 0 ∨ ids.max < id ∨ ids.held.contains id then .error (.unavailableChannelId id) else .ok id, ids)
  | none =>
    match ids.unused with
    | .error reason => (.error reason, ids)
    | .ok id => (.ok id, { ids with cursor := id + 1 })

def attempt (ids : ChannelIds α) (asked : Option UInt16) (make : UInt16 → α) : Except Error UInt16 × ChannelIds α :=
  match ids.choose asked with
  | (.error reason, next) => (.error reason, next)
  | (.ok id, next) => (.ok id, { next with held := next.held.insert id (make id) })

theorem attemptClaim (ids : ChannelIds α) (asked : Option UInt16) (make : UInt16 → α) :
    ids.attempt asked make = match ids.claim asked make with
      | .ok (id, next) => (.ok id, next)
      | .error reason => (.error reason, ids) := by
  unfold attempt choose claim
  cases asked with
  | some id =>
    dsimp only
    by_cases taken : id = 0 ∨ ids.max < id ∨ ids.held.contains id
    · simp only [taken, if_true]
    · simp only [taken, if_false]
  | none => cases ids.unused <;> rfl

inductive Act (α : Type)
  | claim (asked : Option UInt16) (make : UInt16 → α)
  | release (id : UInt16)
  | releaseAll

def act (ids : ChannelIds α) : Act α → ChannelIds α
  | .claim asked make => (ids.attempt asked make).2
  | .release id => (ids.release id).2
  | .releaseAll => ids.releaseAll.2

def actAll (ids : ChannelIds α) (acts : List (Act α)) : ChannelIds α := acts.foldl act ids

theorem holdsContains (ids : ChannelIds α) (id : UInt16) : ids.Holds id ↔ ids.held.contains id = true := by
  unfold Holds get?
  rw [Std.TreeMap.isSome_getElem?_eq_contains]

theorem getRelease (ids : ChannelIds α) (id other : UInt16) :
    (ids.release id).2.get? other = if id = other then none else ids.get? other := by
  unfold release get?
  simp [Std.TreeMap.getElem?_erase]

section Claimed

variable {ids next : ChannelIds α} {asked : Option UInt16} {make : UInt16 → α} {id : UInt16}

theorem claimCases (claimed : ids.claim asked make = .ok (id, next)) :
    next.held = ids.held.insert id (make id) ∧ next.max = ids.max ∧
      ((asked = some id ∧ Usable ids.max id ∧ ¬ ids.Holds id ∧ next.cursor = ids.cursor) ∨
        (asked = none ∧ ids.unused = .ok id ∧ next.cursor = id + 1)) := by
  unfold claim at claimed
  cases asked with
  | some number =>
    dsimp only at claimed
    split at claimed
    · cases claimed
    · rename_i free
      cases claimed
      rw [holdsContains, Usable]
      push Not at free
      exact ⟨rfl, rfl, .inl ⟨rfl, ⟨free.1, UInt16.not_lt.mp free.2.1⟩, free.2.2, rfl⟩⟩
  | none =>
    cases unused : ids.unused with
    | error reason =>
      rw [unused] at claimed
      cases claimed
    | ok found =>
      rw [unused] at claimed
      cases claimed
      exact ⟨rfl, rfl, .inr ⟨rfl, rfl, rfl⟩⟩

theorem getClaim (claimed : ids.claim asked make = .ok (id, next)) (other : UInt16) :
    next.get? other = if id = other then some (make id) else ids.get? other := by
  unfold get?
  rw [(claimCases claimed).1]
  simp [Std.TreeMap.getElem?_insert]

theorem wrapForeign (ids : ChannelIds α) (id : UInt16) : ids.wrap id ≠ 0 := by
  unfold wrap
  split
  · decide
  · rename_i within
    exact fun zero => within (.inl zero)

theorem searchWithinForeign {fuel : Nat} {start : UInt16} (finds : ids.searchWithin fuel start = some id) : id ≠ 0 := by
  induction fuel generalizing start with
  | zero => cases finds
  | succ fuel ih =>
    unfold searchWithin at finds
    dsimp only at finds
    split at finds
    · exact ih finds
    · cases finds
      exact ids.wrapForeign start

theorem claimForeign (claimed : ids.claim asked make = .ok (id, next)) : id ≠ 0 := by
  obtain ⟨-, -, ⟨-, usable, -⟩ | ⟨-, finds, -⟩⟩ := claimCases claimed
  · exact usable.1
  · unfold unused at finds
    split at finds
    · cases finds
    · split at finds
      · cases finds
        exact searchWithinForeign ‹_›
      · cases finds

theorem attemptCases (ids : ChannelIds α) (asked : Option UInt16) (make : UInt16 → α) :
    (∃ reason, ids.attempt asked make = (.error reason, ids) ∧ ids.claim asked make = .error reason) ∨
      ∃ id next, ids.attempt asked make = (.ok id, next) ∧ ids.claim asked make = .ok (id, next) := by
  rw [attemptClaim]
  cases ids.claim asked make with
  | error reason => exact .inl ⟨reason, rfl, rfl⟩
  | ok claimed => exact .inr ⟨claimed.1, claimed.2, rfl, rfl⟩

theorem attemptCertain (ids : ChannelIds α) (id : UInt16) (make : UInt16 → α) :
    ((ids.attempt (some id) make).1 = .ok id ∧ Usable ids.max id ∧ ¬ ids.Holds id) ∨
      ((ids.attempt (some id) make).1 = .error (.unavailableChannelId id) ∧ (Usable ids.max id → ids.Holds id)) := by
  by_cases taken : id = 0 ∨ ids.max < id ∨ ids.held.contains id
  · refine .inr ⟨by simp only [attempt, choose, if_pos taken], fun usable => ?_⟩
    rw [holdsContains]
    obtain zero | beyond | held := taken
    · exact absurd zero usable.1
    · exact absurd beyond (UInt16.not_lt.mpr usable.2)
    · exact held
  · refine .inl ⟨by simp only [attempt, choose, if_neg taken], ?_⟩
    push Not at taken
    rw [holdsContains]
    exact ⟨⟨taken.1, UInt16.not_lt.mp taken.2.1⟩, taken.2.2⟩

end Claimed

section Round

def cycle (max : UInt16) (turn : Nat) : UInt16 := UInt16.ofNat (turn % max.toNat + 1)

theorem usableIff (max id : UInt16) : Usable max id ↔ 0 < id.toNat ∧ id.toNat ≤ max.toNat := by
  unfold Usable
  rw [UInt16.le_iff_toNat_le, ne_eq, ← UInt16.toNat_inj, UInt16.toNat_zero, Nat.pos_iff_ne_zero]

section Cycle

variable {max : UInt16} (any : 0 < max.toNat)

include any

theorem cycleToNat (turn : Nat) : (cycle max turn).toNat = turn % max.toNat + 1 := by
  have below : turn % max.toNat < max.toNat := Nat.mod_lt _ any
  have top : max.toNat < 2 ^ 16 := max.toNat_lt
  rw [cycle, UInt16.toNat_ofNat', Nat.mod_eq_of_lt (by omega)]

theorem usableCycle (turn : Nat) : Usable max (cycle max turn) := by
  rw [usableIff, cycleToNat any]
  have below : turn % max.toNat < max.toNat := Nat.mod_lt _ any
  omega

theorem cycleEq (one two : Nat) : cycle max one = cycle max two ↔ one % max.toNat = two % max.toNat := by
  rw [← UInt16.toNat_inj, cycleToNat any, cycleToNat any, Nat.add_right_cancel_iff]

theorem cycleReaches {id : UInt16} (usable : Usable max id) (start : Nat) :
    ∃ steps < max.toNat, cycle max (start + steps) = id := by
  rw [usableIff] at usable
  have place : start % max.toNat < max.toNat := Nat.mod_lt _ any
  refine ⟨(id.toNat - 1 + max.toNat - start % max.toNat) % max.toNat, Nat.mod_lt _ any, ?_⟩
  rw [← UInt16.toNat_inj, cycleToNat any, Nat.add_mod_mod, ← Nat.mod_add_mod,
    show start % max.toNat + (id.toNat - 1 + max.toNat - start % max.toNat) = id.toNat - 1 + max.toNat by omega,
    Nat.add_mod_right, Nat.mod_eq_of_lt (by omega)]
  omega

end Cycle

variable {ids : ChannelIds α}

theorem wrapUsable {id : UInt16} (usable : Usable ids.max id) : ids.wrap id = id := by
  rw [wrap, if_neg]
  rintro (zero | beyond)
  · exact usable.1 zero
  · exact UInt16.not_lt.mpr usable.2 beyond

variable (any : 0 < ids.max.toNat)

include any

theorem usableWrap (id : UInt16) : Usable ids.max (ids.wrap id) := by
  unfold wrap
  split
  · rw [usableIff]
    exact ⟨Nat.zero_lt_one, any⟩
  · rename_i within
    push Not at within
    exact ⟨within.1, UInt16.not_lt.mp within.2⟩

theorem wrapCycle (turn : Nat) : ids.wrap (cycle ids.max turn + 1) = cycle ids.max (turn + 1) := by
  have place : turn % ids.max.toNat < ids.max.toNat := Nat.mod_lt _ any
  have top : ids.max.toNat < 2 ^ 16 := ids.max.toNat_lt
  have next : (cycle ids.max turn + 1).toNat = (turn % ids.max.toNat + 2) % 2 ^ 16 := by
    rw [UInt16.toNat_add, cycleToNat any, UInt16.toNat_one]
  -- Behind the last number is none, or 0 where the last is as high as numbers go.
  by_cases last : turn % ids.max.toNat + 1 = ids.max.toNat
  · have again : (turn + 1) % ids.max.toNat = 0 := by
      rw [← Nat.mod_add_mod, last, Nat.mod_self]
    have beyond : cycle ids.max turn + 1 = 0 ∨ ids.max < cycle ids.max turn + 1 := by
      rw [UInt16.lt_iff_toNat_lt, ← UInt16.toNat_inj, next, UInt16.toNat_zero]
      omega
    rw [wrap, if_pos beyond, ← UInt16.toNat_inj, cycleToNat any, again, UInt16.toNat_one]
  · have further : (turn + 1) % ids.max.toNat = turn % ids.max.toNat + 1 := by
      rw [← Nat.mod_add_mod, Nat.mod_eq_of_lt (by omega)]
    rw [wrapUsable, ← UInt16.toNat_inj, next, cycleToNat any, further, Nat.mod_eq_of_lt (by omega)]
    rw [usableIff, next, Nat.mod_eq_of_lt (by omega)]
    omega

end Round

section Search

variable {ids : ChannelIds α}

theorem searchesRound (any : 0 < ids.max.toNat) {id found : UInt16} (searches : ids.Searches id found) (turn : Nat)
    (start : ids.wrap id = cycle ids.max turn) :
    ∃ steps, found = cycle ids.max (turn + steps) ∧ ¬ ids.Holds found ∧
      ∀ passed < steps, ids.Holds (cycle ids.max (turn + passed)) := by
  induction searches generalizing turn with
  | found free => exact ⟨0, start, free, fun passed below => absurd below (Nat.not_lt_zero _)⟩
  | passed held _ ih =>
    rw [start] at held
    obtain ⟨steps, there, free, before⟩ := ih (turn + 1) (start ▸ wrapCycle any turn)
    refine ⟨steps + 1, by rw [there, Nat.add_right_comm, Nat.add_assoc], free, fun passed below => ?_⟩
    cases passed with
    | zero => exact held
    | succ passed =>
      rw [← Nat.add_assoc, Nat.add_right_comm]
      exact before passed (Nat.lt_of_succ_lt_succ below)

/- As many visits as there are numbers up to a free one are enough to find a free one. -/
theorem searchWithinFinds (any : 0 < ids.max.toNat) (steps : Nat) {fuel : Nat} (enough : steps < fuel)
    {id : UInt16} {turn : Nat} (start : ids.wrap id = cycle ids.max turn)
    (free : ¬ ids.Holds (cycle ids.max (turn + steps))) :
    ∃ found, ids.searchWithin fuel id = some found ∧ ids.Searches id found := by
  induction steps generalizing fuel id turn with
  | zero =>
    obtain ⟨fuel, rfl⟩ := Nat.exists_eq_succ_of_ne_zero (Nat.ne_of_gt enough)
    rw [Nat.add_zero, ← start] at free
    exact ⟨ids.wrap id, by rw [searchWithin, if_neg (mt (holdsContains ..).mpr free)], .found free⟩
  | succ steps ih =>
    obtain ⟨fuel, rfl⟩ := Nat.exists_eq_succ_of_ne_zero (Nat.ne_of_gt (Nat.zero_lt_of_lt enough))
    by_cases held : ids.Holds (ids.wrap id)
    · obtain ⟨found, finds, searches⟩ := ih (Nat.lt_of_succ_lt_succ enough) (start ▸ wrapCycle any turn)
        (by rwa [Nat.add_right_comm, Nat.add_assoc])
      exact ⟨found, by rw [searchWithin, if_pos ((holdsContains ..).mp held), finds], .passed held searches⟩
    · exact ⟨ids.wrap id, by rw [searchWithin, if_neg (mt (holdsContains ..).mpr held)], .found held⟩

end Search

section Bounded

def Bounded (ids : ChannelIds α) : Prop := ∀ id, ids.Holds id → Usable ids.max id

variable {ids : ChannelIds α}

def numbers (ids : ChannelIds α) : Finset Nat := (ids.held.keys.map UInt16.toNat).toFinset

theorem memNumbers (ids : ChannelIds α) (id : UInt16) : id.toNat ∈ ids.numbers ↔ ids.Holds id := by
  rw [holdsContains, numbers, List.mem_toFinset, List.mem_map]
  constructor
  · rintro ⟨key, there, same⟩
    rw [UInt16.toNat_inj] at same
    exact same ▸ Std.TreeMap.mem_keys.mp there
  · exact fun there => ⟨id, Std.TreeMap.mem_keys.mpr there, rfl⟩

theorem cardNumbers (ids : ChannelIds α) : ids.numbers.card = ids.held.size := by
  have distinct := ids.held.nodup_keys.map (f := UInt16.toNat) fun one two => UInt16.toNat_inj.mp
  rw [numbers, List.toFinset_card_of_nodup distinct, List.length_map, Std.TreeMap.length_keys]

theorem numbersWithin (bounded : ids.Bounded) : ids.numbers ⊆ Finset.Icc 1 ids.max.toNat := by
  intro number there
  obtain ⟨id, -, rfl⟩ := List.mem_map.mp (List.mem_toFinset.mp there)
  exact Finset.mem_Icc.mpr ((usableIff ..).mp (bounded id ((ids.memNumbers id).mp there)))

theorem allHeld (bounded : ids.Bounded) :
    ids.max.toNat ≤ ids.held.size ↔ ∀ id, Usable ids.max id → ids.Holds id := by
  have top : (Finset.Icc 1 ids.max.toNat).card = ids.max.toNat := Nat.card_Icc 1 _
  constructor
  · intro full id usable
    have all := Finset.eq_of_subset_of_card_le (numbersWithin bounded) (by rwa [top, cardNumbers])
    rw [← memNumbers, all, Finset.mem_Icc]
    exact (usableIff ..).mp usable
  · intro all
    rw [← top, ← cardNumbers]
    refine Finset.card_le_card fun number there => ?_
    rw [Finset.mem_Icc] at there
    have same : (UInt16.ofNat number).toNat = number := by
      rw [UInt16.toNat_ofNat', Nat.mod_eq_of_lt (Nat.lt_of_le_of_lt there.2 ids.max.toNat_lt)]
    rw [← same, memNumbers]
    exact all _ ((usableIff ..).mpr (same.symm ▸ there))

theorem searchEnds (bounded : ids.Bounded) (room : ids.held.size < ids.max.toNat) :
    ∃ found, ids.unused = .ok found ∧ ids.Searches ids.cursor found := by
  have any : 0 < ids.max.toNat := Nat.zero_lt_of_lt room
  obtain ⟨id, usable, free⟩ : ∃ id, Usable ids.max id ∧ ¬ ids.Holds id := by
    have lacking := mt (allHeld bounded).mpr (Nat.not_le.mpr room)
    push Not at lacking
    exact lacking
  obtain ⟨turn, -, start⟩ := cycleReaches any (usableWrap any ids.cursor) 0
  obtain ⟨steps, within, same⟩ := cycleReaches any usable (0 + turn)
  obtain ⟨found, finds, searches⟩ :=
    searchWithinFinds any steps (Nat.lt_succ_of_lt within) start.symm (same.symm ▸ free)
  exact ⟨found, by rw [unused, if_neg (Nat.not_le.mpr room), finds], searches⟩

theorem unusedFails (bounded : ids.Bounded) {reason : Error} (fails : ids.unused = .error reason) :
    reason = .exhaustedChannelIds ∧ ∀ id, Usable ids.max id → ids.Holds id := by
  by_cases full : ids.max.toNat ≤ ids.held.size
  · rw [unused, if_pos full] at fails
    cases fails
    exact ⟨rfl, (allHeld bounded).mp full⟩
  · obtain ⟨found, finds, -⟩ := searchEnds bounded (Nat.not_le.mp full)
    rw [fails] at finds
    cases finds

theorem unusedSucceeds (bounded : ids.Bounded) {found : UInt16} (finds : ids.unused = .ok found) :
    ids.held.size < ids.max.toNat ∧ Usable ids.max found ∧ ¬ ids.Holds found ∧ ids.Searches ids.cursor found := by
  by_cases full : ids.max.toNat ≤ ids.held.size
  · rw [unused, if_pos full] at finds
    cases finds
  · have room := Nat.not_le.mp full
    obtain ⟨other, alsoFinds, searches⟩ := searchEnds bounded room
    rw [finds] at alsoFinds
    cases alsoFinds
    have any := Nat.zero_lt_of_lt room
    obtain ⟨turn, -, start⟩ := cycleReaches any (usableWrap any ids.cursor) 0
    obtain ⟨steps, there, free, -⟩ := searchesRound any searches (0 + turn) start.symm
    exact ⟨room, there ▸ usableCycle any _, free, searches⟩

theorem attemptAny (bounded : ids.Bounded) (make : UInt16 → α) :
    (∃ found, (ids.attempt none make).1 = .ok found ∧ ids.held.size < ids.max.toNat ∧ Usable ids.max found ∧
      ¬ ids.Holds found ∧ ids.Searches ids.cursor found) ∨
    ((ids.attempt none make).1 = .error .exhaustedChannelIds ∧ ∀ id, Usable ids.max id → ids.Holds id) := by
  unfold attempt choose
  cases finds : ids.unused with
  | ok found => exact .inl ⟨found, rfl, unusedSucceeds bounded finds⟩
  | error reason =>
    obtain ⟨rfl, all⟩ := unusedFails bounded finds
    exact .inr ⟨rfl, all⟩

theorem boundedClaim (bounded : ids.Bounded) {next : ChannelIds α} {asked : Option UInt16} {make : UInt16 → α}
    {id : UInt16} (claimed : ids.claim asked make = .ok (id, next)) : Usable ids.max id ∧ ¬ ids.Holds id := by
  obtain ⟨-, -, ⟨-, usable, free, -⟩ | ⟨-, finds, -⟩⟩ := claimCases claimed
  · exact ⟨usable, free⟩
  · obtain ⟨-, usable, free, -⟩ := unusedSucceeds bounded finds
    exact ⟨usable, free⟩

theorem maxAct (ids : ChannelIds α) (deed : Act α) : (ids.act deed).max = ids.max := by
  cases deed with
  | claim asked make =>
    obtain ⟨reason, failed, -⟩ | ⟨id, next, succeeds, claimed⟩ := attemptCases ids asked make
    · rw [act, failed]
    · rw [act, succeeds, (claimCases claimed).2.1]
  | release id => rfl
  | releaseAll => rfl

theorem boundedAct (bounded : ids.Bounded) (deed : Act α) : (ids.act deed).Bounded := by
  intro id held
  rw [maxAct]
  cases deed with
  | claim asked make =>
    obtain ⟨reason, failed, -⟩ | ⟨number, next, succeeds, claimed⟩ := attemptCases ids asked make
    · rw [act, failed] at held
      exact bounded id held
    · rw [act, succeeds, Holds, getClaim claimed] at held
      by_cases same : number = id
      · exact same ▸ (boundedClaim bounded claimed).1
      · rw [if_neg same] at held
        exact bounded id held
  | release number =>
    rw [act, Holds, getRelease] at held
    split at held
    · cases held
    · exact bounded id held
  | releaseAll =>
    rw [holdsContains] at held
    cases held

theorem maxActAll (ids : ChannelIds α) (acts : List (Act α)) : (ids.actAll acts).max = ids.max := by
  induction acts generalizing ids with
  | nil => rfl
  | cons deed rest ih => exact (ih (ids.act deed)).trans (maxAct ids deed)

theorem boundedActAll (bounded : ids.Bounded) (acts : List (Act α)) : (ids.actAll acts).Bounded := by
  induction acts generalizing ids with
  | nil => exact bounded
  | cons deed rest ih => exact ih (boundedAct bounded deed)

theorem boundedNone (max : UInt16) : ({ max } : ChannelIds α).Bounded := by
  intro id held
  rw [holdsContains] at held
  cases held

end Bounded

/- Whatever has been claimed and given back: whoever asks for any number fails only when all are held, and whoever
asks for a certain one only when it is held or no channel's. -/
theorem claimsWhatIsFree (max : UInt16) (acts : List (Act α)) (make : UInt16 → α) :
    let ids := actAll { max } acts
    (∀ id, ids.Holds id → Usable max id) ∧
      (ids.held.size < max.toNat →
        ∃ found, ids.Searches ids.cursor found ∧ (ids.attempt none make).1 = .ok found) ∧
      ((ids.attempt none make).1 = .error .exhaustedChannelIds ↔ ∀ id, Usable max id → ids.Holds id) ∧
      ((∃ id, Usable max id ∧ ¬ ids.Holds id) →
        ∃ id, (ids.attempt none make).1 = .ok id ∧ Usable max id ∧ ¬ ids.Holds id) ∧
      (∀ id, (ids.attempt (some id) make).1 = .ok id ↔ Usable max id ∧ ¬ ids.Holds id) ∧
      (∀ id, (Usable max id → ids.Holds id) →
        (ids.attempt (some id) make).1 = .error (.unavailableChannelId id)) ∧
      ∀ asked, match ids.attempt asked make with
        | (.error _, next) => next = ids
        | (.ok id, next) =>
          next.max = max ∧ ∀ other, next.get? other = if id = other then some (make id) else ids.get? other := by
  intro ids
  have bounded : ids.Bounded := boundedActAll (boundedNone max) acts
  have top : ids.max = max := maxActAll _ acts
  clear_value ids
  subst top
  refine ⟨bounded, ?room, ?exhausted, ?free, fun id => ?certain, fun id taken => ?unavailable, fun asked => ?adds⟩
  case room =>
    intro room
    obtain ⟨found, succeeds, -, -, -, searches⟩ | ⟨-, all⟩ := attemptAny bounded make
    · exact ⟨found, searches, succeeds⟩
    · exact absurd ((allHeld bounded).mpr all) (Nat.not_le.mpr room)
  case exhausted =>
    obtain ⟨found, succeeds, -, usable, free, -⟩ | ⟨fails, all⟩ := attemptAny bounded make
    · rw [succeeds]
      exact ⟨nofun, fun all => absurd (all found usable) free⟩
    · exact iff_of_true fails all
  case free =>
    rintro ⟨id, usable, free⟩
    obtain ⟨found, succeeds, -, apart⟩ | ⟨-, all⟩ := attemptAny bounded make
    · exact ⟨found, succeeds, apart.1, apart.2.1⟩
    · exact absurd (all id usable) free
  case certain =>
    obtain ⟨succeeds, apart⟩ | ⟨fails, taken⟩ := attemptCertain ids id make
    · exact iff_of_true succeeds apart
    · rw [fails]
      exact ⟨nofun, fun apart => absurd (taken apart.1) apart.2⟩
  case unavailable =>
    obtain ⟨-, usable, free⟩ | ⟨fails, -⟩ := attemptCertain ids id make
    · exact absurd (taken usable) free
    · exact fails
  case adds =>
    obtain ⟨reason, failed, -⟩ | ⟨id, next, succeeds, claimed⟩ := attemptCases ids asked make
    · rw [failed]
    · rw [succeeds]
      exact ⟨(claimCases claimed).2.1, getClaim claimed⟩

end AmqpClient.ChannelIds
