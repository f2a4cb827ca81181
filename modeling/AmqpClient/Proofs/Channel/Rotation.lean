import AmqpClient.Proofs.Channel.Claiming
import Mathlib.Data.Nat.ModEq

/-! The round that numbers nobody asks for by name go. Between two claims that got the same number, the search has been
past every other one, and it only ever goes past a number that is held. -/
namespace AmqpClient.ChannelIds

variable {α : Type} {ids : ChannelIds α} {acts : List (Act α)} {id : UInt16}

def HeldDuring (ids : ChannelIds α) (acts : List (Act α)) (id : UInt16) : Prop :=
  ∃ part, part <+: acts ∧ (ids.actAll part).Holds id

theorem actAllAppend (ids : ChannelIds α) (one two : List (Act α)) :
    ids.actAll (one ++ two) = (ids.actAll one).actAll two := List.foldl_append

theorem HeldDuring.longer (held : ids.HeldDuring acts id) (more : List (Act α)) : ids.HeldDuring (acts ++ more) id := by
  obtain ⟨part, within, there⟩ := held
  exact ⟨part, within.trans (List.prefix_append ..), there⟩

theorem HeldDuring.last (held : (ids.actAll acts).Holds id) : ids.HeldDuring acts id := ⟨acts, List.prefix_rfl, held⟩

theorem cursorAct (ids : ChannelIds α) (deed : Act α) :
    (ids.act deed).cursor = ids.cursor ∨
      ∃ found, ids.unused = .ok found ∧ (ids.act deed).cursor = found + 1 ∧ (ids.act deed).Holds found := by
  cases deed with
  | claim asked make =>
    obtain ⟨reason, failed, -⟩ | ⟨found, next, succeeds, claimed⟩ := attemptCases ids asked make
    · rw [act, failed]
      exact .inl rfl
    · rw [act, succeeds]
      obtain ⟨-, -, ⟨-, -, -, still⟩ | ⟨-, finds, moved⟩⟩ := claimCases claimed
      · exact .inl still
      · refine .inr ⟨found, finds, moved, ?_⟩
        rw [Holds, getClaim claimed, if_pos rfl]
        rfl
  | release number => exact .inl rfl
  | releaseAll => exact .inl rfl

theorem cursorRound (bounded : ids.Bounded) (any : 0 < ids.max.toNat) {start : Nat}
    (begins : ids.wrap ids.cursor = cycle ids.max start) (acts : List (Act α)) :
    ∃ turn, start ≤ turn ∧ (ids.actAll acts).wrap (ids.actAll acts).cursor = cycle ids.max turn ∧
      ∀ passed, start ≤ passed → passed < turn → ids.HeldDuring acts (cycle ids.max passed) := by
  induction acts using List.reverseRecOn with
  | nil => exact ⟨start, Nat.le_refl _, begins, fun passed after before => absurd before (Nat.not_lt.mpr after)⟩
  | append_singleton acts deed ih =>
    obtain ⟨turn, later, there, held⟩ := ih
    have before : (ids.actAll acts).Bounded := boundedActAll bounded acts
    have top : (ids.actAll acts).max = ids.max := maxActAll ids acts
    have same : (ids.actAll (acts ++ [deed])) = (ids.actAll acts).act deed := actAllAppend ids acts [deed]
    obtain still | ⟨found, finds, moved, claimed⟩ := cursorAct (ids.actAll acts) deed
    · refine ⟨turn, later, ?_, fun passed after before => (held passed after before).longer [deed]⟩
      rw [same, still, ← there, wrap, wrap, maxAct]
    · obtain ⟨-, -, -, searches⟩ := unusedSucceeds before finds
      obtain ⟨steps, rfl, -, passedBy⟩ := searchesRound (top ▸ any) searches turn (top ▸ there)
      rw [top] at passedBy moved claimed
      refine ⟨turn + steps + 1, by omega, ?_, fun passed after earlier => ?_⟩
      · rw [same, moved, ← wrapCycle any, wrap, wrap, maxAct, top]
      · -- What was not passed before was passed by this search, or is what it found.
        by_cases past : passed < turn
        · exact (held passed after past).longer [deed]
        obtain ⟨step, rfl⟩ := Nat.exists_eq_add_of_le (Nat.not_lt.mp past)
        by_cases last : step = steps
        · subst last
          exact .last (same ▸ claimed)
        · exact (HeldDuring.last (passedBy step (by omega))).longer [deed]

theorem attemptedAny {make : UInt16 → α} (claimed : (ids.attempt none make).1 = .ok id) :
    ids.unused = .ok id ∧ (ids.act (.claim none make)).cursor = id + 1 := by
  rw [act]
  obtain ⟨reason, failed, -⟩ | ⟨found, next, succeeds, claims⟩ := attemptCases ids none make
  · rw [failed] at claimed
    cases claimed
  · rw [succeeds] at claimed ⊢
    cases claimed
    obtain ⟨-, -, ⟨asked, -⟩ | ⟨-, finds, moved⟩⟩ := claimCases claims
    · cases asked
    · exact ⟨finds, moved⟩

theorem heldBetween (bounded : ids.Bounded) {first again : UInt16 → α} {between : List (Act α)} {other : UInt16}
    (claimed : (ids.attempt none first).1 = .ok id)
    (reclaimed : (((ids.act (.claim none first)).actAll between).attempt none again).1 = .ok id)
    (usable : Usable ids.max other) (apart : other ≠ id) :
    (ids.act (.claim none first)).HeldDuring between other := by
  let after := ids.act (.claim none first)
  obtain ⟨finds, behind⟩ := attemptedAny claimed
  obtain ⟨room, inRange, -, -⟩ := unusedSucceeds bounded finds
  have any : 0 < ids.max.toNat := Nat.zero_lt_of_lt room
  obtain ⟨start, -, rfl⟩ := cycleReaches any inRange 0
  have top : after.max = ids.max := maxAct ..
  have begins : after.wrap after.cursor = cycle after.max (0 + start + 1) := by
    rw [← wrapCycle (top.symm ▸ any), top]
    exact congrArg after.wrap behind
  obtain ⟨turn, later, there, held⟩ := cursorRound (boundedAct bounded _) (top.symm ▸ any) begins between
  have last : (after.actAll between).max = ids.max := (maxActAll ..).trans top
  obtain ⟨-, -, -, searches⟩ := unusedSucceeds (boundedActAll (boundedAct bounded _) between) (attemptedAny reclaimed).1
  obtain ⟨steps, same, -, passedBy⟩ := searchesRound (last.symm ▸ any) searches turn (there.trans (by rw [last, top]))
  rw [last] at same passedBy
  -- The same number comes again only a whole round later.
  have around : 0 + start + ids.max.toNat ≤ turn + steps :=
    Nat.ModEq.add_le_of_lt ((cycleEq any ..).mp same) (by omega)
  obtain ⟨step, within, rfl⟩ := cycleReaches any usable (0 + start)
  have positive : step ≠ 0 := fun none => apart (by rw [none, Nat.add_zero])
  by_cases past : 0 + start + step < turn
  · have seen := held (0 + start + step) (by omega) past
    rwa [top] at seen
  · obtain ⟨passed, before⟩ := Nat.exists_eq_add_of_le (Nat.not_lt.mp past)
    rw [before]
    exact .last (passedBy passed (by omega))

/- Between two claims for any number that got the same, whatever else was claimed and given back then, every other
number has been held. -/
theorem claimsGoRound (max : UInt16) (before between : List (Act α)) (first again : UInt16 → α) (id other : UInt16)
    (claimed : ((actAll { max } before).attempt none first).1 = .ok id)
    (reclaimed : ((actAll { max } (before ++ .claim none first :: between)).attempt none again).1 = .ok id)
    (usable : Usable max other) (apart : other ≠ id) :
    ∃ part, part <+: between ∧ (actAll { max } (before ++ .claim none first :: part)).Holds other := by
  have bounded : (actAll { max } before).Bounded := boundedActAll (boundedNone max) before
  have top : (actAll { max } before).max = max := maxActAll ..
  rw [actAllAppend] at reclaimed
  simp only [actAllAppend]
  exact heldBetween bounded claimed reclaimed (top.symm ▸ usable) apart

def goingRound : List (Act Unit) := [.release 1, .claim none fun _ => (), .claim none fun _ => ()]

theorem threeGoRound :
    ((actAll { max := 3 } []).attempt none fun _ => ()).1 = .ok 1 ∧
    ((actAll { max := 3 } ([] ++ .claim none (fun _ => ()) :: goingRound)).attempt none fun _ => ()).1 = .ok 1 ∧
    ∃ part, part <+: goingRound ∧ (actAll { max := 3 } ([] ++ .claim none (fun _ => ()) :: part)).Holds 2 :=
  ⟨rfl, rfl, claimsGoRound 3 [] goingRound _ (fun _ => ()) 1 2 rfl rfl ⟨by decide, by decide⟩ (by decide)⟩

end AmqpClient.ChannelIds
