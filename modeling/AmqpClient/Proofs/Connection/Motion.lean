import AmqpClient.Proofs.Connection.Treatment
import AmqpClient.Connection

/-! The slots of a connection over a while: new ones come, and those that are there are treated one at a time. In a
connection where only one slot holds receivers, all that consumers are told comes from that slot. -/
namespace AmqpClient

namespace Effects

variable {α : Type}

def and (one two : Effects α) : Effects α :=
  { messages := one.messages ++ two.messages, notices := one.notices ++ two.notices }

@[simp] theorem andNone (effects : Effects α) : effects.and {} = effects := by simp [Effects.and]

@[simp] theorem noneAnd (effects : Effects α) : Effects.and {} effects = effects := rfl

theorem andAnd (one two three : Effects α) : (one.and two).and three = one.and (two.and three) := by
  simp [Effects.and]

end Effects

namespace Slot

variable {α : Type}

def blank (number : UInt16) : Slot α := { number }

inductive Moves (slots : List (Slot α)) : Effects α → List (Slot α) → Prop
  | still : Moves slots {} slots
  | opened {effects : Effects α} {next : List (Slot α)} (moves : Moves slots effects next) (number : UInt16) :
      Moves slots effects (next ++ [blank number])
  | treated {effects more : Effects α} {next : List (Slot α)} {slot changed : Slot α} {id : Nat}
      (moves : Moves slots effects next) (there : next[id]? = some slot) (treated : slot.Treated changed more) :
      Moves slots (effects.and more) (next.set id changed)

theorem Moves.trans {slots middle next : List (Slot α)} {effects more : Effects α} (one : Moves slots effects middle)
    (two : Moves middle more next) : Moves slots (effects.and more) next := by
  induction two with
  | still => exact (effects.andNone).symm ▸ one
  | opened _ number ih => exact ih.opened number
  | treated _ there treated ih => exact Effects.andAnd .. ▸ ih.treated there treated

theorem Moves.length {slots next : List (Slot α)} {effects : Effects α} (moves : Moves slots effects next) :
    slots.length ≤ next.length := by
  induction moves with
  | still => exact Nat.le_refl _
  | opened _ _ ih => exact Nat.le_trans ih (by simp)
  | treated _ _ _ ih => rwa [List.length_set]

def heldBy (here : Option SlotId) (slots : List (Slot α)) : List ReceiverId :=
  ((here.bind fun id => slots[id]?).map held).getD []

/- All that is held is held by the slot that is here, if there is one, and nobody else reports to certain
listeners when it closes. -/
structure Centred (here : Option SlotId) (mine : α → Prop) (slots : List (Slot α)) : Prop where
  idle : ∀ (id : SlotId) (slot : Slot α), some id ≠ here → slots[id]? = some slot →
    slot.held = [] ∧ ∀ listener ∈ slot.listeners.shutdown.listeners, ¬ mine listener
  shut : ∀ (id : SlotId) (slot : Slot α), slots[id]? = some slot → slot.closed.isSome → slot.held = []

variable {here : Option SlotId} {mine : α → Prop} {slots middle next : List (Slot α)} {effects more : Effects α}

theorem setEither {id other : SlotId} {changed found : Slot α} (there : (slots.set id changed)[other]? = some found) :
    (id = other ∧ found = changed) ∨ (id ≠ other ∧ slots[other]? = some found) := by
  rw [List.getElem?_set] at there
  split at there
  · split at there
    · exact .inl ⟨‹_›, (Option.some.inj there).symm⟩
    · cases there
  · exact .inr ⟨‹_›, there⟩

theorem openedEither {number : UInt16} {id : SlotId} {found : Slot α}
    (there : (slots ++ [blank number])[id]? = some found) : slots[id]? = some found ∨ found = blank number := by
  rw [List.getElem?_append] at there
  split at there
  · exact .inl there
  · exact .inr (List.mem_singleton.mp (List.mem_of_getElem? there))

theorem Centred.moves (centred : Centred here mine slots) (moves : Moves slots effects next) :
    Centred here mine next := by
  induction moves with
  | still => exact centred
  | @opened _ _ _ number ih =>
    constructor
    · intro id slot other there
      rcases openedEither there with before | rfl
      · exact ih.idle id slot other before
      · exact ⟨rfl, List.forall_mem_nil _⟩
    · intro id slot there closed
      rcases openedEither there with before | rfl
      · exact ih.shut id slot before closed
      · cases closed
  | @treated _ _ _ slot changed at_ _ there treated ih =>
    constructor
    · intro id found other after
      rcases setEither after with ⟨rfl, rfl⟩ | ⟨_, before⟩
      · obtain ⟨held, listeners⟩ := ih.idle _ slot other there
        exact ⟨List.sublist_nil.mp (held ▸ treated.fewer), treated.listeners ▸ listeners⟩
      · exact ih.idle id found other before
    · intro id found after closed
      rcases setEither after with ⟨rfl, rfl⟩ | ⟨_, before⟩
      · exact treated.closedHolds (ih.shut _ slot there) closed
      · exact ih.shut id found before closed

theorem Centred.elsewhere (centred : Centred here mine slots) {id : SlotId} {slot changed : Slot α}
    (there : slots[id]? = some slot) (treated : slot.Treated changed more) (other : some id ≠ here) :
    more.messages = [] ∧ ∀ notice ∈ more.notices, mine notice.1 → ∀ signal, notice.2 ≠ .shutdown signal := by
  obtain ⟨held, listeners⟩ := centred.idle id slot other there
  exact ⟨treated.silent held, fun notice member known signal shutdown =>
    listeners _ (treated.shutdownHeard member shutdown).1 known⟩

theorem heldBySet {id : SlotId} {slot : Slot α} (there : slots[id]? = some slot) (changed : Slot α) :
    heldBy here (slots.set id changed) = if some id = here then changed.held else heldBy here slots := by
  have bound := (List.getElem?_eq_some_iff.mp there).1
  cases here with
  | none => rfl
  | some other =>
    unfold heldBy
    simp only [Option.bind_some, List.getElem?_set, if_pos bound, Option.some.injEq]
    split <;> rfl

theorem heldByOpened (here : Option SlotId) (slots : List (Slot α)) (number : UInt16) :
    heldBy here (slots ++ [blank number]) = heldBy here slots := by
  cases here with
  | none => rfl
  | some id =>
    unfold heldBy
    simp only [Option.bind_some, List.getElem?_append]
    split
    · rfl
    · rename_i outside
      rw [List.getElem?_eq_none (Nat.le_of_not_lt outside)]
      cases id - slots.length <;> rfl

theorem Moves.fewer (moves : Moves slots effects next) : (heldBy here next).Sublist (heldBy here slots) := by
  induction moves with
  | still => exact List.Sublist.refl _
  | opened _ number ih => rwa [heldByOpened]
  | @treated _ _ middle slot _ id _ there treated ih =>
    rw [heldBySet there]
    split
    · rename_i same
      have its : heldBy here middle = slot.held := by simp [heldBy, ← same, there]
      exact treated.fewer.trans (its ▸ ih)
    · exact ih

theorem Moves.known (moves : Moves slots effects next) (centred : Centred here mine slots)
    {entry : ReceiverId × ConsumerMessage} (member : entry ∈ effects.messages) :
    entry.1 ∈ heldBy here slots ∧ ∀ reason, entry.2 ≠ .serverClosedConnection reason := by
  induction moves with
  | still => cases member
  | opened _ _ ih => exact ih member
  | @treated first more middle slot changed id moves there treated ih =>
    rcases List.mem_append.mp member with before | now
    · exact ih before
    · obtain ⟨held, other⟩ := treated.known now
      refine ⟨moves.fewer.subset ?_, other⟩
      by_cases same : some id = here
      · simpa [heldBy, ← same, there] using held
      · exact absurd held (((centred.moves moves).idle id slot same there).1 ▸ List.not_mem_nil)

theorem Moves.orderly {final : ConsumerMessage → Bool} (plain : ∀ delivery, final (.delivery delivery) = false)
    {said : List (ReceiverId × ConsumerMessage)} (moves : Moves slots effects next) (centred : Centred here mine slots)
    (orderly : Orderly final (heldBy here slots) said) :
    Orderly final (heldBy here next) (said ++ effects.messages) := by
  induction moves with
  | still => simpa using orderly
  | opened _ number ih => rwa [heldByOpened]
  | @treated first more middle slot changed id moves there treated ih =>
    have centred := centred.moves moves
    have told : (first.and more).messages = first.messages ++ more.messages := rfl
    rw [heldBySet there, told, ← List.append_assoc]
    split
    · rename_i same
      have its : heldBy here middle = slot.held := by simp [heldBy, ← same, there]
      exact treated.orderly plain (its ▸ ih)
    · rename_i other
      rw [(centred.elsewhere there treated other).1, List.append_nil]
      exact ih

/- How it can stand with the slot that was open: it still is, or it was shut and told why, or it was lost without
a word. -/
inductive Standing (id : SlotId) (mine : α → Prop) (slots : List (Slot α)) (effects : Effects α) : Prop
  | open {slot : Slot α} (there : slots[id]? = some slot) (isOpen : slot.closed = none)
      (unsaid : ∀ entry ∈ effects.messages, entry.2.isClosing = false)
      (unheard : ∀ notice ∈ effects.notices, mine notice.1 → ∀ signal, notice.2 ≠ .shutdown signal)
  | shut {slot : Slot α} {reason : Error} (there : slots[id]? = some slot) (closed : slot.closed = some reason)
      (known : reason.isLoss = false)
      (heard : ∀ notice ∈ effects.notices, mine notice.1 → ∀ signal, notice.2 = .shutdown signal →
        signal.isRecoverable = false)
  | lost {slot : Slot α} {reason : Error} (there : slots[id]? = some slot) (closed : slot.closed = some reason)
      (unsaid : ∀ entry ∈ effects.messages, entry.2.isClosing = false)

theorem Standing.opened {id : SlotId} (standing : Standing id mine slots effects) (number : UInt16) :
    Standing id mine (slots ++ [blank number]) effects := by
  have kept : ∀ {slot : Slot α}, slots[id]? = some slot → (slots ++ [blank number])[id]? = some slot := fun there =>
    (List.getElem?_append_left (List.getElem?_eq_some_iff.mp there).1).trans there
  cases standing with
  | «open» there isOpen unsaid unheard => exact .open (kept there) isOpen unsaid unheard
  | shut there closed known heard => exact .shut (kept there) closed known heard
  | lost there closed unsaid => exact .lost (kept there) closed unsaid

theorem Standing.treated {id : SlotId} {slot changed : Slot α} (there : slots[id]? = some slot)
    (treated : slot.Treated changed more) (isOpen : slot.closed = none)
    (unsaid : ∀ entry ∈ effects.messages, entry.2.isClosing = false)
    (unheard : ∀ notice ∈ effects.notices, mine notice.1 → ∀ signal, notice.2 ≠ .shutdown signal) :
    Standing id mine (slots.set id changed) (effects.and more) := by
  have now : (slots.set id changed)[id]? = some changed :=
    List.getElem?_set_self (List.getElem?_eq_some_iff.mp there).1
  cases treated with
  | quiet closed _ _ other =>
    exact .open now (closed.trans isOpen) (List.forall_mem_append.mpr ⟨unsaid, List.forall_mem_nil _⟩)
      (List.forall_mem_append.mpr ⟨unheard, fun notice member _ => other notice member⟩)
  | delivered delivery member =>
    exact .open now isOpen (List.forall_mem_append.mpr ⟨unsaid, by simp [ConsumerMessage.isClosing]⟩)
      (List.forall_mem_append.mpr ⟨unheard, List.forall_mem_nil _⟩)
  | cancelled closed _ _ _ _ cancels =>
    exact .open now (closed.trans isOpen)
      (List.forall_mem_append.mpr ⟨unsaid, by simpa using ConsumerMessage.cancellationCloses cancels⟩)
      (List.forall_mem_append.mpr ⟨unheard, List.forall_mem_nil _⟩)
  | lost _ _ closed => exact .lost now closed (List.forall_mem_append.mpr ⟨unsaid, List.forall_mem_nil _⟩)
  | shut _ _ _ _ closed _ _ known deliberate =>
    refine .shut now closed known (List.forall_mem_append.mpr ⟨?_, ?_⟩)
    · exact fun notice member its signal shutdown => absurd shutdown (unheard notice member its signal)
    · intro notice member _ signal shutdown
      obtain ⟨_, _, rfl⟩ := List.mem_map.mp member
      cases shutdown
      exact deliberate

theorem Standing.unmoved {id : SlotId} (standing : Standing id mine slots effects) (silent : more.messages = [])
    (unheard : ∀ notice ∈ more.notices, mine notice.1 → ∀ signal, notice.2 ≠ .shutdown signal)
    (kept : ∀ slot, slots[id]? = some slot → ∃ found, next[id]? = some found ∧ found.closed = slot.closed) :
    Standing id mine next (effects.and more) := by
  have said : (effects.and more).messages = effects.messages := by simp [Effects.and, silent]
  cases standing with
  | «open» there isOpen unsaid before =>
    obtain ⟨found, here, same⟩ := kept _ there
    exact .open here (same.trans isOpen) (said ▸ unsaid) (List.forall_mem_append.mpr ⟨before, unheard⟩)
  | shut there closed known heard =>
    obtain ⟨found, here, same⟩ := kept _ there
    refine .shut here (same.trans closed) known (List.forall_mem_append.mpr ⟨heard, ?_⟩)
    exact fun notice member its signal shutdown => absurd shutdown (unheard notice member its signal)
  | lost there closed unsaid =>
    obtain ⟨found, here, same⟩ := kept _ there
    exact .lost here (same.trans closed) (said ▸ unsaid)

theorem closedUnheard {slot changed : Slot α} (treated : slot.Treated changed more) (closed : slot.closed.isSome) :
    ∀ notice ∈ more.notices, mine notice.1 → ∀ signal, notice.2 ≠ .shutdown signal := by
  intro notice member _ signal shutdown
  simp [(treated.shutdownHeard member shutdown).2] at closed

theorem Standing.further {id other : SlotId} {slot changed : Slot α} (standing : Standing id mine slots effects)
    (centred : Centred (some id) mine slots) (there : slots[other]? = some slot)
    (treated : slot.Treated changed more) : Standing id mine (slots.set other changed) (effects.and more) := by
  by_cases same : other = id
  · subst same
    have bound := (List.getElem?_eq_some_iff.mp there).1
    cases closed : slot.closed with
    | none =>
      cases standing with
      | «open» _ _ unsaid unheard => exact .treated there treated closed unsaid unheard
      | shut here known | lost here known =>
        cases here.symm.trans there
        cases known.symm.trans closed
    | some reason =>
      have shut : slot.closed.isSome := by simp [closed]
      refine standing.unmoved (treated.silent (centred.shut _ slot there shut)) (closedUnheard treated shut) ?_
      intro found here
      cases here.symm.trans there
      exact ⟨changed, List.getElem?_set_self bound, (treated.closedStays closed).trans closed.symm⟩
  · obtain ⟨silent, unheard⟩ := centred.elsewhere there treated fun equal => same (Option.some.inj equal)
    exact standing.unmoved silent unheard fun found here => ⟨found, (List.getElem?_set_ne same).trans here, rfl⟩

theorem Moves.standing {id : SlotId} {slot : Slot α} (moves : Moves slots effects next)
    (centred : Centred (some id) mine slots) (there : slots[id]? = some slot) (isOpen : slot.closed = none) :
    Standing id mine next effects := by
  induction moves with
  | still => exact .open there isOpen (List.forall_mem_nil _) (List.forall_mem_nil _)
  | opened _ number ih => exact ih.opened number
  | treated moves here treated ih => exact ih.further (centred.moves moves) here treated

theorem Moves.closed {id : SlotId} {slot : Slot α} {reason : Error} (moves : Moves slots effects next)
    (centred : Centred (some id) mine slots) (there : slots[id]? = some slot) (closed : slot.closed = some reason) :
    (∃ found, next[id]? = some found ∧ found.closed = some reason) ∧ effects.messages = [] ∧
      ∀ notice ∈ effects.notices, mine notice.1 → ∀ signal, notice.2 ≠ .shutdown signal := by
  induction moves with
  | still => exact ⟨⟨slot, there, closed⟩, rfl, List.forall_mem_nil _⟩
  | opened _ number ih =>
    obtain ⟨⟨found, here, same⟩, rest⟩ := ih
    exact ⟨⟨found, (List.getElem?_append_left (List.getElem?_eq_some_iff.mp here).1).trans here, same⟩, rest⟩
  | @treated first more middle before changed other moves here treated ih =>
    obtain ⟨⟨found, its, same⟩, silent, unheard⟩ := ih
    have centred := centred.moves moves
    have said : (first.and more).messages = more.messages := by simp [Effects.and, silent]
    rw [said]
    by_cases equal : other = id
    · subst equal
      cases its.symm.trans here
      have shut : before.closed.isSome := by simp [same]
      exact ⟨⟨changed, List.getElem?_set_self (List.getElem?_eq_some_iff.mp here).1, treated.closedStays same⟩,
        treated.silent (centred.shut _ before here shut),
        List.forall_mem_append.mpr ⟨unheard, closedUnheard treated shut⟩⟩
    · obtain ⟨quiet, unheardMore⟩ := centred.elsewhere here treated fun same => equal (Option.some.inj same)
      exact ⟨⟨found, (List.getElem?_set_ne equal).trans its, same⟩, quiet,
        List.forall_mem_append.mpr ⟨unheard, unheardMore⟩⟩

theorem Moves.listeners {id : SlotId} {found : Slot α} (moves : Moves slots effects next)
    (there : next[id]? = some found) :
    found.listeners = {} ∨ ∃ slot, slots[id]? = some slot ∧ found.listeners = slot.listeners := by
  induction moves generalizing found with
  | still => exact .inr ⟨found, there, rfl⟩
  | opened _ number ih =>
    rcases openedEither there with before | rfl
    · exact ih before
    · exact .inl rfl
  | treated moves here treated ih =>
    rcases setEither there with ⟨rfl, rfl⟩ | ⟨_, before⟩
    · exact treated.listeners ▸ ih here
    · exact ih before

theorem Moves.silent (moves : Moves slots effects next) (centred : Centred none mine slots) :
    effects.messages = [] ∧ ∀ notice ∈ effects.notices, mine notice.1 → ∀ signal, notice.2 ≠ .shutdown signal := by
  induction moves with
  | still => exact ⟨rfl, List.forall_mem_nil _⟩
  | opened _ _ ih => exact ih
  | @treated first more _ _ _ _ moves here treated ih =>
    obtain ⟨silent, unheard⟩ := ih
    obtain ⟨quiet, unheardMore⟩ := (centred.moves moves).elsewhere here treated (by simp)
    exact ⟨by simp [Effects.and, silent, quiet], List.forall_mem_append.mpr ⟨unheard, unheardMore⟩⟩

end Slot

end AmqpClient
