import AmqpClient.Proofs.Connection.Commotion
import AmqpClient.Recovery.Network

/-! The connections behind a recovering channel. Only the slot of the present delegate holds receivers, and only its
listeners report to the channel's present generation; so all that consumers are told comes from there. -/
namespace AmqpClient

structure LiveConnection.Rested {α : Type} (line : LiveConnection α) : Prop where
  passed : line.core.effects = {}
  mail : line.mail = {}
  heard : line.heard = []

theorem LiveConnection.Rested.settled {α : Type} {line : LiveConnection α} (rested : line.Rested) : line.Settled :=
  ⟨rested.passed, rested.mail ▸ rfl⟩

namespace Network

def reportsTo (generation : Generation) (listener : ActingListener Generation) : Prop := generation ≤ listener.label

def seat (delegate : Handle) (place : Nat) : Option SlotId := if delegate.1 = place then some delegate.2 else none

def slot? (handle : Handle) (world : Network) : Option (Slot (ActingListener Generation)) :=
  (world.lines[handle.1]?).bind fun line => line.core.slots[handle.2]?

def held (handle : Handle) (world : Network) : List ReceiverId := ((world.slot? handle).map Slot.held).getD []

structure Served (delegate : Handle) (generation : Generation) (world : Network) : Prop where
  rested : ∀ {place : Nat} {line}, world.lines[place]? = some line → line.Rested
  centred : ∀ {place : Nat} {line}, world.lines[place]? = some line →
    Slot.Centred (seat delegate place) (reportsTo generation) line.core.slots
  labels : ∀ {place : Nat} {line}, world.lines[place]? = some line → ∀ (id : SlotId) (slot),
    line.core.slots[id]? = some slot → ∀ listener ∈ slot.listeners.shutdown.listeners, listener.label ≤ generation

/- One connection has been at work, and the network has collected what came of it. -/
structure Stirred (place : Nat) (effects : Effects (ActingListener Generation)) (before after : Network) : Prop where
  lines : ∃ line next, before.lines[place]? = some line ∧ after.lines = before.lines.set place next ∧ next.Rested ∧
    Slot.Moves line.core.slots effects next.core.slots
  arrived : after.mail.arrived
    = before.mail.arrived ++ effects.messages.filter fun entry => !before.mail.isDropped entry.1
  events : ∃ noted, after.events = before.events ++ noted ∧ noted ⊆ LiveConnection.news effects

theorem keepStirred {place : Nat} {line next : LiveConnection Generation} {world : Network}
    (there : world.lines[place]? = some line) (rested : line.Rested) (moved : LiveConnection.Moved line next) :
    ∃ effects, Stirred place effects world (world.keep place next) := by
  obtain ⟨settled, effects, carried⟩ := moved rested.settled
  refine ⟨effects, ⟨line, { next with heard := [], mail := {} }, there, rfl, ⟨settled.passed, rfl, rfl⟩, carried.moves⟩,
    ?_, next.heard, rfl, by simpa [rested.heard] using carried.heard⟩
  have arrived : next.mail.arrived = effects.messages := by simpa [rested.mail] using carried.arrived
  have sent := Mail.sendAll next.mail.arrived world.mail
  rw [arrived] at sent
  calc (world.keep place next).mail.arrived
      = (next.mail.arrived.foldl (fun mail entry => (mail.send entry.1 entry.2).2) world.mail).arrived := rfl
    _ = _ := by rw [arrived, sent]

variable {delegate : Handle} {generation : Generation} {world before after : Network} {place : Nat}
  {effects : Effects (ActingListener Generation)}

theorem Stirred.either (stirred : Stirred place effects before after) {other : Nat} {found : LiveConnection Generation}
    (there : after.lines[other]? = some found) :
    (other = place ∧ found.Rested ∧ ∃ line, before.lines[place]? = some line ∧
        Slot.Moves line.core.slots effects found.core.slots) ∨
      (other ≠ place ∧ before.lines[other]? = some found) := by
  obtain ⟨line, next, here, lines, rested, moves⟩ := stirred.lines
  rw [lines, List.getElem?_set] at there
  split at there
  · split at there
    · cases there
      exact .inl ⟨(‹place = other›).symm, rested, line, here, moves⟩
    · cases there
  · exact .inr ⟨fun same => ‹¬place = other› same.symm, there⟩

theorem Served.stirred (served : Served delegate generation before) (stirred : Stirred place effects before after) :
    Served delegate generation after where
  rested there := by
    rcases stirred.either there with ⟨_, rested, _⟩ | ⟨_, here⟩
    · exact rested
    · exact served.rested here
  centred there := by
    rcases stirred.either there with ⟨rfl, _, line, here, moves⟩ | ⟨_, here⟩
    · exact (served.centred here).moves moves
    · exact served.centred here
  labels there id slot inside listener member := by
    rcases stirred.either there with ⟨rfl, _, line, here, moves⟩ | ⟨_, here⟩
    · rcases moves.listeners inside with none | ⟨slot, earlier, same⟩
      · rw [none] at member
        cases member
      · exact served.labels here id slot earlier listener (same ▸ member)
    · exact served.labels here id slot inside listener member

theorem slotOn {line : LiveConnection Generation} (there : world.lines[delegate.1]? = some line) :
    world.slot? delegate = line.core.slots[delegate.2]? := by
  simp [slot?, there]

theorem heldHere {slot : Slot (ActingListener Generation)} (there : world.slot? delegate = some slot) :
    world.held delegate = slot.held := by
  rw [held, there]
  rfl

theorem heldOn {line : LiveConnection Generation} (there : world.lines[delegate.1]? = some line) :
    world.held delegate = Slot.heldBy (seat delegate delegate.1) line.core.slots := by
  simp [held, slotOn there, seat, Slot.heldBy]

theorem Served.shut (served : Served delegate generation world) {slot : Slot (ActingListener Generation)}
    (there : world.slot? delegate = some slot) (closed : slot.closed.isSome) : world.held delegate = [] := by
  obtain ⟨line, here, inside⟩ := Option.bind_eq_some_iff.mp there
  exact (heldHere there).trans ((served.centred here).shut _ slot inside closed)

theorem Stirred.elsewhere (stirred : Stirred place effects before after) (served : Served delegate generation before)
    (other : delegate.1 ≠ place) :
    after.slot? delegate = before.slot? delegate ∧ effects.messages = [] ∧
      ∀ notice ∈ effects.notices, reportsTo generation notice.1 → ∀ signal, notice.2 ≠ .shutdown signal := by
  obtain ⟨line, next, there, lines, _, moves⟩ := stirred.lines
  have centred := served.centred there
  rw [seat, if_neg other] at centred
  refine ⟨?_, moves.silent centred⟩
  rw [slot?, slot?, lines, List.getElem?_set_ne fun same => other same.symm]

theorem Stirred.here (stirred : Stirred place effects before after) (served : Served delegate generation before)
    (same : delegate.1 = place) :
    ∃ slots next, before.slot? delegate = slots[delegate.2]? ∧ after.slot? delegate = next[delegate.2]? ∧
      before.held delegate = Slot.heldBy (some delegate.2) slots ∧
      after.held delegate = Slot.heldBy (some delegate.2) next ∧ Slot.Moves slots effects next ∧
      Slot.Centred (some delegate.2) (reportsTo generation) slots := by
  subst same
  obtain ⟨line, next, there, lines, _, moves⟩ := stirred.lines
  have now : after.lines[delegate.1]? = some next := by
    rw [lines, List.getElem?_set_self (List.getElem?_eq_some_iff.mp there).1]
  have centred := served.centred there
  have before := heldOn there
  have after := heldOn now
  rw [seat, if_pos rfl] at centred before after
  exact ⟨_, _, slotOn there, slotOn now, before, after, moves, centred⟩

theorem Stirred.told (stirred : Stirred place effects before after) (served : Served delegate generation before) :
    ∃ told, after.mail.arrived = before.mail.arrived ++ told ∧ told.Sublist effects.messages ∧
      (∀ entry ∈ told, entry.1 ∈ before.held delegate) ∧
      (∀ entry ∈ told, ∀ reason, entry.2 ≠ .serverClosedConnection reason) ∧
      (after.held delegate).Sublist (before.held delegate) := by
  refine ⟨_, stirred.arrived, List.filter_sublist, ?_⟩
  by_cases same : delegate.1 = place
  · obtain ⟨slots, next, _, _, held, now, moves, centred⟩ := stirred.here served same
    rw [held, now]
    exact ⟨fun entry member => (moves.known centred (List.mem_of_mem_filter member)).1,
      fun entry member => (moves.known centred (List.mem_of_mem_filter member)).2, moves.fewer⟩
  · obtain ⟨slot, silent, _⟩ := stirred.elsewhere served same
    rw [silent, held, held, slot]
    exact ⟨List.forall_mem_nil _, List.forall_mem_nil _, List.Sublist.refl _⟩

theorem Stirred.orderly {final : ConsumerMessage → Bool} (plain : ∀ delivery, final (.delivery delivery) = false)
    (stirred : Stirred place effects before after) (served : Served delegate generation before)
    (orderly : Orderly final (before.held delegate) before.mail.arrived) :
    Orderly final (after.held delegate) after.mail.arrived := by
  rw [stirred.arrived]
  by_cases same : delegate.1 = place
  · obtain ⟨slots, next, _, _, held, now, moves, centred⟩ := stirred.here served same
    rw [held] at orderly
    rw [now]
    exact (moves.orderly plain centred orderly).lose ((List.Sublist.refl _).append List.filter_sublist)
  · obtain ⟨slot, silent, _⟩ := stirred.elsewhere served same
    have same : after.held delegate = before.held delegate := by rw [held, held, slot]
    rw [silent, same]
    simpa using orderly

inductive Stands (delegate : Handle) (generation : Generation) (world : Network)
    (told : List (ReceiverId × ConsumerMessage)) (noted : List (Generation × ChannelEvent)) : Prop
  | open {slot} (there : world.slot? delegate = some slot) (isOpen : slot.closed = none)
      (unsaid : ∀ entry ∈ told, entry.2.isClosing = false)
      (unheard : ∀ raised ∈ noted, raised.1 = generation → ∀ signal, raised.2 ≠ .shutdown signal)
  | shut {slot reason} (there : world.slot? delegate = some slot) (closed : slot.closed = some reason)
      (known : reason.isLoss = false)
      (heard : ∀ raised ∈ noted, raised.1 = generation → ∀ signal, raised.2 = .shutdown signal →
        signal.isRecoverable = false)
  | lost {slot reason} (there : world.slot? delegate = some slot) (closed : slot.closed = some reason)
      (unsaid : ∀ entry ∈ told, entry.2.isClosing = false)

theorem noticeOf {raised : Generation × ChannelEvent} (member : raised ∈ LiveConnection.news effects)
    (its : raised.1 = generation) :
    ∃ notice ∈ effects.notices, reportsTo generation notice.1 ∧ notice.2 = raised.2 := by
  obtain ⟨notice, inside, rfl⟩ := List.mem_map.mp member
  exact ⟨notice, inside, Nat.le_of_eq its.symm, rfl⟩

theorem Stirred.standing (stirred : Stirred place effects before after) (served : Served delegate generation before)
    {slot : Slot (ActingListener Generation)} (there : before.slot? delegate = some slot)
    (isOpen : slot.closed = none) :
    ∃ told noted, after.mail.arrived = before.mail.arrived ++ told ∧ after.events = before.events ++ noted ∧
      Stands delegate generation after told noted := by
  obtain ⟨noted, events, news⟩ := stirred.events
  refine ⟨_, noted, stirred.arrived, events, ?_⟩
  by_cases same : delegate.1 = place
  · obtain ⟨slots, next, was, now, _, _, moves, centred⟩ := stirred.here served same
    cases moves.standing centred (was ▸ there) isOpen with
    | «open» found still unsaid unheard =>
      refine .open (now ▸ found) still (fun entry member => unsaid entry (List.mem_of_mem_filter member)) ?_
      intro raised member its signal
      obtain ⟨notice, inside, reports, event⟩ := noticeOf (news member) its
      exact event ▸ unheard notice inside reports signal
    | shut found closed known heard =>
      refine .shut (now ▸ found) closed known fun raised member its signal shutdown => ?_
      obtain ⟨notice, inside, reports, event⟩ := noticeOf (news member) its
      exact heard notice inside reports signal (event.trans shutdown)
    | lost found closed unsaid =>
      exact .lost (now ▸ found) closed fun entry member => unsaid entry (List.mem_of_mem_filter member)
  · obtain ⟨still, silent, unheard⟩ := stirred.elsewhere served same
    refine .open (still ▸ there) isOpen (by simp [silent]) fun raised member its signal => ?_
    obtain ⟨notice, inside, reports, event⟩ := noticeOf (news member) its
    exact event ▸ unheard notice inside reports signal

theorem Stirred.closed (stirred : Stirred place effects before after) (served : Served delegate generation before)
    {slot : Slot (ActingListener Generation)} {reason : Error} (there : before.slot? delegate = some slot)
    (closed : slot.closed = some reason) :
    (∃ found, after.slot? delegate = some found ∧ found.closed = some reason) ∧
      after.mail.arrived = before.mail.arrived ∧ ∃ noted, after.events = before.events ++ noted ∧
        ∀ raised ∈ noted, raised.1 = generation → ∀ signal, raised.2 ≠ .shutdown signal := by
  obtain ⟨noted, events, news⟩ := stirred.events
  have unraised (unheard : ∀ notice ∈ effects.notices, reportsTo generation notice.1 → ∀ signal,
      notice.2 ≠ .shutdown signal) : ∀ raised ∈ noted, raised.1 = generation → ∀ signal, raised.2 ≠ .shutdown signal :=
    fun raised member its signal => by
      obtain ⟨notice, inside, reports, event⟩ := noticeOf (news member) its
      exact event ▸ unheard notice inside reports signal
  rw [stirred.arrived]
  by_cases same : delegate.1 = place
  · obtain ⟨slots, next, was, now, _, _, moves, centred⟩ := stirred.here served same
    obtain ⟨found, silent, unheard⟩ := moves.closed centred (was ▸ there) closed
    exact ⟨now ▸ found, by simp [silent], noted, events, unraised unheard⟩
  · obtain ⟨still, silent, unheard⟩ := stirred.elsewhere served same
    exact ⟨⟨slot, still ▸ there, closed⟩, by simp [silent], noted, events, unraised unheard⟩

end Network

end AmqpClient
