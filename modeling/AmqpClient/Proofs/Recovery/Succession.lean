import AmqpClient.Proofs.Recovery.Serving

/-! What a recovering channel does to its connections: it asks its delegate, lets go of what it no longer needs,
connects, opens a channel, and makes that its delegate. Only what concerns the present delegate can reach a consumer,
and a new delegate starts with nobody to tell. -/
namespace AmqpClient.Network

variable {delegate : Handle} {generation : Generation} {world before after : Network} {place : Nat}
  {effects : Effects (ActingListener Generation)}

theorem onThere {β : Type} {line : LiveConnection Generation} (there : world.lines[place]? = some line) {other : β}
    {f : LiveConnection Generation → β × LiveConnection Generation} :
    (world.on place other f).2 = world.keep place (f line).2 := by
  unfold on
  rw [there]

theorem onQuietlyStirred (served : Served delegate generation world)
    {f : LiveConnection Generation → LiveConnection Generation}
    (moved : ∀ line, LiveConnection.Moved line (f line)) (place : Nat) :
    world.onQuietly place f = world ∨ ∃ effects, Stirred place effects world (world.onQuietly place f) := by
  unfold onQuietly on
  cases there : world.lines[place]? with
  | none => exact .inl rfl
  | some line => exact .inr (keepStirred there (served.rested there) (moved line))

theorem dropChannelStirred (served : Served delegate generation world) (handle : Handle) :
    link.dropChannel handle world = world ∨ ∃ effects, Stirred handle.1 effects world (link.dropChannel handle world) :=
  onQuietlyStirred served (fun line => LiveConnection.releaseMoved (LiveConnection.actWithinLawful _) .application _ line) _

theorem dropConnectionStirred (served : Served delegate generation world) (place : Nat) :
    link.dropConnection place world = world ∨ ∃ effects, Stirred place effects world (link.dropConnection place world) :=
  onQuietlyStirred served (fun line => LiveConnection.closeMoved (LiveConnection.actWithinLawful _) .application line) _

theorem injectStirred (served : Served delegate generation world) (place : Nat) (more : Inbound) :
    world.inject place more = world ∨ ∃ effects, Stirred place effects world (world.inject place more) :=
  onQuietlyStirred served (fun line => LiveConnection.injectMoved more line) _

theorem requestStirred (served : Served delegate generation world) {request : Request}
    (other : ∀ consumer, request ≠ .consume consumer) :
    (link.request delegate request world).2 = world ∨
      ∃ effects, Stirred delegate.1 effects world (link.request delegate request world).2 := by
  unfold link on
  dsimp only
  cases there : world.lines[delegate.1]? with
  | none => exact .inl rfl
  | some line =>
    exact .inr (keepStirred there (served.rested there)
      (LiveConnection.askMoved (LiveConnection.actWithinLawful _) delegate.2 other line))

def expectingOn (id : SlotId) (receiver : ReceiverId) (line : LiveConnection Generation) : LiveConnection Generation :=
  { line with core := line.core.changeQuietly id fun slot => slot.expect (some receiver) }

theorem expectingSlots {id : SlotId} {line : LiveConnection Generation} {slot : Slot (ActingListener Generation)}
    (there : line.core.slots[id]? = some slot) (receiver : ReceiverId) :
    (expectingOn id receiver line).core.slots = line.core.slots.set id (slot.expect (some receiver)) ∧
      (expectingOn id receiver line).core.effects = line.core.effects := by
  unfold expectingOn Connection.changeQuietly Connection.change
  rw [Connection.slot?, there]
  exact ⟨rfl, Effects.andNone _⟩

def expecting (delegate : Handle) (receiver : ReceiverId) (world : Network) : Network :=
  match world.lines[delegate.1]? with
  | some line => { world with lines := world.lines.set delegate.1 (expectingOn delegate.2 receiver line) }
  | none => world

theorem Served.put (served : Served delegate generation before) {line next : LiveConnection Generation}
    {slot changed : Slot (ActingListener Generation)} (here : before.lines[delegate.1]? = some line)
    (inside : line.core.slots[delegate.2]? = some slot) (rested : next.Rested)
    (slots : next.core.slots = line.core.slots.set delegate.2 changed)
    (shut : changed.closed.isSome → changed.held = [])
    (labels : ∀ listener ∈ changed.listeners.shutdown.listeners, listener.label ≤ generation)
    (lines : after.lines = before.lines.set delegate.1 next) :
    Served delegate generation after ∧ after.slot? delegate = some changed := by
  have bound := (List.getElem?_eq_some_iff.mp here).1
  have within := (List.getElem?_eq_some_iff.mp inside).1
  have either {place : Nat} {found : LiveConnection Generation} (now : after.lines[place]? = some found) :
      (place = delegate.1 ∧ found = next) ∨ before.lines[place]? = some found := by
    rw [lines] at now
    by_cases same : delegate.1 = place
    · subst same
      rw [List.getElem?_set_self bound] at now
      exact .inl ⟨rfl, (Option.some.inj now).symm⟩
    · exact .inr ((List.getElem?_set_ne same).symm.trans now)
  refine ⟨⟨fun now => ?_, fun now => ?_, fun now id found its listener member => ?_⟩, ?_⟩
  · rcases either now with ⟨_, rfl⟩ | before
    · exact rested
    · exact served.rested before
  · rcases either now with ⟨rfl, rfl⟩ | before
    · have centred := served.centred here
      rw [slots]
      refine ⟨fun id found other its => ?_, fun id found its closed => ?_⟩
      · rcases Slot.setEither its with ⟨rfl, _⟩ | ⟨_, its⟩
        · exact absurd (if_pos rfl) fun same : seat delegate delegate.1 = some delegate.2 => other same.symm
        · exact centred.idle id found other its
      · rcases Slot.setEither its with ⟨_, rfl⟩ | ⟨_, its⟩
        · exact shut closed
        · exact centred.shut id found its closed
    · exact served.centred before
  · rcases either now with ⟨rfl, rfl⟩ | before
    · rw [slots] at its
      rcases Slot.setEither its with ⟨_, rfl⟩ | ⟨_, its⟩
      · exact labels listener member
      · exact served.labels here id found its listener member
    · exact served.labels before id found its listener member
  · rw [slot?, lines, List.getElem?_set_self bound, Option.bind_some, slots, List.getElem?_set_self within]

theorem Served.expecting (served : Served delegate generation world) {slot : Slot (ActingListener Generation)}
    (there : world.slot? delegate = some slot) (isOpen : slot.closed = none) (receiver : ReceiverId) :
    Served delegate generation (world.expecting delegate receiver) ∧
      (world.expecting delegate receiver).slot? delegate = some (slot.expect (some receiver)) ∧
      (world.expecting delegate receiver).mail = world.mail ∧
      (world.expecting delegate receiver).events = world.events := by
  obtain ⟨line, here, inside⟩ := Option.bind_eq_some_iff.mp there
  obtain ⟨slots, effects⟩ := expectingSlots inside receiver
  obtain ⟨passed, mail, heard⟩ := served.rested here
  have lines : (world.expecting delegate receiver).lines
      = world.lines.set delegate.1 (expectingOn delegate.2 receiver line) := by
    unfold Network.expecting
    rw [here]
  have open' : (slot.expect (some receiver)).closed = none := isOpen
  obtain ⟨ready, now⟩ := served.put here inside ⟨effects.trans passed, mail, heard⟩ slots (by simp [open'])
    (served.labels here _ slot inside) lines
  refine ⟨ready, now, ?_, ?_⟩
  · unfold Network.expecting
    rw [here]
  · unfold Network.expecting
    rw [here]

theorem consumeStirred (served : Served delegate generation world) {slot : Slot (ActingListener Generation)}
    (there : world.slot? delegate = some slot) (consumer : RecordedConsumer) :
    ∃ effects, Stirred delegate.1 effects
      (if slot.closed = none then world.expecting delegate consumer.receiver else world)
      (link.request delegate (.consume consumer) world).2 := by
  obtain ⟨line, here, inside⟩ := Option.bind_eq_some_iff.mp there
  have asked := LiveConnection.callMoved (LiveConnection.actWithinLawful (line.channels.length + 1)) delegate.2
    (.consume consumer) line
  have after : (link.request delegate (.consume consumer) world).2
      = world.keep delegate.1 (line.call line.acting delegate.2 (.consume consumer)).2 := onThere here
  rw [LiveConnection.expecting, Connection.prepareConsume inside] at asked
  rw [after]
  split
  · rename_i isOpen
    rw [if_pos isOpen] at asked
    obtain ⟨ready, _⟩ := served.expecting there isOpen consumer.receiver
    have bound := (List.getElem?_eq_some_iff.mp here).1
    have lines : (world.expecting delegate consumer.receiver).lines[delegate.1]?
        = some (expectingOn delegate.2 consumer.receiver line) := by
      unfold Network.expecting
      rw [here]
      exact List.getElem?_set_self bound
    have kept : ∀ next, (world.expecting delegate consumer.receiver).keep delegate.1 next = world.keep delegate.1 next := by
      intro next
      unfold Network.expecting keep
      rw [here]
      simp
    rw [← kept]
    exact keepStirred lines (ready.rested lines) asked
  · rename_i closed
    rw [if_neg closed] at asked
    exact keepStirred here (served.rested here) asked

/-! New connections and channels -/

theorem startBlank {options : ConnectionOptions} {inbound : Inbound} {sink : Sink} {limits : Limits}
    {properties : FieldTable} {line : LiveConnection Generation} {bytes : Bytes}
    (started : LiveConnection.start options inbound sink = (.ok (limits, properties, line), bytes)) :
    line.Rested ∧ line.core.slots = [] := by
  unfold LiveConnection.start at started
  split at started
  · cases started
  · cases started
    exact ⟨⟨rfl, rfl, rfl⟩, rfl⟩

inductive Dialled (before : Network) : Except Error Nat × Network → Prop
  | refused {e after} (lines : after.lines = before.lines) (mail : after.mail = before.mail)
      (events : after.events = before.events) : Dialled before (.error e, after)
  | connected {line after} (rested : line.Rested) (blank : line.core.slots = [])
      (lines : after.lines = before.lines ++ [line]) (mail : after.mail = before.mail)
      (events : after.events = before.events) : Dialled before (.ok before.lines.length, after)

theorem attemptDialled (reachable : Bool) (world : Network) : Dialled world (attempt reachable world) := by
  unfold attempt
  split
  · exact .refused rfl rfl rfl
  · exact .refused rfl rfl rfl
  · split
    · exact .refused rfl rfl rfl
    · rename_i plan _ _ _ _ _ line _ started
      obtain ⟨⟨passed, mail, heard⟩, blank⟩ := startBlank started
      have rested : LiveConnection.Rested { line with answers := plan.answers } := ⟨passed, mail, heard⟩
      exact .connected rested blank rfl rfl rfl

theorem dialDialled (addresses : List Bool) (world : Network) : Dialled world (dial attempt addresses world) := by
  induction addresses generalizing world with
  | nil => exact .refused rfl rfl rfl
  | cons address rest ih =>
    have first := attemptDialled address world
    cases rest with
    | nil => exact first
    | cons next rest =>
      unfold dial
      generalize attempt address world = answer at first
      cases first with
      | refused lines mail events =>
        have later := ih ‹_›
        dsimp only
        generalize dial attempt (next :: rest) _ = answer at later
        cases later with
        | refused moreLines moreMail moreEvents =>
          exact .refused (moreLines.trans lines) (moreMail.trans mail) (moreEvents.trans events)
        | connected rested blank moreLines moreMail moreEvents =>
          rw [lines] at moreLines ⊢
          exact .connected rested blank moreLines (moreMail.trans mail) (moreEvents.trans events)
      | connected rested blank lines mail events => exact .connected rested blank lines mail events

theorem Served.connected (served : Served delegate generation before) {line : LiveConnection Generation}
    (rested : line.Rested) (blank : line.core.slots = []) (lines : after.lines = before.lines ++ [line]) :
    Served delegate generation after := by
  have either {place : Nat} {found : LiveConnection Generation} (there : after.lines[place]? = some found) :
      before.lines[place]? = some found ∨ found = line := by
    rw [lines, List.getElem?_append] at there
    split at there
    · exact .inl there
    · exact .inr (List.mem_singleton.mp (List.mem_of_getElem? there))
  refine ⟨fun there => ?_, fun there => ?_, fun there => ?_⟩
  · rcases either there with before | rfl
    · exact served.rested before
    · exact rested
  · rcases either there with before | rfl
    · exact served.centred before
    · rw [blank]
      exact ⟨fun id slot _ inside => by simp at inside, fun id slot inside => by simp at inside⟩
  · rcases either there with before | rfl
    · exact served.labels before
    · rw [blank]
      exact fun id slot inside => by simp at inside

theorem Served.same (served : Served delegate generation before) (lines : after.lines = before.lines) :
    Served delegate generation after :=
  ⟨lines ▸ served.rested, lines ▸ served.centred, lines ▸ served.labels⟩

structure Aside (delegate : Handle) (generation : Generation) (before after : Network) : Prop where
  served : Served delegate generation after
  slot : after.slot? delegate = before.slot? delegate
  arrived : after.mail.arrived = before.mail.arrived
  events : ∃ noted, after.events = before.events ++ noted ∧
    ∀ raised ∈ noted, raised.1 = generation → ∀ signal, raised.2 ≠ .shutdown signal

namespace Aside

theorem refl (served : Served delegate generation world) : Aside delegate generation world world :=
  ⟨served, rfl, rfl, [], (List.append_nil _).symm, List.forall_mem_nil _⟩

theorem trans {middle : Network} (one : Aside delegate generation before middle)
    (two : Aside delegate generation middle after) : Aside delegate generation before after := by
  obtain ⟨noted, events, unheard⟩ := one.events
  obtain ⟨more, further, still⟩ := two.events
  exact ⟨two.served, two.slot.trans one.slot, two.arrived.trans one.arrived, noted ++ more,
    by rw [further, events, List.append_assoc], List.forall_mem_append.mpr ⟨unheard, still⟩⟩

theorem held (aside : Aside delegate generation before after) : after.held delegate = before.held delegate := by
  rw [Network.held, Network.held, aside.slot]

end Aside

theorem Stirred.aside (stirred : Stirred place effects before after) (served : Served delegate generation before)
    (other : delegate.1 ≠ place) : Aside delegate generation before after := by
  obtain ⟨slot, silent, unheard⟩ := stirred.elsewhere served other
  obtain ⟨noted, events, news⟩ := stirred.events
  refine ⟨served.stirred stirred, slot, by simp [stirred.arrived, silent], noted, events, ?_⟩
  intro raised member its signal
  obtain ⟨notice, inside, reports, event⟩ := noticeOf (news member) its
  exact event ▸ unheard notice inside reports signal

theorem Served.perhaps (served : Served delegate generation before) (other : delegate.1 ≠ place)
    (stirred : after = before ∨ ∃ effects, Stirred place effects before after) :
    Aside delegate generation before after := by
  rcases stirred with rfl | ⟨_, stirred⟩
  · exact .refl served
  · exact stirred.aside served other

theorem Served.dialled (served : Served delegate generation world) (other : delegate.1 ≠ world.lines.length)
    {outcome : Except Error Nat × Network} (dialled : Dialled world outcome) :
    Aside delegate generation world outcome.2 ∧
      ∀ place, outcome.1 = .ok place → place = world.lines.length ∧ ∃ line, outcome.2.lines[place]? = some line := by
  cases dialled with
  | refused lines mail events =>
    refine ⟨⟨served.same lines, by simp [slot?, lines], by rw [mail], [], by simp [events], List.forall_mem_nil _⟩, ?_⟩
    exact fun _ refused => by cases refused
  | @connected line after rested blank lines mail events =>
    refine ⟨⟨served.connected rested blank lines, ?_, by rw [mail], [], by simp [events], List.forall_mem_nil _⟩, ?_⟩
    · have same : after.lines[delegate.1]? = world.lines[delegate.1]? := by
        rw [lines, List.getElem?_append]
        split
        · rfl
        · rename_i outside
          have beyond : world.lines.length < delegate.1 := by omega
          rw [List.getElem?_eq_none (Nat.le_of_lt beyond), List.getElem?_eq_none (by simp; omega)]
      rw [slot?, slot?, same]
    · rintro place connected
      cases connected
      exact ⟨rfl, line, by simp [lines]⟩

theorem openStirred (served : Served delegate generation world) {line : LiveConnection Generation}
    (there : world.lines[place]? = some line) (asked : Option UInt16) :
    (∃ effects, Stirred place effects world (world.openChannel place asked).2) ∧
      ∀ number handle, (world.openChannel place asked).1 = .ok (number, handle) →
        handle.1 = place ∧ ∃ slot, (world.openChannel place asked).2.slot? handle = some slot := by
  have rested := served.rested there
  obtain ⟨claimed, exist⟩ := LiveConnection.claimMoved (LiveConnection.actWithinLawful (line.channels.length + 1)) asked line
  have after : (world.openChannel place asked).2 = world.keep place (line.claim line.acting asked).2 := onThere there
  have result : (world.openChannel place asked).1
      = (line.claim line.acting asked).1.map fun reached => (reached.1, (place, reached.2)) := by
    unfold Network.openChannel on
    rw [there]
  rw [after, result]
  refine ⟨keepStirred there rested claimed, fun number handle opened => ?_⟩
  cases answer : (line.claim line.acting asked).1 with
  | error e => simp [answer, Except.map] at opened
  | ok reached =>
    rw [answer] at opened
    cases opened
    have within := exist rested.settled reached.1 reached.2 answer
    have bound := (List.getElem?_eq_some_iff.mp there).1
    refine ⟨rfl, _, Eq.trans ?_ (List.getElem?_eq_getElem within)⟩
    simp only [slot?, keep, List.getElem?_set_self bound, Option.bind_some]
    rfl

inductive Reopened (delegate : Handle) (generation : Generation) (before : Network) :
    Except Error (Nat × UInt16 × Handle) × Network → Prop
  | refused {e after} (aside : Aside delegate generation before after) :
      Reopened delegate generation before (.error e, after)
  | opened {number after} {handle : Handle} {slot} (aside : Aside delegate generation before after)
      (new : handle.1 = before.lines.length) (there : after.slot? handle = some slot) :
      Reopened delegate generation before (.ok (handle.1, number, handle), after)

theorem Reopened.aside {outcome : Except Error (Nat × UInt16 × Handle) × Network}
    (reopened : Reopened delegate generation before outcome) : Aside delegate generation before outcome.2 := by
  cases reopened with
  | refused aside => exact aside
  | opened aside => exact aside

theorem Served.reopened (served : Served delegate generation world) (other : delegate.1 ≠ world.lines.length)
    (number : Option UInt16) :
    Reopened delegate generation world (RecoveringChannel.reopen link number world) := by
  obtain ⟨aside, connected⟩ := served.dialled other (dialDialled world.addresses world)
  have connects : link.connect world = dial attempt world.addresses world := rfl
  unfold RecoveringChannel.reopen
  rw [connects]
  generalize dial attempt world.addresses world = answer at aside connected
  obtain ⟨e | place, middle⟩ := answer
  · exact .refused aside
  · obtain ⟨rfl, line, there⟩ := connected place rfl
    obtain ⟨⟨effects, stirred⟩, exist⟩ := openStirred aside.served there number
    have opens : link.openChannel world.lines.length number middle = middle.openChannel world.lines.length number := rfl
    have opened := aside.trans (stirred.aside aside.served other)
    dsimp only
    rw [opens]
    generalize middle.openChannel world.lines.length number = answer at opened exist
    obtain ⟨e | ⟨given, handle⟩, after⟩ := answer
    · exact .refused (opened.trans (opened.served.perhaps other (dropConnectionStirred opened.served _)))
    · obtain ⟨same, slot, here⟩ := exist given handle rfl
      dsimp only at here ⊢
      rw [← same]
      exact .opened opened same here

theorem Served.succeeded (served : Served delegate generation world)
    (closed : ∀ slot, world.slot? delegate = some slot → slot.closed.isSome) (handle : Handle) :
    Served handle (generation + 1) world ∧ world.held handle = [] := by
  have idle {place : Nat} {line : LiveConnection Generation} (here : world.lines[place]? = some line) (id : SlotId)
      (found : Slot (ActingListener Generation)) (inside : line.core.slots[id]? = some found) : found.held = [] := by
    have centred := served.centred here
    by_cases same : some id = seat delegate place
    · unfold seat at same
      split at same
      · rename_i equal
        obtain rfl := Option.some.inj same
        subst equal
        have its : world.slot? delegate = some found := (slotOn here).trans inside
        exact centred.shut delegate.2 found inside (closed found its)
      · cases same
    · exact (centred.idle id found same inside).1
  refine ⟨⟨served.rested, fun here => ⟨fun id found _ inside => ⟨idle here id found inside, ?_⟩, ?_⟩, ?_⟩, ?_⟩
  · exact fun listener member reports =>
      Nat.not_succ_le_self _ (Nat.le_trans reports (served.labels here id found inside listener member))
  · exact (served.centred here).shut
  · exact fun here id found inside listener member =>
      Nat.le_succ_of_le (served.labels here id found inside listener member)
  · unfold held
    cases other : world.slot? handle with
    | none => rfl
    | some found =>
      obtain ⟨line, here, inside⟩ := Option.bind_eq_some_iff.mp other
      exact idle here _ found inside

theorem addShutdown (listeners : ChannelListeners (ActingListener Generation)) (kind : EventKind)
    (listener : ActingListener Generation) :
    (listeners.add kind listener).2.shutdown.listeners ⊆ listeners.shutdown.listeners ++ [listener] := by
  cases kind with
  | shutdown =>
    have all : (listeners.add .shutdown listener).2.shutdown.listeners = listeners.shutdown.listeners ++ [listener] :=
      List.map_append
    exact all ▸ List.Subset.refl _
  | returned | confirm | flow => exact List.subset_append_left ..

theorem listenAll {id : SlotId} {line : LiveConnection Generation} {slot : Slot (ActingListener Generation)}
    (there : line.core.slots[id]? = some slot) (listener : ActingListener Generation) (kinds : List EventKind) :
    ∃ listeners, kinds.foldl (fun line kind => (line.listen id kind listener).2) line
        = { line with core := { line.core with slots := line.core.slots.set id { slot with listeners } } } ∧
      listeners.shutdown.listeners ⊆ slot.listeners.shutdown.listeners ++ [listener] := by
  obtain ⟨bound, same⟩ := List.getElem?_eq_some_iff.mp there
  refine List.foldlRecOn (motive := fun next : LiveConnection Generation => ∃ listeners,
    next = { line with core := { line.core with slots := line.core.slots.set id { slot with listeners } } } ∧
      listeners.shutdown.listeners ⊆ slot.listeners.shutdown.listeners ++ [listener]) _ _
    ⟨slot.listeners, ?_, List.subset_append_left ..⟩ ?_
  · rw [← same, List.set_getElem_self]
  · rintro next ⟨listeners, rfl, known⟩ kind _
    refine ⟨(listeners.add kind listener).2, ?_, fun other member => ?_⟩
    · unfold LiveConnection.listen Connection.slot?
      simp only [List.getElem?_set_self bound]
      simp [Connection.setSlot]
    · rcases List.mem_append.mp (addShutdown listeners kind listener member) with before | new
      · exact known before
      · exact List.mem_append_right _ new

theorem Served.attached (served : Served delegate generation world) {slot : Slot (ActingListener Generation)}
    (there : world.slot? delegate = some slot) :
    Served delegate generation (attach delegate generation world) ∧
      (∃ listeners, (attach delegate generation world).slot? delegate = some { slot with listeners }) ∧
      (attach delegate generation world).mail = world.mail ∧
      (attach delegate generation world).events = world.events := by
  obtain ⟨line, here, inside⟩ := Option.bind_eq_some_iff.mp there
  obtain ⟨passed, mail, heard⟩ := served.rested here
  obtain ⟨listeners, listened, known⟩ := listenAll inside { label := generation }
    [EventKind.shutdown, .returned, .confirm, .flow]
  let changed : Slot (ActingListener Generation) := { slot with listeners }
  let next : LiveConnection Generation :=
    { line with core := { line.core with slots := line.core.slots.set delegate.2 changed }, heard := [], mail := {} }
  have attached : attach delegate generation world
      = { world with lines := world.lines.set delegate.1 next } := by
    unfold attach onQuietly
    rw [onThere here]
    dsimp only
    rw [listened]
    simp [keep, next, changed, heard, mail]
  have rested : next.Rested := ⟨passed, rfl, rfl⟩
  have labels : ∀ listener ∈ changed.listeners.shutdown.listeners, listener.label ≤ generation := by
    intro listener member
    rcases List.mem_append.mp (known member) with before | new
    · exact served.labels here _ slot inside listener before
    · exact List.mem_singleton.mp new ▸ Nat.le_refl _
  have lines := congrArg Network.lines attached
  obtain ⟨ready, now⟩ := served.put here inside rested rfl ((served.centred here).shut _ slot inside) labels lines
  exact ⟨ready, ⟨listeners, now⟩, by rw [attached], by rw [attached]⟩

end AmqpClient.Network
