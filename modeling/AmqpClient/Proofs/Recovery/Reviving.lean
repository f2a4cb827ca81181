import AmqpClient.Proofs.Recovery.Keeping
import AmqpClient.Proofs.Recovery.Attempt
import AmqpClient.Proofs.Recovery.Hearing

/-! One recovery over live connections. The new delegate starts with nobody on it; it gets those on record, one after
the other, and whoever is given up after that hears so once. -/
namespace AmqpClient

namespace NetworkChannel

open Network (Served Stand Reopened)

variable {used recorded : List ReceiverId} {self next : NetworkChannel}

/-! Reports, and consumers that are given up -/

theorem reportKept (kept : Kept used recorded self) (notice : Notice) :
    ∃ heard, self.report Network.link notice = { self with world := { self.world with heard } } ∧
      Kept used recorded { self with world := { self.world with heard } } := by
  obtain ⟨heard, same⟩ := notifyWorld RecoveringChannel.recoveryListeners notice self
  exact ⟨heard, same, kept.overheard heard⟩

theorem attendUnraised (self : NetworkChannel) (unraised : Unraised self.generation self.world.events) :
    ∃ heard, self.attend Network.link = { self with world := { self.world with events := [], heard } } := by
  refine List.foldlRecOn (motive := fun next : NetworkChannel =>
    ∃ heard, next = { self with world := { self.world with events := [], heard } }) _ _ ⟨self.world.heard, rfl⟩ ?_
  rintro next ⟨heard, rfl⟩ raised member
  unfold RecoveringChannel.handle
  split
  · rename_i present
    obtain ⟨more, told⟩ := notifyWorld (fun self => self.listeners.of raised.2.kind) (.channel raised.2)
      { self with world := { self.world with events := [], heard } }
    have other := unraised raised member present
    dsimp only
    split
    · exact absurd ‹_› (other _)
    · exact ⟨more, told⟩
  · exact ⟨heard, rfl⟩

theorem tellAll (consumers : List RecordedConsumer) (message : ConsumerMessage) (self : NetworkChannel)
    (unraised : Unraised self.generation self.world.events) :
    ∃ events heard, consumers.foldl
        (fun self consumer => self.act Network.link (Network.link.tell consumer.receiver message)) self
          = { self with world := { self.world with
                mail := consumers.foldl (fun mail consumer => (mail.send consumer.receiver message).2) self.world.mail
                events, heard } } ∧
      Unraised self.generation events := by
  induction consumers generalizing self with
  | nil => exact ⟨self.world.events, self.world.heard, rfl, unraised⟩
  | cons consumer rest ih =>
    have told : Unraised self.generation (Network.link.tell consumer.receiver message self.world).events := unraised
    obtain ⟨heard, first⟩ :=
      attendUnraised { self with world := Network.link.tell consumer.receiver message self.world } told
    obtain ⟨events, more, all, quiet⟩ := ih
      { self with world := { Network.link.tell consumer.receiver message self.world with events := [], heard } }
      (List.forall_mem_nil _)
    refine ⟨events, more, ?_, quiet⟩
    rw [List.foldl_cons, RecoveringChannel.act, first]
    exact all

def farewells (message : ConsumerMessage) (self : NetworkChannel) : List (ReceiverId × ConsumerMessage) :=
  ((self.record.abandon.1.map RecordedConsumer.receiver).map fun receiver => (receiver, message)).filter
    fun entry => !self.world.mail.isDropped entry.1

theorem farewellTo {message : ConsumerMessage} {entry : ReceiverId × ConsumerMessage}
    (member : entry ∈ farewells message self) :
    entry.1 ∈ self.record.abandon.1.map RecordedConsumer.receiver ∧ entry.2 = message := by
  obtain ⟨receiver, here, rfl⟩ := List.mem_map.mp (List.mem_of_mem_filter member)
  exact ⟨here, rfl⟩

theorem abandoned (unraised : Unraised self.generation self.world.events) (message : ConsumerMessage) :
    ∃ events heard, self.abandonConsumers Network.link message =
        { self with
          record := self.record.abandon.2
          world := { self.world with
            mail := { self.world.mail with arrived := self.world.mail.arrived ++ farewells message self }
            events, heard } } ∧
      Unraised self.generation events := by
  obtain ⟨events, heard, told, unraised⟩ := tellAll self.record.abandon.1 message
    { self with record := self.record.abandon.2 } unraised
  have sent := Mail.sendAll ((self.record.abandon.1.map RecordedConsumer.receiver).map fun receiver => (receiver, message))
    self.world.mail
  rw [List.foldl_map, List.foldl_map] at sent
  dsimp only at told sent
  rw [sent] at told
  exact ⟨events, heard, told, unraised⟩

theorem abandonKept (kept : Kept used recorded self) (usable : self.status ≠ .closed) (message : ConsumerMessage)
    {status : RecoveryStatus} (closing : message.isEnd = true → status = .closed)
    (awaited : self.due = true → status = .recovering) (awaiting : Awaiting self.receivers self) :
    Kept used recorded { self.abandonConsumers Network.link message with status } := by
  obtain ⟨events, heard, after, unraised⟩ := abandoned kept.unraised message
  obtain ⟨personal, within, once⟩ := ChannelRecord.abandonPersonal kept.personal
  obtain ⟨narrow, _, _⟩ := ChannelRecord.abandonPersonal kept.personal.narrow
  have those : self.record.abandon.1.map RecordedConsumer.receiver ⊆ self.receivers := List.map_subset _ within
  rw [after]
  exact {
    served := kept.served.same rfl
    home := kept.home
    unraised
    orderly := by
      have free : ∀ entry ∈ self.world.mail.arrived, entry.2.isEnd = true →
          entry.1 ∉ self.record.abandon.1.map RecordedConsumer.receiver :=
        fun entry member last here => (awaiting entry.1 (those here)).2 entry member last rfl
      have informed := kept.orderly.inform message once free fun _ receiver here => (awaiting receiver (those here)).1
      exact informed.lose ((List.Sublist.refl _).append List.filter_sublist)
    held := kept.held
    arrived := List.forall_mem_append.mpr ⟨kept.arrived, fun entry member => by
      obtain ⟨consumer, here, same⟩ := List.mem_map.mp (those (farewellTo member).1)
      exact same ▸ kept.personal.known consumer here⟩
    personal
    listed := fun receiver member => by
      obtain ⟨consumer, here, rfl⟩ := List.mem_map.mp member
      exact kept.listed (narrow.known consumer here)
    awaited
    stands := fun unclosed => by
      have unending : message.isEnd = false := Bool.eq_false_iff.mpr fun last => unclosed (closing last)
      have more (unended : Unended recorded self.world.mail.arrived) :
          Unended recorded (self.world.mail.arrived ++ farewells message self) := by
        refine List.forall_mem_append.mpr ⟨unended, fun entry member _ last => ?_⟩
        rw [(farewellTo member).2, unending] at last
        cases last
      cases kept.stands usable with
      | «open» there isOpen idle unended => exact .open there isOpen idle (more unended)
      | shut there closed known idle => exact .shut there closed known idle
      | lost there closed unended => exact .lost there closed (more unended) }

/-! Replays -/

theorem requestsKept (kept : Kept used recorded self) {list : List Request}
    (others : ∀ request ∈ list, ∀ consumer, request ≠ .consume consumer) :
    Kept used recorded (Replay.requests (RecoveringChannel.ask Network.link) list self).2 ∧
      Went [] self (Replay.requests (RecoveringChannel.ask Network.link) list self).2 := by
  refine @Replay.requestsKeep _ _ (fun next => Kept used recorded next ∧ Went [] self next) list ?_ self ⟨kept, .refl self⟩
  rintro next request member ⟨kept, went⟩
  obtain ⟨asked, further⟩ := kept.request (others request member)
  exact ⟨asked, went.trans further⟩

theorem queuesKept (kept : Kept used recorded self) (queues : List RecordedQueue) (record : ChannelRecord) :
    Kept used recorded (Replay.queues (RecoveringChannel.ask Network.link) queues record self).2.2 ∧
      Went [] self (Replay.queues (RecoveringChannel.ask Network.link) queues record self).2.2 := by
  refine @Replay.queuesKeep _ _ (fun next => Kept used recorded next ∧ Went [] self next) queues ?_ record self
    ⟨kept, .refl self⟩
  rintro next queue member ⟨kept, went⟩
  obtain ⟨asked, further⟩ := kept.request
    (ChannelRecord.queuesStartNothing queues queue.request (List.mem_map_of_mem member))
  exact ⟨asked, went.trans further⟩

theorem consumersKept (consumers : List RecordedConsumer) (record : ChannelRecord) (kept : Kept used recorded self)
    (claimed : self.status = .recovering) (own : (consumers.map RecordedConsumer.receiver).Nodup)
    (awaiting : Awaiting (consumers.map RecordedConsumer.receiver) self)
    (known : consumers.map RecordedConsumer.receiver ⊆ used) :
    Kept used recorded (Replay.consumers (RecoveringChannel.ask Network.link) consumers record self).2.2 ∧
      Went (consumers.map RecordedConsumer.receiver) self
        (Replay.consumers (RecoveringChannel.ask Network.link) consumers record self).2.2 := by
  induction consumers generalizing record self with
  | nil => exact ⟨kept, .refl self⟩
  | cons consumer rest ih =>
    rw [List.map_cons] at own awaiting known ⊢
    obtain ⟨apart, own⟩ := List.nodup_cons.mp own
    obtain ⟨here, waiting⟩ := List.forall_mem_cons.mp awaiting
    obtain ⟨its, known⟩ := List.cons_subset.mp known
    have asked := kept.consume (by simp [claimed]) (List.forall_mem_singleton.mpr here) its
    unfold Replay.consumers
    generalize self.ask Network.link (.consume consumer) = answer at asked ⊢
    obtain ⟨result, after⟩ := answer
    obtain ⟨kept, went⟩ := asked
    have stopped : Went (consumer.receiver :: rest.map RecordedConsumer.receiver) self after :=
      went.grow (List.cons_subset.mpr ⟨List.mem_cons_self .., List.nil_subset _⟩)
    cases result with
    | error e => exact ⟨kept, stopped⟩
    | ok reply =>
      cases reply with
      | started tag =>
        have still : Awaiting (rest.map RecordedConsumer.receiver) after := went.awaiting waiting
          fun receiver member same => apart (List.mem_singleton.mp same ▸ member)
        have claimed : after.status = .recovering := (went.busy (by simp [claimed])).1.trans claimed
        obtain ⟨kept, further⟩ := ih (record.retag consumer.tag tag) kept claimed own still known
        exact ⟨kept, went.trans further⟩
      | done | declared | counted | got | fetched => exact ⟨kept, stopped⟩

theorem queuesPersonal {σ : Type} (ask : σ → Request → Except Error Reply × σ) (queues : List RecordedQueue)
    {record : ChannelRecord} (personal : record.topology.Personal used) (s : σ) :
    (Replay.queues ask queues record s).2.1.topology.Personal used := by
  induction queues generalizing record s with
  | nil => exact personal
  | cons queue rest ih =>
    unfold Replay.queues
    rcases ask s queue.request with ⟨e | reply, after⟩
    · exact personal
    · cases reply with
      | declared declared => exact ih (personal.renameQueue queue.name declared.queue) after
      | done | counted | started | got | fetched => exact personal

theorem consumersPersonal {σ : Type} (ask : σ → Request → Except Error Reply × σ) (consumers : List RecordedConsumer)
    {record : ChannelRecord} (personal : record.topology.Personal used) (s : σ) :
    (Replay.consumers ask consumers record s).2.1.topology.Personal used := by
  induction consumers generalizing record s with
  | nil => exact personal
  | cons consumer rest ih =>
    unfold Replay.consumers
    rcases ask s (.consume consumer) with ⟨e | reply, after⟩
    · exact personal
    · cases reply with
      | started tag => exact ih (ChannelRecord.retagPersonal personal consumer.tag tag) after
      | done | declared | counted | got | fetched => exact personal

theorem topologyKept (kept : Kept used recorded self) (claimed : self.status = .recovering) {owners : List ReceiverId}
    {record : ChannelRecord} (personal : record.topology.Personal owners) (awaiting : Awaiting owners self)
    (known : owners ⊆ used) :
    (Replay.topology (RecoveringChannel.ask Network.link) record self).2.1.topology.Personal owners ∧
      Kept used recorded (Replay.topology (RecoveringChannel.ask Network.link) record self).2.2 ∧
      Went owners self (Replay.topology (RecoveringChannel.ask Network.link) record self).2.2 := by
  have exchanged := requestsKept kept record.exchangesStartNothing
  unfold Replay.topology
  generalize Replay.requests (RecoveringChannel.ask Network.link) record.exchangeRequests self = answer at exchanged ⊢
  obtain ⟨e | ⟨⟩, second⟩ := answer <;> obtain ⟨kept, first⟩ := exchanged
  · exact ⟨personal, kept, first.grow (List.nil_subset _)⟩
  · have queued := queuesKept kept record.topology.queues.items record
    have renamed := queuesPersonal (RecoveringChannel.ask Network.link) record.topology.queues.items personal second
    dsimp only
    generalize Replay.queues (RecoveringChannel.ask Network.link) record.topology.queues.items record second = answer
      at queued renamed ⊢
    obtain ⟨e | ⟨⟩, named, third⟩ := answer <;> obtain ⟨kept, went⟩ := queued <;> have second := first.trans went
    · exact ⟨renamed, kept, second.grow (List.nil_subset _)⟩
    · have bound := requestsKept kept named.bindingsStartNothing
      dsimp only
      generalize Replay.requests (RecoveringChannel.ask Network.link) named.bindingRequests third = answer at bound ⊢
      obtain ⟨e | ⟨⟩, fourth⟩ := answer <;> obtain ⟨kept, went⟩ := bound <;> have third := second.trans went
      · exact ⟨renamed, kept, third.grow (List.nil_subset _)⟩
      · have within : named.topology.consumers.items.map RecordedConsumer.receiver ⊆ owners :=
          List.forall_mem_map.mpr renamed.known
        have still := third.awaiting awaiting fun _ _ => List.not_mem_nil
        have claimed : fourth.status = .recovering := (third.busy (by simp [claimed])).1.trans claimed
        obtain ⟨kept, went⟩ := consumersKept named.topology.consumers.items named kept claimed renamed.receivers
          (fun receiver member => still receiver (within member)) (List.Subset.trans within known)
        exact ⟨consumersPersonal _ _ renamed fourth, kept, (third.trans went).grow within⟩

structure Restored (before after : NetworkChannel) : Prop where
  status : after.status = before.status
  due : after.due = true → before.due = true
  receivers : after.receivers ⊆ before.receivers
  arrived : ∃ told, after.world.mail.arrived = before.world.mail.arrived ++ told ∧
    ∀ entry ∈ told, ∀ reason, entry.2 ≠ .serverClosedConnection reason

theorem Went.restored {admitted : List ReceiverId} (went : Went admitted self next) (busy : self.status ≠ .open)
    {record : ChannelRecord}
    (receivers : record.topology.consumers.items.map RecordedConsumer.receiver ⊆ self.receivers) :
    Restored self { next with record } := by
  obtain ⟨told, arrived, _, unspoken⟩ := went.arrived
  exact ⟨(went.busy busy).1, (went.busy busy).2, receivers, told, arrived, unspoken⟩

theorem restoreKept (kept : Kept used recorded self) (claimed : self.status = .recovering)
    (awaiting : Awaiting self.receivers self) :
    Kept used recorded (self.restore Network.link).2 ∧ Restored self (self.restore Network.link).2 := by
  have busy : self.status ≠ .open := by simp [claimed]
  have known : self.receivers ⊆ used := List.forall_mem_map.mpr kept.personal.known
  have narrow := kept.personal.narrow
  have prepared := requestsKept kept self.record.modesStartNothing
  unfold RecoveringChannel.restore
  generalize Replay.requests (RecoveringChannel.ask Network.link) self.record.modeRequests self = answer at prepared ⊢
  obtain ⟨e | ⟨⟩, middle⟩ := answer <;> obtain ⟨kept, went⟩ := prepared
  · exact ⟨kept, went.restored busy (went.record ▸ List.Subset.refl _)⟩
  · dsimp only at kept went ⊢
    have narrow : middle.record.topology.Personal self.receivers := went.record ▸ narrow
    have same : middle.receivers = self.receivers := by rw [RecoveringChannel.receivers, went.record]; rfl
    have still := went.awaiting awaiting fun _ _ => List.not_mem_nil
    have claimed : middle.status = .recovering := (went.busy busy).1.trans claimed
    split
    · obtain ⟨personal, replayed, further⟩ := topologyKept kept claimed narrow still known
      have receivers : _ ⊆ self.receivers := List.forall_mem_map.mpr personal.known
      exact ⟨replayed.remember (personal.grow known) (List.Subset.trans receivers (same ▸ kept.listed)),
        (went.trans further).restored busy receivers⟩
    · have lasting : ConsumerMessage.serverCancelled.isEnd ≠ true := Bool.false_ne_true
      have given : Kept used recorded _ := abandonKept kept (by simp [claimed]) .serverCancelled
        (fun last => absurd last lasting) kept.awaited (same ▸ still)
      obtain ⟨events, heard, after, _⟩ := abandoned kept.unraised .serverCancelled
      rw [after] at given ⊢
      obtain ⟨told, arrived, _, unspoken⟩ := went.arrived
      refine ⟨given, (went.busy busy).1, (went.busy busy).2, ?_, told ++ farewells .serverCancelled middle, ?_, ?_⟩
      · exact List.forall_mem_map.mpr (ChannelRecord.abandonPersonal narrow).1.known
      · rw [← List.append_assoc, ← arrived]
      · exact List.forall_mem_append.mpr ⟨unspoken, fun entry member reason => by simp [(farewellTo member).2]⟩

/-! Attempts -/

/- A recovery may start: the delegate is closed, and nobody on record was told that it is over. -/
structure Waiting (current : NetworkChannel) : Prop where
  claimed : current.status = .recovering
  ready : current.due = false
  lost : ∃ slot reason, current.world.slot? current.delegate = some slot ∧ slot.closed = some reason
  unended : ∀ entry ∈ current.world.mail.arrived, entry.2.isEnd = true → entry.1 ∉ current.receivers

structure Succeeded (before after : NetworkChannel) : Prop where
  record : after.record = before.record
  status : after.status = before.status
  due : after.due = true → before.due = true
  empty : after.world.held after.delegate = []
  arrived : after.world.mail.arrived = before.world.mail.arrived

theorem Succeeded.went {middle : NetworkChannel} (succeeded : Succeeded self middle) (went : Went [] middle next)
    (busy : self.status ≠ .open) : Succeeded self next := by
  obtain ⟨empty, arrived⟩ := went.silent succeeded.empty
  obtain ⟨status, due⟩ := went.busy (succeeded.status ▸ busy)
  exact ⟨went.record.trans succeeded.record, status.trans succeeded.status, fun later => succeeded.due (due later), empty,
    arrived.trans succeeded.arrived⟩

theorem freshKept (self : NetworkChannel) {slot} (served : Served self.delegate self.generation self.world)
    (home : self.connection = self.delegate.1)
    (there : self.world.slot? self.delegate = some slot) (empty : slot.held = [])
    (unraised : Unraised self.generation self.world.events) (ready : self.due = false)
    (orderly : Orderly ConsumerMessage.isEnd [] self.world.mail.arrived)
    (arrived : ∀ entry ∈ self.world.mail.arrived, entry.1 ∈ used) (personal : self.record.topology.Personal used)
    (unended : Unended self.receivers self.world.mail.arrived) : Kept used self.receivers self := by
  have held : self.world.held self.delegate = [] := (Network.heldHere there).trans empty
  exact {
    served, home, unraised, arrived, personal
    orderly := held ▸ orderly
    held := held ▸ List.nil_subset _
    listed := List.Subset.refl _
    awaited := fun due => absurd (ready.symm.trans due) Bool.false_ne_true
    stands := fun _ => by
      cases closed : slot.closed with
      | none => exact .open there closed ready unended
      | some reason => exact .lost there closed unended }

theorem replaceKept (kept : Kept used recorded self) (waiting : Waiting self) (heeded : self.world.events = [])
    {delegate : Network.Handle} {slot} (there : self.world.slot? delegate = some slot) :
    Kept used self.receivers (self.replaceDelegate Network.link delegate.1 delegate) ∧
      Succeeded self (self.replaceDelegate Network.link delegate.1 delegate) := by
  obtain ⟨old, reason, oldThere, closed⟩ := waiting.lost
  have shut : ∀ slot, self.world.slot? self.delegate = some slot → slot.closed.isSome := by
    intro found here
    simp [Option.some.inj (here.symm.trans oldThere), closed]
  obtain ⟨fresh, empty⟩ := kept.served.succeeded shut delegate
  obtain ⟨served, ⟨listeners, now⟩, mail, events⟩ := fresh.attached there
  have nobody : slot.held = [] := (Network.heldHere there).symm.trans empty
  unfold RecoveringChannel.replaceDelegate
  have link : Network.link.attach delegate (self.generation + 1) self.world
      = Network.attach delegate (self.generation + 1) self.world := rfl
  dsimp only
  rw [link]
  generalize Network.attach delegate (self.generation + 1) self.world = world at served now mail events ⊢
  let replaced : NetworkChannel :=
    { self with delegate, connection := delegate.1, generation := self.generation + 1, world }
  have ready : Kept used self.receivers replaced := by
    refine freshKept replaced served rfl now nobody ?_ waiting.ready ?_ (mail ▸ kept.arrived) kept.personal ?_
    · exact events ▸ heeded ▸ List.forall_mem_nil _
    · exact mail ▸ kept.orderly.release (List.nil_sublist _)
    · exact mail ▸ fun entry member its last => absurd its (waiting.unended entry member last)
  have succeeded : Succeeded self replaced :=
    ⟨rfl, rfl, id, (Network.heldHere now).trans nobody, congrArg Mail.arrived mail⟩
  have busy : self.status ≠ .open := by simp [waiting.claimed]
  obtain ⟨kept, went⟩ := ready.stirred (Network.dropChannelStirred ready.served self.delegate)
  have first := succeeded.went went busy
  obtain ⟨kept, went⟩ := kept.stirred (Network.dropConnectionStirred kept.served self.connection)
  exact ⟨kept, first.went went busy⟩

theorem reopeningKept (kept : Kept used recorded self) (waiting : Waiting self) :
    ∃ heard, self.begun Network.link = { self with world := { self.world with heard } } ∧
      Kept used recorded { self with world := { self.world with heard } } ∧
      Reopened self.delegate self.generation { self.world with heard } (self.reopening Network.link) := by
  obtain ⟨heard, begun, kept⟩ := reportKept kept (.recoveryStarted self.channel)
  obtain ⟨old, _, there, _⟩ := waiting.lost
  obtain ⟨line, here, _⟩ := Option.bind_eq_some_iff.mp there
  have bound := (List.getElem?_eq_some_iff.mp here).1
  refine ⟨heard, begun, kept, ?_⟩
  unfold RecoveringChannel.reopening
  rw [begun]
  exact kept.served.reopened (Nat.ne_of_lt bound) (some self.channel)

theorem asideKept (kept : Kept used recorded self) (waiting : Waiting self) {world : Network}
    (aside : Network.Aside self.delegate self.generation self.world world) :
    ∃ heard, RecoveringChannel.attend Network.link { self with world }
        = { self with world := { world with events := [], heard } } ∧
      Kept used recorded { self with world := { world with events := [], heard } } ∧
      Waiting { self with world := { world with events := [], heard } } := by
  obtain ⟨noted, worked, unheard⟩ := aside.worked
  have unraised : Unraised self.generation world.events := by
    rw [worked.events]
    exact List.forall_mem_append.mpr ⟨kept.unraised, unheard⟩
  obtain ⟨attended, _⟩ := kept.worked worked
  obtain ⟨heard, after⟩ := attendUnraised { self with world } unraised
  obtain ⟨slot, reason, there, closed⟩ := waiting.lost
  rw [after] at attended
  refine ⟨heard, after, attended, waiting.claimed, waiting.ready, ⟨slot, reason, aside.slot.trans there, closed⟩, ?_⟩
  exact aside.arrived.symm ▸ waiting.unended

/- A replay that fails leaves a channel whose delegate is closed too, and has told nobody so. -/
def FailsQuietly (arrived : Nat) (after : NetworkChannel) : Prop :=
  after.status = .closed →
    ((after.world.slot? after.delegate).bind Slot.closed).isSome = true ∧
      ∀ entry ∈ after.world.mail.arrived.drop arrived, entry.2.isEnd = true → entry.2.isConnectionEnd = true

inductive Tried (used : List ReceiverId) (self : NetworkChannel) : Except Error Unit × NetworkChannel → Prop
  | refused {e after} (status : after.status = .open) (kept : Kept used after.receivers after)
      (again : Waiting { after with status := .recovering })
      (arrived : after.world.mail.arrived = self.world.mail.arrived) : Tried used self (.error e, after)
  | failed {e after} (status : after.status = .closed)
      (kept : FailsQuietly self.world.mail.arrived.length after → Kept used after.receivers after) :
      Tried used self (.error e, after)
  | replayed {after} (status : after.status = .open) (kept : Kept used after.receivers after) :
      Tried used self (.ok (), after)

theorem renewed (kept : Kept used recorded self) (waiting : Waiting self) {connection : Nat} {number : UInt16}
    {delegate : Network.Handle} {world : Network}
    (opened : self.reopening Network.link = (.ok (connection, number, delegate), world)) :
    Kept used self.receivers
        (RecoveringChannel.restore Network.link (self.reattached Network.link world connection delegate)).2 ∧
      Restored self
        (RecoveringChannel.restore Network.link (self.reattached Network.link world connection delegate)).2 := by
  obtain ⟨heard, begun, started, reopened⟩ := reopeningKept kept waiting
  have ready : Waiting { self with world := { self.world with heard } } :=
    ⟨waiting.claimed, waiting.ready, waiting.lost, waiting.unended⟩
  rw [opened] at reopened
  cases reopened with
  | @opened _ _ _ slot aside new there =>
    obtain ⟨told, after, kept, again⟩ := asideKept started ready aside
    obtain ⟨kept, succeeded⟩ := replaceKept kept again rfl there
    unfold RecoveringChannel.reattached
    rw [begun]
    dsimp only at after ⊢
    rw [after]
    generalize RecoveringChannel.replaceDelegate Network.link delegate.1 delegate _ = attached at kept succeeded ⊢
    have arrived : attached.world.mail.arrived = self.world.mail.arrived := succeeded.arrived.trans aside.arrived
    have same : attached.receivers = self.receivers := by rw [RecoveringChannel.receivers, succeeded.record]; rfl
    have awaiting : Awaiting attached.receivers attached := by
      rw [same]
      intro receiver member
      rw [succeeded.empty, arrived]
      exact ⟨List.not_mem_nil, fun entry here last its => waiting.unended entry here last (its ▸ member)⟩
    obtain ⟨kept, restored⟩ := restoreKept kept (succeeded.status.trans waiting.claimed) awaiting
    obtain ⟨told, further, unspoken⟩ := restored.arrived
    exact ⟨kept, restored.status.trans succeeded.status, fun due => succeeded.due (restored.due due),
      same ▸ restored.receivers, told, arrived ▸ further, unspoken⟩

theorem failedTried {last : NetworkChannel} (kept : Kept used recorded last) (waiting : Waiting self)
    (restored : Restored self last) (cause : Error) :
    Tried used self (RecoveringChannel.recoveryFailed Network.link cause
      { last.abandonConsumers Network.link (.serverClosedConnection cause) with status := .closed }) := by
  have usable : last.status ≠ .closed := by simp [restored.status, waiting.claimed]
  have ready : last.due = true → RecoveryStatus.closed = .recovering := fun due =>
    absurd (waiting.ready.symm.trans (restored.due due)) Bool.false_ne_true
  have given := abandonKept kept usable (.serverClosedConnection cause) (fun _ => rfl) ready
  obtain ⟨events, told, after, _⟩ := abandoned kept.unraised (.serverClosedConnection cause)
  rw [after] at given ⊢
  generalize same : ({ last with
      record := last.record.abandon.2, status := .closed
      world := { last.world with
        mail := { last.world.mail with
          arrived := last.world.mail.arrived ++ farewells (.serverClosedConnection cause) last }
        events, heard := told } } : NetworkChannel) = shut at given ⊢
  have status : shut.status = .closed := same ▸ rfl
  have slot : shut.world.slot? shut.delegate = last.world.slot? last.delegate := same ▸ rfl
  have said : shut.world.mail.arrived
      = last.world.mail.arrived ++ farewells (.serverClosedConnection cause) last := same ▸ rfl
  obtain ⟨heard, reported⟩ := notifyWorld RecoveringChannel.recoveryListeners (.recoveryFailed shut.channel cause) shut
  unfold RecoveringChannel.recoveryFailed RecoveringChannel.report
  rw [reported]
  refine .failed status fun quiet => ?_
  obtain ⟨closed, silent⟩ := quiet status
  obtain ⟨reason, found⟩ := Option.isSome_iff_exists.mp closed
  obtain ⟨found, there, closed⟩ := Option.bind_eq_some_iff.mp found
  have empty : last.world.held last.delegate = [] := kept.served.shut (slot.symm.trans there) (by simp [closed])
  obtain ⟨told, arrived, unspoken⟩ := restored.arrived
  have new : shut.world.mail.arrived.drop self.world.mail.arrived.length
      = told ++ farewells (.serverClosedConnection cause) last := by simp [said, arrived]
  refine ((given fun receiver member => ?_).overheard heard).narrow
  rw [empty, arrived]
  refine ⟨List.not_mem_nil, List.forall_mem_append.mpr ⟨fun entry here ends same => ?_, fun entry here ends => ?_⟩⟩
  · exact waiting.unended entry here ends (restored.receivers (same ▸ member))
  · obtain ⟨reason, spoken⟩ := ConsumerMessage.connectionEnds (silent entry (new ▸ List.mem_append_left _ here) ends)
    exact absurd spoken (unspoken entry here reason)

theorem refusedTried (kept : Kept used recorded self) (waiting : Waiting self) {e : Error} {world : Network}
    (unopened : self.reopening Network.link = (.error e, world)) :
    Tried used self (RecoveringChannel.recoveryFailed Network.link e
      { RecoveringChannel.attend Network.link { self.begun Network.link with world } with status := .open }) := by
  obtain ⟨heard, begun, started, reopened⟩ := reopeningKept kept waiting
  have ready : Waiting { self with world := { self.world with heard } } :=
    ⟨waiting.claimed, waiting.ready, waiting.lost, waiting.unended⟩
  rw [unopened] at reopened
  cases reopened with
  | refused aside =>
    obtain ⟨told, after, kept, again⟩ := asideKept started ready aside
    rw [begun]
    dsimp only at after ⊢
    rw [after]
    have usable := kept.release (by simp [waiting.claimed]) again.ready .open
    obtain ⟨more, reported, kept⟩ := reportKept usable (.recoveryFailed self.channel e)
    unfold RecoveringChannel.recoveryFailed
    dsimp only at reported ⊢
    rw [reported]
    exact .refused rfl kept.narrow ⟨rfl, again.ready, again.lost, again.unended⟩ aside.arrived

theorem runRecoveryTried (kept : Kept used recorded self) (waiting : Waiting self) :
    Tried used self (self.runRecovery Network.link) := by
  have cases := RecoveringChannel.ran Network.link self
  generalize self.runRecovery Network.link = outcome at cases
  cases cases with
  | refused unopened => exact refusedTried kept waiting unopened
  | @failed connection number delegate world cause last opened replay =>
    obtain ⟨kept, restored⟩ := renewed kept waiting opened
    rw [replay] at kept restored
    exact failedTried kept waiting restored cause
  | @replayed connection number delegate world last opened replay =>
    obtain ⟨kept, restored⟩ := renewed kept waiting opened
    rw [replay] at kept restored
    dsimp only at kept restored
    have due : last.due = false :=
      Bool.eq_false_iff.mpr fun due => absurd (waiting.ready.symm.trans (restored.due due)) Bool.false_ne_true
    have usable := kept.release (by simp [restored.status, waiting.claimed]) due .open
    obtain ⟨heard, reported, kept⟩ := reportKept usable (.recoveryCompleted self.channel)
    rw [reported]
    exact .replayed rfl kept.narrow

end NetworkChannel

end AmqpClient
