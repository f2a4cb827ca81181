import AmqpClient.Proofs.Recovery.Succession
import AmqpClient.Proofs.Recovery.Receivers
import AmqpClient.Proofs.Recovery.Attending

/-! A recovering channel over live connections, between one action and the next. Whoever was told that it is over is
not held by the delegate any more; and as long as the delegate is open or only its connection is lost, those on
record have not been told so, but for cancellations. -/
namespace AmqpClient

namespace ConsumerMessage

def isConnectionEnd : ConsumerMessage → Bool
  | serverClosedConnection _ => true
  | _ => false

def isWithdrawal : ConsumerMessage → Bool
  | clientCancelled => true
  | _ => false

def isEnd (message : ConsumerMessage) : Bool := message.isClosing || message.isWithdrawal || message.isConnectionEnd

theorem deliveryGoesOn (delivery : Delivery) : (ConsumerMessage.delivery delivery).isEnd = false := rfl

theorem endWithdraws {message : ConsumerMessage} (last : message.isEnd = true) (unclosed : message.isClosing = false)
    (other : ∀ reason, message ≠ .serverClosedConnection reason) : message.isWithdrawal = true := by
  cases message with
  | clientCancelled => rfl
  | serverClosedConnection reason => exact absurd rfl (other reason)
  | clientClosedChannel | serverClosedChannel | clientClosedConnection => cases unclosed
  | delivery | serverCancelled => cases last

theorem connectionEnds {message : ConsumerMessage} (last : message.isConnectionEnd = true) :
    ∃ reason, message = .serverClosedConnection reason := by
  cases message <;> first | exact ⟨_, rfl⟩ | cases last

end ConsumerMessage

def Unended (recorded : List ReceiverId) (said : List (ReceiverId × ConsumerMessage)) : Prop :=
  ∀ entry ∈ said, entry.1 ∈ recorded → entry.2.isEnd = true → entry.2.isWithdrawal = true

def Unraised (generation : Generation) (events : List (Generation × ChannelEvent)) : Prop :=
  ∀ raised ∈ events, raised.1 = generation → ∀ signal, raised.2 ≠ .shutdown signal

theorem signalsOf {generation : Generation} {events : List (Generation × ChannelEvent)} {signal : ShutdownSignal}
    (member : signal ∈ signalsFor generation events) :
    ∃ raised ∈ events, raised.1 = generation ∧ raised.2 = .shutdown signal := by
  obtain ⟨raised, here, found⟩ := List.mem_filterMap.mp member
  split at found
  · split at found
    · cases found
      exact ⟨raised, here, ‹_›, ‹_›⟩
    · cases found
  · cases found

namespace Network

variable {delegate : Handle} {generation : Generation} {before after world : Network} {place : Nat}
  {effects : Effects (ActingListener Generation)} {recorded : List ReceiverId} {due : Bool}

structure Worked (delegate : Handle) (generation : Generation) (before after : Network)
    (told : List (ReceiverId × ConsumerMessage)) (noted : List (Generation × ChannelEvent)) : Prop where
  served : Served delegate generation after
  arrived : after.mail.arrived = before.mail.arrived ++ told
  events : after.events = before.events ++ noted
  known : ∀ entry ∈ told, entry.1 ∈ before.held delegate
  unspoken : ∀ entry ∈ told, ∀ reason, entry.2 ≠ .serverClosedConnection reason
  fewer : (after.held delegate).Sublist (before.held delegate)
  orderly : Orderly ConsumerMessage.isEnd (before.held delegate) before.mail.arrived →
    Orderly ConsumerMessage.isEnd (after.held delegate) after.mail.arrived
  stands : ∀ slot, before.slot? delegate = some slot → slot.closed = none → Stands delegate generation after told noted
  stays : ∀ slot reason, before.slot? delegate = some slot → slot.closed = some reason →
    (∃ found, after.slot? delegate = some found ∧ found.closed = some reason) ∧ told = [] ∧ Unraised generation noted

theorem Aside.worked (aside : Aside delegate generation before after) :
    ∃ noted, Worked delegate generation before after [] noted ∧ Unraised generation noted := by
  obtain ⟨noted, events, unheard⟩ := aside.events
  refine ⟨noted, ?_, unheard⟩
  exact {
    served := aside.served
    arrived := aside.arrived.trans (List.append_nil _).symm
    events
    known := List.forall_mem_nil _
    unspoken := List.forall_mem_nil _
    fewer := aside.held ▸ List.Sublist.refl _
    orderly := fun orderly => by rw [aside.held, aside.arrived]; exact orderly
    stands := fun slot there isOpen => .open (aside.slot.trans there) isOpen (List.forall_mem_nil _) unheard
    stays := fun slot reason there closed => ⟨⟨slot, aside.slot.trans there, closed⟩, rfl, unheard⟩ }

theorem Stirred.worked (stirred : Stirred place effects before after) (served : Served delegate generation before) :
    ∃ told noted, Worked delegate generation before after told noted := by
  obtain ⟨told, arrived, _, known, unspoken, fewer⟩ := stirred.told served
  obtain ⟨noted, events, _⟩ := stirred.events
  have same {other} (again : after.mail.arrived = before.mail.arrived ++ other) : other = told :=
    List.append_cancel_left (again.symm.trans arrived)
  have alike {other} (again : after.events = before.events ++ other) : other = noted :=
    List.append_cancel_left (again.symm.trans events)
  refine ⟨told, noted, served.stirred stirred, arrived, events, known, unspoken, fewer,
    stirred.orderly ConsumerMessage.deliveryGoesOn served, fun slot there isOpen => ?_, fun slot reason there closed => ?_⟩
  · obtain ⟨other, further, again, more, stands⟩ := stirred.standing served there isOpen
    exact same again ▸ alike more ▸ stands
  · obtain ⟨found, silent, further, more, unheard⟩ := stirred.closed served there closed
    exact ⟨found, (same (silent.trans (List.append_nil _).symm)).symm, alike more ▸ unheard⟩

theorem Served.worked (served : Served delegate generation before)
    (stirred : after = before ∨ ∃ effects, Stirred place effects before after) :
    ∃ told noted, Worked delegate generation before after told noted := by
  rcases stirred with rfl | ⟨_, stirred⟩
  · obtain ⟨noted, worked, _⟩ := (Aside.refl served).worked
    exact ⟨[], noted, worked⟩
  · exact stirred.worked served

/- How it stands with a channel that is not closed: with its delegate, with a recovery that is due, and with the
consumers on record. -/
inductive Stand (delegate : Handle) (recorded : List ReceiverId) (world : Network) (due : Bool) : Prop
  | open {slot} (there : world.slot? delegate = some slot) (isOpen : slot.closed = none) (idle : due = false)
      (unended : Unended recorded world.mail.arrived)
  | shut {slot reason} (there : world.slot? delegate = some slot) (closed : slot.closed = some reason)
      (known : reason.isLoss = false) (idle : due = false)
  | lost {slot reason} (there : world.slot? delegate = some slot) (closed : slot.closed = some reason)
      (unended : Unended recorded world.mail.arrived)

theorem Stand.there (stand : Stand delegate recorded world due) : ∃ slot, world.slot? delegate = some slot := by
  cases stand <;> exact ⟨_, ‹_›⟩

theorem Stand.same (stand : Stand delegate recorded before due) (slot : after.slot? delegate = before.slot? delegate)
    (arrived : after.mail.arrived = before.mail.arrived) : Stand delegate recorded after due := by
  cases stand with
  | «open» there isOpen idle unended => exact .open (slot.trans there) isOpen idle (arrived ▸ unended)
  | shut there closed known idle => exact .shut (slot.trans there) closed known idle
  | lost there closed unended => exact .lost (slot.trans there) closed (arrived ▸ unended)

theorem Stand.regarding {others : List ReceiverId} (stand : Stand delegate recorded world due)
    (unended : Unended recorded world.mail.arrived → Unended others world.mail.arrived) :
    Stand delegate others world due := by
  cases stand with
  | «open» there isOpen idle before => exact .open there isOpen idle (unended before)
  | shut there closed known idle => exact .shut there closed known idle
  | lost there closed before => exact .lost there closed (unended before)

theorem Worked.unended {told : List (ReceiverId × ConsumerMessage)} {noted : List (Generation × ChannelEvent)}
    (worked : Worked delegate generation before after told noted) (unended : Unended recorded before.mail.arrived)
    (unsaid : ∀ entry ∈ told, entry.2.isClosing = false) : Unended recorded after.mail.arrived := by
  rw [worked.arrived]
  refine List.forall_mem_append.mpr ⟨unended, fun entry member _ last => ?_⟩
  exact ConsumerMessage.endWithdraws last (unsaid entry member) (worked.unspoken entry member)

theorem Stand.worked {told : List (ReceiverId × ConsumerMessage)} {noted : List (Generation × ChannelEvent)}
    (stand : Stand delegate recorded before due) (worked : Worked delegate generation before after told noted)
    {later : Bool}
    (unraised : Unraised generation before.events)
    (becomes : later = true → due = true ∨ ∃ signal ∈ signalsFor generation after.events, signal.isRecoverable = true) :
    Stand delegate recorded after later := by
  have idle (before : due = false)
      (unheard : ∀ raised ∈ noted, raised.1 = generation → ∀ signal, raised.2 = .shutdown signal →
        signal.isRecoverable = false) : later = false := by
    refine Bool.eq_false_iff.mpr fun now => ?_
    rcases becomes now with earlier | ⟨signal, member, recoverable⟩
    · exact absurd (before.symm.trans earlier) Bool.false_ne_true
    · obtain ⟨raised, here, its, shutdown⟩ := signalsOf member
      rw [worked.events] at here
      rcases List.mem_append.mp here with old | new
      · exact unraised raised old its signal shutdown
      · exact absurd ((unheard raised new its signal shutdown).symm.trans recoverable) Bool.false_ne_true
  have silent (unraised : Unraised generation noted) : ∀ raised ∈ noted, raised.1 = generation → ∀ signal,
      raised.2 = .shutdown signal → signal.isRecoverable = false :=
    fun raised member its signal shutdown => absurd shutdown (unraised raised member its signal)
  cases stand with
  | «open» there isOpen before unended =>
    cases worked.stands _ there isOpen with
    | «open» now still unsaid unheard =>
      exact .open now still (idle before (silent unheard)) (worked.unended unended unsaid)
    | shut now closed known heard => exact .shut now closed known (idle before heard)
    | lost now closed unsaid => exact .lost now closed (worked.unended unended unsaid)
  | shut there closed known before =>
    obtain ⟨⟨found, now, same⟩, _, unheard⟩ := worked.stays _ _ there closed
    exact .shut now same known (idle before (silent unheard))
  | lost there closed unended =>
    obtain ⟨⟨found, now, same⟩, rfl, _⟩ := worked.stays _ _ there closed
    exact .lost now same (worked.unended unended (List.forall_mem_nil _))

end Network

def RecoveringChannel.receivers {ω η κ : Type} (self : RecoveringChannel ω η κ) : List ReceiverId :=
  self.record.topology.consumers.items.map RecordedConsumer.receiver

abbrev NetworkChannel := RecoveringChannel Network Network.Handle Nat

namespace NetworkChannel

open Network (Served Stand Worked Aside Stirred)

structure Kept (used recorded : List ReceiverId) (current : NetworkChannel) : Prop where
  served : Served current.delegate current.generation current.world
  home : current.connection = current.delegate.1
  unraised : Unraised current.generation current.world.events
  orderly : Orderly ConsumerMessage.isEnd (current.world.held current.delegate) current.world.mail.arrived
  held : current.world.held current.delegate ⊆ used
  arrived : ∀ entry ∈ current.world.mail.arrived, entry.1 ∈ used
  personal : current.record.topology.Personal used
  listed : current.receivers ⊆ recorded
  awaited : current.due = true → current.status = .recovering
  stands : current.status ≠ .closed → Stand current.delegate recorded current.world current.due

structure Went (admitted : List ReceiverId) (before after : NetworkChannel) : Prop where
  same : after = { before with world := after.world, status := after.status, due := after.due }
  busy : before.status ≠ .open → after.status = before.status ∧ (after.due = true → before.due = true)
  arrived : ∃ told, after.world.mail.arrived = before.world.mail.arrived ++ told ∧
    (∀ entry ∈ told, entry.1 ∈ before.world.held before.delegate ++ admitted) ∧
    ∀ entry ∈ told, ∀ reason, entry.2 ≠ .serverClosedConnection reason
  held : after.world.held before.delegate ⊆ before.world.held before.delegate ++ admitted

def Awaiting (receivers : List ReceiverId) (self : NetworkChannel) : Prop :=
  ∀ receiver ∈ receivers, receiver ∉ self.world.held self.delegate ∧
    ∀ entry ∈ self.world.mail.arrived, entry.2.isEnd = true → entry.1 ≠ receiver

namespace Went

variable {admitted more : List ReceiverId} {before middle after : NetworkChannel}

theorem refl (self : NetworkChannel) : Went [] self self :=
  ⟨rfl, fun _ => ⟨rfl, id⟩, ⟨[], (List.append_nil _).symm, List.forall_mem_nil _, List.forall_mem_nil _⟩,
    List.subset_append_left ..⟩

theorem grow (went : Went admitted before after) (within : admitted ⊆ more) : Went more before after := by
  have wider : before.world.held before.delegate ++ admitted ⊆ before.world.held before.delegate ++ more :=
    List.append_subset.mpr ⟨List.subset_append_left .., List.subset_append_of_subset_right _ within⟩
  obtain ⟨told, arrived, known, unspoken⟩ := went.arrived
  exact { went with
    arrived := ⟨told, arrived, fun entry member => wider (known entry member), unspoken⟩
    held := List.Subset.trans went.held wider }

theorem delegate (went : Went admitted before after) : after.delegate = before.delegate := by rw [went.same]

theorem record (went : Went admitted before after) : after.record = before.record := by rw [went.same]

theorem trans (one : Went admitted before middle) (two : Went more middle after) :
    Went (admitted ++ more) before after := by
  have wider : middle.world.held before.delegate ++ more ⊆ before.world.held before.delegate ++ (admitted ++ more) := by
    rw [← List.append_assoc]
    exact List.append_subset.mpr ⟨List.subset_append_of_subset_left _ one.held, List.subset_append_right ..⟩
  obtain ⟨told, arrived, known, unspoken⟩ := one.arrived
  obtain ⟨further, again, heard, silent⟩ := two.arrived
  have held := two.held
  rw [one.delegate] at heard held
  constructor
  · calc
      after = { middle with world := after.world, status := after.status, due := after.due } := two.same
      _ = _ := by rw [one.same]
  · intro waiting
    obtain ⟨status, due⟩ := one.busy waiting
    obtain ⟨still, later⟩ := two.busy (status ▸ waiting)
    exact ⟨still.trans status, fun last => due (later last)⟩
  · refine ⟨told ++ further, by rw [again, arrived, List.append_assoc], ?_,
      List.forall_mem_append.mpr ⟨unspoken, silent⟩⟩
    refine List.forall_mem_append.mpr ⟨fun entry member => ?_, fun entry member => wider (heard entry member)⟩
    rw [← List.append_assoc]
    exact List.mem_append_left _ (known entry member)
  · exact List.Subset.trans held wider

theorem silent (went : Went [] before after) (empty : before.world.held before.delegate = []) :
    after.world.held after.delegate = [] ∧ after.world.mail.arrived = before.world.mail.arrived := by
  have held := went.held
  obtain ⟨told, arrived, known, _⟩ := went.arrived
  rw [empty] at held known
  rw [went.delegate]
  have silent : told = [] :=
    List.eq_nil_iff_forall_not_mem.mpr fun entry member => List.not_mem_nil (known entry member)
  exact ⟨List.subset_nil.mp held, by rw [arrived, silent, List.append_nil]⟩

theorem awaiting {receivers : List ReceiverId} (went : Went admitted before after)
    (awaiting : Awaiting receivers before)
    (apart : ∀ receiver ∈ receivers, receiver ∉ admitted) : Awaiting receivers after := by
  intro receiver member
  obtain ⟨unheld, unended⟩ := awaiting receiver member
  have outside : receiver ∉ before.world.held before.delegate ++ admitted := fun inside =>
    (List.mem_append.mp inside).elim unheld (apart receiver member)
  obtain ⟨told, arrived, known, _⟩ := went.arrived
  rw [went.delegate, arrived]
  refine ⟨fun inside => outside (went.held inside), List.forall_mem_append.mpr ⟨unended, fun entry here _ same => ?_⟩⟩
  exact outside (same ▸ known entry here)

end Went

theorem notifyWorld (view : NetworkChannel → Registry Listener) (notice : Notice) (self : NetworkChannel) :
    ∃ heard, self.notify Network.link view notice = { self with world := { self.world with heard } } := by
  refine List.foldlRecOn (motive := fun next : NetworkChannel =>
    ∃ heard, next = { self with world := { self.world with heard } }) _ _ ⟨self.world.heard, rfl⟩ ?_
  rintro next ⟨heard, rfl⟩ listener _
  exact ⟨_, rfl⟩

theorem attendWorld (self : NetworkChannel) :
    ∃ heard, (self.attend Network.link).world = { self.world with events := [], heard } := by
  refine List.foldlRecOn (motive := fun next : NetworkChannel =>
    ∃ heard, next.world = { self.world with events := [], heard }) _ _ ⟨self.world.heard, rfl⟩ ?_
  rintro next ⟨heard, same⟩ raised _
  unfold RecoveringChannel.handle
  split
  · obtain ⟨more, told⟩ := notifyWorld (fun self => self.listeners.of raised.2.kind) (.channel raised.2) next
    have world : (next.announce Network.link raised.2).world = { self.world with events := [], heard := more } := by
      rw [RecoveringChannel.announce, told, same]
    dsimp only
    split
    · obtain ⟨status, due, after⟩ := RecoveringChannel.afterShutdownElse (next.announce Network.link raised.2) ‹_›
      exact ⟨more, after ▸ world⟩
    · exact ⟨more, world⟩
  · exact ⟨heard, same⟩

namespace Kept

variable {used recorded more : List ReceiverId} {self : NetworkChannel} {world : Network} {place : Nat}

theorem grow (kept : Kept used recorded self) (within : used ⊆ more) : Kept more recorded self :=
  { kept with
    held := List.Subset.trans kept.held within
    arrived := fun entry member => within (kept.arrived entry member)
    personal := kept.personal.grow within }

theorem narrow (kept : Kept used recorded self) : Kept used self.receivers self :=
  { kept with
    listed := List.Subset.refl _
    stands := fun usable => (kept.stands usable).regarding fun unended entry member its =>
      unended entry member (kept.listed its) }

theorem welcome (kept : Kept used recorded self) {receivers : List ReceiverId}
    (new : ∀ receiver ∈ receivers, receiver ∉ used) :
    Kept (used ++ receivers) (recorded ++ receivers) self ∧ Awaiting receivers self := by
  have untold : ∀ entry ∈ self.world.mail.arrived, entry.1 ∉ receivers := fun entry member its =>
    new _ its (kept.arrived entry member)
  refine ⟨{ kept.grow (List.subset_append_left used receivers) with
    listed := List.Subset.trans kept.listed (List.subset_append_left ..)
    stands := fun usable => (kept.stands usable).regarding fun unended entry member its => ?_ }, ?_⟩
  · exact (List.mem_append.mp its).elim (unended entry member) fun brought => absurd brought (untold entry member)
  · exact fun receiver member => ⟨fun held => new receiver member (kept.held held),
      fun entry here _ same => untold entry here (same ▸ member)⟩

theorem remember (kept : Kept used recorded self) {record : ChannelRecord} (personal : record.topology.Personal used)
    (listed : record.topology.consumers.items.map RecordedConsumer.receiver ⊆ recorded) :
    Kept used recorded { self with record } :=
  { kept with personal, listed }

theorem claim (kept : Kept used recorded self) (usable : self.status ≠ .closed) :
    Kept used recorded { self with status := .recovering } :=
  { kept with awaited := fun _ => rfl, stands := fun _ => kept.stands usable }

theorem release (kept : Kept used recorded self) (usable : self.status ≠ .closed) (ready : self.due = false)
    (status : RecoveryStatus) : Kept used recorded { self with status } :=
  { kept with
    awaited := fun due => absurd (ready.symm.trans due) Bool.false_ne_true
    stands := fun _ => kept.stands usable }

theorem listening (kept : Kept used recorded self) (listeners : ChannelListeners Listener)
    (recoveryListeners : Registry Listener) : Kept used recorded { self with listeners, recoveryListeners } :=
  { kept with }

theorem aside (kept : Kept used recorded self) (lines : world.lines = self.world.lines)
    (arrived : world.mail.arrived = self.world.mail.arrived) (events : world.events = self.world.events) :
    Kept used recorded { self with world } := by
  have slot (handle : Network.Handle) : world.slot? handle = self.world.slot? handle := by
    rw [Network.slot?, Network.slot?, lines]
  have held : world.held self.delegate = self.world.held self.delegate := by rw [Network.held, Network.held, slot]
  exact {
    served := kept.served.same lines
    home := kept.home
    unraised := events ▸ kept.unraised
    orderly := by
      rw [held, arrived]
      exact kept.orderly
    held := held ▸ kept.held
    arrived := arrived ▸ kept.arrived
    personal := kept.personal
    listed := kept.listed
    awaited := kept.awaited
    stands := fun usable => (kept.stands usable).same (slot _) arrived }

theorem overheard (kept : Kept used recorded self) (heard : List (String × Notice)) :
    Kept used recorded { self with world := { self.world with heard } } := kept.aside rfl rfl rfl

theorem worked (kept : Kept used recorded self) {told : List (ReceiverId × ConsumerMessage)}
    {noted : List (Generation × ChannelEvent)}
    (worked : Worked self.delegate self.generation self.world world told noted) :
    Kept used recorded (RecoveringChannel.attend Network.link { self with world }) ∧
      Went [] self (RecoveringChannel.attend Network.link { self with world }) := by
  have attended := RecoveringChannel.attendAttended Network.link { self with world }
  have raised : (Network.link.raised world).1 = world.events := rfl
  obtain ⟨heard, after⟩ := attendWorld { self with world }
  dsimp only at attended after
  generalize RecoveringChannel.attend Network.link { self with world } = next at attended after ⊢
  rw [raised] at attended
  have same := attended.same
  have delegate : next.delegate = self.delegate := by rw [same]
  have generation : next.generation = self.generation := by rw [same]
  have record : next.record = self.record := by rw [same]
  have connection : next.connection = self.connection := by rw [same]
  have held : next.world.held self.delegate = world.held self.delegate := by rw [after]; rfl
  have arrived : next.world.mail.arrived = self.world.mail.arrived ++ told := by rw [after]; exact worked.arrived
  constructor
  · constructor
    · rw [delegate, generation, after]
      exact worked.served.same rfl
    · rw [connection, delegate, kept.home]
    · rw [after]
      exact List.forall_mem_nil _
    · rw [delegate, held, after]
      exact worked.orderly kept.orderly
    · rw [delegate, held]
      exact List.Subset.trans worked.fewer.subset kept.held
    · rw [arrived]
      exact List.forall_mem_append.mpr ⟨kept.arrived, fun entry member => kept.held (worked.known entry member)⟩
    · rw [record]
      exact kept.personal
    · rw [RecoveringChannel.receivers, record]
      exact kept.listed
    · exact attended.awaited kept.awaited
    · intro usable
      have before : self.status ≠ .closed := fun closed =>
        usable ((attended.busy (by simp [closed])).trans closed)
      have stand := (kept.stands before).worked worked kept.unraised (fun later => (attended.due later).imp id And.right)
      rw [delegate]
      exact stand.same (after ▸ rfl) (after ▸ rfl)
  · refine ⟨same, fun busy => ⟨attended.busy busy, fun due => ?_⟩, ⟨told, arrived, ?_, worked.unspoken⟩, ?_⟩
    · exact (attended.due due).elim id fun new => absurd new.1 busy
    · exact fun entry member => List.mem_append_left _ (worked.known entry member)
    · rw [held, List.append_nil]
      exact worked.fewer.subset

theorem stirred (kept : Kept used recorded self)
    (stirred : world = self.world ∨ ∃ effects, Stirred place effects self.world world) :
    Kept used recorded (RecoveringChannel.attend Network.link { self with world }) ∧
      Went [] self (RecoveringChannel.attend Network.link { self with world }) := by
  obtain ⟨_, _, worked⟩ := kept.served.worked stirred
  exact kept.worked worked

theorem attend (kept : Kept used recorded self) : Kept used recorded (self.attend Network.link) := by
  obtain ⟨_, worked, _⟩ := (Aside.refl kept.served).worked
  exact (kept.worked worked).1

theorem request (kept : Kept used recorded self) {request : Request} (other : ∀ consumer, request ≠ .consume consumer) :
    Kept used recorded (self.ask Network.link request).2 ∧ Went [] self (self.ask Network.link request).2 :=
  kept.stirred (Network.requestStirred kept.served other)

theorem expecting (kept : Kept used recorded self) {slot} (there : self.world.slot? self.delegate = some slot)
    (isOpen : slot.closed = none) {receiver : ReceiverId} (awaiting : Awaiting [receiver] self)
    (known : receiver ∈ used) :
    Kept used recorded { self with world := self.world.expecting self.delegate receiver } ∧
      Went [receiver] self { self with world := self.world.expecting self.delegate receiver } := by
  obtain ⟨served, now, mail, events⟩ := kept.served.expecting there isOpen receiver
  obtain ⟨new, fresh⟩ := awaiting receiver (List.mem_singleton_self _)
  have before := Network.heldHere there
  have after : (self.world.expecting self.delegate receiver).held self.delegate = slot.receivers ++ [receiver] := by
    rw [Network.held, now]
    rfl
  have fewer : (slot.receivers ++ [receiver]).Sublist (self.world.held self.delegate ++ [receiver]) := by
    rw [before]
    exact (List.sublist_append_left ..).append (List.Sublist.refl _)
  have within : self.world.held self.delegate ++ [receiver] ⊆ used :=
    List.append_subset.mpr ⟨kept.held, List.cons_subset.mpr ⟨known, List.nil_subset _⟩⟩
  constructor
  · exact {
      served
      home := kept.home
      unraised := events ▸ kept.unraised
      orderly := by
        rw [mail, after]
        exact (kept.orderly.receive new fresh).release fewer
      held := by
        rw [after]
        exact List.Subset.trans fewer.subset within
      arrived := by
        rw [mail]
        exact kept.arrived
      personal := kept.personal
      listed := kept.listed
      awaited := kept.awaited
      stands := fun usable => by
        cases kept.stands usable with
        | «open» _ _ idle unended => exact .open now isOpen idle (mail ▸ unended)
        | shut here closed => cases closed.symm.trans ((Option.some.inj (here.symm.trans there)) ▸ isOpen)
        | lost here closed => cases closed.symm.trans ((Option.some.inj (here.symm.trans there)) ▸ isOpen) }
  · refine ⟨rfl, fun _ => ⟨rfl, id⟩, ⟨[], ?_, List.forall_mem_nil _, List.forall_mem_nil _⟩, ?_⟩
    · rw [mail, List.append_nil]
    · rw [after]
      exact fewer.subset

theorem consume (kept : Kept used recorded self) (usable : self.status ≠ .closed) {consumer : RecordedConsumer}
    (awaiting : Awaiting [consumer.receiver] self) (known : consumer.receiver ∈ used) :
    Kept used recorded (self.ask Network.link (.consume consumer)).2 ∧
      Went [consumer.receiver] self (self.ask Network.link (.consume consumer)).2 := by
  obtain ⟨slot, there⟩ := (kept.stands usable).there
  obtain ⟨effects, stirred⟩ := Network.consumeStirred kept.served there consumer
  by_cases isOpen : slot.closed = none
  · rw [if_pos isOpen] at stirred
    obtain ⟨expecting, first⟩ := kept.expecting there isOpen awaiting known
    obtain ⟨asked, second⟩ := expecting.stirred (.inr ⟨effects, stirred⟩)
    exact ⟨asked, first.trans second⟩
  · rw [if_neg isOpen] at stirred
    obtain ⟨asked, went⟩ := kept.stirred (.inr ⟨effects, stirred⟩)
    exact ⟨asked, went.grow (List.nil_subset _)⟩

theorem ask (kept : Kept used recorded self) (usable : self.status ≠ .closed) (request : Request)
    (awaiting : Awaiting request.receivers self) (known : request.receivers ⊆ used) :
    Kept used recorded (self.ask Network.link request).2 ∧
      Went request.receivers self (self.ask Network.link request).2 := by
  by_cases consumes : ∃ consumer, request = .consume consumer
  · obtain ⟨consumer, rfl⟩ := consumes
    exact kept.consume usable awaiting (known (List.mem_singleton_self _))
  · obtain ⟨asked, went⟩ := kept.request fun consumer same => consumes ⟨consumer, same⟩
    exact ⟨asked, went.grow (List.nil_subset _)⟩

end Kept

end NetworkChannel

end AmqpClient
