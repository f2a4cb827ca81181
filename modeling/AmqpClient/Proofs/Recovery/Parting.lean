import AmqpClient.Proofs.Recovery.Reviving
import AmqpClient.Proofs.Recovery.Discipline

/-! The last message that a consumer gets. Whatever the application, the network and the servers do, a message that
ends a consumer is the last one it gets, as long as recoveries go as they are meant to. -/
namespace AmqpClient

/- What the application, its network and its server may do to a channel: calls and recoveries, what arrives on a
connection until it fails, what will be found on connecting, receivers that are let go, and listeners. -/
inductive Turn
  | call (request : Request)
  | recover
  | settle (attempts : Nat)
  | serve (place : Nat) (inbound : Inbound)
  | reach (addresses : List Bool) (plans : List ServerPlan)
  | discard (receiver : ReceiverId)
  | listen (kind : EventKind) (listener : Listener)
  | unlisten (kind : EventKind) (id : ListenerId)
  | follow (listener : Listener)
  | unfollow (id : ListenerId)

namespace Turn

def occurrence : Turn → Occurrence Network
  | call request => .call request
  | recover => .recover
  | settle attempts => .settle attempts
  | serve place inbound => .signal (Network.inject place inbound)
  | reach addresses plans => .signal fun world => { world with addresses, plans }
  | discard receiver => .signal fun world => { world with mail := world.mail.drop receiver }
  | listen kind listener => .listen kind listener
  | unlisten kind id => .unlisten kind id
  | follow listener => .follow listener
  | unfollow id => .unfollow id

def receivers : Turn → List ReceiverId
  | call request => request.receivers
  | _ => []

end Turn

namespace NetworkChannel

open Network (Served Stand Reopened)

variable {used recorded : List ReceiverId} {self next : NetworkChannel}

def closure? (self : NetworkChannel) : Option Error := (self.world.slot? self.delegate).bind Slot.closed

def Uncancelled (self : NetworkChannel) : Prop :=
  ∀ entry ∈ self.world.mail.arrived, entry.2.isWithdrawal = true → entry.1 ∉ self.receivers

/- Recoveries as they are meant: of a lost connection, for consumers that still run, and if the replay fails, then on
a channel that closed before it told anybody so. -/
def Smooth (turn : Turn) (before after : NetworkChannel) : Prop :=
  match turn with
  | .recover => before.status = .open →
    (closure? before).any Error.isLoss = true ∧ Uncancelled before ∧ FailsQuietly before.world.mail.arrived.length after
  | .settle _ => before.due = true → Uncancelled before ∧ FailsQuietly before.world.mail.arrived.length after
  | _ => True

def undergone (turn : Turn) (self : NetworkChannel) : NetworkChannel := self.undergo Network.link turn.occurrence

def run (turns : List Turn) (self : NetworkChannel) : NetworkChannel :=
  turns.foldl (fun self turn => undergone turn self) self

def RunsSmoothly : List Turn → NetworkChannel → Prop
  | [], _ => True
  | turn :: rest, self => Smooth turn self (undergone turn self) ∧ RunsSmoothly rest (undergone turn self)

instance (self : NetworkChannel) : Decidable (Uncancelled self) :=
  inferInstanceAs (Decidable (∀ entry ∈ self.world.mail.arrived, _ → _))

instance (arrived : Nat) (after : NetworkChannel) : Decidable (FailsQuietly arrived after) :=
  inferInstanceAs (Decidable (_ → _ ∧ ∀ entry ∈ after.world.mail.arrived.drop arrived, _ → _))

instance (turn : Turn) (before after : NetworkChannel) : Decidable (Smooth turn before after) :=
  match turn with
  | .recover => inferInstanceAs (Decidable (_ → _ ∧ _ ∧ _))
  | .settle _ => inferInstanceAs (Decidable (_ → _ ∧ _))
  | .call _ | .serve .. | .reach .. | .discard _ | .listen .. | .unlisten .. | .follow _ | .unfollow _ => .isTrue trivial

instance decidableRunsSmoothly : (turns : List Turn) → (self : NetworkChannel) → Decidable (RunsSmoothly turns self)
  | [], _ => .isTrue trivial
  | turn :: rest, self =>
    have := decidableRunsSmoothly rest (undergone turn self)
    inferInstanceAs (Decidable (Smooth turn self (undergone turn self) ∧ RunsSmoothly rest (undergone turn self)))

theorem retryKept (attempts : Nat) (kept : Kept used self.receivers self) (waiting : Waiting self)
    (quiet : FailsQuietly self.world.mail.arrived.length (self.retry Network.link attempts)) :
    Kept used (RecoveringChannel.receivers (self.retry Network.link attempts)) (self.retry Network.link attempts) := by
  induction attempts generalizing self with
  | zero => exact kept.release (by simp [waiting.claimed]) waiting.ready .open
  | succ attempts ih =>
    have tried := runRecoveryTried kept waiting
    unfold RecoveringChannel.retry at quiet ⊢
    generalize self.runRecovery Network.link = outcome at tried quiet ⊢
    cases tried with
    | refused status kept again arrived =>
      dsimp only at quiet ⊢
      rw [if_pos status] at quiet ⊢
      exact ih (kept.claim (by simp [status])) again (arrived.symm ▸ quiet)
    | failed status kept =>
      dsimp only at quiet ⊢
      rw [if_neg (by simp [status])] at quiet ⊢
      exact kept quiet
    | replayed status kept => exact kept

theorem lostWaiting (kept : Kept used recorded self) (ready : self.due = false) {slot reason}
    (there : self.world.slot? self.delegate = some slot) (closed : slot.closed = some reason)
    (unended : Unended recorded self.world.mail.arrived) (uncancelled : Uncancelled self) :
    Waiting { self with status := .recovering } :=
  ⟨rfl, ready, ⟨slot, reason, there, closed⟩, fun entry member last its =>
    uncancelled entry member (unended entry member (kept.listed its) last) its⟩

theorem recoverKept (kept : Kept used self.receivers self)
    (smooth : Smooth .recover self (self.recover Network.link).2) :
    Kept used (RecoveringChannel.receivers (self.recover Network.link).2) (self.recover Network.link).2 := by
  unfold RecoveringChannel.recover at smooth ⊢
  cases status : self.status with
  | closed | recovering => exact kept
  | «open» =>
    rw [status] at smooth
    obtain ⟨lost, uncancelled, quiet⟩ := smooth status
    obtain ⟨reason, found, loss⟩ := (Option.any_eq_true ..).mp lost
    obtain ⟨slot, there, closed⟩ := Option.bind_eq_some_iff.mp found
    have usable : self.status ≠ .closed := by simp [status]
    have ready : self.due = false :=
      Bool.eq_false_iff.mpr fun due => absurd (status.symm.trans (kept.awaited due)) (by simp)
    have unended : Unended self.receivers self.world.mail.arrived := by
      cases kept.stands usable with
      | «open» here isOpen => cases closed.symm.trans (Option.some.inj (here.symm.trans there) ▸ isOpen)
      | shut here shut known =>
        cases closed.symm.trans (Option.some.inj (here.symm.trans there) ▸ shut)
        exact absurd (known.symm.trans loss) Bool.false_ne_true
      | lost _ _ unended => exact unended
    have tried := runRecoveryTried (kept.claim usable) (lostWaiting kept ready there closed unended uncancelled)
    dsimp only at tried quiet ⊢
    generalize RecoveringChannel.runRecovery Network.link { self with status := .recovering } = outcome at tried quiet ⊢
    cases tried with
    | refused _ kept => exact kept
    | failed _ kept => exact kept quiet
    | replayed _ kept => exact kept

theorem settleKept (attempts : Nat) (kept : Kept used self.receivers self)
    (smooth : Smooth (.settle attempts) self (self.settle Network.link attempts)) :
    Kept used (RecoveringChannel.receivers (self.settle Network.link attempts)) (self.settle Network.link attempts) := by
  unfold RecoveringChannel.settle at smooth ⊢
  by_cases due : self.due = true
  · rw [if_pos due] at smooth ⊢
    obtain ⟨uncancelled, quiet⟩ := smooth due
    have claimed := kept.awaited due
    have usable : self.status ≠ .closed := by simp [claimed]
    have waiting : Waiting { self with due := false } := by
      cases kept.stands usable with
      | «open» _ _ idle | shut _ _ _ idle => exact absurd (idle.symm.trans due) Bool.false_ne_true
      | lost there closed unended =>
        refine ⟨claimed, rfl, ⟨_, _, there, closed⟩, fun entry member last its => ?_⟩
        exact uncancelled entry member (unended entry member its last) its
    have taken : Kept used self.receivers { self with due := false } :=
      { kept with
        awaited := fun later => absurd later Bool.false_ne_true
        stands := fun _ => by
          cases kept.stands usable with
          | «open» _ _ idle | shut _ _ _ idle => exact absurd (idle.symm.trans due) Bool.false_ne_true
          | lost there closed unended => exact .lost there closed unended }
    exact retryKept attempts taken waiting quiet
  · rw [if_neg due]
    exact kept

/-! Calls -/

theorem closeKept (kept : Kept used self.receivers self) (waitless : self.status ≠ .recovering) :
    Kept used self.receivers (self.close Network.link).2 := by
  have closed : Kept used self.receivers { self with status := .closed, record := self.record.abandon.2 } :=
    { kept with
      personal := (ChannelRecord.abandonPersonal kept.personal).1
      listed := List.forall_mem_map.mpr (ChannelRecord.abandonPersonal kept.personal.narrow).1.known
      awaited := fun due => absurd (kept.awaited due) waitless
      stands := fun usable => absurd rfl usable }
  exact (closed.request fun _ => Request.noConfusion).1

theorem notedKept (kept : Kept used self.receivers self) (usable : self.status ≠ .closed) {request : Request}
    (new : ∀ receiver ∈ request.receivers, receiver ∉ used) :
    Kept (used ++ request.receivers) (self.receivers ++ request.receivers) (self.noted Network.link request).2 := by
  have same := self.record.resolveReceivers request
  obtain ⟨ready, awaiting⟩ := kept.welcome new
  obtain ⟨asked, went⟩ :=
    ready.ask usable (self.record.resolve request) (same ▸ awaiting) (same ▸ List.subset_append_right ..)
  have unlisted : ∀ receiver ∈ request.receivers, receiver ∉ self.receivers := fun receiver member inside => by
    obtain ⟨consumer, here, rfl⟩ := List.mem_map.mp inside
    exact new _ member (kept.personal.known consumer here)
  unfold RecoveringChannel.noted
  generalize self.ask Network.link (self.record.resolve request) = answer at asked went ⊢
  obtain ⟨result, after⟩ := answer
  have record : after.record = self.record := went.record
  dsimp only at asked ⊢
  rw [record]
  exact asked.remember (ChannelRecord.notePersonal kept.personal request result new)
    (List.forall_mem_map.mpr (ChannelRecord.notePersonal kept.personal.narrow request result unlisted).known)

theorem callKept (kept : Kept used self.receivers self) (waitless : self.status ≠ .recovering) {request : Request}
    (new : ∀ receiver ∈ request.receivers, receiver ∉ used) :
    Kept (used ++ request.receivers) (RecoveringChannel.receivers (self.call Network.link request).2)
      (self.call Network.link request).2 := by
  have cases := RecoveringChannel.called Network.link self request
  generalize self.call Network.link request = outcome at cases ⊢
  cases cases with
  | refused e => exact kept.grow (List.subset_append_left ..)
  | closing => exact ((closeKept kept waitless).grow (List.subset_append_left ..)).narrow
  | lasting usable => exact (notedKept kept usable new).narrow

/-! Runs -/

theorem undergoneKept (kept : Kept used self.receivers self) {turn : Turn}
    (new : ∀ receiver ∈ turn.receivers, receiver ∉ used)
    (smooth : Smooth turn self (undergone turn self)) :
    Kept (used ++ turn.receivers) (undergone turn self).receivers (undergone turn self) := by
  have quiet {world : Network} (lines : world.lines = self.world.lines)
      (arrived : world.mail.arrived = self.world.mail.arrived) (events : world.events = self.world.events) :
      Kept (used ++ []) (RecoveringChannel.receivers (RecoveringChannel.attend Network.link { self with world }))
        (RecoveringChannel.attend Network.link { self with world }) := by
    rw [List.append_nil]
    exact (kept.aside lines arrived events).attend.narrow
  cases turn with
  | call request =>
    unfold undergone RecoveringChannel.undergo
    dsimp only [Turn.occurrence]
    split
    · exact kept.grow (List.subset_append_left ..)
    · exact callKept kept ‹_› new
  | recover => exact (recoverKept kept smooth).grow (List.subset_append_left ..)
  | settle attempts => exact (settleKept attempts kept smooth).grow (List.subset_append_left ..)
  | serve place inbound =>
    exact ((kept.stirred (Network.injectStirred kept.served place inbound)).1.narrow).grow (List.subset_append_left ..)
  | reach addresses plans => exact quiet rfl rfl rfl
  | discard receiver => exact quiet rfl rfl rfl
  | listen | unlisten | follow | unfollow => exact (kept.listening _ _).grow (List.subset_append_left ..)

theorem runKept (turns : List Turn) (kept : Kept used self.receivers self)
    (own : (used ++ turns.flatMap Turn.receivers).Nodup) (smooth : RunsSmoothly turns self) :
    Kept (used ++ turns.flatMap Turn.receivers) (run turns self).receivers (run turns self) := by
  induction turns generalizing used self with
  | nil => exact kept.grow (List.subset_append_left ..)
  | cons turn rest ih =>
    obtain ⟨first, later⟩ := smooth
    rw [List.flatMap_cons, ← List.append_assoc] at own ⊢
    obtain ⟨_, _, apart⟩ := List.nodup_append'.mp (List.nodup_append'.mp own).1
    exact ih (undergoneKept kept (fun receiver member inside => apart inside member) first) own later

theorem startKept {options : RecoveryOptions} {number : Option UInt16} {world after : Network}
    (lines : world.lines = [])
    (arrived : world.mail.arrived = []) (events : world.events = [])
    (started : RecoveringChannel.start Network.link options number world = (.ok self, after)) :
    Kept [] self.receivers self := by
  have nowhere (generation : Generation) : Served (1, 0) generation world := by
    constructor <;> intro place line there <;> simp [lines] at there
  have other : (1, 0).1 ≠ world.lines.length := by simp [lines]
  have opened := (nowhere 0).reopened other number
  have unheard := ((nowhere 1).reopened other number).aside
  unfold RecoveringChannel.start at started
  generalize RecoveringChannel.reopen Network.link number world = answer at opened unheard started
  cases opened with
  | refused => cases started
  | @opened number middle delegate slot aside new there =>
    cases started
    have nobody : middle.slot? (1, 0) = none := by rw [aside.slot, Network.slot?, lines]; rfl
    obtain ⟨fresh, empty⟩ := aside.served.succeeded (fun _ here => by simp [nobody] at here) delegate
    obtain ⟨served, ⟨listeners, now⟩, mail, same⟩ := fresh.attached there
    have untold : (Network.attach delegate 1 middle).mail.arrived = [] := by rw [mail, aside.arrived, arrived]
    obtain ⟨noted, raised, quiet⟩ := unheard.events
    refine freshKept _ served rfl now ((Network.heldHere there).symm.trans empty) ?_ rfl ?_ ?_ .empty ?_
    · exact same ▸ raised ▸ events ▸ quiet
    · exact untold ▸ Orderly.empty
    · exact untold ▸ List.forall_mem_nil _
    · exact untold ▸ List.forall_mem_nil _

/- To each consumer, a message that ends it is the last one. -/
theorem nothingFollowsAnEnd {options : RecoveryOptions} {number : Option UInt16} {world after : Network}
    (lines : world.lines = []) (arrived : world.mail.arrived = []) (events : world.events = [])
    (started : RecoveringChannel.start Network.link options number world = (.ok self, after)) {turns : List Turn}
    (own : (turns.flatMap Turn.receivers).Nodup) (smooth : RunsSmoothly turns self) {receiver : ReceiverId}
    {before later : List ConsumerMessage} {message : ConsumerMessage}
    (heard : (run turns self).world.mail.messagesOf receiver = before ++ message :: later)
    (ends : message.isEnd = true) :
    later = [] :=
  (runKept turns (startKept lines arrived events started) own smooth).orderly.last heard ends

def sent (number : UInt16) (methods : List Method) : Inbound :=
  .ofPieces (methods.map fun method => .data (((method.frame number).toOption.map Frame.encode).getD [])) false

def greeting : Inbound :=
  sent 0 [⟨.connectionStart, ((0 : UInt8), (9 : UInt8), FieldTable.nil, "PLAIN", "en_US", ())⟩,
    ⟨.connectionTune, ((0 : UInt16), (8192 : UInt32), (0 : UInt16), ())⟩, ⟨.connectionOpenOk, ("", ())⟩]

def channelGranted : Inbound := sent 1 [⟨.channelOpenOk, ("", ())⟩]

def consumerStarted (tag : String) : Inbound := sent 1 [⟨.basicConsumeOk, (tag, ())⟩]

def channelShut : Inbound := sent 1 [⟨.channelClose, ((404 : UInt16), "NOT_FOUND", (60 : UInt16), (20 : UInt16), ())⟩]

def twoServers (replay : List Inbound) : Network :=
  { addresses := [true]
    plans := [⟨greeting, [channelGranted, consumerStarted "first", consumerStarted "second"]⟩,
      ⟨greeting, channelGranted :: replay⟩] }

def twoConsumers : List Turn :=
  [.call (.consume ⟨"first", "orders", {}, 0⟩), .call (.consume ⟨"second", "orders", {}, 1⟩),
    .serve 0 { ended := true }, .settle 1]

/- The second server closes the channel at the first consumer; either consumer hears of that once. -/
theorem refusedOnce :
    ∃ self after, RecoveringChannel.start Network.link {} (some 1) (twoServers [channelShut]) = (.ok self, after) ∧
      RunsSmoothly twoConsumers self ∧ ∀ receiver ∈ [0, 1], ∃ before message later,
        (run twoConsumers self).world.mail.messagesOf receiver = before ++ message :: later ∧ message.isEnd = true ∧
          later = [] := by
  have rehearsed : (RecoveringChannel.start Network.link {} (some 1) (twoServers [channelShut])).1.toOption.any
      (fun self => decide (RunsSmoothly twoConsumers self) &&
        [0, 1].all fun receiver =>
          ((run twoConsumers self).world.mail.messagesOf receiver).any ConsumerMessage.isEnd) = true := by
    decide +kernel
  rcases started : RecoveringChannel.start Network.link {} (some 1) (twoServers [channelShut]) with ⟨e | self, after⟩ <;>
    rw [started] at rehearsed
  · cases rehearsed
  · obtain ⟨smooth, told⟩ := (Bool.and_eq_true ..).mp rehearsed
    have smooth := of_decide_eq_true smooth
    refine ⟨self, after, rfl, smooth, fun receiver member => ?_⟩
    obtain ⟨message, here, ends⟩ := List.any_eq_true.mp (List.all_eq_true.mp told receiver member)
    obtain ⟨before, later, heard⟩ := List.append_of_mem here
    exact ⟨before, message, later, heard, ends, nothingFollowsAnEnd rfl rfl rfl started (by decide) smooth heard ends⟩

/- Had it started the first consumer before it closed the channel, that one would hear so twice: from its new
channel, and then as one who is given up. -/
theorem restartedTwice :
    ∃ self after, RecoveringChannel.start Network.link {} (some 1) (twoServers [consumerStarted "first", channelShut])
        = (.ok self, after) ∧
      ((run twoConsumers self).world.mail.messagesOf 0).map (fun message => (message.name, message.isEnd))
        = [("ServerClosedChannel", true), ("ServerClosedConnection", true)] := by
  have rehearsed : (RecoveringChannel.start Network.link {} (some 1)
      (twoServers [consumerStarted "first", channelShut])).1.toOption.any
      (fun self => decide
        (((run twoConsumers self).world.mail.messagesOf 0).map (fun message => (message.name, message.isEnd))
          = [("ServerClosedChannel", true), ("ServerClosedConnection", true)])) = true := by
    decide +kernel
  rcases started : RecoveringChannel.start Network.link {} (some 1)
    (twoServers [consumerStarted "first", channelShut]) with ⟨e | self, after⟩ <;> rw [started] at rehearsed
  · cases rehearsed
  · exact ⟨self, after, rfl, of_decide_eq_true rehearsed⟩

end NetworkChannel

end AmqpClient
