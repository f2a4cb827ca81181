import AmqpClient.Proofs.Recovery.Attempt
import AmqpClient.Proofs.Recovery.Replay

/-! The states of a recovering channel, whatever its applications, its connections and its server do, in
any order. In each of them every queue is recorded once and under a name that the server gave, and a
recovery that is due has been claimed. -/
namespace AmqpClient

namespace Topology

structure Known (names : List String) (topology : Topology) : Prop where
  distinct : topology.queues.keys.Nodup
  given : topology.queues.keys ⊆ names

namespace Known

variable {names more : List String} {topology next : Topology}

theorem grow (known : Known names topology) (within : names ⊆ more) : Known more topology :=
  ⟨known.distinct, List.Subset.trans known.given within⟩

theorem fewer (known : Known names topology) (sublist : next.queues.items.Sublist topology.queues.items) :
    Known names next :=
  ⟨known.distinct.sublist (sublist.map _), List.Subset.trans (sublist.map _).subset known.given⟩

theorem same (known : Known names topology) (queues : next.queues = topology.queues) : Known names next :=
  known.fewer (queues ▸ List.Sublist.refl _)

theorem recorded (known : Known names topology) (queue : RecordedQueue) (given : queue.name ∈ names) :
    Known names (topology.recordQueue queue) where
  distinct := Catalog.recordNodup known.distinct queue
  given := fun _ member => (Catalog.recordMember.mp member).elim (fun same => same ▸ given) (known.given ·)

theorem renamed (known : Known names topology) (old : String) {new : String} (given : new ∈ names) :
    Known names (topology.renameQueue old new) := by
  obtain ⟨distinct, keys⟩ := renameQueueKeys known.distinct old new
  exact ⟨distinct, fun name member => (keys name member).elim (fun same => same ▸ given) (known.given ·)⟩

theorem renamedAll (known : Known names topology) {pairs : List (String × String)}
    (given : ∀ pair ∈ pairs, pair.2 ∈ names) : Known names (topology.renameAll pairs) := by
  refine List.foldlRecOn (motive := fun next : Topology => Known names next) _ _ known ?_
  intro next known pair member
  exact known.renamed pair.1 (given pair member)

end Known

end Topology

namespace ChannelRecord

theorem learnKnown {names : List String} {record : ChannelRecord} (known : record.topology.Known names)
    (asked : Request) (reply : Reply) (given : ∀ queue, reply = .declared queue → queue.queue ∈ names) :
    (record.learn asked reply).topology.Known names := by
  unfold learn
  split
  · exact known.same rfl
  · exact known.fewer (record.topology.deleteExchangeForgets _).sublist
  · unfold Topology.recordBinding
    split <;> exact known.same rfl
  · exact known.fewer (record.topology.deleteBindingForgets _).sublist
  · exact known.recorded _ (given _ rfl)
  · exact known.fewer (record.topology.deleteQueueForgets _).sublist
  · unfold recordQos
    split <;> exact known
  · unfold recordConsumer
    rw [insertTagTopology]
    exact known.same rfl
  · obtain ⟨_, forgets⟩ := record.topology.deleteConsumerForgets _
    exact known.fewer forgets.sublist
  · exact known
  · exact known
  · exact known

theorem modesPlain (record : ChannelRecord) : ∀ request ∈ record.modeRequests, request.isPlain := by
  intro request member
  simp only [modeRequests, qosRequest, List.mem_append] at member
  rcases member with ((member | member) | member) | member <;> split at member <;> simp_all [Request.isPlain]

theorem modesDeclareNothing (record : ChannelRecord) :
    ∀ request ∈ record.modeRequests, ∀ name options, request ≠ .declareQueue name options := by
  intro request member name options same
  exact absurd (record.modesPlain request member) (by simp [same, Request.isPlain])

theorem modesStartNothing (record : ChannelRecord) :
    ∀ request ∈ record.modeRequests, ∀ consumer, request ≠ .consume consumer := by
  intro request member consumer same
  exact absurd (record.modesPlain request member) (by simp [same, Request.isPlain])

theorem abandonForgets (record : ChannelRecord) :
    ∃ gone, Topology.Forgets gone record.topology record.abandon.2.topology := by
  refine List.foldlRecOn (motive := fun state : List RecordedConsumer × ChannelRecord =>
    ∃ gone, Topology.Forgets gone record.topology state.2.topology) _ _ ⟨[], .refl record.topology⟩ ?_
  intro state forgotten tag _
  obtain ⟨gone, forgets⟩ := forgotten
  obtain ⟨more, later⟩ := state.2.topology.deleteConsumerForgets tag
  rcases deleted : state.2.topology.deleteConsumer tag with ⟨none | consumer, topology⟩ <;>
    rw [deleted] at later <;> exact ⟨gone ++ more, forgets.trans later⟩

theorem abandonKnown {names : List String} {record : ChannelRecord} (known : record.topology.Known names) :
    record.abandon.2.topology.Known names := by
  obtain ⟨_, forgets⟩ := record.abandonForgets
  exact known.fewer forgets.sublist

end ChannelRecord

namespace TapedChannel

variable {ω η κ : Type} (link : Link ω η κ)

/- One thing that can happen to a recovering channel. A call waits while a recovery runs, so it finds none;
the world and the listeners may change at any time. -/
inductive Step : TapedChannel ω η κ → TapedChannel ω η κ → Prop
  | call (self request) (usable : self.status ≠ .recovering) : Step self (self.call link.taped request).2
  | claim (self) (idle : self.status = .open) : Step self { self with status := .recovering }
  | takeUp (self) (due : self.due = true) : Step self { self with due := false }
  | attempt (self) (claimed : self.status = .recovering) (ready : self.due = false) :
      Step self (self.runRecovery link.taped).2
  | giveUp (self) (claimed : self.status = .recovering) (ready : self.due = false) :
      Step self { self with status := .open }
  | attend (self) : Step self (self.attend link.taped)
  | disturb (self) (world : ω) : Step self { self with world := (world, self.tape) }
  | listen (self) (kind listener) : Step self (self.addListener kind listener).2
  | unlisten (self) (kind id) : Step self (self.removeListener kind id).2
  | follow (self) (listener) : Step self (self.addRecoveryListener listener).2
  | unfollow (self) (id) : Step self (self.removeRecoveryListener id).2

inductive Reachable : TapedChannel ω η κ → Prop
  | start {options number world self after}
      (started : RecoveringChannel.start link.taped options number (world, []) = (.ok self, after)) :
      Reachable self
  | step {self next} (reachable : Reachable self) (step : Step link self next) : Reachable next

structure Sound (current : TapedChannel ω η κ) : Prop where
  known : current.record.topology.Known (givenNames current.tape)
  due : current.due = true → current.status = .recovering

theorem Grown.known {lines : List (Asked η)} {before after : TapedChannel ω η κ} (grown : Grown lines before after)
    (known : before.record.topology.Known (givenNames before.tape)) :
    after.record.topology.Known (givenNames after.tape) := by
  rw [grown.record, grown.tape, givenNamesAppend]
  exact known.grow (List.subset_append_left ..)

theorem reopenTape (number : Option UInt16) (world : ω × List (Asked η)) :
    (RecoveringChannel.reopen link.taped number world).2.2 = world.2 := by
  simp only [RecoveringChannel.reopen, Link.taped]
  cases (link.connect world.1).1 with
  | error e => rfl
  | ok connection =>
    dsimp only
    cases (link.openChannel connection number (link.connect world.1).2).1 <;> rfl

theorem replaceGrown (self : TapedChannel ω η κ) (connection : κ) (delegate : η) :
    Grown [] { self with delegate, connection, generation := self.generation + 1 }
      (self.replaceDelegate link.taped connection delegate) := by
  have attached : Grown [] { self with delegate, connection, generation := self.generation + 1 }
      { self with
        delegate, connection, generation := self.generation + 1
        world := link.taped.attach delegate (self.generation + 1) self.world } :=
    .still rfl rfl rfl rfl rfl rfl
  have dropped := attached.trans (actGrown link _ (link.taped.dropChannel self.delegate) fun _ => rfl)
  exact dropped.trans (actGrown link _ (link.taped.dropConnection self.connection) fun _ => rfl)

theorem abandonGrown (self : TapedChannel ω η κ) (message : ConsumerMessage) :
    Grown [] { self with record := self.record.abandon.2 } (self.abandonConsumers link.taped message) := by
  refine List.foldlRecOn (motive := fun next : TapedChannel ω η κ =>
    Grown [] { self with record := self.record.abandon.2 } next) _ _ (.refl _) ?_
  intro next grown consumer _
  exact grown.trans (actGrown link next (link.taped.tell consumer.receiver message) fun _ => rfl)

theorem Grown.setRecord {lines : List (Asked η)} {before after : TapedChannel ω η κ}
    (grown : Grown lines before after) (record : ChannelRecord) :
    Grown lines { before with record } { after with record } :=
  ⟨grown.tape, grown.delegate, rfl, grown.options, grown.present, grown.calm, grown.due⟩

theorem Played.setRecord {list : List Request} {lines : List (Asked η)} {before after : TapedChannel ω η κ}
    {result : Except Error Unit} (played : Played list lines before after result) (record : ChannelRecord) :
    Played list lines { before with record } { after with record } result :=
  ⟨played.grown.setRecord record, played.asked, played.verdict, played.complete⟩

theorem Grown.setStatus {lines : List (Asked η)} {before after : TapedChannel ω η κ}
    (grown : Grown lines before after) (busy : before.status ≠ .open) (status : RecoveryStatus) :
    Grown lines { before with status } { after with status } where
  tape := grown.tape
  delegate := grown.delegate
  record := grown.record
  options := grown.options
  present := grown.present
  calm := fun _ => ⟨rfl, (grown.calm busy).2⟩
  due := fun kept due => kept ((grown.calm busy).2 ▸ due)

theorem Grown.setDelegate {before after : TapedChannel ω η κ} (grown : Grown [] before after) (delegate : η)
    (connection : κ) (generation : Generation) :
    Grown [] { before with delegate, connection, generation } { after with delegate, connection, generation } :=
  ⟨grown.tape, rfl, grown.record, grown.options, List.forall_mem_nil _, grown.calm, grown.due⟩

theorem restorePlayed (self : TapedChannel ω η κ) (enabled : self.options.topology = true) :
    ∃ replies lines,
      Played (self.record.modeRequests
          ++ self.record.topologyRequests (renames self.record.topology.queues.items replies)) lines
        { self with record := (self.restore link.taped).2.record } (self.restore link.taped).2
        (self.restore link.taped).1 ∧
      (self.restore link.taped).2.record
        = (self.record.renameAll (renames self.record.topology.queues.items replies)).retagAll
          (self.record.topology.consumers.keys.zip (startedTags lines)) ∧
      Redeclared self.record.topology.queues.items replies lines ∧
      Restarted (self.record.topology.renameAll
        (renames self.record.topology.queues.items replies)).consumers.items lines ∧
      (Answered lines → replies.length = self.record.topology.queues.items.length) := by
  obtain ⟨modes, preparing⟩ := requestsPlayed link self.record.modesPlain self
  have silent := preparing.undeclared self.record.modesDeclareNothing
  have idle := preparing.unstarted self.record.modesStartNothing
  unfold RecoveringChannel.restore
  rcases prepared : Replay.requests (RecoveringChannel.ask link.taped) self.record.modeRequests self
    with ⟨e | ⟨⟩, middle⟩
  · rw [prepared] at preparing
    refine ⟨[], modes, (preparing.setRecord middle.record).stopped (List.prefix_append ..), ?_,
      .none silent, .none idle, fun all => absurd all preparing.unanswered⟩
    rw [renames, List.map_nil, List.zip_nil_right, idle, List.zip_nil_right]
    exact preparing.grown.record
  · rw [prepared] at preparing
    obtain ⟨replies, lines, playing, updated, redeclared, restarted, complete⟩ :=
      topologyPlayed link middle.record middle
    dsimp only
    rw [if_pos (preparing.grown.options ▸ enabled)]
    rw [preparing.grown.record] at playing updated redeclared restarted complete ⊢
    rcases replayed : Replay.topology (RecoveringChannel.ask link.taped) self.record middle
      with ⟨result, record, last⟩
    rw [replayed] at playing updated
    refine ⟨replies, modes ++ lines, (preparing.setRecord record).trans (playing.setRecord record), ?_,
      redeclared.after silent, restarted.after idle, fun all => (complete (List.forall_mem_append.mp all).2).1⟩
    rw [startedAfter idle]
    exact updated

theorem restoreDisabled (self : TapedChannel ω η κ) (disabled : self.options.topology = false) :
    ∃ lines middle, Grown lines self middle ∧
      middle = (Replay.requests (RecoveringChannel.ask link.taped) self.record.modeRequests self).2 ∧
      (∀ line ∈ lines, line.declaration? = none) ∧ startedTags lines = [] ∧
      ((∃ e, self.restore link.taped = (.error e, middle)) ∨
        self.restore link.taped = (.ok (), middle.abandonConsumers link.taped .serverCancelled)) := by
  obtain ⟨lines, preparing⟩ := requestsPlayed link self.record.modesPlain self
  refine ⟨lines, _, preparing.grown, rfl, preparing.undeclared self.record.modesDeclareNothing,
    preparing.unstarted self.record.modesStartNothing, ?_⟩
  have options := preparing.grown.options
  unfold RecoveringChannel.restore
  generalize Replay.requests (RecoveringChannel.ask link.taped) self.record.modeRequests self = answer at options ⊢
  obtain ⟨e | ⟨⟩, middle⟩ := answer
  · exact .inl ⟨e, rfl⟩
  · exact .inr (if_neg (by rw [options, disabled]; exact Bool.false_ne_true))

theorem restoreGrown (self : TapedChannel ω η κ) :
    ∃ replies lines gone,
      Grown lines { self with record := (self.restore link.taped).2.record } (self.restore link.taped).2 ∧
      Redeclared self.record.topology.queues.items replies lines ∧
      Topology.Forgets gone (self.record.topology.renameAll (renames self.record.topology.queues.items replies))
        (self.restore link.taped).2.record.topology := by
  cases enabled : self.options.topology with
  | true =>
    obtain ⟨replies, lines, playing, updated, redeclared, _, _⟩ := restorePlayed link self enabled
    refine ⟨replies, lines, [], playing.grown, redeclared, ?_⟩
    rw [updated]
    exact (self.record.renameAll _).retagAllForgets _
  | false =>
    obtain ⟨lines, middle, grown, _, silent, _, ended⟩ := restoreDisabled link self enabled
    have unnamed : self.record.topology.renameAll (renames self.record.topology.queues.items [])
        = self.record.topology := by
      rw [renames, List.map_nil, List.zip_nil_right]
      rfl
    rcases ended with ⟨e, failed⟩ | abandoned
    · rw [failed]
      refine ⟨[], lines, [], grown.setRecord middle.record, .none silent, ?_⟩
      rw [unnamed]
      exact congrArg ChannelRecord.topology grown.record ▸ .refl self.record.topology
    · have ended := abandonGrown link middle .serverCancelled
      obtain ⟨gone, forgets⟩ := middle.record.abandonForgets
      rw [abandoned]
      refine ⟨[], lines, gone, ?_, .none silent, ?_⟩
      · exact List.append_nil lines ▸ (grown.setRecord _).trans (ended.setRecord _)
      · rw [unnamed, ended.record]
        exact congrArg ChannelRecord.topology grown.record ▸ forgets

theorem restoreKnown (self : TapedChannel ω η κ) (known : self.record.topology.Known (givenNames self.tape)) :
    (self.restore link.taped).2.record.topology.Known (givenNames (self.restore link.taped).2.tape) := by
  obtain ⟨replies, lines, gone, grown, redeclared, forgets⟩ := restoreGrown link self
  -- the new names come from the same tape on which they are looked for
  have later : givenNames (self.restore link.taped).2.tape = givenNames self.tape ++ givenNames lines := by
    rw [grown.tape, givenNamesAppend]
    rfl
  rw [later]
  refine ((known.grow (List.subset_append_left ..)).renamedAll fun pair member => ?_).fewer forgets.sublist
  exact List.mem_append_right _ (renamesGiven redeclared.given pair member)

def reopened (self : TapedChannel ω η κ) : Except Error (κ × UInt16 × η) :=
  (RecoveringChannel.reopen link.taped (some self.channel)
    (self.report link.taped (.recoveryStarted self.channel)).world).1

/- How a recovery can go: no new channel is opened and the old one is open again; or the replay on the new one ends
well; or it fails, and the channel is closed for good. -/
inductive Recovered (self : TapedChannel ω η κ) : Except Error Unit × TapedChannel ω η κ → Prop
  | refused {e cause next} (unopened : self.reopened link = .error cause)
      (kept : Grown [] { self with status := .open } next) : Recovered self (.error e, next)
  | failed {e cause attached restored final delegate connection number generation}
      (opened : self.reopened link = .ok (connection, number, delegate))
      (replaced : Grown [] { self with delegate, connection, generation } attached)
      (replay : attached.restore link.taped = (.error cause, restored))
      (closed : Grown [] { restored with record := restored.record.abandon.2, status := .closed } final) :
      Recovered self (.error e, final)
  | replayed {attached restored final delegate connection number generation}
      (opened : self.reopened link = .ok (connection, number, delegate))
      (replaced : Grown [] { self with delegate, connection, generation } attached)
      (replay : attached.restore link.taped = (.ok (), restored))
      (usable : Grown [] { restored with status := .open } final) : Recovered self (.ok (), final)

theorem begunGrown (self : TapedChannel ω η κ) : Grown [] self (self.begun link.taped) := notifyGrown link _ _ self

theorem reopeningTape {self : TapedChannel ω η κ} {answer : Except Error (κ × UInt16 × η)}
    {world : ω × List (Asked η)} (opened : self.reopening link.taped = (answer, world)) :
    world.2 = (self.begun link.taped).tape := by
  have quiet := reopenTape link (some self.channel) (self.report link.taped (.recoveryStarted self.channel)).world
  exact congrArg (fun outcome => outcome.2.2) opened.symm |>.trans quiet

theorem attendedGrown {self : TapedChannel ω η κ} {answer : Except Error (κ × UInt16 × η)}
    {world : ω × List (Asked η)} (opened : self.reopening link.taped = (answer, world)) :
    Grown [] self (RecoveringChannel.attend link.taped { self.begun link.taped with world }) := by
  have connected : Grown [] (self.begun link.taped) { self.begun link.taped with world } :=
    .still (reopeningTape link opened) rfl rfl rfl rfl rfl
  exact ((begunGrown link self).trans connected).trans (attendGrown link _)

theorem reattachedGrown {self : TapedChannel ω η κ} {connection : κ} {number : UInt16} {delegate : η}
    {world : ω × List (Asked η)} (opened : self.reopening link.taped = (.ok (connection, number, delegate), world)) :
    ∃ generation, Grown [] { self with delegate, connection, generation }
      (self.reattached link.taped world connection delegate) :=
  ⟨_, ((attendedGrown link opened).setDelegate delegate connection _).trans (replaceGrown link _ connection delegate)⟩

theorem restoreStatus (self : TapedChannel ω η κ) (busy : self.status ≠ .open) :
    (self.restore link.taped).2.status = self.status := by
  obtain ⟨_, _, _, restoring, _, _⟩ := restoreGrown link self
  exact (restoring.calm busy).1

theorem runRecoveryCases (self : TapedChannel ω η κ) (claimed : self.status = .recovering) :
    Recovered link self (self.runRecovery link.taped) := by
  have busy : self.status ≠ .open := by simp [claimed]
  have cases := RecoveringChannel.ran link.taped self
  generalize self.runRecovery link.taped = outcome at cases
  cases cases with
  | refused unopened =>
    have kept := (attendedGrown link unopened).setStatus busy .open
    exact .refused (congrArg Prod.fst unopened) (kept.trans (notifyGrown link _ _ _))
  | @failed _ _ _ _ cause restored opened replay =>
    obtain ⟨_, replaced⟩ := reattachedGrown link opened
    have waiting : (self.reattached link.taped _ _ _).status ≠ .open := (replaced.calm busy).1 ▸ busy
    have calm := restoreStatus link _ waiting
    rw [replay] at calm
    have closed := (abandonGrown link restored (.serverClosedConnection cause)).setStatus
      (calm ▸ waiting) .closed
    exact .failed (congrArg Prod.fst opened) replaced replay (closed.trans (notifyGrown link _ _ _))
  | replayed opened replay =>
    obtain ⟨_, replaced⟩ := reattachedGrown link opened
    exact .replayed (congrArg Prod.fst opened) replaced replay (notifyGrown link _ _ _)

namespace Sound

variable {link} {self next : TapedChannel ω η κ}

theorem grow {lines : List (Asked η)} (sound : Sound self) (grown : Grown lines self next) : Sound next where
  known := grown.known sound.known
  due := grown.due sound.due

theorem ready (sound : Sound self) (idle : self.status = .open) : self.due = false :=
  Bool.eq_false_iff.mpr fun due => absurd (idle.symm.trans (sound.due due)) (by simp)

theorem close (sound : Sound self) (usable : self.status ≠ .recovering) :
    Sound (self.close link.taped).2 := by
  have closed : Sound { self with status := .closed, record := self.record.abandon.2 } :=
    ⟨ChannelRecord.abandonKnown sound.known, fun due => absurd (sound.due due) usable⟩
  exact closed.grow (askGrown link _ .close)

theorem note (sound : Sound self) (asked request : Request) :
    Sound { (self.ask link.taped request).2 with
      record := (self.ask link.taped request).2.record.note asked (self.ask link.taped request).1 } := by
  have grown := askGrown link self request
  have later := sound.grow grown
  rcases answered : self.ask link.taped request with ⟨e | reply, after⟩
  · rw [answered] at later
    exact later
  · rw [answered] at grown later
    refine ⟨ChannelRecord.learnKnown later.known asked reply fun queue same => ?_, later.due⟩
    rw [grown.tape, givenNamesAppend, same]
    exact List.mem_append_right _ (List.mem_singleton_self _)

theorem call (sound : Sound self) (usable : self.status ≠ .recovering) (request : Request) :
    Sound (self.call link.taped request).2 := by
  have cases := RecoveringChannel.called link.taped self request
  generalize self.call link.taped request = outcome at cases
  cases cases with
  | refused => exact sound
  | closing => exact sound.close usable
  | lasting => exact sound.note request _

theorem restore {attached : TapedChannel ω η κ} {delegate : η} {connection : κ} {generation : Generation}
    (sound : Sound self) (claimed : self.status = .recovering) (ready : self.due = false)
    (replaced : Grown [] { self with delegate, connection, generation } attached) :
    (attached.restore link.taped).2.record.topology.Known (givenNames (attached.restore link.taped).2.tape) ∧
      (attached.restore link.taped).2.due = false := by
  have busy : self.status ≠ .open := by simp [claimed]
  obtain ⟨status, due⟩ := replaced.calm busy
  obtain ⟨_, lines, _, grown, _, _⟩ := restoreGrown link attached
  have moved : Sound { self with delegate, connection, generation } := ⟨sound.known, sound.due⟩
  refine ⟨restoreKnown link attached (moved.grow replaced).known, (grown.calm ?_).2.trans (due.trans ready)⟩
  exact fun idle => busy (status.symm.trans idle)

theorem attempt (sound : Sound self) (claimed : self.status = .recovering) (ready : self.due = false) :
    Sound (self.runRecovery link.taped).2 := by
  have cases := runRecoveryCases link self claimed
  generalize self.runRecovery link.taped = outcome at cases
  cases cases with
  | refused unopened kept =>
    have usable : Sound { self with status := .open } :=
      ⟨sound.known, fun due => absurd (ready.symm.trans due) Bool.false_ne_true⟩
    exact usable.grow kept
  | failed opened replaced replay closed =>
    obtain ⟨known, due⟩ := sound.restore claimed ready replaced
    rw [replay] at known due
    refine grow ?_ closed
    exact ⟨ChannelRecord.abandonKnown known, fun later => absurd (due.symm.trans later) Bool.false_ne_true⟩
  | replayed opened replaced replay usable =>
    obtain ⟨known, due⟩ := sound.restore claimed ready replaced
    rw [replay] at known due
    refine grow ?_ usable
    exact ⟨known, fun later => absurd (due.symm.trans later) Bool.false_ne_true⟩

theorem step (sound : Sound self) (step : Step link self next) : Sound next := by
  cases step with
  | call request usable => exact sound.call usable request
  | claim idle => exact ⟨sound.known, fun _ => rfl⟩
  | takeUp due => exact ⟨sound.known, fun due => absurd due Bool.false_ne_true⟩
  | attempt claimed ready => exact sound.attempt claimed ready
  | giveUp claimed ready =>
    exact ⟨sound.known, fun due => absurd (ready.symm.trans due) Bool.false_ne_true⟩
  | attend => exact sound.grow (attendGrown link self)
  | disturb world => exact ⟨sound.known, sound.due⟩
  | listen | unlisten | follow | unfollow => exact ⟨sound.known, sound.due⟩

end Sound

variable {link} {self : TapedChannel ω η κ}

theorem Reachable.sound (reachable : Reachable link self) : Sound self := by
  induction reachable with
  | @start options number world self after started =>
    unfold RecoveringChannel.start at started
    split at started
    · cases started
    · cases started
      exact ⟨⟨List.nodup_nil, List.nil_subset _⟩, fun due => absurd due Bool.false_ne_true⟩
  | step _ step sound => exact sound.step step

theorem Reachable.recover (reachable : Reachable link self) : Reachable link (self.recover link.taped).2 := by
  unfold RecoveringChannel.recover
  split
  · exact reachable
  · exact reachable
  · rename_i idle
    have ready := reachable.sound.ready idle
    exact (reachable.step (.claim self idle)).step (.attempt _ rfl ready)

theorem Reachable.retry (attempts : Nat) (reachable : Reachable link self) (claimed : self.status = .recovering)
    (ready : self.due = false) : Reachable link (self.retry link.taped attempts) := by
  induction attempts generalizing self with
  | zero => exact reachable.step (.giveUp self claimed ready)
  | succ attempts ih =>
    have tried := reachable.step (.attempt self claimed ready)
    unfold RecoveringChannel.retry
    rcases ran : self.runRecovery link.taped with ⟨e | ⟨⟩, next⟩
    · rw [ran] at tried
      dsimp only
      split
      · rename_i idle
        exact ih (tried.step (.claim next idle)) rfl (tried.sound.ready idle)
      · exact tried
    · rw [ran] at tried
      exact tried

theorem Reachable.settle (attempts : Nat) (reachable : Reachable link self) :
    Reachable link (self.settle link.taped attempts) := by
  unfold RecoveringChannel.settle
  split
  · rename_i due
    exact (reachable.step (.takeUp self due)).retry attempts (reachable.sound.due due) rfl
  · exact reachable

end TapedChannel

end AmqpClient
