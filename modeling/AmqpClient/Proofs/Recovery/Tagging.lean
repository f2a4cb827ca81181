import AmqpClient.Proofs.Recovery.Freshness
import AmqpClient.Proofs.Recovery.Posting
import AmqpClient.Proofs.Recovery.Identity

/-! The tags of running consumers through all that can happen to a recovering channel. They stay the tags of the
recorded consumers as long as nobody starts a consumer under a tag that still leads to an earlier one. -/
namespace AmqpClient

namespace TapedChannel

variable {ω η κ : Type} {link : Link ω η κ} {self next : TapedChannel ω η κ}

def Mirrors (self : TapedChannel ω η κ) : Prop :=
  self.record.Mirrored (declaredNames self.tape) (startedTags self.tape)

theorem Grown.mirrors {lines : List (Asked η)} (grown : Grown lines self next) (mirrors : Mirrors self) :
    Mirrors next := by
  unfold Mirrors
  rw [grown.tape, grown.record, declaredNamesAppend, startedTagsAppend]
  exact ChannelRecord.Mirrored.grow mirrors (List.subset_append_left ..) (List.subset_append_left ..)

theorem learnMirrored {record : ChannelRecord} {tape : List (Asked η)} {line : Asked η} {asked : Request} {reply : Reply}
    (mirrored : record.Mirrored (declaredNames tape) (startedTags tape)) (request : line.request = record.resolve asked)
    (result : line.result = .ok reply) (fresh : line.Fresh tape)
    (clear : ∀ consumer, line.request = .consume consumer → record.topology.resolveTag consumer.tag = consumer.tag) :
    (record.learn asked reply).Mirrored (declaredNames (tape ++ [line])) (startedTags (tape ++ [line])) := by
  rw [declaredNamesAppend, startedTagsAppend]
  have grow {last : ChannelRecord} (mirrored : last.Mirrored (declaredNames tape) (startedTags tape)) :
      last.Mirrored (declaredNames tape ++ declaredNames [line]) (startedTags tape ++ startedTags [line]) :=
    mirrored.grow (List.subset_append_left ..) (List.subset_append_left ..)
  have still (last : ChannelRecord) (topology : last.topology = record.topology)
      (active : last.activeTags = record.activeTags) :
      last.Mirrored (declaredNames tape) (startedTags tape) :=
    mirrored.ofSettled (topology ▸ mirrored.toSettled) (by rw [topology]) active
  unfold ChannelRecord.learn
  split
  · exact grow (mirrored.ofSettled ⟨mirrored.queues, mirrored.consumers⟩ rfl rfl)
  · exact grow (mirrored.unbinds (record.topology.deleteExchangeUnbinds _))
  · refine grow (mirrored.ofSettled ?_ ?_ rfl) <;> unfold Topology.recordBinding <;> dsimp only <;> split
    · exact mirrored.toSettled
    · exact ⟨mirrored.queues, mirrored.consumers⟩
    · rfl
    · rfl
  · exact grow (mirrored.unbinds (record.topology.deleteBindingUnbinds _))
  · rename_i sent options queue resolved
    have granted : Granted (declaredNames tape) sent queue.queue := by
      unfold Asked.Fresh at fresh
      rwa [request, resolved, result] at fresh
    have named : declaredNames [line] = [queue.queue] := by
      simp [declaredNames, Asked.declaration?, request, resolved, result]
    have itself : record.topology.queueAliases.resolve queue.queue = queue.queue := by
      rcases granted with ⟨same, _⟩ | new
      · rw [same, ChannelRecord.resolveDeclares resolved]
        exact mirrored.queues.twice _
      · exact mirrored.queues.unused new
    have recorded := mirrored.queues.recorded (⟨queue.queue, options, record.isServerNamed asked.subject queue.queue⟩ :
      RecordedQueue) itself (List.subset_append_left _ (declaredNames [line]))
      (List.mem_append_right _ (named ▸ List.mem_singleton_self _))
    exact mirrored.ofSettled ⟨recorded, mirrored.consumers.grow (List.subset_append_left ..)⟩ rfl rfl
  · exact grow (mirrored.forgetQueue _)
  · unfold ChannelRecord.recordQos
    split <;> exact grow (still _ rfl rfl)
  · rename_i consumer tag resolved
    have granted : Granted (startedTags tape) consumer.tag tag := by
      unfold Asked.Fresh at fresh
      rwa [request, resolved, result] at fresh
    have started : startedTags [line] = [tag] := by
      simp [startedTags, Asked.start?, request, resolved, result]
    have itself : record.topology.resolveTag tag = tag := by
      rcases granted with ⟨same, _⟩ | new
      · rw [same]
        exact clear consumer (request.trans resolved)
      · exact mirrored.consumers.unused new
    have recorded := mirrored.recordConsumer { consumer with tag } itself
    rw [started]
    exact recorded.grow (List.subset_append_left ..) (List.Subset.refl _)
  · rename_i tag resolved
    have current : record.topology.resolveTag tag = tag := by
      cases asked <;> cases resolved
      exact mirrored.consumers.twice _
    exact grow (mirrored.forgetConsumer current)
  · exact grow (still _ rfl rfl)
  · exact grow (still _ rfl rfl)
  · exact grow mirrored

theorem closeMirrors (mirrors : Mirrors self) : Mirrors (self.close link.taped).2 := by
  obtain ⟨_, _, left⟩ := ChannelRecord.abandonAll mirrors
  have closed : Mirrors { self with status := .closed, record := self.record.abandon.2 } := left
  exact (askGrown link _ .close).mirrors closed

theorem noteMirrors (mirrors : Mirrors self) (asked : Request)
    (fresh : FreshlyAnswered [] (self.ask link.taped (self.record.resolve asked)).2.tape)
    (clear : ∀ consumer, self.record.resolve asked = .consume consumer →
      self.record.topology.resolveTag consumer.tag = consumer.tag) :
    Mirrors { (self.ask link.taped (self.record.resolve asked)).2 with
      record := (self.ask link.taped (self.record.resolve asked)).2.record.note asked
        (self.ask link.taped (self.record.resolve asked)).1 } := by
  have grown := askGrown link self (self.record.resolve asked)
  cases answer : (self.ask link.taped (self.record.resolve asked)).1 with
  | error e => exact grown.mirrors mirrors
  | ok reply =>
    rw [grown.tape] at fresh
    obtain ⟨_, here, _⟩ := freshlyAnsweredAppend.mp fresh
    have learned := learnMirrored mirrors rfl answer here clear
    unfold Mirrors
    dsimp only
    rw [grown.record]
    refine Eq.subst (motive := fun tape : List (Asked η) =>
      (self.record.learn asked reply).Mirrored (declaredNames tape) (startedTags tape)) grown.tape.symm learned

/- Nobody starts a consumer under a tag that now leads to another one. -/
def Spares (self next : TapedChannel ω η κ) : Prop :=
  self.status ≠ .recovering → ∀ line, next.tape = self.tape ++ [line] → ∀ consumer, line.request = .consume consumer →
    self.record.topology.resolveTag consumer.tag = consumer.tag

theorem callMirrors (mirrors : Mirrors self) (usable : self.status ≠ .recovering) (request : Request)
    (spares : Spares self (self.call link.taped request).2)
    (fresh : FreshlyAnswered [] (self.call link.taped request).2.tape) :
    Mirrors (self.call link.taped request).2 := by
  have cases := RecoveringChannel.called link.taped self request
  generalize self.call link.taped request = outcome at cases spares fresh
  cases cases with
  | refused => exact mirrors
  | closing => exact closeMirrors mirrors
  | lasting =>
    have grown := askGrown link self (self.record.resolve request)
    exact noteMirrors mirrors request fresh fun consumer sent => spares usable _ grown.tape consumer sent

theorem restoredMirrors (mirrors : Mirrors self) (enabled : self.options.topology = true)
    (fresh : FreshlyAnswered [] (self.restore link.taped).2.tape) :
    Mirrors (self.restore link.taped).2 ∧
      (self.restore link.taped).2.record.topology.consumers.items.map RecordedConsumer.receiver
        = self.record.topology.consumers.items.map RecordedConsumer.receiver := by
  obtain ⟨replies, lines, playing, updated, redeclared, restarted, _⟩ := restorePlayed link self enabled
  have tape : (self.restore link.taped).2.tape = self.tape ++ lines := playing.grown.tape
  rw [tape] at fresh
  obtain ⟨_, fresh⟩ := freshlyAnsweredAppend.mp fresh
  rw [List.nil_append] at fresh
  have pairs : renames self.record.topology.queues.items replies
      = self.record.topology.queues.keys.zip (declaredNames lines) := by
    rw [declaredNames, redeclared.answers]
    rfl
  have renamed := mirrors.renameAll (pairs ▸ Catalog.listedZip mirrors.queues.distinct _)
    (queuesUnheard redeclared fresh)
  have unheard := consumersUnheard restarted fresh
  have listed := Catalog.listedZip renamed.consumers.distinct (startedTags lines)
  have keys := self.record.topology.renameAllConsumerKeys (renames self.record.topology.queues.items replies)
  rw [← keys] at updated
  refine ⟨?_, ?_⟩
  · unfold Mirrors
    rw [tape, updated, declaredNamesAppend, startedTagsAppend]
    have within {before given all : List String} (inside : given ⊆ all) : before ++ given ⊆ before ++ all :=
      List.append_subset.mpr ⟨List.subset_append_left .., List.Subset.trans inside (List.subset_append_right ..)⟩
    exact (renamed.retagAll listed unheard).grow (within (pairs ▸ zipSecond ..)) (within (zipSecond ..))
  · rw [updated]
    exact (renamed.retagAllReceivers listed unheard).trans (self.record.renameAllReceivers _)

theorem restoreMirrors (mirrors : Mirrors self) (fresh : FreshlyAnswered [] (self.restore link.taped).2.tape) :
    Mirrors (self.restore link.taped).2 := by
  cases enabled : self.options.topology with
  | true => exact (restoredMirrors mirrors enabled fresh).1
  | false =>
    obtain ⟨lines, middle, grown, _, _, _, ended⟩ := restoreDisabled link self enabled
    have kept := grown.mirrors mirrors
    rcases ended with ⟨e, failed⟩ | abandoned
    · rw [failed]
      exact kept
    · rw [abandoned]
      obtain ⟨_, _, left⟩ := ChannelRecord.abandonAll kept
      have closed : Mirrors { middle with record := middle.record.abandon.2 } := left
      exact (abandonGrown link middle .serverCancelled).mirrors closed

theorem attemptMirrors (mirrors : Mirrors self) (claimed : self.status = .recovering)
    (fresh : FreshlyAnswered [] (self.runRecovery link.taped).2.tape) : Mirrors (self.runRecovery link.taped).2 := by
  have cases := runRecoveryCases link self claimed
  generalize self.runRecovery link.taped = outcome at cases fresh
  have restoring {attached restored last : TapedChannel ω η κ} {delegate : η} {connection : κ}
      {generation : Generation} {result : Except Error Unit}
      (replaced : Grown [] { self with delegate, connection, generation } attached)
      (replay : attached.restore link.taped = (result, restored)) (tape : last.tape = restored.tape)
      (fresh : FreshlyAnswered [] last.tape) : Mirrors restored := by
    have moved : Mirrors { self with delegate, connection, generation } := mirrors
    have answered : FreshlyAnswered [] (attached.restore link.taped).2.tape := by
      rw [replay]
      exact tape ▸ fresh
    have kept := restoreMirrors (replaced.mirrors moved) answered
    rwa [replay] at kept
  cases cases with
  | refused unopened kept =>
    have reopened : Mirrors { self with status := .open } := mirrors
    exact kept.mirrors reopened
  | @failed _ _ _ restored _ _ _ _ _ opened replaced replay closed =>
    have restoring := restoring replaced replay (closed.tape.trans (List.append_nil _)) fresh
    obtain ⟨_, _, left⟩ := ChannelRecord.abandonAll restoring
    have abandoned : Mirrors { restored with record := restored.record.abandon.2, status := .closed } := left
    exact closed.mirrors abandoned
  | @replayed _ restored _ _ _ _ _ opened replaced replay usable =>
    have restoring := restoring replaced replay (usable.tape.trans (List.append_nil _)) fresh
    have reopened : Mirrors { restored with status := .open } := restoring
    exact usable.mirrors reopened

theorem stepMirrors (mirrors : Mirrors self) (step : Step link self next) (spares : Spares self next)
    (fresh : FreshlyAnswered [] next.tape) : Mirrors next := by
  cases step with
  | call request usable => exact callMirrors mirrors usable request spares fresh
  | attempt claimed ready => exact attemptMirrors mirrors claimed fresh
  | attend => exact (attendGrown link self).mirrors mirrors
  | claim | takeUp | giveUp | disturb | listen | unlisten | follow | unfollow => exact mirrors

inductive Spared (link : Link ω η κ) : TapedChannel ω η κ → Prop
  | start {options : RecoveryOptions} {number : Option UInt16} {world : ω} {self : TapedChannel ω η κ}
      {after : ω × List (Asked η)}
      (started : RecoveringChannel.start link.taped options number (world, []) = (.ok self, after)) : Spared link self
  | step {self next : TapedChannel ω η κ} (spared : Spared link self) (step : Step link self next) (spares : Spares self next) :
      Spared link next

namespace Spared

theorem quiet (spared : Spared link self) (step : Step link self next) (still : next.tape = self.tape) :
    Spared link next := by
  refine spared.step step fun _ line tape => ?_
  rw [still] at tape
  exact absurd (List.self_eq_append_right.mp tape) (List.cons_ne_nil _ _)

theorem call (spared : Spared link self) (usable : self.status ≠ .recovering) (request : Request)
    (clear : ∀ consumer, request = .consume consumer → self.record.topology.resolveTag consumer.tag = consumer.tag) :
    Spared link (self.call link.taped request).2 := by
  refine spared.step (.call self request usable) fun _ line tape consumer sent => ?_
  have cases := RecoveringChannel.called link.taped self request
  generalize self.call link.taped request = outcome at cases tape
  cases cases with
  | refused => exact absurd (List.self_eq_append_right.mp tape) (List.cons_ne_nil _ _)
  | closing =>
    have grown := askGrown link { self with status := .closed, record := self.record.abandon.2 } .close
    cases List.append_cancel_left (grown.tape.symm.trans tape)
    cases sent
  | lasting =>
    have grown := askGrown link self (self.record.resolve request)
    cases List.append_cancel_left (grown.tape.symm.trans tape)
    cases request with
    | consume consumer =>
      cases sent
      exact clear consumer rfl
    | _ => cases sent

theorem attempt (spared : Spared link self) (claimed : self.status = .recovering) (ready : self.due = false) :
    Spared link (self.runRecovery link.taped).2 :=
  spared.step (.attempt self claimed ready) fun usable => absurd claimed usable

end Spared

theorem Spared.reachable (spared : Spared link self) : Reachable link self := by
  induction spared with
  | start started => exact .start started
  | step _ step _ reachable => exact reachable.step step

theorem Spared.mirrors (spared : Spared link self) (fresh : FreshlyAnswered [] self.tape) : Mirrors self := by
  induction spared with
  | @start options number world self after started =>
    unfold RecoveringChannel.start at started
    split at started
    · cases started
    · cases started
      exact .empty
  | step spared step spares mirrors =>
    obtain ⟨lines, tape, _⟩ := stepRenewed spared.reachable.sound step
    have earlier := fresh
    rw [tape] at earlier
    exact stepMirrors (mirrors (freshlyAnsweredAppend.mp earlier).1) step spares fresh

end TapedChannel

namespace PostedChannel

open TapedChannel

variable {ω η κ : Type} {link : Link ω η κ} {self next : PostedChannel ω η κ}

structure Dismissed (message : ConsumerMessage) (before after : PostedChannel ω η κ) : Prop where
  left : after.record.topology.consumers.items = []
  told : ∃ posts, after.posts = before.posts ++ posts ∧
    posts.Perm (postsOf before.record.topology.consumers.items message)

theorem abandonDismissed (mirrors : Mirrors self) (message : ConsumerMessage) :
    Dismissed message self (self.abandonConsumers link.posted.taped message) := by
  obtain ⟨told, empty, _⟩ := ChannelRecord.abandonAll mirrors
  refine ⟨?_, _, abandonPosts link self message, told.map _⟩
  rw [(abandonGrown link.posted self message).record]
  exact empty

theorem Dismissed.since {message : ConsumerMessage} {before middle after last : PostedChannel ω η κ}
    (dismissed : Dismissed message middle after) (posts : middle.posts = before.posts)
    (receivers : middle.record.topology.consumers.items.map RecordedConsumer.receiver
      = before.record.topology.consumers.items.map RecordedConsumer.receiver)
    (record : last.record = after.record) (told : last.posts = after.posts) : Dismissed message before last := by
  obtain ⟨left, more, grown, perm⟩ := dismissed
  have same : postsOf middle.record.topology.consumers.items message
      = postsOf before.record.topology.consumers.items message := by
    have both := congrArg (List.map fun receiver => (receiver, message)) receivers
    rwa [List.map_map, List.map_map] at both
  exact ⟨record ▸ left, more, told.trans (posts ▸ grown), same ▸ perm⟩

theorem failedRestore {e : Error} (mirrors : Mirrors self) (failed : self.restore link.posted.taped = (.error e, next))
    (fresh : FreshlyAnswered [] next.tape) :
    Mirrors next ∧ next.posts = self.posts ∧
      next.record.topology.consumers.items.map RecordedConsumer.receiver
        = self.record.topology.consumers.items.map RecordedConsumer.receiver := by
  have last : (self.restore link.posted.taped).2 = next := congrArg Prod.snd failed
  cases enabled : self.options.topology with
  | true =>
    have posts := restorePosts link self enabled
    obtain ⟨kept, receivers⟩ := restoredMirrors mirrors enabled (last ▸ fresh)
    rw [last] at posts kept receivers
    exact ⟨kept, posts, receivers⟩
  | false =>
    obtain ⟨lines, middle, grown, same, _, _, ended⟩ := restoreDisabled link.posted self enabled
    rcases ended with ⟨other, stopped⟩ | abandoned
    · cases failed.symm.trans stopped
      refine ⟨grown.mirrors mirrors, ?_, by rw [grown.record]⟩
      rw [same]
      exact modesPosts link self
    · cases failed.symm.trans abandoned

theorem disabledRestore (mirrors : Mirrors self) (disabled : self.options.topology = false)
    (restored : self.restore link.posted.taped = (.ok (), next)) : Dismissed .serverCancelled self next := by
  obtain ⟨lines, middle, grown, same, _, _, ended⟩ := restoreDisabled link.posted self disabled
  have posts : middle.posts = self.posts := same ▸ modesPosts link self
  rcases ended with ⟨other, stopped⟩ | abandoned
  · cases restored.symm.trans stopped
  · cases restored.symm.trans abandoned
    exact (abandonDismissed (grown.mirrors mirrors) .serverCancelled).since posts (by rw [grown.record]) rfl rfl

theorem reattachedMirrors {connection : κ} {number : UInt16} {delegate : η} {world : (ω × Posts) × List (Asked η)}
    (mirrors : Mirrors self)
    (opened : self.reopening link.posted.taped = (.ok (connection, number, delegate), world)) :
    Mirrors (self.reattached link.posted.taped world connection delegate) ∧
      (self.reattached link.posted.taped world connection delegate).posts = self.posts ∧
      (self.reattached link.posted.taped world connection delegate).record = self.record ∧
      (self.reattached link.posted.taped world connection delegate).options = self.options := by
  obtain ⟨generation, replaced⟩ := reattachedGrown link.posted opened
  have moved : Mirrors { self with delegate, connection, generation } := mirrors
  exact ⟨replaced.mirrors moved, reattachedPosts link opened connection delegate, replaced.record, replaced.options⟩

theorem failureDismisses {e : Error} {reached : κ × UInt16 × η} (mirrors : Mirrors self)
    (opened : self.reopened link.posted = .ok reached)
    (failed : self.runRecovery link.posted.taped = (.error e, next)) (fresh : FreshlyAnswered [] next.tape) :
    ∃ number cause, e = .recoveryFailed number cause ∧ Dismissed (.serverClosedConnection cause) self next := by
  have cases := RecoveringChannel.ran link.posted.taped self
  rw [failed] at cases
  generalize outcome : (Except.error e, next) = answer at cases
  cases cases with
  | refused unopened => exact absurd (opened.symm.trans (congrArg Prod.fst unopened)) (by simp)
  | @failed connection number delegate world cause restored connected replay =>
    cases outcome
    obtain ⟨attached, posts, record, _⟩ := reattachedMirrors mirrors connected
    have reported := notifyGrown link.posted RecoveringChannel.recoveryListeners
      (.recoveryFailed (restored.abandonConsumers link.posted.taped (.serverClosedConnection cause)).channel cause)
      { restored.abandonConsumers link.posted.taped (.serverClosedConnection cause) with status := .closed }
    have ended := abandonGrown link.posted restored (.serverClosedConnection cause)
    have tape := (reported.tape.trans (List.append_nil _)).trans (ended.tape.trans (List.append_nil _))
    obtain ⟨kept, told, receivers⟩ := failedRestore attached replay (tape ▸ fresh)
    refine ⟨_, cause, rfl, (abandonDismissed kept (.serverClosedConnection cause)).since (told.trans posts) ?_
      reported.record (reportPosts link _ _)⟩
    rw [receivers, record]
  | replayed => cases outcome

theorem disabledDismisses (mirrors : Mirrors self) (disabled : self.options.topology = false)
    (recovered : self.runRecovery link.posted.taped = (.ok (), next)) : Dismissed .serverCancelled self next := by
  have cases := RecoveringChannel.ran link.posted.taped self
  rw [recovered] at cases
  generalize outcome : ((Except.ok (), next) : Except Error Unit × PostedChannel ω η κ) = answer at cases
  cases cases with
  | refused | failed => cases outcome
  | @replayed _ _ _ _ restored connected replay =>
    cases outcome
    obtain ⟨attached, posts, record, options⟩ := reattachedMirrors mirrors connected
    have reported := notifyGrown link.posted RecoveringChannel.recoveryListeners (.recoveryCompleted self.channel)
      { restored with status := .open }
    exact (disabledRestore attached (options ▸ disabled) replay).since posts (by rw [record]) reported.record
      (reportPosts link _ _)

theorem tagsMirrorConsumers (spared : Spared link.posted self) (fresh : FreshlyAnswered [] self.tape) :
    (∀ tag, tag ∈ self.record.activeTags ↔ tag ∈ self.record.topology.consumers.keys) ∧
    (self.status ≠ .closed →
      (self.call link.posted.taped .close).2.record.topology.consumers.items = [] ∧
      (self.call link.posted.taped .close).2.status = .closed) ∧
    (∀ reached e next, self.reopened link.posted = .ok reached →
      self.runRecovery link.posted.taped = (.error e, next) → FreshlyAnswered [] next.tape →
      ∃ number cause, e = .recoveryFailed number cause ∧ Dismissed (.serverClosedConnection cause) self next) ∧
    (self.options.topology = false → ∀ next, self.runRecovery link.posted.taped = (.ok (), next) →
      Dismissed .serverCancelled self next) := by
  have mirrors := spared.mirrors fresh
  refine ⟨mirrors.active, fun usable => ?_, fun reached e next opened failed fresh =>
    failureDismisses mirrors opened failed fresh, fun disabled next => disabledDismisses mirrors disabled⟩
  have closing : self.call link.posted.taped .close = self.close link.posted.taped := if_neg usable
  have grown := askGrown link.posted { self with status := .closed, record := self.record.abandon.2 } .close
  obtain ⟨_, empty, _⟩ := ChannelRecord.abandonAll mirrors
  have left : (self.close link.posted.taped).2.record = self.record.abandon.2 := grown.record
  have closed : (self.close link.posted.taped).2.status = .closed := (grown.calm (by simp)).1
  rw [closing, left]
  exact ⟨empty, closed⟩

end PostedChannel

namespace Rehearsal

abbrev PostedRehearsal := PostedChannel Rehearsal Nat Nat

def postedStart : PostedRehearsal :=
  { options := {}, channel := 7, delegate := 0, connection := 1, generation := 1,
    world := (RecoveringChannel.start link.posted.taped {} none (({}, []), [])).2 }

def direct (script : Script) (self : PostedRehearsal) : PostedRehearsal :=
  { self with world := ((self.world.1.1.changeScript fun _ => script, self.world.1.2), self.world.2) }

def ask (request : Request) (self : PostedRehearsal) : PostedRehearsal := (self.call link.posted.taped request).2

def bringBack (self : PostedRehearsal) : PostedRehearsal :=
  ({ self with status := .recovering }.runRecovery link.posted.taped).2

def retagged : PostedRehearsal :=
  bringBack (direct { renameTags := true }
    (ask (.consume ⟨"a", "first", {}, 0⟩) (ask (.declareQueue "second" {}) (ask (.declareQueue "first" {}) postedStart))))

def troubled : PostedRehearsal :=
  direct { fail := "basic.consume second" } (ask (.consume ⟨"b", "second", {}, 1⟩) (direct {} retagged))

def reused : PostedRehearsal :=
  ask (.deleteQueue "first" {}) (ask (.consume ⟨"a", "second", {}, 1⟩) (direct {} retagged))

theorem directSpared {self : PostedRehearsal} (script : Script) (spared : TapedChannel.Spared link.posted self) :
    TapedChannel.Spared link.posted (direct script self) :=
  spared.quiet (.disturb self (self.world.1.1.changeScript fun _ => script, self.world.1.2)) rfl

theorem bringBackSpared {self : PostedRehearsal} (spared : TapedChannel.Spared link.posted self)
    (idle : self.status = .open) (ready : self.due = false) : TapedChannel.Spared link.posted (bringBack self) :=
  (spared.quiet (.claim self idle) rfl).attempt rfl ready

theorem retaggedSpared : TapedChannel.Spared link.posted retagged := by
  have began : RecoveringChannel.start link.posted.taped {} none (({}, []), [])
    = (.ok postedStart, postedStart.world) := rfl
  have first := (TapedChannel.Spared.start began).call (by decide) (.declareQueue "first" {}) (by simp)
  have second := first.call (by decide) (.declareQueue "second" {}) (by simp)
  have fed := second.call (by decide) (.consume ⟨"a", "first", {}, 0⟩) fun consumer asked => by
    cases asked
    rfl
  exact bringBackSpared (directSpared { renameTags := true } fed) rfl rfl

theorem troubledSpared : TapedChannel.Spared link.posted troubled := by
  have fed := (directSpared {} retaggedSpared).call (by decide) (.consume ⟨"b", "second", {}, 1⟩) fun consumer asked => by
    cases asked
    rfl
  exact directSpared { fail := "basic.consume second" } fed

theorem reusedReachable : TapedChannel.Reachable link.posted reused := by
  have directed := (directSpared {} retaggedSpared).reachable
  have fed := directed.step (.call _ (.consume ⟨"a", "second", {}, 1⟩) (by decide))
  exact fed.step (.call _ (.deleteQueue "first" {}) (by decide))

theorem troubledFresh : FreshlyAnswered [] (bringBack troubled).tape :=
  ⟨.inl ⟨rfl, by decide⟩, .inl ⟨rfl, by decide⟩, .inl ⟨rfl, by decide⟩,
    .inl ⟨rfl, by decide⟩, .inl ⟨rfl, by decide⟩, .inr (by decide), .inl ⟨rfl, by decide⟩,
    .inl ⟨rfl, by decide⟩, .inl ⟨rfl, by decide⟩, .inl ⟨rfl, by decide⟩, trivial, trivial⟩

theorem troubledDismissed :
    (troubled.record.topology.consumers.keys = ["ctag-1", "b"]) ∧
      (∀ tag, tag ∈ troubled.record.activeTags ↔ tag ∈ ["ctag-1", "b"]) ∧
      ∃ cause, PostedChannel.Dismissed (.serverClosedConnection cause) troubled (bringBack troubled) := by
  have fresh : FreshlyAnswered [] troubled.tape :=
    ⟨.inl ⟨rfl, by decide⟩, .inl ⟨rfl, by decide⟩, .inl ⟨rfl, by decide⟩,
      .inl ⟨rfl, by decide⟩, .inl ⟨rfl, by decide⟩, .inr (by decide), .inl ⟨rfl, by decide⟩, trivial⟩
  have spared : TapedChannel.Spared link.posted { troubled with status := .recovering } :=
    troubledSpared.quiet (.claim troubled rfl) rfl
  obtain ⟨active, _, failed, _⟩ := PostedChannel.tagsMirrorConsumers spared fresh
  have again := troubledFresh
  have refused : ({ troubled with status := .recovering }.runRecovery link.posted.taped).1.isOk = false := rfl
  have connected : TapedChannel.reopened link.posted { troubled with status := .recovering } = .ok (3, 7, 2) := rfl
  unfold bringBack at again
  simp only [bringBack]
  rcases ended : ({ troubled with status := .recovering }.runRecovery link.posted.taped) with ⟨e | ⟨⟩, next⟩
  · rw [ended] at again
    obtain ⟨_, cause, _, dismissed⟩ := failed _ e next connected ended again
    rw [ended]
    exact ⟨rfl, active, cause, dismissed.left, dismissed.told⟩
  · rw [ended] at refused
    cases refused

theorem reusedTagHidden :
    TapedChannel.Reachable link.posted reused ∧ FreshlyAnswered [] reused.tape ∧
      reused.record.activeTags = [] ∧ reused.record.topology.consumers.keys = ["a"] ∧
      (reused.call link.posted.taped .close).1 = .ok .done ∧
      (reused.call link.posted.taped .close).2.record.topology.consumers.keys = ["a"] ∧
      (bringBack (direct { fail := "queue.declare" } reused)).posts = [] := by
  refine ⟨reusedReachable, ?_, ?_, ?_, ?_, ?_, ?_⟩
  · exact ⟨.inl ⟨rfl, by decide⟩, .inl ⟨rfl, by decide⟩, .inl ⟨rfl, by decide⟩,
      .inl ⟨rfl, by decide⟩, .inl ⟨rfl, by decide⟩, .inr (by decide), .inl ⟨rfl, by decide⟩, trivial, trivial⟩
  all_goals rfl

end Rehearsal

end AmqpClient
