import AmqpClient.Proofs.Recovery.Wiring
import AmqpClient.Proofs.Recovery.Discipline

/-! A recovering channel in the course of its life. Whatever is called, recovered, registered and signalled, it keeps
abreast of its chronicle, and what replaced delegates raise makes no difference. -/
namespace AmqpClient

namespace Replay

variable {σ : Type} {ask other : σ → Request → Except Error Reply × σ} {keeps : σ → Prop}

def within (ask : σ → Request → Except Error Reply × σ) (step : ∀ s request, keeps s → keeps (ask s request).2)
    (s : { s // keeps s }) (request : Request) : Except Error Reply × { s // keeps s } :=
  ((ask s.1 request).1, ⟨(ask s.1 request).2, step s.1 request s.2⟩)

theorem requestsAlike (step : ∀ s request, keeps s → ask s request = other s request ∧ keeps (ask s request).2)
    (list : List Request) (s : σ) (kept : keeps s) :
    requests ask list s = requests other list s ∧ keeps (requests ask list s).2 := by
  have keep (s : σ) (request : Request) (kept : keeps s) : keeps (ask s request).2 := (step s request kept).2
  have one := @requestsViewed _ _ (within ask keep) ask Subtype.val (fun _ _ => rfl) list ⟨s, kept⟩
  have two := @requestsViewed _ _ (within ask keep) other Subtype.val
    (fun s request => (step s.1 request s.2).1.symm) list ⟨s, kept⟩
  exact ⟨one.trans two.symm, requestsKeep list (fun s request _ => keep s request) s kept⟩

theorem topologyAlike (step : ∀ s request, keeps s → ask s request = other s request ∧ keeps (ask s request).2)
    (record : ChannelRecord) (s : σ) (kept : keeps s) :
    topology ask record s = topology other record s ∧ keeps (topology ask record s).2.2 := by
  have keep (s : σ) (request : Request) (kept : keeps s) : keeps (ask s request).2 := (step s request kept).2
  have one := @topologyViewed _ _ (within ask keep) ask Subtype.val (fun _ _ => rfl) record ⟨s, kept⟩
  have two := @topologyViewed _ _ (within ask keep) other Subtype.val
    (fun s request => (step s.1 request s.2).1.symm) record ⟨s, kept⟩
  exact ⟨one.trans two.symm, topologyKeeps keep record s kept⟩

end Replay

namespace ChronicledChannel

variable {ω η κ : Type} [DecidableEq η] [DecidableEq κ] (link : Link ω η κ)
  (emitted : ω → List (η × ChannelEvent) × ω) {self : ChronicledChannel ω η κ}

theorem attachAbreast {connection : κ} (delegate : η) (abreast : Abreast (some connection) self)
    {replaced : ChronicledChannel ω η κ}
    (attached : replaced = { self with
      delegate, connection, generation := self.generation + 1
      world := (link.chronicled emitted Relay.every).attach delegate (self.generation + 1) self.world }) :
    Abreast none replaced ∧ (Standing.of replaced.chronicle).formerDelegate = some self.delegate ∧
      (Standing.of replaced.chronicle).formerConnection = some self.connection := by
  have grown : replaced.chronicle = self.chronicle ++ [.attached delegate (self.generation + 1)] := attached ▸ rfl
  have attachings : replaced.attachings = self.attachings ++ [(delegate, self.generation + 1)] := attached ▸ rfl
  have standing := Standing.ofAppend self.chronicle [.attached delegate (self.generation + 1)]
  rw [← grown, List.foldl_cons, List.foldl_nil, Standing.enter] at standing
  refine ⟨⟨?_, ?_, ?_, ?_, ?_, ?_, ?_, ?_, ?_, ?_⟩, ?_, ?_⟩
  · rw [grown, attachings, List.filterMap_append, abreast.attached]
    rfl
  · rw [attachings, List.map_append, abreast.numbered, attached, List.range'_1_concat, Nat.add_comm 1]
    rfl
  · rw [attachings, attached, List.getLast?_concat]
  · rw [standing, attached]
  · rw [standing, attached, abreast.ahead]
  · rw [standing]
  · rw [standing, abreast.timely]
  · rw [standing, attached, abreast.listeners]
  · rw [attached]
    exact abreast.inTurn
  · rw [standing, grown, List.filterMap_append, abreast.heard]
    exact List.append_nil _
  · rw [standing, abreast.delegate]
  · rw [standing, abreast.connection]

theorem actFollows {ahead : Option κ} (abreast : Abreast ahead self)
    (step : (ω × List (η × Generation)) × Chronicle η κ → (ω × List (η × Generation)) × Chronicle η κ)
    (mark : Mark η κ) (attachings : (step self.world).1.2 = self.world.1.2)
    (grown : (step self.world).2 = self.world.2 ++ [mark]) (unattached : mark.attachment? = none)
    (unheard : mark.hearing? = none)
    (same : (Standing.of self.chronicle).enter mark = Standing.of self.chronicle) :
    Follows ahead (self.act (link.chronicled emitted Relay.every) step)
        (self.act (link.chronicled emitted Relay.last) step) ∧
      ∃ owed, Standing.of (self.act (link.chronicled emitted Relay.every) step).chronicle
        = { Standing.of self.chronicle with owed } := by
  have stepped : Abreast ahead { self with world := step self.world } := by
    refine abreast.grown ⟨attachings, rfl, rfl, rfl, rfl⟩ [mark] grown (by simp [unattached]) ?_
    rw [List.foldl_cons, List.foldl_nil, same, List.filterMap_cons_none unheard, List.filterMap_nil, List.append_nil,
      ← abreast.ahead]
  obtain ⟨owed, standing⟩ := attendStanding link emitted Relay.every { self with world := step self.world }
  have entered : Standing.of { self with world := step self.world }.chronicle = Standing.of self.chronicle :=
    (congrArg Standing.of grown).trans ((Standing.ofAppend ..).trans same)
  rw [entered] at standing
  exact ⟨attendFollows link emitted stepped, owed, standing⟩

theorem replaceFollows {connection : κ} (delegate : η) (abreast : Abreast (some connection) self) :
    Follows none (self.replaceDelegate (link.chronicled emitted Relay.every) connection delegate)
      (self.replaceDelegate (link.chronicled emitted Relay.last) connection delegate) := by
  obtain ⟨attached, delegated, connected⟩ := attachAbreast link emitted delegate abreast rfl
  obtain ⟨⟨same, dropped⟩, owed, standing⟩ := actFollows link emitted attached
    ((link.chronicled emitted Relay.every).dropChannel self.delegate) (.dropped self.delegate) rfl rfl rfl rfl
    (if_pos delegated)
  have idle := dropped.ahead
  obtain ⟨⟨last, hungUp⟩, -⟩ := actFollows link emitted dropped
    ((link.chronicled emitted Relay.every).dropConnection self.connection) (.hungUp self.connection) rfl rfl rfl rfl
    (by rw [Standing.enter, idle, if_neg (by simp), if_pos (by rw [standing, connected])])
  unfold RecoveringChannel.replaceDelegate
  exact ⟨last.trans (congrArg (RecoveringChannel.act _ _) same), hungUp⟩

theorem askFollows (self : ChronicledChannel ω η κ) (request : Request) (abreast : Abreast none self) :
    Concurs (self.ask (link.chronicled emitted Relay.every) request)
      (self.ask (link.chronicled emitted Relay.last) request) := by
  have asked : Abreast none { self with
      world := ((link.chronicled emitted Relay.every).request self.delegate request self.world).2 } :=
    abreast.still ⟨rfl, rfl, rfl, rfl, rfl⟩ rfl
  obtain ⟨same, after⟩ := attendFollows link emitted asked
  exact ⟨congrArg (Prod.mk _) same, after⟩

theorem reportAbreast {ahead : Option κ} (relay : Relay η) {notice : Notice} (other : notice.isRecovery = true)
    (abreast : Abreast ahead self) : Abreast ahead (self.report (link.chronicled emitted relay) notice) := by
  refine abreast.still (notifyStays link emitted relay _ notice self)
    ((notifyChronicle link emitted relay _ notice self).2.trans ?_)
  cases notice with
  | channel => exact absurd other (by simp [Notice.isRecovery])
  | recoveryStarted | recoveryCompleted | recoveryFailed => simp [Mark.ofNotice]

theorem abandonFollows (message : ConsumerMessage) (abreast : Abreast none self) :
    Follows none (self.abandonConsumers (link.chronicled emitted Relay.every) message)
      (self.abandonConsumers (link.chronicled emitted Relay.last) message) := by
  have told (consumers : List RecordedConsumer) (start : ChronicledChannel ω η κ) (abreast : Abreast none start) :
      Follows none
        (consumers.foldl (fun self consumer => self.act (link.chronicled emitted Relay.every)
          ((link.chronicled emitted Relay.every).tell consumer.receiver message)) start)
        (consumers.foldl (fun self consumer => self.act (link.chronicled emitted Relay.last)
          ((link.chronicled emitted Relay.last).tell consumer.receiver message)) start) := by
    induction consumers generalizing start with
    | nil => exact ⟨rfl, abreast⟩
    | cons consumer rest ih =>
      have said : Abreast none { start with
          world := (link.chronicled emitted Relay.every).tell consumer.receiver message start.world } :=
        abreast.still ⟨rfl, rfl, rfl, rfl, rfl⟩ rfl
      obtain ⟨same, after⟩ := attendFollows link emitted said
      obtain ⟨later, kept⟩ := ih _ after
      exact ⟨later.trans (congrArg (fun start => List.foldl _ start rest) same), kept⟩
  exact told _ _ (abreast.still ⟨rfl, rfl, rfl, rfl, rfl⟩ rfl)

theorem restoreFollows (abreast : Abreast none self) :
    Concurs (self.restore (link.chronicled emitted Relay.every))
      (self.restore (link.chronicled emitted Relay.last)) := by
  obtain ⟨same, prepared⟩ := Replay.requestsAlike (askFollows link emitted) self.record.modeRequests self abreast
  unfold RecoveringChannel.restore
  rw [← same]
  generalize Replay.requests (RecoveringChannel.ask (link.chronicled emitted Relay.every)) self.record.modeRequests
    self = answer at prepared ⊢
  obtain ⟨e | ⟨⟩, middle⟩ := answer
  · exact ⟨rfl, prepared⟩
  · obtain ⟨alike, replayed⟩ := Replay.topologyAlike (askFollows link emitted) middle.record middle prepared
    obtain ⟨told, abandoned⟩ := abandonFollows link emitted .serverCancelled prepared
    dsimp only
    rw [← alike, ← told]
    split
    · exact ⟨rfl, replayed.still ⟨rfl, rfl, rfl, rfl, rfl⟩ rfl⟩
    · exact ⟨rfl, abandoned⟩

theorem failureFollows (cause : Error) (abreast : Abreast none self) :
    Concurs (self.recoveryFailed (link.chronicled emitted Relay.every) cause)
      (self.recoveryFailed (link.chronicled emitted Relay.last) cause) :=
  ⟨rfl, reportAbreast link emitted Relay.every rfl abreast⟩

theorem runRecoveryFollows (abreast : Abreast none self) :
    Concurs (self.runRecovery (link.chronicled emitted Relay.every))
      (self.runRecovery (link.chronicled emitted Relay.last)) := by
  have begun : Abreast none (self.report (link.chronicled emitted Relay.every) (.recoveryStarted self.channel)) :=
    reportAbreast link emitted Relay.every rfl abreast
  -- nothing is relayed while listeners are told of recoveries, or while a channel is opened
  have reported : self.report (link.chronicled emitted Relay.last) (.recoveryStarted self.channel)
      = self.report (link.chronicled emitted Relay.every) (.recoveryStarted self.channel) := rfl
  have opening : @RecoveringChannel.reopen _ _ _ (link.chronicled emitted Relay.last)
      = RecoveringChannel.reopen (link.chronicled emitted Relay.every) := rfl
  unfold RecoveringChannel.runRecovery
  rw [reported, opening]
  generalize self.report (link.chronicled emitted Relay.every) (.recoveryStarted self.channel) = started at begun ⊢
  dsimp only
  rcases opened : RecoveringChannel.reopen (link.chronicled emitted Relay.every) (some self.channel) started.world
    with ⟨e | ⟨connection, number, delegate⟩, world⟩
  · obtain ⟨same, attended⟩ := attendFollows link emitted (reopenAbreast begun opened)
    dsimp only
    rw [← same]
    exact failureFollows link emitted e (attended.still ⟨rfl, rfl, rfl, rfl, rfl⟩ rfl)
  · obtain ⟨same, attended⟩ := attendFollows link emitted (reopenAbreast begun opened)
    obtain ⟨alike, replaced⟩ := replaceFollows link emitted delegate attended
    obtain ⟨likewise, restored⟩ := restoreFollows link emitted replaced
    dsimp only
    rw [← same, ← alike, ← likewise]
    generalize RecoveringChannel.restore (link.chronicled emitted Relay.every) _ = answer at restored ⊢
    obtain ⟨cause | ⟨⟩, restored⟩ := answer
    · obtain ⟨told, abandoned⟩ := abandonFollows link emitted (.serverClosedConnection cause) restored
      dsimp only
      rw [← told]
      exact failureFollows link emitted cause (abandoned.still ⟨rfl, rfl, rfl, rfl, rfl⟩ rfl)
    · exact ⟨rfl, reportAbreast link emitted Relay.every rfl (restored.still ⟨rfl, rfl, rfl, rfl, rfl⟩ rfl)⟩

theorem recoverFollows (abreast : Abreast none self) :
    Concurs (self.recover (link.chronicled emitted Relay.every))
      (self.recover (link.chronicled emitted Relay.last)) := by
  unfold RecoveringChannel.recover
  split
  · exact ⟨rfl, abreast⟩
  · exact ⟨rfl, abreast⟩
  · exact runRecoveryFollows link emitted (abreast.still ⟨rfl, rfl, rfl, rfl, rfl⟩ rfl)

theorem retryFollows (attempts : Nat) (abreast : Abreast none self) :
    Follows none (self.retry (link.chronicled emitted Relay.every) attempts)
      (self.retry (link.chronicled emitted Relay.last) attempts) := by
  induction attempts generalizing self with
  | zero => exact ⟨rfl, abreast.still ⟨rfl, rfl, rfl, rfl, rfl⟩ rfl⟩
  | succ attempts ih =>
    obtain ⟨same, ran⟩ := runRecoveryFollows link emitted abreast
    unfold RecoveringChannel.retry
    rw [← same]
    generalize self.runRecovery (link.chronicled emitted Relay.every) = outcome at ran ⊢
    obtain ⟨e | ⟨⟩, next⟩ := outcome
    · dsimp only
      split
      · exact ih (ran.still ⟨rfl, rfl, rfl, rfl, rfl⟩ rfl)
      · exact ⟨rfl, ran⟩
    · exact ⟨rfl, ran⟩

theorem settleFollows (attempts : Nat) (abreast : Abreast none self) :
    Follows none (self.settle (link.chronicled emitted Relay.every) attempts)
      (self.settle (link.chronicled emitted Relay.last) attempts) := by
  unfold RecoveringChannel.settle
  split
  · exact retryFollows link emitted attempts (abreast.still ⟨rfl, rfl, rfl, rfl, rfl⟩ rfl)
  · exact ⟨rfl, abreast⟩

theorem callFollows (request : Request) (abreast : Abreast none self) :
    Concurs (self.call (link.chronicled emitted Relay.every) request)
      (self.call (link.chronicled emitted Relay.last) request) := by
  unfold RecoveringChannel.call
  split
  · exact ⟨rfl, abreast⟩
  · split
    · exact ⟨rfl, abreast⟩
    · split
      · exact askFollows link emitted _ _ (abreast.still ⟨rfl, rfl, rfl, rfl, rfl⟩ rfl)
      · obtain ⟨same, asked⟩ := askFollows link emitted self (self.record.resolve request) abreast
        rw [← same]
        exact ⟨rfl, asked.still ⟨rfl, rfl, rfl, rfl, rfl⟩ rfl⟩

end ChronicledChannel

def Occurrence.marks {ω η κ : Type} : Occurrence ω → Chronicle η κ
  | .listen kind listener => [.listened kind listener]
  | .unlisten kind id => [.unlistened kind id]
  | _ => []

namespace ChronicledChannel

variable {ω η κ : Type} (link : Link ω η κ) (emitted : ω → List (η × ChannelEvent) × ω)

def noting (occurrence : Occurrence ω) (self : ChronicledChannel ω η κ) : ChronicledChannel ω η κ :=
  { self with world := (self.world.1, self.world.2 ++ occurrence.marks) }

def recount (relay : Relay η) (self : ChronicledChannel ω η κ) (occurrence : Occurrence ω) :
    ChronicledChannel ω η κ :=
  noting occurrence (self.undergo (link.chronicled emitted relay) occurrence.beside.beside)

theorem recountPlain (relay : Relay η) (self : ChronicledChannel ω η κ) (occurrence : Occurrence ω) :
    (recount link emitted relay self occurrence).viewed Prod.fst
      = (self.viewed Prod.fst).undergo (link.wired emitted relay) occurrence.beside :=
  RecoveringChannel.undergoViewed (link.chronicledCarries emitted relay) occurrence.beside self

def recountAll (relay : Relay η) (occurrences : List (Occurrence ω)) (self : ChronicledChannel ω η κ) :
    ChronicledChannel ω η κ :=
  occurrences.foldl (recount link emitted relay) self

theorem recountAllPlain (relay : Relay η) (occurrences : List (Occurrence ω)) (self : ChronicledChannel ω η κ) :
    (recountAll link emitted relay occurrences self).viewed Prod.fst
      = (self.viewed Prod.fst).undergoAll (link.wired emitted relay) (occurrences.map Occurrence.beside) := by
  rw [RecoveringChannel.undergoAll, List.foldl_map]
  exact (List.foldl_hom _ fun self occurrence => (recountPlain link emitted relay self occurrence).symm).symm

variable [DecidableEq η] [DecidableEq κ] {self : ChronicledChannel ω η κ}

theorem undergoFollows {occurrence : Occurrence ω} (unmarked : (occurrence.marks : Chronicle η κ) = [])
    (abreast : Abreast none self) :
    Follows none (self.undergo (link.chronicled emitted Relay.every) occurrence.beside.beside)
      (self.undergo (link.chronicled emitted Relay.last) occurrence.beside.beside) := by
  cases occurrence with
  | call request =>
    obtain ⟨same, called⟩ := callFollows link emitted request abreast
    dsimp only [RecoveringChannel.undergo, Occurrence.beside]
    rw [← same]
    split
    · exact ⟨rfl, abreast⟩
    · exact ⟨rfl, called⟩
  | recover =>
    obtain ⟨same, recovered⟩ := recoverFollows link emitted abreast
    exact ⟨congrArg Prod.snd same, recovered⟩
  | settle attempts => exact settleFollows link emitted attempts abreast
  | signal change =>
    have changed : Abreast none { self with world := Prod.map (Prod.map change id) id self.world } :=
      abreast.still ⟨rfl, rfl, rfl, rfl, rfl⟩ rfl
    exact attendFollows link emitted changed
  | listen | unlisten => exact absurd unmarked (List.cons_ne_nil _ _)
  | follow | unfollow => exact ⟨rfl, abreast.still ⟨rfl, rfl, rfl, rfl, rfl⟩ rfl⟩

theorem Abreast.registered (abreast : Abreast none self) {mark : Mark η κ} (unattached : mark.attachment? = none)
    (unheard : mark.hearing? = none) {listeners : ChannelListeners Listener} (inTurn : listeners.InTurn)
    (entered : (Standing.of self.chronicle).enter mark = { Standing.of self.chronicle with listeners }) :
    Abreast none { self with listeners, world := (self.world.1, self.world.2 ++ [mark]) } := by
  have standing : Standing.of (self.world.2 ++ [mark]) = { Standing.of self.chronicle with listeners } :=
    (Standing.ofAppend self.chronicle [mark]).trans entered
  refine ⟨?_, abreast.numbered, abreast.latest, ?_, ?_, ?_, ?_, ?_, inTurn, ?_⟩ <;>
    simp only [RecoveringChannel.chronicle, standing]
  · rw [List.filterMap_append, List.filterMap_cons_none unattached]
    exact (List.append_nil _).trans abreast.attached
  · exact abreast.delegate
  · exact abreast.connection
  · exact abreast.ahead
  · exact abreast.timely
  · rw [List.filterMap_append, List.filterMap_cons_none unheard]
    exact (List.append_nil _).trans abreast.heard

theorem recountFollows (occurrence : Occurrence ω) (abreast : Abreast none self) :
    Follows none (recount link emitted Relay.every self occurrence)
      (recount link emitted Relay.last self occurrence) := by
  have unmarked (nothing : (occurrence.marks : Chronicle η κ) = []) (relay : Relay η) :
      recount link emitted relay self occurrence
        = self.undergo (link.chronicled emitted relay) occurrence.beside.beside := by
    rw [recount, noting, nothing, List.append_nil]
  cases occurrence with
  | listen kind listener =>
    refine ⟨rfl, abreast.registered rfl rfl (abreast.inTurn.add kind listener) ?_⟩
    rw [Standing.enter, abreast.listeners]
    rfl
  | unlisten kind id =>
    refine ⟨rfl, abreast.registered rfl rfl (abreast.inTurn.remove kind id) ?_⟩
    rw [Standing.enter, abreast.listeners]
    rfl
  | call | recover | settle | signal | follow | unfollow =>
    rw [unmarked rfl, unmarked rfl]
    exact undergoFollows link emitted rfl abreast

theorem recountAllFollows (occurrences : List (Occurrence ω)) (abreast : Abreast none self) :
    Follows none (recountAll link emitted Relay.every occurrences self)
      (recountAll link emitted Relay.last occurrences self) := by
  induction occurrences generalizing self with
  | nil => exact ⟨rfl, abreast⟩
  | cons occurrence rest ih =>
    obtain ⟨same, recounted⟩ := recountFollows link emitted occurrence abreast
    obtain ⟨later, kept⟩ := ih recounted
    exact ⟨later.trans (congrArg (recountAll link emitted Relay.last rest) same), kept⟩

def opening (self : RecoveringChannel (ω × List (η × Generation)) η κ) : ChronicledChannel ω η κ :=
  { self with world := (self.world, [.connected self.connection, .attached self.delegate self.generation]) }

variable {link emitted}

theorem startAbreast {options : RecoveryOptions} {number : Option UInt16} {world : ω}
    {after : ω × List (η × Generation)} {self : RecoveringChannel (ω × List (η × Generation)) η κ}
    (started : RecoveringChannel.start (link.wired emitted Relay.every) options number (world, [])
      = (.ok self, after)) :
    RecoveringChannel.start (link.chronicled emitted Relay.every) options number ((world, []), [])
        = (.ok (opening self), (opening self).world) ∧ Abreast none (opening self) := by
  unfold RecoveringChannel.start RecoveringChannel.reopen at *
  dsimp only [Link.chronicled, Link.wired] at *
  rcases connected : link.connect world with ⟨e | connection, next⟩
  · simp [connected] at started
  · simp only [connected] at started ⊢
    rcases opened : link.openChannel connection number next with ⟨e | ⟨channel, delegate⟩, last⟩
    · simp [opened] at started
    · simp only [opened, Prod.mk.injEq, Except.ok.injEq] at started ⊢
      obtain ⟨rfl, rfl⟩ := started
      exact ⟨⟨rfl, rfl⟩, rfl, rfl, rfl, rfl, rfl, rfl, rfl, rfl, ChannelListeners.emptyInTurn, rfl⟩

/- Listeners have heard what the present delegate raised while they were registered, in turn, and nothing else.
Delegates that were replaced might as well have been detached. -/
theorem listenersFollowTheDelegate {options : RecoveryOptions} {number : Option UInt16} {world : ω}
    {after : ω × List (η × Generation)} {self : RecoveringChannel (ω × List (η × Generation)) η κ}
    (started : RecoveringChannel.start (link.wired emitted Relay.every) options number (world, [])
      = (.ok self, after))
    (occurrences : List (Occurrence ω)) :
    (recountAll link emitted Relay.every occurrences (opening self)).viewed Prod.fst
        = self.undergoAll (link.wired emitted Relay.every) (occurrences.map Occurrence.beside) ∧
      Abreast none (recountAll link emitted Relay.every occurrences (opening self)) ∧
      self.undergoAll (link.wired emitted Relay.every) (occurrences.map Occurrence.beside)
        = self.undergoAll (link.wired emitted Relay.last) (occurrences.map Occurrence.beside) := by
  have plain (relay : Relay η) := recountAllPlain link emitted relay occurrences (opening self)
  obtain ⟨same, abreast⟩ := recountAllFollows link emitted occurrences (startAbreast started).2
  refine ⟨plain _, abreast, ?_⟩
  exact (plain Relay.every).symm.trans ((congrArg (RecoveringChannel.viewed Prod.fst) same).trans (plain Relay.last))

end ChronicledChannel

namespace Rehearsal

def emitted (world : Rehearsal) : List (Nat × ChannelEvent) × Rehearsal :=
  (world.events.filterMap fun raised =>
      (world.channels.findIdx? fun channel => channel.generation == some raised.1).map fun place => (place, raised.2),
    { world with events := [] })

def shutting : Link Rehearsal Nat Nat :=
  { link with dropChannel := fun place world =>
      (link.dropChannel place world).kill place false true .clientClosedChannel }

end Rehearsal

namespace ChronicledChannel

def relayedStart : RecoveringChannel (Rehearsal × List (Nat × Generation)) Nat Nat :=
  { options := {}, channel := 7, delegate := 0, connection := 1, generation := 1,
    world := (RecoveringChannel.start (Rehearsal.shutting.wired Rehearsal.emitted Relay.every) {} none ({}, [])).2 }

/- The recovery of a healthy channel, then the loss of the second delegate, and each time news of the delegate
before; the second recovery succeeds after one that fails. -/
def relayedTroubles : List (Occurrence Rehearsal) :=
  [.listen .shutdown ⟨"ear", false, true⟩, .listen .flow ⟨"eye", false, false⟩, .recover,
    .signal (Rehearsal.raise 0 (.flow false)), .signal (Rehearsal.raise 1 (.flow true)),
    .signal (Rehearsal.changeScript fun script => { script with refuseConnect := 1 }),
    .signal (Rehearsal.kill 1 true false .connectionDropped), .settle 2,
    .signal (Rehearsal.raise 1 (.flow true)), .listen .flow ⟨"late", false, false⟩,
    .signal (Rehearsal.raise 2 (.flow false))]

def relayed : ChronicledChannel Rehearsal Nat Nat :=
  recountAll Rehearsal.shutting Rehearsal.emitted Relay.every relayedTroubles (opening relayedStart)

theorem relayedInTurn :
    relayed.chronicle.filterMap Mark.hearing?
        = [(⟨"eye", false, false⟩, .flow true), (⟨"ear", false, true⟩, .shutdown ⟨7, true, false, .connectionDropped⟩),
          (⟨"eye", false, false⟩, .flow false), (⟨"late", false, false⟩, .flow false)] ∧
      relayed.generation = 3 ∧ relayed.status = .open ∧ Abreast none relayed ∧
      relayedStart.undergoAll (Rehearsal.shutting.wired Rehearsal.emitted Relay.every)
          (relayedTroubles.map Occurrence.beside)
        = relayedStart.undergoAll (Rehearsal.shutting.wired Rehearsal.emitted Relay.last)
          (relayedTroubles.map Occurrence.beside) := by
  have started : RecoveringChannel.start (Rehearsal.shutting.wired Rehearsal.emitted Relay.every) {} none ({}, [])
      = (.ok relayedStart, relayedStart.world) := rfl
  obtain ⟨-, abreast, same⟩ := listenersFollowTheDelegate started relayedTroubles
  exact ⟨rfl, rfl, rfl, abreast, same⟩

end ChronicledChannel

end AmqpClient
