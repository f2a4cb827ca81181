import AmqpClient.Proofs.Recovery.Viewing
import AmqpClient.Proofs.Recovery.Attending
import AmqpClient.Proofs.Recovery.Reachability

/-! What the listeners of a recovering channel hear of its recoveries. Calls, replays and events tell them
nothing; a recovery tells all who are registered when it starts that it has started and then how it ended. -/
namespace AmqpClient

abbrev Heard := List (Listener × Notice)

/- The same link, with all that listeners are told put down beside its world, whatever they make of it. -/
def Link.heeded (link : Link ω η κ) : Link (ω × Heard) η κ where
  connect world := ((link.connect world.1).1, (link.connect world.1).2, world.2)
  openChannel connection number world :=
    ((link.openChannel connection number world.1).1, (link.openChannel connection number world.1).2, world.2)
  attach delegate generation world := (link.attach delegate generation world.1, world.2)
  request delegate request world :=
    ((link.request delegate request world.1).1, (link.request delegate request world.1).2, world.2)
  dropChannel delegate world := (link.dropChannel delegate world.1, world.2)
  dropConnection connection world := (link.dropConnection connection world.1, world.2)
  tell receiver message world := (link.tell receiver message world.1, world.2)
  hear listener notice world :=
    ((link.hear listener notice world.1).1, (link.hear listener notice world.1).2,
      world.2 ++ [(listener, notice)])
  raised world := ((link.raised world.1).1, (link.raised world.1).2, world.2)

theorem Link.heededCarries {ω η κ : Type} (link : Link ω η κ) : link.heeded.Carries Prod.fst link :=
  ⟨fun _ => rfl, fun _ _ _ => rfl, fun _ _ _ => rfl, fun _ _ _ => rfl, fun _ _ => rfl, fun _ _ => rfl,
    fun _ _ _ => rfl, fun _ _ _ => rfl, fun _ => rfl⟩

abbrev HeededChannel (ω η κ : Type) := TapedChannel (ω × Heard) η κ

namespace Notice

def isRecovery : Notice → Bool
  | channel _ => false
  | _ => true

end Notice

def RecoveringChannel.recoveryNews (self : HeededChannel ω η κ) : Heard :=
  self.world.1.2.filter fun heard => heard.2.isRecovery

namespace HeededChannel

variable {ω η κ : Type} (link : Link ω η κ)

structure Quiet (before after : HeededChannel ω η κ) : Prop where
  news : after.recoveryNews = before.recoveryNews
  audience : after.recoveryListeners = before.recoveryListeners
  channel : after.channel = before.channel

theorem Quiet.refl (self : HeededChannel ω η κ) : Quiet self self := ⟨rfl, rfl, rfl⟩

theorem Quiet.trans {before middle after : HeededChannel ω η κ} (one : Quiet before middle)
    (two : Quiet middle after) : Quiet before after :=
  ⟨two.news.trans one.news, two.audience.trans one.audience, two.channel.trans one.channel⟩

theorem Quiet.setStatus {before after : HeededChannel ω η κ} (quiet : Quiet before after) (status : RecoveryStatus) :
    Quiet before { after with status } :=
  ⟨quiet.news, quiet.audience, quiet.channel⟩

theorem notifyNews (view : HeededChannel ω η κ → Registry Listener) (notice : Notice) (self : HeededChannel ω η κ) :
    (self.notify link.heeded.taped view notice).recoveryNews = self.recoveryNews ++
      if notice.isRecovery then (view self).listeners.map fun listener => (listener, notice) else [] := by
  have told (listeners : List Listener) (start : HeededChannel ω η κ) :
      (listeners.foldl (fun self listener =>
          { self with world := (link.heeded.taped.hear listener notice self.world).2 }) start).recoveryNews
        = start.recoveryNews ++
          if notice.isRecovery then listeners.map fun listener => (listener, notice) else [] := by
    induction listeners generalizing start with
    | nil => simp
    | cons listener listeners ih =>
      rw [List.foldl_cons, ih]
      cases recovery : notice.isRecovery <;>
        simp [RecoveringChannel.recoveryNews, Link.taped, Link.heeded, List.filter_append, recovery]
  exact told (view self).listeners self

theorem notifyQuiet (view : HeededChannel ω η κ → Registry Listener) {notice : Notice}
    (other : notice.isRecovery = false) (self : HeededChannel ω η κ) :
    Quiet self (self.notify link.heeded.taped view notice) := by
  have news := notifyNews link view notice self
  obtain ⟨world, same⟩ := RecoveringChannel.notifyWorld link.heeded.taped view notice self
  rw [other] at news
  refine ⟨by simpa using news, ?_, ?_⟩ <;> rw [same]

theorem handleQuiet (self : HeededChannel ω η κ) (raised : Generation × ChannelEvent) :
    Quiet self (self.handle link.heeded.taped raised) := by
  obtain ⟨generation, event⟩ := raised
  unfold RecoveringChannel.handle
  split
  · have told : Quiet self (self.announce link.heeded.taped event) := notifyQuiet link _ rfl self
    cases event with
    | shutdown signal =>
      obtain ⟨status, due, same⟩ :=
        RecoveringChannel.afterShutdownElse (self.announce link.heeded.taped (.shutdown signal)) signal
      dsimp only
      rw [same]
      exact ⟨told.news, told.audience, told.channel⟩
    | returned | confirm | flow => exact told
  · exact .refl self

theorem attendQuiet (self : HeededChannel ω η κ) : Quiet self (self.attend link.heeded.taped) := by
  refine List.foldlRecOn (motive := fun next : HeededChannel ω η κ => Quiet self next) _ _ ⟨rfl, rfl, rfl⟩ ?_
  intro next quiet raised _
  exact quiet.trans (handleQuiet link next raised)

theorem actQuiet (self : HeededChannel ω η κ) (step : (ω × Heard) × List (Asked η) → (ω × Heard) × List (Asked η))
    (silent : ∀ world, (step world).1.2 = world.1.2) : Quiet self (self.act link.heeded.taped step) := by
  have stepped : Quiet self { self with world := step self.world } :=
    ⟨congrArg (List.filter _) (silent self.world), rfl, rfl⟩
  exact stepped.trans (attendQuiet link _)

theorem askQuiet (self : HeededChannel ω η κ) (request : Request) :
    Quiet self (self.ask link.heeded.taped request).2 := by
  have asked : Quiet self { self with world := (link.heeded.taped.request self.delegate request self.world).2 } :=
    ⟨rfl, rfl, rfl⟩
  exact asked.trans (attendQuiet link _)

end HeededChannel

namespace Replay

variable {σ : Type} {ask : σ → Request → Except Error Reply × σ} {keeps : σ → Prop}

theorem requestsKeep (list : List Request) (step : ∀ s, ∀ request ∈ list, keeps s → keeps (ask s request).2) (s : σ)
    (kept : keeps s) : keeps (requests ask list s).2 := by
  induction list generalizing s with
  | nil => exact kept
  | cons request rest ih =>
    have next := step s request (List.mem_cons_self ..) kept
    unfold requests
    rcases asked : ask s request with ⟨e | reply, after⟩ <;> rw [asked] at next
    · exact next
    · exact ih (fun s request member => step s request (List.mem_cons_of_mem _ member)) after next

theorem queuesKeep (list : List RecordedQueue) (step : ∀ s, ∀ queue ∈ list, keeps s → keeps (ask s queue.request).2)
    (record : ChannelRecord) (s : σ) (kept : keeps s) : keeps (queues ask list record s).2.2 := by
  induction list generalizing record s with
  | nil => exact kept
  | cons queue rest ih =>
    have next := step s queue (List.mem_cons_self ..) kept
    unfold queues
    rcases asked : ask s queue.request with ⟨e | reply, after⟩ <;> rw [asked] at next
    · exact next
    · cases reply with
      | declared => exact ih (fun s queue member => step s queue (List.mem_cons_of_mem _ member)) _ after next
      | done | counted | started | got | fetched => exact next

theorem consumersKeep (step : ∀ s request, keeps s → keeps (ask s request).2) (list : List RecordedConsumer)
    (record : ChannelRecord) (s : σ) (kept : keeps s) : keeps (consumers ask list record s).2.2 := by
  induction list generalizing record s with
  | nil => exact kept
  | cons consumer rest ih =>
    have next := step s (.consume consumer) kept
    unfold consumers
    rcases asked : ask s (.consume consumer) with ⟨e | reply, after⟩ <;> rw [asked] at next
    · exact next
    · cases reply with
      | started => exact ih _ after next
      | done | declared | counted | got | fetched => exact next

theorem topologyKeeps (step : ∀ s request, keeps s → keeps (ask s request).2) (record : ChannelRecord) (s : σ)
    (kept : keeps s) : keeps (topology ask record s).2.2 := by
  have exchanged := requestsKeep record.exchangeRequests (fun s request _ => step s request) s kept
  unfold topology
  generalize requests ask record.exchangeRequests s = answer at exchanged ⊢
  obtain ⟨e | ⟨⟩, second⟩ := answer
  · exact exchanged
  · have queued := queuesKeep record.topology.queues.items (fun s queue _ => step s queue.request) record second
      exchanged
    dsimp only
    generalize queues ask record.topology.queues.items record second = answer at queued ⊢
    obtain ⟨e | ⟨⟩, named, third⟩ := answer
    · exact queued
    · have bound := requestsKeep named.bindingRequests (fun s request _ => step s request) third queued
      dsimp only
      generalize requests ask named.bindingRequests third = answer at bound ⊢
      obtain ⟨e | ⟨⟩, fourth⟩ := answer
      · exact bound
      · exact consumersKeep step named.topology.consumers.items named fourth bound

end Replay

namespace HeededChannel

variable {ω η κ : Type} (link : Link ω η κ)

theorem replaceQuiet (self : HeededChannel ω η κ) (connection : κ) (delegate : η) :
    Quiet self (self.replaceDelegate link.heeded.taped connection delegate) := by
  have attached : Quiet self
      { self with
        delegate, connection, generation := self.generation + 1
        world := link.heeded.taped.attach delegate (self.generation + 1) self.world } := ⟨rfl, rfl, rfl⟩
  have dropped := attached.trans (actQuiet link _ (link.heeded.taped.dropChannel self.delegate) fun _ => rfl)
  exact dropped.trans (actQuiet link _ (link.heeded.taped.dropConnection self.connection) fun _ => rfl)

theorem abandonQuiet (self : HeededChannel ω η κ) (message : ConsumerMessage) :
    Quiet self (self.abandonConsumers link.heeded.taped message) := by
  refine List.foldlRecOn (motive := fun next : HeededChannel ω η κ => Quiet self next) _ _ ⟨rfl, rfl, rfl⟩ ?_
  intro next quiet consumer _
  exact quiet.trans (actQuiet link next _ fun _ => rfl)

theorem restoreQuiet (self : HeededChannel ω η κ) : Quiet self (self.restore link.heeded.taped).2 := by
  have step (next : HeededChannel ω η κ) (request : Request) (quiet : Quiet self next) :
      Quiet self (next.ask link.heeded.taped request).2 := quiet.trans (askQuiet link next request)
  have prepared := Replay.requestsKeep self.record.modeRequests (fun next request _ => step next request) self
    (.refl self)
  unfold RecoveringChannel.restore
  generalize Replay.requests (RecoveringChannel.ask link.heeded.taped) self.record.modeRequests self = answer
    at prepared ⊢
  obtain ⟨e | ⟨⟩, middle⟩ := answer
  · exact prepared
  · have replayed := Replay.topologyKeeps step middle.record middle prepared
    dsimp only
    split
    · exact ⟨replayed.news, replayed.audience, replayed.channel⟩
    · exact prepared.trans (abandonQuiet link middle _)

theorem reopenQuiet (number : Option UInt16) (world : (ω × Heard) × List (Asked η)) :
    (RecoveringChannel.reopen link.heeded.taped number world).2.1.2 = world.1.2 := by
  simp only [RecoveringChannel.reopen, Link.taped, Link.heeded]
  cases (link.connect world.1.1).1 with
  | error e => rfl
  | ok connection =>
    dsimp only
    cases (link.openChannel connection number (link.connect world.1.1).2).1 <;> rfl

end HeededChannel

structure Episode where
  audience : List (ListenerId × Listener)
  ending : Notice

namespace Episode

def news (channel : UInt16) (episode : Episode) : Heard :=
  (episode.audience.map fun entry => (entry.2, .recoveryStarted channel)) ++
    episode.audience.map fun entry => (entry.2, episode.ending)

def Ended (channel : UInt16) (episode : Episode) : Except Error Unit → Prop
  | .ok () => episode.ending = .recoveryCompleted channel
  | .error e => ∃ cause, e = .recoveryFailed channel cause ∧ episode.ending = .recoveryFailed channel cause

end Episode

namespace HeededChannel

variable {ω η κ : Type} (link : Link ω η κ)

theorem reportNews (self : HeededChannel ω η κ) (notice : Notice) (recovery : notice.isRecovery = true) :
    (self.report link.heeded.taped notice).recoveryNews
        = self.recoveryNews ++ self.recoveryListeners.entries.map (fun entry => (entry.2, notice)) ∧
      (self.report link.heeded.taped notice).recoveryListeners = self.recoveryListeners ∧
      (self.report link.heeded.taped notice).channel = self.channel := by
  have news := notifyNews link RecoveringChannel.recoveryListeners notice self
  obtain ⟨world, same⟩ :=
    RecoveringChannel.notifyWorld link.heeded.taped RecoveringChannel.recoveryListeners notice self
  rw [if_pos recovery, Registry.listeners, List.map_map] at news
  refine ⟨news, ?_, ?_⟩ <;> rw [RecoveringChannel.report, same]

/- A recovery reported as it ends, where nobody has heard anything of it since the report that it started. -/
structure Concluded (before : HeededChannel ω η κ) (outcome : Except Error Unit × HeededChannel ω η κ)
    (episode : Episode) : Prop where
  heardBy : episode.audience = before.recoveryListeners.entries
  ended : episode.Ended before.channel outcome.1
  news : outcome.2.recoveryNews = before.recoveryNews ++ episode.news before.channel
  audience : outcome.2.recoveryListeners = before.recoveryListeners
  channel : outcome.2.channel = before.channel

theorem reportConcluded {self before : HeededChannel ω η κ} {result : Except Error Unit} (ending : Notice)
    (quiet : Quiet (self.report link.heeded.taped (.recoveryStarted self.channel)) before)
    (recovery : ending.isRecovery = true)
    (ended : Episode.Ended self.channel ⟨self.recoveryListeners.entries, ending⟩ result) :
    Concluded self (result, before.report link.heeded.taped ending) ⟨self.recoveryListeners.entries, ending⟩ := by
  obtain ⟨opening, audience, channel⟩ := reportNews link self (.recoveryStarted self.channel) rfl
  obtain ⟨closing, same, number⟩ := reportNews link before ending recovery
  refine ⟨rfl, ended, ?_, ?_, ?_⟩
  · dsimp only
    rw [closing, quiet.news, quiet.audience, audience, opening, List.append_assoc]
    rfl
  · exact same.trans (quiet.audience.trans audience)
  · exact number.trans (quiet.channel.trans channel)

theorem failureConcluded {self before : HeededChannel ω η κ} (cause : Error)
    (quiet : Quiet (self.report link.heeded.taped (.recoveryStarted self.channel)) before) :
    Concluded self (before.recoveryFailed link.heeded.taped cause)
      ⟨self.recoveryListeners.entries, .recoveryFailed self.channel cause⟩ := by
  have number := quiet.channel.trans (reportNews link self (.recoveryStarted self.channel) rfl).2.2
  unfold RecoveringChannel.recoveryFailed
  rw [number]
  exact reportConcluded link _ quiet rfl ⟨cause, rfl, rfl⟩

theorem runRecoveryConcluded (self : HeededChannel ω η κ) :
    ∃ episode, Concluded self (self.runRecovery link.heeded.taped) episode := by
  have silent := reopenQuiet link (some self.channel)
    (self.report link.heeded.taped (.recoveryStarted self.channel)).world
  have opening {answer world} (opened : self.reopening link.heeded.taped = (answer, world)) :
      Quiet (self.begun link.heeded.taped)
        (RecoveringChannel.attend link.heeded.taped { self.begun link.heeded.taped with world }) := by
    have found : (self.reopening link.heeded.taped).2 = world := congrArg Prod.snd opened
    have connected : Quiet (self.begun link.heeded.taped) { self.begun link.heeded.taped with world } :=
      ⟨congrArg (List.filter _) (found ▸ silent), rfl, rfl⟩
    exact connected.trans (attendQuiet link _)
  have restoring {connection number delegate world}
      (opened : self.reopening link.heeded.taped = (.ok (connection, number, delegate), world)) :
      Quiet (self.begun link.heeded.taped)
        (RecoveringChannel.restore link.heeded.taped (self.reattached link.heeded.taped world connection delegate)).2 :=
    ((opening opened).trans (replaceQuiet link _ connection delegate)).trans (restoreQuiet link _)
  have cases := RecoveringChannel.ran link.heeded.taped self
  generalize self.runRecovery link.heeded.taped = outcome at cases
  cases cases with
  | @refused e world unopened => exact ⟨_, failureConcluded link e ((opening unopened).setStatus .open)⟩
  | @failed _ _ _ _ cause last opened replay =>
    have restored := restoring opened
    rw [replay] at restored
    have abandoned := restored.trans (abandonQuiet link last (.serverClosedConnection cause))
    exact ⟨_, failureConcluded link cause (abandoned.setStatus .closed)⟩
  | @replayed _ _ _ _ last opened replay =>
    have restored := restoring opened
    rw [replay] at restored
    exact ⟨_, reportConcluded link (.recoveryCompleted self.channel) (restored.setStatus .open) rfl rfl⟩

end HeededChannel

end AmqpClient
