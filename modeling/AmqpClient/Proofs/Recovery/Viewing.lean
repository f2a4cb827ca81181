import AmqpClient.Proofs.Recovery.Transcript

/-! Links that carry something along, such as a tape. Whatever a recovering channel does on a link whose world
holds more than another's, it does in the same way, and with the same outcome, on the other. -/
namespace AmqpClient

namespace Replay

variable {σ τ : Type} {ask : σ → Request → Except Error Reply × σ} {plain : τ → Request → Except Error Reply × τ}
  {view : σ → τ}

theorem requestsViewed (same : ∀ s request, plain (view s) request = Prod.map id view (ask s request))
    (list : List Request) (s : σ) :
    requests plain list (view s) = Prod.map id view (requests ask list s) := by
  induction list generalizing s with
  | nil => rfl
  | cons request rest ih =>
    unfold requests
    rw [same]
    rcases ask s request with ⟨e | reply, next⟩
    · rfl
    · exact ih next

theorem queuesViewed (same : ∀ s request, plain (view s) request = Prod.map id view (ask s request))
    (list : List RecordedQueue) (record : ChannelRecord) (s : σ) :
    queues plain list record (view s) = Prod.map id (Prod.map id view) (queues ask list record s) := by
  induction list generalizing record s with
  | nil => rfl
  | cons queue rest ih =>
    unfold queues
    rw [same]
    rcases ask s queue.request with ⟨e | reply, next⟩
    · rfl
    · cases reply with
      | declared declared => exact ih _ next
      | done | counted | started | got | fetched => rfl

theorem consumersViewed (same : ∀ s request, plain (view s) request = Prod.map id view (ask s request))
    (list : List RecordedConsumer) (record : ChannelRecord) (s : σ) :
    consumers plain list record (view s) = Prod.map id (Prod.map id view) (consumers ask list record s) := by
  induction list generalizing record s with
  | nil => rfl
  | cons consumer rest ih =>
    unfold consumers
    rw [same]
    rcases ask s (.consume consumer) with ⟨e | reply, next⟩
    · rfl
    · cases reply with
      | started tag => exact ih _ next
      | done | declared | counted | got | fetched => rfl

theorem topologyViewed (same : ∀ s request, plain (view s) request = Prod.map id view (ask s request))
    (record : ChannelRecord) (s : σ) :
    topology plain record (view s) = Prod.map id (Prod.map id view) (topology ask record s) := by
  unfold topology
  rw [requestsViewed same]
  rcases requests ask record.exchangeRequests s with ⟨e | ⟨⟩, second⟩
  · rfl
  · dsimp only [Prod.map, id]
    rw [queuesViewed same]
    rcases queues ask record.topology.queues.items record second with ⟨e | ⟨⟩, named, third⟩
    · rfl
    · dsimp only [Prod.map, id]
      rw [requestsViewed same]
      rcases requests ask named.bindingRequests third with ⟨e | ⟨⟩, fourth⟩
      · rfl
      · exact consumersViewed same _ named fourth

end Replay

/- The one link does what the other does, as far as the view of its world goes. -/
structure Link.Carries {ψ ω η κ : Type} (wide : Link ψ η κ) (view : ψ → ω) (link : Link ω η κ) : Prop where
  connect : ∀ world, link.connect (view world) = Prod.map id view (wide.connect world)
  openChannel : ∀ connection number world,
    link.openChannel connection number (view world) = Prod.map id view (wide.openChannel connection number world)
  attach : ∀ delegate generation world,
    link.attach delegate generation (view world) = view (wide.attach delegate generation world)
  request : ∀ delegate request world,
    link.request delegate request (view world) = Prod.map id view (wide.request delegate request world)
  dropChannel : ∀ delegate world, link.dropChannel delegate (view world) = view (wide.dropChannel delegate world)
  dropConnection : ∀ connection world,
    link.dropConnection connection (view world) = view (wide.dropConnection connection world)
  tell : ∀ receiver message world,
    link.tell receiver message (view world) = view (wide.tell receiver message world)
  hear : ∀ listener notice world,
    link.hear listener notice (view world) = Prod.map id view (wide.hear listener notice world)
  raised : ∀ world, link.raised (view world) = Prod.map id view (wide.raised world)

theorem Link.tapedCarries {ω η κ : Type} (link : Link ω η κ) : link.taped.Carries Prod.fst link :=
  ⟨fun _ => rfl, fun _ _ _ => rfl, fun _ _ _ => rfl, fun _ _ _ => rfl, fun _ _ => rfl, fun _ _ => rfl,
    fun _ _ _ => rfl, fun _ _ _ => rfl, fun _ => rfl⟩

namespace RecoveringChannel

variable {ψ ω η κ : Type} {wide : Link ψ η κ} {view : ψ → ω} {link : Link ω η κ}

def viewed (view : ψ → ω) (self : RecoveringChannel ψ η κ) : RecoveringChannel ω η κ :=
  { self with world := view self.world }

theorem notifyViewed (carries : wide.Carries view link) {registry : RecoveringChannel ψ η κ → Registry Listener}
    {plain : RecoveringChannel ω η κ → Registry Listener} (notice : Notice) (self : RecoveringChannel ψ η κ)
    (same : plain (self.viewed view) = registry self) :
    (self.notify wide registry notice).viewed view = (self.viewed view).notify link plain notice := by
  have step (self : RecoveringChannel ψ η κ) (listener : Listener) :
      { self.viewed view with world := (link.hear listener notice (self.viewed view).world).2 }
        = viewed view { self with world := (wide.hear listener notice self.world).2 } :=
    congrArg (fun answer => { self.viewed view with world := answer.2 }) (carries.hear listener notice self.world)
  unfold notify Registry.notify
  rw [same]
  exact (List.foldl_hom (viewed view) fun self listener => step self listener).symm

theorem handleViewed (carries : wide.Carries view link) (self : RecoveringChannel ψ η κ)
    (raised : Generation × ChannelEvent) :
    (self.handle wide raised).viewed view = (self.viewed view).handle link raised := by
  obtain ⟨generation, event⟩ := raised
  have told : (self.announce wide event).viewed view = (self.viewed view).announce link event :=
    notifyViewed carries _ self rfl
  unfold handle
  by_cases present : generation = self.generation
  · have still : generation = (self.viewed view).generation := present
    rw [if_pos present, if_pos still]
    cases event with
    | shutdown signal =>
      dsimp only
      rw [← told]
      unfold afterShutdown
      simp only [apply_ite (viewed view)]
      rfl
    | returned | confirm | flow => exact told
  · have still : generation ≠ (self.viewed view).generation := present
    rw [if_neg present, if_neg still]

theorem attendViewed (carries : wide.Carries view link) (self : RecoveringChannel ψ η κ) :
    (self.attend wide).viewed view = (self.viewed view).attend link := by
  have raised : link.raised (self.viewed view).world = Prod.map id view (wide.raised self.world) :=
    carries.raised self.world
  unfold attend
  rw [raised]
  exact (List.foldl_hom (viewed view) fun self raised => (handleViewed carries self raised).symm).symm

theorem actViewed (carries : wide.Carries view link) {step : ψ → ψ} {plain : ω → ω}
    (self : RecoveringChannel ψ η κ) (same : plain (view self.world) = view (step self.world)) :
    (self.act wide step).viewed view = (self.viewed view).act link plain := by
  unfold act
  rw [attendViewed carries]
  exact congrArg (fun world => attend link { self.viewed view with world }) same.symm

theorem askViewed (carries : wide.Carries view link) (self : RecoveringChannel ψ η κ) (request : Request) :
    (self.viewed view).ask link request = Prod.map id (viewed view) (self.ask wide request) := by
  have answered : link.request self.delegate request (view self.world)
      = Prod.map id view (wide.request self.delegate request self.world) :=
    carries.request self.delegate request self.world
  have asked := attendViewed carries { self with world := (wide.request self.delegate request self.world).2 }
  have carried := congrArg (fun answer : Except Error Reply × ω =>
    (answer.1, attend link { self.viewed view with world := answer.2 })) answered
  exact carried.trans (congrArg (Prod.mk _) asked.symm)

theorem reopenViewed (carries : wide.Carries view link) (number : Option UInt16) (world : ψ) :
    reopen link number (view world) = Prod.map id view (reopen wide number world) := by
  unfold reopen
  rw [carries.connect]
  rcases wide.connect world with ⟨e | connection, next⟩
  · rfl
  · dsimp only [Prod.map, id]
    rw [carries.openChannel]
    rcases wide.openChannel connection number next with ⟨e | ⟨number, channel⟩, last⟩
    · dsimp only [Prod.map, id]
      rw [carries.dropConnection]
    · rfl

theorem replaceDelegateViewed (carries : wide.Carries view link) (self : RecoveringChannel ψ η κ) (connection : κ)
    (delegate : η) :
    (self.replaceDelegate wide connection delegate).viewed view
      = (self.viewed view).replaceDelegate link connection delegate := by
  unfold replaceDelegate
  dsimp only
  rw [actViewed carries _ (carries.dropConnection self.connection _),
    actViewed carries _ (carries.dropChannel self.delegate _)]
  have attached : link.attach delegate (self.generation + 1) (view self.world)
      = view (wide.attach delegate (self.generation + 1) self.world) :=
    carries.attach delegate (self.generation + 1) self.world
  simp only [viewed]
  rw [attached]

theorem abandonConsumersViewed (carries : wide.Carries view link) (self : RecoveringChannel ψ η κ)
    (message : ConsumerMessage) :
    (self.abandonConsumers wide message).viewed view = (self.viewed view).abandonConsumers link message :=
  (List.foldl_hom (viewed view) fun self (consumer : RecordedConsumer) =>
    (actViewed carries self (carries.tell consumer.receiver message self.world)).symm).symm

theorem restoreViewed (carries : wide.Carries view link) (self : RecoveringChannel ψ η κ) :
    (self.viewed view).restore link = Prod.map id (viewed view) (self.restore wide) := by
  have modes : Replay.requests (ask link) (self.viewed view).record.modeRequests (self.viewed view) = _ :=
    Replay.requestsViewed (askViewed carries) self.record.modeRequests self
  unfold restore
  rw [modes]
  rcases Replay.requests (ask wide) self.record.modeRequests self with ⟨e | ⟨⟩, middle⟩
  · rfl
  · have topology : Replay.topology (ask link) (middle.viewed view).record (middle.viewed view) = _ :=
      Replay.topologyViewed (askViewed carries) middle.record middle
    have abandoned := abandonConsumersViewed carries middle .serverCancelled
    dsimp only [Prod.map, id]
    by_cases enabled : middle.options.topology = true
    · have still : (middle.viewed view).options.topology = true := enabled
      rw [if_pos enabled, if_pos still, topology]
      rfl
    · have still : ¬ (middle.viewed view).options.topology = true := enabled
      rw [if_neg enabled, if_neg still, ← abandoned]

theorem reportViewed (carries : wide.Carries view link) (notice : Notice) (self : RecoveringChannel ψ η κ) :
    (self.report wide notice).viewed view = (self.viewed view).report link notice :=
  notifyViewed carries notice self rfl

theorem recoveryFailedViewed (carries : wide.Carries view link) (self : RecoveringChannel ψ η κ) (cause : Error) :
    (self.viewed view).recoveryFailed link cause = Prod.map id (viewed view) (self.recoveryFailed wide cause) :=
  congrArg (Prod.mk _) (reportViewed carries _ self).symm

theorem runRecoveryViewed (carries : wide.Carries view link) (self : RecoveringChannel ψ η κ) :
    (self.viewed view).runRecovery link = Prod.map id (viewed view) (self.runRecovery wide) := by
  have started : (self.viewed view).report link (.recoveryStarted (self.viewed view).channel) = _ :=
    (reportViewed carries (.recoveryStarted self.channel) self).symm
  unfold runRecovery
  rw [started]
  generalize self.report wide (.recoveryStarted self.channel) = first
  have opened : reopen link (some (self.viewed view).channel) (first.viewed view).world = _ :=
    reopenViewed carries (some self.channel) first.world
  dsimp only
  rw [opened]
  rcases reopen wide (some self.channel) first.world with ⟨e | ⟨connection, number, delegate⟩, world⟩
  · have attended := attendViewed carries { first with world }
    dsimp only [Prod.map, id]
    simp only [viewed] at attended ⊢
    rw [← attended]
    exact recoveryFailedViewed carries { attend wide { first with world } with status := .open } e
  · have attended := attendViewed carries { first with world }
    have attached : (attend link (viewed view { first with world })).replaceDelegate link connection delegate = _ :=
      (congrArg (replaceDelegate link connection delegate) attended.symm).trans
        (replaceDelegateViewed carries _ connection delegate).symm
    dsimp only [Prod.map, id]
    simp only [viewed] at attached ⊢
    rw [attached]
    have restored := restoreViewed carries
      (replaceDelegate wide connection delegate (attend wide { first with world }))
    simp only [viewed] at restored
    rw [restored]
    rcases restore wide _ with ⟨cause | ⟨⟩, restored⟩
    · have abandoned := abandonConsumersViewed carries restored (.serverClosedConnection cause)
      dsimp only [Prod.map, id]
      rw [← abandoned]
      exact recoveryFailedViewed carries
        { restored.abandonConsumers wide (.serverClosedConnection cause) with status := .closed } cause
    · have reported := reportViewed carries (.recoveryCompleted self.channel) { restored with status := .open }
      exact congrArg (Prod.mk _) reported.symm

theorem callViewed (carries : wide.Carries view link) (self : RecoveringChannel ψ η κ) (request : Request) :
    (self.viewed view).call link request = Prod.map id (viewed view) (self.call wide request) := by
  unfold call
  cases request.check with
  | error e => rfl
  | ok =>
    dsimp only
    by_cases closed : self.status = .closed
    · have still : (self.viewed view).status = .closed := closed
      rw [if_pos closed, if_pos still]
      rfl
    · have still : ¬ (self.viewed view).status = .closed := closed
      rw [if_neg closed, if_neg still]
      have noted :
          (((self.viewed view).ask link (self.record.resolve request)).1,
            { ((self.viewed view).ask link (self.record.resolve request)).2 with
              record := ((self.viewed view).ask link (self.record.resolve request)).2.record.note request
                ((self.viewed view).ask link (self.record.resolve request)).1 })
            = Prod.map id (viewed view) ((self.ask wide (self.record.resolve request)).1,
              { (self.ask wide (self.record.resolve request)).2 with
                record := (self.ask wide (self.record.resolve request)).2.record.note request
                  (self.ask wide (self.record.resolve request)).1 }) := by
        rw [askViewed carries]
        rfl
      cases request with
      | close => exact askViewed carries { self with status := .closed, record := self.record.abandon.2 } .close
      | _ => exact noted

theorem recoverViewed (carries : wide.Carries view link) (self : RecoveringChannel ψ η κ) :
    (self.viewed view).recover link = Prod.map id (viewed view) (self.recover wide) := by
  have ran := runRecoveryViewed carries { self with status := .recovering }
  have same : (self.viewed view).status = self.status := rfl
  unfold recover
  rw [same]
  rcases self.status with _ | _ | _
  · exact ran
  · rfl
  · rfl

theorem retryViewed (carries : wide.Carries view link) (attempts : Nat) (self : RecoveringChannel ψ η κ) :
    (self.retry wide attempts).viewed view = (self.viewed view).retry link attempts := by
  induction attempts generalizing self with
  | zero => rfl
  | succ attempts ih =>
    unfold retry
    rw [runRecoveryViewed carries]
    rcases self.runRecovery wide with ⟨e | ⟨⟩, next⟩
    · dsimp only [Prod.map, id]
      by_cases idle : next.status = .open
      · have still : (next.viewed view).status = .open := idle
        rw [if_pos idle, if_pos still, ih]
        rfl
      · have still : ¬ (next.viewed view).status = .open := idle
        rw [if_neg idle, if_neg still]
    · rfl

theorem settleViewed (carries : wide.Carries view link) (attempts : Nat) (self : RecoveringChannel ψ η κ) :
    (self.settle wide attempts).viewed view = (self.viewed view).settle link attempts := by
  have ran := retryViewed carries attempts { self with due := false }
  unfold settle
  simp only [apply_ite (viewed view), ran]
  rfl

end RecoveringChannel

end AmqpClient
