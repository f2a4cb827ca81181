import AmqpClient.Proofs.Recovery.Fairness

/-! What becomes of a queue under whatever names it had. As long as the server names queues fairly, each of a
queue's names leads to it through all calls and recoveries, and once the queue is forgotten they are names like
any other. -/
namespace AmqpClient

namespace Request

def mayForgetQueues : Request → Bool
  | close | deleteQueue .. | cancel _ => true
  | _ => false

end Request

namespace ChannelRecord

variable {heard : List String} {record : ChannelRecord} {asked : Request}

theorem resolveCurrent (traced : record.topology.Traced heard) (asked : Request) :
    ∀ name ∈ (record.resolve asked).queueNames, record.topology.resolveQueue name = name := by
  have present (name : String) : ∀ other ∈ [record.topology.resolveQueue name],
      record.topology.resolveQueue other = other :=
    List.forall_mem_singleton.mpr (traced.resolveTwice name)
  have bound (binding : RecordedBinding) : ∀ name ∈ (record.resolveBinding binding).queue?.toList,
      record.topology.resolveQueue name = name := by
    obtain ⟨kind, source, destination, routingKey, arguments⟩ := binding
    cases kind with
    | queue => exact present destination
    | exchange => exact List.forall_mem_nil _
  cases asked with
  | bind binding | unbind binding => exact bound binding
  | declareQueue name | checkQueue name | purgeQueue name | deleteQueue name | get name | fetch name =>
    exact present name
  | consume consumer => exact present consumer.queue
  | _ => exact List.forall_mem_nil _

theorem resolveDeclares {sent : String} {options : QueueOptions}
    (resolved : record.resolve asked = .declareQueue sent options) :
    sent = record.topology.resolveQueue asked.subject := by
  cases asked <;> cases resolved
  rfl

theorem isServerNamedKnown {name declared : String} (given : name ≠ "")
    (itself : record.topology.resolveQueue declared = declared) (server : record.isServerNamed name declared = true) :
    ∃ known ∈ record.topology.queues.items, known.name = declared ∧ known.serverNamed = true := by
  simp only [isServerNamed, String.isEmpty_iff, Bool.or_eq_true, given, false_or, Topology.queue?, itself] at server
  cases found : record.topology.queues.find? declared with
  | none => simp [found] at server
  | some known =>
    obtain ⟨inside, same⟩ := Catalog.findSome found
    exact ⟨known, inside, same, by simpa [found] using server⟩

theorem recordQueuePasses {more : List String} {options : QueueOptions} {queue : QueueDeclared} {sent : String}
    (traced : record.topology.Traced heard) (resolved : record.resolve asked = .declareQueue sent options)
    (fair : if sent = "" then queue.queue ∉ "" :: heard else queue.queue = sent)
    (within : heard ⊆ more) (inside : queue.queue ∈ more) :
    Topology.Passes heard more id record.topology (record.recordQueue asked.subject options queue).topology := by
  have sentAs := resolveDeclares resolved
  by_cases unnamed : asked.subject = ""
  · rw [unnamed, traced.resolveEmpty] at sentAs
    rw [if_pos sentAs] at fair
    obtain ⟨named, fresh⟩ := List.ne_and_not_mem_of_not_mem_cons fair
    refine Topology.recordQueuePasses traced named ?_ within inside fun _ => .inl fresh
    by_contra other
    exact fresh (traced.retired _ other).1
  · have given := sentAs ▸ traced.resolveNamed unnamed
    rw [if_neg given] at fair
    have itself : record.topology.resolveQueue queue.queue = queue.queue := by
      rw [fair, sentAs]
      exact traced.resolveTwice _
    refine Topology.recordQueuePasses traced (fair ▸ given) itself within inside fun server => .inr ?_
    exact isServerNamedKnown unnamed itself server

theorem learnPasses {reply : Reply} {line : Asked η} (traced : record.topology.Traced heard)
    (request : line.request = record.resolve asked) (result : line.result = .ok reply) (fair : line.Fair heard) :
    Topology.Passes heard (heard ++ line.names) id record.topology (record.learn asked reply).topology := by
  have within : heard ⊆ heard ++ line.names := List.subset_append_left ..
  have current := resolveCurrent traced asked
  have sent (name : String) (member : name ∈ (record.resolve asked).queueNames) : name ∈ heard ++ line.names :=
    List.mem_append_right _ (List.mem_append_left _ (request ▸ member))
  have forgetting {gone next} (forgets : Topology.Forgets gone record.topology next) :
      Topology.Passes heard (heard ++ line.names) id record.topology next :=
    (Topology.Passes.ofForgets traced forgets).grow within
  unfold learn
  split
  · exact forgetting (.none rfl rfl (List.Sublist.refl _) (List.Subset.refl _))
  · exact forgetting (record.topology.deleteExchangeForgets _)
  · rename_i binding resolved
    rw [resolved] at current sent
    exact Topology.recordBindingPasses traced within fun name member =>
      ⟨current name (Option.mem_toList.mpr member), sent name (Option.mem_toList.mpr member)⟩
  · exact forgetting (record.topology.deleteBindingForgets _)
  · rename_i name options queue resolved
    refine recordQueuePasses traced resolved (Asked.fairDeclaration fair (request.trans resolved) result) within ?_
    exact List.mem_append_right _ (List.mem_append_right _ (by simp [Asked.givenName?, result]))
  · exact forgetting (record.topology.deleteQueueForgets _)
  · unfold recordQos
    split <;> exact forgetting (.refl record.topology)
  · rename_i consumer tag resolved
    rw [resolved] at current sent
    unfold recordConsumer
    rw [insertTagTopology]
    exact Topology.recordConsumerPasses traced within (current consumer.queue (List.mem_singleton_self _))
      (sent consumer.queue (List.mem_singleton_self _))
  · obtain ⟨_, forgets⟩ := record.topology.deleteConsumerForgets _
    exact forgetting forgets
  · exact forgetting (.refl record.topology)
  · exact forgetting (.refl record.topology)
  · exact forgetting (.refl record.topology)

theorem resolveMayForget (record : ChannelRecord) (asked : Request) :
    (record.resolve asked).mayForgetQueues = asked.mayForgetQueues := by
  cases asked <;> rfl

theorem learnKeeps (kept : asked.mayForgetQueues = false) (reply : Reply) :
    record.topology.queues.keys ⊆ (record.learn asked reply).topology.queues.keys := by
  have none {next} (forgets : Topology.Forgets [] record.topology next) :
      record.topology.queues.keys ⊆ next.queues.keys :=
    fun _ member => forgets.keys.mpr ⟨member, List.not_mem_nil⟩
  have resolved := record.resolveMayForget asked
  rw [kept] at resolved
  unfold learn
  split
  · exact List.Subset.refl _
  · exact none (record.topology.deleteExchangeForgets _)
  · unfold Topology.recordBinding
    split <;> exact List.Subset.refl _
  · exact none (record.topology.deleteBindingForgets _)
  · exact fun _ member => Catalog.recordMember.mpr (.inr member)
  · rename_i deletes
    rw [deletes] at resolved
    cases resolved
  · unfold recordQos
    split <;> exact List.Subset.refl _
  · unfold recordConsumer
    rw [insertTagTopology]
    exact List.Subset.refl _
  · rename_i cancels
    rw [cancels] at resolved
    cases resolved
  · exact List.Subset.refl _
  · exact List.Subset.refl _
  · exact List.Subset.refl _

end ChannelRecord

namespace TapedChannel

variable {ω η κ : Type} {link : Link ω η κ} {self next : TapedChannel ω η κ}

/- The name under which a queue goes on. In a recovery the answers give the recorded queues their names, one
after the other; nothing else changes a name. -/
def successor (self next : TapedChannel ω η κ) (name : String) : String :=
  if self.status = .recovering then
    newName (self.record.topology.queues.keys.zip (declaredNames (next.tape.drop self.tape.length))) name
  else name

theorem successorUsable (usable : self.status ≠ .recovering) : self.successor next = id :=
  funext fun _ => if_neg usable

theorem successorReplayed {lines : List (Asked η)} (claimed : self.status = .recovering)
    (tape : next.tape = self.tape ++ lines) :
    self.successor next = newName (self.record.topology.queues.keys.zip (declaredNames lines)) := by
  funext name
  unfold successor
  rw [if_pos claimed, tape, List.drop_left]

theorem successorQuiet (tape : next.tape = self.tape) : self.successor next = id := by
  by_cases claimed : self.status = .recovering
  · rw [successorReplayed claimed (tape.trans (List.append_nil _).symm)]
    exact funext fun name => congrArg (newName · name) List.zip_nil_right
  · exact successorUsable claimed

/- What was asked and answered meanwhile, and where all names lead afterwards if the answers were fair. -/
def Renewed (self next : TapedChannel ω η κ) : Prop :=
  ∃ lines, next.tape = self.tape ++ lines ∧
    ∀ heard, self.record.topology.Traced heard → FairlyAnswered heard lines →
      Topology.Passes heard (heard ++ usedNames lines) (self.successor next) self.record.topology next.record.topology

theorem Renewed.quiet (tape : next.tape = self.tape) (record : next.record = self.record) : Renewed self next := by
  refine ⟨[], tape.trans (List.append_nil _).symm, fun heard traced _ => ?_⟩
  rw [successorQuiet tape, record]
  exact (Topology.Passes.refl traced).grow (List.subset_append_left ..)

theorem Grown.renewed (grown : Grown [] self next) : Renewed self next :=
  .quiet (grown.tape.trans (List.append_nil _)) grown.record

theorem closeRenewed (usable : self.status ≠ .recovering) : Renewed self (self.close link.taped).2 := by
  have grown := askGrown link { self with status := .closed, record := self.record.abandon.2 } .close
  refine ⟨_, grown.tape, fun heard traced _ => ?_⟩
  obtain ⟨_, forgets⟩ := self.record.abandonForgets
  have left : (self.close link.taped).2.record = self.record.abandon.2 := grown.record
  rw [successorUsable usable, left]
  exact (Topology.Passes.ofForgets traced forgets).grow (List.subset_append_left ..)

theorem noteRenewed (usable : self.status ≠ .recovering) (asked : Request) :
    Renewed self { (self.ask link.taped (self.record.resolve asked)).2 with
      record := (self.ask link.taped (self.record.resolve asked)).2.record.note asked
        (self.ask link.taped (self.record.resolve asked)).1 } := by
  have grown := askGrown link self (self.record.resolve asked)
  refine ⟨_, grown.tape, fun heard traced fair => ?_⟩
  rw [successorUsable usable, grown.record]
  unfold usedNames
  rw [List.flatMap_singleton]
  cases answer : (self.ask link.taped (self.record.resolve asked)).1 with
  | error e => exact (Topology.Passes.refl traced).grow (List.subset_append_left ..)
  | ok reply => exact ChannelRecord.learnPasses traced rfl rfl (answer ▸ fair.1)

theorem callRenewed (usable : self.status ≠ .recovering) (request : Request) :
    Renewed self (self.call link.taped request).2 := by
  have cases := RecoveringChannel.called link.taped self request
  generalize self.call link.taped request = outcome at cases
  cases cases with
  | refused => exact .quiet rfl rfl
  | closing => exact closeRenewed usable
  | lasting => exact noteRenewed usable request

theorem restoreRenewed {attached restored last : TapedChannel ω η κ} {result : Except Error Unit}
    {delegate : η} {connection : κ} {generation : Generation} {gone : List String}
    {left : ChannelRecord} (sound : Sound self) (claimed : self.status = .recovering)
    (replaced : Grown [] { self with delegate, connection, generation } attached)
    (replay : attached.restore link.taped = (result, restored)) (tape : last.tape = restored.tape)
    (forgets : Topology.Forgets gone restored.record.topology left.topology) (record : last.record = left) :
    Renewed self last := by
  obtain ⟨replies, lines, lost, grown, redeclared, losing⟩ := restoreGrown link attached
  rw [replay] at grown losing
  rw [replaced.record] at redeclared losing
  have whole : last.tape = self.tape ++ lines :=
    tape.trans (grown.tape.trans (congrArg (· ++ lines) (replaced.tape.trans (List.append_nil _))))
  refine ⟨lines, whole, fun heard traced fair => ?_⟩
  rw [successorReplayed claimed whole, record]
  have reissued := replayReissues sound.known.distinct traced redeclared fair
  exact ((reissued.passes traced (List.subset_append_left ..)).forget losing).forget forgets

theorem attemptRenewed (sound : Sound self) (claimed : self.status = .recovering) :
    Renewed self (self.runRecovery link.taped).2 := by
  have cases := runRecoveryCases link self claimed
  generalize self.runRecovery link.taped = outcome at cases
  cases cases with
  | refused unopened kept => exact .quiet (kept.tape.trans (List.append_nil _)) kept.record
  | @failed _ _ _ restored _ _ _ _ _ opened replaced replay closed =>
    obtain ⟨gone, forgets⟩ := restored.record.abandonForgets
    exact restoreRenewed sound claimed replaced replay (closed.tape.trans (List.append_nil _)) forgets closed.record
  | replayed opened replaced replay usable =>
    exact restoreRenewed sound claimed replaced replay (usable.tape.trans (List.append_nil _)) (.refl _) usable.record

theorem stepRenewed (sound : Sound self) (step : Step link self next) : Renewed self next := by
  cases step with
  | call request usable => exact callRenewed usable request
  | attempt claimed ready => exact attemptRenewed sound claimed
  | attend => exact (attendGrown link self).renewed
  | claim | takeUp | giveUp | disturb | listen | unlisten | follow | unfollow => exact .quiet rfl rfl

theorem Reachable.traced (reachable : Reachable link self) (fair : FairlyAnswered [] self.tape) :
    self.record.topology.Traced (usedNames self.tape) := by
  induction reachable with
  | @start options number world self after started =>
    unfold RecoveringChannel.start at started
    split at started
    · cases started
    · cases started
      exact .empty
  | step reachable step traced =>
    obtain ⟨lines, tape, passes⟩ := stepRenewed reachable.sound step
    rw [tape] at fair ⊢
    obtain ⟨earlier, later⟩ := fairlyAnsweredAppend.mp fair
    unfold usedNames at traced ⊢
    rw [List.flatMap_append]
    exact (passes _ (traced earlier) later).traced

/- What becomes of a queue that was recorded under a name: the name that it has now, or none once it is
forgotten. -/
inductive Followed (link : Link ω η κ) (name : String) : TapedChannel ω η κ → Option String → Prop
  | recorded {self : TapedChannel ω η κ} (reachable : Reachable link self)
      (recorded : name ∈ self.record.topology.queues.keys) :
      Followed link name self (some name)
  | step {self next : TapedChannel ω η κ} {fate : Option String} (followed : Followed link name self fate)
      (step : Step link self next) :
      Followed link name next (fate.bind fun current => next.record.topology.still (self.successor next current))

theorem Followed.reachable {name : String} {fate : Option String} (followed : Followed link name self fate) :
    Reachable link self := by
  induction followed with
  | recorded reachable _ => exact reachable
  | step _ step reachable => exact reachable.step step

theorem Followed.leads {name : String} {fate : Option String} (followed : Followed link name self fate)
    (fair : FairlyAnswered [] self.tape) : name ∈ usedNames self.tape ∧ self.record.topology.Leads name fate := by
  induction followed with
  | recorded reachable recorded =>
    have traced := reachable.traced fair
    have spoken := Topology.keysSpoken recorded
    exact ⟨traced.spoken spoken, recorded, traced.current name spoken⟩
  | step followed step led =>
    obtain ⟨lines, tape, passes⟩ := stepRenewed followed.reachable.sound step
    rw [tape] at fair
    obtain ⟨earlier, later⟩ := fairlyAnsweredAppend.mp fair
    obtain ⟨used, leads⟩ := led earlier
    refine ⟨?_, (passes _ (followed.reachable.traced earlier) later).leads name used _ leads⟩
    rw [tape, usedNames, List.flatMap_append]
    exact List.mem_append_left _ used

theorem callKeepsQueues {request : Request} (kept : request.mayForgetQueues = false) (self : TapedChannel ω η κ) :
    self.record.topology.queues.keys ⊆ (self.call link.taped request).2.record.topology.queues.keys := by
  have cases := RecoveringChannel.called link.taped self request
  generalize self.call link.taped request = outcome at cases
  cases cases with
  | refused => exact List.Subset.refl _
  | closing _ last =>
    rw [last] at kept
    cases kept
  | lasting =>
    dsimp only [RecoveringChannel.noted]
    rw [(askGrown link self _).record]
    cases (self.ask link.taped (self.record.resolve request)).1 with
    | error e => exact List.Subset.refl _
    | ok reply => exact ChannelRecord.learnKeeps kept reply

theorem recoveryKeepsQueues (reachable : Reachable link self) (claimed : self.status = .recovering)
    (enabled : self.options.topology = true) (recovered : self.runRecovery link.taped = (.ok (), next))
    (fair : FairlyAnswered [] next.tape) :
    next.record.topology.queues.keys = self.record.topology.queues.keys.map (self.successor next) := by
  have cases := runRecoveryCases link self claimed
  rw [recovered] at cases
  cases cases with
  | @replayed attached restored _ _ _ _ _ opened replaced replay usable =>
    obtain ⟨replies, lines, playing, updated, redeclared, _, _⟩ :=
      restorePlayed link attached (replaced.options ▸ enabled)
    rw [replay] at playing updated
    rw [replaced.record] at redeclared updated
    have forgets := (self.record.renameAll (renames self.record.topology.queues.items replies)).retagAllForgets
      (self.record.topology.consumers.keys.zip (startedTags lines))
    have whole : next.tape = self.tape ++ lines := by
      have before : attached.tape = self.tape := replaced.tape.trans (List.append_nil _)
      rw [← before]
      exact usable.tape.trans ((List.append_nil _).trans playing.grown.tape)
    rw [whole] at fair
    obtain ⟨earlier, later⟩ := fairlyAnsweredAppend.mp fair
    have reissued := replayReissues reachable.sound.known.distinct (reachable.traced earlier) redeclared later
    have same : next.record.topology.queues.items = restored.record.topology.queues.items := by rw [usable.record]
    rw [← updated] at forgets
    rw [successorReplayed claimed whole, ← reissued.renamed.queueKeys, Catalog.keys, same, forgets.queues]
    simp [Catalog.keys, ChannelRecord.renameAll]

theorem namesLeadToTheirQueues (reachable : Reachable link self) (fair : FairlyAnswered [] self.tape) :
    (∀ name current, Followed link name self (some current) →
      current ∈ self.record.topology.queues.keys ∧ self.record.topology.resolveQueue name = current) ∧
    (∀ name, Followed link name self none → self.record.topology.resolveQueue name = name) ∧
    (∀ binding ∈ self.record.topology.bindings, binding.kind = .queue →
      self.record.topology.resolveQueue binding.destination = binding.destination) ∧
    (∀ consumer ∈ self.record.topology.consumers.items,
      self.record.topology.resolveQueue consumer.queue = consumer.queue) ∧
    (∀ request : Request, request.mayForgetQueues = false →
      self.record.topology.queues.keys ⊆ (self.call link.taped request).2.record.topology.queues.keys) ∧
    ∀ next, self.status = .recovering → self.options.topology = true →
      self.runRecovery link.taped = (.ok (), next) → FairlyAnswered [] next.tape →
      next.record.topology.queues.keys = self.record.topology.queues.keys.map (self.successor next) := by
  have traced := reachable.traced fair
  refine ⟨fun name current followed => (followed.leads fair).2, fun name followed => (followed.leads fair).2.1,
    fun binding member leading => ?_, fun consumer member => ?_, fun request kept => callKeepsQueues kept self,
    fun next => recoveryKeepsQueues reachable⟩
  · refine traced.current _ (Topology.spokenIff.mpr (.inr (.inl ?_)))
    exact List.mem_filterMap.mpr ⟨binding, member, by simp [RecordedBinding.queue?, leading]⟩
  · exact traced.current _ (Topology.spokenIff.mpr (.inr (.inr (List.mem_map_of_mem member))))

def rehearsedOnce : TapedChannel Rehearsal Nat Nat := (rehearsed.runRecovery Rehearsal.link.taped).2

def rehearsedTwice : TapedChannel Rehearsal Nat Nat :=
  ({ rehearsedOnce with status := .recovering }.runRecovery Rehearsal.link.taped).2

def rehearsedDeletion : TapedChannel Rehearsal Nat Nat :=
  (rehearsedTwice.call Rehearsal.link.taped (.deleteQueue "gen-2" {})).2

theorem rehearsedNames :
    rehearsedTwice.record.topology.resolveQueue "gen-1" = "gen-3" ∧
      rehearsedDeletion.record.topology.queues.keys = [] ∧
      rehearsedDeletion.record.topology.resolveQueue "gen-1" = "gen-1" := by
  have once : Followed Rehearsal.link "gen-1" rehearsedOnce (some "gen-2") :=
    (Followed.recorded rehearsedReachable (by decide)).step (.attempt _ rfl rfl)
  have twice : Followed Rehearsal.link "gen-1" rehearsedTwice (some "gen-3") :=
    (once.step (.claim _ rfl)).step (.attempt _ rfl rfl)
  have deleted : Followed Rehearsal.link "gen-1" rehearsedDeletion none := twice.step (.call _ _ (by decide))
  have fair : FairlyAnswered [] rehearsedTwice.tape :=
    ⟨show "gen-1" ∉ _ by decide, trivial, trivial, show "gen-2" ∉ _ by decide, trivial, trivial,
      show "gen-3" ∉ _ by decide, trivial, trivial, trivial⟩
  have fairly : FairlyAnswered [] rehearsedDeletion.tape := fairlyAnsweredAppend.mpr ⟨fair, trivial, trivial⟩
  have leads := (namesLeadToTheirQueues twice.reachable fair).1 "gen-1" "gen-3" twice
  exact ⟨leads.2, rfl, (namesLeadToTheirQueues deleted.reachable fairly).2.1 "gen-1" deleted⟩

end TapedChannel

end AmqpClient
