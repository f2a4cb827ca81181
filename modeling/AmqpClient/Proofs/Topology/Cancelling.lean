import AmqpClient.Proofs.Topology.Cascade
import AmqpClient.Proofs.Topology.Finding
import AmqpClient.Proofs.Topology.Reissuing

/-! What a cancelled consumer takes along. As long as queues are spoken of by their present names, and no queue comes
to a name that another one had, an auto-delete queue goes with its last consumer, and nothing else goes but what goes
with such a queue. -/
namespace AmqpClient.Topology

def Operation.gives : Operation → List String
  | .recordQueue queue => [queue.name]
  | .renameQueue _ new => [new]
  | _ => []

/- After these operations, no name is spoken of that leads elsewhere by now, and if a queue is renamed, no queue ever
had the new name. Nothing is asked of tags. -/
def Operation.Plain (before : List Operation) : Operation → Prop
  | .recordQueue queue => (run before).resolveQueue queue.name = queue.name
  | .recordBinding binding => ∀ name ∈ binding.queue?, (run before).resolveQueue name = name
  | .recordConsumer consumer => (run before).resolveQueue consumer.queue = consumer.queue
  | .renameQueue old new => new ≠ old → new ∉ before.flatMap Operation.gives
  | _ => True

inductive Regular : List Operation → Prop
  | nil : Regular []
  | snoc {before : List Operation} {operation : Operation} (regular : Regular before)
      (plain : operation.Plain before) : Regular (before ++ [operation])

/- Whoever is spoken of is spoken of by its present name, and all names that queues have or had were given to them. -/
structure Current (given : List String) (topology : Topology) : Prop where
  spoken : ∀ name ∈ topology.spoken, topology.resolveQueue name = name
  known : topology.queues.keys ⊆ given
  retired : topology.queueAliases.names ⊆ given

variable {topology next : Topology} {given more : List String}

namespace Current

theorem empty : Current [] {} := ⟨List.forall_mem_nil _, List.nil_subset _, List.nil_subset _⟩

theorem grow (current : Current given topology) (within : given ⊆ more) : Current more topology :=
  ⟨current.spoken, List.Subset.trans current.known within, List.Subset.trans current.retired within⟩

theorem forgets {gone : List String} (current : Current given topology) (once : topology.queueAliases.names.Nodup)
    (forgets : Forgets gone topology next) : Current given next where
  spoken name member := by
    rw [forgets.resolve once, current.spoken name (forgets.spoken member), ite_self]
  known := List.Subset.trans (forgets.sublist.map _).subset current.known
  retired := by
    refine List.Subset.trans ?_ current.retired
    unfold Aliases.names
    rw [forgets.aliases]
    exact (List.filter_sublist.map _).subset

theorem added (current : Current given topology) (aliases : next.queueAliases = topology.queueAliases)
    (known : next.queues.keys ⊆ given)
    (spoken : ∀ name ∈ next.spoken, name ∈ topology.spoken ∨ topology.resolveQueue name = name) :
    Current given next where
  spoken name member := by
    have same : next.resolveQueue name = topology.resolveQueue name := congrArg (Aliases.resolve · name) aliases
    exact same.trans ((spoken name member).elim (current.spoken name) id)
  known := known
  retired := aliases ▸ current.retired

theorem renameQueue {old new : String} (current : Current given topology) (distinct : Distinct topology)
    (fresh : new ≠ old → new ∉ given) : Current (given ++ [new]) (topology.renameQueue old new) := by
  by_cases moves : old ∈ topology.queues.keys ∧ new ≠ old
  · obtain ⟨known, other⟩ := moves
    have fresh := fresh other
    have renamed := renameQueueRenamed distinct.queues known fun _ member => fresh (current.known member)
    have resolve := renameQueueResolve known (current.spoken old (keysSpoken known)) new
    have settled : topology.resolveQueue new = new :=
      Aliases.resolveUnknown fun retired => fresh (current.retired retired)
    refine ⟨fun name member => ?_, fun name member => ?_, ?_⟩
    · rw [renamed.spoken] at member
      obtain ⟨before, inside, rfl⟩ := List.mem_map.mp member
      rw [resolve]
      by_cases itself : before = old
      · simp only [replacing, itself, if_true, settled, if_neg other]
      · simp only [replacing, if_neg itself, current.spoken before inside]
    · rw [renamed.queueKeys] at member
      obtain ⟨before, inside, rfl⟩ := List.mem_map.mp member
      unfold replacing
      split
      · exact List.mem_append_right _ (List.mem_singleton_self _)
      · exact List.mem_append_left _ (current.known inside)
    · rw [renameQueueAliases known, if_neg other.symm]
      have names := (Aliases.redirectNames distinct.queueAliases old new).2
      refine List.Subset.trans names (List.cons_subset.mpr ⟨?_, ?_⟩)
      · exact List.mem_append_left _ (current.known known)
      · exact List.Subset.trans current.retired (List.subset_append_left ..)
  · rw [renameQueueNothing moves]
    exact current.grow (List.subset_append_left ..)

end Current

theorem Current.perform {before : List Operation} {operation : Operation}
    (current : Current (before.flatMap Operation.gives) (run before)) (plain : operation.Plain before) :
    Current ((before ++ [operation]).flatMap Operation.gives) (run (before ++ [operation])) := by
  have distinct := Distinct.run before
  rw [runSnoc, List.flatMap_append, List.flatMap_singleton]
  have grown := current.grow (List.subset_append_left _ operation.gives)
  cases forgets : operation.forgets with
  | true =>
    obtain ⟨gone, forgets⟩ := (run before).performForgets forgets
    exact grown.forgets distinct.queueAliases forgets
  | false =>
    cases operation with
    | recordQueue queue =>
      refine grown.added rfl (fun name member => ?_) fun name member => ?_
      · rcases Catalog.recordMember.mp member with rfl | earlier
        · exact List.mem_append_right _ (List.mem_singleton_self _)
        · exact grown.known earlier
      · rcases recordQueueSpoken member with rfl | earlier
        · exact .inr plain
        · exact .inl earlier
    | recordBinding binding =>
      obtain ⟨bindings, same⟩ := (run before).recordBindingElse binding
      have queues : ((run before).recordBinding binding).queues = (run before).queues := by rw [same]
      refine grown.added (by rw [Topology.perform, same]) (queues ▸ grown.known) fun name member => ?_
      exact (recordBindingSpoken member).symm.imp_right (plain name)
    | recordConsumer consumer =>
      refine grown.added rfl grown.known fun name member => ?_
      rcases recordConsumerSpoken member with rfl | earlier
      · exact .inr plain
      · exact .inl earlier
    | renameQueue old new => exact current.renameQueue distinct plain
    | _ => cases forgets

theorem Regular.current {operations : List Operation} (regular : Regular operations) :
    Current (operations.flatMap Operation.gives) (run operations) := by
  induction regular with
  | nil => exact .empty
  | snoc _ plain ih => exact ih.perform plain

def Last (topology : Topology) (consumer : RecordedConsumer) : Prop :=
  ∃ queue, topology.queue? consumer.queue = some queue ∧ queue.options.autoDelete = true ∧
    ∀ other ∈ topology.consumers.items,
      topology.resolveQueue other.queue = topology.resolveQueue consumer.queue → other = consumer

def feeds (topology : Topology) (queue : String) (binding : RecordedBinding) : Bool :=
  binding.kind == .queue && topology.resolveQueue binding.destination == topology.resolveQueue queue

theorem deleteQueueLeast (queue : String)
    (spoken : ∀ name ∈ topology.spoken, topology.resolveQueue name = name) : ∃ gone : List String,
    IsLeast {all | Engulfs topology (topology.feeds queue) [] all} {name | name ∈ gone} ∧
      (topology.deleteQueue queue).2.exchanges = (topology.bereft (topology.feeds queue) gone).exchanges ∧
      (topology.deleteQueue queue).2.bindings = (topology.bereft (topology.feeds queue) gone).bindings := by
  have same : ∀ binding ∈ topology.bindings,
      binding.leadsTo .queue (topology.resolveQueue queue) = topology.feeds queue binding := by
    intro binding known
    unfold RecordedBinding.leadsTo feeds
    cases kind : binding.kind with
    | exchange => rfl
    | queue =>
      have named : binding.destination ∈ binding.queue? := by rw [RecordedBinding.queue?, kind]; rfl
      rw [spoken _ (spokenIff.mpr (.inr (.inl (List.mem_filterMap.mpr ⟨binding, known, named⟩))))]
  obtain ⟨gone, least, deleted⟩ := Deletion.performLeast topology (.queue queue)
  have deleted : (topology.deleteQueue queue).2 = _ := deleted
  refine ⟨gone, ?_, ?_, ?_⟩
  · have sets : {all | Engulfs topology (topology.feeds queue) [] all} =
        {all | Engulfs topology ((Deletion.queue queue).removes topology) [] all} := by
      refine Set.ext fun all => ⟨fun engulfs => engulfs.sameCut fun binding known => (same binding known).symm,
        fun engulfs => engulfs.sameCut same⟩
    exact sets ▸ least
  · rw [deleted]
    rfl
  · rw [deleted]
    refine List.filter_congr fun binding known => ?_
    rw [← same binding known]
    rfl

theorem deleteConsumerDone {tag : String} {consumer : RecordedConsumer}
    (cancelled : (topology.deleteConsumer tag).1 = some consumer) :
    consumer ∈ topology.consumers.items ∧ (topology.deleteConsumer tag).2 =
      ((topology.withoutConsumer consumer.tag).deleteUnusedQueue consumer.queue).2 := by
  rw [deleteConsumerEither] at cancelled ⊢
  cases found : topology.consumer? tag with
  | none =>
    rw [found] at cancelled
    cases cancelled
  | some known =>
    rw [found] at cancelled
    cases cancelled
    obtain ⟨member, same⟩ := Catalog.findSome found
    exact ⟨member, by rw [← same]; rfl⟩

theorem usersCurrent (spoken : ∀ name ∈ topology.spoken, topology.resolveQueue name = name) :
    ∀ consumer ∈ topology.consumers.items, topology.resolveQueue consumer.queue = consumer.queue :=
  fun _ member => spoken _ (spokenIff.mpr (.inr (.inr (List.mem_map_of_mem member))))

section

variable {tag : String} {consumer : RecordedConsumer} (distinct : Distinct topology)
  (spoken : ∀ name ∈ topology.spoken, topology.resolveQueue name = name)

include distinct spoken

theorem unusedIffLast (member : consumer ∈ topology.consumers.items) :
    (topology.withoutConsumer consumer.tag).isUnusedQueue consumer.queue = true ↔ topology.Last consumer := by
  have users := usersCurrent spoken
  have left : ∀ other, other ∈ (topology.consumers.erase consumer.tag).items ↔
      other ∈ topology.consumers.items ∧ other ≠ consumer := by
    intro other
    have erased : (topology.consumers.erase consumer.tag).items = topology.consumers.items.erase consumer :=
      topology.consumers.eraseItem distinct.consumers member
    rw [erased, (List.Nodup.of_map _ distinct.consumers).mem_erase_iff, and_comm]
  unfold Last queue?
  rw [users consumer member]
  unfold isUnusedQueue withoutConsumer
  dsimp only
  cases recorded : topology.queues.find? consumer.queue with
  | none => simp
  | some queue =>
    simp only [Bool.and_eq_true, Bool.not_eq_true', List.any_eq_false, beq_iff_eq, Option.some.injEq, exists_eq_left']
    refine and_congr_right fun _ => ⟨fun deserted other inside same => ?_, fun last other stays same => ?_⟩
    · by_contra another
      exact deserted other ((left other).mpr ⟨inside, another⟩) ((users other inside).symm.trans same)
    · obtain ⟨inside, another⟩ := (left other).mp stays
      exact another (last other inside ((users other inside).trans same))

theorem deleteConsumerCases (cancelled : (topology.deleteConsumer tag).1 = some consumer) :
    consumer ∈ topology.consumers.items ∧
      (topology.deleteConsumer tag).2.consumers = topology.consumers.erase consumer.tag ∧
      (topology.Last consumer ∧
          (topology.deleteConsumer tag).2 = ((topology.withoutConsumer consumer.tag).deleteQueue consumer.queue).2 ∨
        ¬ topology.Last consumer ∧ (topology.deleteConsumer tag).2 = topology.withoutConsumer consumer.tag) := by
  obtain ⟨member, done⟩ := deleteConsumerDone cancelled
  have unused := unusedIffLast distinct spoken member
  have own : ∀ key ∈ (topology.withoutConsumer consumer.tag).queues.keys,
      (topology.withoutConsumer consumer.tag).resolveQueue key = key := fun key known => spoken key (keysSpoken known)
  rw [done]
  refine ⟨member, deleteUnusedQueueConsumers own _, ?_⟩
  have itself : (topology.withoutConsumer consumer.tag).resolveQueue consumer.queue = consumer.queue :=
    usersCurrent spoken consumer member
  rw [deleteUnusedQueueEither, itself]
  by_cases last : topology.Last consumer
  · exact .inl ⟨last, by rw [if_pos (unused.mpr last)]⟩
  · exact .inr ⟨last, by rw [if_neg fun taken => last (unused.mp taken)]⟩

end

/- A consumer that is cancelled goes alone, or, if it was the last one of an auto-delete queue, takes along the queue
with its bindings, and the exchanges that are left unused by that. -/
theorem cancelsExactly (operations : List Operation) (regular : Regular operations) (tag : String)
    (consumer : RecordedConsumer) (cancelled : ((run operations).deleteConsumer tag).1 = some consumer) :
    let topology := run operations
    let next := (topology.deleteConsumer tag).2
    (consumer ∈ topology.consumers.items ∧ next.consumers.items = topology.consumers.items.erase consumer) ∧
    ((∃ queue ∈ topology.queues.items, queue.name = consumer.queue ∧ queue ∉ next.queues.items) ↔
      topology.Last consumer) ∧
    (topology.Last consumer → next.queues = topology.queues.erase consumer.queue ∧
      ∃ gone : List String,
        IsLeast {all | Engulfs topology (topology.feeds consumer.queue) [] all} {name | name ∈ gone} ∧
        next.exchanges = (topology.bereft (topology.feeds consumer.queue) gone).exchanges ∧
        next.bindings = (topology.bereft (topology.feeds consumer.queue) gone).bindings) ∧
    (¬ topology.Last consumer → next.queues = topology.queues ∧ next.bindings = topology.bindings ∧
      next.exchanges = topology.exchanges) := by
  intro topology next
  have spoken : ∀ name ∈ topology.spoken, topology.resolveQueue name = name := regular.current.spoken
  have distinct : Distinct topology := Distinct.run operations
  obtain ⟨member, alone, cases⟩ : _ ∧ next.consumers = _ ∧ (_ ∧ next = _ ∨ _ ∧ next = _) :=
    deleteConsumerCases distinct spoken cancelled
  have itself := usersCurrent spoken consumer member
  refine ⟨⟨member, ?_⟩, ?_⟩
  · rw [alone]
    exact topology.consumers.eraseItem distinct.consumers member
  rcases cases with ⟨last, result⟩ | ⟨used, result⟩
  · have goes : next.queues = topology.queues.erase consumer.queue := by
      rw [result, deleteQueueQueues]
      exact congrArg topology.queues.erase itself
    obtain ⟨gone, least, rests⟩ := (topology.withoutConsumer consumer.tag).deleteQueueLeast consumer.queue
      fun name member => spoken name ((topology.withoutConsumerForgets consumer.tag).spoken member)
    rw [← result] at rests
    have same := @Engulfs.same (topology.withoutConsumer consumer.tag) topology rfl rfl
    simp only [same] at least
    refine ⟨iff_of_true ?_ last, fun _ => ⟨goes, gone, least, rests⟩, fun used => absurd last used⟩
    obtain ⟨queue, found, _⟩ := last
    obtain ⟨recorded, named⟩ := Catalog.findSome found
    have named : queue.name = consumer.queue := named.trans itself
    refine ⟨queue, recorded, named, fun stays => ?_⟩
    rw [goes] at stays
    exact bne_iff_ne.mp (List.mem_filter.mp stays).2 named
  · rw [result]
    refine ⟨iff_of_false ?_ used, fun last => absurd last used, fun _ => ⟨rfl, rfl, rfl⟩⟩
    exact fun ⟨queue, recorded, _, forgotten⟩ => forgotten recorded

def feeding : List Operation :=
  [.recordExchange ⟨"x", .fanout, { autoDelete := true }⟩, .recordExchange ⟨"y", .fanout, { autoDelete := true }⟩,
   .recordQueue ⟨"a", { autoDelete := true }, true⟩, .recordQueue ⟨"b", { autoDelete := true }, false⟩,
   .recordBinding ⟨.queue, "x", "a", "k", .nil⟩, .recordBinding ⟨.queue, "y", "b", "k", .nil⟩,
   .recordConsumer ⟨"t", "a", {}, 0⟩, .recordConsumer ⟨"u", "b", {}, 1⟩, .renameQueue "a" "c"]

theorem feedingRegular : Regular feeding := by
  refine .snoc (.snoc (.snoc (.snoc (.snoc (.snoc (.snoc (.snoc (.snoc .nil ?_) ?_) ?_) ?_) ?_) ?_) ?_) ?_) ?_
  all_goals simp [Operation.Plain, Operation.gives]
  all_goals decide

theorem feedingCancelled :
    let consumer : RecordedConsumer := ⟨"t", "c", {}, 0⟩
    let next := ((run feeding).deleteConsumer "t").2
    Regular feeding ∧ ((run feeding).deleteConsumer "t").1 = some consumer ∧ (run feeding).Last consumer ∧
      next.queues = (run feeding).queues.erase "c" ∧ next.queues.keys = ["b"] ∧ next.exchanges.keys = ["y"] ∧
      next.consumers.items = (run feeding).consumers.items.erase consumer := by
  intro consumer next
  have cancelled : ((run feeding).deleteConsumer "t").1 = some consumer := by decide
  obtain ⟨⟨_, alone⟩, forgotten, taken, _⟩ := cancelsExactly feeding feedingRegular "t" consumer cancelled
  have last := forgotten.mp ⟨⟨"c", { autoDelete := true }, true⟩, by decide⟩
  exact ⟨feedingRegular, cancelled, last, (taken last).1, by decide, by decide, alone⟩

end AmqpClient.Topology
