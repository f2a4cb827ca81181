import AmqpClient.Proofs.Topology.Aftermath

/-! Recorded queues under their own names. A queue is found, deleted and spared by its own name, unless it was
given one that led to another queue at that time. -/
namespace AmqpClient.Topology

structure Found (topology : Topology) (queue : RecordedQueue) : Prop where
  itself : topology.resolveQueue queue.name = queue.name
  found : topology.queue? queue.name = some queue
  deleted : (topology.deleteQueue queue.name).1 = some queue ∧
    (topology.deleteQueue queue.name).2.queues = topology.queues.erase queue.name
  alone : (topology.deleteUnusedQueue queue.name).2.queues =
    if (topology.deleteUnusedQueue queue.name).1 then topology.queues.erase queue.name else topology.queues

def Operation.Vacant (topology : Topology) : Operation → Prop
  | .recordQueue queue => topology.resolveQueue queue.name = queue.name
  | .renameQueue old new =>
    old ∈ topology.queues.keys → topology.resolveQueue new = new ∨ topology.resolveQueue new = old
  | _ => True

variable {topology : Topology}

theorem deleteQueueQueues (topology : Topology) (name : String) :
    (topology.deleteQueue name).2.queues = topology.queues.erase (topology.resolveQueue name) := by
  obtain ⟨_, _, same, _⟩ := topology.deleteQueueUnbinds name
  rw [same]
  rfl

theorem foundIff (distinct : Distinct topology) {queue : RecordedQueue} (member : queue ∈ topology.queues.items) :
    Found topology queue ↔ topology.resolveQueue queue.name = queue.name := by
  refine ⟨Found.itself, fun itself => ?_⟩
  have found : topology.queues.find? queue.name = some queue := by
    obtain ⟨other, found⟩ := Catalog.findKnown (List.mem_map_of_mem member)
    obtain rfl := Catalog.findUnique distinct.queues found member rfl
    exact found
  have erased := topology.deleteQueueQueues queue.name
  refine ⟨itself, ?_, ⟨?_, ?_⟩, ?_⟩
  · rw [queue?, itself, found]
  · rw [deleteQueue, itself, found]
  · rw [erased, itself]
  · rw [deleteUnusedQueueEither, itself]
    split
    · exact erased.trans (congrArg topology.queues.erase itself)
    · rfl

theorem ownIff (distinct : Distinct topology) :
    (∀ queue ∈ topology.queues.items, Found topology queue) ↔ topology.queueNames.Own := by
  constructor
  · intro all key known
    obtain ⟨queue, member, rfl⟩ := List.mem_map.mp known
    exact (all queue member).itself
  · intro own queue member
    exact (foundIff distinct member).mpr (own queue.name (List.mem_map_of_mem member))

theorem ownStep (distinct : Distinct topology) (own : topology.queueNames.Own) (operation : Operation) :
    (topology.perform operation).queueNames.Own ↔ operation.Vacant topology := by
  have after := queuesAfter distinct operation
  generalize (topology.perform operation).queueNames = next at after ⊢
  cases after with
  | recorded queue => exact Naming.ownTake own
  | renamed known other =>
    refine (Naming.ownMove own other).trans ?_
    exact ⟨fun vacant _ => vacant, fun vacant => vacant known⟩
  | @unmoved old new nothing =>
    refine iff_of_true own fun known => .inl ?_
    have same : new = old := by_contra fun other => nothing ⟨known, other⟩
    exact same ▸ own old known
  | released plain gone =>
    refine iff_of_true (Naming.ownRelease own gone) ?_
    cases operation with
    | recordQueue | renameQueue => cases plain
    | _ => trivial

/- All along a run every recorded queue answers to its own name exactly if no queue is ever given a name that
leads to another. -/
theorem foundExactly (operations : List Operation) :
    (∀ part, part <+: operations → ∀ queue ∈ (run part).queues.items, Found (run part) queue) ↔
      Throughout Operation.Vacant operations := by
  refine throughoutExactly (fun topology => ∀ queue ∈ topology.queues.items, Found topology queue) Operation.Vacant
    ?_ (fun before operation all => ?_) operations
  · exact List.forall_mem_nil _
  · have distinct := Distinct.run before
    rw [ownIff distinct] at all
    rw [ownIff (distinct.perform operation)]
    exact ownStep distinct all operation

theorem retiredNameHidden :
    let first : RecordedQueue := ⟨"a", { autoDelete := true }, true⟩
    let again : RecordedQueue := ⟨"a", { durable := true }, false⟩
    let topology := run [.recordQueue first, .renameQueue "a" "b", .recordQueue again]
    again ∈ topology.queues.items ∧ topology.resolveQueue "a" = "b" ∧
      topology.queue? "a" = some { first with name := "b" } ∧
      (topology.deleteQueue "a").1 = some { first with name := "b" } ∧
      (topology.deleteQueue "a").2.queues.items = [again] ∧
      (topology.deleteUnusedQueue "a").1 = true ∧ (topology.deleteUnusedQueue "a").2.queues.items = [again] := by
  decide

end AmqpClient.Topology
