import AmqpClient.Proofs.Topology.Aftermath

/-! Earlier names that lead to nothing. The names of queues never do, whatever is done to a topology; a tag does
when its consumer goes with its queue, and goes by another tag by then. -/
namespace AmqpClient.Topology

variable {topology : Topology}

theorem queuesLedStep (distinct : Distinct topology) (led : topology.queueNames.Led) (operation : Operation) :
    (topology.perform operation).queueNames.Led := by
  have after := queuesAfter distinct operation
  generalize (topology.perform operation).queueNames = next at after ⊢
  cases after with
  | recorded queue => exact Naming.ledTake led queue.name
  | renamed => exact Naming.ledMove led _ _
  | unmoved => exact led
  | released _ gone => exact Naming.ledRelease led gone

theorem queuesLed (operations : List Operation) : (run operations).queueNames.Led := by
  induction operations using List.reverseRecOn with
  | nil => exact fun name elsewhere => absurd rfl elsewhere
  | append_singleton before operation ih =>
    rw [runSnoc]
    exact queuesLedStep (Distinct.run before) ih operation

def Operation.Spares (topology : Topology) (operation : Operation) : Prop :=
  ∀ consumer ∈ operation.takesAlong topology, ∀ tag, topology.resolveTag tag = consumer.tag → tag = consumer.tag

theorem usersOfUnusedRecorded {name : String} {consumer : RecordedConsumer}
    (member : consumer ∈ topology.usersOfUnused name) : consumer ∈ topology.consumers.items := by
  unfold usersOfUnused at member
  split at member
  · exact List.mem_of_mem_filter member
  · exact absurd member List.not_mem_nil

theorem takenNotCancelled {operation : Operation} {consumer : RecordedConsumer}
    (member : consumer ∈ operation.takesAlong topology) : consumer.tag ∉ operation.cancels topology := by
  cases operation with
  | deleteConsumer tag =>
    cases found : topology.consumer? tag with
    | none =>
      simp only [Operation.takesAlong, found] at member
      exact absurd member List.not_mem_nil
    | some known =>
      simp only [Operation.takesAlong, found] at member
      have left : consumer.tag ∈ (topology.consumers.erase (topology.resolveTag tag)).keys :=
        List.mem_map_of_mem (usersOfUnusedRecorded member)
      simp only [Operation.cancels, found, List.mem_singleton]
      exact (Catalog.eraseMember.mp left).2
  | _ => exact List.not_mem_nil

theorem tagsLedStep (distinct : Distinct topology) (led : topology.tagNames.Led) (operation : Operation) :
    (topology.perform operation).tagNames.Led ↔ operation.Spares topology := by
  have after := tagsAfter distinct operation
  generalize (topology.perform operation).tagNames = next at after ⊢
  cases after with
  | recorded consumer => exact iff_of_true (Naming.ledTake led consumer.tag) (List.forall_mem_nil _)
  | retagged => exact iff_of_true (Naming.ledMove led _ _) (List.forall_mem_nil _)
  | unmoved => exact iff_of_true led (List.forall_mem_nil _)
  | released =>
    rw [Naming.ledLose (Naming.ledRelease led _)]
    constructor
    · intro spared consumer member tag
      exact (Naming.releaseLeads (takenNotCancelled member)).mp (spared _ (List.mem_map_of_mem member) tag)
    · intro spares key gone tag
      obtain ⟨consumer, member, rfl⟩ := List.mem_map.mp gone
      exact (Naming.releaseLeads (takenNotCancelled member)).mpr (spares consumer member tag)

theorem cancelledReleased (distinct : Distinct topology) {tag earlier : String} {consumer : RecordedConsumer}
    (cancelled : (topology.deleteConsumer tag).1 = some consumer)
    (led : topology.resolveTag earlier = consumer.tag) :
    (topology.deleteConsumer tag).2.resolveTag earlier = earlier := by
  cases found : topology.consumer? tag with
  | none =>
    simp only [deleteConsumerEither, found, reduceCtorEq] at cancelled
  | some known =>
    simp only [deleteConsumerEither, found, Option.some.injEq] at cancelled
    subst cancelled
    have same : topology.resolveTag earlier = topology.resolveTag tag := led.trans (Catalog.findSome found).2
    have goes : topology.resolveTag earlier ∈ (Operation.deleteConsumer tag).cancels topology := by
      simp only [Operation.cancels, found, List.mem_singleton]
      exact same
    exact (congrFun (congrArg Naming.leads (deleteConsumerTags distinct tag)) earlier).trans (if_pos goes)

/- A name that leads elsewhere leads to a recorded queue. A tag that leads elsewhere leads to a recorded consumer,
all along a run, exactly if no consumer ever goes with its queue while another tag leads to it. When a consumer is
cancelled, all its tags are free again. -/
theorem ledExactly (operations : List Operation) :
    (∀ name, (run operations).resolveQueue name ≠ name →
      (run operations).resolveQueue name ∈ (run operations).queues.keys) ∧
    ((∀ part, part <+: operations → ∀ tag, (run part).resolveTag tag ≠ tag →
        (run part).resolveTag tag ∈ (run part).consumers.keys) ↔
      Throughout Operation.Spares operations) ∧
    ∀ tag consumer, ((run operations).deleteConsumer tag).1 = some consumer →
      ∀ earlier, (run operations).resolveTag earlier = consumer.tag →
        ((run operations).deleteConsumer tag).2.resolveTag earlier = earlier := by
  refine ⟨queuesLed operations, ?_, fun tag consumer cancelled earlier led =>
    cancelledReleased (Distinct.run operations) cancelled led⟩
  refine throughoutExactly (fun topology => topology.tagNames.Led) Operation.Spares ?_ ?_ operations
  · exact fun tag elsewhere => absurd rfl elsewhere
  · exact fun before operation led => tagsLedStep (Distinct.run before) led operation

theorem replacedTagDangles :
    let topology := run [.recordQueue ⟨"q", {}, false⟩, .recordConsumer ⟨"a", "q", {}, 0⟩, .updateTag "a" "b",
      .deleteQueue "q"]
    topology.consumers.items = [] ∧ topology.resolveTag "a" ≠ "a" ∧ topology.resolveTag "a" ∉ topology.consumers.keys := by
  decide

end AmqpClient.Topology
