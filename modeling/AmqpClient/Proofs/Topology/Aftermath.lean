import AmqpClient.Proofs.Topology.Naming
import AmqpClient.Proofs.Topology.Operations
import AmqpClient.Proofs.Topology.Tracing

/-! What an operation does to the names of queues and to the tags of consumers. A queue that goes takes all names
that led to it with it, and so does a consumer that is cancelled; but consumers that go with their queue leave
theirs behind. -/
namespace AmqpClient.Topology

variable {topology next : Topology} {old new : String}

def queueNames (topology : Topology) : Naming := .of topology.queues topology.queueAliases

def tagNames (topology : Topology) : Naming := .of topology.consumers topology.tagAliases

theorem Forgets.queueNames {gone : List String} (forgets : Forgets gone topology next)
    (once : topology.queueAliases.names.Nodup) : next.queueNames = topology.queueNames.release gone :=
  Naming.ext (funext fun _ => propext forgets.keys) (funext (forgets.resolve once))

theorem Unbinds.tagNames (unbinds : Unbinds topology next) : next.tagNames = topology.tagNames := by
  obtain ⟨_, _, rfl, _⟩ := unbinds
  rfl

theorem renameQueueNames (distinct : Distinct topology) (known : old ∈ topology.queues.keys) (other : new ≠ old) :
    (topology.renameQueue old new).queueNames = topology.queueNames.move old new := by
  unfold queueNames
  rw [renameQueueQueues, renameQueueAliases known, if_neg other.symm]
  exact Naming.ofMoved distinct.queues known _ other

theorem updateTagNames (distinct : Distinct topology) (known : old ∈ topology.consumers.keys) (other : new ≠ old) :
    (topology.updateTag old new).tagNames = topology.tagNames.move old new := by
  unfold tagNames
  rw [updateTagConsumers, updateTagAliases known, if_neg other.symm]
  exact Naming.ofMoved distinct.consumers known _ other

def Operation.namesQueue : Operation → Bool
  | .recordQueue _ => true
  | .renameQueue _ _ => true
  | _ => false

def Operation.namesConsumer : Operation → Bool
  | .recordConsumer _ => true
  | .updateTag _ _ => true
  | _ => false

theorem renameQueueTags (topology : Topology) (old new : String) :
    (topology.renameQueue old new).tagNames = topology.tagNames := by
  unfold tagNames Naming.of
  rw [renameQueueTagAliases, renameQueueConsumerKeys]

theorem queuesReleased (distinct : Distinct topology) {operation : Operation} (plain : operation.namesQueue = false) :
    ∃ gone, (topology.perform operation).queueNames = topology.queueNames.release gone := by
  cases forgets : operation.forgets with
  | true =>
    obtain ⟨gone, forgets⟩ := topology.performForgets forgets
    exact ⟨gone, forgets.queueNames distinct.queueAliases⟩
  | false =>
    have same : topology.queueNames = topology.queueNames.release [] := topology.queueNames.releaseNothing.symm
    cases operation with
    | recordQueue | renameQueue => cases plain
    | recordBinding binding =>
      obtain ⟨bindings, unchanged⟩ := topology.recordBindingElse binding
      rw [perform, unchanged]
      exact ⟨[], same⟩
    | recordConsumer consumer => exact ⟨[], same⟩
    | _ => cases forgets

inductive QueuesAfter (topology : Topology) : Operation → Naming → Prop
  | recorded (queue : RecordedQueue) :
      QueuesAfter topology (.recordQueue queue) (topology.queueNames.take queue.name)
  | renamed {old new : String} (known : old ∈ topology.queues.keys) (other : new ≠ old) :
      QueuesAfter topology (.renameQueue old new) (topology.queueNames.move old new)
  | unmoved {old new : String} (nothing : ¬(old ∈ topology.queues.keys ∧ new ≠ old)) :
      QueuesAfter topology (.renameQueue old new) topology.queueNames
  | released {operation : Operation} (plain : operation.namesQueue = false) (gone : List String) :
      QueuesAfter topology operation (topology.queueNames.release gone)

theorem queuesAfter (distinct : Distinct topology) (operation : Operation) :
    QueuesAfter topology operation (topology.perform operation).queueNames := by
  cases plain : operation.namesQueue with
  | false =>
    obtain ⟨gone, names⟩ := queuesReleased distinct plain
    rw [names]
    exact .released plain gone
  | true =>
    cases operation with
    | recordQueue queue =>
      have names : (topology.recordQueue queue).queueNames = topology.queueNames.take queue.name := Naming.ofRecord ..
      rw [perform, names]
      exact .recorded queue
    | renameQueue old new =>
      rw [perform]
      by_cases moves : old ∈ topology.queues.keys ∧ new ≠ old
      · rw [renameQueueNames distinct moves.1 moves.2]
        exact .renamed moves.1 moves.2
      · rw [renameQueueNothing moves]
        exact .unmoved moves
    | _ => cases plain

def usersOf (topology : Topology) (queue : String) : List RecordedConsumer :=
  topology.consumers.items.filter fun consumer => consumer.queue == queue

/- The consumers that go with a queue that is taken for unused. Its name is resolved twice. -/
def usersOfUnused (topology : Topology) (name : String) : List RecordedConsumer :=
  if topology.isUnusedQueue (topology.resolveQueue name) then
    topology.usersOf (topology.resolveQueue (topology.resolveQueue name))
  else []

def Operation.takesAlong (topology : Topology) : Operation → List RecordedConsumer
  | .deleteQueue name => topology.usersOf (topology.resolveQueue name)
  | .deleteUnusedQueue name => topology.usersOfUnused name
  | .deleteConsumer tag =>
    match topology.consumer? tag with
    | none => []
    | some consumer => (topology.withoutConsumer (topology.resolveTag tag)).usersOfUnused consumer.queue
  | _ => []

def Operation.cancels (topology : Topology) : Operation → List String
  | .deleteConsumer tag =>
    match topology.consumer? tag with
    | none => []
    | some _ => [topology.resolveTag tag]
  | _ => []

theorem deleteQueueTags (distinct : Distinct topology) (name : String) : (topology.deleteQueue name).2.tagNames
    = topology.tagNames.lose ((topology.usersOf (topology.resolveQueue name)).map RecordedConsumer.tag) := by
  have lost := Naming.ofFilter distinct.consumers topology.tagAliases
    fun consumer => consumer.queue != topology.resolveQueue name
  simp only [bne, Bool.not_not] at lost
  exact (topology.deleteQueueUnbinds name).tagNames.trans lost

theorem deleteUnusedQueueTags (distinct : Distinct topology) (name : String) :
    (topology.deleteUnusedQueue name).2.tagNames
      = topology.tagNames.lose ((topology.usersOfUnused name).map RecordedConsumer.tag) := by
  rw [deleteUnusedQueueEither, usersOfUnused]
  split
  · exact deleteQueueTags distinct _
  · exact (Naming.loseNothing _).symm

theorem deleteConsumerTags (distinct : Distinct topology) (tag : String) :
    (topology.deleteConsumer tag).2.tagNames
      = (topology.tagNames.release ((Operation.deleteConsumer tag).cancels topology)).lose
          (((Operation.deleteConsumer tag).takesAlong topology).map RecordedConsumer.tag) := by
  cases found : topology.consumer? tag with
  | none =>
    simp only [deleteConsumerEither, Operation.cancels, Operation.takesAlong, found, List.map_nil,
      Naming.releaseNothing, Naming.loseNothing]
  | some consumer =>
    have released : (topology.withoutConsumer (topology.resolveTag tag)).tagNames
        = topology.tagNames.release [topology.resolveTag tag] := Naming.ofErase _ distinct.tagAliases _
    simp only [deleteConsumerEither, Operation.cancels, Operation.takesAlong, found, ← released]
    exact deleteUnusedQueueTags (distinct.withoutConsumer _) consumer.queue

theorem tagsReleased (distinct : Distinct topology) {operation : Operation} (plain : operation.namesConsumer = false) :
    (topology.perform operation).tagNames = (topology.tagNames.release (operation.cancels topology)).lose
      ((operation.takesAlong topology).map RecordedConsumer.tag) := by
  have same : topology.tagNames = (topology.tagNames.release []).lose [] := by
    rw [Naming.releaseNothing, Naming.loseNothing]
  cases operation with
  | recordExchange exchange => exact same
  | recordQueue queue => exact same
  | recordBinding binding =>
    obtain ⟨bindings, unchanged⟩ := topology.recordBindingElse binding
    rw [perform, unchanged]
    exact same
  | recordConsumer consumer => cases plain
  | deleteExchange name => exact (topology.deleteExchangeUnbinds name).tagNames.trans same
  | deleteUnusedExchange name => exact (topology.deleteUnusedExchangeUnbinds name).tagNames.trans same
  | deleteQueue name =>
    have lost := deleteQueueTags distinct name
    rwa [← topology.tagNames.releaseNothing] at lost
  | deleteUnusedQueue name =>
    have lost := deleteUnusedQueueTags distinct name
    rwa [← topology.tagNames.releaseNothing] at lost
  | deleteBinding binding => exact (topology.deleteBindingUnbinds binding).tagNames.trans same
  | deleteConsumer tag => exact deleteConsumerTags distinct tag
  | renameQueue old new => exact (renameQueueTags topology old new).trans same
  | updateTag old new => cases plain

inductive TagsAfter (topology : Topology) : Operation → Naming → Prop
  | recorded (consumer : RecordedConsumer) :
      TagsAfter topology (.recordConsumer consumer) (topology.tagNames.take consumer.tag)
  | retagged {old new : String} (known : old ∈ topology.consumers.keys) (other : new ≠ old) :
      TagsAfter topology (.updateTag old new) (topology.tagNames.move old new)
  | unmoved {old new : String} (nothing : ¬(old ∈ topology.consumers.keys ∧ new ≠ old)) :
      TagsAfter topology (.updateTag old new) topology.tagNames
  | released {operation : Operation} (plain : operation.namesConsumer = false) :
      TagsAfter topology operation ((topology.tagNames.release (operation.cancels topology)).lose
        ((operation.takesAlong topology).map RecordedConsumer.tag))

theorem tagsAfter (distinct : Distinct topology) (operation : Operation) :
    TagsAfter topology operation (topology.perform operation).tagNames := by
  cases plain : operation.namesConsumer with
  | false =>
    rw [tagsReleased distinct plain]
    exact .released plain
  | true =>
    cases operation with
    | recordConsumer consumer =>
      have names : (topology.recordConsumer consumer).tagNames = topology.tagNames.take consumer.tag :=
        Naming.ofRecord ..
      rw [perform, names]
      exact .recorded consumer
    | updateTag old new =>
      rw [perform]
      by_cases moves : old ∈ topology.consumers.keys ∧ new ≠ old
      · rw [updateTagNames distinct moves.1 moves.2]
        exact .retagged moves.1 moves.2
      · rw [updateTagNothing moves]
        exact .unmoved moves
    | _ => cases plain

end AmqpClient.Topology
