import AmqpClient.Proofs.Topology.Addressing
import Mathlib.Data.List.Induction

/-! Topologies that come of any operations, under any names. Whatever is done, there is one record of each key, and
a name leads to one. -/
namespace AmqpClient.Topology

inductive Operation
  | recordExchange (exchange : RecordedExchange)
  | recordQueue (queue : RecordedQueue)
  | recordBinding (binding : RecordedBinding)
  | recordConsumer (consumer : RecordedConsumer)
  | deleteExchange (name : String)
  | deleteUnusedExchange (name : String)
  | deleteQueue (name : String)
  | deleteUnusedQueue (name : String)
  | deleteBinding (binding : RecordedBinding)
  | deleteConsumer (tag : String)
  | renameQueue (old new : String)
  | updateTag (old new : String)
  deriving DecidableEq, Repr

def perform (topology : Topology) : Operation → Topology
  | .recordExchange exchange => topology.recordExchange exchange
  | .recordQueue queue => topology.recordQueue queue
  | .recordBinding binding => topology.recordBinding binding
  | .recordConsumer consumer => topology.recordConsumer consumer
  | .deleteExchange name => (topology.deleteExchange name).2
  | .deleteUnusedExchange name => (topology.deleteUnusedExchange name).2
  | .deleteQueue name => (topology.deleteQueue name).2
  | .deleteUnusedQueue name => (topology.deleteUnusedQueue name).2
  | .deleteBinding binding => (topology.deleteBinding binding).2
  | .deleteConsumer tag => (topology.deleteConsumer tag).2
  | .renameQueue old new => topology.renameQueue old new
  | .updateTag old new => topology.updateTag old new

def run (operations : List Operation) : Topology := operations.foldl perform {}

theorem runSnoc (before : List Operation) (operation : Operation) :
    run (before ++ [operation]) = (run before).perform operation :=
  List.foldl_append

def Throughout (suits : Topology → Operation → Prop) (operations : List Operation) : Prop :=
  ∀ before operation, before ++ [operation] <+: operations → suits (run before) operation

theorem throughoutExactly (good : Topology → Prop) (suits : Topology → Operation → Prop) (start : good {})
    (step : ∀ before operation, good (run before) →
      (good ((run before).perform operation) ↔ suits (run before) operation)) (operations : List Operation) :
    (∀ part, part <+: operations → good (run part)) ↔ Throughout suits operations := by
  constructor
  · intro always before operation within
    have earlier := always before ((List.prefix_append before [operation]).trans within)
    have later := always _ within
    rw [runSnoc] at later
    exact (step before operation earlier).mp later
  · intro suited part within
    induction part using List.reverseRecOn with
    | nil => exact start
    | append_singleton before operation ih =>
      rw [runSnoc]
      have earlier := ih ((List.prefix_append before [operation]).trans within)
      exact (step before operation earlier).mpr (suited before operation within)

variable {topology next : Topology} {old new : String}

theorem renameQueueNothing (nothing : ¬(old ∈ topology.queues.keys ∧ new ≠ old)) :
    topology.renameQueue old new = topology := by
  by_cases known : old ∈ topology.queues.keys
  · have same : new = old := by_contra fun other => nothing ⟨known, other⟩
    simp only [renameQueue, same, beq_self_eq_true, if_true]
  · simp only [renameQueue, Catalog.findMissing known, ite_self]

theorem updateTagNothing (nothing : ¬(old ∈ topology.consumers.keys ∧ new ≠ old)) :
    topology.updateTag old new = topology := by
  by_cases known : old ∈ topology.consumers.keys
  · have same : new = old := by_contra fun other => nothing ⟨known, other⟩
    simp only [updateTag, same, beq_self_eq_true, if_true]
  · simp only [updateTag, Catalog.findMissing known, ite_self]

def Operation.forgets : Operation → Bool
  | .recordQueue _ | .recordBinding _ | .recordConsumer _ | .renameQueue .. => false
  | _ => true

theorem performForgets (topology : Topology) {operation : Operation} (forgets : operation.forgets = true) :
    ∃ gone, Forgets gone topology (topology.perform operation) := by
  cases operation with
  | recordQueue | recordBinding | recordConsumer | renameQueue => cases forgets
  | recordExchange exchange => exact ⟨[], .none rfl rfl (List.Sublist.refl _) (List.Subset.refl _)⟩
  | deleteExchange name => exact ⟨_, topology.deleteExchangeForgets name⟩
  | deleteUnusedExchange name => exact ⟨_, (topology.deleteUnusedExchangeUnbinds name).forgets⟩
  | deleteQueue name => exact ⟨_, topology.deleteQueueForgets name⟩
  | deleteUnusedQueue name => exact topology.deleteUnusedQueueForgets name
  | deleteBinding binding => exact ⟨_, topology.deleteBindingForgets binding⟩
  | deleteConsumer tag => exact topology.deleteConsumerForgets tag
  | updateTag old new => exact ⟨_, topology.updateTagForgets old new⟩

structure Distinct (topology : Topology) : Prop where
  queues : topology.queues.keys.Nodup
  consumers : topology.consumers.keys.Nodup
  queueAliases : topology.queueAliases.names.Nodup
  tagAliases : topology.tagAliases.names.Nodup

namespace Distinct

theorem empty : Distinct {} := ⟨List.nodup_nil, List.nodup_nil, List.nodup_nil, List.nodup_nil⟩

theorem unbinds (distinct : Distinct topology) (unbinds : Unbinds topology next) : Distinct next := by
  obtain ⟨_, _, rfl, _⟩ := unbinds
  exact ⟨distinct.queues, distinct.consumers, distinct.queueAliases, distinct.tagAliases⟩

theorem withoutQueue (distinct : Distinct topology) (name : String) : Distinct (topology.withoutQueue name) :=
  ⟨distinct.queues.sublist (List.filter_sublist.map _), distinct.consumers.sublist (List.filter_sublist.map _),
    distinct.queueAliases.sublist (List.filter_sublist.map _), distinct.tagAliases⟩

theorem deleteQueue (distinct : Distinct topology) (name : String) : Distinct (topology.deleteQueue name).2 :=
  (distinct.withoutQueue _).unbinds (topology.deleteQueueUnbinds name)

theorem deleteUnusedQueue (distinct : Distinct topology) (name : String) :
    Distinct (topology.deleteUnusedQueue name).2 := by
  rw [deleteUnusedQueueEither]
  split
  · exact distinct.deleteQueue _
  · exact distinct

theorem withoutConsumer (distinct : Distinct topology) (tag : String) : Distinct (topology.withoutConsumer tag) :=
  ⟨distinct.queues, distinct.consumers.sublist (List.filter_sublist.map _), distinct.queueAliases,
    distinct.tagAliases.sublist (List.filter_sublist.map _)⟩

theorem deleteConsumer (distinct : Distinct topology) (tag : String) : Distinct (topology.deleteConsumer tag).2 := by
  rw [deleteConsumerEither]
  split
  · exact distinct
  · exact (distinct.withoutConsumer _).deleteUnusedQueue _

theorem renameQueue (distinct : Distinct topology) (old new : String) : Distinct (topology.renameQueue old new) := by
  by_cases moves : old ∈ topology.queues.keys ∧ new ≠ old
  · refine ⟨?_, ?_, ?_, ?_⟩
    · rw [renameQueueQueues]
      exact Catalog.movedNodup distinct.queues old new
    · rw [renameQueueConsumerKeys]
      exact distinct.consumers
    · rw [renameQueueAliases moves.1, if_neg moves.2.symm]
      exact (Aliases.redirectNames distinct.queueAliases old new).1
    · rw [renameQueueTagAliases]
      exact distinct.tagAliases
  · rw [renameQueueNothing moves]
    exact distinct

theorem updateTag (distinct : Distinct topology) (old new : String) : Distinct (topology.updateTag old new) := by
  by_cases moves : old ∈ topology.consumers.keys ∧ new ≠ old
  · have consumers : (topology.updateTag old new).consumers.keys.Nodup := by
      rw [updateTagConsumers]
      exact Catalog.movedNodup distinct.consumers old new
    have aliases : (topology.updateTag old new).tagAliases.names.Nodup := by
      rw [updateTagAliases moves.1, if_neg moves.2.symm]
      exact (Aliases.redirectNames distinct.tagAliases old new).1
    obtain ⟨_, _, same⟩ := topology.updateTagElse old new
    rw [same] at consumers aliases ⊢
    exact ⟨distinct.queues, consumers, distinct.queueAliases, aliases⟩
  · rw [updateTagNothing moves]
    exact distinct

theorem perform (distinct : Distinct topology) (operation : Operation) : Distinct (topology.perform operation) := by
  cases operation with
  | recordExchange exchange => exact ⟨distinct.queues, distinct.consumers, distinct.queueAliases, distinct.tagAliases⟩
  | recordQueue queue =>
    exact ⟨Catalog.recordNodup distinct.queues queue, distinct.consumers, distinct.queueAliases, distinct.tagAliases⟩
  | recordBinding binding =>
    obtain ⟨bindings, same⟩ := topology.recordBindingElse binding
    rw [Topology.perform, same]
    exact ⟨distinct.queues, distinct.consumers, distinct.queueAliases, distinct.tagAliases⟩
  | recordConsumer consumer =>
    exact ⟨distinct.queues, Catalog.recordNodup distinct.consumers consumer, distinct.queueAliases, distinct.tagAliases⟩
  | deleteExchange name => exact distinct.unbinds (topology.deleteExchangeUnbinds name)
  | deleteUnusedExchange name => exact distinct.unbinds (topology.deleteUnusedExchangeUnbinds name)
  | deleteQueue name => exact distinct.deleteQueue name
  | deleteUnusedQueue name => exact distinct.deleteUnusedQueue name
  | deleteBinding binding => exact distinct.unbinds (topology.deleteBindingUnbinds binding)
  | deleteConsumer tag => exact distinct.deleteConsumer tag
  | renameQueue old new => exact distinct.renameQueue old new
  | updateTag old new => exact distinct.updateTag old new

theorem run (operations : List Operation) : Distinct (run operations) := by
  refine List.foldlRecOn (motive := fun next : Topology => Distinct next) _ _ empty ?_
  intro next distinct operation _
  exact distinct.perform operation

end Distinct

end AmqpClient.Topology
