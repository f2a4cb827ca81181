import AmqpClient.Topology
import AmqpClient.Proofs.Topology.Moving

/-! Renaming queues. Under a name that no queue is recorded under, a renamed queue keeps its place, and its
bindings and consumers follow it; nothing else changes. -/
namespace AmqpClient

namespace RecordedQueue

def renamed (newName : String → String) (queue : RecordedQueue) : RecordedQueue :=
  { queue with name := newName queue.name }

end RecordedQueue

namespace RecordedBinding

def renamed (newName : String → String) (binding : RecordedBinding) : RecordedBinding :=
  match binding.kind with
  | .queue => { binding with destination := newName binding.destination }
  | .exchange => binding

end RecordedBinding

namespace RecordedConsumer

def renamed (newName : String → String) (consumer : RecordedConsumer) : RecordedConsumer :=
  { consumer with queue := newName consumer.queue }

end RecordedConsumer

instance : Movable RecordedQueue where
  under name queue := { queue with name }
  keyUnder _ _ := rfl
  underOwn _ := rfl
  underTwice _ _ _ := rfl

namespace Topology

structure Renamed (newName : String → String) (topology next : Topology) : Prop where
  exchanges : next.exchanges = topology.exchanges
  queues : next.queues.items = topology.queues.items.map (RecordedQueue.renamed newName)
  bindings : next.bindings = topology.bindings.map (RecordedBinding.renamed newName)
  consumers : next.consumers.items = topology.consumers.items.map (RecordedConsumer.renamed newName)

theorem bindingRenamedTwice (first second : String → String) (binding : RecordedBinding) :
    (binding.renamed first).renamed second = binding.renamed fun name => second (first name) := by
  obtain ⟨kind, source, destination, routingKey, arguments⟩ := binding
  cases kind <;> rfl

theorem bindingUnchanged (binding : RecordedBinding) : (binding.renamed fun name => name) = binding := by
  obtain ⟨kind, source, destination, routingKey, arguments⟩ := binding
  cases kind <;> rfl

theorem Renamed.refl (topology : Topology) : Renamed (fun name => name) topology topology where
  exchanges := rfl
  queues := (List.map_id' _).symm
  bindings := by
    conv_lhs => rw [← List.map_id topology.bindings]
    exact List.map_congr_left fun binding _ => (bindingUnchanged binding).symm
  consumers := (List.map_id' _).symm

theorem Renamed.trans {first second : String → String} {topology middle next : Topology}
    (one : Renamed first topology middle) (two : Renamed second middle next) :
    Renamed (fun name => second (first name)) topology next where
  exchanges := two.exchanges.trans one.exchanges
  queues := by
    rw [two.queues, one.queues, List.map_map]
    rfl
  bindings := by
    rw [two.bindings, one.bindings, List.map_map]
    exact List.map_congr_left fun binding _ => bindingRenamedTwice first second binding
  consumers := by
    rw [two.consumers, one.consumers, List.map_map]
    rfl

theorem Renamed.queueKeys {newName : String → String} {topology next : Topology}
    (renamed : Renamed newName topology next) : next.queues.keys = topology.queues.keys.map newName := by
  simp only [Catalog.keys, renamed.queues, List.map_map]
  rfl

theorem renameQueueQueues (topology : Topology) (old new : String) :
    (topology.renameQueue old new).queues = topology.queues.moved old new := by
  unfold renameQueue Catalog.moved
  split
  · rfl
  · cases topology.queues.find? old <;> rfl

theorem renameQueueRenamed {topology : Topology} {old new : String} (distinct : topology.queues.keys.Nodup)
    (known : old ∈ topology.queues.keys) (fresh : new ≠ old → new ∉ topology.queues.keys) :
    Renamed (replacing old new) topology (topology.renameQueue old new) := by
  by_cases same : old = new
  · subst same
    have unchanged : topology.renameQueue old old = topology := by simp [renameQueue]
    have nothing : replacing old old = fun name => name := funext (replacingSame old)
    rw [unchanged, nothing]
    exact .refl topology
  · obtain ⟨queue, found⟩ := Catalog.findKnown known
    have queues := Catalog.movedItems distinct known fresh
    rw [← renameQueueQueues] at queues
    refine ⟨?_, queues, ?_, ?_⟩ <;> simp only [renameQueue, beq_iff_eq, if_neg same, found]
    · refine List.map_congr_left fun binding _ => ?_
      obtain ⟨kind, source, destination, routingKey, arguments⟩ := binding
      cases kind with
      | queue => by_cases led : destination = old <;>
          simp [RecordedBinding.leadsTo, RecordedBinding.renamed, replacing, led]
      | exchange => simp [RecordedBinding.leadsTo, RecordedBinding.renamed]
    · refine List.map_congr_left fun consumer _ => ?_
      by_cases its : consumer.queue = old <;> simp [RecordedConsumer.renamed, replacing, its]

def renameAll (topology : Topology) (pairs : List (String × String)) : Topology :=
  pairs.foldl (fun topology pair => topology.renameQueue pair.1 pair.2) topology

theorem renameAllQueues (topology : Topology) (pairs : List (String × String)) :
    (topology.renameAll pairs).queues = topology.queues.movedAll pairs :=
  (List.foldl_hom Topology.queues fun topology pair => (renameQueueQueues topology pair.1 pair.2).symm).symm

theorem renameQueueAliases {topology : Topology} {old : String} (known : old ∈ topology.queues.keys) (new : String) :
    (topology.renameQueue old new).queueAliases
      = if old = new then topology.queueAliases else topology.queueAliases.redirect old new := by
  obtain ⟨queue, found⟩ := Catalog.findKnown known
  by_cases same : old = new <;> simp [renameQueue, same, found]

theorem renameQueueTagAliases (topology : Topology) (old new : String) :
    (topology.renameQueue old new).tagAliases = topology.tagAliases := by
  unfold renameQueue
  split
  · rfl
  · split <;> rfl

theorem renameQueueConsumers (topology : Topology) (old new : String) :
    ∃ follow, (topology.renameQueue old new).consumers.items
      = topology.consumers.items.map (RecordedConsumer.renamed follow) := by
  unfold renameQueue
  split
  · exact ⟨id, (List.map_id' _).symm⟩
  · split
    · exact ⟨id, (List.map_id' _).symm⟩
    · refine ⟨replacing old new, List.map_congr_left fun consumer _ => ?_⟩
      by_cases its : consumer.queue = old <;> simp [its, RecordedConsumer.renamed, replacing]

theorem renameAllConsumers (topology : Topology) (pairs : List (String × String)) :
    ∃ follow, (topology.renameAll pairs).consumers.items
      = topology.consumers.items.map (RecordedConsumer.renamed follow) := by
  refine List.foldlRecOn (motive := fun next : Topology => ∃ follow, next.consumers.items
    = topology.consumers.items.map (RecordedConsumer.renamed follow)) _ _ ⟨id, (List.map_id' _).symm⟩ ?_
  rintro next ⟨first, before⟩ pair _
  obtain ⟨second, after⟩ := next.renameQueueConsumers pair.1 pair.2
  refine ⟨fun name => second (first name), ?_⟩
  rw [after, before, List.map_map]
  rfl

theorem renameAllConsumerKeys (topology : Topology) (pairs : List (String × String)) :
    (topology.renameAll pairs).consumers.keys = topology.consumers.keys := by
  obtain ⟨follow, items⟩ := topology.renameAllConsumers pairs
  rw [Catalog.keys, items, List.map_map]
  rfl

theorem renameQueueConsumerKeys (topology : Topology) (old new : String) :
    (topology.renameQueue old new).consumers.keys = topology.consumers.keys :=
  topology.renameAllConsumerKeys [(old, new)]

theorem renameAllRenamed {topology : Topology} {pairs : List (String × String)}
    (separable : topology.queues.Separable pairs) : Renamed (newName pairs) topology (topology.renameAll pairs) := by
  induction pairs generalizing topology with
  | nil => exact .refl topology
  | cons pair rest ih =>
    obtain ⟨old, new⟩ := pair
    have next := separable.next
    rw [← renameQueueQueues] at next
    have both := (renameQueueRenamed separable.distinct separable.known separable.fresh).trans (ih next)
    rwa [newNameAfter separable.settled] at both

theorem renameQueueKeys {topology : Topology} (distinct : topology.queues.keys.Nodup) (old new : String) :
    (topology.renameQueue old new).queues.keys.Nodup ∧
      ∀ name ∈ (topology.renameQueue old new).queues.keys, name = new ∨ name ∈ topology.queues.keys := by
  unfold renameQueue
  split
  · exact ⟨distinct, fun name member => .inr member⟩
  · split
    · exact ⟨distinct, fun name member => .inr member⟩
    · rename_i queue _
      exact ⟨Catalog.supersedeNodup distinct old { queue with name := new }, fun _ => Catalog.supersedeKey⟩

/- Every new name is the old one, or else none of those known by then. -/
def Unheard : List String → List (String × String) → Prop
  | _, [] => True
  | known, (old, new) :: rest => (new ≠ old → new ∉ known) ∧ Unheard (known ++ [new]) rest

namespace Unheard

variable {known : List String} {pairs : List (String × String)}

theorem apart (unheard : Unheard known pairs) {old new : String} (member : (old, new) ∈ pairs)
    (different : new ≠ old) : new ∉ known := by
  induction pairs generalizing known with
  | nil => exact absurd member List.not_mem_nil
  | cons pair rest ih =>
    obtain ⟨fresh, unheard⟩ := unheard
    rcases List.mem_cons.mp member with rfl | later
    · exact fresh different
    · exact fun before => ih unheard later (List.mem_append_left _ before)

theorem pairwise (unheard : Unheard known pairs) (once : (pairs.map Prod.fst).Nodup)
    (within : pairs.map Prod.fst ⊆ known) : Apart pairs := by
  induction pairs generalizing known with
  | nil => exact .nil
  | cons pair rest ih =>
    obtain ⟨old, new⟩ := pair
    obtain ⟨fresh, unheard⟩ := unheard
    obtain ⟨absent, once⟩ := List.nodup_cons.mp once
    have rest_within : rest.map Prod.fst ⊆ known := List.Subset.trans (List.subset_cons_self ..) within
    have free (pair : String × String) (member : pair ∈ rest) : new ≠ pair.1 := by
      intro same
      have listed : new ∈ rest.map Prod.fst := same ▸ List.mem_map_of_mem member
      by_cases kept : new = old
      · exact absent (kept ▸ listed)
      · exact fresh kept (rest_within listed)
    refine List.pairwise_cons.mpr ⟨fun pair member => ⟨free pair member, fun same : new = pair.2 => ?_⟩,
      ih unheard once (List.Subset.trans rest_within (List.subset_append_left ..))⟩
    by_cases kept : pair.2 = pair.1
    · exact free pair member (same.trans kept)
    · exact unheard.apart member kept (List.mem_append_right _ (List.mem_singleton.mpr same.symm))

theorem separable {α : Type} [Keyed α] {catalog : Catalog α} (unheard : Unheard known pairs)
    (listed : catalog.Listed pairs) (within : catalog.keys ⊆ known) : catalog.Separable pairs := by
  refine ⟨listed, unheard.pairwise listed.once (List.Subset.trans listed.recorded within), fun name member => ?_⟩
  refine or_iff_not_imp_left.mpr fun unlisted pair inside same => ?_
  by_cases kept : pair.2 = pair.1
  · exact unlisted (same.symm.trans kept ▸ List.mem_map_of_mem inside)
  · exact unheard.apart inside kept (same ▸ within member)

end Unheard

end Topology

end AmqpClient
