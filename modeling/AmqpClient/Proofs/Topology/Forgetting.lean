import AmqpClient.Topology
import AmqpClient.Proofs.Topology.Catalog
import Mathlib.Data.List.Basic

/-! What forgetting leaves of a topology. Queues that stay keep their order, names lead to a queue for as long
as it is recorded, and bindings and consumers only become fewer. -/
namespace AmqpClient.Topology

structure Forgets (gone : List String) (topology next : Topology) : Prop where
  queues : next.queues.items = topology.queues.items.filter fun queue => !gone.contains queue.name
  aliases : next.queueAliases.pairs = topology.queueAliases.pairs.filter fun pair => !gone.contains pair.2
  bindings : next.bindings.Sublist topology.bindings
  consumers : next.consumers.items.map RecordedConsumer.queue ⊆ topology.consumers.items.map RecordedConsumer.queue

namespace Forgets

variable {gone more : List String} {topology middle next : Topology}

theorem none (queues : next.queues = topology.queues) (aliases : next.queueAliases = topology.queueAliases)
    (bindings : next.bindings.Sublist topology.bindings)
    (consumers : next.consumers.items.map RecordedConsumer.queue
      ⊆ topology.consumers.items.map RecordedConsumer.queue) : Forgets [] topology next :=
  ⟨by simp [queues], by simp [aliases], bindings, consumers⟩

theorem refl (topology : Topology) : Forgets [] topology topology :=
  .none rfl rfl (List.Sublist.refl _) (List.Subset.refl _)

theorem trans (one : Forgets gone topology middle) (two : Forgets more middle next) :
    Forgets (gone ++ more) topology next where
  queues := by
    rw [two.queues, one.queues, List.filter_filter]
    exact List.filter_congr fun queue _ => by simp [Bool.and_comm]
  aliases := by
    rw [two.aliases, one.aliases, List.filter_filter]
    exact List.filter_congr fun pair _ => by simp [Bool.and_comm]
  bindings := two.bindings.trans one.bindings
  consumers := List.Subset.trans two.consumers one.consumers

theorem sublist (forgets : Forgets gone topology next) : next.queues.items.Sublist topology.queues.items :=
  forgets.queues ▸ List.filter_sublist

end Forgets

def Unbinds (topology next : Topology) : Prop :=
  ∃ exchanges bindings, next = { topology with exchanges, bindings } ∧ bindings.Sublist topology.bindings

namespace Unbinds

variable {topology middle next : Topology}

theorem refl (topology : Topology) : Unbinds topology topology :=
  ⟨topology.exchanges, topology.bindings, rfl, List.Sublist.refl _⟩

theorem trans (one : Unbinds topology middle) (two : Unbinds middle next) : Unbinds topology next := by
  obtain ⟨_, _, rfl, fewer⟩ := one
  obtain ⟨exchanges, bindings, rfl, fewest⟩ := two
  exact ⟨exchanges, bindings, rfl, fewest.trans fewer⟩

theorem forgets (unbinds : Unbinds topology next) : Forgets [] topology next := by
  obtain ⟨_, _, rfl, fewer⟩ := unbinds
  exact .none rfl rfl fewer (List.Subset.refl _)

end Unbinds

theorem dropExchangeWithinUnbinds (fuel : Nat) (name : String) (topology : Topology) :
    Unbinds topology (dropExchangeWithin fuel name topology) := by
  induction fuel generalizing name topology with
  | zero => exact .refl topology
  | succ fuel ih =>
    unfold dropExchangeWithin
    refine List.foldlRecOn (motive := fun next : Topology => Unbinds topology next) _ _ ?_ ?_
    · exact ⟨_, _, rfl, List.filter_sublist⟩
    · intro next unbinds binding _
      split
      · exact unbinds.trans (ih binding.source next)
      · exact unbinds

theorem dropUnusedExchangesUnbinds (names : List String) (topology : Topology) :
    Unbinds topology (topology.dropUnusedExchanges names) := by
  refine List.foldlRecOn (motive := fun next : Topology => Unbinds topology next) _ _ (.refl topology) ?_
  intro next unbinds name _
  split
  · exact unbinds.trans (dropExchangeWithinUnbinds _ name next)
  · exact unbinds

theorem deleteExchangeUnbinds (topology : Topology) (name : String) :
    Unbinds topology (topology.deleteExchange name).2 := dropExchangeWithinUnbinds _ name topology

theorem deleteUnusedExchangeUnbinds (topology : Topology) (name : String) :
    Unbinds topology (topology.deleteUnusedExchange name).2 := by
  unfold deleteUnusedExchange
  split
  · exact dropExchangeWithinUnbinds _ name topology
  · exact .refl topology

theorem deleteBindingUnbinds (topology : Topology) (binding : RecordedBinding) :
    Unbinds topology (topology.deleteBinding binding).2 := by
  unfold deleteBinding
  dsimp only
  split
  · exact .refl topology
  · have fewer : Unbinds topology
        { topology with bindings := topology.bindings.filter fun known => !(known.same binding) } :=
      ⟨_, _, rfl, List.filter_sublist⟩
    exact fewer.trans (deleteUnusedExchangeUnbinds _ binding.source)

theorem deleteExchangeForgets (topology : Topology) (name : String) :
    Forgets [] topology (topology.deleteExchange name).2 := (deleteExchangeUnbinds topology name).forgets

theorem deleteBindingForgets (topology : Topology) (binding : RecordedBinding) :
    Forgets [] topology (topology.deleteBinding binding).2 := (deleteBindingUnbinds topology binding).forgets

def withoutQueue (topology : Topology) (name : String) : Topology :=
  { topology with
    queues := topology.queues.erase name
    bindings := topology.bindings.filter fun binding => !(binding.leadsTo .queue name)
    consumers := ⟨topology.consumers.items.filter fun consumer => consumer.queue != name⟩
    queueAliases := topology.queueAliases.forget name }

theorem deleteQueueUnbinds (topology : Topology) (name : String) :
    Unbinds (topology.withoutQueue (topology.resolveQueue name)) (topology.deleteQueue name).2 :=
  dropUnusedExchangesUnbinds _ _

theorem deleteQueueForgets (topology : Topology) (name : String) :
    Forgets [topology.resolveQueue name] topology (topology.deleteQueue name).2 := by
  have gone : Forgets [topology.resolveQueue name] topology
      (topology.withoutQueue (topology.resolveQueue name)) := by
    refine ⟨?_, ?_, List.filter_sublist, List.map_subset _ (List.filter_subset_self _)⟩
    · exact List.filter_congr fun queue _ => by simp [Keyed.key, bne, beq_eq_decide]
    · exact List.filter_congr fun pair _ => by simp [bne, beq_eq_decide]
  exact gone.trans (deleteQueueUnbinds topology name).forgets

theorem deleteUnusedQueueEither (topology : Topology) (name : String) :
    topology.deleteUnusedQueue name =
      if topology.isUnusedQueue (topology.resolveQueue name) then
        (true, (topology.deleteQueue (topology.resolveQueue name)).2)
      else (false, topology) := rfl

theorem deleteUnusedQueueForgets (topology : Topology) (name : String) :
    ∃ gone, Forgets gone topology (topology.deleteUnusedQueue name).2 := by
  rw [deleteUnusedQueueEither]
  split
  · exact ⟨_, deleteQueueForgets topology _⟩
  · exact ⟨[], .refl topology⟩

def withoutConsumer (topology : Topology) (tag : String) : Topology :=
  { topology with
    consumers := topology.consumers.erase tag
    tagAliases := topology.tagAliases.forget tag }

theorem deleteConsumerEither (topology : Topology) (tag : String) :
    topology.deleteConsumer tag = match topology.consumer? tag with
      | none => (none, topology)
      | some consumer =>
        (some consumer, ((topology.withoutConsumer (topology.resolveTag tag)).deleteUnusedQueue consumer.queue).2) :=
  rfl

theorem withoutConsumerForgets (topology : Topology) (tag : String) :
    Forgets [] topology (topology.withoutConsumer tag) :=
  .none rfl rfl (List.Sublist.refl _) (List.map_subset _ (Catalog.eraseSublist _ _).subset)

theorem deleteConsumerForgets (topology : Topology) (tag : String) :
    ∃ gone, Forgets gone topology (topology.deleteConsumer tag).2 := by
  rw [deleteConsumerEither]
  split
  · exact ⟨[], .refl topology⟩
  · rename_i consumer _
    obtain ⟨gone, forgets⟩ := deleteUnusedQueueForgets _ consumer.queue
    exact ⟨gone, (topology.withoutConsumerForgets _).trans forgets⟩

theorem updateTagForgets (topology : Topology) (old new : String) :
    Forgets [] topology (topology.updateTag old new) := by
  unfold updateTag
  split
  · exact .refl topology
  · split
    · exact .refl topology
    · rename_i consumer found
      refine .none rfl rfl (List.Sublist.refl _) fun name member => ?_
      obtain ⟨other, inside, rfl⟩ := List.mem_map.mp member
      obtain ⟨here, _⟩ := Catalog.findSome found
      rcases Catalog.supersedeItem inside with rfl | before
      · exact List.mem_map.mpr ⟨consumer, here, rfl⟩
      · exact List.mem_map_of_mem before

theorem recordBindingElse (topology : Topology) (binding : RecordedBinding) :
    ∃ bindings, topology.recordBinding binding = { topology with bindings } := by
  unfold recordBinding
  split
  · exact ⟨topology.bindings, rfl⟩
  · exact ⟨_, rfl⟩

end AmqpClient.Topology
