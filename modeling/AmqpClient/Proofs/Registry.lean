import AmqpClient.Channel.Listeners
import Mathlib.Data.List.Nodup

/-! Registries hand out each id once, and who is registered stays so until it is removed. -/
namespace AmqpClient

namespace Registry

structure Fresh {α : Type} (registry : Registry α) : Prop where
  distinct : registry.ids.Nodup
  below : ∀ id ∈ registry.ids, id < registry.next

variable {α : Type} {registry : Registry α}

theorem emptyFresh : ({} : Registry α).Fresh := ⟨List.nodup_nil, List.forall_mem_nil _⟩

theorem addIds (registry : Registry α) (listener : α) :
    (registry.add listener).2.ids = registry.ids ++ [registry.next] := by
  simp [add, ids]

theorem Fresh.add (fresh : registry.Fresh) (listener : α) : (registry.add listener).2.Fresh := by
  have next : (registry.add listener).2.next = registry.next + 1 := rfl
  constructor
  · rw [addIds]
    refine List.nodup_append'.mpr ⟨fresh.distinct, List.nodup_singleton _, ?_⟩
    intro id member same
    obtain rfl := List.mem_singleton.mp same
    exact absurd (fresh.below _ member) (Nat.lt_irrefl _)
  · rw [addIds, next]
    refine List.forall_mem_append.mpr ⟨fun id member => ?_, List.forall_mem_singleton.mpr (Nat.lt_succ_self _)⟩
    exact Nat.lt_succ_of_lt (fresh.below id member)

theorem Fresh.remove (fresh : registry.Fresh) (id : ListenerId) : (registry.remove id).2.Fresh := by
  have fewer : (registry.remove id).2.ids.Sublist registry.ids := List.filter_sublist.map _
  exact ⟨fresh.distinct.sublist fewer, fun other member => fresh.below other (fewer.subset member)⟩

theorem addKeeps (registry : Registry α) (listener : α) {entry : ListenerId × α} (member : entry ∈ registry.entries) :
    entry ∈ (registry.add listener).2.entries := List.mem_append_left _ member

theorem removeKeeps {id : ListenerId} {entry : ListenerId × α} (member : entry ∈ registry.entries)
    (other : entry.1 ≠ id) : entry ∈ (registry.remove id).2.entries :=
  List.mem_filter.mpr ⟨member, by simpa using other⟩

structure InTurn {α : Type} (registry : Registry α) : Prop where
  rising : registry.ids.Pairwise (· < ·)
  below : ∀ id ∈ registry.ids, id < registry.next

theorem emptyInTurn : ({} : Registry α).InTurn := ⟨List.Pairwise.nil, List.forall_mem_nil _⟩

theorem InTurn.fresh (inTurn : registry.InTurn) : registry.Fresh :=
  ⟨inTurn.rising.imp fun lower => Nat.ne_of_lt lower, inTurn.below⟩

theorem InTurn.add (inTurn : registry.InTurn) (listener : α) : (registry.add listener).2.InTurn := by
  refine ⟨?_, (inTurn.fresh.add listener).below⟩
  rw [addIds]
  refine List.pairwise_append.mpr ⟨inTurn.rising, List.pairwise_singleton .., fun id member next last => ?_⟩
  exact List.mem_singleton.mp last ▸ inTurn.below id member

theorem InTurn.remove (inTurn : registry.InTurn) (id : ListenerId) : (registry.remove id).2.InTurn :=
  ⟨inTurn.rising.sublist (List.filter_sublist.map _), (inTurn.fresh.remove id).below⟩

end Registry

namespace ChannelListeners

variable {α : Type}

theorem addOf (listeners : ChannelListeners α) (kind other : EventKind) (listener : α) :
    (listeners.add kind listener).2.of other
      = if kind = other then ((listeners.of other).add listener).2 else listeners.of other := by
  cases kind <;> cases other <;> rfl

theorem removeOf (listeners : ChannelListeners α) (kind other : EventKind) (id : ListenerId) :
    (listeners.remove kind id).2.of other
      = if kind = other then ((listeners.of other).remove id).2 else listeners.of other := by
  cases kind <;> cases other <;> rfl

def InTurn (listeners : ChannelListeners α) : Prop := ∀ kind, (listeners.of kind).InTurn

theorem emptyInTurn : ({} : ChannelListeners α).InTurn := fun kind => by
  cases kind <;> exact Registry.emptyInTurn

theorem InTurn.add {listeners : ChannelListeners α} (inTurn : listeners.InTurn) (kind : EventKind) (listener : α) :
    (listeners.add kind listener).2.InTurn := by
  intro other
  rw [addOf]
  split
  · exact (inTurn other).add listener
  · exact inTurn other

theorem InTurn.remove {listeners : ChannelListeners α} (inTurn : listeners.InTurn) (kind : EventKind)
    (id : ListenerId) : (listeners.remove kind id).2.InTurn := by
  intro other
  rw [removeOf]
  split
  · exact (inTurn other).remove id
  · exact inTurn other

end ChannelListeners

end AmqpClient
