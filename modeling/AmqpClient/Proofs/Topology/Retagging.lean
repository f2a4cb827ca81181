import AmqpClient.Proofs.Topology.Moving
import AmqpClient.Proofs.Topology.Forgetting

/-! Consumers under new tags, one after the other. Of a topology this changes the consumers and what leads to
them, and nothing else. -/
namespace AmqpClient

instance : Movable RecordedConsumer where
  under tag consumer := { consumer with tag }
  keyUnder _ _ := rfl
  underOwn _ := rfl
  underTwice _ _ _ := rfl

namespace Topology

theorem updateTagConsumers (topology : Topology) (old new : String) :
    (topology.updateTag old new).consumers = topology.consumers.moved old new := by
  unfold updateTag Catalog.moved
  split
  · rfl
  · cases topology.consumers.find? old <;> rfl

theorem updateTagElse (topology : Topology) (old new : String) :
    ∃ consumers tagAliases, topology.updateTag old new = { topology with consumers, tagAliases } := by
  unfold updateTag
  split
  · exact ⟨topology.consumers, topology.tagAliases, rfl⟩
  · cases topology.consumers.find? old with
    | none => exact ⟨topology.consumers, topology.tagAliases, rfl⟩
    | some consumer => exact ⟨_, _, rfl⟩

def updateAllTags (topology : Topology) (pairs : List (String × String)) : Topology :=
  pairs.foldl (fun topology pair => topology.updateTag pair.1 pair.2) topology

theorem updateAllTagsConsumers (topology : Topology) (pairs : List (String × String)) :
    (topology.updateAllTags pairs).consumers = topology.consumers.movedAll pairs :=
  (List.foldl_hom Topology.consumers fun topology pair => (updateTagConsumers topology pair.1 pair.2).symm).symm

theorem updateAllTagsElse (topology : Topology) (pairs : List (String × String)) :
    ∃ consumers tagAliases, topology.updateAllTags pairs = { topology with consumers, tagAliases } := by
  refine List.foldlRecOn (motive := fun next : Topology =>
    ∃ consumers tagAliases, next = { topology with consumers, tagAliases }) _ _
    ⟨topology.consumers, topology.tagAliases, rfl⟩ ?_
  rintro next ⟨consumers, tagAliases, rfl⟩ pair _
  exact updateTagElse _ pair.1 pair.2

theorem updateAllTagsForgets (topology : Topology) (pairs : List (String × String)) :
    Forgets [] topology (topology.updateAllTags pairs) := by
  refine List.foldlRecOn (motive := fun next : Topology => Forgets [] topology next) _ _ (.refl topology) ?_
  intro next forgets pair _
  exact forgets.trans (updateTagForgets next pair.1 pair.2)

end Topology

end AmqpClient
