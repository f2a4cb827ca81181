import AmqpClient.Proofs.Topology.Aliases
import AmqpClient.Proofs.Topology.Retagging

/-! Keys in use beside the earlier names that lead to them. A key in use never counts as an earlier name of
another, as long as whoever comes new takes a name that was not used before, or one that leads nowhere else. -/
namespace AmqpClient

/- Keys in use, each found under its own name. They and all earlier names were used before. -/
structure Addressed (used : List String) (aliases : Aliases) (keys : List String) : Prop where
  distinct : keys.Nodup
  once : aliases.names.Nodup
  own : ∀ key ∈ keys, aliases.resolve key = key
  twice : ∀ name, aliases.resolve (aliases.resolve name) = aliases.resolve name
  retired : aliases.names ⊆ used
  given : keys ⊆ used

namespace Addressed

variable {used more keys fewer : List String} {aliases : Aliases} {name current old new : String}

theorem empty : Addressed used {} [] where
  distinct := List.nodup_nil
  once := List.nodup_nil
  own := List.forall_mem_nil _
  twice := fun _ => rfl
  retired := List.nil_subset _
  given := List.nil_subset _

theorem grow (addressed : Addressed used aliases keys) (within : used ⊆ more) : Addressed more aliases keys where
  distinct := addressed.distinct
  once := addressed.once
  own := addressed.own
  twice := addressed.twice
  retired := List.Subset.trans addressed.retired within
  given := List.Subset.trans addressed.given within

theorem sublist (addressed : Addressed used aliases keys) (sublist : fewer.Sublist keys) :
    Addressed used aliases fewer where
  distinct := addressed.distinct.sublist sublist
  once := addressed.once
  own := fun key member => addressed.own key (sublist.subset member)
  twice := addressed.twice
  retired := addressed.retired
  given := List.Subset.trans sublist.subset addressed.given

theorem unused (addressed : Addressed used aliases keys) (fresh : name ∉ used) : aliases.resolve name = name :=
  Aliases.resolveUnknown fun retired => fresh (addressed.retired retired)

theorem recorded {α : Type} [Keyed α] {catalog : Catalog α} (addressed : Addressed used aliases catalog.keys) (item : α)
    (itself : aliases.resolve (Keyed.key item) = Keyed.key item) (within : used ⊆ more)
    (inside : Keyed.key item ∈ more) : Addressed more aliases (catalog.record item).keys where
  distinct := Catalog.recordNodup addressed.distinct item
  once := addressed.once
  own := fun key member => (Catalog.recordMember.mp member).elim (fun same => same ▸ itself) (addressed.own key)
  twice := addressed.twice
  retired := List.Subset.trans addressed.retired within
  given := fun _ member => (Catalog.recordMember.mp member).elim (fun same => same ▸ inside)
    fun before => within (addressed.given before)

theorem forgotten (addressed : Addressed used aliases keys) (current : String) (sublist : fewer.Sublist keys) :
    Addressed used (aliases.forget current) fewer := by
  have resolve := Aliases.forgetResolve addressed.once current
  have kept : (aliases.forget current).names.Sublist aliases.names := List.filter_sublist.map _
  refine ⟨addressed.distinct.sublist sublist, addressed.once.sublist kept, fun key member => ?_, fun name => ?_,
    List.Subset.trans kept.subset addressed.retired, List.Subset.trans sublist.subset addressed.given⟩
  · rw [resolve, addressed.own key (sublist.subset member), ite_self]
  · rw [resolve name]
    split
    · rename_i goes
      rw [resolve, if_pos goes]
    · rename_i stays
      rw [resolve, addressed.twice, if_neg stays]

theorem redirected (addressed : Addressed used aliases keys) (known : old ∈ keys) (fresh : new ∉ used) :
    Addressed (used ++ [new]) (aliases.redirect old new) (keys.map (replacing old new)) := by
  have itself := addressed.own old known
  have other : new ≠ old := fun same => fresh (same ▸ addressed.given known)
  have resolve := aliases.redirectResolve old new
  have settled : (aliases.redirect old new).resolve new = new := by
    rw [resolve, if_neg other, addressed.unused fresh, replacing, if_neg other]
  obtain ⟨once, names⟩ := Aliases.redirectNames addressed.once old new
  refine ⟨addressed.distinct.map_on ?_, once, fun key member => ?_, fun name => ?_, ?_, fun key member => ?_⟩
  · intro one first two second same
    unfold replacing at same
    split at same <;> split at same
    · rename_i left right
      exact left.trans right.symm
    · exact absurd (addressed.given (same ▸ second)) fresh
    · exact absurd (addressed.given (same ▸ first)) fresh
    · exact same
  · obtain ⟨before, inside, rfl⟩ := List.mem_map.mp member
    unfold replacing
    split
    · exact settled
    · rename_i different
      rw [resolve, if_neg different, addressed.own before inside, replacing, if_neg different]
  · rw [resolve name]
    split
    · exact settled
    · unfold replacing
      split
      · exact settled
      · rename_i different
        rw [resolve, if_neg different, addressed.twice, replacing, if_neg different]
  · exact List.Subset.trans names (List.cons_subset.mpr ⟨List.mem_append_left _ (addressed.given known),
      List.Subset.trans addressed.retired (List.subset_append_left ..)⟩)
  · obtain ⟨before, inside, rfl⟩ := List.mem_map.mp member
    unfold replacing
    split
    · exact List.mem_append_right _ (List.mem_singleton_self _)
    · exact List.mem_append_left _ (addressed.given inside)

theorem moved {α : Type} [Keyed α] [Movable α] {catalog : Catalog α} (addressed : Addressed used aliases catalog.keys)
    (known : old ∈ catalog.keys) (fresh : new ≠ old → new ∉ used) :
    Addressed (used ++ [new]) (if old = new then aliases else aliases.redirect old new)
      (catalog.moved old new).keys := by
  rw [Catalog.movedKeys addressed.distinct known fun other member => fresh other (addressed.given member)]
  by_cases same : old = new
  · have nothing : replacing old old = id := funext (replacingSame old)
    rw [if_pos same, ← same, nothing, List.map_id]
    exact addressed.grow (List.subset_append_left ..)
  · rw [if_neg same]
    exact addressed.redirected known (fresh (Ne.symm same))

end Addressed

namespace Topology

structure Settled (names tags : List String) (topology : Topology) : Prop where
  queues : Addressed names topology.queueAliases topology.queues.keys
  consumers : Addressed tags topology.tagAliases topology.consumers.keys

namespace Settled

variable {names tags more : List String} {topology next : Topology} {pairs : List (String × String)}

theorem empty : Settled names tags {} := ⟨.empty, .empty⟩

theorem grow (settled : Settled names tags topology) {moreTags : List String} (within : names ⊆ more)
    (tagsWithin : tags ⊆ moreTags) : Settled more moreTags topology :=
  ⟨settled.queues.grow within, settled.consumers.grow tagsWithin⟩

theorem unbinds (settled : Settled names tags topology) (unbinds : Unbinds topology next) : Settled names tags next := by
  obtain ⟨_, _, rfl, _⟩ := unbinds
  exact ⟨settled.queues, settled.consumers⟩

theorem withoutQueue (settled : Settled names tags topology) (name : String) :
    Settled names tags (topology.withoutQueue name) :=
  ⟨settled.queues.forgotten name (List.filter_sublist.map _), settled.consumers.sublist (List.filter_sublist.map _)⟩

theorem deleteQueue (settled : Settled names tags topology) (name : String) :
    Settled names tags (topology.deleteQueue name).2 :=
  (settled.withoutQueue _).unbinds (topology.deleteQueueUnbinds name)

end Settled

theorem Unbinds.consumers {topology next : Topology} (unbinds : Unbinds topology next) :
    next.consumers = topology.consumers := by
  obtain ⟨_, _, rfl, _⟩ := unbinds
  rfl

theorem Unbinds.tagAliases {topology next : Topology} (unbinds : Unbinds topology next) :
    next.tagAliases = topology.tagAliases := by
  obtain ⟨_, _, rfl, _⟩ := unbinds
  rfl

theorem deleteQueueConsumers (topology : Topology) (name : String) :
    (topology.deleteQueue name).2.consumers.items
      = topology.consumers.items.filter fun consumer => consumer.queue != topology.resolveQueue name :=
  congrArg Catalog.items (topology.deleteQueueUnbinds name).consumers

theorem deleteUnusedQueueConsumers {topology : Topology}
    (own : ∀ key ∈ topology.queues.keys, topology.resolveQueue key = key) (name : String) :
    (topology.deleteUnusedQueue name).2.consumers = topology.consumers := by
  rw [deleteUnusedQueueEither]
  split
  · rename_i unused
    unfold isUnusedQueue at unused
    split at unused
    · rename_i queue found
      obtain ⟨inside, same⟩ := Catalog.findSome found
      have itself := own _ (List.mem_map.mpr ⟨queue, inside, same⟩)
      have items := topology.deleteQueueConsumers (topology.resolveQueue name)
      refine congrArg Catalog.mk (items.trans (List.filter_eq_self.mpr fun consumer member => ?_))
      rw [itself]
      simp only [Bool.and_eq_true, Bool.not_eq_true', List.any_eq_false] at unused
      simpa using unused.2 consumer member
    · cases unused
  · rfl

theorem updateTagAliases {topology : Topology} {old : String} (known : old ∈ topology.consumers.keys) (new : String) :
    (topology.updateTag old new).tagAliases
      = if old = new then topology.tagAliases else topology.tagAliases.redirect old new := by
  obtain ⟨consumer, found⟩ := Catalog.findKnown known
  by_cases same : old = new <;> simp [updateTag, same, found]

namespace Settled

variable {names tags : List String} {topology : Topology} {old new : String}

theorem renameQueue (settled : Settled names tags topology) (known : old ∈ topology.queues.keys)
    (fresh : new ≠ old → new ∉ names) : Settled (names ++ [new]) tags (topology.renameQueue old new) := by
  have moved := settled.queues.moved known fresh
  rw [← renameQueueAliases known, ← renameQueueQueues] at moved
  refine ⟨moved, ?_⟩
  rw [renameQueueTagAliases, renameQueueConsumerKeys]
  exact settled.consumers

theorem renameAll {pairs : List (String × String)} (settled : Settled names tags topology)
    (listed : topology.queues.Listed pairs) (unheard : Unheard names pairs) :
    Settled (names ++ pairs.map Prod.snd) tags (topology.renameAll pairs) := by
  induction pairs generalizing topology names with
  | nil => exact settled.grow (List.subset_append_left ..) (List.Subset.refl _)
  | cons pair rest ih =>
    obtain ⟨fresh, unheard⟩ := unheard
    have next := listed.next fun other member => fresh other (settled.queues.given member)
    rw [← renameQueueQueues] at next
    have all := ih (settled.renameQueue listed.known fresh) next unheard
    rwa [List.append_assoc] at all

theorem updateTag (settled : Settled names tags topology) (known : old ∈ topology.consumers.keys)
    (fresh : new ≠ old → new ∉ tags) : Settled names (tags ++ [new]) (topology.updateTag old new) := by
  have moved := settled.consumers.moved known fresh
  rw [← updateTagAliases known, ← updateTagConsumers] at moved
  refine ⟨?_, moved⟩
  obtain ⟨_, _, same⟩ := topology.updateTagElse old new
  rw [same]
  exact settled.queues

end Settled

theorem deleteConsumerGone {names tags : List String} {topology : Topology} (settled : Settled names tags topology)
    (tag : String) :
    (topology.deleteConsumer tag).1 = topology.consumers.find? (topology.resolveTag tag) ∧
      (topology.deleteConsumer tag).2.consumers = topology.consumers.erase (topology.resolveTag tag) ∧
      Settled names tags (topology.deleteConsumer tag).2 := by
  rw [deleteConsumerEither]
  cases found : topology.consumer? tag with
  | none =>
    refine ⟨found.symm, congrArg Catalog.mk (List.filter_eq_self.mpr fun other member => ?_).symm, settled⟩
    simpa using List.find?_eq_none.mp found other member
  | some consumer =>
    have erased : Settled names tags (topology.withoutConsumer (topology.resolveTag tag)) :=
      ⟨settled.queues, settled.consumers.forgotten _ (List.filter_sublist.map _)⟩
    refine ⟨found.symm, deleteUnusedQueueConsumers erased.queues.own consumer.queue, ?_⟩
    dsimp only
    rw [deleteUnusedQueueEither]
    split
    · exact erased.deleteQueue _
    · exact erased

end Topology

end AmqpClient
