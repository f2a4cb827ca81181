import AmqpClient.Proofs.Topology.Addressing
import AmqpClient.Proofs.Recovery.Reachability

/-! The tags of running consumers beside the consumers on record. Both say the same as long as a tag that is
started anew leads to no other consumer, and those who are abandoned are all that were recorded. -/
namespace AmqpClient

namespace ChannelRecord

/- Consumers are found under their own tags, and the tags that are running are theirs. -/
structure Mirrored (names tags : List String) (record : ChannelRecord) : Prop
    extends record.topology.Settled names tags where
  activeOnce : record.activeTags.Nodup
  active : ∀ tag, tag ∈ record.activeTags ↔ tag ∈ record.topology.consumers.keys

variable {names tags more moreTags : List String} {record next : ChannelRecord} {tag : String}

theorem insertTagActive {record : ChannelRecord} (once : record.activeTags.Nodup) (tag : String) :
    (record.insertTag tag).activeTags.Nodup ∧
      ∀ other, other ∈ (record.insertTag tag).activeTags ↔ other = tag ∨ other ∈ record.activeTags := by
  unfold insertTag
  split
  · rename_i running
    have member : tag ∈ record.activeTags := by simpa using running
    exact ⟨once, fun other => ⟨.inr, fun either => either.elim (fun same => same ▸ member) id⟩⟩
  · rename_i idle
    exact ⟨List.nodup_cons.mpr ⟨by simpa using idle, once⟩, fun other => List.mem_cons⟩

theorem removeTagActive (record : ChannelRecord) (tag other : String) :
    other ∈ (record.removeTag tag).activeTags ↔ other ∈ record.activeTags ∧ other ≠ tag := by
  simp [removeTag]

namespace Mirrored

theorem empty : Mirrored names tags {} :=
  ⟨.empty, List.nodup_nil, fun _ => iff_of_false List.not_mem_nil List.not_mem_nil⟩

theorem grow (mirrored : Mirrored names tags record) (within : names ⊆ more) (tagsWithin : tags ⊆ moreTags) :
    Mirrored more moreTags record :=
  ⟨mirrored.toSettled.grow within tagsWithin, mirrored.activeOnce, mirrored.active⟩

theorem ofSettled (mirrored : Mirrored names tags record) (settled : next.topology.Settled more moreTags)
    (consumers : next.topology.consumers.keys = record.topology.consumers.keys)
    (active : next.activeTags = record.activeTags) : Mirrored more moreTags next := by
  refine ⟨settled, active ▸ mirrored.activeOnce, fun tag => ?_⟩
  rw [active, consumers]
  exact mirrored.active tag

theorem unbinds (mirrored : Mirrored names tags record) {topology : Topology}
    (unbinds : Topology.Unbinds record.topology topology) : Mirrored names tags { record with topology } :=
  mirrored.ofSettled (mirrored.toSettled.unbinds unbinds) (congrArg Catalog.keys unbinds.consumers) rfl

theorem recordConsumer (mirrored : Mirrored names tags record) (consumer : RecordedConsumer)
    (itself : record.topology.resolveTag consumer.tag = consumer.tag) :
    Mirrored names (tags ++ [consumer.tag]) (record.recordConsumer consumer) := by
  have topology : (record.recordConsumer consumer).topology = record.topology.recordConsumer consumer :=
    insertTagTopology _ _
  have started : ({ record with topology := record.topology.recordConsumer consumer } : ChannelRecord).activeTags.Nodup :=
    mirrored.activeOnce
  obtain ⟨once, active⟩ := insertTagActive started consumer.tag
  have recorded := mirrored.consumers.recorded consumer itself (List.subset_append_left tags [consumer.tag])
    (List.mem_append_right _ (List.mem_singleton_self _))
  refine ⟨topology ▸ ⟨mirrored.queues, recorded⟩, once, fun tag => ?_⟩
  have known : tag ∈ (record.topology.consumers.record consumer).keys ↔
      tag = consumer.tag ∨ tag ∈ record.topology.consumers.keys := Catalog.recordMember
  rw [topology]
  exact (active tag).trans ((or_congr_right (mirrored.active tag)).trans known.symm)

theorem forgetConsumer (mirrored : Mirrored names tags record) (current : record.topology.resolveTag tag = tag) :
    Mirrored names tags (record.forgetConsumer tag) := by
  obtain ⟨_, erased, settled⟩ := Topology.deleteConsumerGone mirrored.toSettled tag
  rw [current] at erased
  have keys : (record.forgetConsumer tag).topology.consumers.keys = (record.topology.consumers.erase tag).keys :=
    congrArg Catalog.keys erased
  refine ⟨settled, mirrored.activeOnce.filter _, fun other => ?_⟩
  rw [keys, Catalog.eraseMember, ← mirrored.active]
  exact removeTagActive _ tag other

theorem forgetQueue (mirrored : Mirrored names tags record) (name : String) :
    Mirrored names tags (record.forgetQueue name) := by
  refine ⟨mirrored.toSettled.deleteQueue name, mirrored.activeOnce.filter _, fun tag => ?_⟩
  have items := record.topology.deleteQueueConsumers name
  have aliases : (record.topology.deleteQueue name).2.tagAliases = record.topology.tagAliases :=
    (record.topology.deleteQueueUnbinds name).tagAliases
  have fewer : (record.topology.deleteQueue name).2.consumers.keys ⊆ record.topology.consumers.keys := by
    rw [Catalog.keys, items]
    exact (List.filter_sublist.map _).subset
  have kept : tag ∈ (record.forgetQueue name).activeTags ↔ tag ∈ record.activeTags ∧
      ((record.topology.deleteQueue name).2.consumer? tag).isSome = true := List.mem_filter
  rw [kept, mirrored.active]
  constructor
  · rintro ⟨known, found⟩
    obtain ⟨consumer, found⟩ := Option.isSome_iff_exists.mp found
    obtain ⟨inside, same⟩ := Catalog.findSome found
    rw [Topology.resolveTag, aliases, mirrored.consumers.own tag known] at same
    exact List.mem_map.mpr ⟨consumer, inside, same⟩
  · intro stays
    have known := fewer stays
    refine ⟨known, ?_⟩
    rw [Topology.consumer?, Topology.resolveTag, aliases, mirrored.consumers.own tag known]
    exact Option.isSome_iff_exists.mpr (Catalog.findKnown stays)

theorem retag (mirrored : Mirrored names tags record) {old new : String}
    (known : old ∈ record.topology.consumers.keys) (fresh : new ≠ old → new ∉ tags) :
    Mirrored names (tags ++ [new]) (record.retag old new) := by
  have settled := mirrored.toSettled.updateTag known fresh
  rw [← retagTopology] at settled
  have moved : (record.retag old new).topology.consumers.keys
      = record.topology.consumers.keys.map (replacing old new) := by
    rw [retagTopology, Topology.updateTagConsumers]
    exact Catalog.movedKeys mirrored.consumers.distinct known
      fun other member => fresh other (mirrored.consumers.given member)
  by_cases same : old = new
  · subst same
    have unchanged : record.retag old old = record := if_pos (beq_self_eq_true old)
    rw [unchanged]
    exact mirrored.grow (List.Subset.refl _) (List.subset_append_left ..)
  · have changed : record.retag old new = ({ record with
        topology := record.topology.updateTag old new }.removeTag old).insertTag new := if_neg (by simpa using same)
    have removed : ({ record with topology := record.topology.updateTag old new }.removeTag old).activeTags.Nodup :=
      mirrored.activeOnce.filter _
    obtain ⟨once, active⟩ := insertTagActive removed new
    rw [← changed] at once active
    refine ⟨settled, once, fun tag => ?_⟩
    rw [active, removeTagActive, mirrored.active, moved, List.mem_map]
    constructor
    · rintro (rfl | ⟨stays, other⟩)
      · exact ⟨old, known, if_pos rfl⟩
      · exact ⟨tag, stays, if_neg other⟩
    · rintro ⟨before, inside, rfl⟩
      unfold replacing
      split
      · exact .inl rfl
      · rename_i other
        exact .inr ⟨inside, other⟩

theorem renameAll (mirrored : Mirrored names tags record) {pairs : List (String × String)}
    (listed : record.topology.queues.Listed pairs) (unheard : Topology.Unheard names pairs) :
    Mirrored (names ++ pairs.map Prod.snd) tags (record.renameAll pairs) :=
  mirrored.ofSettled (mirrored.toSettled.renameAll listed unheard)
    (record.topology.renameAllConsumerKeys pairs) rfl

theorem retagAll (mirrored : Mirrored names tags record) {pairs : List (String × String)}
    (listed : record.topology.consumers.Listed pairs) (unheard : Topology.Unheard tags pairs) :
    Mirrored names (tags ++ pairs.map Prod.snd) (record.retagAll pairs) := by
  induction pairs generalizing record tags with
  | nil => exact mirrored.grow (List.Subset.refl _) (List.subset_append_left ..)
  | cons pair rest ih =>
    obtain ⟨fresh, unheard⟩ := unheard
    have next := listed.next fun other member => fresh other (mirrored.consumers.given member)
    rw [← Topology.updateTagConsumers, ← retagTopology] at next
    have all := ih (mirrored.retag listed.known fresh) next unheard
    rwa [List.append_assoc] at all

theorem retagAllReceivers (mirrored : Mirrored names tags record) {pairs : List (String × String)}
    (listed : record.topology.consumers.Listed pairs) (unheard : Topology.Unheard tags pairs) :
    (record.retagAll pairs).topology.consumers.items.map RecordedConsumer.receiver
      = record.topology.consumers.items.map RecordedConsumer.receiver := by
  have separable := unheard.separable listed mirrored.consumers.given
  rw [retagAllTopology, Topology.updateAllTagsConsumers, Catalog.movedAllItems separable, List.map_map]
  rfl

end Mirrored

theorem renameAllReceivers (record : ChannelRecord) (pairs : List (String × String)) :
    (record.renameAll pairs).topology.consumers.items.map RecordedConsumer.receiver
      = record.topology.consumers.items.map RecordedConsumer.receiver := by
  obtain ⟨follow, items⟩ := record.topology.renameAllConsumers pairs
  rw [renameAll, items, List.map_map]
  rfl

def dismiss (state : List RecordedConsumer × ChannelRecord) (tag : String) : List RecordedConsumer × ChannelRecord :=
  match state.2.topology.deleteConsumer tag with
  | (some consumer, topology) => (state.1 ++ [consumer], { state.2 with topology })
  | (none, topology) => (state.1, { state.2 with topology })

theorem dismissKnown (settled : record.topology.Settled names tags) (known : tag ∈ record.topology.consumers.keys)
    (told : List RecordedConsumer) :
    ∃ consumer last, dismiss (told, record) tag = (told ++ [consumer], last) ∧
      (consumer :: last.topology.consumers.items).Perm record.topology.consumers.items ∧
      last.topology.consumers = record.topology.consumers.erase tag ∧
      last.topology.Settled names tags ∧ last.activeTags = record.activeTags := by
  obtain ⟨given, erased, later⟩ := Topology.deleteConsumerGone settled tag
  obtain ⟨consumer, found⟩ := Catalog.findKnown known
  have itself : record.topology.resolveTag tag = tag := settled.consumers.own tag known
  rw [itself] at given erased
  rw [found] at given
  unfold dismiss
  rcases deleted : record.topology.deleteConsumer tag with ⟨answer, topology⟩
  rw [deleted] at given erased later
  obtain rfl : answer = some consumer := given
  refine ⟨consumer, _, rfl, ?_, erased, later, rfl⟩
  exact erased ▸ Catalog.erasePerm settled.consumers.distinct found

theorem dismissAll {list : List String} (once : list.Nodup) {record : ChannelRecord}
    (settled : record.topology.Settled names tags) (known : list ⊆ record.topology.consumers.keys)
    (told : List RecordedConsumer) :
    ∃ gone last, list.foldl dismiss (told, record) = (told ++ gone, last) ∧
      (gone ++ last.topology.consumers.items).Perm record.topology.consumers.items ∧
      (∀ key, key ∈ last.topology.consumers.keys ↔ key ∈ record.topology.consumers.keys ∧ key ∉ list) ∧
      last.topology.Settled names tags ∧ last.activeTags = record.activeTags := by
  induction list generalizing told record with
  | nil => exact ⟨[], record, by simp, .refl _, by simp, settled, rfl⟩
  | cons tag rest ih =>
    obtain ⟨absent, once⟩ := List.nodup_cons.mp once
    obtain ⟨here, known⟩ := List.cons_subset.mp known
    obtain ⟨consumer, middle, dismissed, one, erased, later, same⟩ := dismissKnown settled here told
    have still : rest ⊆ middle.topology.consumers.keys := fun other member => by
      rw [erased, Catalog.eraseMember]
      exact ⟨known member, fun same => absent (same ▸ member)⟩
    obtain ⟨gone, last, all, many, keys, settled, active⟩ := ih once later still (told ++ [consumer])
    refine ⟨consumer :: gone, last, ?_, (many.cons consumer).trans one, fun key => ?_, settled, active.trans same⟩
    · rw [List.foldl_cons, dismissed, all, List.append_assoc]
      rfl
    · rw [keys, erased, Catalog.eraseMember, List.mem_cons, not_or, and_assoc]

theorem abandonAll (mirrored : Mirrored names tags record) :
    record.abandon.1.Perm record.topology.consumers.items ∧ record.abandon.2.topology.consumers.items = [] ∧
      Mirrored names tags record.abandon.2 := by
  have known : record.activeTags ⊆ record.topology.consumers.keys := fun tag => (mirrored.active tag).mp
  have idle : ({ record with activeTags := [] } : ChannelRecord).topology.Settled names tags := mirrored.toSettled
  obtain ⟨gone, last, all, told, keys, settled, active⟩ := dismissAll mirrored.activeOnce idle known []
  have abandoned : record.abandon = (gone, last) := all
  have none : last.topology.consumers.keys = [] := List.eq_nil_iff_forall_not_mem.mpr fun key member =>
    ((keys key).mp member).2 ((mirrored.active key).mpr ((keys key).mp member).1)
  have empty := List.map_eq_nil_iff.mp none
  rw [abandoned]
  rw [empty, List.append_nil] at told
  refine ⟨told, empty, settled, active ▸ List.nodup_nil, fun tag => ?_⟩
  rw [active, none]

end ChannelRecord

end AmqpClient
