import AmqpClient.Proofs.Topology.Addressing
import AmqpClient.Proofs.Topology.Retagging
import AmqpClient.Proofs.Recovery.Replay

/-! Who receives what the recorded consumers get. Each consumer has a receiver of its own, whatever names and tags
the server chooses, and whatever it does with them. -/
namespace AmqpClient

namespace Topology

structure Personal (used : List ReceiverId) (topology : Topology) : Prop where
  tags : topology.consumers.keys.Nodup
  own : ∀ one ∈ topology.consumers.items, ∀ other ∈ topology.consumers.items,
    one.receiver = other.receiver → one = other
  known : ∀ consumer ∈ topology.consumers.items, consumer.receiver ∈ used

namespace Personal

variable {used more : List ReceiverId} {topology next : Topology}

theorem empty : Personal used {} := ⟨List.nodup_nil, List.forall_mem_nil _, List.forall_mem_nil _⟩

theorem grow (personal : Personal used topology) (within : used ⊆ more) : Personal more topology :=
  ⟨personal.tags, personal.own, fun consumer member => within (personal.known consumer member)⟩

theorem narrow (personal : Personal used topology) :
    Personal (topology.consumers.items.map RecordedConsumer.receiver) topology :=
  ⟨personal.tags, personal.own, fun _ member => List.mem_map_of_mem member⟩

theorem fewer (personal : Personal used topology) (fewer : next.consumers.items.Sublist topology.consumers.items) :
    Personal used next where
  tags := personal.tags.sublist (fewer.map _)
  own one first other second := personal.own one (fewer.subset first) other (fewer.subset second)
  known consumer member := personal.known consumer (fewer.subset member)

theorem same (personal : Personal used topology) (same : next.consumers = topology.consumers) : Personal used next :=
  personal.fewer (same ▸ List.Sublist.refl _)

theorem receivers (personal : Personal used topology) :
    (topology.consumers.items.map RecordedConsumer.receiver).Nodup :=
  List.Nodup.map_on (fun one first other second => personal.own one first other second)
    (List.Nodup.of_map _ personal.tags)

theorem renameQueue (personal : Personal used topology) (old new : String) :
    Personal used (topology.renameQueue old new) := by
  obtain ⟨follow, items⟩ := topology.renameQueueConsumers old new
  have keys : (topology.renameQueue old new).consumers.keys = topology.consumers.keys := by
    rw [Catalog.keys, items, List.map_map]
    rfl
  refine ⟨keys ▸ personal.tags, ?_, ?_⟩
  · rw [items]
    intro one first other second same
    obtain ⟨one, here, rfl⟩ := List.mem_map.mp first
    obtain ⟨other, there, rfl⟩ := List.mem_map.mp second
    rw [personal.own one here other there same]
  · rw [items]
    exact List.forall_mem_map.mpr personal.known

theorem recordConsumer (personal : Personal used topology) (consumer : RecordedConsumer)
    (fresh : consumer.receiver ∉ used) : Personal (used ++ [consumer.receiver]) (topology.recordConsumer consumer) := by
  have either : ∀ other ∈ (topology.recordConsumer consumer).consumers.items,
      other = consumer ∨ other ∈ topology.consumers.items := fun _ member => Catalog.recordItem member
  have apart : ∀ other ∈ topology.consumers.items, consumer.receiver ≠ other.receiver := fun other member same =>
    fresh (same ▸ personal.known other member)
  refine ⟨Catalog.recordNodup personal.tags consumer, fun one first other second same => ?_, fun other member => ?_⟩
  · rcases either one first with rfl | before <;> rcases either other second with rfl | earlier
    · rfl
    · exact absurd same (apart other earlier)
    · exact absurd same.symm (apart one before)
    · exact personal.own one before other earlier same
  · rcases either other member with rfl | before
    · exact List.mem_append_right _ (List.mem_singleton_self _)
    · exact List.mem_append_left _ (personal.known other before)

theorem updateTag (personal : Personal used topology) (old new : String) :
    Personal used (topology.updateTag old new) := by
  by_cases same : old = new
  · exact personal.same (by simp [Topology.updateTag, same])
  · cases found : topology.consumers.find? old with
    | none => exact personal.same (by simp [Topology.updateTag, found])
    | some consumer =>
      obtain ⟨here, key⟩ := Catalog.findSome found
      have items : (topology.updateTag old new).consumers
          = topology.consumers.supersede old { consumer with tag := new } := by
        simp [Topology.updateTag, same, found]
      have gone : old ∉ (topology.consumers.supersede old { consumer with tag := new }).keys :=
        Catalog.supersedeGone personal.tags _ _
      have either : ∀ other ∈ (topology.updateTag old new).consumers.items,
          other = { consumer with tag := new } ∨ (other ∈ topology.consumers.items ∧ other ≠ consumer) := by
        rw [items]
        intro other member
        rcases Catalog.supersedeItem member with equal | before
        · exact .inl equal
        · refine .inr ⟨before, fun equal => gone ?_⟩
          subst equal
          exact List.mem_map.mpr ⟨_, member, key⟩
      refine ⟨?_, fun one first other second equal => ?_, fun other member => ?_⟩
      · rw [items]
        exact Catalog.supersedeNodup personal.tags old _
      · rcases either one first with rfl | ⟨before, differs⟩ <;> rcases either other second with rfl | ⟨earlier, apart⟩
        · rfl
        · exact absurd (personal.own other earlier consumer here equal.symm) apart
        · exact absurd (personal.own one before consumer here equal) differs
        · exact personal.own one before other earlier equal
      · rcases either other member with rfl | ⟨before, _⟩
        · exact personal.known consumer here
        · exact personal.known other before

end Personal

theorem deleteUnusedQueueLeaves (topology : Topology) (name : String) :
    (topology.deleteUnusedQueue name).2.consumers.items.Sublist topology.consumers.items := by
  rw [deleteUnusedQueueEither]
  split
  · rw [deleteQueueConsumers]
    exact List.filter_sublist
  · exact List.Sublist.refl _

theorem deleteConsumerLeaves (topology : Topology) (tag : String) :
    (topology.deleteConsumer tag).2.consumers.items.Sublist topology.consumers.items ∧
      ∀ consumer, (topology.deleteConsumer tag).1 = some consumer →
        consumer ∈ topology.consumers.items ∧ consumer ∉ (topology.deleteConsumer tag).2.consumers.items := by
  rw [deleteConsumerEither]
  cases found : topology.consumer? tag with
  | none => exact ⟨List.Sublist.refl _, fun _ none => by cases none⟩
  | some consumer =>
    obtain ⟨here, key⟩ := Catalog.findSome found
    have left := (topology.withoutConsumer (topology.resolveTag tag)).deleteUnusedQueueLeaves consumer.queue
    refine ⟨left.trans (Catalog.eraseSublist _ _), fun other given => ?_⟩
    obtain rfl := Option.some.inj given
    refine ⟨here, fun stays => ?_⟩
    have kept := (List.mem_filter.mp (left.subset stays)).2
    simp [key] at kept

end Topology

namespace Request

def receivers : Request → List ReceiverId
  | consume consumer => [consumer.receiver]
  | _ => []

end Request

namespace ChannelRecord

variable {used : List ReceiverId} {record : ChannelRecord}

theorem resolveReceivers (record : ChannelRecord) (request : Request) :
    (record.resolve request).receivers = request.receivers := by
  cases request <;> rfl

theorem learnPersonal (personal : record.topology.Personal used) (asked : Request) (reply : Reply)
    (fresh : ∀ receiver ∈ asked.receivers, receiver ∉ used) :
    (record.learn asked reply).topology.Personal (used ++ asked.receivers) := by
  have grown := personal.grow (List.subset_append_left used asked.receivers)
  have resolved := record.resolveReceivers asked
  unfold learn
  split
  · exact grown.same rfl
  · exact grown.same (record.topology.deleteExchangeUnbinds _).consumers
  · unfold Topology.recordBinding
    split <;> exact grown.same rfl
  · exact grown.same (record.topology.deleteBindingUnbinds _).consumers
  · exact grown.same rfl
  · refine grown.fewer ?_
    rw [forgetQueue, Topology.deleteQueueConsumers]
    exact List.filter_sublist
  · unfold recordQos
    split <;> exact grown
  · rename_i consumer tag same
    rw [same] at resolved
    have brought : asked.receivers = [consumer.receiver] := resolved.symm
    rw [brought] at fresh ⊢
    rw [recordConsumer, insertTagTopology]
    exact personal.recordConsumer { consumer with tag } (fresh _ (List.mem_singleton_self _))
  · exact grown.fewer (record.topology.deleteConsumerLeaves _).1
  · exact grown
  · exact grown
  · exact grown

theorem notePersonal (personal : record.topology.Personal used) (asked : Request) (result : Except Error Reply)
    (fresh : ∀ receiver ∈ asked.receivers, receiver ∉ used) :
    (record.note asked result).topology.Personal (used ++ asked.receivers) := by
  cases result with
  | ok reply => exact learnPersonal personal asked reply fresh
  | error e => exact personal.grow (List.subset_append_left ..)

theorem retagPersonal (personal : record.topology.Personal used) (old new : String) :
    (record.retag old new).topology.Personal used :=
  retagTopology record old new ▸ personal.updateTag old new

theorem abandonLeaves (record : ChannelRecord) :
    record.abandon.2.topology.consumers.items.Sublist record.topology.consumers.items ∧
      record.abandon.1 ⊆ record.topology.consumers.items ∧ record.abandon.1.Nodup ∧
      ∀ consumer ∈ record.abandon.1, consumer ∉ record.abandon.2.topology.consumers.items := by
  unfold ChannelRecord.abandon
  refine List.foldlRecOn (motive := fun state : List RecordedConsumer × ChannelRecord =>
    state.2.topology.consumers.items.Sublist record.topology.consumers.items ∧
      state.1 ⊆ record.topology.consumers.items ∧ state.1.Nodup ∧
      ∀ consumer ∈ state.1, consumer ∉ state.2.topology.consumers.items) record.activeTags _
    ⟨List.Sublist.refl _, List.nil_subset _, List.nodup_nil, List.forall_mem_nil _⟩ ?_
  intro state kept tag _
  obtain ⟨left, within, once, gone⟩ := kept
  obtain ⟨fewer, given⟩ := state.2.topology.deleteConsumerLeaves tag
  rcases deleted : state.2.topology.deleteConsumer tag with ⟨none | consumer, topology⟩ <;>
    rw [deleted] at fewer given
  · exact ⟨fewer.trans left, within, once, fun consumer member stays => gone consumer member (fewer.subset stays)⟩
  · obtain ⟨here, forgotten⟩ := given consumer rfl
    refine ⟨fewer.trans left, ?_, ?_, ?_⟩
    · exact List.append_subset.mpr ⟨within, List.cons_subset.mpr ⟨left.subset here, List.nil_subset _⟩⟩
    · refine List.nodup_append'.mpr ⟨once, List.nodup_singleton _, fun other member same => ?_⟩
      obtain rfl := List.mem_singleton.mp same
      exact gone _ member here
    · refine List.forall_mem_append.mpr ⟨fun other member stays => gone other member (fewer.subset stays), ?_⟩
      exact List.forall_mem_singleton.mpr forgotten

theorem abandonPersonal (personal : record.topology.Personal used) :
    record.abandon.2.topology.Personal used ∧ record.abandon.1 ⊆ record.topology.consumers.items ∧
      (record.abandon.1.map RecordedConsumer.receiver).Nodup := by
  obtain ⟨left, within, once, _⟩ := record.abandonLeaves
  refine ⟨personal.fewer left, within, List.Nodup.map_on ?_ once⟩
  exact fun one first other second => personal.own one (within first) other (within second)

end ChannelRecord

end AmqpClient
