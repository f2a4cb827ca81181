import AmqpClient.Proofs.Recovery.Exactness

/-! Queues and consumers that come back under other names than before. Names are replaced one at a time, so
that two of them are kept apart only as long as no one takes a name that another still has. -/
namespace AmqpClient

namespace Topology

/- Each queue has come back under the name in its place, each consumer under the tag in its place, and those
who use a queue have followed it. -/
structure KeptApart (rename : String → String) (names tags : List String) (topology next : Topology) : Prop where
  named : topology.queues.keys.map rename = names
  others : ∀ name ∉ topology.queues.keys, rename name = name
  queues : next.queues.items
    = List.zipWith (fun queue name => { queue with name }) topology.queues.items names
  bindings : next.bindings = topology.bindings.map (RecordedBinding.renamed rename)
  consumers : next.consumers.items
    = List.zipWith (fun consumer tag => { consumer.renamed rename with tag }) topology.consumers.items tags

variable {topology : Topology} {names tags : List String}

def reissued (topology : Topology) (names tags : List String) : Topology :=
  (topology.renameAll (topology.queues.keys.zip names)).updateAllTags (topology.consumers.keys.zip tags)

theorem reissuedQueues (topology : Topology) (names tags : List String) :
    (topology.reissued names tags).queues = topology.queues.movedAll (topology.queues.keys.zip names) := by
  obtain ⟨_, _, retagged⟩ := updateAllTagsElse (topology.renameAll (topology.queues.keys.zip names))
    (topology.consumers.keys.zip tags)
  rw [reissued, retagged]
  exact renameAllQueues topology _

theorem reissuedApart (queues : topology.queues.keys.Nodup) (consumers : topology.consumers.keys.Nodup)
    (eachQueue : names.length = topology.queues.items.length)
    (eachConsumer : tags.length = topology.consumers.items.length)
    (namesApart : Apart (topology.queues.keys.zip names)) (tagsApart : Apart (topology.consumers.keys.zip tags)) :
    KeptApart (newName (topology.queues.keys.zip names)) names tags topology (topology.reissued names tags) := by
  have separable := Catalog.separableWhole queues eachQueue namesApart
  have renamed := renameAllRenamed separable
  have keys := topology.renameAllConsumerKeys (topology.queues.keys.zip names)
  obtain ⟨_, _, retagged⟩ := updateAllTagsElse (topology.renameAll (topology.queues.keys.zip names))
    (topology.consumers.keys.zip tags)
  obtain ⟨olds, news⟩ := Catalog.wholeKeys eachQueue
  refine ⟨?_, fun name unknown => newNameFresh (by rwa [olds]), ?_, ?_, ?_⟩
  · have each := newNames separable.once
    rwa [olds, news] at each
  · rw [reissuedQueues]
    exact Catalog.movedAllZip separable eachQueue
  · rw [reissued, retagged]
    exact renamed.bindings
  · have length : tags.length = (topology.renameAll (topology.queues.keys.zip names)).consumers.items.length := by
      rw [renamed.consumers, List.length_map, eachConsumer]
    have moved := Catalog.separableWhole (keys ▸ consumers) length (keys ▸ tagsApart)
    rw [reissued, updateAllTagsConsumers, ← keys, Catalog.movedAllZip moved length, renamed.consumers,
      List.zipWith_map_left]
    rfl

/- That nothing was lost already shows that no one took a name that another still had. -/
theorem reissuedWhole {rename : String → String} (queues : topology.queues.keys.Nodup)
    (consumers : topology.consumers.keys.Nodup) (eachQueue : names.length = topology.queues.items.length)
    (eachConsumer : tags.length = topology.consumers.items.length)
    (kept : KeptApart rename names tags topology (topology.reissued names tags)) :
    Apart (topology.queues.keys.zip names) ∧ Apart (topology.consumers.keys.zip tags) := by
  have keys := topology.renameAllConsumerKeys (topology.queues.keys.zip names)
  have namesApart : Apart (topology.queues.keys.zip names) := by
    have length := congrArg List.length kept.queues
    rw [reissuedQueues, List.length_zipWith, eachQueue, Nat.min_self] at length
    exact (Catalog.separableOfLength (Catalog.listedZip queues names) length).apart
  have renamed := renameAllRenamed (Catalog.separableWhole queues eachQueue namesApart)
  have same : (topology.renameAll (topology.queues.keys.zip names)).consumers.items.length
      = topology.consumers.items.length := by
    rw [renamed.consumers, List.length_map]
  refine ⟨namesApart, ?_⟩
  have length := congrArg List.length kept.consumers
  rw [reissued, updateAllTagsConsumers, List.length_zipWith, eachConsumer, Nat.min_self, ← same, ← keys] at length
  exact keys ▸ (Catalog.separableOfLength (Catalog.listedZip (keys ▸ consumers) tags) length).apart

end Topology

namespace TapedChannel

variable {ω η κ : Type} {link : Link ω η κ} {self after : TapedChannel ω η κ} {record next : ChannelRecord}

theorem keepsApart (queues : record.topology.queues.keys.Nodup) (consumers : record.topology.consumers.keys.Nodup)
    (replayed : Replay.topology (RecoveringChannel.ask link.taped) record self = (.ok (), next, after)) :
    ∃ lines, after.tape = self.tape ++ lines ∧
      (lines.filter fun line => line.declaration?.isSome).map Asked.request
        = record.topology.queues.items.map RecordedQueue.request ∧
      (declaredNames lines).length = record.topology.queues.items.length ∧
      (startedTags lines).length = record.topology.consumers.items.length ∧
      ((∃ rename, Topology.KeptApart rename (declaredNames lines) (startedTags lines) record.topology next.topology) ↔
        Apart (record.topology.queues.keys.zip (declaredNames lines)) ∧
          Apart (record.topology.consumers.keys.zip (startedTags lines))) := by
  obtain ⟨replies, lines, played, updated, redeclared, _, complete⟩ := topologyPlayed link record self
  rw [replayed] at played updated
  obtain ⟨each, eachConsumer⟩ := complete (played.verdict.mp rfl)
  have given : declaredNames lines = replies.map QueueDeclared.queue := by rw [declaredNames, redeclared.answers]
  have eachQueue : (declaredNames lines).length = record.topology.queues.items.length := by
    rw [given, List.length_map, each]
  have asked : (lines.filter fun line => line.declaration?.isSome).map Asked.request
      = record.topology.queues.items.map RecordedQueue.request := by
    refine redeclared.asked.eq_of_length ?_
    rw [List.length_map, List.length_map, ← eachQueue, declaredNames, List.length_map, ← List.countP_eq_length_filter,
      List.length_filterMap_eq_countP]
  have reissued : next.topology = record.topology.reissued (declaredNames lines) (startedTags lines) := by
    rw [given]
    exact (congrArg ChannelRecord.topology updated).trans (ChannelRecord.retagAllTopology _ _)
  refine ⟨lines, played.grown.tape, asked, eachQueue, eachConsumer, ?_⟩
  rw [reissued]
  constructor
  · rintro ⟨rename, kept⟩
    exact Topology.reissuedWhole queues consumers eachQueue eachConsumer kept
  · rintro ⟨namesApart, tagsApart⟩
    exact ⟨_, Topology.reissuedApart queues consumers eachQueue eachConsumer namesApart tagsApart⟩

def rehearse (script : Script) (calls : List Request) : TapedChannel Rehearsal Nat Nat :=
  let called := calls.foldl (fun self request => (self.call Rehearsal.link.taped request).2) rehearsedStart
  { called with world := (called.world.1.changeScript fun _ => script, called.tape) }

def replayed (self : TapedChannel Rehearsal Nat Nat) :
    Except Error Unit × ChannelRecord × TapedChannel Rehearsal Nat Nat :=
  Replay.topology (RecoveringChannel.ask Rehearsal.link.taped) self.record self

def separate : TapedChannel Rehearsal Nat Nat :=
  rehearse { renameTags := true }
    [.declareQueue "" {}, .declareQueue "orders" {}, .bind ⟨.queue, "amq.topic", "gen-1", "", .nil⟩,
      .consume ⟨"first", "gen-1", {}, 0⟩, .consume ⟨"second", "orders", {}, 1⟩]

theorem rehearsedApart :
    ∃ rename, Topology.KeptApart rename ["gen-2", "orders"] ["ctag-1", "ctag-2"] separate.record.topology
      (replayed separate).2.1.topology := by
  have done : Replay.topology (RecoveringChannel.ask Rehearsal.link.taped) separate.record separate
      = (.ok (), (replayed separate).2.1, (replayed separate).2.2) := rfl
  obtain ⟨lines, tape, _, _, _, apart⟩ := keepsApart (by decide) (by decide) done
  have same : lines = (replayed separate).2.2.tape.drop 5 := by
    rw [tape]
    rfl
  have names : declaredNames lines = ["gen-2", "orders"] := by
    rw [same]
    rfl
  have tags : startedTags lines = ["ctag-1", "ctag-2"] := by
    rw [same]
    rfl
  rw [names, tags] at apart
  exact apart.mpr ⟨by decide, by decide⟩

def meeting : TapedChannel Rehearsal Nat Nat :=
  rehearse { renameQueues := true }
    [.declareQueue "" {}, .declareQueue "gen-2" { durable := true },
      .bind ⟨.queue, "amq.topic", "gen-1", "first", .nil⟩, .bind ⟨.queue, "amq.topic", "gen-2", "second", .nil⟩]

theorem meetingQueues :
    (replayed meeting).1 = .ok () ∧
      meeting.record.topology.queues.items = [⟨"gen-1", {}, true⟩, ⟨"gen-2", { durable := true }, false⟩] ∧
      declaredNames ((replayed meeting).2.2.tape.drop 4) = ["gen-2", "gen-3"] ∧
      (replayed meeting).2.1.topology.queues.items = [⟨"gen-3", {}, true⟩] ∧
      (replayed meeting).2.1.topology.bindings.map RecordedBinding.destination = ["gen-3", "gen-3"] :=
  ⟨rfl, rfl, rfl, rfl, rfl⟩

end TapedChannel

end AmqpClient
