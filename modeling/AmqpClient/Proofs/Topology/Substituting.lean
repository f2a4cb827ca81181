import AmqpClient.Proofs.Topology.Aftermath

/-! Renaming puts the new name in the place of the old one, wherever it stands, and changes nothing else. So does a
new tag. -/
namespace AmqpClient

namespace RecordedConsumer

def retagged (newTag : String → String) (consumer : RecordedConsumer) : RecordedConsumer :=
  { consumer with tag := newTag consumer.tag }

end RecordedConsumer

namespace Topology

structure Retagged (newTag : String → String) (topology next : Topology) : Prop where
  exchanges : next.exchanges = topology.exchanges
  queues : next.queues = topology.queues
  bindings : next.bindings = topology.bindings
  consumers : next.consumers.items = topology.consumers.items.map (RecordedConsumer.retagged newTag)
  queueAliases : next.queueAliases = topology.queueAliases

variable {topology : Topology} {old new : String}

theorem updateTagRetagged (distinct : topology.consumers.keys.Nodup) (known : old ∈ topology.consumers.keys)
    (fresh : new ∉ topology.consumers.keys) : Retagged (replacing old new) topology (topology.updateTag old new) := by
  have consumers := Catalog.movedItems distinct known fun _ => fresh
  rw [← updateTagConsumers] at consumers
  obtain ⟨_, _, same⟩ := topology.updateTagElse old new
  rw [same] at consumers ⊢
  exact ⟨rfl, rfl, rfl, consumers, rfl⟩

/- A new name stands where the old one stood, and a new tag likewise. What led to the old one leads to the new. -/
theorem renamingSubstitutes (operations : List Operation) (old new : String) :
    let topology := run operations
    (old ∈ topology.queues.keys → new ∉ topology.queues.keys →
      Renamed (replacing old new) topology (topology.renameQueue old new) ∧
      (topology.renameQueue old new).tagAliases = topology.tagAliases ∧
      ∀ name, (topology.renameQueue old new).resolveQueue name =
        if name = old ∨ topology.resolveQueue name = old then new else topology.resolveQueue name) ∧
    (old ∈ topology.consumers.keys → new ∉ topology.consumers.keys →
      Retagged (replacing old new) topology (topology.updateTag old new) ∧
      ∀ tag, (topology.updateTag old new).resolveTag tag =
        if tag = old ∨ topology.resolveTag tag = old then new else topology.resolveTag tag) := by
  intro topology
  have distinct : Distinct topology := Distinct.run operations
  refine ⟨fun known fresh => ⟨?_, ?_, fun name => ?_⟩, fun known fresh => ⟨?_, fun tag => ?_⟩⟩
  · exact renameQueueRenamed distinct.queues known fun _ => fresh
  · exact topology.renameQueueTagAliases old new
  · have other : new ≠ old := fun same => fresh (same ▸ known)
    exact congrFun (congrArg Naming.leads (renameQueueNames distinct known other)) name
  · exact updateTagRetagged distinct.consumers known fresh
  · have other : new ≠ old := fun same => fresh (same ▸ known)
    exact congrFun (congrArg Naming.leads (updateTagNames distinct known other)) tag

theorem middleRenamed :
    let topology := run [.recordQueue ⟨"a", {}, false⟩, .recordQueue ⟨"b", {}, true⟩, .recordQueue ⟨"c", {}, false⟩,
      .recordBinding ⟨.exchange, "x", "d", "k", .nil⟩, .recordBinding ⟨.queue, "x", "b", "k", .nil⟩,
      .recordConsumer ⟨"t", "b", {}, 0⟩, .renameQueue "b" "d"]
    Renamed (replacing "d" "e") topology (topology.renameQueue "d" "e") ∧
      (topology.renameQueue "d" "e").queues.keys = ["a", "e", "c"] ∧
      (topology.renameQueue "d" "e").resolveQueue "b" = "e" ∧
      Retagged (replacing "t" "u") topology (topology.updateTag "t" "u") := by
  intro topology
  obtain ⟨renamed, _, leads⟩ := (renamingSubstitutes _ "d" "e").1 (show "d" ∈ topology.queues.keys by decide) (by decide)
  obtain ⟨retagged, _⟩ := (renamingSubstitutes _ "t" "u").2 (show "t" ∈ topology.consumers.keys by decide) (by decide)
  exact ⟨renamed, renamed.queueKeys.trans (by decide), (leads "b").trans (by decide), retagged⟩

end Topology

end AmqpClient
