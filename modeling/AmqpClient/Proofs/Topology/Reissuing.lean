import AmqpClient.Proofs.Topology.Tracing

/-! Recorded queues under new names. All their earlier names follow, and as long as the new names were never
heard before, nobody else's name is taken. -/
namespace AmqpClient.Topology

variable {heard more : List String} {topology next : Topology} {name : String}

theorem renameQueueResolve {old : String} (known : old ∈ topology.queues.keys)
    (current : topology.resolveQueue old = old) (new name : String) :
    (topology.renameQueue old new).resolveQueue name = replacing old new (topology.resolveQueue name) := by
  by_cases same : old = new
  · have unchanged : topology.renameQueue old new = topology := by simp [renameQueue, same]
    rw [unchanged, same, replacingSame]
  · unfold resolveQueue
    rw [renameQueueAliases known, if_neg same, Aliases.redirectResolve]
    split
    · rename_i itself
      rw [itself]
      exact (if_pos current).symm
    · rfl

theorem renameAllResolve {pairs : List (String × String)} (separable : topology.queues.Separable pairs)
    (current : ∀ old ∈ pairs.map Prod.fst, topology.resolveQueue old = old) (name : String) :
    (topology.renameAll pairs).resolveQueue name = newName pairs (topology.resolveQueue name) := by
  induction pairs generalizing topology with
  | nil => rfl
  | cons pair rest ih =>
    obtain ⟨old, new⟩ := pair
    have one (name : String) :
        (topology.renameQueue old new).resolveQueue name = replacing old new (topology.resolveQueue name) :=
      renameQueueResolve separable.known (current old List.mem_cons_self) new name
    have next := separable.next
    rw [← renameQueueQueues] at next
    have later : ∀ other ∈ rest.map Prod.fst, (topology.renameQueue old new).resolveQueue other = other := by
      intro other member
      rw [one, current other (List.mem_cons_of_mem _ member)]
      exact if_neg (separable.other member)
    rw [← newNameAfter separable.settled]
    exact (ih next later).trans (congrArg (newName rest) (one name))

theorem renameAllOnce (once : topology.queueAliases.names.Nodup) (pairs : List (String × String)) :
    (topology.renameAll pairs).queueAliases.names.Nodup := by
  refine List.foldlRecOn (motive := fun next : Topology => next.queueAliases.names.Nodup) _ _ once ?_
  intro next once pair _
  unfold renameQueue
  split
  · exact once
  · split
    · exact once
    · exact (Aliases.redirectNames once pair.1 pair.2).1

theorem Renamed.spoken {rename : String → String} (renamed : Renamed rename topology next) :
    next.spoken = topology.spoken.map rename := by
  have bindings : next.bindings.filterMap RecordedBinding.queue?
      = (topology.bindings.filterMap RecordedBinding.queue?).map rename := by
    rw [renamed.bindings, List.filterMap_map, List.map_filterMap]
    exact List.filterMap_congr fun binding _ => binding.queueRenamed rename
  simp only [Topology.spoken, renamed.queueKeys, bindings, renamed.consumers, List.map_append, List.map_map]
  rfl

theorem newNameEither (pairs : List (String × String)) (name : String) :
    newName pairs name = name ∨ (name, newName pairs name) ∈ pairs := by
  induction pairs with
  | nil => exact .inl rfl
  | cons pair rest ih =>
    obtain ⟨old, new⟩ := pair
    unfold newName
    split
    · rename_i same
      exact .inr (same ▸ List.mem_cons_self)
    · exact ih.imp_right (List.mem_cons_of_mem _)

structure Reissued (heard more : List String) (rename : String → String) (topology next : Topology) : Prop where
  renamed : Renamed rename topology next
  once : next.queueAliases.names.Nodup
  resolve : ∀ name, next.resolveQueue name = rename (topology.resolveQueue name)
  changed : ∀ name, rename name ≠ name →
    name ∈ topology.queues.keys ∧ rename name ∉ heard ∧ rename name ∈ more ∧ rename name ≠ ""
  client : ∀ queue ∈ topology.queues.items, queue.serverNamed = false → rename queue.name = queue.name

namespace Reissued

variable {rename : String → String}

theorem recorded (reissued : Reissued heard more rename topology next) (member : name ∈ topology.queues.keys) :
    rename name ∈ next.queues.keys := by
  rw [reissued.renamed.queueKeys]
  exact List.mem_map_of_mem member

theorem led (reissued : Reissued heard more rename topology next) (traced : Traced heard topology)
    (other : next.resolveQueue name ≠ name) :
    topology.resolveQueue name ∈ topology.queues.keys ∧ name ∈ heard ∧ name ≠ "" := by
  rw [reissued.resolve] at other
  by_cases same : topology.resolveQueue name = name
  · rw [same] at other ⊢
    obtain ⟨key, _⟩ := reissued.changed name other
    exact ⟨key, traced.spoken (keysSpoken key), fun empty => traced.named (empty ▸ key)⟩
  · exact ⟨traced.recorded name same, traced.retired name same⟩

theorem fresh (reissued : Reissued heard more rename topology next) (traced : Traced heard topology)
    (unheard : name ∉ heard) : next.resolveQueue name = name := by
  by_contra other
  exact unheard (reissued.led traced other).2.1

theorem users (reissued : Reissued heard more rename topology next) (traced : Traced heard topology)
    (within : heard ⊆ more) (member : name ∈ next.spoken) : next.resolveQueue name = name ∧ name ∈ more := by
  rw [reissued.renamed.spoken] at member
  obtain ⟨before, spoken, rfl⟩ := List.mem_map.mp member
  by_cases same : rename before = before
  · rw [same, reissued.resolve, traced.current before spoken]
    exact ⟨same, within (traced.spoken spoken)⟩
  · obtain ⟨_, unheard, inside, _⟩ := reissued.changed before same
    exact ⟨reissued.fresh traced unheard, inside⟩

theorem traced (reissued : Reissued heard more rename topology next) (traced : Traced heard topology)
    (within : heard ⊆ more) : Traced more next where
  once := reissued.once
  recorded := fun name other => by
    rw [reissued.resolve]
    exact reissued.recorded (reissued.led traced other).1
  retired := fun name other => (reissued.led traced other).2.imp_left (within ·)
  current := fun name member => (reissued.users traced within member).1
  spoken := fun name member => (reissued.users traced within member).2
  named := fun empty => by
    rw [reissued.renamed.queueKeys] at empty
    obtain ⟨before, key, same⟩ := List.mem_map.mp empty
    by_cases kept : rename before = before
    · exact traced.named (same ▸ kept.symm ▸ key)
    · exact (reissued.changed before kept).2.2.2 same

theorem leads (reissued : Reissued heard more rename topology next) (known : name ∈ heard) {fate : Option String}
    (fated : topology.Leads name fate) :
    next.Leads name (fate.bind fun current => next.still (rename current)) := by
  cases fate with
  | some current =>
    obtain ⟨key, leads⟩ := fated
    rw [Option.bind_some, stillRecorded (reissued.recorded key)]
    exact ⟨reissued.recorded key, by rw [reissued.resolve, leads]⟩
  | none =>
    obtain ⟨itself, free⟩ := fated
    refine ⟨?_, fun queue member same => ?_⟩
    · rw [reissued.resolve, itself]
      by_contra other
      obtain ⟨queue, among, rfl⟩ := List.mem_map.mp (reissued.changed name other).1
      exact other (reissued.client queue among (free queue among rfl))
    · rw [reissued.renamed.queues] at member
      obtain ⟨before, among, rfl⟩ := List.mem_map.mp member
      have same : rename before.name = name := same
      by_cases kept : rename before.name = before.name
      · exact free before among (kept.symm.trans same)
      · exact absurd (same ▸ known) (reissued.changed _ kept).2.1

theorem passes (reissued : Reissued heard more rename topology next) (traced : Traced heard topology)
    (within : heard ⊆ more) : Passes heard more rename topology next :=
  ⟨reissued.traced traced within, fun _ known _ fated => reissued.leads known fated⟩

end Reissued

theorem renameAllReissued {pairs : List (String × String)} (traced : Traced heard topology)
    (listed : topology.queues.Listed pairs) (within : topology.queues.keys ⊆ heard) (unheard : Unheard heard pairs)
    (given : ∀ pair ∈ pairs, pair.2 ∈ more ∧ pair.2 ≠ "")
    (client : ∀ queue ∈ topology.queues.items, queue.serverNamed = false → newName pairs queue.name = queue.name) :
    Reissued heard more (newName pairs) topology (topology.renameAll pairs) where
  renamed := renameAllRenamed (unheard.separable listed within)
  once := renameAllOnce traced.once pairs
  resolve := renameAllResolve (unheard.separable listed within) fun old member =>
    traced.current old (keysSpoken (listed.recorded member))
  changed := fun name other => by
    have pair := (newNameEither pairs name).resolve_left other
    exact ⟨listed.recorded (List.mem_map_of_mem pair), unheard.apart pair other, given _ pair⟩
  client := client

end AmqpClient.Topology
