import AmqpClient.Proofs.Topology.Aliases
import AmqpClient.Proofs.Topology.Forgetting

/-! Where the names of queues lead. Every name under which a recorded queue was ever known leads to its present
name, and a queue is only spoken of by its present name; when a queue is forgotten, its names lead nowhere. All
of this holds as long as names that come new were never heard before. -/
namespace AmqpClient

namespace RecordedBinding

def queue? (binding : RecordedBinding) : Option String :=
  match binding.kind with
  | .queue => some binding.destination
  | .exchange => none

theorem queueRenamed (newName : String → String) (binding : RecordedBinding) :
    (binding.renamed newName).queue? = binding.queue?.map newName := by
  obtain ⟨kind, source, destination, routingKey, arguments⟩ := binding
  cases kind <;> rfl

end RecordedBinding

namespace Topology

def spoken (topology : Topology) : List String :=
  topology.queues.keys ++ topology.bindings.filterMap RecordedBinding.queue?
    ++ topology.consumers.items.map RecordedConsumer.queue

def still (topology : Topology) (name : String) : Option String :=
  if name ∈ topology.queues.keys then some name else none

structure Traced (heard : List String) (topology : Topology) : Prop where
  once : topology.queueAliases.names.Nodup
  recorded : ∀ name, topology.resolveQueue name ≠ name → topology.resolveQueue name ∈ topology.queues.keys
  retired : ∀ name, topology.resolveQueue name ≠ name → name ∈ heard ∧ name ≠ ""
  current : ∀ name ∈ topology.spoken, topology.resolveQueue name = name
  spoken : topology.spoken ⊆ heard
  named : "" ∉ topology.queues.keys

/- What has become of a queue that was known under a name: its present name, or none if it is forgotten. A
forgotten name may be given anew by the application, but not by the server. -/
def Leads (topology : Topology) (name : String) : Option String → Prop
  | some current => current ∈ topology.queues.keys ∧ topology.resolveQueue name = current
  | none => topology.resolveQueue name = name ∧
      ∀ queue ∈ topology.queues.items, queue.name = name → queue.serverNamed = false

structure Passes (heard more : List String) (rename : String → String) (topology next : Topology) : Prop where
  traced : Traced more next
  leads : ∀ name ∈ heard, ∀ fate, topology.Leads name fate →
    next.Leads name (fate.bind fun current => next.still (rename current))

variable {heard more : List String} {topology next : Topology} {name : String}

theorem keysSpoken (member : name ∈ topology.queues.keys) : name ∈ topology.spoken :=
  List.mem_append_left _ (List.mem_append_left _ member)

theorem spokenIff : name ∈ topology.spoken ↔ name ∈ topology.queues.keys ∨
    name ∈ topology.bindings.filterMap RecordedBinding.queue? ∨
    name ∈ topology.consumers.items.map RecordedConsumer.queue := by
  rw [spoken, List.mem_append, List.mem_append, or_assoc]

theorem stillRecorded (member : name ∈ topology.queues.keys) : topology.still name = some name := if_pos member

theorem stillGone (absent : name ∉ topology.queues.keys) : topology.still name = none := if_neg absent

namespace Traced

theorem empty : Traced heard {} where
  once := List.nodup_nil
  recorded := fun _ other => absurd rfl other
  retired := fun _ other => absurd rfl other
  current := List.forall_mem_nil _
  spoken := List.nil_subset _
  named := List.not_mem_nil

theorem grow (traced : Traced heard topology) (within : heard ⊆ more) : Traced more topology where
  once := traced.once
  recorded := traced.recorded
  retired := fun name other => (traced.retired name other).imp_left (within ·)
  current := traced.current
  spoken := List.Subset.trans traced.spoken within
  named := traced.named

theorem resolveTwice (traced : Traced heard topology) (name : String) :
    topology.resolveQueue (topology.resolveQueue name) = topology.resolveQueue name := by
  by_cases same : topology.resolveQueue name = name
  · rw [same, same]
  · exact traced.current _ (keysSpoken (traced.recorded name same))

theorem resolveEmpty (traced : Traced heard topology) : topology.resolveQueue "" = "" := by
  by_contra other
  exact (traced.retired "" other).2 rfl

theorem resolveNamed (traced : Traced heard topology) (given : name ≠ "") : topology.resolveQueue name ≠ "" := by
  by_cases same : topology.resolveQueue name = name
  · rwa [same]
  · exact fun empty => traced.named (empty ▸ traced.recorded name same)

end Traced

theorem Forgets.spoken {gone : List String} (forgets : Forgets gone topology next) : next.spoken ⊆ topology.spoken := by
  refine List.append_subset.mpr ⟨List.append_subset.mpr ⟨fun name member => ?_, fun name member => ?_⟩, ?_⟩
  · exact keysSpoken ((forgets.sublist.map _).subset member)
  · exact List.mem_append_left _ (List.mem_append_right _ (List.filterMap_subset _ forgets.bindings.subset member))
  · exact List.Subset.trans forgets.consumers (List.subset_append_right ..)

theorem Forgets.keys {gone : List String} (forgets : Forgets gone topology next) :
    name ∈ next.queues.keys ↔ name ∈ topology.queues.keys ∧ name ∉ gone := by
  constructor
  · intro member
    obtain ⟨queue, inside, rfl⟩ := List.mem_map.mp member
    rw [forgets.queues] at inside
    obtain ⟨before, stays⟩ := List.mem_filter.mp inside
    exact ⟨List.mem_map_of_mem before, by simpa [Keyed.key] using stays⟩
  · rintro ⟨member, stays⟩
    obtain ⟨queue, inside, rfl⟩ := List.mem_map.mp member
    refine List.mem_map_of_mem ?_
    rw [forgets.queues]
    exact List.mem_filter.mpr ⟨inside, by simpa [Keyed.key] using stays⟩

theorem Forgets.resolve {gone : List String} (once : topology.queueAliases.names.Nodup)
    (forgets : Forgets gone topology next) (name : String) :
    next.resolveQueue name = if topology.resolveQueue name ∈ gone then name else topology.resolveQueue name := by
  have kept := @Aliases.keptResolve topology.queueAliases next.queueAliases
    (fun current => !gone.contains current) once forgets.aliases name
  by_cases goes : topology.resolveQueue name ∈ gone
  · rw [if_pos goes]
    exact kept.trans (if_neg (by simpa [resolveQueue] using goes))
  · rw [if_neg goes]
    exact kept.trans (if_pos (by simpa [resolveQueue] using goes))

theorem Forgets.traced {gone : List String} (forgets : Forgets gone topology next) (traced : Traced heard topology) :
    Traced heard next := by
  have resolve := forgets.resolve traced.once
  have before (name : String) (other : next.resolveQueue name ≠ name) :
      topology.resolveQueue name ∉ gone ∧ topology.resolveQueue name ≠ name := by
    rw [resolve] at other
    split at other
    · exact absurd rfl other
    · rename_i stays
      exact ⟨stays, other⟩
  refine ⟨?_, fun name other => ?_, fun name other => ?_, fun name member => ?_, ?_, fun empty => ?_⟩
  · refine traced.once.sublist ?_
    unfold Aliases.names
    rw [forgets.aliases]
    exact List.filter_sublist.map _
  · obtain ⟨stays, different⟩ := before name other
    rw [resolve, if_neg stays]
    exact forgets.keys.mpr ⟨traced.recorded name different, stays⟩
  · exact traced.retired name (before name other).2
  · rw [resolve, traced.current name (forgets.spoken member), ite_self]
  · exact List.Subset.trans forgets.spoken traced.spoken
  · exact traced.named (forgets.keys.mp empty).1

theorem Forgets.leads {gone : List String} (forgets : Forgets gone topology next) (traced : Traced heard topology)
    {fate : Option String} (led : topology.Leads name fate) : next.Leads name (fate.bind next.still) := by
  have resolve := forgets.resolve traced.once name
  cases fate with
  | none =>
    obtain ⟨itself, given⟩ := led
    refine ⟨?_, fun queue member => given queue (forgets.sublist.subset member)⟩
    rw [resolve, itself, ite_self]
  | some current =>
    obtain ⟨recorded, leads⟩ := led
    rw [Option.bind_some]
    by_cases goes : current ∈ gone
    · rw [stillGone fun member => (forgets.keys.mp member).2 goes]
      refine ⟨by rw [resolve, leads, if_pos goes], fun queue member same => ?_⟩
      -- else the name would be the present one of another queue, and lead to it
      obtain ⟨before, stays⟩ := forgets.keys.mp (List.mem_map.mpr ⟨queue, member, same⟩)
      rw [traced.current name (keysSpoken before)] at leads
      exact absurd (leads ▸ goes) stays
    · have stays : current ∈ next.queues.keys := forgets.keys.mpr ⟨recorded, goes⟩
      rw [stillRecorded stays]
      exact ⟨stays, by rw [resolve, leads, if_neg goes]⟩

namespace Passes

variable {middle : Topology} {rename : String → String} {gone : List String}

theorem grow {all : List String} (passes : Passes heard more rename topology next) (within : more ⊆ all) :
    Passes heard all rename topology next :=
  ⟨passes.traced.grow within, passes.leads⟩

theorem ofForgets (traced : Traced heard topology) (forgets : Forgets gone topology next) :
    Passes heard heard id topology next :=
  ⟨forgets.traced traced, fun _ _ _ led => forgets.leads traced led⟩

theorem refl (traced : Traced heard topology) : Passes heard heard id topology topology :=
  ofForgets traced (.refl topology)

theorem forget (passes : Passes heard more rename topology middle) (forgets : Forgets gone middle next) :
    Passes heard more rename topology next := by
  refine ⟨forgets.traced passes.traced, fun name member fate led => ?_⟩
  have after := forgets.leads passes.traced (passes.leads name member fate led)
  cases fate with
  | none => exact after
  | some current =>
    rw [Option.bind_some] at after ⊢
    by_cases recorded : rename current ∈ middle.queues.keys
    · rwa [stillRecorded recorded] at after
    · rw [stillGone recorded] at after
      rwa [stillGone fun kept => recorded (forgets.keys.mp kept).1]

theorem added (traced : Traced heard topology) (aliases : next.queueAliases = topology.queueAliases)
    (keys : topology.queues.keys ⊆ next.queues.keys)
    (spoken : ∀ name ∈ next.spoken,
      name ∈ topology.spoken ∨ topology.resolveQueue name = name ∧ name ∈ more)
    (within : heard ⊆ more) (named : "" ∉ next.queues.keys)
    (given : ∀ queue ∈ next.queues.items, queue ∈ topology.queues.items ∨ (queue.serverNamed = true →
      queue.name ∉ heard ∨ ∃ known ∈ topology.queues.items, known.name = queue.name ∧ known.serverNamed = true)) :
    Passes heard more id topology next := by
  have resolve (name : String) : next.resolveQueue name = topology.resolveQueue name :=
    congrArg (Aliases.resolve · name) aliases
  refine ⟨⟨aliases ▸ traced.once, fun name other => ?_, fun name other => ?_, fun name member => ?_,
    fun name member => ?_, named⟩, fun name known fate led => ?_⟩
  · rw [resolve] at other ⊢
    exact keys (traced.recorded name other)
  · rw [resolve] at other
    exact (traced.retired name other).imp_left (within ·)
  · rw [resolve]
    exact (spoken name member).elim (traced.current name) And.left
  · exact (spoken name member).elim (fun before => within (traced.spoken before)) And.right
  · cases fate with
    | some current =>
      obtain ⟨recorded, leads⟩ := led
      rw [Option.bind_some, id, stillRecorded (keys recorded)]
      exact ⟨keys recorded, (resolve name).trans leads⟩
    | none =>
      obtain ⟨itself, client⟩ := led
      refine ⟨(resolve name).trans itself, fun queue member same => ?_⟩
      rcases given queue member with before | chosen
      · exact client queue before same
      · by_contra server
        rcases chosen (Bool.not_eq_false _ ▸ server) with fresh | ⟨other, inside, its, chosen⟩
        · exact fresh (same ▸ known)
        · exact absurd (client other inside (its.trans same)) (by simp [chosen])

end Passes

theorem recordQueueSpoken {queue : RecordedQueue}
    (member : name ∈ (topology.recordQueue queue).spoken) :
    name = queue.name ∨ name ∈ topology.spoken := by
  rcases spokenIff.mp member with key | users
  · exact (Catalog.recordMember.mp key).imp_right keysSpoken
  · exact .inr (spokenIff.mpr (.inr users))

theorem recordBindingSpoken {binding : RecordedBinding}
    (member : name ∈ (topology.recordBinding binding).spoken) : name ∈ binding.queue? ∨ name ∈ topology.spoken := by
  unfold recordBinding at member
  split at member
  · exact .inr member
  · rcases spokenIff.mp member with key | bound | fed
    · exact .inr (keysSpoken key)
    · rw [List.filterMap_append] at bound
      rcases List.mem_append.mp bound with before | new
      · exact .inr (spokenIff.mpr (.inr (.inl before)))
      · exact .inl (by simpa using new)
    · exact .inr (spokenIff.mpr (.inr (.inr fed)))

theorem recordConsumerSpoken {consumer : RecordedConsumer}
    (member : name ∈ (topology.recordConsumer consumer).spoken) : name = consumer.queue ∨ name ∈ topology.spoken := by
  rcases spokenIff.mp member with key | bound | fed
  · exact .inr (keysSpoken key)
  · exact .inr (spokenIff.mpr (.inr (.inl bound)))
  · obtain ⟨other, among, rfl⟩ := List.mem_map.mp fed
    rcases Catalog.recordItem among with rfl | before
    · exact .inl rfl
    · exact .inr (spokenIff.mpr (.inr (.inr (List.mem_map_of_mem before))))

theorem recordQueuePasses (traced : Traced heard topology) {queue : RecordedQueue} (named : queue.name ≠ "")
    (current : topology.resolveQueue queue.name = queue.name) (within : heard ⊆ more) (inside : queue.name ∈ more)
    (chosen : queue.serverNamed = true → queue.name ∉ heard ∨
      ∃ known ∈ topology.queues.items, known.name = queue.name ∧ known.serverNamed = true) :
    Passes heard more id topology (topology.recordQueue queue) := by
  refine .added traced rfl (fun name member => Catalog.recordMember.mpr (.inr member)) ?_ within ?_ ?_
  · intro name member
    rcases recordQueueSpoken member with rfl | before
    · exact .inr ⟨current, inside⟩
    · exact .inl before
  · intro empty
    rcases Catalog.recordMember.mp empty with itself | before
    · exact named itself.symm
    · exact traced.named before
  · intro other member
    rcases Catalog.recordItem member with rfl | before
    · exact .inr chosen
    · exact .inl before

theorem recordBindingPasses (traced : Traced heard topology) {binding : RecordedBinding} (within : heard ⊆ more)
    (current : ∀ name ∈ binding.queue?, topology.resolveQueue name = name ∧ name ∈ more) :
    Passes heard more id topology (topology.recordBinding binding) := by
  have spoken : ∀ name ∈ (topology.recordBinding binding).spoken,
      name ∈ topology.spoken ∨ topology.resolveQueue name = name ∧ name ∈ more :=
    fun name member => (recordBindingSpoken member).symm.imp_right (current name)
  obtain ⟨bindings, unchanged⟩ := topology.recordBindingElse binding
  rw [unchanged] at spoken ⊢
  exact .added traced rfl (List.Subset.refl _) spoken within traced.named fun queue member => .inl member

theorem recordConsumerPasses (traced : Traced heard topology) {consumer : RecordedConsumer} (within : heard ⊆ more)
    (current : topology.resolveQueue consumer.queue = consumer.queue) (inside : consumer.queue ∈ more) :
    Passes heard more id topology (topology.recordConsumer consumer) := by
  refine .added traced rfl (List.Subset.refl _) ?_ within traced.named fun queue member => .inl member
  intro name member
  rcases recordConsumerSpoken member with rfl | before
  · exact .inr ⟨current, inside⟩
  · exact .inl before

end Topology

end AmqpClient
