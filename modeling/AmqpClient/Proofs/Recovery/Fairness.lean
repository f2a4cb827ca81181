import AmqpClient.Proofs.Topology.Reissuing
import AmqpClient.Proofs.Recovery.Exactness

/-! Servers that name queues fairly: as they are asked to, and where the choice is their own never by a name that
was used before. What such a server answers to a replay gives the recorded queues names that nobody else has. -/
namespace AmqpClient

namespace Request

def queueNames : Request → List String
  | bind binding | unbind binding => binding.queue?.toList
  | declareQueue name _ | checkQueue name | purgeQueue name | deleteQueue name _ | get name _ | fetch name _ => [name]
  | consume consumer => [consumer.queue]
  | _ => []

end Request

namespace Asked

def names (line : Asked η) : List String := line.request.queueNames ++ line.givenName?.toList

/- A queue gets the name that it was declared under, or a new one if it was declared under none. -/
def Fair (heard : List String) (line : Asked η) : Prop :=
  match line.request, line.result with
  | .declareQueue name _, .ok (.declared queue) =>
    if name = "" then queue.queue ∉ "" :: heard else queue.queue = name
  | _, _ => True

theorem fairDeclaration {heard : List String} {line : Asked η} {name : String} {options : QueueOptions}
    {queue : QueueDeclared} (fair : line.Fair heard) (request : line.request = .declareQueue name options)
    (result : line.result = .ok (.declared queue)) :
    if name = "" then queue.queue ∉ "" :: heard else queue.queue = name := by
  unfold Fair at fair
  rwa [request, result] at fair

end Asked

def usedNames (tape : List (Asked η)) : List String := tape.flatMap Asked.names

def FairlyAnswered : List String → List (Asked η) → Prop
  | _, [] => True
  | heard, line :: rest => line.Fair heard ∧ FairlyAnswered (heard ++ line.names) rest

theorem fairlyAnsweredAppend {heard : List String} {tape lines : List (Asked η)} :
    FairlyAnswered heard (tape ++ lines) ↔
      FairlyAnswered heard tape ∧ FairlyAnswered (heard ++ usedNames tape) lines := by
  induction tape generalizing heard with
  | nil => simp [FairlyAnswered, usedNames]
  | cons line rest ih => simp [FairlyAnswered, usedNames, ih, and_assoc, List.append_assoc]

theorem fairlyNamedFewer {heard fewer : List String} {queues : List RecordedQueue} {names : List String}
    (within : fewer ⊆ heard) (fair : FairlyNamed heard queues names) : FairlyNamed fewer queues names := by
  induction queues generalizing heard fewer names with
  | nil => cases names <;> trivial
  | cons queue queues ih =>
    cases names with
    | nil => trivial
    | cons name names =>
      obtain ⟨here, later⟩ := fair
      refine ⟨?_, ih (List.append_subset.mpr ⟨?_, List.subset_append_right ..⟩) later⟩
      · split at here
        · rename_i server
          exact (if_pos server).mpr fun member => here (within member)
        · rename_i client
          exact (if_neg client).mpr here
      · exact List.Subset.trans within (List.subset_append_left ..)

theorem fairlyAnsweredNamed {heard : List String} {queues : List RecordedQueue} {lines : List (Asked η)}
    (asked : (lines.filter fun line => line.declaration?.isSome).map Asked.request <+: queues.map RecordedQueue.request)
    (named : ∀ queue ∈ queues, queue.name ≠ "") (fair : FairlyAnswered heard lines) :
    FairlyNamed heard queues (TapedChannel.declaredNames lines) := by
  induction lines generalizing heard queues with
  | nil => cases queues <;> trivial
  | cons line rest ih =>
    obtain ⟨here, later⟩ := fair
    unfold TapedChannel.declaredNames
    cases declared : line.declaration? with
    | none =>
      rw [List.filter_cons_of_neg (by simp [declared])] at asked
      rw [List.filterMap_cons_none declared]
      exact fairlyNamedFewer (List.subset_append_left ..) (ih asked named later)
    | some answer =>
      rw [List.filter_cons_of_pos (by simp [declared])] at asked
      rw [List.filterMap_cons_some declared]
      obtain ⟨name, options, request, result⟩ := Asked.declarationAsked declared
      cases queues with
      | nil => exact absurd (List.prefix_nil.mp asked) (List.cons_ne_nil _ _)
      | cons queue queues =>
        obtain ⟨same, asked⟩ := List.cons_prefix_cons.mp asked
        obtain ⟨given, named⟩ := List.forall_mem_cons.mp named
        have its : name = if queue.serverNamed then "" else queue.name := by
          rw [request, RecordedQueue.request] at same
          exact (Request.declareQueue.inj same).1
        have answered := Asked.fairDeclaration here request result
        have within : answer.queue ∈ line.names :=
          List.mem_append_right _ (by simp [Asked.declarationGives declared])
        refine ⟨?_, fairlyNamedFewer ?_ (ih asked named later)⟩
        · split
          · rename_i server
            rw [its, if_pos server, if_pos rfl] at answered
            exact (List.ne_and_not_mem_of_not_mem_cons answered).2
          · rename_i client
            rw [its, if_neg client, if_neg given] at answered
            exact answered
        · exact List.append_subset.mpr ⟨List.subset_append_left ..,
            List.cons_subset.mpr ⟨List.mem_append_right _ within, List.nil_subset _⟩⟩

theorem fairlyAnsweredGiven {heard : List String} {lines : List (Asked η)} (fair : FairlyAnswered heard lines) :
    ∀ name ∈ TapedChannel.declaredNames lines, name ∈ usedNames lines ∧ name ≠ "" := by
  induction lines generalizing heard with
  | nil => exact List.forall_mem_nil _
  | cons line rest ih =>
    obtain ⟨here, later⟩ := fair
    have others (name : String) (member : name ∈ TapedChannel.declaredNames rest) :
        name ∈ usedNames (line :: rest) ∧ name ≠ "" :=
      (ih later name member).imp_left (List.mem_append_right _)
    unfold TapedChannel.declaredNames
    cases declared : line.declaration? with
    | none =>
      rw [List.filterMap_cons_none declared]
      exact others
    | some answer =>
      rw [List.filterMap_cons_some declared]
      obtain ⟨name, options, request, result⟩ := Asked.declarationAsked declared
      refine List.forall_mem_cons.mpr ⟨⟨?_, ?_⟩, others⟩
      · have given := Asked.declarationGives declared
        exact List.mem_append_left _ (List.mem_append_right _ (by simp [given]))
      · have answered := Asked.fairDeclaration here request result
        split at answered
        · exact (List.ne_and_not_mem_of_not_mem_cons answered).1
        · rename_i asked
          exact answered ▸ asked

theorem fairlyNamedClients {given : List String} {queues : List RecordedQueue} {names : List String}
    (fair : FairlyNamed given queues names) {old new : String}
    (member : (old, new) ∈ (queues.map RecordedQueue.name).zip names) :
    ∃ queue ∈ queues, queue.name = old ∧ (queue.serverNamed = false → new = old) := by
  induction queues generalizing given names with
  | nil => exact absurd member List.not_mem_nil
  | cons queue queues ih =>
    cases names with
    | nil => exact absurd member List.not_mem_nil
    | cons name names =>
      obtain ⟨here, later⟩ := fair
      rcases List.mem_cons.mp member with same | others
      · cases same
        refine ⟨queue, List.mem_cons_self, rfl, fun client => ?_⟩
        rwa [if_neg (by simp [client])] at here
      · obtain ⟨other, inside, its⟩ := ih later others
        exact ⟨other, List.mem_cons_of_mem _ inside, its⟩

namespace TapedChannel

theorem replayReissues {heard : List String} {topology : Topology} {replies : List QueueDeclared}
    {lines : List (Asked η)} (distinct : topology.queues.keys.Nodup) (traced : topology.Traced heard)
    (redeclared : Redeclared topology.queues.items replies lines) (fair : FairlyAnswered heard lines) :
    Topology.Reissued heard (heard ++ usedNames lines) (newName (topology.queues.keys.zip (declaredNames lines)))
      topology (topology.renameAll (renames topology.queues.items replies)) := by
  have pairs : renames topology.queues.items replies = topology.queues.keys.zip (declaredNames lines) := by
    rw [declaredNames, redeclared.answers]
    rfl
  have named : ∀ queue ∈ topology.queues.items, queue.name ≠ "" :=
    fun queue member empty => traced.named (empty ▸ List.mem_map_of_mem member)
  have renamed := fairlyAnsweredNamed redeclared.asked named fair
  rw [pairs]
  refine Topology.renameAllReissued traced (Catalog.listedZip distinct _) ?_
    (fairlyNamedUnheard renamed) ?_ ?_
  · exact fun name member => traced.spoken (Topology.keysSpoken member)
  · intro pair member
    exact (fairlyAnsweredGiven fair pair.2 (List.of_mem_zip member).2).imp_left (List.mem_append_right _)
  · intro queue member client
    by_contra other
    have pair := (Topology.newNameEither _ _).resolve_left other
    obtain ⟨same, inside, its, kept⟩ := fairlyNamedClients renamed pair
    obtain rfl := List.inj_on_of_nodup_map distinct inside member its
    exact other (kept client)

end TapedChannel

end AmqpClient
