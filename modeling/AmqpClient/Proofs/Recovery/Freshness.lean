import AmqpClient.Proofs.Recovery.Exactness
import AmqpClient.Proofs.Recovery.Mirroring

/-! Servers that repeat no name of their own choice. Queues and consumers get the names that they are asked for
under, or names that were never given before; a replay then gives each recorded queue and each recorded consumer
a name that no other one has. -/
namespace AmqpClient

def Granted (before : List String) (asked given : String) : Prop := given = asked ∧ asked ≠ "" ∨ given ∉ before

namespace Asked

open TapedChannel

def Fresh (tape : List (Asked η)) (line : Asked η) : Prop :=
  match line.request, line.result with
  | .declareQueue name _, .ok (.declared queue) => Granted (declaredNames tape) name queue.queue
  | .consume consumer, .ok (.started tag) => Granted (startedTags tape) consumer.tag tag
  | _, _ => True

def declaredName? (line : Asked η) : Option String := line.declaration?.map QueueDeclared.queue

theorem startAsked {line : Asked η} {tag : String} (started : line.start? = some tag) :
    ∃ consumer, line.request = .consume consumer ∧ line.result = .ok (.started tag) := by
  unfold start? at started
  split at started
  · rename_i consumer answer request result
    cases started
    exact ⟨consumer, request, result⟩
  · cases started

end Asked

def FreshlyAnswered : List (Asked η) → List (Asked η) → Prop
  | _, [] => True
  | tape, line :: rest => line.Fresh tape ∧ FreshlyAnswered (tape ++ [line]) rest

theorem freshlyAnsweredAppend {tape lines more : List (Asked η)} :
    FreshlyAnswered tape (lines ++ more) ↔ FreshlyAnswered tape lines ∧ FreshlyAnswered (tape ++ lines) more := by
  induction lines generalizing tape with
  | nil => simp [FreshlyAnswered]
  | cons line rest ih => simp [FreshlyAnswered, ih, and_assoc]

namespace TapedChannel

theorem declaredNamesEach (lines : List (Asked η)) : declaredNames lines = lines.filterMap Asked.declaredName? :=
  List.map_filterMap

@[simp] theorem declaredNamesAppend (tape lines : List (Asked η)) :
    declaredNames (tape ++ lines) = declaredNames tape ++ declaredNames lines := by
  simp only [declaredNames, List.filterMap_append, List.map_append]

@[simp] theorem startedTagsAppend (tape lines : List (Asked η)) :
    startedTags (tape ++ lines) = startedTags tape ++ startedTags lines := List.filterMap_append

theorem answersUnheard {name? : Asked η → Option String} {items : List (String × Request)} {tape lines : List (Asked η)}
    (own : ∀ tape (line : Asked η) name, ∀ item ∈ items, line.Fresh tape → name? line = some name →
      line.request = item.2 → name ≠ item.1 → name ∉ tape.filterMap name?)
    (asked : (lines.filter fun line => (name? line).isSome).map Asked.request <+: items.map Prod.snd)
    (fresh : FreshlyAnswered tape lines) :
    Topology.Unheard (tape.filterMap name?) ((items.map Prod.fst).zip (lines.filterMap name?)) := by
  induction lines generalizing tape items with
  | nil =>
    rw [List.filterMap_nil, List.zip_nil_right]
    trivial
  | cons line rest ih =>
    obtain ⟨here, later⟩ := fresh
    cases answer : name? line with
    | none =>
      rw [List.filter_cons_of_neg (by simp [answer])] at asked
      rw [List.filterMap_cons_none answer]
      have all := ih own asked later
      rwa [List.filterMap_append, List.filterMap_cons_none answer, List.filterMap_nil, List.append_nil] at all
    | some name =>
      rw [List.filter_cons_of_pos (by simp [answer])] at asked
      rw [List.filterMap_cons_some answer]
      cases items with
      | nil => exact absurd (List.prefix_nil.mp asked) (List.cons_ne_nil _ _)
      | cons item items =>
        obtain ⟨same, asked⟩ := List.cons_prefix_cons.mp asked
        refine ⟨own tape line name item List.mem_cons_self here answer same, ?_⟩
        have all := ih (fun tape line name item member => own tape line name item (List.mem_cons_of_mem _ member))
          asked later
        rwa [List.filterMap_append, List.filterMap_cons_some answer, List.filterMap_nil] at all

theorem queuesUnheard {queues : List RecordedQueue} {replies : List QueueDeclared} {tape lines : List (Asked η)}
    (redeclared : Redeclared queues replies lines) (fresh : FreshlyAnswered tape lines) :
    Topology.Unheard (declaredNames tape) (renames queues replies) := by
  have pairs : renames queues replies
      = ((queues.map fun queue => (queue.name, queue.request)).map Prod.fst).zip
        (lines.filterMap Asked.declaredName?) := by
    rw [← declaredNamesEach, declaredNames, redeclared.answers, List.map_map]
    rfl
  rw [declaredNamesEach, pairs]
  refine answersUnheard (fun tape line name item member here answer same other => ?_) ?_ fresh
  · obtain ⟨queue, _, rfl⟩ := List.mem_map.mp member
    obtain ⟨given, declared, rfl⟩ := Option.map_eq_some_iff.mp answer
    obtain ⟨sent, options, request, result⟩ := Asked.declarationAsked declared
    have granted : Granted (declaredNames tape) sent given.queue := by
      unfold Asked.Fresh at here
      rwa [request, result] at here
    have its : sent = if queue.serverNamed then "" else queue.name := by
      rw [request] at same
      exact (Request.declareQueue.inj same).1
    rw [← declaredNamesEach]
    refine granted.resolve_left fun asked => other (asked.1.trans ?_)
    obtain ⟨_, named⟩ := asked
    rw [its] at named ⊢
    split at named
    · exact absurd rfl named
    · exact if_neg ‹_›
  · have asked := redeclared.asked
    simp only [Asked.declaredName?, Option.isSome_map, List.map_map]
    exact asked

theorem consumersUnheard {consumers : Catalog RecordedConsumer} {tape lines : List (Asked η)}
    (restarted : Restarted consumers.items lines) (fresh : FreshlyAnswered tape lines) :
    Topology.Unheard (startedTags tape) (consumers.keys.zip (startedTags lines)) := by
  have pairs : consumers.keys
      = (consumers.items.map fun consumer => (consumer.tag, Request.consume consumer)).map Prod.fst := by
    rw [List.map_map]
    rfl
  rw [pairs]
  refine answersUnheard (fun tape line tag item member here answer same other => ?_) ?_ fresh
  · obtain ⟨consumer, _, rfl⟩ := List.mem_map.mp member
    obtain ⟨sent, request, result⟩ := Asked.startAsked answer
    obtain rfl : sent = consumer := Request.consume.inj (request.symm.trans same)
    have granted : Granted (startedTags tape) sent.tag tag := by
      unfold Asked.Fresh at here
      rwa [request, result] at here
    exact granted.resolve_left fun asked => other asked.1
  · rw [List.map_map]
    exact restarted

end TapedChannel

end AmqpClient
