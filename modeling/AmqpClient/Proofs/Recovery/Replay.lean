import AmqpClient.Proofs.Recovery.Transcript
import AmqpClient.Proofs.Topology.Renaming
import AmqpClient.Proofs.Topology.Retagging

/-! Replaying what is recorded on a taped link. Each loop of the replay leaves its requests on the tape, in
the order of the records, up to the first that is not answered as it should be; of the record it changes
only the names that come back different. -/
namespace AmqpClient

namespace Request

def isPlain : Request → Bool
  | declareQueue .. => false
  | consume _ => false
  | _ => true

end Request

namespace Asked

def givenName? (line : Asked η) : Option String :=
  match line.result with
  | .ok (.declared queue) => some queue.queue
  | _ => none

def declaration? (line : Asked η) : Option QueueDeclared :=
  match line.request, line.result with
  | .declareQueue .., .ok (.declared queue) => some queue
  | _, _ => none

def start? (line : Asked η) : Option String :=
  match line.request, line.result with
  | .consume _, .ok (.started tag) => some tag
  | _, _ => none

theorem declarationAsked {line : Asked η} {queue : QueueDeclared} (declared : line.declaration? = some queue) :
    ∃ name options, line.request = .declareQueue name options ∧ line.result = .ok (.declared queue) := by
  unfold declaration? at declared
  split at declared
  · rename_i name options answer request result
    cases declared
    exact ⟨name, options, request, result⟩
  · cases declared

theorem declarationGives {line : Asked η} {queue : QueueDeclared} (declared : line.declaration? = some queue) :
    line.givenName? = some queue.queue := by
  obtain ⟨_, _, _, result⟩ := declarationAsked declared
  simp [givenName?, result]

def answered (line : Asked η) : Bool :=
  match line.request, line.result with
  | .declareQueue .., .ok (.declared _) => true
  | .consume _, .ok (.started _) => true
  | request, .ok _ => request.isPlain
  | _, .error _ => false

theorem answeredPlain {line : Asked η} {reply : Reply} (plain : line.request.isPlain)
    (granted : line.result = .ok reply) : line.answered := by
  unfold answered
  split
  · rfl
  · rfl
  · exact plain
  · rename_i error
    exact absurd (granted.symm.trans error) (by simp)

theorem failedUnanswered {line : Asked η} {e : Error} (failed : line.result = .error e) :
    line.answered = false := by
  unfold answered
  simp [failed]

end Asked

namespace ChannelRecord

def renameAll (record : ChannelRecord) (pairs : List (String × String)) : ChannelRecord :=
  { record with topology := record.topology.renameAll pairs }

def retagAll (record : ChannelRecord) (pairs : List (String × String)) : ChannelRecord :=
  pairs.foldl (fun record pair => record.retag pair.1 pair.2) record

theorem insertTagTopology (record : ChannelRecord) (tag : String) :
    (record.insertTag tag).topology = record.topology := by
  unfold insertTag
  split <;> rfl

theorem retagTopology (record : ChannelRecord) (old new : String) :
    (record.retag old new).topology = record.topology.updateTag old new := by
  unfold retag
  split
  · rename_i same
    exact (if_pos same).symm
  · exact insertTagTopology _ new

theorem retagAllTopology (record : ChannelRecord) (pairs : List (String × String)) :
    (record.retagAll pairs).topology = record.topology.updateAllTags pairs :=
  (List.foldl_hom topology fun record pair => (retagTopology record pair.1 pair.2).symm).symm

theorem retagAllForgets (record : ChannelRecord) (pairs : List (String × String)) :
    Topology.Forgets [] record.topology (record.retagAll pairs).topology :=
  retagAllTopology record pairs ▸ record.topology.updateAllTagsForgets pairs

end ChannelRecord

def givenNames (tape : List (Asked η)) : List String := tape.filterMap Asked.givenName?

@[simp] theorem givenNamesAppend (tape lines : List (Asked η)) :
    givenNames (tape ++ lines) = givenNames tape ++ givenNames lines := List.filterMap_append

def startedTags (lines : List (Asked η)) : List String := lines.filterMap Asked.start?

def Answered (lines : List (Asked η)) : Prop := ∀ line ∈ lines, line.answered

namespace TapedChannel

variable {ω η κ : Type} (link : Link ω η κ)

/- How far a list of requests came: to its end, or to one that was not answered as it should be. -/
structure Played (list : List Request) (lines : List (Asked η)) (before after : TapedChannel ω η κ)
    (result : Except Error Unit) : Prop where
  grown : Grown lines before after
  asked : lines.map Asked.request <+: list
  verdict : result = .ok () ↔ Answered lines
  complete : Answered lines → lines.map Asked.request = list

namespace Played

variable {list rest : List Request} {lines more : List (Asked η)} {self middle last : TapedChannel ω η κ}
  {result : Except Error Unit} {e other : Error}

theorem nil : Played [] [] self self (.ok ()) :=
  ⟨.refl self, List.nil_prefix, iff_of_true rfl (List.forall_mem_nil _), fun _ => rfl⟩

theorem stop (grown : Grown lines self last) (asked : lines.map Asked.request <+: list) (stuck : ¬ Answered lines) :
    Played list lines self last (.error e) :=
  ⟨grown, asked, iff_of_false (by simp) stuck, fun all => absurd all stuck⟩

theorem unanswered (played : Played list lines self last (.error e)) : ¬ Answered lines :=
  fun all => absurd (played.verdict.mpr all) (by simp)

theorem stopped (played : Played list lines self last (.error e)) (longer : list <+: rest) :
    Played rest lines self last (.error other) :=
  stop played.grown (played.asked.trans longer) played.unanswered

theorem trans (one : Played list lines self middle (.ok ())) (two : Played rest more middle last result) :
    Played (list ++ rest) (lines ++ more) self last result where
  grown := one.grown.trans two.grown
  asked := by
    rw [List.map_append, one.complete (one.verdict.mp rfl)]
    exact (List.prefix_append_right_inj list).mpr two.asked
  verdict := two.verdict.trans
    ⟨fun all => List.forall_mem_append.mpr ⟨one.verdict.mp rfl, all⟩, fun all => (List.forall_mem_append.mp all).2⟩
  complete := fun all => by
    rw [List.map_append, one.complete (one.verdict.mp rfl), two.complete (List.forall_mem_append.mp all).2]

end Played

theorem askPlayed {self : TapedChannel ω η κ} {request : Request} {result : Except Error Reply}
    {middle : TapedChannel ω η κ} (asked : self.ask link.taped request = (result, middle))
    (good : (⟨self.delegate, request, result⟩ : Asked η).answered) :
    Played [request] [⟨self.delegate, request, result⟩] self middle (.ok ()) := by
  have grown := askGrown link self request
  rw [asked] at grown
  exact ⟨grown, List.prefix_rfl, ⟨fun _ => List.forall_mem_singleton.mpr good, fun _ => rfl⟩, fun _ => rfl⟩

theorem askStopped {self : TapedChannel ω η κ} {request : Request} {result : Except Error Reply}
    {middle : TapedChannel ω η κ} (asked : self.ask link.taped request = (result, middle))
    (bad : (⟨self.delegate, request, result⟩ : Asked η).answered = false) (rest : List Request) (e : Error) :
    Played (request :: rest) [⟨self.delegate, request, result⟩] self middle (.error e) := by
  have grown := askGrown link self request
  rw [asked] at grown
  exact .stop grown ⟨rest, rfl⟩ fun all => absurd (List.forall_mem_singleton.mp all) (by simp [bad])

theorem requestsPlayed {list : List Request} (plain : ∀ request ∈ list, request.isPlain)
    (self : TapedChannel ω η κ) :
    ∃ lines, Played list lines self (Replay.requests (RecoveringChannel.ask link.taped) list self).2
      (Replay.requests (RecoveringChannel.ask link.taped) list self).1 := by
  induction list generalizing self with
  | nil => exact ⟨[], .nil⟩
  | cons request rest ih =>
    obtain ⟨here, plain⟩ := List.forall_mem_cons.mp plain
    unfold Replay.requests
    rcases asked : self.ask link.taped request with ⟨e | reply, middle⟩
    · exact ⟨_, askStopped link asked (Asked.failedUnanswered rfl) _ e⟩
    · obtain ⟨lines, played⟩ := ih plain middle
      exact ⟨_, (askPlayed link asked (Asked.answeredPlain here rfl)).trans played⟩

def renames (queues : List RecordedQueue) (replies : List QueueDeclared) : List (String × String) :=
  (queues.map RecordedQueue.name).zip (replies.map QueueDeclared.queue)

theorem renamesGiven {queues : List RecordedQueue} {replies : List QueueDeclared} {names : List String}
    (given : ∀ reply ∈ replies, reply.queue ∈ names) : ∀ pair ∈ renames queues replies, pair.2 ∈ names := by
  intro pair member
  obtain ⟨reply, answer, same⟩ := List.mem_map.mp (List.of_mem_zip member).2
  exact same ▸ given reply answer

structure Redeclared (queues : List RecordedQueue) (replies : List QueueDeclared) (lines : List (Asked η)) : Prop where
  answers : lines.filterMap Asked.declaration? = replies
  asked : (lines.filter fun line => line.declaration?.isSome).map Asked.request <+: queues.map RecordedQueue.request

namespace Redeclared

variable {queues : List RecordedQueue} {replies : List QueueDeclared} {lines more : List (Asked η)}

theorem filterUndeclared (silent : ∀ line ∈ lines, line.declaration? = none) :
    (lines.filter fun line => line.declaration?.isSome) = [] :=
  List.filter_eq_nil_iff.mpr fun line member => by simp [silent line member]

theorem none (silent : ∀ line ∈ lines, line.declaration? = none) : Redeclared queues [] lines where
  answers := List.filterMap_eq_nil_iff.mpr silent
  asked := by
    rw [filterUndeclared silent]
    exact List.nil_prefix

theorem before (redeclared : Redeclared queues replies lines) (silent : ∀ line ∈ more, line.declaration? = .none) :
    Redeclared queues replies (lines ++ more) where
  answers := by
    rw [List.filterMap_append, List.filterMap_eq_nil_iff.mpr silent, List.append_nil, redeclared.answers]
  asked := by
    rw [List.filter_append, filterUndeclared silent, List.append_nil]
    exact redeclared.asked

theorem after (redeclared : Redeclared queues replies lines) (silent : ∀ line ∈ more, line.declaration? = .none) :
    Redeclared queues replies (more ++ lines) where
  answers := by rw [List.filterMap_append, List.filterMap_eq_nil_iff.mpr silent, redeclared.answers, List.nil_append]
  asked := by
    rw [List.filter_append, filterUndeclared silent]
    exact redeclared.asked

theorem given (redeclared : Redeclared queues replies lines) : ∀ reply ∈ replies, reply.queue ∈ givenNames lines := by
  intro reply member
  obtain ⟨line, inside, declared⟩ := List.mem_filterMap.mp (redeclared.answers ▸ member)
  exact List.mem_filterMap.mpr ⟨line, inside, Asked.declarationGives declared⟩

end Redeclared

theorem queuesPlayed (queues : List RecordedQueue) (record : ChannelRecord) (self : TapedChannel ω η κ) :
    ∃ replies lines,
      Played (queues.map RecordedQueue.request) lines self
        (Replay.queues (RecoveringChannel.ask link.taped) queues record self).2.2
        (Replay.queues (RecoveringChannel.ask link.taped) queues record self).1 ∧
      (Replay.queues (RecoveringChannel.ask link.taped) queues record self).2.1
        = record.renameAll (renames queues replies) ∧
      Redeclared queues replies lines ∧
      (Answered lines → replies.length = queues.length) := by
  induction queues generalizing record self with
  | nil => exact ⟨[], [], .nil, rfl, ⟨rfl, List.nil_prefix⟩, fun _ => rfl⟩
  | cons queue rest ih =>
    unfold Replay.queues
    have stopped {result middle} (asked : self.ask link.taped queue.request = (result, middle))
        (bad : (⟨self.delegate, queue.request, result⟩ : Asked η).answered = false)
        (silent : (⟨self.delegate, queue.request, result⟩ : Asked η).declaration? = none) (e : Error) :
        ∃ replies lines, Played ((queue :: rest).map RecordedQueue.request) lines self middle (.error e) ∧
          record = record.renameAll (renames (queue :: rest) replies) ∧
          Redeclared (queue :: rest) replies lines ∧
          (Answered lines → replies.length = (queue :: rest).length) := by
      have halted := askStopped link asked bad (rest.map RecordedQueue.request) e
      exact ⟨[], _, halted, rfl, .none (List.forall_mem_singleton.mpr silent),
        fun all => absurd all halted.unanswered⟩
    rcases asked : self.ask link.taped queue.request with ⟨e | reply, middle⟩
    · exact stopped asked rfl rfl e
    · cases reply with
      | declared declared =>
        obtain ⟨replies, lines, played, renamed, redeclared, complete⟩ :=
          ih { record with topology := record.topology.renameQueue queue.name declared.queue } middle
        refine ⟨declared :: replies, _, (askPlayed link asked rfl).trans played, renamed, ⟨?_, ?_⟩, fun all => ?_⟩
        · exact congrArg (declared :: ·) redeclared.answers
        · exact (List.prefix_cons_inj queue.request).mpr redeclared.asked
        · exact congrArg (· + 1) (complete (List.forall_mem_cons.mp all).2)
      | done | counted | started | got | fetched => exact stopped asked rfl rfl _

def Restarted (consumers : List RecordedConsumer) (lines : List (Asked η)) : Prop :=
  (lines.filter fun line => line.start?.isSome).map Asked.request <+: consumers.map .consume

theorem filterIdle {lines : List (Asked η)} (idle : startedTags lines = []) :
    (lines.filter fun line => line.start?.isSome) = [] :=
  List.filter_eq_nil_iff.mpr fun line member => by simp [List.filterMap_eq_nil_iff.mp idle line member]

theorem Restarted.none {consumers : List RecordedConsumer} {lines : List (Asked η)} (idle : startedTags lines = []) :
    Restarted consumers lines := by
  rw [Restarted, filterIdle idle]
  exact List.nil_prefix

theorem Restarted.after {consumers : List RecordedConsumer} {lines more : List (Asked η)}
    (restarted : Restarted consumers lines) (idle : startedTags more = []) : Restarted consumers (more ++ lines) := by
  rw [Restarted, List.filter_append, filterIdle idle]
  exact restarted

theorem startedAfter {lines more : List (Asked η)} (idle : startedTags more = []) :
    startedTags (more ++ lines) = startedTags lines := by
  rw [startedTags, List.filterMap_append]
  exact congrArg (· ++ startedTags lines) idle

theorem consumersPlayed (consumers : List RecordedConsumer) (record : ChannelRecord)
    (self : TapedChannel ω η κ) :
    ∃ lines,
      Played (consumers.map .consume) lines self
        (Replay.consumers (RecoveringChannel.ask link.taped) consumers record self).2.2
        (Replay.consumers (RecoveringChannel.ask link.taped) consumers record self).1 ∧
      (Replay.consumers (RecoveringChannel.ask link.taped) consumers record self).2.1
        = record.retagAll ((consumers.map RecordedConsumer.tag).zip (startedTags lines)) ∧
      Restarted consumers lines ∧
      (Answered lines → (startedTags lines).length = consumers.length) := by
  induction consumers generalizing record self with
  | nil => exact ⟨[], .nil, rfl, .none rfl, fun _ => rfl⟩
  | cons consumer rest ih =>
    unfold Replay.consumers
    have stopped {result middle} (asked : self.ask link.taped (.consume consumer) = (result, middle))
        (bad : (⟨self.delegate, .consume consumer, result⟩ : Asked η).answered = false)
        (idle : (⟨self.delegate, .consume consumer, result⟩ : Asked η).start? = none) (e : Error) :
        ∃ lines, Played ((consumer :: rest).map .consume) lines self middle (.error e) ∧
          record = record.retagAll (((consumer :: rest).map RecordedConsumer.tag).zip (startedTags lines)) ∧
          Restarted (consumer :: rest) lines ∧
          (Answered lines → (startedTags lines).length = (consumer :: rest).length) := by
      have halted := askStopped link asked bad (rest.map .consume) e
      have nothing : startedTags [(⟨self.delegate, .consume consumer, result⟩ : Asked η)] = [] :=
        List.filterMap_cons_none idle
      refine ⟨_, halted, ?_, .none nothing, fun all => absurd all halted.unanswered⟩
      rw [nothing]
      rfl
    rcases asked : self.ask link.taped (.consume consumer) with ⟨e | reply, middle⟩
    · exact stopped asked rfl rfl e
    · cases reply with
      | started tag =>
        obtain ⟨lines, played, updated, restarted, complete⟩ := ih (record.retag consumer.tag tag) middle
        refine ⟨_, (askPlayed link asked rfl).trans played, updated, ?_, fun all => ?_⟩
        · exact (List.prefix_cons_inj (.consume consumer)).mpr restarted
        · exact congrArg (· + 1) (complete (List.forall_mem_cons.mp all).2)
      | done | declared | counted | got | fetched => exact stopped asked rfl rfl _

theorem Played.undeclared {list : List Request} {lines : List (Asked η)} {self last : TapedChannel ω η κ}
    {result : Except Error Unit} (played : Played list lines self last result)
    (others : ∀ request ∈ list, ∀ name options, request ≠ .declareQueue name options) :
    ∀ line ∈ lines, line.declaration? = none := by
  intro line member
  have different := others line.request (played.asked.subset (List.mem_map_of_mem member))
  unfold Asked.declaration?
  split
  · rename_i name options queue request result
    exact absurd request (different name options)
  · rfl

theorem Played.unstarted {list : List Request} {lines : List (Asked η)} {self last : TapedChannel ω η κ}
    {result : Except Error Unit} (played : Played list lines self last result)
    (others : ∀ request ∈ list, ∀ consumer, request ≠ .consume consumer) : startedTags lines = [] := by
  refine List.filterMap_eq_nil_iff.mpr fun line member => ?_
  have different := others line.request (played.asked.subset (List.mem_map_of_mem member))
  unfold Asked.start?
  split
  · rename_i consumer tag request result
    exact absurd request (different consumer)
  · rfl

end TapedChannel

namespace ChannelRecord

def topologyRequests (record : ChannelRecord) (pairs : List (String × String)) : List Request :=
  record.exchangeRequests ++ (record.topology.queues.items.map RecordedQueue.request ++
    ((record.topology.renameAll pairs).bindings.map .bind ++
      (record.topology.renameAll pairs).consumers.items.map .consume))

theorem exchangesDeclareNoQueue (record : ChannelRecord) :
    ∀ request ∈ record.exchangeRequests, ∀ name options, request ≠ .declareQueue name options :=
  List.forall_mem_map.mpr fun _ _ _ _ => Request.noConfusion

theorem exchangesStartNothing (record : ChannelRecord) :
    ∀ request ∈ record.exchangeRequests, ∀ consumer, request ≠ .consume consumer :=
  List.forall_mem_map.mpr fun _ _ _ => Request.noConfusion

theorem queuesStartNothing (queues : List RecordedQueue) :
    ∀ request ∈ queues.map RecordedQueue.request, ∀ consumer, request ≠ .consume consumer :=
  List.forall_mem_map.mpr fun _ _ _ => Request.noConfusion

theorem bindingsStartNothing (record : ChannelRecord) :
    ∀ request ∈ record.bindingRequests, ∀ consumer, request ≠ .consume consumer :=
  List.forall_mem_map.mpr fun _ _ _ => Request.noConfusion

theorem exchangesPlain (record : ChannelRecord) : ∀ request ∈ record.exchangeRequests, request.isPlain :=
  List.forall_mem_map.mpr fun _ _ => rfl

theorem bindingsPlain (record : ChannelRecord) : ∀ request ∈ record.bindingRequests, request.isPlain :=
  List.forall_mem_map.mpr fun _ _ => rfl

end ChannelRecord

namespace TapedChannel

variable {ω η κ : Type} (link : Link ω η κ)

def users (record : ChannelRecord) (self : TapedChannel ω η κ) :
    Except Error Unit × ChannelRecord × TapedChannel ω η κ :=
  match Replay.requests (RecoveringChannel.ask link.taped) record.bindingRequests self with
  | (.error e, self) => (.error e, record, self)
  | (.ok (), self) =>
    Replay.consumers (RecoveringChannel.ask link.taped) record.topology.consumers.items record self

theorem topologyParts (record : ChannelRecord) (self : TapedChannel ω η κ) :
    Replay.topology (RecoveringChannel.ask link.taped) record self =
      match Replay.requests (RecoveringChannel.ask link.taped) record.exchangeRequests self with
      | (.error e, self) => (.error e, record, self)
      | (.ok (), self) =>
        match Replay.queues (RecoveringChannel.ask link.taped) record.topology.queues.items record self with
        | (.error e, record, self) => (.error e, record, self)
        | (.ok (), record, self) => users link record self := by
  unfold Replay.topology
  rcases Replay.requests (RecoveringChannel.ask link.taped) record.exchangeRequests self with ⟨e | ⟨⟩, second⟩
  · rfl
  · dsimp only
    rcases Replay.queues (RecoveringChannel.ask link.taped) record.topology.queues.items record second
      with ⟨e | ⟨⟩, named, third⟩
    · rfl
    · dsimp only [users]
      rcases Replay.requests (RecoveringChannel.ask link.taped) named.bindingRequests third
        with ⟨e | ⟨⟩, fourth⟩ <;> rfl

theorem usersPlayed (record : ChannelRecord) (self : TapedChannel ω η κ) :
    ∃ lines,
      Played (record.bindingRequests ++ record.topology.consumers.items.map .consume) lines self
        (users link record self).2.2 (users link record self).1 ∧
      (users link record self).2.1 = record.retagAll (record.topology.consumers.keys.zip (startedTags lines)) ∧
      Restarted record.topology.consumers.items lines ∧
      (Answered lines → (startedTags lines).length = record.topology.consumers.items.length) ∧
      ∀ line ∈ lines, line.declaration? = none := by
  have others : ∀ request ∈ record.bindingRequests ++ record.topology.consumers.items.map .consume,
      ∀ name options, request ≠ .declareQueue name options :=
    List.forall_mem_append.mpr ⟨List.forall_mem_map.mpr fun _ _ _ _ => Request.noConfusion,
      List.forall_mem_map.mpr fun _ _ _ _ => Request.noConfusion⟩
  obtain ⟨binds, binding⟩ := requestsPlayed link record.bindingsPlain self
  have idle := binding.unstarted record.bindingsStartNothing
  unfold users
  rcases bindings : Replay.requests (RecoveringChannel.ask link.taped) record.bindingRequests self
    with ⟨e | ⟨⟩, bound⟩
  · rw [bindings] at binding
    have whole : Played (record.bindingRequests ++ record.topology.consumers.items.map .consume) binds self bound
        (.error e) := binding.stopped (List.prefix_append ..)
    refine ⟨binds, whole, ?_, .none idle, fun all => absurd all whole.unanswered, whole.undeclared others⟩
    rw [idle, List.zip_nil_right]
    rfl
  · rw [bindings] at binding
    obtain ⟨starts, starting, updated, restarted, complete⟩ :=
      consumersPlayed link record.topology.consumers.items record bound
    have whole := binding.trans starting
    refine ⟨_, whole, ?_, restarted.after idle, fun all => ?_, whole.undeclared others⟩
    · rw [startedAfter idle]
      exact updated
    · rw [startedAfter idle]
      exact complete (List.forall_mem_append.mp all).2

theorem topologyPlayed (record : ChannelRecord) (self : TapedChannel ω η κ) :
    ∃ replies lines,
      Played (record.topologyRequests (renames record.topology.queues.items replies)) lines self
        (Replay.topology (RecoveringChannel.ask link.taped) record self).2.2
        (Replay.topology (RecoveringChannel.ask link.taped) record self).1 ∧
      (Replay.topology (RecoveringChannel.ask link.taped) record self).2.1
        = (record.renameAll (renames record.topology.queues.items replies)).retagAll
          (record.topology.consumers.keys.zip (startedTags lines)) ∧
      Redeclared record.topology.queues.items replies lines ∧
      Restarted (record.topology.renameAll (renames record.topology.queues.items replies)).consumers.items lines ∧
      (Answered lines → replies.length = record.topology.queues.items.length ∧
        (startedTags lines).length = record.topology.consumers.items.length) := by
  obtain ⟨first, exchanging⟩ := requestsPlayed link record.exchangesPlain self
  have silent := exchanging.undeclared record.exchangesDeclareNoQueue
  have idle := exchanging.unstarted record.exchangesStartNothing
  rw [topologyParts]
  rcases exchanges : Replay.requests (RecoveringChannel.ask link.taped) record.exchangeRequests self
    with ⟨e | ⟨⟩, second⟩
  · rw [exchanges] at exchanging
    refine ⟨[], first, exchanging.stopped (List.prefix_append _ _), ?_, .none silent, .none idle,
      fun all => absurd all exchanging.unanswered⟩
    rw [renames, List.map_nil, List.zip_nil_right, idle, List.zip_nil_right]
    rfl
  · rw [exchanges] at exchanging
    obtain ⟨replies, more, declaring, renamed, redeclared, complete⟩ :=
      queuesPlayed link record.topology.queues.items record second
    have still := declaring.unstarted (ChannelRecord.queuesStartNothing _)
    dsimp only
    rcases queues : Replay.queues (RecoveringChannel.ask link.taped) record.topology.queues.items record second
      with ⟨e | ⟨⟩, named, third⟩
    · rw [queues] at declaring renamed
      obtain rfl : named = _ := renamed
      have nothing : startedTags (first ++ more) = [] := (startedAfter idle).trans still
      refine ⟨replies, _, (exchanging.trans declaring).stopped ?_, ?_, redeclared.after silent, .none nothing,
        fun all => absurd (List.forall_mem_append.mp all).2 declaring.unanswered⟩
      · exact (List.prefix_append_right_inj _).mpr (List.prefix_append _ _)
      · rw [nothing, List.zip_nil_right]
        rfl
    · rw [queues] at declaring renamed
      -- from here on the record has its new names, so that the users are asked for under them
      obtain rfl : named = _ := renamed
      obtain ⟨rest, served, updated, restarted, settled, unheard⟩ := usersPlayed link
        (record.renameAll (renames record.topology.queues.items replies)) third
      have tags : startedTags (first ++ (more ++ rest)) = startedTags rest :=
        (startedAfter idle).trans (startedAfter still)
      have keys := record.topology.renameAllConsumerKeys (renames record.topology.queues.items replies)
      refine ⟨replies, _, exchanging.trans (declaring.trans served), ?_, (redeclared.before unheard).after silent,
        (restarted.after still).after idle, fun all => ⟨complete fun line member => all line ?_, ?_⟩⟩
      · rw [tags, ← keys]
        exact updated
      · exact List.mem_append_right _ (List.mem_append_left _ member)
      · rw [tags, settled fun line member => all line (List.mem_append_right _ (List.mem_append_right _ member))]
        have length := congrArg List.length keys
        simpa only [Catalog.keys, List.length_map, ChannelRecord.renameAll] using length

end TapedChannel

end AmqpClient
