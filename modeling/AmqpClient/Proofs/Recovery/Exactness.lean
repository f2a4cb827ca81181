import AmqpClient.Proofs.Recovery.Reachability
import AmqpClient.Recovery.Rehearsal

/-! What a recovery asks of the new channel: all that is recorded and nothing else, in the order in which a
server can take it. Queues may come back under new names as long as the server does not give a name twice;
those who use a queue then ask for it by its new name. -/
namespace AmqpClient

namespace ChannelRecord

def script (record : ChannelRecord) (rename : String → String) : List Request :=
  (if record.consumerQos.prefetchCount = 0 then []
    else [.qos record.consumerQos.prefetchSize record.consumerQos.prefetchCount false]) ++
  (if record.globalQos.prefetchCount = 0 then []
    else [.qos record.globalQos.prefetchSize record.globalQos.prefetchCount true]) ++
  (if record.confirmSelected then [.selectConfirm] else []) ++
  (if record.transactionsSelected then [.selectTransactions] else []) ++
  (record.topology.exchanges.items.filter fun exchange => !exchange.isPredefined).map .declareExchange ++
  record.topology.queues.items.map (fun queue =>
    .declareQueue (if queue.serverNamed then "" else queue.name) queue.options) ++
  record.topology.bindings.map (fun binding => .bind (binding.renamed rename)) ++
  record.topology.consumers.items.map (fun consumer => .consume (consumer.renamed rename))

theorem scriptRequests {record : ChannelRecord} {pairs : List (String × String)}
    (renamed : Topology.Renamed (newName pairs) record.topology (record.topology.renameAll pairs)) :
    record.modeRequests ++ record.topologyRequests pairs = record.script (newName pairs) := by
  simp only [topologyRequests, renamed.bindings, renamed.consumers, List.map_map, ← List.append_assoc]
  rfl

end ChannelRecord

/- The names under which queues come back: its own for each that was given one, and for each whose name is
up to the server one that it never gave. -/
def FairlyNamed : List String → List RecordedQueue → List String → Prop
  | given, queue :: queues, name :: names =>
    (if queue.serverNamed then name ∉ given else name = queue.name) ∧ FairlyNamed (given ++ [name]) queues names
  | _, _, _ => True

theorem fairlyNamedUnheard {given : List String} {queues : List RecordedQueue} {names : List String}
    (fair : FairlyNamed given queues names) :
    Topology.Unheard given ((queues.map RecordedQueue.name).zip names) := by
  induction queues generalizing given names with
  | nil => trivial
  | cons queue queues ih =>
    cases names with
    | nil => trivial
    | cons name names =>
      obtain ⟨here, fair⟩ := fair
      refine ⟨fun different => ?_, ih fair⟩
      split at here
      · exact here
      · exact absurd here different

namespace TapedChannel

def declaredNames (lines : List (Asked η)) : List String :=
  (lines.filterMap Asked.declaration?).map QueueDeclared.queue

/- All that was asked is what the record says, where the recorded queues, and no others, take the names
that they came back under. -/
def Restores (record : ChannelRecord) (lines : List (Asked η)) : Prop :=
  ∃ rename : String → String,
    record.topology.queues.items.map (fun queue => rename queue.name) = declaredNames lines ∧
    (∀ name ∉ record.topology.queues.keys, rename name = name) ∧
    lines.map Asked.request = record.script rename

variable {ω η κ : Type} {link : Link ω η κ} {self attached restored final : TapedChannel ω η κ}

theorem restoresAnswered {given : List String} {record : ChannelRecord} {lines : List (Asked η)}
    {replies : List QueueDeclared} (known : record.topology.Known given)
    (redeclared : Redeclared record.topology.queues.items replies lines)
    (length : replies.length = record.topology.queues.items.length)
    (asked : lines.map Asked.request = record.modeRequests
      ++ record.topologyRequests (renames record.topology.queues.items replies))
    (fair : FairlyNamed given record.topology.queues.items (declaredNames lines)) : Restores record lines := by
  have olds : (renames record.topology.queues.items replies).map Prod.fst = record.topology.queues.keys :=
    List.map_fst_zip (by simp [length])
  have news : (renames record.topology.queues.items replies).map Prod.snd = declaredNames lines := by
    rw [declaredNames, redeclared.answers]
    exact List.map_snd_zip (by simp [length])
  have unheard : Topology.Unheard given (renames record.topology.queues.items replies) := by
    rw [declaredNames, redeclared.answers] at fair
    exact fairlyNamedUnheard fair
  have distinct : ((renames record.topology.queues.items replies).map Prod.fst).Nodup := olds ▸ known.distinct
  have listed : record.topology.queues.Listed (renames record.topology.queues.items replies) :=
    ⟨known.distinct, distinct, olds ▸ List.Subset.refl _⟩
  have renamed := Topology.renameAllRenamed (unheard.separable listed known.given)
  refine ⟨newName (renames record.topology.queues.items replies), ?_, fun name unknown => ?_, ?_⟩
  · rw [← news, ← newNames distinct, olds]
    exact (List.map_map ..).symm
  · exact newNameFresh (olds ▸ unknown)
  · rw [asked, ChannelRecord.scriptRequests renamed]

theorem restoreExactly {delegate : η} {connection : κ} {generation : Generation} {result : Except Error Unit}
    (sound : Sound self) (enabled : self.options.topology = true)
    (replaced : Grown [] { self with delegate, connection, generation } attached)
    (replay : attached.restore link.taped = (result, restored)) :
    ∃ lines, restored.tape = self.tape ++ lines ∧ restored.delegate = delegate ∧
      (∀ line ∈ lines, line.delegate = delegate) ∧ (result = .ok () ↔ Answered lines) ∧
      (Answered lines → FairlyNamed (givenNames self.tape) self.record.topology.queues.items (declaredNames lines) →
        Restores self.record lines) := by
  obtain ⟨replies, lines, playing, _, redeclared, _, complete⟩ := restorePlayed link attached (replaced.options ▸ enabled)
  rw [replay] at playing
  rw [replaced.record] at playing redeclared complete
  have tape : attached.tape = self.tape := replaced.tape.trans (List.append_nil _)
  refine ⟨lines, ?_, ?_, ?_, playing.verdict, fun all fair => ?_⟩
  · exact tape ▸ playing.grown.tape
  · exact playing.grown.delegate.trans replaced.delegate
  · intro line member
    exact (playing.grown.present line member).trans replaced.delegate
  · exact restoresAnswered sound.known redeclared (complete all) (playing.complete all) fair

theorem replaysExactly {connection : κ} {number : UInt16} {delegate : η} (reachable : Reachable link self)
    (claimed : self.status = .recovering) (enabled : self.options.topology = true)
    (opened : self.reopened link = .ok (connection, number, delegate)) :
    ∃ lines,
      (self.runRecovery link.taped).2.tape = self.tape ++ lines ∧
      (self.runRecovery link.taped).2.delegate = delegate ∧
      (∀ line ∈ lines, line.delegate = delegate) ∧
      ((self.runRecovery link.taped).1 = .ok () ↔ Answered lines) ∧
      (Answered lines →
        FairlyNamed (givenNames self.tape) self.record.topology.queues.items (declaredNames lines) →
        Restores self.record lines) ∧
      ("" ∉ givenNames self.tape →
        ∀ queue ∈ self.record.topology.queues.items, queue.serverNamed = false → queue.name ≠ "") := by
  have sound := reachable.sound
  have named (fair : "" ∉ givenNames self.tape) (queue : RecordedQueue)
      (member : queue ∈ self.record.topology.queues.items) (_ : queue.serverNamed = false) : queue.name ≠ "" :=
    fun empty => fair (empty ▸ sound.known.given (List.mem_map_of_mem member))
  have cases := runRecoveryCases link self claimed
  generalize self.runRecovery link.taped = outcome at cases
  cases cases with
  | refused unopened kept => exact absurd (opened.symm.trans unopened) (by simp)
  | failed known replaced replay closed =>
    cases opened.symm.trans known
    obtain ⟨lines, tape, last, present, verdict, exactly⟩ := restoreExactly sound enabled replaced replay
    refine ⟨lines, ?_, closed.delegate.trans last, present, ?_, exactly, named⟩
    · exact closed.tape.trans ((List.append_nil _).trans tape)
    · exact iff_of_false (by simp) fun all => absurd (verdict.mpr all) (by simp)
  | replayed known replaced replay usable =>
    cases opened.symm.trans known
    obtain ⟨lines, tape, last, present, verdict, exactly⟩ := restoreExactly sound enabled replaced replay
    refine ⟨lines, ?_, usable.delegate.trans last, present, ?_, exactly, named⟩
    · exact usable.tape.trans ((List.append_nil _).trans tape)
    · exact iff_of_true rfl (verdict.mp rfl)

def rehearsedStart : TapedChannel Rehearsal Nat Nat :=
  { options := {}, channel := 7, delegate := 0, connection := 1, generation := 1,
    world := (RecoveringChannel.start Rehearsal.link.taped {} none ({}, [])).2 }

def rehearsedCalls : List Request :=
  [.declareQueue "" {}, .bind ⟨.queue, "amq.topic", "gen-1", "", .nil⟩, .consume ⟨"orders", "gen-1", {}, 0⟩]

def rehearsed : TapedChannel Rehearsal Nat Nat :=
  { rehearsedCalls.foldl (fun self request => (self.call Rehearsal.link.taped request).2) rehearsedStart with
    status := .recovering }

theorem rehearsedReachable : Reachable Rehearsal.link rehearsed := by
  have began : RecoveringChannel.start Rehearsal.link.taped {} none ({}, [])
    = (.ok rehearsedStart, rehearsedStart.world) := rfl
  have named := (Reachable.start began).step (.call _ rehearsedCalls[0] (by decide))
  have bound := named.step (.call _ rehearsedCalls[1] (by decide))
  have fed := bound.step (.call _ rehearsedCalls[2] (by decide))
  exact fed.step (.claim _ rfl)

theorem rehearsedReplay :
    ∃ lines, (rehearsed.runRecovery Rehearsal.link.taped).2.tape = rehearsed.tape ++ lines ∧
      declaredNames lines = ["gen-2"] ∧ Restores rehearsed.record lines := by
  obtain ⟨lines, tape, _, _, verdict, exactly, _⟩ := replaysExactly rehearsedReachable rfl rfl rfl
  have same : lines = (rehearsed.runRecovery Rehearsal.link.taped).2.tape.drop 3 := by
    rw [tape]
    rfl
  have names : declaredNames lines = ["gen-2"] := by
    rw [same]
    rfl
  refine ⟨lines, tape, names, exactly (verdict.mp rfl) ?_⟩
  rw [names]
  exact ⟨by decide, trivial⟩

end TapedChannel

end AmqpClient
