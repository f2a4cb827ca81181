import AmqpClient.Recovery

/-! What a recovering channel makes of events. Listeners leave their traces in the world only; shutdown
signals of the present delegate move the status, each in the same way; and nothing else changes. -/
namespace AmqpClient

namespace RecoveryStatus

/- What an open channel makes of the loss of its delegate. A channel that recovers or is closed goes on. -/
def signalled (options : RecoveryOptions) (status : RecoveryStatus) (signal : ShutdownSignal) : RecoveryStatus :=
  match status with
  | .open => if !signal.isRecoverable then .closed else if options.automatic then .recovering else .open
  | status => status

theorem signalledBusy {status : RecoveryStatus} (busy : status ≠ .open) (options : RecoveryOptions)
    (signals : List ShutdownSignal) : signals.foldl (·.signalled options) status = status := by
  induction signals with
  | nil => rfl
  | cons signal rest ih =>
    have same : status.signalled options signal = status := by
      cases status with
      | «open» => exact absurd rfl busy
      | recovering | closed => rfl
    rw [List.foldl_cons, same, ih]

end RecoveryStatus

def signalsFor (generation : Generation) (events : List (Generation × ChannelEvent)) : List ShutdownSignal :=
  events.filterMap fun raised =>
    match raised.2 with
    | .shutdown signal => if raised.1 = generation then some signal else none
    | _ => none

namespace RecoveringChannel

variable {ω η κ : Type} (link : Link ω η κ)

theorem notifyWorld (view : RecoveringChannel ω η κ → Registry Listener) (notice : Notice)
    (self : RecoveringChannel ω η κ) : ∃ world, self.notify link view notice = { self with world } := by
  refine List.foldlRecOn (motive := fun next : RecoveringChannel ω η κ => ∃ world, next = { self with world })
    _ _ ⟨self.world, rfl⟩ ?_
  rintro next ⟨world, rfl⟩ listener _
  exact ⟨_, rfl⟩

theorem afterShutdownStatus (self : RecoveringChannel ω η κ) (signal : ShutdownSignal) :
    (self.afterShutdown signal).status = self.status.signalled self.options signal := by
  unfold afterShutdown RecoveryStatus.signalled
  cases status : self.status <;> simp only [reduceCtorEq, if_true, if_false] <;> try exact status
  split
  · rfl
  · split
    · rfl
    · exact status

theorem afterShutdownElse (self : RecoveringChannel ω η κ) (signal : ShutdownSignal) :
    ∃ status due, self.afterShutdown signal = { self with status, due } := by
  unfold afterShutdown
  split
  · split
    · exact ⟨_, self.due, rfl⟩
    · split
      · exact ⟨_, _, rfl⟩
      · exact ⟨self.status, self.due, rfl⟩
  · exact ⟨self.status, self.due, rfl⟩

theorem afterShutdownDue {self : RecoveringChannel ω η κ} {signal : ShutdownSignal}
    (due : (self.afterShutdown signal).due = true) :
    self.due = true ∨
      self.status = .open ∧ signal.isRecoverable = true ∧ (self.afterShutdown signal).status = .recovering := by
  unfold afterShutdown at due ⊢
  by_cases usable : self.status = .open
  · rw [if_pos usable] at due ⊢
    cases recoverable : signal.isRecoverable with
    | false =>
      simp only [recoverable, Bool.not_false, if_true] at due
      exact .inl due
    | true =>
      cases automatic : self.options.automatic with
      | false =>
        simp only [recoverable, automatic, Bool.not_true, Bool.false_eq_true, if_false] at due
        exact .inl due
      | true => exact .inr ⟨usable, rfl, by simp⟩
  · rw [if_neg usable] at due
    exact .inl due

structure Attended (events : List (Generation × ChannelEvent)) (before after : RecoveringChannel ω η κ) : Prop where
  status : after.status = (signalsFor before.generation events).foldl (·.signalled before.options) before.status
  same : after = { before with world := after.world, status := after.status, due := after.due }
  due : after.due = true → before.due = true ∨
    before.status = .open ∧ ∃ signal ∈ signalsFor before.generation events, signal.isRecoverable = true
  awaited : (before.due = true → before.status = .recovering) → after.due = true → after.status = .recovering

namespace Attended

variable {events more : List (Generation × ChannelEvent)} {before middle after : RecoveringChannel ω η κ}

theorem nothing (self : RecoveringChannel ω η κ) (world : ω) : Attended [] self { self with world } :=
  ⟨rfl, rfl, .inl, id⟩

theorem options (attended : Attended events before after) : after.options = before.options := by
  rw [attended.same]

theorem generation (attended : Attended events before after) : after.generation = before.generation := by
  rw [attended.same]

theorem record (attended : Attended events before after) : after.record = before.record := by
  rw [attended.same]

theorem busy (attended : Attended events before after) (busy : before.status ≠ .open) : after.status = before.status :=
  attended.status.trans (RecoveryStatus.signalledBusy busy _ _)

theorem append (one : Attended events before middle) (two : Attended more middle after) :
    Attended (events ++ more) before after where
  status := by
    rw [two.status, one.options, one.generation, one.status, signalsFor, signalsFor, signalsFor, List.filterMap_append,
      List.foldl_append]
  same := calc
    after = { middle with world := after.world, status := after.status, due := after.due } := two.same
    _ = _ := by rw [one.same]
  due last := by
    have all : signalsFor before.generation (events ++ more)
        = signalsFor before.generation events ++ signalsFor before.generation more := List.filterMap_append
    rw [all]
    rcases two.due last with earlier | ⟨usable, signal, member, recoverable⟩
    · rcases one.due earlier with first | ⟨usable, signal, member, recoverable⟩
      · exact .inl first
      · exact .inr ⟨usable, signal, List.mem_append_left _ member, recoverable⟩
    · rw [one.generation] at member
      have first : before.status = .open :=
        Decidable.byContradiction fun busy => busy ((one.busy busy).symm.trans usable)
      exact .inr ⟨first, signal, List.mem_append_right _ member, recoverable⟩
  awaited first := two.awaited (one.awaited first)

end Attended

theorem handleAttended (self : RecoveringChannel ω η κ) (raised : Generation × ChannelEvent) :
    Attended [raised] self (self.handle link raised) := by
  obtain ⟨generation, event⟩ := raised
  unfold handle
  by_cases present : generation = self.generation
  · subst present
    obtain ⟨world, told⟩ := notifyWorld link (fun self => self.listeners.of event.kind) (.channel event) self
    rw [if_pos rfl, announce, told]
    cases event with
    | shutdown signal =>
      obtain ⟨status, due, after⟩ := afterShutdownElse { self with world } signal
      have given : signalsFor self.generation [(self.generation, .shutdown signal)] = [signal] := by simp [signalsFor]
      refine ⟨?_, by dsimp only; rw [after], fun last => ?_, fun before last => ?_⟩
      · rw [given]
        exact afterShutdownStatus { self with world } signal
      · rw [given]
        rcases afterShutdownDue last with before | ⟨usable, recoverable, _⟩
        · exact .inl before
        · exact .inr ⟨usable, signal, List.mem_singleton_self _, recoverable⟩
      · rcases afterShutdownDue last with earlier | ⟨_, _, status⟩
        · have same := afterShutdownStatus { self with world } signal
          dsimp only at same earlier
          rw [same, before earlier]
          rfl
        · exact status
    | returned | confirm | flow => exact ⟨rfl, rfl, .inl, id⟩
  · rw [if_neg present]
    refine ⟨?_, rfl, .inl, id⟩
    cases event <;> simp [signalsFor, present]

theorem handleAllAttended (events : List (Generation × ChannelEvent)) (self : RecoveringChannel ω η κ) :
    Attended events self (events.foldl (handle link) self) := by
  induction events generalizing self with
  | nil => exact .nothing self self.world
  | cons raised events ih => exact (handleAttended link self raised).append (ih _)

theorem attendAttended (self : RecoveringChannel ω η κ) :
    Attended (link.raised self.world).1 self (self.attend link) :=
  (Attended.nothing self (link.raised self.world).2).append (handleAllAttended link _ _)

end RecoveringChannel

end AmqpClient
