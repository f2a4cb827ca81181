import AmqpClient.Recovery
import Mathlib.Data.List.Basic

/-! Recovering channels on a link that keeps a tape of everything it is asked. Listeners, events and
replaced delegates leave no trace on the tape; a request leaves one line, and nothing else does. -/
namespace AmqpClient

structure Asked (η : Type) where
  delegate : η
  request : Request
  result : Except Error Reply

def Link.taped (link : Link ω η κ) : Link (ω × List (Asked η)) η κ where
  connect world := ((link.connect world.1).1, (link.connect world.1).2, world.2)
  openChannel connection number world :=
    ((link.openChannel connection number world.1).1, (link.openChannel connection number world.1).2, world.2)
  attach delegate generation world := (link.attach delegate generation world.1, world.2)
  request delegate request world :=
    ((link.request delegate request world.1).1, (link.request delegate request world.1).2,
      world.2 ++ [⟨delegate, request, (link.request delegate request world.1).1⟩])
  dropChannel delegate world := (link.dropChannel delegate world.1, world.2)
  dropConnection connection world := (link.dropConnection connection world.1, world.2)
  tell receiver message world := (link.tell receiver message world.1, world.2)
  hear listener notice world := ((link.hear listener notice world.1).1, (link.hear listener notice world.1).2, world.2)
  raised world := ((link.raised world.1).1, (link.raised world.1).2, world.2)

abbrev TapedChannel (ω η κ : Type) := RecoveringChannel (ω × List (Asked η)) η κ

def RecoveringChannel.tape (self : TapedChannel ω η κ) : List (Asked η) := self.world.2

namespace TapedChannel

variable {ω η κ : Type}

/- Nothing but these requests, all of them to the present delegate, and what follows from events. -/
structure Grown (lines : List (Asked η)) (before after : TapedChannel ω η κ) : Prop where
  tape : after.tape = before.tape ++ lines
  delegate : after.delegate = before.delegate
  record : after.record = before.record
  options : after.options = before.options
  present : ∀ line ∈ lines, line.delegate = before.delegate
  -- only an open channel takes note of a shutdown
  calm : before.status ≠ .open → after.status = before.status ∧ after.due = before.due
  due : (before.due = true → before.status = .recovering) → after.due = true → after.status = .recovering

variable {lines more : List (Asked η)} {self middle next : TapedChannel ω η κ} (link : Link ω η κ)

theorem Grown.still {before after : TapedChannel ω η κ} (tape : after.tape = before.tape)
    (delegate : after.delegate = before.delegate) (record : after.record = before.record)
    (options : after.options = before.options) (status : after.status = before.status)
    (due : after.due = before.due) : Grown [] before after where
  tape := tape.trans (List.append_nil _).symm
  delegate := delegate
  record := record
  options := options
  present := List.forall_mem_nil _
  calm := fun _ => ⟨status, due⟩
  due := fun kept => by rwa [status, due]

theorem Grown.refl (self : TapedChannel ω η κ) : Grown [] self self :=
  .still rfl rfl rfl rfl rfl rfl

theorem Grown.trans (one : Grown lines self middle) (two : Grown more middle next) :
    Grown (lines ++ more) self next where
  tape := by rw [two.tape, one.tape, List.append_assoc]
  delegate := two.delegate.trans one.delegate
  record := two.record.trans one.record
  options := two.options.trans one.options
  present := List.forall_mem_append.mpr ⟨one.present, one.delegate ▸ two.present⟩
  calm := fun busy => by
    obtain ⟨status, due⟩ := one.calm busy
    obtain ⟨same, still⟩ := two.calm (status ▸ busy)
    exact ⟨same.trans status, still.trans due⟩
  due := two.due ∘ one.due

theorem notifyGrown (view : TapedChannel ω η κ → Registry Listener) (notice : Notice)
    (self : TapedChannel ω η κ) : Grown [] self (self.notify link.taped view notice) := by
  refine List.foldlRecOn (motive := fun next : TapedChannel ω η κ => Grown [] self next) _ _ (.refl self) ?_
  intro next grown listener _
  exact grown.trans (.still rfl rfl rfl rfl rfl rfl)

theorem afterShutdownGrown (self : TapedChannel ω η κ) (signal : ShutdownSignal) :
    Grown [] self (self.afterShutdown signal) := by
  unfold RecoveringChannel.afterShutdown
  split
  · rename_i idle
    split
    · exact ⟨(List.append_nil _).symm, rfl, rfl, rfl, List.forall_mem_nil _, absurd idle,
        fun kept due => absurd (idle.symm.trans (kept due)) (by simp)⟩
    · split
      · exact ⟨(List.append_nil _).symm, rfl, rfl, rfl, List.forall_mem_nil _, absurd idle,
          fun _ _ => rfl⟩
      · exact .refl self
  · exact .refl self

theorem handleGrown (self : TapedChannel ω η κ) (raised : Generation × ChannelEvent) :
    Grown [] self (self.handle link.taped raised) := by
  obtain ⟨generation, event⟩ := raised
  unfold RecoveringChannel.handle
  split
  · have told : Grown [] self (self.announce link.taped event) := notifyGrown link _ _ self
    cases event with
    | shutdown signal => exact told.trans (afterShutdownGrown _ signal)
    | returned | confirm | flow => exact told
  · exact .refl self

theorem attendGrown (self : TapedChannel ω η κ) : Grown [] self (self.attend link.taped) := by
  refine List.foldlRecOn (motive := fun next : TapedChannel ω η κ => Grown [] self next) _ _ ?_ ?_
  · exact .still rfl rfl rfl rfl rfl rfl
  · intro next grown raised _
    exact grown.trans (handleGrown link next raised)

theorem actGrown (self : TapedChannel ω η κ) (step : ω × List (Asked η) → ω × List (Asked η))
    (quiet : ∀ world, (step world).2 = world.2) : Grown [] self (self.act link.taped step) := by
  have stepped : Grown [] self { self with world := step self.world } :=
    .still (quiet self.world) rfl rfl rfl rfl rfl
  exact stepped.trans (attendGrown link _)

theorem askGrown (self : TapedChannel ω η κ) (request : Request) :
    Grown [⟨self.delegate, request, (self.ask link.taped request).1⟩] self (self.ask link.taped request).2 := by
  have asked : Grown [⟨self.delegate, request, (self.ask link.taped request).1⟩] self
      { self with world := (link.taped.request self.delegate request self.world).2 } :=
    ⟨rfl, rfl, rfl, rfl, List.forall_mem_singleton.mpr rfl, fun _ => ⟨rfl, rfl⟩, id⟩
  exact asked.trans (attendGrown link _)

end TapedChannel

end AmqpClient
