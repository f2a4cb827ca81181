import AmqpClient.Proofs.Command.Fitting
import AmqpClient.Proofs.Outlet.Breaking

/-! Writing under a limit, whatever comes of it. No body frame goes beyond the limit, the last one before a failure
included, and where the limit leaves room for a body at all, no command fails for it. -/
namespace AmqpClient

def Error.Roomy {β : Type} (result : Except Error β) : Prop :=
  ∀ least limit, result ≠ .error (.frameMaxTooSmall least limit)

theorem Error.Roomy.done {β : Type} (value : β) : Error.Roomy (.ok value) := by
  rintro least limit ⟨⟩

theorem Error.Roomy.io {β : Type} (fault : IoFault) : Error.Roomy (.error (.io fault) : Except Error β) := by
  rintro least limit ⟨⟩

theorem Error.Roomy.failed {β γ : Type} {reason : Error} (roomy : Error.Roomy (.error reason : Except Error β)) :
    Error.Roomy (.error reason : Except Error γ) := by
  rintro least limit ⟨⟩
  exact roomy least limit rfl

/- Only the bodies of commands are cut to a limit. -/
def Frame.Within (limit : UInt32) (frame : Frame) : Prop := frame.kind = .body → frame.encode.length ≤ limit.toNat

theorem Frame.ofPayloadRoomy {β : Type} {kind : FrameKind} {channel : UInt16} {payload : Bytes} {reason : Error}
    (refused : Frame.ofPayload kind channel payload = .error reason) :
    Error.Roomy (.error reason : Except Error β) := by
  unfold Frame.ofPayload at refused
  split at refused <;> cases refused
  rintro _ _ ⟨⟩

theorem Assembler.takeBodyRoomy {β : Type} {command next : Assembler} {reason : Error}
    (refused : command.takeBody = (.error reason, next)) : Error.Roomy (.error reason : Except Error β) := by
  unfold Assembler.takeBody at refused
  split at refused
  · cases refused
    rintro _ _ ⟨⟩
  · dsimp only at refused
    split at refused <;> cases refused
    rintro _ _ ⟨⟩

namespace Command

section

variable {σ : Type} {put : σ → Frame → Except IoFault Unit × σ} {kept : σ → Prop} {frameMax : UInt32}

theorem writeBodyKeeps {chunk : Nat} (sized : chunk + 8 = frameMax.toNat)
    (keeps : ∀ s frame, kept s → frame.Within frameMax → kept (put s frame).2) (channel : UInt16) (total : UInt64)
    (left written frames : Nat) (body : ContentBody) {s : σ} (before : kept s) :
    kept (writeBody put channel total chunk left written frames body s).2 ∧
      Error.Roomy (writeBody put channel total chunk left written frames body s).1 := by
  induction left generalizing written frames body s with
  | zero => exact ⟨before, .done _⟩
  | succ left ih =>
    unfold writeBody
    split
    · exact ⟨before, .done _⟩
    · dsimp only
      split
      · exact ⟨before, .io _⟩
      · rename_i piece next filled
        split
        · exact ⟨before, by rintro _ _ ⟨⟩⟩
        · have few : piece.length ≤ chunk := Nat.le_trans (ContentBody.fillFew filled) (Nat.min_le_left ..)
          have fits : (Frame.body channel piece).Within frameMax := fun _ => by
            rw [Frame.encodeLength, ← sized, Nat.add_comm chunk]
            exact Nat.add_le_add_left few 8
          have after := keeps s _ before fits
          split
          · rename_i answer
            rw [answer] at after
            exact ⟨after, .io _⟩
          · rename_i answer
            rw [answer] at after
            exact ih _ _ _ after

theorem writeContentKeeps (large : 9 ≤ frameMax.toNat)
    (keeps : ∀ s frame, kept s → frame.Within frameMax → kept (put s frame).2) (header : ContentHeader)
    (body : ContentBody) (channel : UInt16) {s : σ} (before : kept s) :
    kept (writeContent put s header body channel frameMax).2 ∧
      Error.Roomy (writeContent put s header body channel frameMax).1 := by
  unfold writeContent
  split
  · rename_i framed
    exact ⟨before, Frame.ofPayloadRoomy framed⟩
  · rename_i frame framed
    have after := keeps s frame before fun body => by
      rw [(payloadWithin 0 framed).1] at body
      cases body
    split
    · rename_i answer
      rw [answer] at after
      exact ⟨after, .io _⟩
    · rename_i answer
      rw [answer] at after
      obtain ⟨chunk, sized, _⟩ := @chunkSizeRoomy frameMax body.length (.inl large)
      rw [sized]
      exact writeBodyKeeps (chunkWithin large sized) keeps channel _ _ _ _ body after

theorem writeKeeps (large : 9 ≤ frameMax.toNat)
    (keeps : ∀ s frame, kept s → frame.Within frameMax → kept (put s frame).2) (command : Assembler)
    (channel : UInt16) {s : σ} (before : kept s) :
    kept (write put s command channel frameMax).state ∧ Error.Roomy (write put s command channel frameMax).result := by
  unfold write
  split
  · exact ⟨before, by rintro _ _ ⟨⟩⟩
  · split
    · rename_i framed
      exact ⟨before, Frame.ofPayloadRoomy framed⟩
    · rename_i frame framed
      have after := keeps s frame before fun body => by
        rw [(payloadWithin 0 framed).1] at body
        cases body
      split
      · rename_i answer
        rw [answer] at after
        exact ⟨after, .io _⟩
      · rename_i answer
        rw [answer] at after
        split
        · split
          · exact ⟨after, by rintro _ _ ⟨⟩⟩
          · split
            · rename_i taken
              exact ⟨after, Assembler.takeBodyRoomy taken⟩
            · exact writeContentKeeps large keeps _ _ channel after
        · exact ⟨after, .done _⟩

end

end Command

def Sink.rewire (fault : Option IoFault) (sink : Sink) : Sink :=
  match fault with
  | some fault => { sink with room := some 0, fault }
  | none => { sink with room := none }

namespace Outlet

/- What an outlet comes to that frames are written to, whether or not they go through, and that is flushed at times. Its
network may break in between, and be mended if at all. -/
inductive Puts (mended : Prop) (outlet : Outlet) : List Frame → Outlet → Prop
  | nothing : Puts mended outlet [] outlet
  | frame {frames : List Frame} {next : Outlet} (puts : Puts mended outlet frames next) (frame : Frame) :
      Puts mended outlet (frames ++ [frame]) (next.writeFrame frame).2
  | flushed {frames : List Frame} {next : Outlet} (puts : Puts mended outlet frames next) :
      Puts mended outlet frames next.flush.2
  | rewired {frames : List Frame} {next : Outlet} (puts : Puts mended outlet frames next) (fault : Option IoFault)
      (may : fault = none → mended) : Puts mended outlet frames { next with sink := next.sink.rewire fault }

structure Forwards (output : Bytes) (outlet : Outlet) : Prop where
  brisk : outlet.sink.Brisk
  outcome : outlet.produced = output ∨ outlet.sink.room = some 0 ∧ outlet.sink.accepted.toList <+: output

theorem Forwards.sent {output bytes : Bytes} {outlet next : Outlet} {result : Except IoFault Unit}
    (forwards : Forwards output outlet) (sent : Sent bytes outlet result next) : Forwards (output ++ bytes) next := by
  refine ⟨sent.brisk, ?_⟩
  obtain whole | ⟨spent, first⟩ := forwards.outcome
  · cases result with
    | ok => exact .inl (whole ▸ sent.whole rfl)
    | error fault => exact .inr (whole ▸ sent.failed fault rfl)
  · obtain ⟨still, same⟩ := sent.spent spent
    exact .inr ⟨still, same ▸ first.trans (List.prefix_append ..)⟩

theorem Forwards.accepted {output : Bytes} {outlet : Outlet} (forwards : Forwards output outlet) :
    outlet.sink.accepted.toList <+: output := by
  obtain whole | ⟨-, first⟩ := forwards.outcome
  · exact whole ▸ List.prefix_append ..
  · exact first

theorem Puts.forwards {mended : Prop} {outlet next : Outlet} {frames : List Frame}
    (puts : Puts mended outlet frames next) (unmended : ¬ mended) (brisk : outlet.sink.Brisk) :
    Forwards (outlet.produced ++ (frames.map Frame.encode).flatten) next := by
  induction puts with
  | nothing => exact ⟨brisk, .inl (List.append_nil _).symm⟩
  | frame _ frame ih =>
    have further := ih.sent (writeFrameSent _ frame ih.brisk)
    rw [List.map_append, List.flatten_append, List.map_singleton, List.flatten_singleton, ← List.append_assoc]
    exact further
  | flushed _ ih =>
    have further := ih.sent (flushSent _ ih.brisk).1
    rwa [List.append_nil] at further
  | rewired _ fault may ih =>
    cases fault with
    | none => exact absurd (may rfl) unmended
    | some fault => exact ⟨ih.brisk, ih.outcome.imp_right fun failed => ⟨rfl, failed.2⟩⟩

end Outlet

namespace Transmitter

structure Wrote (mended : Prop) (before after : Transmitter) : Prop where
  limit : after.frameMax = before.frameMax
  written : ∃ frames, Outlet.Puts mended before.outlet frames after.outlet ∧
    ∀ frame ∈ frames, frame.Within before.frameMax

namespace Wrote

variable {mended : Prop} {before after : Transmitter}

theorem nothing (transmitter : Transmitter) : Wrote mended transmitter transmitter :=
  ⟨rfl, [], .nothing, List.forall_mem_nil _⟩

theorem frame (wrote : Wrote mended before after) {frame : Frame} (within : frame.Within before.frameMax) :
    Wrote mended before { after with outlet := (after.outlet.writeFrame frame).2 } := by
  obtain ⟨frames, puts, all⟩ := wrote.written
  refine ⟨wrote.limit, _, puts.frame frame, fun other member => ?_⟩
  obtain earlier | last := List.mem_append.mp member
  · exact all other earlier
  · exact List.mem_singleton.mp last ▸ within

theorem flushed (wrote : Wrote mended before after) : Wrote mended before after.flush.2 := by
  obtain ⟨frames, puts, all⟩ := wrote.written
  have after := puts.flushed
  unfold flush
  split <;> rename_i answer <;> rw [answer] at after <;> exact ⟨wrote.limit, frames, after, all⟩

theorem rewired (wrote : Wrote mended before after) (fault : Option IoFault) (may : fault = none → mended) :
    Wrote mended before { after with outlet := { after.outlet with sink := after.outlet.sink.rewire fault } } := by
  obtain ⟨frames, puts, all⟩ := wrote.written
  exact ⟨wrote.limit, frames, puts.rewired fault may, all⟩

theorem beaten (wrote : Wrote mended before after) : Wrote mended before after.heartbeat.2 := by
  have bodiless : Frame.heartbeat.Within before.frameMax := nofun
  have written := wrote.frame bodiless
  unfold heartbeat
  split <;> rename_i answer <;> rw [answer] at written
  · exact written
  · exact written.flushed

theorem transmitted (wrote : Wrote mended before after) (large : 9 ≤ before.frameMax.toNat) (command : Assembler)
    (channel : UInt16) :
    Wrote mended before (after.transmit command channel).2.2 ∧ Error.Roomy (after.transmit command channel).1 := by
  have further : ∀ outlet frame, Wrote mended before { after with outlet } → frame.Within after.frameMax →
      Wrote mended before { after with outlet := (outlet.writeFrame frame).2 } :=
    fun _ _ wrote within => wrote.frame (wrote.limit ▸ within)
  obtain ⟨written, roomy⟩ := Command.writeKeeps (wrote.limit ▸ large) further command channel wrote
  unfold transmit
  dsimp only
  split
  · rename_i failed
    rw [failed] at roomy
    exact ⟨written, roomy.failed⟩
  · refine ⟨written.flushed, ?_⟩
    unfold flush
    split <;> rintro _ _ ⟨⟩

end Wrote

end Transmitter

end AmqpClient
