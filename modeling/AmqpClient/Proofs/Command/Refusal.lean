import AmqpClient.Proofs.Command.Storage

/-! Frames that are refused. Whatever an assembler has been through, a frame is refused for one of six reasons and
leaves everything as it was: what is known of the command, the bytes collected so far, the bodies handed out, and
the files. A run is therefore what it is without the frames that were refused in it. Frames that the assembler
panics over are not refused. -/
namespace AmqpClient

namespace AssemblyState

def awaits : AssemblyState → Option FrameKind
  | expectingMethod => some .method
  | expectingContentHeader => some .header
  | expectingContentBody => some .body
  | complete => none

end AssemblyState

namespace Assembler

inductive Refusal (assembler : Assembler) (frame : Frame) : Error → Prop
  | kind {expected : FrameKind} (awaited : assembler.state.awaits = some expected) (other : frame.kind ≠ expected) :
      Refusal assembler frame (.unexpectedFrame expected frame.kind)
  | method (waiting : assembler.state = .expectingMethod) (kind : frame.kind = .method)
      (malformed : Method.read? frame.payload = none) : Refusal assembler frame .malformedFrame
  | header (waiting : assembler.state = .expectingContentHeader) (kind : frame.kind = .header)
      (malformed : ContentHeader.read? frame.payload = none) : Refusal assembler frame .malformedFrame
  | file {header : ContentHeader} {e : Error} (waiting : assembler.state = .expectingContentHeader)
      (titled : frame.contentHeader = .ok header) (large : assembler.spill.spills header.bodySize = true)
      (unwritable : assembler.spill.create = .error e) : Refusal assembler frame e
  | overflow {header : ContentHeader} (waiting : assembler.state = .expectingContentBody) (kind : frame.kind = .body)
      (titled : assembler.header = some header)
      (more : header.bodySize.toNat < assembler.stored.length + frame.payload.length) :
      Refusal assembler frame
        (.bodyOverflow header.bodySize (UInt64.ofNat (assembler.stored.length + frame.payload.length)))
  | finished (waiting : assembler.state = .complete) : Refusal assembler frame (.frameAfterComplete frame.kind)

variable {spill : SpillOptions} {supplied : Option ContentBody} {assembler : Assembler} {frame : Frame} {e : Error}

theorem headerRefused {header : ContentHeader} :
    assembler.acceptHeader header = .error e ↔
      assembler.spill.spills header.bodySize = true ∧ assembler.spill.create = .error e := by
  by_cases zero : header.bodySize = 0
  · have small : ¬ assembler.spill.threshold < 0 := UInt64.not_lt_zero
    simp [acceptHeader, zero, SpillOptions.spills, small]
  · cases large : assembler.spill.spills header.bodySize with
    | false => simp [acceptHeader, zero, large]
    | true => cases created : assembler.spill.create <;> simp [acceptHeader, zero, large, created, okBind, errorBind]

theorem overwhelmedUnrefused (much : assembler.overwhelmed frame = true) : assembler.accept frame ≠ .error e := by
  obtain ⟨waiting, header, titled, beyond⟩ := overwhelmedIff.mp much
  simp only [accept, waiting, Frame.kindOfHeader titled, titled, okBind, ne_eq, not_true_eq_false, if_false]
  intro refused
  rw [SpillOptions.fitsSpilled (headerRefused.mp refused).1] at beyond
  cases beyond

theorem bodyRefused {header : ContentHeader} {bytes payload : Bytes} (settings : assembler.spill = spill)
    (titled : assembler.header = some header) (kept : assembler.body = spill.keep header.bodySize bytes)
    (counted : bytes.length + assembler.remaining.toNat = header.bodySize.toNat) :
    assembler.appendBody payload = .error e ↔
      header.bodySize.toNat < bytes.length + payload.length ∧
        e = .bodyOverflow header.bodySize (UInt64.ofNat (bytes.length + payload.length)) := by
  by_cases fits : payload.length ≤ assembler.remaining.toNat
  · rw [appendBodyKept (settings ▸ kept) fits]
    simp only [reduceCtorEq, false_iff, not_and]
    omega
  · have overfull : assembler.remaining.toNat < payload.length := Nat.lt_of_not_le fits
    have received : header.bodySize - assembler.remaining = UInt64.ofNat bytes.length := by
      have within : assembler.remaining ≤ header.bodySize := UInt64.le_iff_toNat_le.mpr (by omega)
      rw [← UInt64.toNat_inj, UInt64.toNat_sub_of_le _ _ within,
        UInt64.toNat_ofNat_of_lt' (Nat.lt_of_le_of_lt (by omega) header.bodySize.toNat_lt)]
      omega
    have more : header.bodySize.toNat < bytes.length + payload.length := by omega
    simp only [appendBody, if_pos overfull, titled, Option.map_some, Option.getD_some, received, ← UInt64.ofNat_add,
      Except.error.injEq, more, true_and, eq_comm]

theorem methodUnread (kind : frame.kind = .method) :
    frame.method = .error e ↔ Method.read? frame.payload = none ∧ e = .malformedFrame := by
  simp only [Frame.method, kind]
  cases Method.read? frame.payload <;> simp [eq_comm]

theorem headerUnread (kind : frame.kind = .header) :
    frame.contentHeader = .error e ↔ ContentHeader.read? frame.payload = none ∧ e = .malformedFrame := by
  simp only [Frame.contentHeader, kind]
  cases ContentHeader.read? frame.payload <;> simp [eq_comm]

theorem otherKind {expected : FrameKind} (awaited : assembler.state.awaits = some expected)
    (other : frame.kind ≠ expected) : assembler.accept frame = .error (.unexpectedFrame expected frame.kind) := by
  cases waiting : assembler.state <;> rw [waiting] at awaited <;> cases awaited <;> simp [accept, waiting, other]

theorem otherKindRefused {expected : FrameKind} (awaited : assembler.state.awaits = some expected)
    (other : frame.kind ≠ expected) (refused : assembler.accept frame = .error e) : Refusal assembler frame e := by
  rw [otherKind awaited other] at refused
  cases refused
  exact .kind awaited other

theorem refusedWhen (storage : Storage spill supplied assembler) (refusal : Refusal assembler frame e) :
    assembler.accept frame = .error e := by
  cases refusal with
  | kind awaited other => exact otherKind awaited other
  | method waiting kind malformed =>
    simp [accept, waiting, kind, (methodUnread kind).mpr ⟨malformed, rfl⟩, errorBind]
  | header waiting kind malformed =>
    simp [accept, waiting, kind, (headerUnread kind).mpr ⟨malformed, rfl⟩, errorBind]
  | file waiting titled large unwritable =>
    simp [accept, waiting, Frame.kindOfHeader titled, titled, okBind, headerRefused.mpr ⟨large, unwritable⟩]
  | overflow waiting kind titled more =>
    cases storage with
    | bare settings idle slot => exact absurd waiting idle
    | filled settings known kept counted ends =>
      obtain rfl := Option.some.inj (titled.symm.trans known)
      rw [storedKept kept] at more ⊢
      simpa [accept, waiting, kind] using (bodyRefused settings titled kept counted).mpr ⟨more, rfl⟩
  | finished waiting => exact acceptComplete waiting frame

theorem refusedOnlyWhen (storage : Storage spill supplied assembler) (refused : assembler.accept frame = .error e) :
    Refusal assembler frame e := by
  cases waiting : assembler.state with
  | expectingMethod =>
    by_cases kind : frame.kind = .method
    · cases parsed : frame.method with
      | ok method => simp [accept, waiting, kind, parsed, okBind] at refused
      | error fault =>
        obtain ⟨malformed, rfl⟩ := (methodUnread kind).mp parsed
        obtain rfl : Error.malformedFrame = e := by simpa [accept, waiting, kind, parsed, errorBind] using refused
        exact .method waiting kind malformed
    · exact otherKindRefused (congrArg AssemblyState.awaits waiting) kind refused
  | expectingContentHeader =>
    by_cases kind : frame.kind = .header
    · cases parsed : frame.contentHeader with
      | ok header =>
        have large : assembler.acceptHeader header = .error e := by
          simpa [accept, waiting, kind, parsed, okBind] using refused
        exact .file waiting parsed (headerRefused.mp large).1 (headerRefused.mp large).2
      | error fault =>
        obtain ⟨malformed, rfl⟩ := (headerUnread kind).mp parsed
        obtain rfl : Error.malformedFrame = e := by simpa [accept, waiting, kind, parsed, errorBind] using refused
        exact .header waiting kind malformed
    · exact otherKindRefused (congrArg AssemblyState.awaits waiting) kind refused
  | expectingContentBody =>
    by_cases kind : frame.kind = .body
    · cases storage with
      | bare settings idle slot => exact absurd waiting idle
      | filled settings titled kept counted ends =>
        have overfull : assembler.appendBody frame.payload = .error e := by
          simpa [accept, waiting, kind] using refused
        obtain ⟨more, rfl⟩ := (bodyRefused settings titled kept counted).mp overfull
        rw [← storedKept kept] at more ⊢
        exact .overflow waiting kind titled more
    · exact otherKindRefused (congrArg AssemblyState.awaits waiting) kind refused
  | complete =>
    rw [acceptComplete waiting] at refused
    cases refused
    exact .finished waiting

theorem refusedExactly (storage : Storage spill supplied assembler) :
    assembler.accept frame = .error e ↔ Refusal assembler frame e :=
  ⟨refusedOnlyWhen storage, refusedWhen storage⟩

end Assembler

namespace Custody

variable {custody : Custody} {frame : Frame} {e : Error}

theorem feedRefused : (custody.feed frame).1 = .error (.refused e) ↔
    custody.poisoned = false ∧ custody.assembler.accept frame = .error e := by
  rw [feedOf]
  cases custody.poisoned with
  | true => simp
  | false =>
    cases much : custody.assembler.overwhelmed frame with
    | true => simp [Assembler.overwhelmedUnrefused much]
    | false =>
      unfold heed
      cases custody.assembler.accept frame <;> simp [Except.mapError]

theorem feedPanicked : (custody.feed frame).1 = .error .panicked ↔
    custody.poisoned = true ∨ custody.assembler.overwhelmed frame = true := by
  rw [feedOf]
  cases custody.poisoned with
  | true => simp
  | false =>
    cases custody.assembler.overwhelmed frame with
    | true => simp
    | false => cases (custody.heed frame).1 <;> simp [Except.mapError]

theorem refusedUnchanged (refused : (custody.feed frame).1 = .error (.refused e)) :
    (custody.feed frame).2 = custody := by
  rcases custody.feedCases frame with ⟨failure, fed⟩ | fed | ⟨next, ok, fed⟩ <;> rw [fed] at refused ⊢ <;> cases refused

def heeded (custody : Custody) : List Act → List Act
  | [] => []
  | move :: rest =>
    match (custody.act move).1 with
    | .fed (.error (.refused _)) => heeded custody rest
    | _ => move :: heeded (custody.act move).2 rest

def Outcome.heeded : Outcome → Bool
  | fed (.error (.refused _)) => false
  | _ => true

theorem actUnheeded {move : Act} (outcome : (custody.act move).1 = .fed (.error (.refused e))) :
    (custody.act move).2 = custody := by
  cases move with
  | feed frame => exact refusedUnchanged (Outcome.fed.inj outcome)
  | take | read | drain | drop => cases outcome

theorem runHeeded (custody : Custody) (acts : List Act) :
    custody.run (custody.heeded acts) = ((custody.run acts).1.filter Outcome.heeded, (custody.run acts).2) := by
  induction acts generalizing custody with
  | nil => rfl
  | cons move rest ih =>
    rw [heeded]
    split
    · rename_i outcome
      simp only [runCons, ih, actUnheeded outcome, outcome, Outcome.heeded, List.filter_cons, Bool.false_eq_true,
        if_false]
    · rename_i answered
      have kept : Outcome.heeded (custody.act move).1 = true := by
        unfold Outcome.heeded
        split
        · rename_i e same
          exact absurd same (answered e)
        · rfl
      simp only [runCons, ih, List.filter_cons, kept, if_true]

end Custody

end AmqpClient
