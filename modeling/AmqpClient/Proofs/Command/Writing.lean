import AmqpClient.Command.Transmission
import AmqpClient.Proofs.Content.Reading

/-! Writing commands. What a command is written as depends on the command, its channel and the limit
alone: wherever the frames are put, they are those that plain memory gets, up to the first that cannot be
put. A body that yields what it declares leaves in pieces of one size. -/
namespace AmqpClient.Command

def putAll (put : σ → Frame → Except IoFault Unit × σ) : List Frame → σ → Except IoFault Unit × σ
  | [], s => (.ok (), s)
  | frame :: rest, s =>
    match put s frame with
    | (.error fault, s) => (.error fault, s)
    | (.ok (), s) => putAll put rest s

def deliver (put : σ → Frame → Except IoFault Unit × σ) (frames : List Frame)
    (result : Except Error Nat) (s : σ) : Except Error Nat × σ :=
  match putAll put frames s with
  | (.error fault, s) => (.error (.io fault), s)
  | (.ok (), s) => (result, s)

theorem deliverCons (put : σ → Frame → Except IoFault Unit × σ) (frame : Frame) (rest : List Frame)
    (result : Except Error Nat) (s : σ) :
    deliver put (frame :: rest) result s =
      match put s frame with
      | (.error fault, s) => (.error (.io fault), s)
      | (.ok (), s) => deliver put rest result s := by
  unfold deliver
  rw [putAll]
  rcases put s frame with ⟨fault | ⟨⟩, next⟩ <;> rfl

theorem putAllCollect (frames before : List Frame) :
    putAll collect frames before = (.ok (), before ++ frames) := by
  induction frames generalizing before with
  | nil => simp [putAll]
  | cons frame rest ih => simp [putAll, collect, ih]

theorem deliverCollect (frames : List Frame) (result : Except Error Nat) :
    deliver collect frames result [] = (result, frames) := by
  simp [deliver, putAllCollect]

theorem writeBodyDelivers (channel : UInt16) (total : UInt64) (chunk left written count : Nat)
    (body : ContentBody) :
    ∃ frames result, ∀ {σ : Type} (put : σ → Frame → Except IoFault Unit × σ) (s : σ),
      writeBody put channel total chunk left written count body s = deliver put frames result s := by
  induction left generalizing written count body with
  | zero => exact ⟨[], .ok count, fun put s => rfl⟩
  | succ left ih =>
    by_cases done : total.toNat ≤ written
    · exact ⟨[], .ok count, fun put s => by rw [writeBody, if_pos done]; rfl⟩
    · rcases filled : body.fill (min chunk (total.toNat - written)) with ⟨fault | bytes, next⟩
      · refine ⟨[], .error (.io fault), fun put s => ?_⟩
        simp only [writeBody, if_neg done, filled]
        rfl
      · by_cases short : bytes.length < min chunk (total.toNat - written)
        · refine ⟨[], .error (.bodyTooShort total (UInt64.ofNat (written + bytes.length))), fun put s => ?_⟩
          simp only [writeBody, if_neg done, filled, if_pos short]
          rfl
        · obtain ⟨frames, result, later⟩ :=
            ih (written + min chunk (total.toNat - written)) (count + 1) next
          refine ⟨Frame.body channel bytes :: frames, result, fun put s => ?_⟩
          simp only [writeBody, if_neg done, filled, if_neg short, deliverCons]
          rcases put s (Frame.body channel bytes) with ⟨fault | ⟨⟩, after⟩
          · rfl
          · exact later put after

theorem writeContentDelivers (header : ContentHeader) (body : ContentBody) (channel : UInt16)
    (frameMax : UInt32) :
    ∃ frames result, ∀ {σ : Type} (put : σ → Frame → Except IoFault Unit × σ) (s : σ),
      writeContent put s header body channel frameMax = deliver put frames result s := by
  cases framed : ({ header with bodySize := body.length } : ContentHeader).frame channel with
  | error e =>
    refine ⟨[], .error e, fun put s => ?_⟩
    simp only [writeContent, framed]
    rfl
  | ok frame =>
    cases sized : chunkSize frameMax body.length with
    | error e =>
      refine ⟨[frame], .error e, fun put s => ?_⟩
      simp only [writeContent, framed, sized, deliverCons]
      rcases put s frame with ⟨fault | ⟨⟩, s⟩ <;> rfl
    | ok chunk =>
      obtain ⟨frames, result, later⟩ :=
        writeBodyDelivers channel body.length chunk body.length.toNat 0 0 body
      refine ⟨frame :: frames, result, fun put s => ?_⟩
      simp only [writeContent, framed, sized, deliverCons]
      rcases put s frame with ⟨fault | ⟨⟩, after⟩
      · rfl
      · exact later put after

theorem writeFollows {command : Assembler} {method : Method} {channel : UInt16} {frame : Frame}
    (named : command.method = some method) (framed : method.frame channel = .ok frame)
    (frameMax : UInt32) :
    ∃ frames result, ∀ {σ : Type} (put : σ → Frame → Except IoFault Unit × σ) (s : σ),
      ((write put s command channel frameMax).result, (write put s command channel frameMax).state)
        = deliver put (frame :: frames) result s := by
  suffices ∃ frames result, ∀ {σ : Type} (put : σ → Frame → Except IoFault Unit × σ) (s next : σ),
      put s frame = (.ok (), next) →
      ((write put s command channel frameMax).result, (write put s command channel frameMax).state)
        = deliver put frames result next by
    obtain ⟨frames, result, later⟩ := this
    refine ⟨frames, result, fun put s => ?_⟩
    rw [deliverCons]
    rcases answer : put s frame with ⟨fault | ⟨⟩, next⟩
    · simp only [write, named, framed, answer]
    · exact later put s next answer
  by_cases content : method.hasContent = true
  · cases titled : command.header with
    | none =>
      refine ⟨[], .error .incompleteCommand, fun put s next answer => ?_⟩
      simp only [write, named, framed, answer, if_pos content, titled]
      rfl
    | some header =>
      rcases taken : command.takeBody with ⟨e | body, after⟩
      · refine ⟨[], .error e, fun put s next answer => ?_⟩
        simp only [write, named, framed, answer, if_pos content, titled, taken]
        rfl
      · obtain ⟨frames, result, later⟩ := writeContentDelivers header body channel frameMax
        refine ⟨frames, result, fun put s next answer => ?_⟩
        simp only [write, named, framed, answer, if_pos content, titled, taken, later]
  · refine ⟨[], .ok 0, fun put s next answer => ?_⟩
    simp only [write, named, framed, answer, if_neg content]
    rfl

theorem writeDelivers (command : Assembler) (channel : UInt16) (frameMax : UInt32) :
    ∃ frames result, ∀ {σ : Type} (put : σ → Frame → Except IoFault Unit × σ) (s : σ),
      ((write put s command channel frameMax).result, (write put s command channel frameMax).state)
        = deliver put frames result s := by
  cases named : command.method with
  | none =>
    refine ⟨[], .error .incompleteCommand, fun put s => ?_⟩
    simp only [write, named]
    rfl
  | some method =>
    cases framed : method.frame channel with
    | error e =>
      refine ⟨[], .error e, fun put s => ?_⟩
      simp only [write, named, framed]
      rfl
    | ok frame =>
      obtain ⟨frames, result, delivered⟩ := writeFollows named framed frameMax
      exact ⟨frame :: frames, result, delivered⟩

def collected (command : Assembler) (channel : UInt16) (frameMax : UInt32) : Written (List Frame) :=
  write collect [] command channel frameMax

theorem collectedAs {command : Assembler} {channel : UInt16} {frameMax : UInt32} {frames : List Frame}
    {result : Except Error Nat}
    (delivered : ∀ {σ : Type} (put : σ → Frame → Except IoFault Unit × σ) (s : σ),
      ((write put s command channel frameMax).result, (write put s command channel frameMax).state)
        = deliver put frames result s) :
    (collected command channel frameMax).result = result ∧
      (collected command channel frameMax).state = frames :=
  Prod.mk.inj ((delivered collect []).trans (deliverCollect frames result))

theorem writeCollected (put : σ → Frame → Except IoFault Unit × σ) (s : σ) (command : Assembler)
    (channel : UInt16) (frameMax : UInt32) :
    ((write put s command channel frameMax).result, (write put s command channel frameMax).state)
      = deliver put (collected command channel frameMax).state
          (collected command channel frameMax).result s := by
  obtain ⟨frames, result, delivered⟩ := writeDelivers command channel frameMax
  obtain ⟨answer, state⟩ := collectedAs delivered
  rw [answer, state]
  exact delivered put s

def Speechless (command : Assembler) (channel : UInt16) : Prop :=
  ∀ method, command.method = some method → ∃ e, method.frame channel = .error e

theorem collectedSpeechless (command : Assembler) (channel : UInt16) (frameMax : UInt32) :
    (collected command channel frameMax).state = [] ↔ Speechless command channel := by
  constructor
  · intro silent method named
    cases framed : method.frame channel with
    | error e => exact ⟨e, rfl⟩
    | ok frame =>
      obtain ⟨frames, result, delivered⟩ := writeFollows named framed frameMax
      rw [(collectedAs delivered).2] at silent
      contradiction
  · intro speechless
    unfold collected write
    cases named : command.method with
    | none => rfl
    | some method =>
      obtain ⟨e, framed⟩ := speechless method named
      simp only [framed]

/- A body in pieces of one size. Only the last may be shorter, and none is empty. -/
inductive Portions (size : Nat) : Bytes → List Bytes → Prop
  | nothing : Portions size [] []
  | last {piece : Bytes} (filled : piece ≠ []) (fits : piece.length ≤ size) : Portions size piece [piece]
  | more {piece rest : Bytes} {pieces : List Bytes} (full : piece.length = size) (filled : rest ≠ [])
      (later : Portions size rest pieces) : Portions size (piece ++ rest) (piece :: pieces)

namespace Portions

variable {size : Nat} {bytes : Bytes} {pieces : List Bytes}

theorem joined (portions : Portions size bytes pieces) : pieces.flatten = bytes := by
  induction portions with
  | nothing => rfl
  | last => exact List.flatten_singleton
  | more full filled later ih => rw [List.flatten_cons, ih]

theorem ofNothing (portions : Portions size [] pieces) : pieces = [] := by
  generalize empty : ([] : Bytes) = bytes at portions
  cases portions with
  | nothing => rfl
  | last filled => exact absurd empty.symm filled
  | more full filled => exact absurd (List.append_eq_nil_iff.mp empty.symm).2 filled

theorem sizes (portions : Portions size bytes pieces) (positive : bytes ≠ [] → 0 < size) :
    ∀ piece ∈ pieces, piece ≠ [] ∧ piece.length ≤ size := by
  induction portions with
  | nothing => simp
  | last filled fits => exact List.forall_mem_singleton.mpr ⟨filled, fits⟩
  | more full filled later ih =>
    have sized := positive (List.append_ne_nil_of_right_ne_nil _ filled)
    refine List.forall_mem_cons.mpr ⟨⟨?_, Nat.le_of_eq full⟩, ih fun _ => sized⟩
    rintro rfl
    exact absurd full (Nat.ne_of_lt sized)

theorem allButLast (portions : Portions size bytes pieces) : ∀ piece ∈ pieces.dropLast, piece.length = size := by
  induction portions with
  | nothing => simp
  | last => simp
  | @more piece rest pieces full filled later ih =>
    have going : pieces ≠ [] := by
      rintro rfl
      exact filled later.joined.symm
    rw [List.dropLast_cons_of_ne_nil going]
    exact List.forall_mem_cons.mpr ⟨full, ih⟩

theorem count (portions : Portions size bytes pieces) (positive : 0 < size) :
    pieces.length = (bytes.length + size - 1) / size := by
  induction portions with
  | nothing => exact (Nat.div_eq_of_lt (by rw [List.length_nil]; omega)).symm
  | @last piece filled fits =>
    have long := List.length_pos_iff.mpr filled
    exact (Nat.div_eq_of_lt_le (k := 1) (by omega) (by omega)).symm
  | @more piece rest pieces full filled later ih =>
    have long := List.length_pos_iff.mpr filled
    have shift : (piece ++ rest).length + size - 1 = size + (rest.length + size - 1) := by
      rw [List.length_append]
      omega
    rw [shift, Nat.add_div_left _ positive, List.length_cons, ih]

theorem whole (portions : Portions size bytes pieces) (filled : bytes ≠ []) (fits : bytes.length ≤ size) :
    pieces = [bytes] := by
  cases portions with
  | nothing => exact absurd rfl filled
  | last => rfl
  | @more piece rest pieces full going later =>
    have long := List.length_pos_iff.mpr going
    rw [List.length_append] at fits
    omega

theorem single (portions : Portions bytes.length bytes pieces) :
    pieces.length = if bytes = [] then 0 else 1 := by
  split
  · rename_i nothing
    subst nothing
    rw [portions.ofNothing, List.length_nil]
  · rename_i filled
    rw [portions.whole filled (Nat.le_refl _), List.length_singleton]

end Portions

theorem writeBodyPortions (channel : UInt16) {total : UInt64} {chunk left : Nat}
    (written count : Nat) (body : ContentBody) (brisk : body.Brisk) (positive : written < total.toNat → 0 < chunk)
    (enough : total.toNat - written ≤ left) (going : total.toNat - written ≤ body.rest.length) :
    ∃ pieces, Portions chunk (body.rest.take (total.toNat - written)) pieces ∧ ∀ frames,
      writeBody collect channel total chunk left written count body frames
        = (.ok (count + pieces.length), frames ++ pieces.map (Frame.body channel)) := by
  induction left generalizing written count body with
  | zero =>
    have done : total.toNat - written = 0 := Nat.le_zero.mp enough
    exact ⟨[], by rw [done]; exact .nothing, fun frames => by simp [writeBody]⟩
  | succ left ih =>
    by_cases done : total.toNat ≤ written
    · have nothing : total.toNat - written = 0 := Nat.sub_eq_zero_of_le done
      exact ⟨[], by rw [nothing]; exact .nothing, fun frames => by simp [writeBody, done]⟩
    · have sized := positive (Nat.lt_of_not_le done)
      obtain ⟨want, wanted⟩ : ∃ want, want = min chunk (total.toNat - written) := ⟨_, rfl⟩
      obtain ⟨next, filled, after⟩ := ContentBody.fillRest want brisk (.inl (by omega))
      have length : (body.rest.take want).length = want := List.length_take_of_le (by omega)
      have behind : next.rest = body.rest.drop want := by
        have joined := after.rest
        rw [← List.take_append_drop want body.rest, List.take_left' length] at joined
        exact (List.append_cancel_left joined).symm
      obtain ⟨pieces, portions, later⟩ := ih (written + want) (count + 1) next (after.brisk brisk)
        (fun _ => sized) (by omega) (by rw [behind, List.length_drop]; omega)
      refine ⟨body.rest.take want :: pieces, ?_, fun frames => ?_⟩
      · have split : body.rest.take (total.toNat - written)
            = body.rest.take want ++ next.rest.take (total.toNat - (written + want)) := by
          rw [behind, ← List.take_add]
          congr 1
          omega
        rw [split]
        by_cases ended : total.toNat - (written + want) = 0
        · rw [ended, List.take_zero] at portions ⊢
          rw [portions.ofNothing, List.append_nil]
          refine .last (List.ne_nil_of_length_pos ?_) ?_ <;> omega
        · refine .more (by omega) (List.ne_nil_of_length_pos ?_) portions
          rw [List.length_take, behind, List.length_drop]
          omega
      · have kept : ¬ (body.rest.take want).length < want := by omega
        simp only [writeBody, if_neg done, ← wanted, filled, if_neg kept, collect, later]
        simp [Nat.add_assoc, Nat.add_comm 1]

theorem collectedContent {command after : Assembler} {method : Method} {header : ContentHeader}
    {body : ContentBody} {channel : UInt16} {frameMax : UInt32} {first second : Frame} {chunk : Nat}
    (named : command.method = some method) (content : method.hasContent = true)
    (titled : command.header = some header) (taken : command.takeBody = (.ok body, after))
    (framed : method.frame channel = .ok first)
    (headed : ({ header with bodySize := body.length } : ContentHeader).frame channel = .ok second)
    (sized : chunkSize frameMax body.length = .ok chunk) (positive : 0 < body.length.toNat → 0 < chunk)
    (brisk : body.Brisk) (enough : body.length.toNat ≤ body.rest.length) :
    ∃ pieces, Portions chunk (body.rest.take body.length.toNat) pieces ∧
      collected command channel frameMax
        = ⟨.ok pieces.length, after, first :: second :: pieces.map (Frame.body channel)⟩ := by
  obtain ⟨pieces, portions, written⟩ := writeBodyPortions channel 0 0 body brisk positive
    (Nat.le_refl _) enough
  rw [Nat.sub_zero] at portions written
  refine ⟨pieces, portions, ?_⟩
  simp only [collected, write, named, framed, collect, content, if_true, titled, taken, writeContent,
    headed, sized, written]
  rw [Nat.zero_add]
  rfl

end AmqpClient.Command
