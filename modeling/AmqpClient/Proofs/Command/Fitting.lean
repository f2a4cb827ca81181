import AmqpClient.Proofs.Command.RoundTrip

/-! How large the frames of a written command are. Bodies are cut to the limit, while the method and the
header go out whole: a command keeps within the limit exactly if these two do. -/
namespace AmqpClient.Command

theorem writeBodySucceeded {channel : UInt16} {total : UInt64} {chunk left written count result : Nat}
    {body : ContentBody} {before after : List Frame}
    (done : writeBody collect channel total chunk left written count body before = (.ok result, after)) :
    ∃ pieces : List Bytes, after = before ++ pieces.map (Frame.body channel) ∧
      (∀ piece ∈ pieces, piece.length ≤ chunk) ∧
      (0 < left → written < total.toNat → ∃ piece ∈ pieces, min chunk (total.toNat - written) ≤ piece.length) := by
  induction left generalizing written count body before with
  | zero =>
    cases done
    exact ⟨[], (List.append_nil _).symm, List.forall_mem_nil _, fun positive => absurd positive (Nat.lt_irrefl 0)⟩
  | succ left ih =>
    rw [writeBody] at done
    split at done
    · rename_i ended
      cases done
      exact ⟨[], (List.append_nil _).symm, List.forall_mem_nil _, fun _ going => absurd ended (Nat.not_le_of_lt going)⟩
    · dsimp only at done
      rcases filled : body.fill (min chunk (total.toNat - written)) with ⟨fault | piece, next⟩
      · rw [filled] at done
        cases done
      · rw [filled] at done
        dsimp only [collect] at done
        split at done
        · cases done
        · rename_i full
          obtain ⟨pieces, rfl, few, _⟩ := ih done
          have short : piece.length ≤ chunk := Nat.le_trans (ContentBody.fillFew filled) (Nat.min_le_left ..)
          refine ⟨piece :: pieces, ?_, List.forall_mem_cons.mpr ⟨short, few⟩, fun _ _ => ?_⟩
          · rw [List.append_assoc, List.map_cons, List.singleton_append]
          · exact ⟨piece, List.mem_cons_self, Nat.le_of_not_lt full⟩

inductive Layout (command : Assembler) (channel : UInt16) (frameMax : UInt32) : List Frame → Prop
  | bare {method : Method} {first : Frame} (named : command.method = some method)
      (plain : method.hasContent = false) (framed : method.frame channel = .ok first) :
      Layout command channel frameMax [first]
  | full {method : Method} {header : ContentHeader} {body : ContentBody} {first second : Frame} {chunk : Nat}
      {pieces : List Bytes} (named : command.method = some method) (content : method.hasContent = true)
      (titled : command.header = some header) (framed : method.frame channel = .ok first)
      (headed : ({ header with bodySize := body.length } : ContentHeader).frame channel = .ok second)
      (sized : chunkSize frameMax body.length = .ok chunk) (few : ∀ piece ∈ pieces, piece.length ≤ chunk) :
      Layout command channel frameMax (first :: second :: pieces.map (Frame.body channel))

theorem writeContentSucceeded {header : ContentHeader} {body : ContentBody} {channel : UInt16}
    {frameMax : UInt32} {count : Nat} {before after : List Frame}
    (done : writeContent collect before header body channel frameMax = (.ok count, after)) :
    ∃ (second : Frame) (chunk : Nat) (pieces : List Bytes),
      ({ header with bodySize := body.length } : ContentHeader).frame channel = .ok second ∧
      chunkSize frameMax body.length = .ok chunk ∧ (∀ piece ∈ pieces, piece.length ≤ chunk) ∧
      (0 < body.length.toNat → ∃ piece ∈ pieces, min chunk body.length.toNat ≤ piece.length) ∧
      after = before ++ second :: pieces.map (Frame.body channel) := by
  unfold writeContent at done
  split at done
  · cases done
  · rename_i second headed
    dsimp only [collect] at done
    split at done
    · cases done
    · rename_i chunk sized
      obtain ⟨pieces, rfl, few, long⟩ := writeBodySucceeded done
      exact ⟨second, chunk, pieces, headed, sized, few, fun filled => long filled filled,
        by rw [List.append_assoc, List.singleton_append]⟩

theorem collectedParts {command : Assembler} {channel : UInt16} {frameMax : UInt32} {count : Nat}
    (done : (collected command channel frameMax).result = .ok count) :
    ∃ method first, command.method = some method ∧ method.frame channel = .ok first ∧
      (method.hasContent = false ∧ (collected command channel frameMax).state = [first] ∨
        method.hasContent = true ∧ ∃ header body, command.header = some header ∧ command.takeBody.1 = .ok body ∧
          writeContent collect [first] header body channel frameMax
            = (.ok count, (collected command channel frameMax).state)) := by
  cases named : command.method with
  | none => simp only [collected, write, named, reduceCtorEq] at done
  | some method =>
    cases framed : method.frame channel with
    | error e => simp only [collected, write, named, framed, reduceCtorEq] at done
    | ok first =>
      refine ⟨method, first, rfl, framed, ?_⟩
      cases content : method.hasContent with
      | false =>
        refine .inl ⟨rfl, ?_⟩
        simp only [collected, write, named, framed, collect, content, Bool.false_eq_true, if_false]
        rfl
      | true =>
        cases titled : command.header with
        | none =>
          simp only [collected, write, named, framed, collect, content, if_true, titled, reduceCtorEq] at done
        | some header =>
          rcases taken : command.takeBody with ⟨e | body, next⟩
          · simp only [collected, write, named, framed, collect, content, if_true, titled, taken,
              reduceCtorEq] at done
          · rcases written : writeContent collect ([] ++ [first]) header body channel frameMax with ⟨result, after⟩
            refine .inr ⟨rfl, header, body, rfl, rfl, ?_⟩
            simp only [collected, write, named, framed, collect, content, if_true, titled, taken, written] at done ⊢
            rw [← done]
            exact written

theorem collectedLayout {command : Assembler} {channel : UInt16} {frameMax : UInt32} {count : Nat}
    (done : (collected command channel frameMax).result = .ok count) :
    Layout command channel frameMax (collected command channel frameMax).state := by
  obtain ⟨method, first, named, framed, ⟨plain, alone⟩ | ⟨content, header, body, titled, _, written⟩⟩ :=
    collectedParts done
  · rw [alone]
    exact .bare named plain framed
  · obtain ⟨second, chunk, pieces, headed, sized, few, _, same⟩ := writeContentSucceeded written
    rw [same]
    exact .full named content titled framed headed sized few

theorem payloadWithin {kind : FrameKind} {channel : UInt16} {payload : Bytes} {frame : Frame} (limit : Nat)
    (framed : Frame.ofPayload kind channel payload = .ok frame) :
    frame.kind = kind ∧ (frame.encode.length ≤ limit ↔ payload.length + 8 ≤ limit) := by
  obtain ⟨_, rfl⟩ := Frame.ofPayloadIff.mp framed
  rw [Frame.encodeLength, Nat.add_comm payload.length]
  exact ⟨rfl, Iff.rfl⟩

theorem resizedLength (header : ContentHeader) (size : UInt64) :
    ({ header with bodySize := size } : ContentHeader).write.length = header.write.length := by
  simp only [ContentHeader.write, Bytes.ofU16, Bytes.ofU64, List.length_append, List.length_cons,
    Bytes.lengthOfNat]

theorem chunkWithin {frameMax : UInt32} {total : UInt64} {chunk : Nat} (large : 9 ≤ frameMax.toNat)
    (sized : chunkSize frameMax total = .ok chunk) : chunk + 8 = frameMax.toNat := by
  obtain ⟨size, same, _, _, spaced⟩ := @chunkSizeRoomy frameMax total (.inl large)
  have bounded : frameMax ≠ 0 := by
    rintro rfl
    exact absurd large (by decide)
  obtain rfl := Except.ok.inj (sized.symm.trans same)
  rw [if_neg bounded] at spaced
  omega

theorem bodiesWithin {frameMax : UInt32} {total : UInt64} {channel : UInt16} {chunk : Nat} {pieces : List Bytes}
    (large : 9 ≤ frameMax.toNat) (sized : chunkSize frameMax total = .ok chunk)
    (few : ∀ piece ∈ pieces, piece.length ≤ chunk) :
    ∀ frame ∈ pieces.map (Frame.body channel), frame.encode.length ≤ frameMax.toNat := by
  refine List.forall_mem_map.mpr fun piece member => ?_
  have fits := Nat.add_le_add_left (few piece member) 8
  rw [Nat.add_comm 8 chunk, chunkWithin large sized] at fits
  rw [Frame.encodeLength]
  exact fits

/- A frame beyond the limit is the method's or the header's, and the command had it so. -/
theorem withinLimitExactly (command : Assembler) (channel : UInt16) {frameMax : UInt32} {count : Nat}
    (large : 9 ≤ frameMax.toNat) (done : (collected command channel frameMax).result = .ok count) :
    (∀ frame ∈ (collected command channel frameMax).state, frame.kind = .body →
        frame.encode.length ≤ frameMax.toNat) ∧
      ((∀ frame ∈ (collected command channel frameMax).state, frame.encode.length ≤ frameMax.toNat) ↔
        ∀ method, command.method = some method → method.write.length + 8 ≤ frameMax.toNat ∧
          (method.hasContent = true → ∀ header, command.header = some header →
            header.write.length + 8 ≤ frameMax.toNat)) := by
  have layout := collectedLayout done
  generalize (collected command channel frameMax).state = frames at layout ⊢
  cases layout with
  | @bare method first named plain framed =>
    obtain ⟨kind, within⟩ := payloadWithin frameMax.toNat framed
    simp [named, plain, kind, within]
  | @full method header body first second chunk pieces named content titled framed headed sized few =>
    obtain ⟨kind, within⟩ := payloadWithin frameMax.toNat framed
    obtain ⟨kind', within'⟩ := payloadWithin frameMax.toNat headed
    rw [resizedLength] at within'
    have bodies : ∀ frame ∈ pieces.map (Frame.body channel), frame.encode.length ≤ frameMax.toNat :=
      bodiesWithin large sized few
    constructor
    · intro frame member body
      rcases List.mem_cons.mp member with rfl | member
      · simp [kind] at body
      · rcases List.mem_cons.mp member with rfl | member
        · simp [kind'] at body
        · exact bodies frame member
    · rw [List.forall_mem_cons, List.forall_mem_cons, within, within', and_iff_left bodies]
      simp [named, content, titled]

def thirtyBytes : Assembler where
  state := .complete
  method := some (({ routingKey := "", body := .empty } : Publish).method "")
  header := some (.basic 30 .empty)
  body := .supplied (.ofBytes (List.replicate 30 7))

theorem thirtyWithinLimit :
    9 ≤ (22 : UInt32).toNat ∧ (collected thirtyBytes 1 22).result = .ok 3 ∧
      ∀ frame ∈ (collected thirtyBytes 1 22).state, frame.encode.length ≤ 22 := by
  have large : 9 ≤ (22 : UInt32).toNat := by decide
  have done : (collected thirtyBytes 1 22).result = .ok 3 := by decide +kernel
  refine ⟨large, done, (withinLimitExactly thirtyBytes 1 large done).2.mpr fun method named => ?_⟩
  obtain rfl := Option.some.inj named
  refine ⟨by decide, fun _ header titled => ?_⟩
  obtain rfl := Option.some.inj titled
  decide

def lengthyDeclaration : Assembler where
  state := .complete
  method := some (({ arguments := .cons "note" (.bytes (List.replicate 4096 0)) .nil } : QueueOptions).declare "q" false)

theorem lengthyBeyondLimit :
    (collected lengthyDeclaration 1 4096).result = .ok 0 ∧
      ∃ frame ∈ (collected lengthyDeclaration 1 4096).state, 4096 < frame.encode.length := by
  decide +kernel

end AmqpClient.Command
