import AmqpClient.Frame.Cut

/-! Frames as byte strings. The length field of a byte string says where the first piece ends, whatever
follows it; so a string falls into pieces in one way only, and encoded frames are such pieces. -/
namespace AmqpClient.Frame

def Whole (piece : Bytes) : Prop := sizeAhead? piece = some piece.length

theorem sizeAheadKnown {bytes : Bytes} {size : Nat} (known : sizeAhead? bytes = some size) :
    overhead ≤ size ∧ headerSize ≤ bytes.length ∧ ∀ rest, sizeAhead? (bytes ++ rest) = some size := by
  unfold sizeAhead? at known
  split at known
  · obtain rfl := Option.some.inj known
    refine ⟨Nat.le_add_left .., ?_, fun rest => rfl⟩
    simp only [headerSize, List.length_cons]
    omega
  · contradiction

theorem sizeAheadFront {bytes rest : Bytes} (enough : headerSize ≤ bytes.length) :
    sizeAhead? (bytes ++ rest) = sizeAhead? bytes := by
  match bytes, enough with
  | _ :: _ :: _ :: _ :: _ :: _ :: _ :: _, _ => rfl

theorem wholeLength {piece : Bytes} (whole : Whole piece) : overhead ≤ piece.length :=
  (sizeAheadKnown whole).1

theorem cutOneIff {bytes piece rest : Bytes} :
    cutOne? bytes = some (piece, rest) ↔ bytes = piece ++ rest ∧ Whole piece := by
  constructor
  · intro found
    simp only [cutOne?, bind, Option.bind_eq_some_iff] at found
    obtain ⟨size, known, split⟩ := found
    obtain ⟨rfl, length⟩ := Bytes.splitSome split
    have large : headerSize ≤ piece.length := by
      rw [length]
      exact Nat.le_trans (Nat.le_succ _) (sizeAheadKnown known).1
    exact ⟨rfl, by rw [Whole, length, ← known, sizeAheadFront large]⟩
  · rintro ⟨rfl, whole⟩
    have known := (sizeAheadKnown whole).2.2 rest
    simp only [cutOne?, known, bind, Option.bind_some, Bytes.splitAppend]

theorem piecesPrefix {pieces others : List Bytes} {rest : Bytes}
    (one : ∀ piece ∈ pieces, Whole piece) (two : ∀ piece ∈ others, Whole piece)
    (same : pieces.flatten ++ rest = others.flatten) :
    ∃ more, others = pieces ++ more ∧ rest = more.flatten := by
  induction pieces generalizing others with
  | nil => exact ⟨others, rfl, same⟩
  | cons piece pieces ih =>
    have whole := one piece List.mem_cons_self
    cases others with
    | nil =>
      have length := congrArg List.length same
      have large := wholeLength whole
      simp only [List.flatten_cons, List.length_append, List.flatten_nil, List.length_nil] at length
      unfold overhead at large
      omega
    | cons other others =>
      rw [List.flatten_cons, List.append_assoc, List.flatten_cons] at same
      have front := (cutOneIff.mpr ⟨same.symm, whole⟩).symm.trans
        (cutOneIff.mpr ⟨rfl, two other List.mem_cons_self⟩)
      obtain ⟨rfl, behind⟩ := Prod.mk.inj (Option.some.inj front)
      obtain ⟨more, rfl, ended⟩ := ih (fun piece member => one piece (List.mem_cons_of_mem _ member))
        (fun piece member => two piece (List.mem_cons_of_mem _ member)) behind
      exact ⟨more, rfl, ended⟩

theorem cutWithinEnough {fuel : Nat} {bytes : Bytes} (enough : bytes.length ≤ fuel) :
    cutWithin fuel bytes = cutWithin bytes.length bytes := by
  induction fuel using Nat.strongRecOn generalizing bytes with
  | ind fuel ih =>
    cases fuel with
    | zero => rw [Nat.le_zero.mp enough]
    | succ fuel =>
      cases found : cutOne? bytes with
      | none => cases bytes <;> simp only [List.length_nil, List.length_cons, cutWithin, found]
      | some cut =>
        obtain ⟨piece, rest⟩ := cut
        obtain ⟨rfl, whole⟩ := cutOneIff.mp found
        have large := wholeLength whole
        unfold overhead headerSize at large
        rw [List.length_append] at enough
        obtain ⟨length, same⟩ : ∃ length, (piece ++ rest).length = length + 1 :=
          ⟨(piece ++ rest).length - 1, by rw [List.length_append]; omega⟩
        rw [List.length_append] at same
        rw [List.length_append, same]
        simp only [cutWithin, found]
        rw [ih fuel (Nat.lt_succ_self _) (by omega), ih length (by omega) (by omega)]

theorem cutStuck {bytes : Bytes} (stuck : cutOne? bytes = none) : cut bytes = ([], bytes) := by
  cases bytes with
  | nil => rfl
  | cons b rest => simp only [cut, List.length_cons, cutWithin, stuck, List.map_nil]

theorem cutCons {piece : Bytes} (whole : Whole piece) (rest : Bytes) :
    cut (piece ++ rest) = (Piece.ofBytes piece :: (cut rest).1, (cut rest).2) := by
  have large := wholeLength whole
  unfold overhead headerSize at large
  obtain ⟨fuel, same⟩ : ∃ fuel, (piece ++ rest).length = fuel + 1 :=
    ⟨(piece ++ rest).length - 1, by rw [List.length_append]; omega⟩
  have found : cutOne? (piece ++ rest) = some (piece, rest) := cutOneIff.mpr ⟨rfl, whole⟩
  have enough : rest.length ≤ fuel := by
    rw [List.length_append] at same
    omega
  simp only [cut, same, cutWithin, found, cutWithinEnough enough, List.map_cons]

theorem cutPieces {pieces : List Bytes} (wholes : ∀ piece ∈ pieces, Whole piece) (rest : Bytes) :
    cut (pieces.flatten ++ rest) = (pieces.map Piece.ofBytes ++ (cut rest).1, (cut rest).2) := by
  induction pieces with
  | nil => rfl
  | cons piece pieces ih =>
    obtain ⟨whole, wholes⟩ := List.forall_mem_cons.mp wholes
    rw [List.flatten_cons, List.append_assoc, cutCons whole, ih wholes, List.map_cons, List.cons_append]

theorem ofPayloadIff {kind : FrameKind} {channel : UInt16} {payload : Bytes} {frame : Frame} :
    ofPayload kind channel payload = .ok frame ↔
      payload.length < UInt32.size ∧ frame = ⟨kind, channel, payload⟩ := by
  unfold ofPayload
  split
  · rename_i fits
    exact ⟨fun ok => ⟨fits, (Except.ok.inj ok).symm⟩, fun same => congrArg Except.ok same.2.symm⟩
  · rename_i large
    exact ⟨fun ok => by contradiction, fun same => absurd same.1 large⟩

theorem encodeLength (frame : Frame) : frame.encode.length = frame.size := by
  simp only [encode, encodeHeader, size, Bytes.ofU16, List.length_append, List.length_cons,
    Bytes.lengthOfNat, List.length_nil, overhead, headerSize]
  omega

theorem headerLength (frame : Frame) : frame.encodeHeader.length = headerSize := by
  simp only [encodeHeader, Bytes.ofU16, List.length_cons, List.length_append, Bytes.lengthOfNat, headerSize]

theorem sizeAheadHeader (frame : Frame) (fits : frame.payload.length < UInt32.size) :
    sizeAhead? frame.encodeHeader = some frame.size := by
  have number := (Bytes.toNatOfNat 4 frame.payload.length).trans (Nat.mod_eq_of_lt fits)
  have ahead : sizeAhead? frame.encodeHeader
      = some (Bytes.toNat (Bytes.ofNat 4 frame.payload.length) + overhead) := rfl
  rw [ahead, number, size, Nat.add_comm]

theorem encodeWhole {frame : Frame} (fits : frame.payload.length < UInt32.size) : Whole frame.encode := by
  rw [Whole, encodeLength]
  exact (sizeAheadKnown (sizeAheadHeader frame fits)).2.2 _

theorem parseEncode {frame : Frame} (fits : frame.payload.length < UInt32.size) :
    parse? frame.encode = some frame := by
  have known : sizeAhead? frame.encode = some frame.encode.length := encodeWhole fits
  have ended : frame.encode.getLast? = some endByte := by
    rw [encode, ← List.append_assoc]
    exact List.getLast?_concat
  have first : frame.encode.head? = some frame.kind.code := rfl
  have payload : (frame.encode.drop headerSize).dropLast = frame.payload := by
    rw [encode, ← headerLength frame, List.drop_left, List.dropLast_concat]
  have channel : UInt16.ofNat (Bytes.toNat ((frame.encode.drop 1).take 2)) = frame.channel := by
    have field : (frame.encode.drop 1).take 2 = Bytes.ofNat 2 frame.channel.toNat := rfl
    have number := (Bytes.toNatOfNat 2 frame.channel.toNat).trans (Nat.mod_eq_of_lt frame.channel.toNat_lt)
    rw [field, number]
    exact UInt16.ofNat_toNat
  simp only [parse?, known, ended, first, FrameKind.ofCodeCode, payload, channel, bind, Option.bind_some,
    ne_eq, not_true_eq_false, if_false]

end AmqpClient.Frame
