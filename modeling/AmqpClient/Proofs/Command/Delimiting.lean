import AmqpClient.Proofs.Command.Fitting

/-! Length fields. Four bytes say how long a payload is, and a written command parts into its frames again exactly
if they are enough for each of them. With a limit they always are; without one a body goes out in one frame,
however long it is. -/
namespace AmqpClient

namespace Frame

def lengthField (frame : Frame) : Nat := Bytes.toNat ((frame.encode.drop 3).take 4)

theorem lengthFieldWraps (frame : Frame) : frame.lengthField = frame.payload.length % UInt32.size := by
  have field : (frame.encode.drop 3).take 4 = Bytes.ofNat 4 frame.payload.length := rfl
  rw [lengthField, field]
  exact Bytes.toNatOfNat 4 _

theorem lengthFieldTrue {frame : Frame} :
    frame.lengthField = frame.payload.length ↔ frame.payload.length < UInt32.size := by
  rw [lengthFieldWraps]
  exact Nat.mod_eq_iff_lt (by decide)

theorem sizeAheadBounded {bytes : Bytes} {size : Nat} (known : sizeAhead? bytes = some size) :
    size < UInt32.size + overhead := by
  unfold sizeAhead? at known
  split at known
  · rename_i a b c d _
    obtain rfl := Option.some.inj known
    have field : Bytes.toNat [a, b, c, d] < Nat.pow 256 4 := Bytes.toNatLt [a, b, c, d]
    exact Nat.add_lt_add_right field overhead
  · contradiction

theorem parsedFits {bytes : Bytes} {frame : Frame} (parsed : parse? bytes = some frame) :
    frame.payload.length < UInt32.size := by
  simp only [parse?, bind, Option.bind_eq_some_iff] at parsed
  obtain ⟨size, known, checked⟩ := parsed
  have bound := sizeAheadBounded known
  have large := (sizeAheadKnown known).1
  split at checked
  · contradiction
  · rename_i delimited
    split at checked
    · contradiction
    · simp only [Option.bind_eq_some_iff] at checked
      obtain ⟨_, _, _, _, same⟩ := checked
      obtain rfl := Option.some.inj same
      have length := not_ne_iff.mp delimited
      simp only [List.length_dropLast, List.length_drop, headerSize, overhead] at bound large ⊢
      omega

theorem cutParsed {bytes : Bytes} {frame : Frame} (member : Piece.frame frame ∈ (cut bytes).1) :
    frame.payload.length < UInt32.size := by
  obtain ⟨piece, _, same⟩ := List.mem_map.mp member
  unfold Piece.ofBytes at same
  split at same
  · rename_i parsed
    cases same
    exact parsedFits parsed
  · cases same

theorem cutEncodedExactly (frames : List Frame) :
    cut (frames.map encode).flatten = (frames.map Piece.frame, []) ↔
      ∀ frame ∈ frames, frame.payload.length < UInt32.size := by
  constructor
  · intro parted frame member
    have inside : Piece.frame frame ∈ (cut (frames.map encode).flatten).1 := by
      rw [parted]
      exact List.mem_map_of_mem member
    exact cutParsed inside
  · intro fit
    have wholes : ∀ piece ∈ frames.map encode, Whole piece :=
      List.forall_mem_map.mpr fun frame member => encodeWhole (fit frame member)
    have pieces : (frames.map encode).map Piece.ofBytes = frames.map Piece.frame := by
      rw [List.map_map]
      refine List.map_congr_left fun frame member => ?_
      rw [Function.comp_apply, Piece.ofBytes, parseEncode (fit frame member)]
    have nothing : cut [] = ([], []) := rfl
    have parted := cutPieces wholes []
    rwa [List.append_nil, pieces, nothing, List.append_nil] at parted

end Frame

namespace Command

/- The whole body of a command goes into one frame only without a limit, and then it has to fit. -/
def Delimitable (command : Assembler) (frameMax : UInt32) : Prop :=
  frameMax = 0 → ∀ method, command.method = some method → method.hasContent = true →
    ∀ body, command.takeBody.1 = .ok body → body.length.toNat < UInt32.size

theorem chunkUnlimited {total : UInt64} {chunk : Nat} (sized : chunkSize 0 total = .ok chunk) : chunk = total.toNat :=
  (Except.ok.inj sized).symm

theorem chunkLimited {frameMax : UInt32} {total : UInt64} {chunk : Nat} (limited : frameMax ≠ 0)
    (sized : chunkSize frameMax total = .ok chunk) : chunk < UInt32.size := by
  rw [chunkSize, if_neg limited] at sized
  split at sized
  · cases sized
  · obtain rfl := Except.ok.inj sized
    exact Nat.lt_of_le_of_lt (Nat.sub_le ..) frameMax.toNat_lt

theorem piecesFit {frameMax : UInt32} {total : UInt64} {chunk : Nat} {pieces : List Bytes}
    (sized : chunkSize frameMax total = .ok chunk) (few : ∀ piece ∈ pieces, piece.length ≤ chunk)
    (long : 0 < total.toNat → ∃ piece ∈ pieces, min chunk total.toNat ≤ piece.length) :
    (∀ piece ∈ pieces, piece.length < UInt32.size) ↔ (frameMax = 0 → total.toNat < UInt32.size) := by
  by_cases limited : frameMax = 0
  · subst limited
    rw [chunkUnlimited sized] at few long
    constructor
    · intro fit _
      rcases Nat.eq_zero_or_pos total.toNat with nothing | filled
      · rw [nothing]
        decide
      · obtain ⟨piece, member, whole⟩ := long filled
        rw [Nat.min_self] at whole
        exact Nat.lt_of_le_of_lt whole (fit piece member)
    · exact fun fits piece member => Nat.lt_of_le_of_lt (few piece member) (fits rfl)
  · have small := chunkLimited limited sized
    exact iff_of_true (fun piece member => Nat.lt_of_le_of_lt (few piece member) small) fun same => absurd same limited

theorem payloadsFit {command : Assembler} {channel : UInt16} {frameMax : UInt32} {count : Nat}
    (done : (collected command channel frameMax).result = .ok count) :
    (∀ frame ∈ (collected command channel frameMax).state, frame.payload.length < UInt32.size) ↔
      Delimitable command frameMax := by
  obtain ⟨method, first, named, framed, ⟨plain, alone⟩ | ⟨content, header, body, titled, taken, written⟩⟩ :=
    collectedParts done
  · obtain ⟨fits, rfl⟩ := Frame.ofPayloadIff.mp framed
    rw [alone]
    refine iff_of_true (List.forall_mem_singleton.mpr fits) fun _ other same content => ?_
    obtain rfl := Option.some.inj (named.symm.trans same)
    exact absurd content (by simp [plain])
  · obtain ⟨second, chunk, pieces, headed, sized, few, long, same⟩ := writeContentSucceeded written
    obtain ⟨fits, rfl⟩ := Frame.ofPayloadIff.mp framed
    obtain ⟨fits', rfl⟩ := Frame.ofPayloadIff.mp headed
    rw [same, List.singleton_append, List.forall_mem_cons, List.forall_mem_cons, and_iff_right fits,
      and_iff_right fits', List.forall_mem_map]
    refine (piecesFit sized few long).trans (imp_congr_right fun _ => ?_)
    constructor
    · intro fits _ _ _ other again
      obtain rfl := Except.ok.inj (taken.symm.trans again)
      exact fits
    · exact fun all => all method named content body taken

/- A command that goes out, wherever its frames are put, has true length fields and parts into its frames again
exactly if a body without a limit is shorter than four bytes can say. -/
theorem delimitedExactly {σ : Type} (put : σ → Frame → Except IoFault Unit × σ) (s : σ) (command : Assembler)
    (channel : UInt16) (frameMax : UInt32) {count : Nat}
    (done : (write put s command channel frameMax).result = .ok count) :
    let frames := (collected command channel frameMax).state
    putAll put frames s = (.ok (), (write put s command channel frameMax).state) ∧
      ((∀ frame ∈ frames, frame.lengthField = frame.payload.length) ↔ Delimitable command frameMax) ∧
      (Frame.cut (frames.map Frame.encode).flatten = (frames.map Frame.Piece.frame, []) ↔
        Delimitable command frameMax) := by
  intro frames
  have delivered := writeCollected put s command channel frameMax
  unfold deliver at delivered
  rcases all : putAll put frames s with ⟨fault | ⟨⟩, next⟩
  · simp only [frames] at all
    simp only [all, Prod.mk.injEq, done, reduceCtorEq, false_and] at delivered
  · simp only [frames] at all
    simp only [all, Prod.mk.injEq, done] at delivered
    obtain ⟨same, rfl⟩ := delivered
    have fit := payloadsFit same.symm
    refine ⟨rfl, ?_, (Frame.cutEncodedExactly frames).trans fit⟩
    simp only [Frame.lengthFieldTrue]
    exact fit

def bodyOf (size : Nat) : Assembler where
  state := .complete
  method := some (({ routingKey := "", body := .empty } : Publish).method "")
  header := some (.basic 0 .empty)
  body := .supplied (.ofBytes (List.replicate size 255))

theorem threeBytesDelimited :
    (write collect [] (bodyOf 3) 1 0).result = .ok 1 ∧
      Frame.cut ((collected (bodyOf 3) 1 0).state.map Frame.encode).flatten
        = ((collected (bodyOf 3) 1 0).state.map Frame.Piece.frame, []) := by
  have done : (write collect [] (bodyOf 3) 1 0).result = .ok 1 := by decide
  refine ⟨done, (delimitedExactly collect [] (bodyOf 3) 1 0 done).2.2.mpr fun _ method _ _ body taken => ?_⟩
  obtain rfl := Except.ok.inj taken
  decide

theorem bodyInOneFrame {size : Nat} (channel : UInt16) (filled : 0 < size) (fits : size < UInt64.size) :
    (collected (bodyOf size) channel 0).result = .ok 1 ∧
      Frame.body channel (List.replicate size 255) ∈ (collected (bodyOf size) channel 0).state := by
  have length : (ContentBody.ofBytes (List.replicate size 255)).length.toNat = size := by
    rw [ContentBody.ofBytes, List.length_replicate]
    exact UInt64.toNat_ofNat_of_lt' fits
  have enough : (ContentBody.ofBytes (List.replicate size 255)).rest.length = size := List.length_replicate ..
  obtain ⟨pieces, portions, written⟩ := @collectedContent (bodyOf size) _ _ _ _ channel 0 _ _ size rfl rfl rfl rfl rfl
    rfl (congrArg Except.ok length) (fun _ => filled) trivial (Nat.le_of_eq (length.trans enough.symm))
  have rest : (ContentBody.ofBytes (List.replicate size 255)).rest.take size = List.replicate size 255 :=
    List.take_of_length_le (Nat.le_of_eq enough)
  rw [length, rest] at portions
  have some : List.replicate size (255 : UInt8) ≠ [] :=
    List.ne_nil_of_length_pos (by rwa [List.length_replicate])
  rw [written, portions.whole some (Nat.le_of_eq List.length_replicate)]
  exact ⟨rfl, List.mem_cons_of_mem _ (List.mem_cons_of_mem _ List.mem_cons_self)⟩

/- One byte more than four bytes can count goes out under a length field that says there is nothing. -/
theorem longBodyUnmarked :
    (collected (bodyOf 4294967296) 1 0).result = .ok 1 ∧ ∃ frame ∈ (collected (bodyOf 4294967296) 1 0).state,
      frame.payload.length = 4294967296 ∧ frame.lengthField = 0 := by
  have filled : 0 < 4294967296 := by decide
  have fits : 4294967296 < UInt64.size := by decide
  obtain ⟨done, member⟩ := bodyInOneFrame 1 filled fits
  have length : (Frame.body 1 (List.replicate 4294967296 255)).payload.length = 4294967296 := List.length_replicate ..
  refine ⟨done, _, member, length, ?_⟩
  rw [Frame.lengthFieldWraps, length]
  exact Nat.mod_self _

end Command

end AmqpClient
