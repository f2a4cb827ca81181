import AmqpClient.Proofs.Command.Delimiting
import AmqpClient.Proofs.Outlet.Writing

/-! Frames and byte strings, one for one. What parses is the encoding of the frame it parses to, and every frame
that its length field can tell the length of parses back; the three ways to write a frame out put the same
bytes. -/
namespace AmqpClient

namespace Frame

variable {bytes : Bytes} {frame : Frame}

theorem wholeFields (whole : Whole bytes) :
    ∃ code channel length payload last, bytes = code :: (channel ++ (length ++ (payload ++ [last]))) ∧
      channel.length = 2 ∧ length.length = 4 ∧ payload.length = Bytes.toNat length := by
  unfold Whole sizeAhead? at whole
  split at whole
  · rename_i code h l a b c d rest
    have counted : rest.length = Bytes.toNat [a, b, c, d] + 1 := by
      have size := Option.some.inj whole
      simp only [List.length_cons, overhead, headerSize] at size
      omega
    have filled : rest ≠ [] := List.ne_nil_of_length_eq_add_one counted
    have split := List.dropLast_concat_getLast filled
    refine ⟨code, [h, l], [a, b, c, d], rest.dropLast, rest.getLast filled, ?_, rfl, rfl, ?_⟩
    · rw [split]
      rfl
    · rw [List.length_dropLast, counted, Nat.add_sub_cancel]
  · contradiction

structure Parsed (bytes : Bytes) (frame : Frame) : Prop where
  whole : Whole bytes
  ended : bytes.getLast? = some endByte
  kind : bytes.head? = some frame.kind.code
  channel : frame.channel = UInt16.ofNat (Bytes.toNat ((bytes.drop 1).take 2))
  payload : frame.payload = (bytes.drop headerSize).dropLast

theorem parsedOf (parsed : parse? bytes = some frame) : Parsed bytes frame := by
  simp only [parse?, bind, Option.bind_eq_some_iff] at parsed
  obtain ⟨size, known, checked⟩ := parsed
  split at checked
  · contradiction
  · rename_i delimited
    split at checked
    · contradiction
    · rename_i ended
      simp only [Option.bind_eq_some_iff] at checked
      obtain ⟨code, first, kind, named, same⟩ := checked
      obtain rfl := Option.some.inj same
      refine ⟨?_, not_ne_iff.mp ended, ?_, rfl, rfl⟩
      · rw [Whole, known, not_ne_iff.mp delimited]
      · rw [first, FrameKind.codeOfCode named]

theorem Parsed.encoded (parsed : Parsed bytes frame) : frame.encode = bytes := by
  obtain ⟨code, channel, length, payload, last, rfl, two, four, counted⟩ := wholeFields parsed.whole
  have kind : frame.kind.code = code := (Option.some.inj parsed.kind).symm
  have ended : last = endByte := by
    have shown : (code :: (channel ++ (length ++ (payload ++ [last])))).getLast? = some last := by
      simp only [← List.append_assoc, ← List.cons_append, List.getLast?_concat]
    exact Option.some.inj (shown.symm.trans parsed.ended)
  have numbered : Bytes.ofU16 frame.channel = channel := by
    have field : frame.channel = UInt16.ofNat (Bytes.toNat channel) := by
      rw [parsed.channel, List.drop_one, List.tail_cons, ← two, List.take_left]
    have below : Bytes.toNat channel < UInt16.size := by
      have bound := Bytes.toNatLt channel
      rwa [two] at bound
    rw [Bytes.ofU16, field, UInt16.toNat_ofNat_of_lt' below, Bytes.ofNatToNat 2 channel two]
  have carried : frame.payload = payload := by
    have front : headerSize = (code :: (channel ++ length)).length := by
      rw [List.length_cons, List.length_append, two, four, headerSize]
    rw [parsed.payload, ← List.append_assoc, ← List.cons_append, front, List.drop_left, List.dropLast_concat]
  have sized : Bytes.ofNat 4 payload.length = length := by rw [counted, Bytes.ofNatToNat 4 length four]
  simp only [encode, encodeHeader, kind, numbered, carried, sized, ended, List.cons_append, List.append_assoc]

theorem parseIff : parse? bytes = some frame ↔ frame.encode = bytes ∧ frame.payload.length < UInt32.size := by
  constructor
  · exact fun parsed => ⟨(parsedOf parsed).encoded, parsedFits parsed⟩
  · rintro ⟨rfl, fits⟩
    exact parseEncode fits

theorem sizeAheadEncoded (frame : Frame) (rest : Bytes) :
    sizeAhead? (frame.encode ++ rest) = some (frame.lengthField + overhead) := by
  have header : sizeAhead? frame.encodeHeader = some (frame.lengthField + overhead) := rfl
  rw [encode, List.append_assoc]
  exact (sizeAheadKnown header).2.2 _

theorem sizeAheadTrue {rest : Bytes} :
    sizeAhead? (frame.encode ++ rest) = some frame.encode.length ↔ frame.payload.length < UInt32.size := by
  rw [sizeAheadEncoded, encodeLength, size, Option.some.injEq, Nat.add_comm overhead, Nat.add_right_cancel_iff]
  exact lengthFieldTrue

theorem parseOk : parse bytes = .ok frame ↔ parse? bytes = some frame := by
  unfold parse
  cases parse? bytes <;> simp

theorem parseMalformed : parse bytes = .error .malformedFrame ↔ ∀ frame, parse? bytes ≠ some frame := by
  unfold parse
  cases parse? bytes <;> simp

theorem lengthWordBytes (frame : Frame) : Bytes.ofU32 frame.lengthWord = Bytes.ofNat 4 frame.payload.length := by
  have number : frame.lengthWord.toNat = Bytes.toNat (Bytes.ofNat 4 frame.payload.length) :=
    (Bytes.toNatOfNat 4 frame.payload.length).symm
  rw [Bytes.ofU32, number, Bytes.ofNatToNat 4 _ (Bytes.lengthOfNat ..)]

theorem stampedHeader (frame : Frame) : frame.stampHeader = frame.encodeHeader := by
  rw [encodeHeader, ← lengthWordBytes]
  rfl

theorem encodeIntoAppends (frame : Frame) (buffer : Array UInt8) :
    frame.encodeInto buffer = buffer ++ frame.encode := by
  apply Array.toList_inj.mp
  simp [encodeInto, encode, encodeHeader, lengthWordBytes]

section

variable {σ : Type} {put : Bytes → σ → Except IoFault Unit × σ} {written : σ → Bytes}

theorem writeToWrote (honest : Writer.Honest put written) (frame : Frame) (s : σ) :
    Writer.Wrote frame.encode (written s) (frame.writeTo put s).1 (written (frame.writeTo put s).2) := by
  have header := honest frame.stampHeader s
  rw [stampedHeader] at header
  rw [encode, writeTo, stampedHeader]
  rcases started : put frame.encodeHeader s with ⟨fault | ⟨⟩, middle⟩
  · rw [started] at header
    exact header.cut _
  · have payload := honest frame.payload middle
    rw [started] at header
    refine header.trans ?_
    dsimp only
    rcases filled : put frame.payload middle with ⟨fault | ⟨⟩, last⟩
    · rw [filled] at payload
      exact payload.cut _
    · rw [filled] at payload
      exact payload.trans (honest [endByte] last)

end

end Frame

namespace Outlet

theorem writeFrameTo (outlet : Outlet) (frame : Frame) : outlet.writeFrame frame = frame.writeTo write outlet := by
  unfold writeFrame Frame.writeTo writeAll
  rw [Frame.stampedHeader]
  rcases outlet.write frame.encodeHeader with ⟨fault | ⟨⟩, next⟩
  · rfl
  · dsimp only [writeAll]
    rcases next.write frame.payload with ⟨fault | ⟨⟩, last⟩
    · rfl
    · dsimp only
      rcases last.write [Frame.endByte] with ⟨fault | ⟨⟩, written⟩ <;> rfl

end Outlet

namespace Frame

def putBuffer (bytes : Bytes) (buffer : Array UInt8) : Except IoFault Unit × Array UInt8 := (.ok (), buffer ++ bytes)

theorem writeToBuffer (frame : Frame) (buffer : Array UInt8) :
    frame.writeTo putBuffer buffer = (.ok (), frame.encodeInto buffer) := by
  have joined : buffer ++ frame.encodeHeader ++ frame.payload ++ [endByte] = buffer ++ frame.encode := by
    apply Array.toList_inj.mp
    simp [encode]
  rw [encodeIntoAppends, ← joined, writeTo, stampedHeader]
  rfl

/- The byte strings that parse are the encodings of the frames that their length fields can tell the length of,
each from its own frame only; and a writer gets the same bytes as a buffer, however it takes them. -/
theorem codecExactly {σ : Type} {put : Bytes → σ → Except IoFault Unit × σ} {written : σ → Bytes}
    (honest : Writer.Honest put written) (frame : Frame) (bytes rest : Bytes) (buffer : Array UInt8) (s : σ)
    (outlet : Outlet) :
    (parse frame.encode = .ok frame ↔ frame.payload.length < UInt32.size) ∧
      (sizeAhead? (frame.encode ++ rest) = some frame.encode.length ↔ frame.payload.length < UInt32.size) ∧
      (parse bytes = .ok frame ↔ frame.encode = bytes ∧ frame.payload.length < UInt32.size) ∧
      (parse bytes = .error .malformedFrame ↔
        ∀ other : Frame, other.payload.length < UInt32.size → other.encode ≠ bytes) ∧
      frame.encodeInto #[] = frame.encode.toArray ∧
      frame.encodeInto buffer = buffer ++ frame.encode ∧
      frame.writeTo putBuffer buffer = (.ok (), frame.encodeInto buffer) ∧
      Writer.Wrote frame.encode (written s) (frame.writeTo put s).1 (written (frame.writeTo put s).2) ∧
      Writer.Wrote frame.encode outlet.produced (outlet.writeFrame frame).1 (outlet.writeFrame frame).2.produced := by
  refine ⟨?_, sizeAheadTrue, parseOk.trans parseIff, ?_, ?_, encodeIntoAppends frame buffer,
    writeToBuffer frame buffer, writeToWrote honest frame s, ?_⟩
  · rw [parseOk, parseIff]
    exact and_iff_right rfl
  · rw [parseMalformed]
    simp only [ne_eq, parseIff, not_and']
  · rw [encodeIntoAppends]
    exact Array.toList_inj.mp Array.toList_appendList
  · rw [outlet.writeFrameTo]
    exact writeToWrote Outlet.writeHonest frame outlet

theorem bodyInThrees :
    Writer.Honest Sink.writeAll (fun sink => sink.accepted.toList) ∧
      ∃ frame, frame = body 258 [5, 6, 0xCE, 7] ∧ parse frame.encode = .ok frame ∧
        (frame.writeTo Sink.writeAll { most := fun _ => some 3 }).2.accepted.toList = frame.encode :=
  ⟨Sink.writeAllHonest, _, rfl,
    (codecExactly Sink.writeAllHonest (body 258 [5, 6, 0xCE, 7]) [] [] #[] {} {}).1.mpr (by decide), by decide⟩

end Frame

end AmqpClient
