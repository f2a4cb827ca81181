import AmqpClient.Proofs.Command.Grammar
import AmqpClient.Proofs.Command.Writing
import AmqpClient.Proofs.Frame.Delivery
import AmqpClient.Declaration

/-! Commands from one end to the other. The frames that a command with content is written as tile its
body; an assembler accepts any such tiling and is complete with its last frame, not before. Between the two
the frames may be cut into reads at any place. -/
namespace AmqpClient

namespace Assembler

def noting (s : List Bool × Assembler) (frame : Frame) : Except Error Unit × List Bool × Assembler :=
  match s.2.feed frame with
  | (.error e, assembler) => (.error e, s.1, assembler)
  | (.ok done, assembler) => (.ok (), s.1 ++ [done], assembler)

theorem notingAccepts {assembler next final : Assembler} {frame : Frame} {rest : List Bytes}
    {log verdicts : List Bool} (fits : frame.payload.length < UInt32.size)
    (ok : assembler.accept frame = .ok next)
    (later : Intake.Accepts noting (log ++ [next.isComplete], next) rest (verdicts, final)) :
    Intake.Accepts noting (log, assembler) (frame.encode :: rest) (verdicts, final) := by
  refine .cons (Frame.encodeWhole fits) (Frame.parseEncode fits) ?_ later
  simp only [noting, feed, ok]

theorem portionsAccepted (spill : SpillOptions) (method : Method) {header : ContentHeader}
    (channel : UInt16) {chunk : Nat} {rest : Bytes} {pieces : List Bytes}
    (portions : Command.Portions chunk rest pieces) (filled : rest ≠ []) (log : List Bool) (before : Bytes)
    (total : (before ++ rest).length = header.bodySize.toNat) (fits : ∀ piece ∈ pieces, piece.length < UInt32.size) :
    Intake.Accepts noting (log, collecting spill method header before)
      (pieces.map fun piece => (Frame.body channel piece).encode)
      (log ++ (List.replicate (pieces.length - 1) false ++ [true]),
        collected spill method header (before ++ rest)) := by
  induction portions generalizing log before with
  | nothing => exact absurd rfl filled
  | @last piece _ _ =>
    have long := List.length_pos_iff.mpr filled
    have lacking : before.length < header.bodySize.toNat := by
      rw [List.length_append] at total
      omega
    exact notingAccepts (fits piece List.mem_cons_self)
      ((acceptCollecting lacking).mpr ⟨rfl, .inr ⟨total, rfl⟩⟩) (.nil _)
  | @more piece rest pieces full more portions ih =>
    have long := List.length_pos_iff.mpr more
    have joined : before ++ piece ++ rest = before ++ (piece ++ rest) := List.append_assoc ..
    rw [← joined] at total
    have short : (before ++ piece).length < header.bodySize.toNat := by
      rw [List.length_append] at total
      omega
    have lacking : before.length < header.bodySize.toNat := by
      rw [List.length_append] at short
      omega
    have later := ih more (log ++ [false]) (before ++ piece) total
      fun piece member => fits piece (List.mem_cons_of_mem _ member)
    have verdicts : (log ++ [false]) ++ (List.replicate (pieces.length - 1) false ++ [true])
        = log ++ (List.replicate ((piece :: pieces).length - 1) false ++ [true]) := by
      cases pieces with
      | nil => exact absurd portions.joined.symm more
      | cons next others =>
        simp [List.replicate_succ]
    rw [verdicts, joined] at later
    exact notingAccepts (fits piece List.mem_cons_self)
      ((acceptCollecting lacking).mpr ⟨rfl, .inl ⟨short, rfl⟩⟩) later

theorem tilingAccepted {spill : SpillOptions} (working : spill.directory = true) {method : Method}
    {header : ContentHeader} {first second : Frame} (opening : Opening first second method header)
    {channel : UInt16} {chunk : Nat} {bytes : Bytes} {pieces : List Bytes}
    (portions : Command.Portions chunk bytes pieces) (declared : header.bodySize.toNat = bytes.length)
    (fits : ∀ frame ∈ first :: second :: pieces.map (Frame.body channel), frame.payload.length < UInt32.size) :
    ∃ assembler, Intake.Accepts noting ([], { spill })
        ((first :: second :: pieces.map (Frame.body channel)).map Frame.encode)
        (List.replicate (pieces.length + 1) false ++ [true], assembler) ∧
      assembler.state = .complete ∧ assembler.method = some method ∧ assembler.header = some header ∧
      ∃ body rest, assembler.takeBody = (.ok body, rest) ∧ body.length.toNat = bytes.length ∧
        body.remainder = .ok bytes := by
  have begun : ({ spill } : Assembler).accept first
      = .ok { state := .expectingContentHeader, method := some method, spill } :=
    (acceptMethodIff rfl).mpr ⟨method, opening.parsed, by rw [if_pos opening.content]⟩
  obtain ⟨one, two, others⟩ : first.payload.length < UInt32.size ∧ second.payload.length < UInt32.size ∧
      ∀ piece ∈ pieces, piece.length < UInt32.size := by
    simpa [Frame.body] using fits
  by_cases nothing : bytes = []
  · subst nothing
    obtain rfl := portions.ofNothing
    have zero : header.bodySize = 0 := UInt64.toNat_inj.mp declared
    refine ⟨{ state := .complete, method := some method, header := some header, spill }, ?_, rfl, rfl, rfl,
      ContentBody.empty, _, rfl, rfl, ContentBody.remainderOfBytes []⟩
    exact notingAccepts one begun (notingAccepts two
      ((acceptAnnounced working).mpr ⟨header, opening.titled, .inl ⟨zero, rfl⟩⟩) (.nil _))
  · have sized : 0 < header.bodySize.toNat := by
      rw [declared]
      exact List.length_pos_iff.mpr nothing
    obtain ⟨body, rest, taken, length, remainder⟩ := keepRest spill header.bodySize bytes
      (collected spill method header bytes) rfl rfl
    have told : body.length.toNat = bytes.length := by
      rw [length]
      exact UInt64.toNat_ofNat_of_lt' (declared ▸ header.bodySize.toNat_lt)
    refine ⟨collected spill method header bytes, ?_, rfl, rfl, rfl, body, rest, taken, told, remainder⟩
    have bodies := portionsAccepted spill method channel portions nothing [false, false] []
      declared.symm others
    have verdicts : [false, false] ++ (List.replicate (pieces.length - 1) false ++ [true])
        = List.replicate (pieces.length + 1) false ++ [true] := by
      cases pieces with
      | nil => exact absurd portions.joined.symm nothing
      | cons piece pieces => rfl
    rw [verdicts] at bodies
    rw [List.map_cons, List.map_cons, List.map_map]
    exact notingAccepts one begun (notingAccepts two
      ((acceptAnnounced working).mpr ⟨header, opening.titled, .inr ⟨sized, rfl⟩⟩) bodies)

end Assembler

namespace Command

theorem chunkSizeRoomy {frameMax : UInt32} {total : UInt64}
    (roomy : 9 ≤ frameMax.toNat ∨ frameMax = 0 ∧ total.toNat < UInt32.size) :
    ∃ chunk, chunkSize frameMax total = .ok chunk ∧ chunk < UInt32.size ∧ (0 < total.toNat → 0 < chunk) ∧
      chunk = if frameMax = 0 then total.toNat else frameMax.toNat - 8 := by
  by_cases unbounded : frameMax = 0
  · subst unbounded
    have small : total.toNat < UInt32.size := roomy.elim (fun large => absurd large (by decide)) And.right
    exact ⟨total.toNat, rfl, small, id, rfl⟩
  · have large : 9 ≤ frameMax.toNat := roomy.resolve_right fun small => unbounded small.1
    have bounded : frameMax.toNat < UInt32.size := frameMax.toNat_lt
    have above : ¬ frameMax.toNat ≤ Frame.overhead := Nat.not_le.mpr large
    refine ⟨frameMax.toNat - 8, ?_, by omega, fun _ => by omega, by rw [if_neg unbounded]⟩
    rw [chunkSize, if_neg unbounded, if_neg above]
    rfl

theorem writtenIsReassembled {method : Method} (content : method.hasContent = true)
    (properties : Properties) (channel : UInt16) {body : ContentBody} {bytes : Bytes}
    (yields : body.Yields bytes) {frameMax : UInt32}
    (roomy : 9 ≤ frameMax.toNat ∨ frameMax = 0 ∧ bytes.length < UInt32.size) {first second : Frame}
    (framed : method.frame channel = .ok first) (parsed : first.method = .ok method)
    (headed : (ContentHeader.basic body.length properties).frame channel = .ok second)
    (titled : second.contentHeader = .ok (.basic body.length properties)) :
    ∃ (command after : Assembler) (pieces : List Bytes), withBody method properties body = .ok command ∧
      write collect [] command channel frameMax
        = ⟨.ok pieces.length, after, first :: second :: pieces.map (Frame.body channel)⟩ ∧
      (∀ frame ∈ first :: second :: pieces.map (Frame.body channel), frame.channel = channel) ∧
      pieces.flatten = bytes ∧
      pieces.length = (if frameMax = 0 then if bytes = [] then 0 else 1
        else (bytes.length + (frameMax.toNat - 8) - 1) / (frameMax.toNat - 8)) ∧
      (∀ piece ∈ pieces.dropLast, piece.length = frameMax.toNat - 8) ∧ (∀ piece ∈ pieces, piece ≠ []) ∧
      ∀ (spill : SpillOptions) (stream : Stream) (calls : Nat), spill.directory = true → stream.Solid →
        stream.bytes = ((first :: second :: pieces.map (Frame.body channel)).map Frame.encode).flatten →
        stream.length ≤ calls →
        ∃ assembler taken rest, Intake.readTimes Assembler.noting calls ([], { spill }) {} stream
            = ((List.replicate (pieces.length + 1) false ++ [true], assembler), {}, []) ∧
          assembler.state = .complete ∧ assembler.method = some method ∧
          assembler.header = some (.basic body.length properties) ∧
          assembler.takeBody = (.ok taken, rest) ∧ taken.length.toNat = bytes.length ∧
          taken.remainder = .ok bytes := by
  rw [← yields.declared] at roomy
  obtain ⟨chunk, sized, small, positive, spaced⟩ := chunkSizeRoomy roomy
  have enough : body.length.toNat ≤ body.rest.length := yields.declared ▸ yields.front.length_le
  have front : body.rest.take body.length.toNat = bytes := by
    rw [yields.declared]
    exact (List.prefix_iff_eq_take.mp yields.front).symm
  let command : Assembler :=
    { state := .complete, method := some method, header := some (.basic body.length properties)
      body := .supplied body }
  obtain ⟨pieces, portions, written⟩ := collectedContent (show command.method = some method from rfl)
    content rfl rfl framed headed sized positive yields.brisk enough
  rw [front] at portions
  have sizes := portions.sizes fun filled => positive (yields.declared ▸ List.length_pos_iff.mpr filled)
  obtain ⟨short, rfl⟩ := Frame.ofPayloadIff.mp framed
  obtain ⟨brief, rfl⟩ := Frame.ofPayloadIff.mp headed
  refine ⟨command, _, pieces, rfl, written, by simp [Frame.body], portions.joined, ?_, ?_,
    fun piece member => (sizes piece member).1, ?_⟩
  · by_cases unbounded : frameMax = 0
    · rw [if_pos unbounded, yields.declared] at spaced
      subst spaced
      rw [if_pos unbounded, portions.single]
    · rw [if_neg unbounded] at spaced
      have large := roomy.resolve_right fun small => unbounded small.1
      rw [if_neg unbounded, portions.count (by omega), spaced]
  · by_cases unbounded : frameMax = 0
    · rw [if_pos unbounded, yields.declared] at spaced
      subst spaced
      have few : pieces.length ≤ 1 := by
        rw [portions.single]
        split <;> decide
      have nothing : pieces.dropLast = [] := List.length_eq_zero_iff.mp (by rw [List.length_dropLast]; omega)
      rw [nothing]
      exact List.forall_mem_nil _
    · rw [if_neg unbounded] at spaced
      rw [← spaced]
      exact portions.allButLast
  · intro spill stream calls working solid arriving times
    have fits : ∀ frame ∈ (⟨.method, channel, method.write⟩ : Frame) ::
        ⟨.header, channel, (ContentHeader.basic body.length properties).write⟩ ::
        pieces.map (Frame.body channel), frame.payload.length < UInt32.size := by
      refine List.forall_mem_cons.mpr ⟨short, List.forall_mem_cons.mpr ⟨brief, ?_⟩⟩
      exact List.forall_mem_map.mpr fun piece member => Nat.lt_of_le_of_lt (sizes piece member).2 small
    obtain ⟨assembler, accepts, complete, named, declares, taken, rest, detached, told, remainder⟩ :=
      Assembler.tilingAccepted working ⟨parsed, content, titled⟩ portions yields.declared fits
    have joined : ({} : Intake).pending ++ stream.bytes = _ := arriving
    have delivered := Intake.readTimesDelivers Assembler.noting accepts solid joined (fun _ => rfl) times
    exact ⟨assembler, taken, rest, delivered, complete, named, declares, detached, told, remainder⟩

def haltingSource : Source where
  data := [1, 2, 3, 4]
  pace := fun _ => { interruptions := 2, most := some 1 }

def haltingStream : Stream :=
  [.data [1, 0, 7, 0], .fault .interrupted,
    .data [0, 0, 9, 0, 60, 0, 40, 0, 0, 0, 0, 0, 0xCE, 2, 0, 7, 0, 0, 0], .fault .wouldBlock,
    .data [14, 0, 60, 0, 0, 0, 0, 0, 0, 0, 0, 0, 3, 0, 0, 0xCE, 3, 0, 7, 0, 0, 0, 2, 1, 2],
    .fault .connectionReset, .data [0xCE, 3, 0, 7, 0, 0, 0, 1, 3, 0xCE]]

set_option maxRecDepth 1000 in
theorem threeBytesReassembled :
    (ContentBody.ofSource haltingSource 3).Yields [1, 2, 3] ∧ haltingStream.Solid ∧
      ∃ assembler taken rest,
        Intake.readTimes Assembler.noting 7 ([], { spill := { threshold := 0 } }) {} haltingStream
          = (([false, false, false, true], assembler), {}, []) ∧
        assembler.takeBody = (.ok taken, rest) ∧ taken.remainder = .ok [1, 2, 3] := by
  have yields : (ContentBody.ofSource haltingSource 3).Yields [1, 2, 3] :=
    ContentBody.yieldsOfSource (fun _ => by simp [haltingSource]) (by decide)
  have solid : haltingStream.Solid := by decide
  have content : (({ routingKey := "", body := .empty } : Publish).method "").hasContent = true := rfl
  obtain ⟨command, after, pieces, built, written, _, _, count, _, _, reassembled⟩ := writtenIsReassembled
    content .empty 7 yields (.inl (by decide : 9 ≤ (10 : UInt32).toNat)) rfl rfl rfl rfl
  obtain rfl := Except.ok.inj built
  have sent := congrArg (fun sent => (sent.state.map Frame.encode).flatten) written
  have arriving : haltingStream.bytes = _ := rfl
  have two : pieces.length = 2 := count
  obtain ⟨assembler, taken, rest, delivered, _, _, _, detached, _, remainder⟩ :=
    reassembled { threshold := 0 } haltingStream 7 rfl solid (arriving.trans sent) (by decide)
  rw [two] at delivered
  exact ⟨yields, solid, assembler, taken, rest, delivered, detached, remainder⟩

end Command

end AmqpClient
