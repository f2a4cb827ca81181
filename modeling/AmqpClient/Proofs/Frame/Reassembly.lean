import AmqpClient.Proofs.Frame.Delivery

/-! One intake under any number of calls, each with a stream of its own, whatever the streams yield and
whichever frames the handlers refuse. What the calls show is what the bytes they read say when these are
cut at their length fields; a call that fails leaves the bytes behind the piece it took. -/
namespace AmqpClient

namespace Stream

def consumed (stream later : Stream) : Bytes :=
  stream.bytes.take (stream.bytes.length - later.bytes.length)

theorem consumedFront {stream later : Stream} {read : Bytes} (bytes : stream.bytes = read ++ later.bytes) :
    stream.consumed later = read := by
  simp [consumed, bytes]

end Stream

theorem Frame.Piece.frameOfBytes (bytes : Bytes) : (ofBytes bytes).frame? = parse? bytes := by
  unfold ofBytes
  cases parse? bytes <;> rfl

namespace Intake

abbrev Log := List (Frame × Except Error Unit)

section

variable {σ : Type} (handler : σ → Frame → Except Error Unit × σ)

def logging (s : σ × Log) (frame : Frame) : Except Error Unit × σ × Log :=
  match handler s.1 frame with
  | (answer, next) => (answer, next, s.2 ++ [(frame, answer)])

theorem drainWithinLogged (fuel : Nat) (s : σ × Log) (intake : Intake) :
    drainWithin handler fuel s.1 intake
      = Prod.map id (Prod.map Prod.fst id) (drainWithin (logging handler) fuel s intake) := by
  induction fuel generalizing s intake with
  | zero => rfl
  | succ fuel ih =>
    simp only [drainWithin]
    rcases intake.take with ⟨e | (_ | frame), rest⟩
    · rfl
    · rfl
    · rcases handled : handler s.1 frame with ⟨e | ⟨⟩, next⟩
      · simp only [logging, handled, Prod.map, id]
      · simp only [logging, handled]
        exact ih (next, _) rest

theorem readFromWithinLogged (fuel total : Nat) (s : σ × Log) (intake : Intake) (stream : Stream) :
    readFromWithin handler fuel total s.1 intake stream =
      let run := readFromWithin (logging handler) fuel total s intake stream
      ⟨run.result, run.state.1, run.intake, run.stream⟩ := by
  induction fuel generalizing total s intake stream with
  | zero => rfl
  | succ fuel ih =>
    simp only [readFromWithin, drain, drainWithinLogged handler _ s intake]
    rcases drainWithin (logging handler) intake.pending.length s intake with ⟨e | ⟨⟩, last, rest⟩
    · rfl
    · dsimp only [Prod.map, id]
      rcases rest.fill stream with ⟨e | (count | _), next, later⟩
      · rfl
      · exact ih _ last next later
      · rfl

theorem readFromLogged (s : σ × Log) (intake : Intake) (stream : Stream) :
    readFrom handler s.1 intake stream =
      let run := readFrom (logging handler) s intake stream
      ⟨run.result, run.state.1, run.intake, run.stream⟩ :=
  readFromWithinLogged handler _ 0 s intake stream

variable {handler}

theorem acceptsLogged {s last : σ × Log} {pieces : List Bytes} (accepts : Accepts (logging handler) s pieces last) :
    ∃ frames : List Frame, pieces.map Frame.parse? = frames.map some ∧
      last.2 = s.2 ++ frames.map fun frame => (frame, .ok ()) := by
  induction accepts with
  | nil s => exact ⟨[], rfl, (List.append_nil _).symm⟩
  | @cons s next last piece frame rest whole parsed handled later ih =>
    obtain ⟨frames, same, log⟩ := ih
    obtain ⟨answer, rfl⟩ := Prod.mk.inj handled
    refine ⟨frame :: frames, by simp [parsed, same], ?_⟩
    rw [log, answer]
    simp

end

inductive Call (σ : Type)
  | readFrom (handler : σ → Frame → Except Error Unit × σ) (stream : Stream)
  | nextFrame (stream : Stream)

inductive Answer
  | counted (bytes : Nat)
  | fetched (frame : Frame)

/- What a call comes to: its result, the frames that it handed out and after them the piece that it reported as
no frame, if it did (`none`), and the bytes that it read. -/
structure Report where
  result : Except Error Answer
  shown : List (Option Frame)
  read : Bytes
  left : Intake

def reported : Except Error α → List (Option Frame)
  | .error .malformedFrame => [none]
  | _ => []

def shownBy (log : Log) (result : Except Error Nat) : List (Option Frame) :=
  log.map (fun entry => some entry.1) ++ if log.all fun entry => entry.2.isOk then reported result else []

theorem reportedOther {e : Error} (other : e ≠ .malformedFrame) : reported (.error e : Except Error α) = [] := by
  cases e <;> first | rfl | exact absurd rfl other

theorem shownByAccepted {frames : List Frame} {log : Log} (result : Except Error Nat)
    (accepted : log = frames.map fun frame => (frame, .ok ())) :
    shownBy log result = frames.map some ++ reported result := by
  have fine : log.all (fun entry => entry.2.isOk) = true := by simp [accepted, Except.isOk, Except.toBool]
  rw [shownBy, if_pos fine, accepted, List.map_map]
  rfl

theorem shownByRefused {frames : List Frame} {frame : Frame} {e : Error} {log : Log} (result : Except Error Nat)
    (refused : log = frames.map (fun frame => (frame, .ok ())) ++ [(frame, .error e)]) :
    shownBy log result = (frames ++ [frame]).map some := by
  have unfit : ¬ log.all (fun entry => entry.2.isOk) = true := by simp [refused, Except.isOk, Except.toBool]
  rw [shownBy, if_neg unfit, refused]
  simp

namespace Call

def perform : Call σ → σ → Intake → Report × σ
  | .readFrom handler stream, s, intake =>
    let run := Intake.readFrom handler s intake stream
    let log := (Intake.readFrom (logging handler) (s, []) intake stream).state.2
    (⟨run.result.map .counted, shownBy log run.result, stream.consumed run.stream, run.intake⟩, run.state)
  | .nextFrame stream, s, intake =>
    match Intake.nextFrame intake stream with
    | (.ok frame, next, later) => (⟨.ok (.fetched frame), [some frame], stream.consumed later, next⟩, s)
    | (.error e, next, later) =>
      (⟨.error e, reported (.error e : Except Error Frame), stream.consumed later, next⟩, s)

end Call

inductive Fetching (intake : Intake) (stream : Stream) : Except Error Frame × Intake × Stream → Prop
  | frame {read piece : Bytes} {frame : Frame} {next : Intake} {later : Stream} (whole : Frame.Whole piece)
      (parsed : Frame.parse? piece = some frame) (passage : Passage read [piece] intake stream next later) :
      Fetching intake stream (.ok frame, next, later)
  | malformed {read piece : Bytes} {next : Intake} {later : Stream} (whole : Frame.Whole piece)
      (parsed : Frame.parse? piece = none) (passage : Passage read [piece] intake stream next later) :
      Fetching intake stream (.error .malformedFrame, next, later)
  | stopped {read : Bytes} {e : Error} {next : Intake} {later : Stream} (other : e ≠ .malformedFrame)
      (passage : Passage read [] intake stream next later) (ended : Frame.cutOne? next.pending = none) :
      Fetching intake stream (.error e, next, later)

theorem Fetching.after {read : Bytes} {intake middle : Intake} {stream between : Stream}
    {answer : Except Error Frame × Intake × Stream} (passage : Passage read [] intake stream middle between)
    (fetching : Fetching middle between answer) : Fetching intake stream answer := by
  cases fetching with
  | frame whole parsed more => exact .frame whole parsed (passage.trans more)
  | malformed whole parsed more => exact .malformed whole parsed (passage.trans more)
  | stopped other more ended => exact .stopped other (passage.trans more) ended

theorem nextFrameWithinFetching {fuel : Nat} (intake : Intake) {stream : Stream} (enough : stream.weight < fuel) :
    Fetching intake stream (nextFrameWithin fuel intake stream) := by
  induction fuel generalizing intake stream with
  | zero => exact absurd enough (Nat.not_lt_zero _)
  | succ fuel ih =>
    cases found : Frame.cutOne? intake.pending with
    | some cut =>
      obtain ⟨piece, rest⟩ := cut
      obtain ⟨pending, whole⟩ := Frame.cutOneIff.mp found
      have passage : Passage [] [piece] intake stream ⟨rest⟩ stream := .taken stream (by simpa using pending)
      cases parsed : Frame.parse? piece with
      | none =>
        simp only [nextFrameWithin, takePiece found, Frame.parse, parsed, Except.map]
        exact .malformed whole parsed passage
      | some frame =>
        simp only [nextFrameWithin, takePiece found, Frame.parse, parsed, Except.map]
        exact .frame whole parsed passage
    | none =>
      have filling := intake.fillFilling stream
      simp only [nextFrameWithin, takeEnded found]
      generalize intake.fill stream = answer at filling ⊢
      cases filling with
      | @read bytes next later passage lighter =>
        have light : later.weight < fuel := by omega
        exact .after passage (ih next light)
      | stopped short passage _ =>
        rcases short with rfl | ⟨e, other, rfl⟩
        · exact .stopped Error.noConfusion passage found
        · exact .stopped other passage found

structure Accounted (intake : Intake) (report : Report) (pieces : List Bytes) : Prop where
  whole : ∀ piece ∈ pieces, Frame.Whole piece
  bytes : intake.pending ++ report.read = pieces.flatten ++ report.left.pending
  shown : report.shown = pieces.map Frame.parse?
  idle : report.shown = [] → Frame.cutOne? report.left.pending = none
  counted : ∀ count, report.result = .ok (.counted count) →
    Frame.cutOne? report.left.pending = none ∧ count = report.read.length

theorem fetchAccounted {σ : Type} (s : σ) (intake : Intake) (stream : Stream) :
    ∃ pieces, Accounted intake ((Call.nextFrame stream).perform s intake).1 pieces := by
  have fetching : Fetching intake stream (nextFrame intake stream) :=
    nextFrameWithinFetching intake (Nat.lt_succ_self _)
  unfold Call.perform
  dsimp only
  generalize nextFrame intake stream = answer at fetching ⊢
  cases fetching with
  | @frame read piece frame next later whole parsed passage =>
    dsimp only
    refine ⟨[piece], List.forall_mem_singleton.mpr whole, ?_, ?_, ?_, ?_⟩
    · rw [Stream.consumedFront passage.bytes, passage.pending]
    · simp [parsed]
    · simp
    · simp
  | @malformed read piece next later whole parsed passage =>
    dsimp only
    refine ⟨[piece], List.forall_mem_singleton.mpr whole, ?_, ?_, ?_, ?_⟩
    · rw [Stream.consumedFront passage.bytes, passage.pending]
    · simp [parsed, reported]
    · simp [reported]
    · simp
  | stopped other passage ended =>
    dsimp only
    refine ⟨[], List.forall_mem_nil _, ?_, reportedOther other, fun _ => ended, ?_⟩
    · rw [Stream.consumedFront passage.bytes, passage.pending]
    · simp

theorem readAccounted {σ : Type} (handler : σ → Frame → Except Error Unit × σ) (s : σ) (intake : Intake)
    (stream : Stream) : ∃ pieces, Accounted intake ((Call.readFrom handler stream).perform s intake).1 pieces := by
  have reading := readFromReading (logging handler) (s, []) intake stream
  have plain := readFromLogged handler (s, []) intake stream
  unfold Call.perform
  dsimp only at plain ⊢
  rw [plain]
  generalize readFrom (logging handler) (s, []) intake stream = run at reading ⊢
  cases reading with
  | @paused read pieces last next later result short accepts passage ended =>
    obtain ⟨frames, parsed, log⟩ := acceptsLogged accepts
    have quiet : reported result = [] := by
      rcases short with rfl | ⟨e, other, rfl⟩
      · rfl
      · exact reportedOther other
    refine ⟨pieces, accepts.whole, ?_, ?_, fun _ => ended, fun count counted => ⟨ended, ?_⟩⟩
    · rw [Stream.consumedFront passage.bytes, passage.pending]
    · rw [shownByAccepted result log, quiet, List.append_nil, parsed]
    · rw [Stream.consumedFront passage.bytes]
      rcases short with rfl | ⟨e, other, rfl⟩
      · simpa [Except.map] using counted.symm
      · simp [Except.map] at counted
  | @refused read pieces piece middle last e next later accepts refuses passage =>
    obtain ⟨frames, parsed, log⟩ := acceptsLogged accepts
    have shown : shownBy last.2 (.error e) = (pieces ++ [piece]).map Frame.parse? := by
      cases refuses with
      | malformed whole unparsed =>
        rw [shownByAccepted _ log, List.map_append, parsed, List.map_singleton, unparsed, reported]
      | @failed _ _ frame _ whole its handled =>
        obtain ⟨answer, rfl⟩ := Prod.mk.inj handled
        have refused : middle.2 ++ [(frame, (handler middle.1 frame).1)]
            = frames.map (fun frame => (frame, .ok ())) ++ [(frame, .error e)] := by
          rw [log, answer]
          rfl
        rw [shownByRefused _ refused, List.map_append, List.map_append, parsed, List.map_singleton,
          List.map_singleton, its]
    refine ⟨pieces ++ [piece], ?_, ?_, shown, fun nothing => ?_, ?_⟩
    · exact List.forall_mem_append.mpr ⟨accepts.whole, List.forall_mem_singleton.mpr refuses.whole⟩
    · rw [Stream.consumedFront passage.bytes, passage.pending]
    · rw [shown] at nothing
      simp at nothing
    · simp [Except.map]

theorem performAccounted {σ : Type} (call : Call σ) (s : σ) (intake : Intake) :
    ∃ pieces, Accounted intake (call.perform s intake).1 pieces := by
  cases call with
  | readFrom handler stream => exact readAccounted handler s intake stream
  | nextFrame stream => exact fetchAccounted s intake stream

def performAll : List (Call σ) → σ → Intake → List Report × σ × Intake
  | [], s, intake => ([], s, intake)
  | call :: rest, s, intake =>
    let (report, s) := call.perform s intake
    let (reports, last) := performAll rest s report.left
    (report :: reports, last)

theorem performAllAccounted {σ : Type} (calls : List (Call σ)) (s : σ) (intake : Intake) :
    ∃ pieces : List Bytes, (∀ piece ∈ pieces, Frame.Whole piece) ∧
      intake.pending ++ (performAll calls s intake).1.flatMap Report.read
        = pieces.flatten ++ (performAll calls s intake).2.2.pending ∧
      (performAll calls s intake).1.flatMap Report.shown = pieces.map Frame.parse? ∧
      ∀ report ∈ (performAll calls s intake).1, ∀ count, report.result = .ok (.counted count) →
        Frame.cutOne? report.left.pending = none ∧ count = report.read.length := by
  induction calls generalizing s intake with
  | nil =>
    refine ⟨[], List.forall_mem_nil _, ?_, rfl, List.forall_mem_nil _⟩
    simp [performAll]
  | cons call rest ih =>
    obtain ⟨pieces, here⟩ := performAccounted call s intake
    obtain ⟨others, wholes, bytes, shown, counted⟩ := ih (call.perform s intake).2 (call.perform s intake).1.left
    refine ⟨pieces ++ others, List.forall_mem_append.mpr ⟨here.whole, wholes⟩, ?_, ?_,
      List.forall_mem_cons.mpr ⟨here.counted, counted⟩⟩
    · simp only [performAll, List.flatMap_cons, List.flatten_append]
      rw [← List.append_assoc, here.bytes, List.append_assoc, bytes, List.append_assoc]
    · simp only [performAll, List.flatMap_cons, List.map_append, here.shown]
      rw [shown]

/- What the frames and reports of any calls leave out are the bytes still pending, and a further call goes on
with the piece that follows the last one, however the calls before it ended. -/
theorem handsOutWhatWasRead {σ : Type} (calls : List (Call σ)) (s : σ) (further : Call σ) :
    let run := performAll calls s {}
    let read := run.1.flatMap Report.read
    let intake := run.2.2
    let next := (further.perform run.2.1 intake).1
    ∃ pieces more : List Bytes,
      read = pieces.flatten ++ intake.pending ∧
      run.1.flatMap Report.shown = (pieces.map Frame.Piece.ofBytes).map Frame.Piece.frame? ∧
      Frame.cut read
        = (pieces.map Frame.Piece.ofBytes ++ (Frame.cut intake.pending).1, (Frame.cut intake.pending).2) ∧
      (∀ report ∈ run.1, ∀ count, report.result = .ok (.counted count) →
        (Frame.cut report.left.pending).1 = [] ∧ count = report.read.length) ∧
      intake.pending ++ next.read = more.flatten ++ next.left.pending ∧
      next.shown = (more.map Frame.Piece.ofBytes).map Frame.Piece.frame? ∧
      (Frame.cut (intake.pending ++ next.read)).1
        = more.map Frame.Piece.ofBytes ++ (Frame.cut next.left.pending).1 ∧
      (next.shown = [] → (Frame.cut next.left.pending).1 = []) := by
  intro run read intake next
  obtain ⟨pieces, wholes, bytes, shown, counted⟩ := performAllAccounted calls s {}
  obtain ⟨more, going⟩ := performAccounted further run.2.1 intake
  have parsed (pieces : List Bytes) :
      pieces.map Frame.parse? = (pieces.map Frame.Piece.ofBytes).map Frame.Piece.frame? := by
    rw [List.map_map]
    exact List.map_congr_left fun piece _ => (Frame.Piece.frameOfBytes piece).symm
  have joined : read = pieces.flatten ++ intake.pending := by simpa using bytes
  refine ⟨pieces, more, joined, shown.trans (parsed pieces), ?_, ?_, going.bytes, going.shown.trans (parsed more),
    ?_, ?_⟩
  · rw [joined, Frame.cutPieces wholes]
  · intro report member count result
    obtain ⟨ended, same⟩ := counted report member count result
    exact ⟨congrArg Prod.fst (Frame.cutStuck ended), same⟩
  · rw [going.bytes, Frame.cutPieces going.whole]
  · intro nothing
    exact congrArg Prod.fst (Frame.cutStuck (going.idle nothing))

end Intake

end AmqpClient
