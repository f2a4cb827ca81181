import AmqpClient.Frame.Intake
import AmqpClient.Proofs.Frame.Encoding

/-! Frames out of a stream, however the stream cuts them and whatever interrupts it. Pieces leave the
front of what is pending, arrivals join its end, and nothing else happens to the bytes; so a handler
gets the frames that were encoded, each once and in order, as often as reading has to be started again. -/
namespace AmqpClient

namespace Stream

def bytes (stream : Stream) : Bytes := stream.flatMap fun
  | .data bytes => bytes
  | .fault _ => []

/- A read that yields nothing is taken for the end, so nothing must not arrive before it. -/
def Solid (stream : Stream) : Prop := .data [] ∉ stream

instance (stream : Stream) : Decidable stream.Solid := inferInstanceAs (Decidable (_ ∉ stream))

theorem solidTail {arrival : Arrival} {later : Stream} (solid : Solid (arrival :: later)) : later.Solid :=
  fun member => solid (List.mem_cons_of_mem _ member)

theorem weightCons (arrival : Arrival) (later : Stream) : weight later < weight (arrival :: later) := by
  cases arrival <;> simp only [weight] <;> omega

theorem readSolid {room : Nat} {bytes : Bytes} (later : Stream) (wanted : 0 < room) (filled : bytes ≠ []) :
    ∃ front next, read room (.data bytes :: later) = (.ok front, next) ∧ front ≠ [] ∧
      Stream.bytes (.data bytes :: later) = front ++ next.bytes ∧
      next.length ≤ later.length + 1 ∧ next.weight < weight (.data bytes :: later) ∧
      (later.Solid → next.Solid) := by
  have positive : bytes.take room ≠ [] := by
    intro nothing
    exact (List.take_eq_nil_iff.mp nothing).elim (by omega) filled
  cases rest : bytes.drop room with
  | nil =>
    have whole : bytes.take room = bytes := by
      have joined := List.take_append_drop room bytes
      rwa [rest, List.append_nil] at joined
    refine ⟨bytes.take room, later, by simp only [read, rest], positive, ?_, Nat.le_succ _,
      weightCons _ later, id⟩
    rw [whole]
    rfl
  | cons head tail =>
    refine ⟨bytes.take room, .data (head :: tail) :: later, by simp only [read, rest], positive, ?_,
      Nat.le_refl _, ?_, ?_⟩
    · have joined := List.take_append_drop room bytes
      rw [rest] at joined
      simp only [Stream.bytes, List.flatMap_cons]
      rw [← List.append_assoc, joined]
    · have shorter := congrArg List.length rest
      have long : 0 < bytes.length := List.length_pos_iff.mpr filled
      simp only [List.length_drop, List.length_cons] at shorter
      simp only [weight, List.length_cons]
      omega
    · intro solid member
      rcases List.mem_cons.mp member with same | inside
      · exact absurd same (by simp)
      · exact solid inside

end Stream

namespace Intake

structure Passage (read : Bytes) (pieces : List Bytes) (intake : Intake) (stream : Stream)
    (next : Intake) (later : Stream) : Prop where
  bytes : stream.bytes = read ++ later.bytes
  pending : intake.pending ++ read = pieces.flatten ++ next.pending
  solid : stream.Solid → later.Solid
  fewer : later.length ≤ stream.length

theorem Passage.idle {intake : Intake} {stream later : Stream} (bytes : stream.bytes = later.bytes)
    (solid : stream.Solid → later.Solid) (fewer : later.length ≤ stream.length) :
    Passage [] [] intake stream intake later := ⟨bytes, List.append_nil _, solid, fewer⟩

theorem Passage.taken {pieces : List Bytes} {intake next : Intake} (stream : Stream)
    (pending : intake.pending = pieces.flatten ++ next.pending) :
    Passage [] pieces intake stream next stream := ⟨rfl, by rw [List.append_nil, pending], id, Nat.le_refl _⟩

theorem Passage.trans {read more : Bytes} {pieces others : List Bytes} {intake middle last : Intake}
    {stream later rest : Stream} (one : Passage read pieces intake stream middle later)
    (two : Passage more others middle later last rest) :
    Passage (read ++ more) (pieces ++ others) intake stream last rest where
  bytes := by rw [one.bytes, two.bytes, List.append_assoc]
  pending := by
    rw [← List.append_assoc, one.pending, List.append_assoc, two.pending, List.flatten_append,
      List.append_assoc]
  solid := two.solid ∘ one.solid
  fewer := Nat.le_trans two.fewer one.fewer

theorem wantPositive (intake : Intake) : 0 < intake.want := by
  unfold want leastRead
  split <;> omega

theorem Passage.joined {read : Bytes} {pieces : List Bytes} {intake next : Intake} {stream later : Stream}
    (passage : Passage read pieces intake stream next later) :
    intake.pending ++ stream.bytes = pieces.flatten ++ (next.pending ++ later.bytes) := by
  rw [passage.bytes, ← List.append_assoc, passage.pending, List.append_assoc]

inductive Filling (intake : Intake) (stream : Stream) : Except Error Filled × Intake × Stream → Prop
  | read {bytes : Bytes} {next : Intake} {later : Stream}
      (passage : Passage bytes [] intake stream next later) (lighter : later.weight < stream.weight) :
      Filling intake stream (.ok (.read bytes.length), next, later)
  | stopped {result : Except Error Filled} {later : Stream}
      (short : result = .ok .wouldBlock ∨ ∃ e ≠ .malformedFrame, result = .error e)
      (passage : Passage [] [] intake stream intake later)
      (shorter : stream ≠ [] → later.length < stream.length) : Filling intake stream (result, intake, later)

theorem fillFault (intake : Intake) (kind : IoKind) (later : Stream) (lasting : kind ≠ .interrupted) :
    ∃ result, intake.fill (.fault kind :: later) = (result, intake, later) ∧
      (result = .ok .wouldBlock ∨ ∃ e ≠ .malformedFrame, result = .error e) := by
  cases kind <;> first
    | exact absurd rfl lasting
    | exact ⟨_, rfl, .inl rfl⟩
    | exact ⟨_, rfl, .inr ⟨_, Error.noConfusion, rfl⟩⟩

theorem fillFilling (intake : Intake) (stream : Stream) : Filling intake stream (intake.fill stream) := by
  induction stream with
  | nil => exact .stopped (.inr ⟨_, Error.noConfusion, rfl⟩) (.idle rfl id (Nat.le_refl _)) (absurd rfl)
  | cons arrival later ih =>
    have fewer : later.length < (arrival :: later).length := Nat.lt_succ_self _
    cases arrival with
    | fault kind =>
      have passed : Passage [] [] intake (.fault kind :: later) intake later :=
        .idle rfl Stream.solidTail (Nat.le_succ _)
      by_cases again : kind = .interrupted
      · subst again
        have resumed : intake.fill (.fault .interrupted :: later) = intake.fill later := by rw [fill]
        rw [resumed]
        generalize intake.fill later = answer at ih
        cases ih with
        | read passage lighter =>
          exact .read (passed.trans passage) (Nat.lt_trans lighter (Stream.weightCons _ later))
        | stopped short passage _ =>
          exact .stopped short (passed.trans passage) fun _ => Nat.lt_of_le_of_lt passage.fewer fewer
      · obtain ⟨result, answer, short⟩ := fillFault intake kind later again
        rw [answer]
        exact .stopped short passed fun _ => fewer
    | data bytes =>
      by_cases filled : bytes = []
      · subst filled
        have ended : intake.fill (.data [] :: later) = (.error .unexpectedSocketClose, intake, later) := by
          simp [fill, Stream.read]
        rw [ended]
        exact .stopped (.inr ⟨_, Error.noConfusion, rfl⟩) (.idle rfl Stream.solidTail (Nat.le_succ _))
          fun _ => fewer
      · obtain ⟨front, next, answer, positive, joined, fewer, lighter, solidly⟩ :=
          Stream.readSolid later intake.wantPositive filled
        have passage : Passage front [] intake (.data bytes :: later) (intake.absorb front) next :=
          ⟨joined, rfl, solidly ∘ Stream.solidTail, fewer⟩
        have outcome : intake.fill (.data bytes :: later)
            = (.ok (.read front.length), intake.absorb front, next) := by
          cases front with
          | nil => contradiction
          | cons head tail => simp only [fill, answer]
        rw [outcome]
        exact .read passage lighter

section

variable {σ : Type} (handler : σ → Frame → Except Error Unit × σ)

inductive Accepts : σ → List Bytes → σ → Prop
  | nil (s : σ) : Accepts s [] s
  | cons {s next last : σ} {piece : Bytes} {frame : Frame} {rest : List Bytes}
      (whole : Frame.Whole piece) (parsed : Frame.parse? piece = some frame)
      (handled : handler s frame = (.ok (), next)) (later : Accepts next rest last) :
      Accepts s (piece :: rest) last

theorem acceptsAppend {handler : σ → Frame → Except Error Unit × σ} {s last : σ}
    {pieces others : List Bytes} :
    Accepts handler s (pieces ++ others) last ↔
      ∃ middle, Accepts handler s pieces middle ∧ Accepts handler middle others last := by
  induction pieces generalizing s with
  | nil =>
    refine ⟨fun accepts => ⟨s, .nil s, accepts⟩, ?_⟩
    rintro ⟨_, ⟨⟩, accepts⟩
    exact accepts
  | cons piece pieces ih =>
    constructor
    · intro accepts
      cases accepts with
      | cons whole parsed handled later =>
        obtain ⟨middle, front, back⟩ := ih.mp later
        exact ⟨middle, .cons whole parsed handled front, back⟩
    · rintro ⟨middle, front, back⟩
      cases front with
      | cons whole parsed handled later =>
        exact .cons whole parsed handled (ih.mpr ⟨middle, later, back⟩)

theorem Accepts.whole {handler : σ → Frame → Except Error Unit × σ} {s last : σ} {pieces : List Bytes}
    (accepts : Accepts handler s pieces last) : ∀ piece ∈ pieces, Frame.Whole piece := by
  induction accepts with
  | nil => simp
  | cons whole parsed handled later ih => exact List.forall_mem_cons.mpr ⟨whole, ih⟩

theorem Accepts.unique {handler : σ → Frame → Except Error Unit × σ} {s last other : σ}
    {pieces : List Bytes} (one : Accepts handler s pieces last) (two : Accepts handler s pieces other) :
    last = other := by
  induction one with
  | nil =>
    cases two
    rfl
  | cons whole parsed handled later ih =>
    cases two with
    | cons _ again handledToo rest =>
      obtain rfl := Option.some.inj (parsed.symm.trans again)
      obtain ⟨_, rfl⟩ := Prod.mk.inj (handled.symm.trans handledToo)
      exact ih rest

inductive Refuses : σ → Bytes → Error → σ → Prop
  | malformed {s : σ} {piece : Bytes} (whole : Frame.Whole piece) (parsed : Frame.parse? piece = none) :
      Refuses s piece .malformedFrame s
  | failed {s next : σ} {piece : Bytes} {frame : Frame} {e : Error} (whole : Frame.Whole piece)
      (parsed : Frame.parse? piece = some frame) (handled : handler s frame = (.error e, next)) :
      Refuses s piece e next

theorem Refuses.whole {handler : σ → Frame → Except Error Unit × σ} {s last : σ} {piece : Bytes}
    {e : Error} (refuses : Refuses handler s piece e last) : Frame.Whole piece := by
  cases refuses <;> assumption

theorem Refuses.final {handler : σ → Frame → Except Error Unit × σ} {s last other : σ} {piece : Bytes}
    {e : Error} {rest : List Bytes} (refuses : Refuses handler s piece e last) :
    ¬ Accepts handler s (piece :: rest) other := by
  intro accepts
  cases accepts with
  | cons whole parsed handled later =>
    cases refuses with
    | malformed _ unparsed => exact absurd (unparsed.symm.trans parsed) (by simp)
    | failed _ again handledToo =>
      obtain rfl := Option.some.inj (parsed.symm.trans again)
      exact absurd (handled.symm.trans handledToo) (by simp)

inductive Draining (s : σ) (intake : Intake) : Except Error Unit × σ × Intake → Prop
  | dry {pieces : List Bytes} {last : σ} {next : Intake} (accepts : Accepts handler s pieces last)
      (pending : intake.pending = pieces.flatten ++ next.pending)
      (ended : Frame.cutOne? next.pending = none) : Draining s intake (.ok (), last, next)
  | refused {pieces : List Bytes} {piece : Bytes} {middle last : σ} {e : Error} {next : Intake}
      (accepts : Accepts handler s pieces middle) (refuses : Refuses handler middle piece e last)
      (pending : intake.pending = (pieces ++ [piece]).flatten ++ next.pending) :
      Draining s intake (.error e, last, next)

theorem takeEnded {intake : Intake} (ended : Frame.cutOne? intake.pending = none) :
    intake.take = (.ok none, intake) := by
  unfold take
  rw [ended]

theorem takePiece {intake : Intake} {piece rest : Bytes}
    (found : Frame.cutOne? intake.pending = some (piece, rest)) :
    intake.take = ((Frame.parse piece).map some, ⟨rest⟩) := by
  unfold take
  rw [found]

theorem drainDraining {fuel : Nat} (s : σ) (intake : Intake) (enough : intake.pending.length ≤ fuel) :
    Draining handler s intake (drainWithin handler fuel s intake) := by
  induction fuel generalizing s intake with
  | zero =>
    obtain ⟨pending⟩ := intake
    obtain rfl : pending = [] := List.length_eq_zero_iff.mp (by simpa using enough)
    exact .dry (.nil s) rfl rfl
  | succ fuel ih =>
    cases found : Frame.cutOne? intake.pending with
    | none =>
      simp only [drainWithin, takeEnded found]
      exact .dry (.nil s) rfl found
    | some cut =>
      obtain ⟨piece, rest⟩ := cut
      obtain ⟨pending, whole⟩ := Frame.cutOneIff.mp found
      cases parsed : Frame.parse? piece with
      | none =>
        simp only [drainWithin, takePiece found, Frame.parse, parsed, Except.map]
        exact .refused (.nil s) (.malformed whole parsed) (by simpa using pending)
      | some frame =>
        simp only [drainWithin, takePiece found, Frame.parse, parsed, Except.map]
        rcases handled : handler s frame with ⟨e | ⟨⟩, next⟩
        · exact .refused (.nil s) (.failed whole parsed handled) (by simpa using pending)
        · have large := Frame.wholeLength whole
          have length := congrArg List.length pending
          unfold Frame.overhead at large
          rw [List.length_append] at length
          have shorter : rest.length ≤ fuel := by omega
          have drained := ih next ⟨rest⟩ shorter
          dsimp only
          generalize drainWithin handler fuel next ⟨rest⟩ = answer at drained ⊢
          cases drained with
          | dry accepts behind ended =>
            refine .dry (.cons whole parsed handled accepts) ?_ ended
            rw [pending, List.flatten_cons, List.append_assoc, ← behind]
          | refused accepts refuses behind =>
            refine .refused (.cons whole parsed handled accepts) refuses ?_
            rw [pending, List.cons_append, List.flatten_cons, List.append_assoc, ← behind]

inductive Reading (total : Nat) (s : σ) (intake : Intake) (stream : Stream) : Run σ Nat → Prop
  | paused {read : Bytes} {pieces : List Bytes} {last : σ} {next : Intake} {later : Stream}
      {result : Except Error Nat}
      (short : result = .ok (total + read.length) ∨ ∃ e ≠ .malformedFrame, result = .error e)
      (accepts : Accepts handler s pieces last) (passage : Passage read pieces intake stream next later)
      (ended : Frame.cutOne? next.pending = none) (shorter : stream ≠ [] → later.length < stream.length) :
      Reading total s intake stream ⟨result, last, next, later⟩
  | refused {read : Bytes} {pieces : List Bytes} {piece : Bytes} {middle last : σ} {e : Error}
      {next : Intake} {later : Stream} (accepts : Accepts handler s pieces middle)
      (refuses : Refuses handler middle piece e last)
      (passage : Passage read (pieces ++ [piece]) intake stream next later) :
      Reading total s intake stream ⟨.error e, last, next, later⟩

theorem readFromWithinReading {fuel : Nat} (total : Nat) (s : σ) (intake : Intake) {stream : Stream}
    (enough : stream.weight < fuel) :
    Reading handler total s intake stream (readFromWithin handler fuel total s intake stream) := by
  induction fuel generalizing total s intake stream with
  | zero => exact absurd enough (Nat.not_lt_zero _)
  | succ fuel ih =>
    have drained := drainDraining handler s intake (Nat.le_refl _)
    unfold readFromWithin drain
    generalize drainWithin handler intake.pending.length s intake = answer at drained ⊢
    cases drained with
    | refused accepts refuses pending => exact .refused accepts refuses (.taken stream pending)
    | @dry pieces middle dried accepts pending ended =>
      have handed : Passage [] pieces intake stream dried stream := .taken stream pending
      have filling := dried.fillFilling stream
      dsimp only
      generalize dried.fill stream = answer at filling ⊢
      cases filling with
      | @stopped result later short passage shorter =>
        have whole := handed.trans passage
        simp only [List.append_nil] at whole
        rcases short with rfl | ⟨e, other, rfl⟩
        · exact .paused (.inl rfl) accepts whole ended shorter
        · exact .paused (.inr ⟨e, other, rfl⟩) accepts whole ended shorter
      | @read bytes next later passage lighter =>
        have fetched := handed.trans passage
        simp only [List.append_nil, List.nil_append] at fetched
        have light : later.weight < fuel := by omega
        have more := ih (total + bytes.length) middle next light
        dsimp only
        generalize readFromWithin handler fuel (total + bytes.length) middle next later = run at more ⊢
        cases more with
        | paused short others passage ended shorter =>
          refine .paused ?_ (acceptsAppend.mpr ⟨middle, accepts, others⟩) (fetched.trans passage) ended ?_
          · rwa [List.length_append, ← Nat.add_assoc]
          · intro began
            rcases Nat.lt_or_ge later.length stream.length with less | same
            · exact Nat.lt_of_le_of_lt passage.fewer less
            · have going : later ≠ [] := by
                rintro rfl
                exact began (List.length_eq_zero_iff.mp (Nat.le_zero.mp same))
              exact Nat.lt_of_lt_of_le (shorter going) fetched.fewer
        | refused others refuses passage =>
          have whole := fetched.trans passage
          rw [← List.append_assoc] at whole
          exact .refused (acceptsAppend.mpr ⟨middle, accepts, others⟩) refuses whole

theorem readFromReading (s : σ) (intake : Intake) (stream : Stream) :
    Reading handler 0 s intake stream (readFrom handler s intake stream) :=
  readFromWithinReading handler 0 s intake (Nat.lt_succ_self _)

def readTimes : (calls : Nat) → σ → Intake → Stream → σ × Intake × Stream
  | 0, s, intake, stream => (s, intake, stream)
  | calls + 1, s, intake, stream =>
    let run := readFrom handler s intake stream
    readTimes calls run.state run.intake run.stream

theorem readFromPart {s final : σ} {pieces : List Bytes} {intake : Intake} {stream : Stream}
    (accepts : Accepts handler s pieces final) (solid : stream.Solid)
    (joined : intake.pending ++ stream.bytes = pieces.flatten) :
    ∃ left, Accepts handler (readFrom handler s intake stream).state left final ∧
      (readFrom handler s intake stream).intake.pending ++ (readFrom handler s intake stream).stream.bytes
        = left.flatten ∧
      (readFrom handler s intake stream).stream.Solid ∧
      Frame.cutOne? (readFrom handler s intake stream).intake.pending = none ∧
      (readFrom handler s intake stream).stream.length ≤ stream.length - 1 := by
  have reading := readFromReading handler s intake stream
  generalize readFrom handler s intake stream = run at reading
  cases reading with
  | paused short handed passage ended shorter =>
    obtain ⟨more, rfl, left⟩ := Frame.piecesPrefix handed.whole accepts.whole (passage.joined.symm.trans joined)
    obtain ⟨middle, front, back⟩ := acceptsAppend.mp accepts
    obtain rfl := front.unique handed
    refine ⟨more, back, left, passage.solid solid, ended, ?_⟩
    have fewer := passage.fewer
    cases stream with
    | nil => exact fewer
    | cons arrival later => exact Nat.le_sub_one_of_lt (shorter (List.cons_ne_nil _ _))
  | refused handed refuses passage =>
    have wholes := List.forall_mem_append.mpr ⟨handed.whole, List.forall_mem_singleton.mpr refuses.whole⟩
    obtain ⟨more, rfl, left⟩ := Frame.piecesPrefix wholes accepts.whole (passage.joined.symm.trans joined)
    rw [List.append_assoc] at accepts
    obtain ⟨middle, front, back⟩ := acceptsAppend.mp accepts
    obtain rfl := front.unique handed
    exact absurd back refuses.final

theorem readTimesDelivers {s final : σ} {pieces : List Bytes} {intake : Intake} {stream : Stream}
    {calls : Nat} (accepts : Accepts handler s pieces final) (solid : stream.Solid)
    (joined : intake.pending ++ stream.bytes = pieces.flatten)
    (drained : stream = [] → Frame.cutOne? intake.pending = none) (enough : stream.length ≤ calls) :
    readTimes handler calls s intake stream = (final, {}, []) := by
  induction calls generalizing s pieces intake stream with
  | zero =>
    obtain rfl : stream = [] := List.length_eq_zero_iff.mp (Nat.le_zero.mp enough)
    obtain ⟨pending⟩ := intake
    obtain rfl : pending = pieces.flatten := by simpa [Stream.bytes] using joined
    cases accepts with
    | nil => rfl
    | @cons _ _ _ piece _ rest whole parsed handled later =>
      have found := Frame.cutOneIff.mpr ⟨List.flatten_cons (l := piece) (L := rest), whole⟩
      exact absurd ((drained rfl).symm.trans found) (by simp)
  | succ calls ih =>
    obtain ⟨left, accepts, joined, solid, ended, shorter⟩ := readFromPart handler accepts solid joined
    exact ih accepts solid joined (fun _ => ended) (by omega)

end

end Intake

end AmqpClient
