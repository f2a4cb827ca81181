import AmqpClient.Connection.Inbound
import AmqpClient.Proofs.Frame.Delivery

/-! Frames one at a time out of a stream that nothing disturbs: it yields data, interrupts a read now and then,
and at last ends or falls silent. What is fetched depends on the bytes alone, and heartbeats between them say
nothing. -/
namespace AmqpClient

def Arrival.calm : Arrival → Bool
  | .data bytes => !bytes.isEmpty
  | .fault kind => kind == .interrupted

namespace Stream

def Calm (stream : Stream) : Prop := ∀ arrival ∈ stream, arrival.calm = true

instance (stream : Stream) : Decidable stream.Calm := inferInstanceAs (Decidable (∀ arrival ∈ stream, _))

theorem readCalm {room : Nat} {bytes : Bytes} (wanted : 0 < room) (filled : bytes ≠ []) :
    ∃ front rest, front ≠ [] ∧ Calm rest ∧ bytes = front ++ rest.bytes ∧
      ∀ later, read room (.data bytes :: later) = (.ok front, rest ++ later) ∧
        weight (rest ++ later) < weight (.data bytes :: later) := by
  have long : 0 < bytes.length := List.length_pos_iff.mpr filled
  have joined := List.take_append_drop room bytes
  refine ⟨bytes.take room, if bytes.drop room = [] then [] else [.data (bytes.drop room)], ?_, ?_, ?_,
    fun later => ?_⟩
  · intro nothing
    exact (List.take_eq_nil_iff.mp nothing).elim (by omega) filled
  · split
    · exact List.forall_mem_nil _
    · rename_i left
      exact List.forall_mem_singleton.mpr (by simp [Arrival.calm, left])
  · split
    · rename_i whole
      rw [whole] at joined
      exact joined.symm
    · simp [Stream.bytes]
  · have shorter : (bytes.drop room).length < bytes.length := by
      rw [List.length_drop]
      omega
    cases rest : bytes.drop room with
    | nil => exact ⟨by simp [read, rest], by simpa using weightCons _ later⟩
    | cons head tail =>
      refine ⟨by simp [read, rest], ?_⟩
      rw [rest] at shorter
      simp only [reduceCtorEq, if_false, List.singleton_append, weight]
      omega

theorem bytesWeight (stream : Stream) : stream.bytes.length ≤ stream.weight := by
  induction stream with
  | nil => exact Nat.le_refl 0
  | cons arrival later ih =>
    simp only [bytes] at ih ⊢
    cases arrival <;> simp only [List.flatMap_cons, List.length_append, List.length_nil, weight] <;> omega

end Stream

namespace Inbound

def ending (ended : Bool) : Stream := if ended then [] else [.fault .wouldBlock]

def silence (ended : Bool) : Error := if ended then .unexpectedSocketClose else .io ⟨.timedOut, ""⟩

theorem patientEnding (inbound : Inbound) : inbound.patient = inbound.arrivals ++ ending inbound.ended := by
  unfold patient ending
  split <;> simp

theorem leavingEnding (inbound : Inbound) (arrivals : Stream) :
    inbound.leaving (arrivals ++ ending inbound.ended) = { inbound with arrivals } := by
  unfold leaving ending
  cases inbound.ended <;> simp

end Inbound

namespace Intake

def Ahead (ended : Bool) (bytes : Bytes) (intake : Intake) (stream : Stream) : Prop :=
  ∃ arrivals : Stream, arrivals.Calm ∧ stream = arrivals ++ Inbound.ending ended ∧
    bytes = intake.pending ++ arrivals.bytes

theorem aheadAtFirst (inbound : Inbound) (calm : inbound.arrivals.Calm) :
    Ahead inbound.ended inbound.arrivals.bytes {} inbound.patient :=
  ⟨inbound.arrivals, calm, inbound.patientEnding, rfl⟩

theorem Ahead.weight {ended : Bool} {bytes : Bytes} {intake : Intake} {stream : Stream}
    (ahead : Ahead ended bytes intake stream) : bytes.length ≤ intake.pending.length + stream.weight := by
  obtain ⟨arrivals, _, rfl, rfl⟩ := ahead
  have all := (arrivals ++ Inbound.ending ended).bytesWeight
  simp only [Stream.bytes, List.flatMap_append, List.length_append] at all ⊢
  omega

theorem fillCalm (intake : Intake) (ended : Bool) {arrivals : Stream} (calm : arrivals.Calm) :
    (arrivals.bytes = [] ∧
      intake.fill (arrivals ++ Inbound.ending ended) = intake.fill (Inbound.ending ended)) ∨
    ∃ front rest, Stream.Calm rest ∧ arrivals.bytes = front ++ rest.bytes ∧
      intake.fill (arrivals ++ Inbound.ending ended)
        = (.ok (.read front.length), intake.absorb front, rest ++ Inbound.ending ended) ∧
      Stream.weight (rest ++ Inbound.ending ended) < Stream.weight (arrivals ++ Inbound.ending ended) := by
  induction arrivals with
  | nil => exact .inl ⟨rfl, rfl⟩
  | cons arrival later ih =>
    obtain ⟨here, quiet⟩ := List.forall_mem_cons.mp calm
    cases arrival with
    | fault kind =>
      obtain rfl : kind = .interrupted := by simpa [Arrival.calm] using here
      have resumed : intake.fill (.fault .interrupted :: (later ++ Inbound.ending ended))
          = intake.fill (later ++ Inbound.ending ended) := by rw [fill]
      rw [List.cons_append, resumed]
      obtain ⟨nothing, silent⟩ | ⟨front, rest, calm, bytes, filled, lighter⟩ := ih quiet
      · exact .inl ⟨nothing, silent⟩
      · exact .inr ⟨front, rest, calm, bytes, filled, Nat.lt_trans lighter (Stream.weightCons _ _)⟩
    | data bytes =>
      have filled : bytes ≠ [] := by simpa [Arrival.calm] using here
      obtain ⟨front, rest, positive, still, joined, reads⟩ := Stream.readCalm intake.wantPositive filled
      obtain ⟨read, lighter⟩ := reads (later ++ Inbound.ending ended)
      refine .inr ⟨front, rest ++ later, List.forall_mem_append.mpr ⟨still, quiet⟩, ?_, ?_, ?_⟩
      · simp only [Stream.bytes, List.flatMap_cons, List.flatMap_append] at joined ⊢
        rw [joined, List.append_assoc]
      · rw [List.cons_append, fill, read]
        cases front with
        | nil => contradiction
        | cons head tail => simp only [List.append_assoc]
      · rwa [List.append_assoc, List.cons_append]

theorem nextFrameWithinAhead {ended : Bool} {bytes : Bytes} {intake : Intake} {stream : Stream} {fuel : Nat}
    (ahead : Ahead ended bytes intake stream) (enough : stream.weight < fuel) :
    (Frame.cutOne? bytes = none ∧
      ∃ next later, nextFrameWithin fuel intake stream = (.error (Inbound.silence ended), next, later)) ∨
    ∃ piece rest next later, Frame.Whole piece ∧ bytes = piece ++ rest ∧
      nextFrameWithin fuel intake stream = (Frame.parse piece, next, later) ∧ Ahead ended rest next later := by
  induction fuel generalizing intake stream with
  | zero => exact absurd enough (Nat.not_lt_zero _)
  | succ fuel ih =>
    obtain ⟨arrivals, calm, rfl, rfl⟩ := ahead
    cases found : Frame.cutOne? intake.pending with
    | some cut =>
      obtain ⟨piece, rest⟩ := cut
      obtain ⟨pending, whole⟩ := Frame.cutOneIff.mp found
      refine .inr ⟨piece, rest ++ arrivals.bytes, ⟨rest⟩, arrivals ++ Inbound.ending ended, whole, ?_, ?_,
        arrivals, calm, rfl, rfl⟩
      · rw [pending, List.append_assoc]
      · simp only [nextFrameWithin, takePiece found]
        cases Frame.parse piece <;> rfl
    | none =>
      simp only [nextFrameWithin, takeEnded found]
      obtain ⟨nothing, silent⟩ | ⟨front, rest, calm, joined, filled, lighter⟩ := intake.fillCalm ended calm
      · rw [nothing, List.append_nil, silent]
        refine .inl ⟨found, ?_⟩
        cases ended <;> exact ⟨_, _, rfl⟩
      · rw [filled]
        exact ih ⟨rest, calm, rfl, by rw [joined, ← List.append_assoc]; rfl⟩ (by omega)

theorem nextFrameAhead {ended : Bool} {bytes : Bytes} {intake : Intake} {stream : Stream}
    (ahead : Ahead ended bytes intake stream) :
    (Frame.cutOne? bytes = none ∧
      ∃ next later, nextFrame intake stream = (.error (Inbound.silence ended), next, later)) ∨
    ∃ piece rest next later, Frame.Whole piece ∧ bytes = piece ++ rest ∧
      nextFrame intake stream = (Frame.parse piece, next, later) ∧ Ahead ended rest next later :=
  nextFrameWithinAhead ahead (Nat.lt_succ_self _)

end Intake

namespace Frame

def Piece.beats : Piece → Bool
  | .frame whole => whole.kind == .heartbeat
  | .malformed _ => false

def words (bytes : Bytes) : List Piece := (cut bytes).1.filter fun piece => !piece.beats

theorem wordsStuck {bytes : Bytes} (stuck : cutOne? bytes = none) : words bytes = [] := by
  rw [words, cutStuck stuck, List.filter_nil]

theorem wordsCons {piece : Bytes} (whole : Whole piece) (rest : Bytes) :
    words (piece ++ rest) =
      if (Piece.ofBytes piece).beats then words rest else Piece.ofBytes piece :: words rest := by
  rw [words, cutCons whole, List.filter_cons]
  cases (Piece.ofBytes piece).beats <;> rfl

theorem byPieces {motive : Bytes → Prop} (stuck : ∀ bytes, cutOne? bytes = none → motive bytes)
    (piece : ∀ piece rest, Whole piece → motive rest → motive (piece ++ rest)) (bytes : Bytes) : motive bytes := by
  induction length : bytes.length using Nat.strongRecOn generalizing bytes with
  | ind count ih =>
    cases found : cutOne? bytes with
    | none => exact stuck bytes found
    | some cut =>
      obtain ⟨front, rest⟩ := cut
      obtain ⟨rfl, whole⟩ := cutOneIff.mp found
      have large := wholeLength whole
      unfold overhead at large
      rw [List.length_append] at length
      exact piece front rest whole (ih rest.length (by omega) rest rfl)

theorem wordsPrefix {front whole : Bytes} (shorter : front <+: whole) : words front <+: words whole := by
  induction front using byPieces generalizing whole with
  | stuck front ended => exact wordsStuck ended ▸ List.nil_prefix
  | piece piece rest delimited ih =>
    obtain ⟨more, rfl⟩ := shorter
    have later := ih (List.prefix_append rest more)
    rw [List.append_assoc, wordsCons delimited, wordsCons delimited]
    split
    · exact later
    · exact (List.prefix_cons_inj _).mpr later

inductive Spoken : Bytes → List Piece → Bytes → Prop
  | nothing (bytes : Bytes) : Spoken bytes [] bytes
  | beat {beat bytes rest : Bytes} {word : Piece} {more : List Piece} (whole : Whole beat)
      (beats : (Piece.ofBytes beat).beats = true) (later : Spoken bytes (word :: more) rest) :
      Spoken (beat ++ bytes) (word :: more) rest
  | word {piece bytes rest : Bytes} {more : List Piece} (whole : Whole piece)
      (speaks : (Piece.ofBytes piece).beats = false) (later : Spoken bytes more rest) :
      Spoken (piece ++ bytes) (Piece.ofBytes piece :: more) rest

theorem Spoken.words {bytes rest : Bytes} {said : List Piece} (spoken : Spoken bytes said rest) :
    words bytes = said ++ words rest := by
  induction spoken with
  | nothing => rfl
  | beat whole beats later ih => rw [wordsCons whole, if_pos beats, ih]
  | word whole speaks later ih => rw [wordsCons whole, speaks, ih]; rfl

theorem Spoken.trans {bytes middle rest : Bytes} {said more : List Piece} (one : Spoken bytes said middle)
    (two : Spoken middle more rest) : Spoken bytes (said ++ more) rest := by
  induction one with
  | nothing => exact two
  | beat whole beats later ih => exact .beat whole beats (ih two)
  | word whole speaks later ih => exact .word whole speaks (ih two)

inductive Beaten : Bytes → Bytes → Prop
  | same (bytes : Bytes) : Beaten bytes bytes
  | piece {piece bytes beaten : Bytes} (whole : Whole piece) (later : Beaten bytes beaten) :
      Beaten (piece ++ bytes) (piece ++ beaten)
  | beat {beat : Frame} {bytes beaten : Bytes} (beats : beat.kind = .heartbeat)
      (fits : beat.payload.length < UInt32.size) (later : Beaten bytes beaten) :
      Beaten bytes (beat.encode ++ beaten)

theorem Beaten.words {bytes beaten : Bytes} (inserted : Beaten bytes beaten) : words beaten = words bytes := by
  induction inserted with
  | same => rfl
  | piece whole later ih => rw [wordsCons whole, wordsCons whole, ih]
  | @beat beat _ _ beats fits later ih =>
    have silent : (Piece.ofBytes beat.encode).beats = true := by
      simp [Piece.ofBytes, parseEncode fits, Piece.beats, beats]
    rw [wordsCons (encodeWhole fits), if_pos silent, ih]

theorem beatenEach {frames : List Frame} (fit : ∀ frame ∈ frames, frame.payload.length < UInt32.size)
    (rest : Bytes) :
    Beaten ((frames.map encode).flatten ++ rest)
      ((frames.flatMap fun frame => heartbeat.encode ++ frame.encode) ++ rest) := by
  induction frames with
  | nil => exact .same rest
  | cons frame frames ih =>
    obtain ⟨fits, fit⟩ := List.forall_mem_cons.mp fit
    simp only [List.map_cons, List.flatten_cons, List.flatMap_cons, List.append_assoc]
    exact .beat rfl (by decide) (.piece (encodeWhole fits) (ih fit))

end Frame

end AmqpClient
