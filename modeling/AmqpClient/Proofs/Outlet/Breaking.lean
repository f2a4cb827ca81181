import AmqpClient.Proofs.Outlet
import Mathlib.Logic.Relation

/-! A buffered way out in front of a sink that may fail for good. Up to then what was accepted and what is
still held are together all that was written, in order; from then on nothing more is accepted, so that
nothing can arrive out of order, whatever is still held or was lost with a large piece. -/
namespace AmqpClient

def Sink.Brisk (sink : Sink) : Prop := ∀ turn, sink.most turn ≠ some 0

namespace Sink

def Becomes : Sink → Sink → Prop := Relation.ReflTransGen fun sink next => ∃ bytes, next = (sink.write bytes).2

theorem writeGrows (bytes : Bytes) (sink : Sink) :
    sink.accepted.toList <+: (sink.write bytes).2.accepted.toList := by
  unfold write
  split
  · exact List.prefix_refl _
  · simp only [Array.toList_appendList]
    exact List.prefix_append _ _

theorem Becomes.grown {sink next : Sink} (becomes : sink.Becomes next) :
    sink.accepted.toList <+: next.accepted.toList := by
  induction becomes with
  | refl => exact List.prefix_refl _
  | tail _ written ih =>
    obtain ⟨bytes, rfl⟩ := written
    exact ih.trans (writeGrows bytes _)

/- Part of the bytes is taken, from the front, and the rest is left. A sink that has failed takes nothing and
stays so. -/
structure Pushed (bytes : Bytes) (sink : Sink) (fault : Option IoFault) (left : Bytes) (next : Sink) : Prop where
  taken : next.accepted.toList ++ left = sink.accepted.toList ++ bytes
  becomes : sink.Becomes next
  brisk : next.Brisk
  spent : sink.room = some 0 → next.room = some 0 ∧ next.accepted = sink.accepted
  whole : fault = none → left = []
  failed : fault ≠ none → next.room = some 0

variable {sink : Sink}

theorem writeSpent (bytes : Bytes) (spent : sink.room = some 0) :
    sink.write bytes = (.error sink.fault, { sink with turn := sink.turn + 1 }) := by
  simp [write, spent]

theorem takeFront {bytes : Bytes} {limit : Nat} (positive : limit ≠ 0) (filled : bytes ≠ []) :
    ∃ count, (bytes.take limit).length = count + 1 ∧ bytes.take limit = bytes.take (count + 1) := by
  have long : 0 < bytes.length := List.length_pos_iff.mpr filled
  refine ⟨min limit bytes.length - 1, ?_, ?_⟩
  · rw [List.length_take]
    omega
  · rw [List.take_eq_take_min]
    congr 1
    omega

theorem writeLimited (bytes : Bytes) (brisk : sink.Brisk) (working : sink.room ≠ some 0) (filled : bytes ≠ []) :
    ∃ limit ≠ 0, ∃ room, sink.write bytes = (.ok (bytes.take limit).length,
      { sink with accepted := sink.accepted ++ bytes.take limit, room, turn := sink.turn + 1 }) := by
  obtain ⟨accepted, room, most, turn, fault⟩ := sink
  have wanted : most turn ≠ some 0 := brisk turn
  have long : bytes.length ≠ 0 := mt List.length_eq_zero_iff.mp filled
  cases room with
  | none =>
    cases pace : most turn with
    | none => exact ⟨bytes.length, long, none, by simp [write, pace]⟩
    | some portion => exact ⟨portion, fun zero => wanted (zero ▸ pace), none, by simp [write, pace]⟩
  | some room =>
    have left : room ≠ 0 := fun zero => working (zero ▸ rfl)
    cases pace : most turn with
    | none => exact ⟨room, left, some (room - (bytes.take room).length), by simp [write, pace, left]⟩
    | some portion =>
      have share : portion ≠ 0 := fun zero => wanted (zero ▸ pace)
      exact ⟨min room portion, by omega, some (room - (bytes.take (min room portion)).length),
        by simp [write, pace, left]⟩

theorem writeFront (bytes : Bytes) (brisk : sink.Brisk) (working : sink.room ≠ some 0) (filled : bytes ≠ []) :
    ∃ count next, sink.write bytes = (.ok (count + 1), next) ∧ next.Brisk ∧
      next.accepted.toList = sink.accepted.toList ++ bytes.take (count + 1) := by
  obtain ⟨limit, positive, room, written⟩ := writeLimited bytes brisk working filled
  obtain ⟨count, counted, front⟩ := takeFront positive filled
  rw [counted] at written
  exact ⟨count, _, written, brisk, by rw [Array.toList_appendList, front]⟩

theorem Pushed.nothing (sink : Sink) (brisk : sink.Brisk) : Pushed [] sink none [] sink where
  taken := rfl
  becomes := .refl
  brisk := brisk
  spent spent := ⟨spent, rfl⟩
  whole _ := rfl
  failed failed := absurd rfl failed

theorem pushWithinPushed {fuel : Nat} (bytes : Bytes) (sink : Sink) (brisk : sink.Brisk)
    (enough : bytes.length ≤ fuel) :
    ∃ fault left next, pushWithin fuel bytes sink = (fault, left, next) ∧ Pushed bytes sink fault left next := by
  induction fuel generalizing bytes sink with
  | zero =>
    obtain rfl : bytes = [] := List.length_eq_zero_iff.mp (by omega)
    exact ⟨none, [], sink, rfl, .nothing sink brisk⟩
  | succ fuel ih =>
    cases bytes with
    | nil => exact ⟨none, [], sink, rfl, .nothing sink brisk⟩
    | cons head tail =>
      by_cases spent : sink.room = some 0
      · have written := writeSpent (head :: tail) spent
        refine ⟨some sink.fault, head :: tail, { sink with turn := sink.turn + 1 }, ?_, rfl,
          .single ⟨head :: tail, by rw [written]⟩, brisk, fun _ => ⟨spent, rfl⟩,
          fun none => absurd none (by simp), fun _ => spent⟩
        simp only [pushWithin, written]
      · obtain ⟨count, middle, written, going, accepted⟩ :=
          writeFront (head :: tail) brisk spent (List.cons_ne_nil _ _)
        obtain ⟨fault, left, next, pushed, later⟩ := ih ((head :: tail).drop (count + 1)) middle going
          (by simp only [List.length_drop, List.length_cons] at enough ⊢; omega)
        refine ⟨fault, left, next, by simp only [pushWithin, written, pushed], ?_, ?_, later.brisk,
          fun out => absurd out spent, later.whole, later.failed⟩
        · rw [later.taken, accepted, List.append_assoc, List.take_append_drop]
        · exact .head ⟨head :: tail, by rw [written]⟩ later.becomes

theorem pushPushed (bytes : Bytes) (sink : Sink) (brisk : sink.Brisk) :
    ∃ fault left next, sink.push bytes = (fault, left, next) ∧ Pushed bytes sink fault left next :=
  pushWithinPushed bytes sink brisk (Nat.le_refl _)

end Sink

namespace Outlet

/- Those bytes were to be put out. If they were not, the sink has failed for good, and what it has accepted
are the first of all bytes up to these. -/
structure Sent (bytes : Bytes) (outlet : Outlet) (result : Except IoFault Unit) (next : Outlet) : Prop where
  becomes : outlet.sink.Becomes next.sink
  brisk : next.sink.Brisk
  spent : outlet.sink.room = some 0 → next.sink.room = some 0 ∧ next.sink.accepted = outlet.sink.accepted
  whole : result = .ok () → next.produced = outlet.produced ++ bytes
  failed : ∀ fault, result = .error fault →
    next.sink.room = some 0 ∧ next.sink.accepted.toList <+: outlet.produced ++ bytes

variable {first second bytes : Bytes} {outlet middle last : Outlet} {result : Except IoFault Unit} {fault : IoFault}

theorem Sent.nothing (outlet : Outlet) (brisk : outlet.sink.Brisk) : Sent [] outlet (.ok ()) outlet where
  becomes := .refl
  brisk := brisk
  spent spent := ⟨spent, rfl⟩
  whole _ := (List.append_nil _).symm
  failed _ failed := by contradiction

theorem Sent.trans (one : Sent first outlet (.ok ()) middle) (two : Sent second middle result last) :
    Sent (first ++ second) outlet result last where
  becomes := one.becomes.trans two.becomes
  brisk := two.brisk
  spent spent := by
    obtain ⟨still, same⟩ := one.spent spent
    exact ⟨(two.spent still).1, (two.spent still).2.trans same⟩
  whole ok := by rw [two.whole ok, one.whole rfl, List.append_assoc]
  failed fault failed := by
    rw [← List.append_assoc, ← one.whole rfl]
    exact two.failed fault failed

theorem Sent.cut (one : Sent first outlet (.error fault) middle) (second : Bytes) :
    Sent (first ++ second) outlet (.error fault) middle where
  becomes := one.becomes
  brisk := one.brisk
  spent := one.spent
  whole ok := by contradiction
  failed other _ := by
    rw [← List.append_assoc]
    exact ⟨(one.failed fault rfl).1, (one.failed fault rfl).2.trans (List.prefix_append _ _)⟩

theorem flushSent (outlet : Outlet) (brisk : outlet.sink.Brisk) :
    Sent [] outlet outlet.flush.1 outlet.flush.2 ∧ (outlet.flush.1 = .ok () → outlet.flush.2.held = #[]) := by
  obtain ⟨fault, left, next, pushed, after⟩ := Sink.pushPushed outlet.held.toList outlet.sink brisk
  cases fault with
  | none =>
    obtain rfl := after.whole rfl
    simp only [flush, pushed]
    refine ⟨⟨after.becomes, after.brisk, after.spent, fun _ => ?_, fun fault failed => by contradiction⟩,
      fun _ => trivial⟩
    rw [produced, after.taken, produced, List.append_nil]
  | some fault =>
    simp only [flush, pushed]
    refine ⟨⟨after.becomes, after.brisk, after.spent, fun ok => by contradiction, fun _ _ =>
      ⟨after.failed (by simp), ?_⟩⟩, fun ok => by contradiction⟩
    rw [produced, List.append_nil, ← after.taken]
    exact List.prefix_append _ _

theorem placeSent (outlet : Outlet) (bytes : Bytes) (brisk : outlet.sink.Brisk)
    (behind : outlet.held = #[] ∨ bytes.length < capacity) :
    Sent bytes outlet (outlet.place bytes).1 (outlet.place bytes).2 := by
  unfold place
  split
  · rename_i large
    have nothing : outlet.held = #[] := behind.resolve_right (by omega)
    obtain ⟨fault, left, next, pushed, after⟩ := Sink.pushPushed bytes outlet.sink brisk
    have before : outlet.produced = outlet.sink.accepted.toList := by simp [produced, nothing]
    cases fault with
    | none =>
      obtain rfl := after.whole rfl
      simp only [pushed]
      refine ⟨after.becomes, after.brisk, after.spent, fun _ => ?_, fun fault failed => by contradiction⟩
      have taken := after.taken
      rw [List.append_nil] at taken
      rw [before, ← taken]
      simp [produced, nothing]
    | some fault =>
      simp only [pushed]
      refine ⟨after.becomes, after.brisk, after.spent, fun ok => by contradiction, fun _ _ =>
        ⟨after.failed (by simp), ?_⟩⟩
      rw [before, ← after.taken]
      exact List.prefix_append _ _
  · exact ⟨.refl, brisk, fun spent => ⟨spent, rfl⟩, fun _ => by simp [produced],
      fun fault failed => by contradiction⟩

theorem writeSent (outlet : Outlet) (bytes : Bytes) (brisk : outlet.sink.Brisk) :
    Sent bytes outlet (outlet.write bytes).1 (outlet.write bytes).2 := by
  unfold write
  split
  · obtain ⟨flushed, empty⟩ := flushSent outlet brisk
    rcases outcome : outlet.flush with ⟨fault | ⟨⟩, middle⟩
    · rw [outcome] at flushed
      exact flushed.cut bytes
    · rw [outcome] at flushed empty
      exact flushed.trans (placeSent middle bytes flushed.brisk (.inl (empty rfl)))
  · refine placeSent outlet bytes brisk ?_
    by_cases large : capacity ≤ bytes.length
    · exact .inl (Array.size_eq_zero_iff.mp (by omega))
    · exact .inr (by omega)

theorem writeAllSent (pieces : List Bytes) (outlet : Outlet) (brisk : outlet.sink.Brisk) :
    Sent pieces.flatten outlet (outlet.writeAll pieces).1 (outlet.writeAll pieces).2 := by
  induction pieces generalizing outlet with
  | nil => exact .nothing outlet brisk
  | cons piece rest ih =>
    have written := writeSent outlet piece brisk
    rw [List.flatten_cons, writeAll]
    rcases outcome : outlet.write piece with ⟨fault | ⟨⟩, middle⟩
    · rw [outcome] at written
      exact written.cut rest.flatten
    · rw [outcome] at written
      exact written.trans (ih middle written.brisk)

theorem writeFrameSent (outlet : Outlet) (frame : Frame) (brisk : outlet.sink.Brisk) :
    Sent frame.encode outlet (outlet.writeFrame frame).1 (outlet.writeFrame frame).2 := by
  have sent := writeAllSent [frame.encodeHeader, frame.payload, [Frame.endByte]] outlet brisk
  simpa [Frame.encode, writeFrame] using sent

end Outlet

end AmqpClient
