import AmqpClient.Proofs.Outlet

/-! Writers that may take part of what they are given and fail at any time. What they have taken is in order and
without gaps: neither a sink nor an outlet in front of one loses or repeats a byte that it has not reported. -/
namespace AmqpClient

namespace Writer

/- What a write leaves behind: all the bytes, unless it fails, and then some of the first of them. -/
def Wrote (bytes before : Bytes) : Except IoFault Unit → Bytes → Prop
  | .ok (), after => after = before ++ bytes
  | .error _, after => ∃ front, front <+: bytes ∧ after = before ++ front

/- Of the bytes that it reports as written a writer loses none, repeats none and puts none elsewhere. -/
def Honest {σ : Type} (put : Bytes → σ → Except IoFault Unit × σ) (written : σ → Bytes) : Prop :=
  ∀ bytes s, Wrote bytes (written s) (put bytes s).1 (written (put bytes s).2)

section

variable {first second before middle after : Bytes} {result : Except IoFault Unit} {fault : IoFault}

theorem Wrote.trans (one : Wrote first before (.ok ()) middle) (two : Wrote second middle result after) :
    Wrote (first ++ second) before result after := by
  obtain rfl : middle = before ++ first := one
  cases result with
  | ok =>
    obtain rfl : after = before ++ first ++ second := two
    exact List.append_assoc ..
  | error fault =>
    obtain ⟨front, ahead, rfl⟩ := two
    exact ⟨first ++ front, (List.prefix_append_right_inj first).mpr ahead, List.append_assoc ..⟩

theorem Wrote.cut (one : Wrote first before (.error fault) after) (second : Bytes) :
    Wrote (first ++ second) before (.error fault) after := by
  obtain ⟨front, ahead, rfl⟩ := one
  exact ⟨front, ahead.trans (List.prefix_append first second), rfl⟩

end

end Writer

namespace Sink

theorem writeTaken (bytes : Bytes) (sink : Sink) :
    (∃ fault next, sink.write bytes = (.error fault, next) ∧ next.accepted = sink.accepted) ∨
      ∃ count next, sink.write bytes = (.ok count, next) ∧
        next.accepted.toList = sink.accepted.toList ++ bytes.take count := by
  unfold write
  split
  · exact .inl ⟨_, _, rfl, rfl⟩
  · refine .inr ⟨_, _, rfl, ?_⟩
    split <;> simp [List.take_eq_take_iff]

structure Split (bytes : Bytes) (sink : Sink) (fault : Option IoFault) (left : Bytes) (next : Sink) : Prop where
  taken : ∃ front, bytes = front ++ left ∧ next.accepted.toList = sink.accepted.toList ++ front
  whole : fault = none → left = []

theorem Split.idle {bytes : Bytes} {sink next : Sink} (fault : IoFault)
    (same : next.accepted.toList = sink.accepted.toList) : Split bytes sink (some fault) bytes next :=
  ⟨⟨[], rfl, by rw [same, List.append_nil]⟩, by rintro ⟨⟩⟩

theorem Split.nothing (sink : Sink) : Split [] sink none [] sink :=
  ⟨⟨[], rfl, (List.append_nil _).symm⟩, fun _ => rfl⟩

theorem pushWithinSplit {fuel : Nat} (bytes : Bytes) (sink : Sink) (enough : bytes.length ≤ fuel) :
    ∃ fault left next, pushWithin fuel bytes sink = (fault, left, next) ∧ Split bytes sink fault left next := by
  induction fuel generalizing bytes sink with
  | zero =>
    obtain rfl : bytes = [] := List.length_eq_zero_iff.mp (by omega)
    exact ⟨none, [], sink, rfl, .nothing sink⟩
  | succ fuel ih =>
    cases bytes with
    | nil => exact ⟨none, [], sink, rfl, .nothing sink⟩
    | cons head tail =>
      rcases sink.writeTaken (head :: tail) with ⟨fault, next, failed, same⟩ | ⟨count, next, taken, accepted⟩
      · exact ⟨some fault, head :: tail, next, by simp only [pushWithin, failed], .idle fault (by rw [same])⟩
      · cases count with
        | zero =>
          exact ⟨some ⟨.writeZero, ""⟩, head :: tail, next, by simp only [pushWithin, taken],
            .idle _ (by rw [accepted, List.take_zero, List.append_nil])⟩
        | succ count =>
          obtain ⟨fault, left, last, pushed, ⟨front, same, later⟩, whole⟩ :=
            ih ((head :: tail).drop (count + 1)) next
              (by simp only [List.length_drop, List.length_cons] at enough ⊢; omega)
          refine ⟨fault, left, last, by simp only [pushWithin, taken, pushed],
            ⟨(head :: tail).take (count + 1) ++ front, ?_, ?_⟩, whole⟩
          · rw [List.append_assoc, ← same, List.take_append_drop]
          · rw [later, accepted, List.append_assoc]

theorem pushSplit (bytes : Bytes) (sink : Sink) :
    ∃ fault left next, sink.push bytes = (fault, left, next) ∧ Split bytes sink fault left next :=
  pushWithinSplit bytes sink (Nat.le_refl _)

theorem writeAllHonest : Writer.Honest writeAll fun sink => sink.accepted.toList := by
  intro bytes sink
  obtain ⟨fault, left, next, pushed, ⟨front, rfl, accepted⟩, whole⟩ := sink.pushSplit bytes
  unfold writeAll
  rw [pushed]
  cases fault with
  | none =>
    obtain rfl := whole rfl
    rw [List.append_nil]
    exact accepted
  | some fault => exact ⟨front, List.prefix_append front left, accepted⟩

end Sink

namespace Outlet

theorem flushKeeps (outlet : Outlet) :
    outlet.flush.2.produced = outlet.produced ∧ (outlet.flush.1 = .ok () → outlet.flush.2.held = #[]) := by
  obtain ⟨fault, left, next, pushed, ⟨front, held, accepted⟩, whole⟩ := outlet.sink.pushSplit outlet.held.toList
  unfold flush
  rw [pushed]
  cases fault with
  | none =>
    obtain rfl := whole rfl
    refine ⟨?_, fun _ => rfl⟩
    rw [produced, produced, accepted, held, List.append_assoc]
  | some fault =>
    refine ⟨?_, by rintro ⟨⟩⟩
    rw [produced, produced, accepted, held, List.append_assoc]

theorem placeWrote (outlet : Outlet) (bytes : Bytes) (behind : outlet.held = #[] ∨ bytes.length < capacity) :
    Writer.Wrote bytes outlet.produced (outlet.place bytes).1 (outlet.place bytes).2.produced := by
  unfold place
  split
  · rename_i large
    have nothing : outlet.held.toList = [] := by rw [behind.resolve_right (by omega)]
    obtain ⟨fault, left, next, pushed, ⟨front, rfl, accepted⟩, whole⟩ := outlet.sink.pushSplit bytes
    rw [pushed]
    have after : produced { outlet with sink := next } = outlet.produced ++ front := by
      rw [produced, produced, nothing, accepted, List.append_nil, List.append_nil]
    cases fault with
    | none =>
      obtain rfl := whole rfl
      rw [List.append_nil]
      exact after
    | some fault => exact ⟨front, List.prefix_append front left, after⟩
  · have after : (outlet.held ++ bytes).toList = outlet.held.toList ++ bytes := Array.toList_appendList
    exact (congrArg (outlet.sink.accepted.toList ++ ·) after).trans (List.append_assoc ..).symm

theorem writeHonest : Writer.Honest write produced := by
  intro bytes outlet
  unfold write
  split
  · obtain ⟨same, emptied⟩ := outlet.flushKeeps
    rcases flushed : outlet.flush with ⟨fault | ⟨⟩, next⟩
    · rw [flushed] at same
      exact ⟨[], List.nil_prefix, by rw [List.append_nil]; exact same⟩
    · rw [flushed] at same emptied
      rw [← same]
      exact next.placeWrote bytes (.inl (emptied rfl))
  · refine outlet.placeWrote bytes ?_
    by_cases large : capacity ≤ bytes.length
    · exact .inl (Array.size_eq_zero_iff.mp (by omega))
    · exact .inr (by omega)

end Outlet

end AmqpClient
