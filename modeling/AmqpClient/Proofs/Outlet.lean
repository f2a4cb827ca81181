import AmqpClient.Outlet

/-! A buffered way out in front of a sink that never fails. Whatever the sizes of the pieces and however
little the sink takes in one call, what was accepted and what is still held are together all that was
written, in order. -/
namespace AmqpClient

structure Sink.Tireless (sink : Sink) : Prop where
  endless : sink.room = none
  brisk : ∀ turn, sink.most turn ≠ some 0

def Sink.portion (sink : Sink) (bytes : Bytes) : Bytes :=
  match sink.most sink.turn with
  | some most => bytes.take most
  | none => bytes

namespace Sink

theorem portionFront (sink : Sink) (bytes : Bytes) :
    sink.portion bytes ++ bytes.drop (sink.portion bytes).length = bytes := by
  unfold portion
  split
  · rw [List.length_take, ← List.drop_eq_drop_min]
    exact List.take_append_drop ..
  · simp

theorem portionLength {sink : Sink} {bytes : Bytes} (tireless : sink.Tireless) (filled : bytes ≠ []) :
    0 < (sink.portion bytes).length := by
  have positive : 0 < bytes.length := List.length_pos_iff.mpr filled
  unfold portion
  split
  · rename_i most pace
    have wanted : most ≠ 0 := fun zero => tireless.brisk sink.turn (by rw [pace, zero])
    rw [List.length_take]
    omega
  · exact positive

theorem writeTireless {sink : Sink} (bytes : Bytes) (tireless : sink.Tireless) :
    sink.write bytes = (.ok (sink.portion bytes).length,
      { sink with accepted := sink.accepted ++ sink.portion bytes, turn := sink.turn + 1 }) := by
  obtain ⟨accepted, room, most, turn, fault⟩ := sink
  obtain rfl : room = none := tireless.endless
  cases pace : most turn <;> simp [write, portion, pace]

theorem pushWithinTireless {fuel : Nat} (bytes : Bytes) (sink : Sink) (tireless : sink.Tireless)
    (enough : bytes.length ≤ fuel) :
    ∃ next, pushWithin fuel bytes sink = (none, [], next) ∧ next.Tireless ∧
      next.accepted.toList = sink.accepted.toList ++ bytes := by
  induction fuel generalizing bytes sink with
  | zero =>
    obtain rfl : bytes = [] := List.length_eq_zero_iff.mp (by omega)
    exact ⟨sink, rfl, tireless, by simp⟩
  | succ fuel ih =>
    cases bytes with
    | nil => exact ⟨sink, rfl, tireless, by simp⟩
    | cons head tail =>
      have positive := portionLength tireless (List.cons_ne_nil head tail)
      have front := sink.portionFront (head :: tail)
      have answer := writeTireless (head :: tail) tireless
      cases counted : (sink.portion (head :: tail)).length with
      | zero => omega
      | succ count =>
        obtain ⟨next, pushed, untiring, accepted⟩ := ih
          ((head :: tail).drop (count + 1))
          { sink with
            accepted := sink.accepted ++ sink.portion (head :: tail), turn := sink.turn + 1 }
          ⟨tireless.endless, tireless.brisk⟩
          (by simp only [List.length_drop, List.length_cons] at enough ⊢; omega)
        refine ⟨next, ?_, untiring, ?_⟩
        · simp only [pushWithin, answer, counted, pushed]
        · rw [accepted, Array.toList_appendList, List.append_assoc, ← counted, front]

theorem pushTireless {sink : Sink} (bytes : Bytes) (tireless : sink.Tireless) :
    ∃ next, sink.push bytes = (none, [], next) ∧ next.Tireless ∧
      next.accepted.toList = sink.accepted.toList ++ bytes :=
  pushWithinTireless bytes sink tireless (Nat.le_refl _)

end Sink

namespace Outlet

def produced (outlet : Outlet) : Bytes := outlet.sink.accepted.toList ++ outlet.held.toList

structure Gained (bytes : Bytes) (outlet next : Outlet) : Prop where
  produced : next.produced = outlet.produced ++ bytes
  tireless : outlet.sink.Tireless → next.sink.Tireless

theorem Gained.refl (outlet : Outlet) : Gained [] outlet outlet := ⟨by simp, id⟩

theorem Gained.trans {first second : Bytes} {outlet middle last : Outlet}
    (one : Gained first outlet middle) (two : Gained second middle last) :
    Gained (first ++ second) outlet last :=
  ⟨by rw [two.produced, one.produced, List.append_assoc], two.tireless ∘ one.tireless⟩

theorem flushTireless {outlet : Outlet} (tireless : outlet.sink.Tireless) :
    ∃ next, outlet.flush = (.ok (), next) ∧ Gained [] outlet next ∧ next.held = #[] := by
  obtain ⟨sink, pushed, untiring, accepted⟩ := Sink.pushTireless outlet.held.toList tireless
  exact ⟨⟨#[], sink⟩, by simp [flush, pushed], ⟨by simp [produced, accepted], fun _ => untiring⟩, rfl⟩

/- A piece that goes straight to the sink must not overtake what is held. -/
theorem placeTireless {outlet : Outlet} (bytes : Bytes) (tireless : outlet.sink.Tireless)
    (behind : outlet.held = #[] ∨ bytes.length < capacity) :
    ∃ next, outlet.place bytes = (.ok (), next) ∧ Gained bytes outlet next := by
  unfold place
  split
  · rename_i large
    have nothing : outlet.held = #[] := behind.resolve_right (by omega)
    obtain ⟨sink, pushed, untiring, accepted⟩ := Sink.pushTireless bytes tireless
    rw [pushed]
    exact ⟨{ outlet with sink }, rfl, by simp [produced, nothing, accepted], fun _ => untiring⟩
  · exact ⟨{ outlet with held := outlet.held ++ bytes }, rfl, by simp [produced], fun _ => tireless⟩

theorem writeTireless {outlet : Outlet} (bytes : Bytes) (tireless : outlet.sink.Tireless) :
    ∃ next, outlet.write bytes = (.ok (), next) ∧ Gained bytes outlet next := by
  unfold write
  split
  · obtain ⟨middle, flushed, gained, empty⟩ := flushTireless tireless
    obtain ⟨next, placed, more⟩ := placeTireless bytes (gained.tireless tireless) (.inl empty)
    rw [flushed]
    exact ⟨next, placed, gained.trans more⟩
  · refine placeTireless bytes tireless ?_
    by_cases large : capacity ≤ bytes.length
    · exact .inl (Array.size_eq_zero_iff.mp (by omega))
    · exact .inr (by omega)

theorem writeAllTireless {outlet : Outlet} (pieces : List Bytes) (tireless : outlet.sink.Tireless) :
    ∃ next, outlet.writeAll pieces = (.ok (), next) ∧ Gained pieces.flatten outlet next := by
  induction pieces generalizing outlet with
  | nil => exact ⟨outlet, rfl, Gained.refl outlet⟩
  | cons piece rest ih =>
    obtain ⟨middle, written, gained⟩ := writeTireless piece tireless
    obtain ⟨next, later, more⟩ := ih (gained.tireless tireless)
    refine ⟨next, ?_, gained.trans more⟩
    simp only [writeAll, written, later]

theorem writeFrameTireless {outlet : Outlet} (frame : Frame) (tireless : outlet.sink.Tireless) :
    ∃ next, outlet.writeFrame frame = (.ok (), next) ∧ Gained frame.encode outlet next := by
  obtain ⟨next, written, gained⟩ :=
    writeAllTireless [frame.encodeHeader, frame.payload, [Frame.endByte]] tireless
  exact ⟨next, written, by simpa [Frame.encode] using gained⟩

end Outlet

end AmqpClient
