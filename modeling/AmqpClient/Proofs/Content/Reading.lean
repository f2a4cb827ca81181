import AmqpClient.Content.Body

/-! Reading bodies. However short the single reads of a body are and however often it is interrupted,
its bytes come in order: filling up to some count takes exactly so many of those that are left, and
reading to the end takes them all. -/
namespace AmqpClient

def Source.portion (source : Source) (room : Nat) : Nat :=
  match (source.pace source.turn).most with
  | some most => min room most
  | none => room

theorem Source.portionLe (source : Source) (room : Nat) : source.portion room ≤ room := by
  unfold portion
  split
  · exact Nat.min_le_left ..
  · exact Nat.le_refl room

theorem Source.portionPos {source : Source} {room : Nat}
    (brisk : ∀ turn, (source.pace turn).most ≠ some 0) (wanted : 0 < room) :
    0 < source.portion room := by
  unfold portion
  split
  · rename_i most pace
    have positive : most ≠ 0 := fun zero => brisk source.turn (by rw [pace, zero])
    omega
  · exact wanted

theorem Source.settledRead {source : Source} (room : Nat)
    (going : source.data ≠ [] ∨ source.failure = none) :
    source.settle.read room = (.ok (source.data.take (source.portion room)),
      { source with
        data := source.data.drop (source.portion room), turn := source.turn + 1, interrupted := 0 }) := by
  have settled : ¬ source.settle.interrupted < (source.settle.pace source.settle.turn).interruptions :=
    Nat.lt_irrefl _
  simp only [read, if_neg settled]
  cases data : source.data with
  | nil =>
    have unfailing : source.failure = none := going.resolve_left (fun filled => filled data)
    cases pace : (source.pace source.turn).most <;> simp [settle, portion, data, pace, unfailing]
  | cons head tail =>
    cases pace : (source.pace source.turn).most <;> simp [settle, portion, data, pace]

theorem Source.readFew {source next : Source} {room : Nat} {bytes : Bytes}
    (answer : source.read room = (.ok bytes, next)) : bytes.length ≤ room := by
  simp only [read] at answer
  by_cases waiting : source.interrupted < (source.pace source.turn).interruptions
  · rw [if_pos waiting] at answer
    cases answer
  · rw [if_neg waiting] at answer
    split at answer
    · cases answer
    · cases answer
      exact Nat.le_trans (List.length_take_le ..) (source.portionLe room)

namespace ContentBody

def rest (body : ContentBody) : Bytes :=
  match body.store with
  | .memory rest => rest
  | .spilled reader => reader.rest
  | .stream source => source.data

/- A read that yields nothing is taken for the end, so a source must not answer with nothing before. -/
def Brisk (body : ContentBody) : Prop :=
  match body.store with
  | .stream source => ∀ turn, (source.pace turn).most ≠ some 0
  | _ => True

def Unfailing (body : ContentBody) : Prop :=
  match body.store with
  | .stream source => source.failure = none
  | _ => True

structure After (front : Bytes) (body next : ContentBody) : Prop where
  rest : body.rest = front ++ next.rest
  brisk : body.Brisk → next.Brisk
  unfailing : body.Unfailing → next.Unfailing
  length : next.length = body.length

theorem After.refl (body : ContentBody) : After [] body body := ⟨rfl, id, id, rfl⟩

theorem After.trans {first second : Bytes} {body middle last : ContentBody}
    (one : After first body middle) (two : After second middle last) : After (first ++ second) body last :=
  ⟨by rw [one.rest, two.rest, List.append_assoc], two.brisk ∘ one.brisk, two.unfailing ∘ one.unfailing,
    two.length.trans one.length⟩

theorem readSettled {body : ContentBody} {room : Nat} (brisk : body.Brisk) (wanted : 0 < room)
    (going : body.rest ≠ [] ∨ body.Unfailing) :
    ∃ front next, body.settle.read room = (.ok front, next) ∧ After front body next ∧
      front.length ≤ room ∧ (front = [] → body.rest = []) := by
  obtain ⟨store, length⟩ := body
  cases store with
  | memory rest =>
    exact ⟨rest.take room, ⟨.memory (rest.drop room), length⟩, rfl,
      ⟨(List.take_append_drop room rest).symm, id, id, rfl⟩, List.length_take_le ..,
      fun nothing => (List.take_eq_nil_iff.mp nothing).resolve_left (by omega)⟩
  | spilled reader =>
    exact ⟨reader.rest.take room, ⟨.spilled { reader with rest := reader.rest.drop room }, length⟩, rfl,
      ⟨(List.take_append_drop room reader.rest).symm, id, id, rfl⟩, List.length_take_le ..,
      fun nothing => (List.take_eq_nil_iff.mp nothing).resolve_left (by omega)⟩
  | stream source =>
    have answer := Source.settledRead room going
    have positive := Source.portionPos brisk wanted
    refine ⟨source.data.take (source.portion room), ⟨.stream { source with
      data := source.data.drop (source.portion room), turn := source.turn + 1, interrupted := 0 },
      length⟩, by simp only [settle, read, answer], ?_, ?_, ?_⟩
    · exact ⟨(List.take_append_drop (source.portion room) source.data).symm, id, id, rfl⟩
    · exact Nat.le_trans (List.length_take_le ..) (source.portionLe room)
    · exact fun nothing => (List.take_eq_nil_iff.mp nothing).resolve_left (by omega)

theorem fillWithinRest {fuel lacking : Nat} (pieces : List Bytes) {body : ContentBody}
    (brisk : body.Brisk) (enough : lacking ≤ fuel)
    (going : lacking ≤ body.rest.length ∨ body.Unfailing) :
    ∃ front next, fillWithin fuel lacking pieces body = (.ok (pieces.reverse.flatten ++ front), next) ∧
      After front body next ∧ front.length = min lacking body.rest.length := by
  induction fuel generalizing lacking pieces body with
  | zero =>
    have nothing : lacking = 0 := by omega
    subst nothing
    exact ⟨[], body, by simp [fillWithin], After.refl body, by simp⟩
  | succ fuel ih =>
    cases lacking with
    | zero => exact ⟨[], body, by simp [fillWithin], After.refl body, by simp⟩
    | succ lacking =>
      have filled : body.rest ≠ [] ∨ body.Unfailing := by
        refine going.imp_left fun within empty => ?_
        simp [empty] at within
      obtain ⟨front, next, answer, after, few, ended⟩ := readSettled brisk (Nat.succ_pos lacking) filled
      cases front with
      | nil => exact ⟨[], next, by simp [fillWithin, answer], after, by simp [ended rfl]⟩
      | cons head tail =>
        have total := congrArg List.length after.rest
        simp only [List.length_append, List.length_cons] at total few
        obtain ⟨more, last, answers, later, length⟩ := ih
          ((head :: tail) :: pieces) (after.brisk brisk) (by omega : lacking - tail.length ≤ fuel)
          (going.imp (fun within => by omega) after.unfailing)
        have lacks : lacking + 1 - (head :: tail).length = lacking - tail.length := by
          simp only [List.length_cons]
          omega
        refine ⟨head :: tail ++ more, last, ?_, after.trans later, ?_⟩
        · simp only [fillWithin, answer, lacks, answers, List.reverse_cons, List.flatten_append,
            List.flatten_cons, List.flatten_nil, List.append_nil, List.append_assoc]
        · simp only [List.length_append, List.length_cons, length]
          omega

theorem fillRest {body : ContentBody} (count : Nat) (brisk : body.Brisk)
    (going : count ≤ body.rest.length ∨ body.Unfailing) :
    ∃ next, body.fill count = (.ok (body.rest.take count), next) ∧
      After (body.rest.take count) body next := by
  obtain ⟨front, next, answer, after, length⟩ :=
    fillWithinRest [] brisk (Nat.le_refl count) going
  have same : body.rest.take count = front := by
    rw [List.take_eq_take_min, ← length, after.rest, List.take_left]
  exact ⟨next, by simpa [fill, same] using answer, same ▸ after⟩

theorem readFew {body next : ContentBody} {room : Nat} {bytes : Bytes}
    (answer : body.read room = (.ok bytes, next)) : bytes.length ≤ room := by
  obtain ⟨store, length⟩ := body
  cases store with
  | memory rest =>
    cases answer
    exact List.length_take_le ..
  | spilled reader =>
    cases answer
    exact List.length_take_le ..
  | stream source =>
    simp only [read] at answer
    cases given : source.read room with
    | mk result after =>
      rw [given] at answer
      cases answer
      exact Source.readFew given

theorem fillWithinFew {fuel lacking : Nat} {pieces : List Bytes} {body next : ContentBody} {bytes : Bytes}
    (filled : fillWithin fuel lacking pieces body = (.ok bytes, next)) :
    bytes.length ≤ pieces.reverse.flatten.length + lacking := by
  induction fuel generalizing lacking pieces body with
  | zero =>
    cases filled
    exact Nat.le_add_right ..
  | succ fuel ih =>
    cases lacking with
    | zero =>
      cases filled
      exact Nat.le_refl _
    | succ lacking =>
      simp only [fillWithin] at filled
      rcases answer : body.settle.read (lacking + 1) with ⟨fault | front, after⟩
      · rw [answer] at filled
        cases filled
      · rw [answer] at filled
        cases front with
        | nil =>
          cases filled
          exact Nat.le_add_right ..
        | cons head tail =>
          have few := readFew answer
          have more := ih filled
          simp only [List.reverse_cons, List.flatten_append, List.flatten_singleton, List.length_append] at more
          omega

theorem fillFew {body next : ContentBody} {count : Nat} {bytes : Bytes}
    (filled : body.fill count = (.ok bytes, next)) : bytes.length ≤ count :=
  Nat.le_trans (fillWithinFew filled) (Nat.le_of_eq (Nat.zero_add count))

structure Yields (body : ContentBody) (bytes : Bytes) : Prop where
  brisk : body.Brisk
  declared : body.length.toNat = bytes.length
  front : bytes <+: body.rest

theorem yieldsOfSource {source : Source} {length : UInt64}
    (brisk : ∀ turn, (source.pace turn).most ≠ some 0) (enough : length.toNat ≤ source.data.length) :
    (ofSource source length).Yields (source.data.take length.toNat) :=
  ⟨brisk, (List.length_take_of_le enough).symm, List.take_prefix ..⟩

theorem availableRest (body : ContentBody) : body.available = body.rest.length := by
  obtain ⟨store, length⟩ := body
  cases store <;> rfl

theorem remainderRest (body : ContentBody) (brisk : body.Brisk) (unfailing : body.Unfailing) :
    body.remainder = .ok body.rest := by
  obtain ⟨next, answer, _⟩ := fillRest (body.available + 1) brisk (.inr unfailing)
  have whole : body.rest.take (body.available + 1) = body.rest :=
    List.take_of_length_le (by rw [availableRest]; omega)
  rw [whole] at answer
  unfold remainder
  rw [answer]

theorem remainderOfBytes (bytes : Bytes) : (ofBytes bytes).remainder = .ok bytes :=
  remainderRest (ofBytes bytes) trivial trivial

theorem remainderOfSpill (reader : SpillReader) : (ofSpill reader).remainder = .ok reader.rest :=
  remainderRest (ofSpill reader) trivial trivial

end ContentBody

end AmqpClient
