import AmqpClient.Content.Stored
import AmqpClient.Proofs.Content.Depositing
import AmqpClient.Proofs.Content.Reading

/-! Readers that hand out their bytes in order and keep them when a read fails. Whoever reads such a reader to the
end gets what the reads before have left, however these were cut and interrupted; a buffered file that has gone
back to its start is one, and so is a caller's source that answers with nothing at its end only. -/
namespace AmqpClient

/- What a reader is expected to do: it yields its bytes from the front, a read that fails leaves them as they are,
and only at the end is nothing read into some room. -/
structure Faithful {σ : Type} (read : Nat → σ → Except IoFault Bytes × σ) (rest : σ → Bytes) : Prop where
  yields : ∀ {room s bytes next}, read room s = (.ok bytes, next) → rest s = bytes ++ rest next
  ended : ∀ {room s next}, 0 < room → read room s = (.ok [], next) → rest s = []
  fails : ∀ {room s fault next}, read room s = (.error fault, next) → rest next = rest s

/- Whoever reads on comes to the end, and nothing but interruptions is in the way. -/
inductive Unbroken {σ : Type} (read : Nat → σ → Except IoFault Bytes × σ) : σ → Prop
  | intro {s : σ}
      (passing : ∀ room fault next, 0 < room → read room s = (.error fault, next) → fault.kind = .interrupted)
      (again : ∀ room fault next, 0 < room → read room s = (.error fault, next) → Unbroken read next)
      (onward : ∀ room bytes next, 0 < room → bytes ≠ [] → read room s = (.ok bytes, next) → Unbroken read next) :
      Unbroken read s

namespace Reads

variable {σ : Type} {read : Nat → σ → Except IoFault Bytes × σ} {rest : σ → Bytes}

def yielded (results : List (Except IoFault Bytes)) : Bytes :=
  results.flatMap fun
  | .ok bytes => bytes
  | .error _ => []

theorem allYield (faithful : Faithful read rest) (rooms : List Nat) (s : σ) :
    rest s = yielded (all read rooms s).1 ++ rest (all read rooms s).2 := by
  induction rooms generalizing s with
  | nil => rfl
  | cons room rooms ih =>
    rcases answer : read room s with ⟨fault | bytes, next⟩
    · simp only [all, answer, yielded, List.flatMap_cons, List.nil_append]
      exact (faithful.fails answer).symm.trans (ih next)
    · simp only [all, answer, yielded, List.flatMap_cons, List.append_assoc]
      rw [faithful.yields answer]
      exact congrArg (bytes ++ ·) (ih next)

variable {rooms : Nat → Nat} {fuel turn : Nat} {gathered bytes : Bytes} {s next : σ} {fault : IoFault}

theorem toEndYields (faithful : Faithful read rest)
    (ended : toEnd read rooms fuel turn gathered s = some (.ok bytes, next)) : bytes = gathered ++ rest s := by
  induction fuel generalizing turn gathered s with
  | zero => cases ended
  | succ fuel ih =>
    unfold toEnd at ended
    rcases answer : read (rooms turn + 1) s with ⟨fault | front, middle⟩
    · rw [answer] at ended
      dsimp only at ended
      split at ended
      · rw [ih ended, faithful.fails answer]
      · cases ended
    · rw [answer] at ended
      cases front with
      | nil =>
        cases ended
        rw [faithful.ended (Nat.succ_pos _) answer, List.append_nil]
      | cons head tail => rw [ih ended, faithful.yields answer, List.append_assoc]

theorem toEndFails (ended : toEnd read rooms fuel turn gathered s = some (.error fault, next)) :
    fault.kind ≠ .interrupted := by
  induction fuel generalizing turn gathered s with
  | zero => cases ended
  | succ fuel ih =>
    unfold toEnd at ended
    rcases answer : read (rooms turn + 1) s with ⟨fault' | front, middle⟩
    · rw [answer] at ended
      dsimp only at ended
      split at ended
      · exact ih ended
      · rename_i lasting
        cases ended
        exact lasting
    · rw [answer] at ended
      cases front with
      | nil => cases ended
      | cons head tail => exact ih ended

theorem toEndUnbroken (unbroken : Unbroken read s) (rooms : Nat → Nat) (turn : Nat) (gathered : Bytes) :
    ∃ fuel bytes next, toEnd read rooms fuel turn gathered s = some (.ok bytes, next) := by
  induction unbroken generalizing turn gathered with
  | @intro s passing again onward later further =>
    rcases answer : read (rooms turn + 1) s with ⟨fault | front, middle⟩
    · obtain ⟨fuel, bytes, next, ended⟩ := later _ fault middle (Nat.succ_pos _) answer (turn + 1) gathered
      refine ⟨fuel + 1, bytes, next, ?_⟩
      simp only [toEnd, answer, passing _ fault middle (Nat.succ_pos _) answer, if_true, ended]
    · cases front with
      | nil => exact ⟨1, gathered, middle, by simp only [toEnd, answer]⟩
      | cons head tail =>
        obtain ⟨fuel, bytes, next, ended⟩ := further _ (head :: tail) middle (Nat.succ_pos _) (by simp) answer
          (turn + 1) (gathered ++ head :: tail)
        exact ⟨fuel + 1, bytes, next, by simp only [toEnd, answer, ended]⟩

end Reads

namespace Spill

def File.Steady (file : File) : Prop := ∀ fault, .fails fault ∈ file.script → fault.kind = .interrupted

theorem File.readOk {file next : File} {room : Nat} {bytes : Bytes} (answer : file.read room = (.ok bytes, next)) :
    file.rest = bytes ++ next.rest ∧ next.script <:+ file.script ∧ (0 < room → bytes = [] → file.rest = []) := by
  unfold read at answer
  rcases answered : file.answer room with ⟨fault | count, middle⟩
  · rw [answered] at answer
    cases answer
  · rw [answered] at answer
    cases answer
    obtain ⟨few, content, cursor, script, mild⟩ := answerOk answered
    rw [content, cursor]
    refine ⟨?_, script, fun wanted nothing => ?_⟩
    · simp only [rest, List.length_take, ← List.drop_drop]
      rw [← List.drop_eq_drop_min, List.take_append_drop]
    · exact (List.take_eq_nil_iff.mp nothing).resolve_left (by omega)

theorem File.readError {file next : File} {room : Nat} {fault : IoFault}
    (answer : file.read room = (.error fault, next)) :
    next.rest = file.rest ∧ file.script = .fails fault :: next.script := by
  unfold read at answer
  rcases answered : file.answer room with ⟨fault' | count, middle⟩
  · rw [answered] at answer
    cases answer
    obtain ⟨content, cursor, script⟩ := answerError answered
    exact ⟨by rw [rest, rest, content, cursor], script⟩
  · rw [answered] at answer
    cases answer

namespace Reader

variable {reader next : Reader} {room : Nat} {bytes : Bytes} {fault : IoFault}

theorem readOk (answer : reader.read room = (.ok bytes, next)) :
    reader.rest = bytes ++ next.rest ∧ next.file.script <:+ reader.file.script ∧
      (0 < room → bytes = [] → reader.rest = []) := by
  obtain ⟨file, window, length⟩ := reader
  cases window with
  | nil =>
    unfold read at answer
    dsimp only at answer
    split at answer
    · rcases given : file.read room with ⟨fault | front, middle⟩
      · rw [given] at answer
        cases answer
      · rw [given] at answer
        cases answer
        exact File.readOk given
    · rcases given : file.read capacity with ⟨fault | front, middle⟩
      · rw [given] at answer
        cases answer
      · rw [given] at answer
        cases answer
        obtain ⟨split, script, ended⟩ := File.readOk given
        refine ⟨?_, script, fun wanted nothing => ?_⟩
        · simp only [rest, List.nil_append]
          rw [split, ← List.append_assoc, List.take_append_drop]
        · exact ended (by decide) ((List.take_eq_nil_iff.mp nothing).resolve_left (by omega))
  | cons head tail =>
    cases answer
    refine ⟨?_, List.suffix_refl _, fun wanted nothing => ?_⟩
    · simp only [rest]
      rw [← List.append_assoc, List.take_append_drop]
    · exact absurd ((List.take_eq_nil_iff.mp nothing).resolve_left (by omega)) (List.cons_ne_nil head tail)

theorem readError (answer : reader.read room = (.error fault, next)) :
    next.rest = reader.rest ∧ reader.file.script = .fails fault :: next.file.script := by
  obtain ⟨file, window, length⟩ := reader
  cases window with
  | nil =>
    unfold read at answer
    dsimp only at answer
    split at answer
    · rcases given : file.read room with ⟨fault' | front, middle⟩
      · rw [given] at answer
        cases answer
        exact File.readError given
      · rw [given] at answer
        cases answer
    · rcases given : file.read capacity with ⟨fault' | front, middle⟩
      · rw [given] at answer
        cases answer
        exact File.readError given
      · rw [given] at answer
        cases answer
  | cons head tail => cases answer

theorem readFaithful : Faithful Reader.read Reader.rest where
  yields answer := (readOk answer).1
  ended wanted answer := (readOk answer).2.2 wanted rfl
  fails answer := (readError answer).1

theorem readSteady (steady : reader.file.Steady) (room : Nat) : (reader.read room).2.file.Steady := by
  intro fault member
  refine steady fault ?_
  rcases answer : reader.read room with ⟨fault' | bytes, next⟩
  · rw [answer] at member
    rw [(readError answer).2]
    exact List.mem_cons_of_mem _ member
  · rw [answer] at member
    exact (readOk answer).2.1.subset member

theorem steadyUnbroken {measure : Nat} {reader : Reader} (steady : reader.file.Steady)
    (bounded : reader.rest.length + reader.file.script.length ≤ measure) : Unbroken Reader.read reader := by
  induction measure generalizing reader with
  | zero =>
    have nothing : reader.file.script = [] := List.length_eq_zero_iff.mp (by omega)
    have empty : reader.rest = [] := List.length_eq_zero_iff.mp (by omega)
    refine .intro (fun room fault next _ answer => ?_) (fun room fault next _ answer => ?_)
      fun room bytes next _ filled answer => ?_
    · exact absurd ((readError answer).2.symm.trans nothing) (by simp)
    · exact absurd ((readError answer).2.symm.trans nothing) (by simp)
    · exact absurd ((List.append_eq_nil_iff.mp ((readOk answer).1.symm.trans empty)).1) filled
  | succ measure ih =>
    have later (room : Nat) {result : Except IoFault Bytes} {next : Reader}
        (answer : reader.read room = (result, next)) : next.file.Steady := by
      have kept := readSteady steady room
      rwa [answer] at kept
    refine .intro (fun room fault next _ answer => ?_) (fun room fault next _ answer => ?_)
      fun room bytes next _ filled answer => ?_
    · exact steady fault (by rw [(readError answer).2]; exact List.mem_cons_self)
    · obtain ⟨same, script⟩ := readError answer
      have shorter := congrArg List.length script
      rw [List.length_cons] at shorter
      exact ih (later room answer) (by rw [same]; omega)
    · obtain ⟨split, script, _⟩ := readOk answer
      have fewer := script.length_le
      have some := List.length_pos_iff.mpr filled
      have total := congrArg List.length split
      rw [List.length_append] at total
      exact ih (later room answer) (by omega)

theorem steadyUnbrokenAfter {reader : Reader} (steady : reader.file.Steady) (rooms : List Nat) :
    Unbroken Reader.read (Reads.all Reader.read rooms reader).2 := by
  induction rooms generalizing reader with
  | nil => exact steadyUnbroken steady (Nat.le_refl _)
  | cons room rooms ih => exact ih (readSteady steady room)

end Reader

end Spill

structure BriskSource where
  source : Source
  brisk : ∀ turn, (source.pace turn).most ≠ some 0

namespace BriskSource

inductive Answering (room : Nat) (source : Source) : Except IoFault Bytes → Source → Prop
  | interrupted (waiting : source.interrupted < (source.pace source.turn).interruptions) :
      Answering room source (.error ⟨.interrupted, ""⟩) { source with interrupted := source.interrupted + 1 }
  | failed {fault : IoFault} (fails : source.failure = some fault) :
      Answering room source (.error fault) { source with turn := source.turn + 1, interrupted := 0 }
  | yielded {bytes : Bytes} (front : bytes = source.data.take (source.portion room)) :
      Answering room source (.ok bytes)
        { source with data := source.data.drop (source.portion room), turn := source.turn + 1, interrupted := 0 }

theorem readAnswering (room : Nat) (source : Source) :
    Answering room source (source.read room).1 (source.read room).2 := by
  unfold Source.read
  dsimp only
  split
  · rename_i waiting
    exact .interrupted waiting
  · split
    · rename_i fails
      exact .failed fails
    · exact .yielded rfl

theorem readPace (room : Nat) (source : Source) : (source.read room).2.pace = source.pace := by
  have answering := readAnswering room source
  generalize (source.read room).1 = result at answering
  generalize (source.read room).2 = next at answering ⊢
  cases answering <;> rfl

def read (room : Nat) (s : BriskSource) : Except IoFault Bytes × BriskSource :=
  ((s.source.read room).1, ⟨(s.source.read room).2, fun turn => readPace room s.source ▸ s.brisk turn⟩)

def rest (s : BriskSource) : Bytes := s.source.data

variable {room : Nat} {s next : BriskSource} {result : Except IoFault Bytes}

theorem answering (answer : s.read room = (result, next)) : Answering room s.source result next.source := by
  obtain ⟨rfl, rfl⟩ := Prod.mk.inj answer
  exact readAnswering room s.source

theorem readFaithful : Faithful read rest where
  yields := by
    intro room s bytes next answer
    obtain ⟨later, brisk⟩ := next
    cases answering answer with
    | yielded front =>
      subst front
      exact (List.take_append_drop _ _).symm
  ended := by
    intro room s next wanted answer
    obtain ⟨later, brisk⟩ := next
    cases answering answer with
    | yielded front =>
      have positive := Source.portionPos s.brisk wanted
      exact (List.take_eq_nil_iff.mp front.symm).resolve_left (by omega)
  fails := by
    intro room s fault next answer
    obtain ⟨later, brisk⟩ := next
    cases answering answer <;> rfl

def patience (s : BriskSource) : Nat := (s.source.pace s.source.turn).interruptions - s.source.interrupted

theorem unbroken (s : BriskSource) (unfailing : s.source.failure = none) : Unbroken read s := by
  refine .intro (fun room fault next _ answer => ?_) (fun room fault next _ answer => ?_)
    fun room bytes next _ filled answer => ?_
  · obtain ⟨later, brisk⟩ := next
    cases answering answer with
    | interrupted => rfl
    | failed fails => exact absurd (unfailing.symm.trans fails) (by simp)
  · obtain ⟨later, brisk⟩ := next
    cases answering answer with
    | interrupted waiting =>
      have fewer : patience ⟨{ s.source with interrupted := s.source.interrupted + 1 }, brisk⟩ < s.patience := by
        unfold patience
        dsimp only
        omega
      exact unbroken _ unfailing
    | failed fails => exact absurd (unfailing.symm.trans fails) (by simp)
  · have split := readFaithful.yields answer
    have some := List.length_pos_iff.mpr filled
    have shorter : next.rest.length < s.rest.length := by
      rw [split, List.length_append]
      omega
    obtain ⟨later, brisk⟩ := next
    cases answering answer with
    | yielded => exact unbroken _ unfailing
termination_by (s.rest.length, s.patience)
decreasing_by
  · exact Prod.Lex.right _ fewer
  · exact Prod.Lex.left _ _ shorter

end BriskSource

end AmqpClient
