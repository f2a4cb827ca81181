import AmqpClient.Proofs.Content.Readers

/-! Bodies read out once. Memory, a buffered file that has gone back to its start and a caller's stream make readers
that hand out their bytes in order; so a body hands out each byte of its content once, whatever reads come before the
rest is read to the end. -/
namespace AmqpClient

namespace StoredBody

variable {σ : Type} {pull : Nat → σ → Except IoFault Bytes × σ} {remains : σ → Bytes}

def rest (remains : σ → Bytes) (body : StoredBody σ) : Bytes :=
  match body.storage with
  | .memory bytes place => bytes.drop place
  | .spilled reader => reader.rest
  | .stream s => remains s

inductive Stepping (pull : Nat → σ → Except IoFault Bytes × σ) (room : Nat) :
    StoredBody σ → Except IoFault Bytes → StoredBody σ → Prop
  | memory {bytes front : Bytes} {place : Nat} (length : UInt64) (given : front = (bytes.drop place).take room) :
      Stepping pull room ⟨.memory bytes place, length⟩ (.ok front) ⟨.memory bytes (place + front.length), length⟩
  | spilled {reader after : Spill.Reader} {result : Except IoFault Bytes} (length : UInt64)
      (given : reader.read room = (result, after)) :
      Stepping pull room ⟨.spilled reader, length⟩ result ⟨.spilled after, length⟩
  | stream {s after : σ} {result : Except IoFault Bytes} (length : UInt64) (given : pull room s = (result, after)) :
      Stepping pull room ⟨.stream s, length⟩ result ⟨.stream after, length⟩

variable {room : Nat} {body next : StoredBody σ} {result : Except IoFault Bytes}

theorem readStepping (answer : read pull room body = (result, next)) : Stepping pull room body result next := by
  obtain ⟨storage, length⟩ := body
  cases storage with
  | memory bytes place =>
    obtain ⟨rfl, rfl⟩ := Prod.mk.inj answer
    exact .memory length rfl
  | spilled reader =>
    obtain ⟨rfl, rfl⟩ := Prod.mk.inj answer
    exact .spilled length rfl
  | stream s =>
    obtain ⟨rfl, rfl⟩ := Prod.mk.inj answer
    exact .stream length rfl

theorem readFaithful (faithful : Faithful pull remains) : Faithful (read pull) (rest remains) where
  yields := by
    intro room body bytes next answer
    cases readStepping answer with
    | memory length given =>
      subst given
      simp only [rest, List.length_take, ← List.drop_drop]
      rw [← List.drop_eq_drop_min, List.take_append_drop]
    | spilled length given => exact Spill.Reader.readFaithful.yields given
    | stream length given => exact faithful.yields given
  ended := by
    intro room body next wanted answer
    cases readStepping answer with
    | memory length given => exact (List.take_eq_nil_iff.mp given.symm).resolve_left (by omega)
    | spilled length given => exact Spill.Reader.readFaithful.ended wanted given
    | stream length given => exact faithful.ended wanted given
  fails := by
    intro room body fault next answer
    cases readStepping answer with
    | spilled length given => exact Spill.Reader.readFaithful.fails given
    | stream length given => exact faithful.fails given

theorem readLength (body : StoredBody σ) (room : Nat) : (read pull room body).2.length = body.length := by
  obtain ⟨storage, length⟩ := body
  cases storage <;> rfl

theorem readSpilled (body : StoredBody σ) (room : Nat) : (read pull room body).2.isSpilled = body.isSpilled := by
  obtain ⟨storage, length⟩ := body
  cases storage <;> rfl

theorem readAllKeeps {α : Type} {of : StoredBody σ → α} (keeps : ∀ body room, of (read pull room body).2 = of body)
    (rooms : List Nat) (body : StoredBody σ) : of (Reads.all (read pull) rooms body).2 = of body := by
  induction rooms generalizing body with
  | nil => rfl
  | cons room rooms ih => exact (ih _).trans (keeps body room)

theorem memoryUnbroken {bytes : Bytes} {left place : Nat} (length : UInt64)
    (bounded : (bytes.drop place).length ≤ left) :
    Unbroken (read pull) (⟨.memory bytes place, length⟩ : StoredBody σ) := by
  induction left generalizing place with
  | zero =>
    have nothing : bytes.drop place = [] := List.length_eq_zero_iff.mp (by omega)
    refine .intro (fun room fault next _ answer => ?_) (fun room fault next _ answer => ?_)
      fun room front next _ filled answer => ?_
    · cases readStepping answer
    · cases readStepping answer
    · cases readStepping answer with
      | memory _ given => exact absurd (by rw [given, nothing, List.take_nil]) filled
  | succ left ih =>
    refine .intro (fun room fault next _ answer => ?_) (fun room fault next _ answer => ?_)
      fun room front next _ filled answer => ?_
    · cases readStepping answer
    · cases readStepping answer
    · cases readStepping answer with
      | memory _ given =>
        have some := List.length_pos_iff.mpr filled
        exact ih (by simp only [List.length_drop] at bounded some ⊢; omega)

theorem spilledUnbroken {reader : Spill.Reader} (unbroken : Unbroken Spill.Reader.read reader) (length : UInt64) :
    Unbroken (read pull) (⟨.spilled reader, length⟩ : StoredBody σ) := by
  induction unbroken with
  | intro passing again onward later further =>
    refine .intro (fun room fault next wanted answer => ?_) (fun room fault next wanted answer => ?_)
      fun room bytes next wanted filled answer => ?_
    · cases readStepping answer with
      | spilled _ given => exact passing room fault _ wanted given
    · cases readStepping answer with
      | spilled _ given => exact later room fault _ wanted given
    · cases readStepping answer with
      | spilled _ given => exact further room bytes _ wanted filled given

theorem streamUnbroken {s : σ} (unbroken : Unbroken pull s) (length : UInt64) :
    Unbroken (read pull) (⟨.stream s, length⟩ : StoredBody σ) := by
  induction unbroken with
  | intro passing again onward later further =>
    refine .intro (fun room fault next wanted answer => ?_) (fun room fault next wanted answer => ?_)
      fun room bytes next wanted filled answer => ?_
    · cases readStepping answer with
      | stream _ given => exact passing room fault _ wanted given
    · cases readStepping answer with
      | stream _ given => exact later room fault _ wanted given
    · cases readStepping answer with
      | stream _ given => exact further room bytes _ wanted filled given

theorem readAllMemory (rooms : List Nat) (bytes : Bytes) (place : Nat) (length : UInt64) :
    ∃ later, (Reads.all (read pull) rooms (⟨.memory bytes place, length⟩ : StoredBody σ)).2
      = ⟨.memory bytes later, length⟩ := by
  induction rooms generalizing place with
  | nil => exact ⟨place, rfl⟩
  | cons room rooms ih => exact ih _

theorem readAllSpilled (rooms : List Nat) (reader : Spill.Reader) (length : UInt64) :
    (Reads.all (read pull) rooms (⟨.spilled reader, length⟩ : StoredBody σ)).2
      = ⟨.spilled (Reads.all Spill.Reader.read rooms reader).2, length⟩ := by
  induction rooms generalizing reader with
  | nil => rfl
  | cons room rooms ih => exact ih _

theorem readAllStream (rooms : List Nat) (s : σ) (length : UInt64) :
    (Reads.all (read pull) rooms (⟨.stream s, length⟩ : StoredBody σ)).2
      = ⟨.stream (Reads.all pull rooms s).2, length⟩ := by
  induction rooms generalizing s with
  | nil => rfl
  | cons room rooms ih => exact ih _

theorem intoVecOk (faithful : Faithful pull remains) {body : StoredBody σ} {sizes : Nat → Nat} {fuel : Nat}
    {bytes : Bytes} (drained : body.intoVec pull sizes fuel = some (.ok bytes)) : bytes = body.rest remains := by
  unfold intoVec at drained
  rcases ended : Reads.toEnd (read pull) sizes fuel 0 [] body with _ | ⟨fault | gathered, last⟩
  · rw [ended] at drained
    cases drained
  · rw [ended] at drained
    cases drained
  · rw [ended] at drained
    cases drained
    exact Reads.toEndYields (readFaithful faithful) ended

theorem intoVecError {body : StoredBody σ} {sizes : Nat → Nat} {fuel : Nat} {e : Error}
    (drained : body.intoVec pull sizes fuel = some (.error e)) :
    ∃ fault : IoFault, fault.kind ≠ .interrupted ∧ e = body.failure fault := by
  unfold intoVec at drained
  rcases ended : Reads.toEnd (read pull) sizes fuel 0 [] body with _ | ⟨fault | gathered, last⟩
  · rw [ended] at drained
    cases drained
  · rw [ended] at drained
    cases drained
    exact ⟨fault, Reads.toEndFails ended, rfl⟩
  · rw [ended] at drained
    cases drained

theorem intoVecUnbroken {body : StoredBody σ} (unbroken : Unbroken (read pull) body) (sizes : Nat → Nat) :
    ∃ fuel bytes, body.intoVec pull sizes fuel = some (.ok bytes) := by
  obtain ⟨fuel, bytes, last, ended⟩ := Reads.toEndUnbroken unbroken sizes 0 []
  exact ⟨fuel, bytes, by simp only [intoVec, ended]⟩

/- Every byte of the content comes out once and in order, whatever reads come before the rest is read to the end:
those that fail consume nothing, and none changes the length. -/
structure ReadsOut (pull : Nat → σ → Except IoFault Bytes × σ) (remains : σ → Bytes) (body : StoredBody σ)
    (content : Bytes) : Prop where
  split : ∀ rooms, content = Reads.yielded (Reads.all (read pull) rooms body).1 ++
    (Reads.all (read pull) rooms body).2.rest remains
  length : ∀ rooms, (Reads.all (read pull) rooms body).2.length = body.length
  idle : ∀ rooms room fault next, (Reads.all (read pull) rooms body).2.read pull room = (.error fault, next) →
    next.rest remains = (Reads.all (read pull) rooms body).2.rest remains
  drained : ∀ rooms sizes fuel bytes,
    (Reads.all (read pull) rooms body).2.intoVec pull sizes fuel = some (.ok bytes) →
      content = Reads.yielded (Reads.all (read pull) rooms body).1 ++ bytes
  failed : ∀ rooms sizes fuel e, (Reads.all (read pull) rooms body).2.intoVec pull sizes fuel = some (.error e) →
    ∃ fault : IoFault, fault.kind ≠ .interrupted ∧ e = body.failure fault

def Finishes (pull : Nat → σ → Except IoFault Bytes × σ) (body : StoredBody σ) (rooms : List Nat) : Prop :=
  ∀ sizes, ∃ fuel bytes, (Reads.all (read pull) rooms body).2.intoVec pull sizes fuel = some (.ok bytes)

theorem readsOut (faithful : Faithful pull remains) (body : StoredBody σ) :
    ReadsOut pull remains body (body.rest remains) where
  split rooms := Reads.allYield (readFaithful faithful) rooms body
  length rooms := readAllKeeps readLength rooms body
  idle _ _ _ _ answer := (readFaithful faithful).fails answer
  drained rooms sizes fuel bytes drained := by
    rw [intoVecOk faithful drained]
    exact Reads.allYield (readFaithful faithful) rooms body
  failed rooms sizes fuel e failed := by
    obtain ⟨fault, lasting, rfl⟩ := intoVecError failed
    refine ⟨fault, lasting, ?_⟩
    rw [failure, failure, readAllKeeps readSpilled rooms body]

/- A body from memory, from what was written to a file, or from a stream that does what readers do, reads out
exactly once. From memory the rest always can be read to the end, from a file and from a stream where only
interruptions are in the way; and a file that takes whatever it is given, in however many calls, always comes to
its reader. -/
theorem bodyReadsOutOnce (faithful : Faithful pull remains) :
    (∀ bytes : Bytes,
      let body : StoredBody σ := ofBytes bytes
      ReadsOut pull remains body bytes ∧ body.length = UInt64.ofNat bytes.length ∧
        ∀ rooms, Finishes pull body rooms) ∧
      (∀ (script : List Spill.Conduct) (calls : List Spill.Call),
        let written := Spill.performAll calls { file := { script } }
        ∃ bytes, Spill.Deposits calls written.1 bytes ∧
          ((∀ conduct ∈ script, conduct.Mild) → ∃ reader, written.2.intoReader = .ok reader) ∧
          ∀ reader, written.2.intoReader = .ok reader →
            let body : StoredBody σ := ofSpill reader
            ReadsOut pull remains body bytes ∧ reader.length = bytes.length ∧
              body.length = UInt64.ofNat bytes.length ∧
              (reader.file.Steady → ∀ rooms, Finishes pull body rooms)) ∧
      ∀ (s : σ) (length : UInt64),
        let body := ofStream s length
        ReadsOut pull remains body (remains s) ∧ body.length = length ∧
          ∀ rooms, Unbroken pull (Reads.all pull rooms s).2 → Finishes pull body rooms := by
  refine ⟨fun bytes => ⟨readsOut faithful _, rfl, fun rooms => ?_⟩, fun script calls => ?_,
    fun s length => ⟨readsOut faithful _, rfl, fun rooms unbroken => ?_⟩⟩
  · obtain ⟨later, last⟩ := @readAllMemory σ pull rooms bytes 0 (UInt64.ofNat bytes.length)
    refine intoVecUnbroken ?_
    rw [ofBytes, last]
    exact memoryUnbroken _ (Nat.le_refl _)
  · obtain ⟨bytes, deposits, took⟩ := Spill.performAllDeposits calls { file := { script } } rfl
    refine ⟨bytes, deposits, fun mild => Spill.intoReaderMild took.atEnd (took.mild mild), fun reader handed => ?_⟩
    obtain ⟨rest, length, _⟩ := Spill.intoReaderOk took.atEnd handed
    have whole : reader.rest = bytes := rest.trans (took.produced.trans (List.nil_append _))
    have counted : reader.length = bytes.length := length.trans (took.length.trans (Nat.zero_add _))
    refine ⟨whole ▸ readsOut faithful _, counted, congrArg UInt64.ofNat counted, fun steady rooms => ?_⟩
    refine intoVecUnbroken ?_
    rw [ofSpill, readAllSpilled]
    exact spilledUnbroken (Spill.Reader.steadyUnbrokenAfter steady rooms) _
  · refine intoVecUnbroken ?_
    rw [ofStream, readAllStream]
    exact streamUnbroken unbroken _

def slowThree : BriskSource where
  source := { data := [1, 2, 3], pace := fun _ => { interruptions := 1, most := some 2 } }
  brisk _ := by simp

theorem slowThreeReadOut :
    Faithful BriskSource.read BriskSource.rest ∧
      (Reads.all (read BriskSource.read) [4, 4, 4] (ofStream slowThree 3)).1
        = [.error ⟨.interrupted, ""⟩, .ok [1, 2], .error ⟨.interrupted, ""⟩] ∧
      slowThree.rest
        = Reads.yielded (Reads.all (read BriskSource.read) [4, 4, 4] (ofStream slowThree 3)).1 ++ [3] :=
  ⟨BriskSource.readFaithful, rfl,
    ((bodyReadsOutOnce BriskSource.readFaithful).2.2 slowThree 3).1.drained [4, 4, 4] (fun _ => 31) 3 [3] rfl⟩

end StoredBody

/-! The plain bodies leave the buffers out. Reading the rest to the end they come to the same, and so do a plain
buffer and what a writer has taken. -/

namespace StoredBody

def plain (body : StoredBody BriskSource) : ContentBody where
  store :=
    match body.storage with
    | .memory bytes place => .memory (bytes.drop place)
    | .spilled reader => .spilled ⟨reader.length, reader.rest⟩
    | .stream s => .stream s.source
  length := body.length

theorem plainRest (body : StoredBody BriskSource) : body.plain.rest = body.rest BriskSource.rest := by
  obtain ⟨storage, length⟩ := body
  cases storage <;> rfl

theorem plainBrisk (body : StoredBody BriskSource) : body.plain.Brisk := by
  obtain ⟨storage, length⟩ := body
  cases storage with
  | memory bytes place => trivial
  | spilled reader => trivial
  | stream s => exact s.brisk

def Unfailing (body : StoredBody BriskSource) : Prop :=
  match body.storage with
  | .memory _ _ => True
  | .spilled reader => reader.file.Steady
  | .stream s => s.source.failure = none

theorem unfailingUnbroken {body : StoredBody BriskSource} (unfailing : body.Unfailing) :
    Unbroken (read BriskSource.read) body := by
  obtain ⟨storage, length⟩ := body
  cases storage with
  | memory bytes place => exact memoryUnbroken length (Nat.le_refl _)
  | spilled reader => exact spilledUnbroken (Spill.Reader.steadyUnbroken unfailing (Nat.le_refl _)) length
  | stream s => exact streamUnbroken (s.unbroken unfailing) length

theorem plainUnfailing {body : StoredBody BriskSource} (unfailing : body.Unfailing) : body.plain.Unfailing := by
  obtain ⟨storage, length⟩ := body
  cases storage with
  | memory bytes place => trivial
  | spilled reader => trivial
  | stream s => exact unfailing

theorem intoVecPlain {body : StoredBody BriskSource} (unfailing : body.Unfailing) (sizes : Nat → Nat) :
    ∃ fuel, body.intoVec BriskSource.read sizes fuel = some body.plain.remainder := by
  obtain ⟨fuel, bytes, drained⟩ := intoVecUnbroken (unfailingUnbroken unfailing) sizes
  refine ⟨fuel, ?_⟩
  rw [body.plain.remainderRest body.plainBrisk (plainUnfailing unfailing), plainRest, drained,
    intoVecOk BriskSource.readFaithful drained]

end StoredBody

namespace Spill

def Writer.plain (writer : Writer) : SpillBuffer := ⟨writer.produced⟩

theorem appendPlain {writer next : Writer} {bytes : Bytes} (atEnd : writer.file.AtEnd)
    (appended : writer.append bytes = (.ok (), next)) : next.plain = writer.plain.append bytes := by
  have appending := writer.appendAppending bytes atEnd
  unfold Writer.append at appended
  generalize Writer.appendWithin _ bytes writer = answer at appending appended
  cases appending with
  | done took =>
    cases appended
    exact congrArg SpillBuffer.mk took.produced
  | failed part took rough => cases appended

theorem readerPlain {writer : Writer} {reader : Reader} (atEnd : writer.file.AtEnd)
    (counted : writer.length = writer.produced.length) (handed : writer.intoReader = .ok reader) :
    (⟨reader.length, reader.rest⟩ : SpillReader) = writer.plain.reader := by
  obtain ⟨rest, length, _⟩ := intoReaderOk atEnd handed
  rw [rest, length, counted]
  rfl

end Spill

end AmqpClient
