import AmqpClient.Proofs.Command.Plain
import AmqpClient.Proofs.Command.Accounting

/-! Keeping bodies in files. The threshold decides where the bytes of a body are and, as long as memory can have them,
nothing else; there are just the files that it asks for at any time, and none of them is left behind. -/
namespace AmqpClient

def BodySlot.collects : BodySlot → Bool
  | .memory _ | .spilling _ => true
  | _ => false

namespace Custody

/- All that can be asked of an assembler, and of the bodies that it has handed out save where they are. -/
structure Alike (one other : Custody) : Prop where
  poisoned : one.poisoned = other.poisoned
  state : one.assembler.state = other.assembler.state
  method : one.assembler.method = other.assembler.method
  header : one.assembler.header = other.assembler.header
  remaining : one.assembler.remaining = other.assembler.remaining
  stored : one.assembler.stored = other.assembler.stored
  handed : one.handed.map (fun handed => (handed.body.length, handed.body.remainder))
    = other.handed.map (fun handed => (handed.body.length, handed.body.remainder))

theorem storedPlain (assembler : Assembler) : assembler.plain.stored = assembler.stored := by
  cases held : assembler.body <;> simp [Assembler.stored, Assembler.plain, BodySlot.plain, held]

theorem handedPlain (custody : Custody) :
    custody.plain.handed.map (fun handed => (handed.body.length, handed.body.remainder))
      = custody.handed.map (fun handed => (handed.body.length, handed.body.remainder)) := by
  simp [plain, Handed.plain, ContentBody.plainRemainder]

variable {here there : Custody}

theorem sameState (same : here.plain = there.plain) : here.assembler.state = there.assembler.state := by
  simpa [plain, Assembler.plain] using congrArg (fun custody : Custody => custody.assembler.state) same

theorem samePoisoned (same : here.plain = there.plain) : here.poisoned = there.poisoned := by
  simpa [plain] using congrArg Custody.poisoned same

theorem alikePlain (same : here.plain = there.plain) : Alike here there := by
  have assembler : here.assembler.plain = there.assembler.plain := congrArg Custody.assembler same
  obtain ⟨state, method, header, remaining, _, _⟩ := Assembler.mk.inj assembler
  refine ⟨samePoisoned same, state, method, header, remaining, ?_, ?_⟩
  · rw [← storedPlain, assembler, storedPlain]
  · rw [← handedPlain, same, handedPlain]

/- Just the files that the threshold asks for, each in the hand of whoever has the body in it. -/
structure Accounted (origin : Origin) (spill : SpillOptions) (others : List FileName) (custody : Custody) : Prop where
  files : custody.directory.files.Perm (custody.file.toList ++ (Handed.files custody.handed ++ others))
  waits : custody.file.isSome = true ↔
    (∃ header, custody.assembler.header = some header ∧ spill.threshold < header.bodySize ∧
      custody.assembler.body.collects = true) ∨
    ∃ given, origin.supplied = some given ∧ given.body.isSpilled = true ∧
      custody.assembler.body = .supplied given.body
  handed : ∀ handed ∈ custody.handed, handed.file.isSome = handed.body.isSpilled ∧
    ((handed.body.isSpilled = true ↔ spill.threshold < handed.body.length) ∨
      ∃ given, origin.supplied = some given ∧ handed.body.isSpilled = given.body.isSpilled ∧
        handed.body.length = given.body.length)
  left : custody.abandon.files.Perm others

variable {origin : Origin} {spill : SpillOptions} {others : List FileName} {custody : Custody}

theorem storageWaits {supplied : Option ContentBody} {assembler : Assembler}
    (storage : Assembler.Storage spill supplied assembler) :
    assembler.holdsFile = true ↔
      (∃ header, assembler.header = some header ∧ spill.threshold < header.bodySize ∧
        assembler.body.collects = true) ∨
      ∃ body, supplied = some body ∧ body.isSpilled = true ∧ assembler.body = .supplied body := by
  cases storage with
  | bare settings idle slot =>
    cases slot with
    | absent held | taken held => simp [Assembler.holdsFile, BodySlot.collects, held]
    | @supplied body held same => simp [Assembler.holdsFile, BodySlot.collects, held, same]
  | @filled header bytes settings titled kept counted ends =>
    obtain ⟨collects, own⟩ : assembler.body.collects = true ∧ ∀ body, assembler.body ≠ .supplied body := by
      rw [kept, SpillOptions.keep]
      split <;> simp [BodySlot.collects]
    simp [Assembler.keepHolds kept, SpillOptions.spills, titled, collects, own]

theorem accounted (account : Account spill (origin.supplied.map Handed.body) others custody) :
    Accounted origin spill others custody where
  files := account.files
  waits := by
    rw [account.held, storageWaits account.storage]
    simp
  handed := fun handed member => by
    obtain ⟨own, measured⟩ := account.handed handed member
    refine ⟨own, ?_⟩
    obtain spilled | ⟨body, given, spilled, length⟩ := measured
    · exact .inl (by rw [spilled, SpillOptions.spills, decide_eq_true_iff])
    · obtain ⟨handed, came, rfl⟩ := Option.map_eq_some_iff.mp given
      exact .inr ⟨handed, came, spilled, length⟩
  left := accountAbandon account

variable {first second : SpillOptions} {directory : Directory}

theorem plainBegun (begun : origin.start spill directory = .ok custody) :
    custody.plain = { assembler := custody.assembler.plain } := by
  cases origin with
  | frames =>
    cases begun
    rfl
  | withMethod method header body =>
    cases header with
    | none =>
      cases begun
      rfl
    | some header =>
      cases body with
      | some handed =>
        cases begun
        rfl
      | none =>
        simp only [Origin.start, Handling.runAcceptHeader] at begun
        split at begun
        · split at begun <;> cases begun
          split
          · rfl
          · unfold roomFor
            split <;> rfl
        · cases begun

theorem plainStart (one : first.directory = true) (two : second.directory = true)
    (begunHere : origin.start first directory = .ok here) (begunThere : origin.start second directory = .ok there) :
    here.plain = there.plain := by
  have built : Except.ok here.assembler.plain = Except.ok there.assembler.plain :=
    calc Except.ok here.assembler.plain
        = (origin.assembler first).map Assembler.plain := by rw [Origin.startAssembler begunHere]; rfl
      _ = origin.plain.assembler .inMemory := (origin.plainAssembler one).symm
      _ = (origin.assembler second).map Assembler.plain := origin.plainAssembler two
      _ = Except.ok there.assembler.plain := by rw [Origin.startAssembler begunThere]; rfl
  rw [plainBegun begunHere, plainBegun begunThere, Except.ok.inj built]

end Custody

namespace SpillOptions

variable {first second : SpillOptions} {size : UInt64}

/- Memory cannot have a body of this size, which just one of the thresholds sends to a file. -/
def Parted (first second : SpillOptions) (size : UInt64) : Prop :=
  Bytes.longest < size.toNat ∧ first.spills size ≠ second.spills size

theorem partedIff : first.Parted second size ↔ first.fits size ≠ second.fits size := by
  unfold Parted fits
  by_cases most : size.toNat ≤ Bytes.longest
  · simp [most, Nat.not_lt.mpr most]
  · simp [most, Nat.lt_of_not_le most]

theorem fitsAlways (low : first.threshold.toNat ≤ Bytes.longest) (size : UInt64) : first.fits size = true := by
  by_cases most : size.toNat ≤ Bytes.longest
  · simp [fits, most]
  · have large : first.threshold < size := UInt64.lt_iff_toNat_lt.mpr (by omega)
    exact fitsSpilled (decide_eq_true large)

end SpillOptions

theorem Origin.overwhelmsNever {origin : Origin} {spill : SpillOptions} (low : spill.threshold.toNat ≤ Bytes.longest) :
    origin.overwhelms spill = false := by
  unfold Origin.overwhelms
  cases origin.awaited <;> simp [SpillOptions.fitsAlways low]

namespace Custody

variable {first second : SpillOptions} {supplied : Option ContentBody} {here there : Custody}

def Parts (first second : SpillOptions) (custody : Custody) : Act → Prop
  | .feed frame => custody.poisoned = false ∧ custody.assembler.state = .expectingContentHeader ∧
      ∃ header, frame.contentHeader = .ok header ∧ first.Parted second header.bodySize
  | _ => False

def Splits (first second : SpillOptions) (custody : Custody) : List Act → Prop
  | [] => False
  | move :: rest => custody.Parts first second move ∨ (custody.act move).2.Splits first second rest

theorem splitsNever (custody : Custody) (acts : List Act) (low : first.threshold.toNat ≤ Bytes.longest)
    (low' : second.threshold.toNat ≤ Bytes.longest) : ¬ custody.Splits first second acts := by
  induction acts generalizing custody with
  | nil => exact id
  | cons move rest ih =>
    rintro (parts | splits)
    · cases move with
      | feed frame =>
        obtain ⟨_, _, header, _, parted⟩ := parts
        refine SpillOptions.partedIff.mp parted ?_
        rw [SpillOptions.fitsAlways low, SpillOptions.fitsAlways low']
      | take | read | drain | drop => exact parts
    · exact ih _ splits

theorem partsOverwhelms {frame : Frame} (same : here.plain = there.plain) (sound : here.poisoned = false)
    (one : here.assembler.spill = first) (two : there.assembler.spill = second) :
    here.Parts first second (.feed frame) ↔
      here.assembler.overwhelmed frame ≠ there.assembler.overwhelmed frame := by
  simp only [Parts, SpillOptions.partedIff, Assembler.overwhelmed, one, two, ← sameState same, sound, true_and]
  by_cases waiting : here.assembler.state = .expectingContentHeader
  · cases frame.contentHeader <;> simp [waiting]
  · simp [waiting, beq_eq_false_iff_ne.mpr waiting]

theorem fedParted {frame : Frame} (same : here.plain = there.plain) (sound : here.poisoned = false)
    (differ : here.assembler.overwhelmed frame ≠ there.assembler.overwhelmed frame) :
    (here.feed frame).1 ≠ (there.feed frame).1 := by
  have sound' : there.poisoned = false := (samePoisoned same).symm.trans sound
  have unpanicked : ∀ custody : Custody, (custody.heed frame).1.mapError Failure.refused ≠ .error .panicked :=
    fun custody => by cases (custody.heed frame).1 <;> simp [Except.mapError]
  rw [feedOf, feedOf, sound, sound']
  cases much : here.assembler.overwhelmed frame <;> cases much' : there.assembler.overwhelmed frame
  · exact absurd (much.trans much'.symm) differ
  · exact unpanicked here
  · exact (unpanicked there).symm
  · exact absurd (much.trans much'.symm) differ

theorem fedAlike (frame : Frame) (same : here.plain = there.plain)
    (one : here.assembler.spill.directory = true) (two : there.assembler.spill.directory = true)
    (agree : here.poisoned = true ∨ here.assembler.overwhelmed frame = there.assembler.overwhelmed frame) :
    (here.feed frame).1 = (there.feed frame).1 ∧ (here.feed frame).2.plain = (there.feed frame).2.plain := by
  have heeds : ((here.heed frame).1, (here.heed frame).2.plain) = ((there.heed frame).1, (there.heed frame).2.plain) := by
    rw [← plainHeed one, ← plainHeed two, same]
  obtain ⟨answers, next⟩ := Prod.mk.inj heeds
  rw [feedOf, feedOf, ← samePoisoned same]
  cases poisoned : here.poisoned with
  | true => exact ⟨rfl, same⟩
  | false =>
    rw [← agree.resolve_left (by simp [poisoned])]
    cases here.assembler.overwhelmed frame with
    | true => exact ⟨rfl, congrArg (fun custody : Custody => { custody with poisoned := true }) same⟩
    | false => exact ⟨congrArg (Except.mapError Failure.refused) answers, next⟩

theorem actParted {move : Act} (same : here.plain = there.plain) (one : here.assembler.spill = first)
    (two : there.assembler.spill = second) (parts : here.Parts first second move) :
    (here.act move).1 ≠ (there.act move).1 := by
  cases move with
  | feed frame =>
    have differ := (partsOverwhelms same parts.1 one two).mp parts
    exact fun outcome => fedParted same parts.1 differ (Outcome.fed.inj outcome)
  | take | read | drain | drop => exact parts.elim

theorem actAlike {move : Act} (same : here.plain = there.plain) (one : here.assembler.spill = first)
    (two : there.assembler.spill = second) (working : first.directory = true) (working' : second.directory = true)
    (whole : ¬ here.Parts first second move) :
    (here.act move).1 = (there.act move).1 ∧ (here.act move).2.plain = (there.act move).2.plain := by
  cases move with
  | feed frame =>
    obtain ⟨outcome, next⟩ := fedAlike frame same (one ▸ working) (two ▸ working') <| by
      cases poisoned : here.poisoned with
      | true => exact .inl rfl
      | false => exact .inr (not_not.mp fun differ => whole ((partsOverwhelms same poisoned one two).mpr differ))
    exact ⟨congrArg Outcome.fed outcome, next⟩
  | take | read | drain | drop =>
    refine Prod.mk.inj ((plainAct ?_ here).symm.trans (same ▸ plainAct ?_ there)) <;> simp

theorem runAlike (same : here.plain = there.plain) (storage : Assembler.Storage first supplied here.assembler)
    (storage' : Assembler.Storage second supplied there.assembler) (working : first.directory = true)
    (working' : second.directory = true) (acts : List Act) :
    ((here.run acts).1 = (there.run acts).1 ↔ ¬ here.Splits first second acts) ∧
      (¬ here.Splits first second acts → (here.run acts).2.plain = (there.run acts).2.plain) := by
  induction acts generalizing here there with
  | nil => exact ⟨⟨fun _ => id, fun _ => rfl⟩, fun _ => same⟩
  | cons move rest ih =>
    -- The runs go on in step, alike but for the place of the bytes, and the act that parts them has two outcomes.
    by_cases parts : here.Parts first second move
    · have differ := actParted same storage.settings storage'.settings parts
      have splits : here.Splits first second (move :: rest) := .inl parts
      exact ⟨⟨fun outcomes => absurd (List.cons.inj outcomes).1 differ, fun whole => absurd splits whole⟩,
        fun whole => absurd splits whole⟩
    · obtain ⟨outcome, next⟩ := actAlike same storage.settings storage'.settings working working' parts
      obtain ⟨outcomes, last⟩ := ih next (storageAct here move storage) (storageAct there move storage')
      simp only [runCons, Splits, parts, false_or, outcome, List.cons.injEq, true_and]
      exact ⟨outcomes, last⟩

theorem startAlike {origin : Origin} {directory : Directory} (one : first.directory = true) (two : second.directory = true)
    (begunHere : origin.start first directory = .ok here) (begunThere : origin.start second directory = .ok there)
    (acts : List Act) :
    ((here.run acts).1 = (there.run acts).1 ↔ ¬ here.Splits first second acts) ∧
      (¬ here.Splits first second acts → Alike (here.run acts).2 (there.run acts).2) := by
  obtain ⟨outcomes, last⟩ := runAlike (plainStart one two begunHere begunThere) (Origin.storageBegun begunHere)
    (Origin.storageBegun begunThere) one two acts
  exact ⟨outcomes, fun whole => alikePlain (last whole)⟩

theorem runAccounted {origin : Origin} {spill : SpillOptions} {others : List FileName} {directory : Directory}
    {custody : Custody} (owned : origin.Owned others directory) (begun : origin.start spill directory = .ok custody)
    (acts : List Act) : Accounted origin spill others (custody.run acts).2 :=
  accounted (runKeeps (P := Account spill (origin.supplied.map Handed.body) others)
    (fun _ move account => accountAct account move) (Origin.accountStart owned begun) acts)

end Custody

end AmqpClient
