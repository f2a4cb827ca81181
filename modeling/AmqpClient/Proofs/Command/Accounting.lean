import AmqpClient.Proofs.Command.Storage
import Mathlib.Data.List.Perm.Basic

/-! Whose the files in a directory are. Each file that an assembler has created is the assembler's own or that of one
body that it handed out, and there is a file where a body is longer than the threshold, and only there. What every
act keeps of this is enough for nothing to be left in the end. -/
namespace AmqpClient

namespace Directory

theorem letGoPerm {directory : Directory} {file : Option FileName} {rest : List FileName}
    (files : directory.files.Perm (file.toList ++ rest)) : (directory.letGo file).files.Perm rest := by
  cases file with
  | none => exact files
  | some name =>
    have once : (name :: rest).Nodup := (List.Perm.nodup_iff files).mp directory.distinct
    have kept : rest.filter (· != name) = rest := by
      refine List.filter_eq_self.mpr fun other member => ?_
      have distinct : other ≠ name := fun same => (List.nodup_cons.mp once).1 (same ▸ member)
      exact bne_iff_ne.mpr distinct
    have fewer := files.filter (· != name)
    simpa [kept, letGo, remove] using fewer

theorem createPerm {directory : Directory} {file : Option FileName} {rest : List FileName}
    (files : directory.files.Perm (file.toList ++ rest)) :
    (directory.create.letGo file).files.Perm (directory.newName :: rest) := by
  refine letGoPerm (List.Perm.trans ?_ List.perm_middle.symm)
  exact files.cons directory.newName

end Directory

namespace Handed

def files (all : List Handed) : List FileName := all.filterMap Handed.file

theorem filesCons (handed : Handed) (rest : List Handed) :
    files (handed :: rest) = handed.file.toList ++ files rest := by
  cases own : handed.file <;> simp [files, own]

theorem filesSnoc (all : List Handed) (handed : Handed) :
    files (all ++ [handed]) = files all ++ handed.file.toList := by
  cases own : handed.file <;> simp [files, own]

theorem filesSet {all : List Handed} {index : Nat} {handed : Handed} (within : index < all.length)
    (same : handed.file = all[index].file) : files (all.set index handed) = files all := by
  induction all generalizing index with
  | nil => rfl
  | cons first rest ih =>
    cases index with
    | zero => rw [List.set_cons_zero, filesCons, filesCons, same, List.getElem_cons_zero]
    | succ index => rw [List.set_cons_succ, filesCons, filesCons, ih (Nat.lt_of_succ_lt_succ within) same]

theorem filesErase {all : List Handed} {index : Nat} (within : index < all.length) :
    (files all).Perm (all[index].file.toList ++ files (all.eraseIdx index)) := by
  rw [← filesCons]
  exact (List.getElem_cons_eraseIdx_perm within).symm.filterMap Handed.file

theorem letGoAll {all : List Handed} {others : List FileName} {directory : Directory}
    (kept : directory.files.Perm (files all ++ others)) :
    (all.foldl (fun directory handed => directory.letGo handed.file) directory).files.Perm others := by
  induction all generalizing directory with
  | nil => exact kept
  | cons handed rest ih =>
    rw [filesCons, List.append_assoc] at kept
    exact ih (Directory.letGoPerm kept)

end Handed

namespace Assembler

/- Files follow the threshold, except that a body which came with the command has been where it is already. -/
def Measured (spill : SpillOptions) (supplied : Option ContentBody) (body : ContentBody) : Prop :=
  body.isSpilled = spill.spills body.length ∨
    ∃ given, supplied = some given ∧ body.isSpilled = given.isSpilled ∧ body.length = given.length

variable {spill : SpillOptions} {supplied : Option ContentBody} {assembler next : Assembler}

theorem keepHolds {size : UInt64} {bytes : Bytes} (kept : assembler.body = spill.keep size bytes) :
    assembler.holdsFile = spill.spills size := by
  rw [holdsFile, kept, SpillOptions.keep]
  cases spill.spills size <;> rfl

theorem keepTaken {size : UInt64} {bytes : Bytes} {body : ContentBody}
    (kept : assembler.body = spill.keep size bytes) (taken : assembler.takeBody = (.ok body, next)) :
    body.isSpilled = spill.spills size ∧ body.length = UInt64.ofNat bytes.length := by
  simp only [takeBody, if_neg (takeBodyTaken taken).1, kept, SpillOptions.keep] at taken
  cases large : spill.spills size <;> rw [large] at taken <;> cases taken <;> exact ⟨rfl, rfl⟩

theorem storageTaken {body : ContentBody} (storage : Storage spill supplied assembler)
    (taken : assembler.takeBody = (.ok body, next)) :
    body.isSpilled = assembler.holdsFile ∧ Measured spill supplied body := by
  obtain ⟨ready, _⟩ := takeBodyTaken taken
  cases storage with
  | bare settings idle slot =>
    cases slot with
    | absent held =>
      simp only [takeBody, if_neg ready, held] at taken
      cases taken
      have small : spill.spills 0 = false := decide_eq_false UInt64.not_lt_zero
      exact ⟨by rw [holdsFile, held]; rfl, .inl small.symm⟩
    | taken held =>
      obtain ⟨e, gone⟩ := takeBodyGone held
      rw [gone] at taken
      cases taken
    | supplied held same =>
      simp only [takeBody, if_neg ready, held] at taken
      cases taken
      exact ⟨by rw [holdsFile, held], .inr ⟨_, same, rfl, rfl⟩⟩
  | @filled header bytes settings titled kept counted ends =>
    have finished : assembler.remaining = 0 := by
      by_contra more
      exact ready (ends.trans (if_neg more))
    have whole : UInt64.ofNat bytes.length = header.bodySize := by
      rw [finished, UInt64.toNat_zero, Nat.add_zero] at counted
      rw [counted, UInt64.ofNat_toNat]
    obtain ⟨spilled, length⟩ := keepTaken kept taken
    exact ⟨spilled.trans (keepHolds kept).symm, .inl (by rw [spilled, length, whole])⟩

theorem acceptRoom {frame : Frame} (waiting : assembler.state = .expectingContentHeader)
    (collects : next.state = .expectingContentBody) (ok : assembler.accept frame = .ok next) :
    next.holdsFile = assembler.spill.spills next.remaining := by
  obtain ⟨header, titled, accepted⟩ := (acceptHeaderIff waiting).mp ok
  by_cases zero : header.bodySize = 0
  · rw [acceptHeaderEmpty _ zero] at accepted
    cases accepted
    contradiction
  · obtain rfl := acceptHeaderKept zero accepted
    exact keepHolds rfl

theorem acceptHolds {frame : Frame}
    (same : ¬ (assembler.state = .expectingContentHeader ∧ next.state = .expectingContentBody))
    (ok : assembler.accept frame = .ok next) : next.holdsFile = assembler.holdsFile := by
  cases waiting : assembler.state with
  | expectingMethod =>
    obtain ⟨method, parsed, rfl⟩ := (acceptMethodIff waiting).mp ok
    rfl
  | expectingContentHeader =>
    obtain ⟨header, titled, accepted⟩ := (acceptHeaderIff waiting).mp ok
    by_cases zero : header.bodySize = 0
    · rw [acceptHeaderEmpty _ zero] at accepted
      cases accepted
      rfl
    · obtain rfl := acceptHeaderKept zero accepted
      exact absurd ⟨waiting, rfl⟩ same
  | expectingContentBody =>
    obtain ⟨kind, appended⟩ := (acceptBodyIff waiting).mp ok
    unfold appendBody at appended
    split at appended
    · cases appended
    · dsimp only at appended
      split at appended <;> cases appended <;> rename_i held <;> simp [holdsFile, held]
  | complete =>
    rw [acceptComplete waiting] at ok
    contradiction

end Assembler

namespace Custody

/- Every file is in one hand. `others` are the files that were there before and are nobody's here. -/
structure Account (spill : SpillOptions) (supplied : Option ContentBody) (others : List FileName)
    (custody : Custody) : Prop where
  storage : Assembler.Storage spill supplied custody.assembler
  files : custody.directory.files.Perm (custody.file.toList ++ (Handed.files custody.handed ++ others))
  held : custody.file.isSome = custody.assembler.holdsFile
  handed : ∀ handed ∈ custody.handed,
    handed.file.isSome = handed.body.isSpilled ∧ Assembler.Measured spill supplied handed.body

variable {spill : SpillOptions} {supplied : Option ContentBody} {others : List FileName} {custody : Custody}

theorem accountRoom {next : Assembler} {size : UInt64} (account : Account spill supplied others custody)
    (storage : Assembler.Storage spill supplied next) (room : next.holdsFile = spill.spills size) :
    Account spill supplied others (custody.roomFor next size) := by
  have settings := account.storage.settings
  cases large : spill.spills size with
  | true =>
    simp only [roomFor, settings, large, if_true]
    exact ⟨storage, Directory.createPerm account.files, (room.trans large).symm, account.handed⟩
  | false =>
    simp only [roomFor, settings, large, Bool.false_eq_true, if_false]
    exact ⟨storage, Directory.letGoPerm account.files, (room.trans large).symm, account.handed⟩

theorem accountFeed (account : Account spill supplied others custody) (frame : Frame) :
    Account spill supplied others (custody.feed frame).2 := by
  rcases custody.feedCases frame with ⟨_, fed⟩ | fed | ⟨next, ok, fed⟩ <;> rw [fed]
  · exact account
  · exact ⟨account.storage, account.files, account.held, account.handed⟩
  · have storage := Assembler.storageAccept account.storage ok
    by_cases collects : custody.assembler.state = .expectingContentHeader ∧ next.state = .expectingContentBody
    · simp only [onward, if_pos collects]
      refine accountRoom account storage ?_
      rw [Assembler.acceptRoom collects.1 collects.2 ok, account.storage.settings]
    · simp only [onward, if_neg collects]
      exact ⟨storage, account.files, account.held.trans (Assembler.acceptHolds collects ok).symm, account.handed⟩

theorem givenHeld {body : ContentBody} {next : Assembler} (held : custody.file.isSome = custody.assembler.holdsFile) :
    custody.given body next =
      { custody with assembler := next, file := none, handed := custody.handed ++ [⟨body, custody.file⟩] } := by
  cases slot : custody.assembler.body with
  | spilling | supplied => simp [given, slot]
  | absent | memory | taken =>
    have nothing : custody.file = none := by simpa [Assembler.holdsFile, slot] using held
    simp [given, slot, nothing]

theorem accountTake (account : Account spill supplied others custody) :
    Account spill supplied others custody.take.2 := by
  rcases custody.takeCases with ⟨_, took⟩ | ⟨body, next, taken, took⟩ <;> rw [took]
  · exact account
  · obtain ⟨spilled, measured⟩ := Assembler.storageTaken account.storage taken
    obtain ⟨ready, gone⟩ := Assembler.takeBodyTaken taken
    simp only [givenHeld account.held]
    refine ⟨Assembler.storageTake account.storage taken, ?_, by rw [gone]; rfl, ?_⟩
    · rw [Handed.filesSnoc, List.append_assoc]
      exact account.files.trans (List.perm_append_comm_assoc ..)
    · refine List.forall_mem_append.mpr ⟨account.handed, List.forall_mem_singleton.mpr ⟨?_, measured⟩⟩
      exact account.held.trans spilled.symm

theorem readKeeps (body : ContentBody) (room : Nat) :
    (body.read room).2.isSpilled = body.isSpilled ∧ (body.read room).2.length = body.length := by
  obtain ⟨store, length⟩ := body
  cases store <;> exact ⟨rfl, rfl⟩

theorem accountRead (account : Account spill supplied others custody) (index room : Nat) :
    Account spill supplied others (custody.read index room).2 := by
  unfold read
  cases at' : custody.handed[index]? with
  | none => exact account
  | some handed =>
    obtain ⟨within, rfl⟩ := List.getElem?_eq_some_iff.mp at'
    obtain ⟨spilled, length⟩ := readKeeps custody.handed[index].body room
    dsimp only
    refine ⟨account.storage, ?_, account.held, fun other member => ?_⟩
    · rw [Handed.filesSet within (by rfl)]
      exact account.files
    · obtain member | rfl := List.mem_or_eq_of_mem_set member
      · exact account.handed other member
      · simpa [spilled, length, Assembler.Measured] using account.handed _ (List.getElem_mem within)

theorem accountDrop (account : Account spill supplied others custody) (index : Nat) :
    Account spill supplied others (custody.drop index) := by
  unfold drop
  cases at' : custody.handed[index]? with
  | none => exact account
  | some handed =>
    obtain ⟨within, rfl⟩ := List.getElem?_eq_some_iff.mp at'
    refine ⟨account.storage, ?_, account.held, fun other member => ?_⟩
    · refine Directory.letGoPerm (account.files.trans ?_)
      have taken := (Handed.filesErase within).append_right others
      rw [List.append_assoc] at taken
      exact (taken.append_left custody.file.toList).trans (List.perm_append_comm_assoc ..)
    · exact account.handed other (List.mem_of_mem_eraseIdx member)

theorem accountAct (account : Account spill supplied others custody) (move : Act) :
    Account spill supplied others (custody.act move).2 := by
  cases move with
  | feed frame => exact accountFeed account frame
  | take => exact accountTake account
  | read index room => exact accountRead account index room
  | drain index | drop index => exact accountDrop account index

theorem accountAbandon (account : Account spill supplied others custody) :
    custody.abandon.files.Perm others :=
  Handed.letGoAll (Directory.letGoPerm account.files)

end Custody

namespace Origin

structure Owned (origin : Origin) (others : List FileName) (directory : Directory) : Prop where
  files : directory.files.Perm ((origin.supplied.bind Handed.file).toList ++ others)
  fitting : ∀ handed, origin.supplied = some handed → handed.file.isSome = handed.body.isSpilled

variable {origin : Origin} {spill : SpillOptions} {others : List FileName} {directory : Directory} {custody : Custody}

theorem accountHeader {method : Method} {header : ContentHeader} (files : directory.files.Perm others)
    (begun : (withMethod method (some header) none).start spill directory = .ok custody) :
    Custody.Account spill none others custody := by
  let known : Custody := { assembler := { state := .complete, method := some method, spill }, directory }
  have account : Custody.Account spill none others known :=
    ⟨.bare rfl (by simp [known]) (.absent rfl), files, rfl, List.forall_mem_nil _⟩
  change Handling.settle ((Handling.acceptHeader header).run known) = Except.ok custody at begun
  rw [Handling.runAcceptHeader] at begun
  by_cases fits : known.assembler.spill.fits header.bodySize = true
  case neg =>
    rw [if_neg fits] at begun
    cases begun
  rw [if_pos fits] at begun
  cases accepted : known.assembler.acceptHeader header with
  | error e =>
    rw [accepted] at begun
    cases begun
  | ok next =>
    rw [accepted] at begun
    cases begun
    have storage : Assembler.Storage spill none next := Assembler.storageHeader rfl (.absent rfl) accepted
    by_cases zero : header.bodySize = 0
    · rw [if_pos zero]
      rw [Assembler.acceptHeaderEmpty _ zero] at accepted
      cases accepted
      exact ⟨storage, files, rfl, List.forall_mem_nil _⟩
    · rw [if_neg zero]
      obtain rfl := Assembler.acceptHeaderKept zero accepted
      exact Custody.accountRoom account storage (Assembler.keepHolds rfl)

theorem accountStart (owned : origin.Owned others directory) (begun : origin.start spill directory = .ok custody) :
    Custody.Account spill (origin.supplied.map Handed.body) others custody := by
  have storage := storageBegun begun
  cases origin with
  | frames =>
    cases begun
    exact ⟨storage, owned.files, rfl, List.forall_mem_nil _⟩
  | withMethod method header body =>
    cases body with
    | none =>
      cases header with
      | none =>
        cases begun
        exact ⟨storage, owned.files, rfl, List.forall_mem_nil _⟩
      | some header => exact accountHeader owned.files begun
    | some handed =>
      cases header <;> cases begun <;>
        exact ⟨storage, owned.files, owned.fitting handed rfl, List.forall_mem_nil _⟩

theorem assemblerWorks (origin : Origin) (working : spill.directory = true) :
    ∃ assembler, origin.assembler spill = .ok assembler := by
  cases origin with
  | frames => exact ⟨_, rfl⟩
  | withMethod method header body =>
    cases header with
    | none => exact ⟨_, rfl⟩
    | some header =>
      cases body with
      | some handed => exact ⟨_, rfl⟩
      | none =>
        by_cases zero : header.bodySize = 0
        · exact ⟨_, Assembler.acceptHeaderEmpty _ zero⟩
        · exact ⟨_, Assembler.acceptHeaderSized _ working zero⟩

theorem startWorks (origin : Origin) (directory : Directory) (working : spill.directory = true) :
    (origin.overwhelms spill = true ∧ origin.start spill directory = .error .panicked) ∨
      (origin.overwhelms spill = false ∧ ∃ custody, origin.start spill directory = .ok custody) := by
  obtain ⟨assembler, built⟩ := origin.assemblerWorks working
  have begun := startOf origin spill directory
  rw [built] at begun
  cases overwhelms : origin.overwhelms spill <;> rw [overwhelms] at begun <;>
    cases started : origin.start spill directory <;> rw [started] at begun <;> cases begun
  · exact .inr ⟨rfl, _, rfl⟩
  · exact .inl ⟨rfl, rfl⟩

end Origin

end AmqpClient
