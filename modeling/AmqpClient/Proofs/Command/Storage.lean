import AmqpClient.Proofs.Command.Handling

/-! Where an assembler has its body at any time. Whatever frames it accepts and whenever its body is asked for,
the bytes of frames are in a file exactly if their header declares more than the threshold, and together with
the counter they make up what it declares. -/
namespace AmqpClient.Assembler

def stored (assembler : Assembler) : Bytes :=
  match assembler.body with
  | .memory bytes => bytes
  | .spilling buffer => buffer.written
  | _ => []

theorem storedKept {assembler : Assembler} {spill : SpillOptions} {size : UInt64} {bytes : Bytes}
    (kept : assembler.body = spill.keep size bytes) : assembler.stored = bytes := by
  unfold stored
  rw [kept, SpillOptions.keep]
  cases spill.spills size <;> rfl

inductive Bare (supplied : Option ContentBody) (slot : BodySlot) : Prop
  | absent (held : slot = .absent)
  | taken (held : slot = .taken)
  | supplied {body : ContentBody} (held : slot = .supplied body) (same : supplied = some body)

inductive Storage (spill : SpillOptions) (supplied : Option ContentBody) (assembler : Assembler) : Prop
  | bare (settings : assembler.spill = spill) (idle : assembler.state ≠ .expectingContentBody)
      (slot : Bare supplied assembler.body)
  | filled {header : ContentHeader} {bytes : Bytes} (settings : assembler.spill = spill)
      (titled : assembler.header = some header) (kept : assembler.body = spill.keep header.bodySize bytes)
      (counted : bytes.length + assembler.remaining.toNat = header.bodySize.toNat)
      (ends : assembler.state = if assembler.remaining = 0 then .complete else .expectingContentBody)

variable {spill : SpillOptions} {supplied : Option ContentBody} {assembler next : Assembler}

theorem Storage.settings (storage : Storage spill supplied assembler) : assembler.spill = spill := by
  cases storage with
  | bare settings | filled settings => exact settings

theorem Storage.early (storage : Storage spill supplied assembler)
    (waiting : assembler.state = .expectingMethod ∨ assembler.state = .expectingContentHeader) :
    Bare supplied assembler.body := by
  cases storage with
  | bare settings idle slot => exact slot
  | filled settings titled kept counted ends =>
    rcases waiting with waiting | waiting <;> rw [waiting] at ends <;> split at ends <;> contradiction

theorem storageHeader {header : ContentHeader} (settings : assembler.spill = spill)
    (slot : Bare supplied assembler.body) (accepted : assembler.acceptHeader header = .ok next) :
    Storage spill supplied next := by
  by_cases zero : header.bodySize = 0
  · rw [acceptHeaderEmpty _ zero] at accepted
    obtain rfl := Except.ok.inj accepted
    exact .bare settings (by simp) slot
  · obtain rfl := acceptHeaderKept zero accepted
    exact .filled settings rfl (by rw [settings]) (Nat.zero_add _) (by simp [zero])

theorem storageAppend {header : ContentHeader} {bytes payload : Bytes} (settings : assembler.spill = spill)
    (titled : assembler.header = some header) (kept : assembler.body = spill.keep header.bodySize bytes)
    (counted : bytes.length + assembler.remaining.toNat = header.bodySize.toNat)
    (collecting : assembler.state = .expectingContentBody) (appended : assembler.appendBody payload = .ok next) :
    Storage spill supplied next := by
  by_cases fits : payload.length ≤ assembler.remaining.toNat
  · rw [appendBodyKept (settings ▸ kept) fits] at appended
    obtain rfl := Except.ok.inj appended
    refine .filled settings titled (by rw [settings]) ?_ (by rw [collecting])
    have left := remainingToNat fits
    simp only [List.length_append, left]
    omega
  · obtain ⟨size, received, overfull⟩ := appendBodyOverflow (Nat.lt_of_not_le fits)
    rw [overfull] at appended
    contradiction

theorem storageAccept {frame : Frame} (storage : Storage spill supplied assembler)
    (ok : assembler.accept frame = .ok next) : Storage spill supplied next := by
  cases waiting : assembler.state with
  | expectingMethod =>
    obtain ⟨method, parsed, rfl⟩ := (acceptMethodIff waiting).mp ok
    exact .bare storage.settings (by dsimp only; split <;> simp) (storage.early (.inl waiting))
  | expectingContentHeader =>
    obtain ⟨header, parsed, accepted⟩ := (acceptHeaderIff waiting).mp ok
    exact storageHeader storage.settings (storage.early (.inr waiting)) accepted
  | expectingContentBody =>
    obtain ⟨kind, appended⟩ := (acceptBodyIff waiting).mp ok
    cases storage with
    | bare settings idle slot => exact absurd waiting idle
    | filled settings titled kept counted ends => exact storageAppend settings titled kept counted waiting appended
  | complete =>
    rw [acceptComplete waiting] at ok
    contradiction

theorem storageTake {body : ContentBody} (storage : Storage spill supplied assembler)
    (taken : assembler.takeBody = (.ok body, next)) : Storage spill supplied next := by
  obtain ⟨ready, rfl⟩ := takeBodyTaken taken
  exact .bare storage.settings ready (.taken rfl)

theorem storageStart {method : Method} {header : Option ContentHeader}
    (built : ofMethod method header supplied spill = .ok assembler) : Storage spill supplied assembler := by
  cases header with
  | none =>
    obtain rfl := Except.ok.inj built
    refine .bare rfl (by dsimp only; split <;> simp) ?_
    cases supplied with
    | none => exact .absent rfl
    | some body => exact .supplied rfl rfl
  | some header =>
    cases supplied with
    | none => exact storageHeader rfl (.absent rfl) built
    | some body =>
      obtain rfl := Except.ok.inj built
      exact .bare rfl (by simp) (.supplied rfl rfl)

end Assembler

namespace Custody

open Assembler (Storage storageAccept storageTake storageStart)

variable {spill : SpillOptions} {supplied : Option ContentBody}

@[simp] theorem onwardAssembler (custody : Custody) (next : Assembler) : (custody.onward next).assembler = next := by
  unfold onward
  split
  · exact roomForAssembler ..
  · rfl

@[simp] theorem givenAssembler (custody : Custody) (body : ContentBody) (next : Assembler) :
    (custody.given body next).assembler = next := by
  unfold given
  split <;> rfl

@[simp] theorem readAssembler (custody : Custody) (index room : Nat) :
    (custody.read index room).2.assembler = custody.assembler := by
  unfold read
  split <;> rfl

@[simp] theorem dropAssembler (custody : Custody) (index : Nat) :
    (custody.drop index).assembler = custody.assembler := by
  unfold drop
  split <;> rfl

theorem storageAct (custody : Custody) (move : Act) (storage : Storage spill supplied custody.assembler) :
    Storage spill supplied (custody.act move).2.assembler := by
  cases move with
  | feed frame =>
    rcases custody.feedCases frame with ⟨_, fed⟩ | fed | ⟨next, ok, fed⟩ <;> simp only [act, fed]
    · exact storage
    · exact storage
    · simpa using storageAccept storage ok
  | take =>
    rcases custody.takeCases with ⟨_, took⟩ | ⟨body, next, taken, took⟩ <;> simp only [act, took]
    · exact storage
    · simpa using storageTake storage taken
  | read index room => simpa [act] using storage
  | drain index | drop index => simpa [act, drain] using storage

end Custody

namespace Origin

def assembler (origin : Origin) (spill : SpillOptions) : Except Error Assembler :=
  match origin with
  | frames => .ok { spill }
  | withMethod method header body => Assembler.ofMethod method header (body.map Handed.body) spill

def awaited : Origin → Option ContentHeader
  | withMethod _ (some header) none => some header
  | _ => none

def overwhelms (origin : Origin) (spill : SpillOptions) : Bool :=
  origin.awaited.any fun header => !spill.fits header.bodySize

theorem startOf (origin : Origin) (spill : SpillOptions) (directory : Directory) :
    (origin.start spill directory).map Custody.assembler =
      if origin.overwhelms spill then .error .panicked else (origin.assembler spill).mapError .refused := by
  cases origin with
  | frames => rfl
  | withMethod method header body =>
    cases header with
    | none => cases body <;> rfl
    | some header =>
      cases body with
      | some handed => rfl
      | none =>
        have asks : (withMethod method (some header) none).overwhelms spill = !spill.fits header.bodySize := rfl
        rw [asks]
        simp only [start, Handling.runAcceptHeader, assembler, Assembler.ofMethod, Option.map_none]
        by_cases fits : spill.fits header.bodySize = true
        · cases accepted : Assembler.acceptHeader _ header with
          | error e => simp [fits, Handling.settle, Except.map, Except.mapError]
          | ok next =>
            by_cases zero : header.bodySize = 0 <;> simp [fits, zero, Handling.settle, Except.map, Except.mapError]
        · simp [fits, Handling.settle, Except.map]

theorem startAssembler {origin : Origin} {spill : SpillOptions} {directory : Directory} {custody : Custody}
    (begun : origin.start spill directory = .ok custody) : origin.assembler spill = .ok custody.assembler := by
  have built := startOf origin spill directory
  rw [begun] at built
  split at built
  · cases built
  · cases made : origin.assembler spill with
    | error e =>
      rw [made] at built
      cases built
    | ok assembler =>
      rw [made] at built
      cases built
      rfl

theorem storageBegun {origin : Origin} {spill : SpillOptions} {directory : Directory} {custody : Custody}
    (begun : origin.start spill directory = .ok custody) :
    Assembler.Storage spill (origin.supplied.map Handed.body) custody.assembler := by
  have built := startAssembler begun
  cases origin with
  | frames =>
    rw [← Except.ok.inj built]
    exact .bare rfl (by simp) (.absent rfl)
  | withMethod method header body => exact Assembler.storageStart built

theorem storageReached {origin : Origin} {spill : SpillOptions} {directory : Directory} {custody : Custody}
    (begun : origin.start spill directory = .ok custody) (acts : List Custody.Act) :
    Assembler.Storage spill (origin.supplied.map Handed.body) (custody.run acts).2.assembler :=
  Custody.runKeeps (P := fun custody => Assembler.Storage spill (origin.supplied.map Handed.body) custody.assembler)
    Custody.storageAct (storageBegun begun) acts

end Origin

end AmqpClient
