import AmqpClient.Proofs.Command.Storage
import Mathlib.Data.List.InsertIdx

/-! Assembly without files. `plain` forgets where bytes are kept, and with a directory that works every act on an
assembler and on the bodies that it has handed out comes to the same with and without it, as long as nobody
panics. Two thresholds therefore cannot be told apart by anything but where the bytes are, and who panics. -/
namespace AmqpClient

namespace ContentBody

def plain (body : ContentBody) : ContentBody :=
  match body.store with
  | .spilled reader => { body with store := .memory reader.rest }
  | _ => body

@[simp] theorem plainLength (body : ContentBody) : body.plain.length = body.length := by
  unfold plain
  split <;> rfl

theorem plainRead (body : ContentBody) (room : Nat) :
    body.plain.read room = ((body.read room).1, (body.read room).2.plain) := by
  obtain ⟨store, length⟩ := body
  cases store <;> rfl

theorem plainRemainder (body : ContentBody) : body.plain.remainder = body.remainder := by
  obtain ⟨store, length⟩ := body
  cases store with
  | spilled reader =>
    rw [remainderRest ⟨.spilled reader, length⟩ trivial trivial]
    exact remainderRest ⟨.memory reader.rest, length⟩ trivial trivial
  | memory | stream => rfl

end ContentBody

namespace SpillOptions

def inMemory : SpillOptions := { threshold := UInt64.ofNat (UInt64.size - 1) }

theorem inMemorySpills (size : UInt64) : inMemory.spills size = false := by
  have most : inMemory.threshold.toNat = UInt64.size - 1 := rfl
  have less := size.toNat_lt_size
  simp only [spills, decide_eq_false_iff_not, UInt64.lt_iff_toNat_lt, most]
  omega

end SpillOptions

def BodySlot.plain : BodySlot → BodySlot
  | .spilling buffer => .memory buffer.written
  | .supplied body => .supplied body.plain
  | slot => slot

def Handed.plain (handed : Handed) : Handed := { body := handed.body.plain }

namespace Assembler

def plain (assembler : Assembler) : Assembler := { assembler with body := assembler.body.plain, spill := .inMemory }

variable {assembler : Assembler}

theorem plainHeader (working : assembler.spill.directory = true) (header : ContentHeader) :
    assembler.plain.acceptHeader header = (assembler.acceptHeader header).map plain := by
  by_cases zero : header.bodySize = 0
  · rw [acceptHeaderEmpty _ zero, acceptHeaderEmpty _ zero]
    rfl
  · rw [acceptHeaderSized _ working zero, acceptHeaderSized _ rfl zero]
    simp only [plain, SpillOptions.keep, SpillOptions.inMemorySpills, Except.map]
    cases assembler.spill.spills header.bodySize <;> rfl

theorem plainAppend (payload : Bytes) :
    assembler.plain.appendBody payload = (assembler.appendBody payload).map plain := by
  by_cases overfull : assembler.remaining.toNat < payload.length
  · simp [appendBody, plain, overfull, Except.map]
  · cases held : assembler.body <;>
      simp [appendBody, plain, BodySlot.plain, SpillBuffer.append, overfull, held, Except.map]

theorem plainAccept (working : assembler.spill.directory = true) (frame : Frame) :
    assembler.plain.accept frame = (assembler.accept frame).map plain := by
  have state : assembler.plain.state = assembler.state := rfl
  cases waiting : assembler.state with
  | expectingMethod =>
    by_cases kind : frame.kind = .method
    · cases parsed : frame.method <;> simp [accept, waiting, kind, parsed, okBind, errorBind, plain, Except.map]
    · simp [accept, state, waiting, kind, Except.map]
  | expectingContentHeader =>
    by_cases kind : frame.kind = .header
    · cases parsed : frame.contentHeader with
      | error e => simp [accept, state, waiting, kind, parsed, errorBind, Except.map]
      | ok header => simp [accept, state, waiting, kind, parsed, okBind, plainHeader working]
    · simp [accept, state, waiting, kind, Except.map]
  | expectingContentBody =>
    by_cases kind : frame.kind = .body
    · simp [accept, state, waiting, kind, plainAppend]
    · simp [accept, state, waiting, kind, Except.map]
  | complete => simp [accept, state, waiting, Except.map]

theorem plainTake (assembler : Assembler) :
    assembler.plain.takeBody =
      (assembler.takeBody.1.map ContentBody.plain, assembler.takeBody.2.plain) := by
  by_cases collecting : assembler.state = .expectingContentBody
  · simp [takeBody, plain, collecting, Except.map]
  · cases held : assembler.body <;>
      simp [takeBody, plain, BodySlot.plain, collecting, held, Except.map] <;> rfl

end Assembler

namespace Custody

def plain (custody : Custody) : Custody where
  assembler := custody.assembler.plain
  handed := custody.handed.map Handed.plain
  poisoned := custody.poisoned

theorem plainRoomFor (custody : Custody) (next : Assembler) (size : UInt64) :
    custody.plain.roomFor next.plain size = (custody.roomFor next size).plain := by
  have memory : custody.plain.assembler.spill.spills size = false := SpillOptions.inMemorySpills size
  cases large : custody.assembler.spill.spills size <;> simp [roomFor, memory, large] <;> rfl

theorem plainOnward (custody : Custody) (next : Assembler) :
    custody.plain.onward next.plain = (custody.onward next).plain := by
  unfold onward
  split <;> rename_i collecting
  · rw [if_pos (by exact collecting)]
    exact plainRoomFor custody next next.remaining
  · rw [if_neg (by exact collecting)]
    rfl

theorem plainGiven (custody : Custody) (body : ContentBody) (next : Assembler) :
    custody.plain.given body.plain next.plain = (custody.given body next).plain := by
  cases held : custody.assembler.body <;> simp [given, plain, Assembler.plain, BodySlot.plain, Handed.plain, held]

theorem plainHeed {custody : Custody} (working : custody.assembler.spill.directory = true) (frame : Frame) :
    custody.plain.heed frame = ((custody.heed frame).1, (custody.heed frame).2.plain) := by
  have accepted : custody.plain.assembler.accept frame = (custody.assembler.accept frame).map Assembler.plain :=
    Assembler.plainAccept working frame
  unfold heed
  rw [accepted]
  cases custody.assembler.accept frame with
  | error e => rfl
  | ok next => exact Prod.ext rfl (plainOnward custody next)

theorem plainTaken (custody : Custody) :
    custody.plain.take = (custody.take.1.map ContentBody.plain, custody.take.2.plain) := by
  have taken : custody.plain.assembler.takeBody = _ := Assembler.plainTake custody.assembler
  have same : custody.plain.poisoned = custody.poisoned := rfl
  rw [takeOf, takeOf, taken, same]
  cases custody.poisoned with
  | true => rfl
  | false =>
    rcases custody.assembler.takeBody with ⟨e | body, next⟩
    · rfl
    · exact Prod.ext rfl (plainGiven custody body next)

theorem plainHanded (custody : Custody) (index : Nat) :
    custody.plain.handed[index]? = custody.handed[index]?.map Handed.plain := List.getElem?_map

theorem plainReading (custody : Custody) (index room : Nat) :
    custody.plain.read index room = ((custody.read index room).1, (custody.read index room).2.plain) := by
  unfold read
  rw [plainHanded]
  cases custody.handed[index]? with
  | none => rfl
  | some handed => simp [plain, Handed.plain, ContentBody.plainRead, List.map_set]

theorem plainDrop (custody : Custody) (index : Nat) : custody.plain.drop index = (custody.drop index).plain := by
  unfold drop
  rw [plainHanded]
  cases custody.handed[index]? with
  | none => rfl
  | some handed => simp [plain, Handed.plain, Directory.letGo, List.eraseIdx_map]

theorem plainDrain (custody : Custody) (index : Nat) :
    custody.plain.drain index = ((custody.drain index).1, (custody.drain index).2.plain) := by
  unfold drain
  rw [plainHanded, plainDrop, Option.map_map]
  refine Prod.ext ?_ rfl
  exact Option.map_congr fun handed _ => ContentBody.plainRemainder handed.body

theorem plainAct {move : Act} (unfed : ∀ frame, move ≠ .feed frame) (custody : Custody) :
    custody.plain.act move = ((custody.act move).1, (custody.act move).2.plain) := by
  cases move with
  | feed frame => exact absurd rfl (unfed frame)
  | take =>
    simp only [act, plainTaken]
    refine Prod.ext (congrArg Outcome.took ?_) rfl
    cases custody.take.1 <;> simp [Except.map, ContentBody.plainRemainder]
  | read index room => simp only [act, plainReading]
  | drain index => simp only [act, plainDrain]
  | drop index => simp only [act, plainDrop]

end Custody

namespace Origin

def plain : Origin → Origin
  | frames => frames
  | withMethod method header body => withMethod method header (body.map Handed.plain)

theorem plainAssembler (origin : Origin) {spill : SpillOptions} (working : spill.directory = true) :
    origin.plain.assembler .inMemory = (origin.assembler spill).map Assembler.plain := by
  cases origin with
  | frames => rfl
  | withMethod method header body =>
    cases header with
    | none => cases body <;> rfl
    | some header =>
      cases body with
      | some handed => rfl
      | none =>
        let known : Assembler := { state := .complete, method := some method, spill }
        have settings : known.spill.directory = true := working
        exact Assembler.plainHeader settings header

end Origin

end AmqpClient
