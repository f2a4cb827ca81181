import AmqpClient.Command.Assembler
import AmqpClient.Content.Directory

/-! An assembler at work in its directory. Frames are handled in place, one assignment after another, and
whoever refuses a frame leaves behind what was assigned until then. Every body is in one hand, the assembler's
or that of whoever took it, and its file goes with it: when it is replaced, read to its end or dropped. A header
that asks for more room than memory can have makes the assembler panic, for good. -/
namespace AmqpClient

structure Custody where
  assembler : Assembler
  file : Option FileName := none
  handed : List Handed := []
  directory : Directory := .empty
  -- the lock of the assembler, once somebody has panicked under it
  poisoned : Bool := false

inductive Failure
  | refused (reason : Error)
  | panicked
  deriving DecidableEq, Repr

/- A failure keeps what was done before it. -/
abbrev Handling := ExceptT Failure (StateM Custody)

namespace Handling

def run (handling : Handling α) (custody : Custody) : Except Failure α × Custody :=
  StateT.run (ExceptT.run handling) custody

def refuse (reason : Error) : Handling α := throw (.refused reason)

def ofExcept : Except Error α → Handling α
  | .ok value => pure value
  | .error e => refuse e

def update (change : Assembler → Assembler) : Handling Unit :=
  modify fun custody => { custody with assembler := change custody.assembler }

def expect (expected : FrameKind) (frame : Frame) : Handling Unit :=
  if frame.kind = expected then pure () else refuse (.unexpectedFrame expected frame.kind)

def allocate (size : UInt64) : Handling (BodySlot × Option FileName) := do
  let custody ← get
  if custody.assembler.spill.spills size then
    let buffer ← ofExcept custody.assembler.spill.create
    set { custody with directory := custody.directory.create }
    return (.spilling buffer, some custody.directory.newName)
  else if Bytes.longest < size.toNat then throw .panicked
  else return (.memory [], none)

def replaceBody (body : BodySlot) (file : Option FileName) : Handling Unit :=
  modify fun custody =>
    { custody with
      assembler := { custody.assembler with body }
      file
      directory := custody.directory.letGo custody.file }

def acceptHeader (header : ContentHeader) : Handling Unit := do
  if header.bodySize = 0 then
    update fun assembler => { assembler with state := .complete }
  else
    let (body, file) ← allocate header.bodySize
    replaceBody body file
    update fun assembler => { assembler with state := .expectingContentBody }
  update fun assembler => { assembler with remaining := header.bodySize }
  update fun assembler => { assembler with header := some header }

def appendBody (payload : Bytes) : Handling Unit := do
  let assembler := (← get).assembler
  if assembler.remaining.toNat < payload.length then
    let size := (assembler.header.map ContentHeader.bodySize).getD 0
    refuse (.bodyOverflow size (size - assembler.remaining + UInt64.ofNat payload.length))
  match assembler.body with
  | .memory bytes => update fun assembler => { assembler with body := .memory (bytes ++ payload) }
  | .spilling buffer => update fun assembler => { assembler with body := .spilling (buffer.append payload) }
  | _ => refuse .internalSerializationError
  let left := assembler.remaining - UInt64.ofNat payload.length
  update fun assembler => { assembler with remaining := left }
  if left = 0 then update fun assembler => { assembler with state := .complete }

def handle (frame : Frame) : Handling Bool := do
  match (← get).assembler.state with
  | .expectingMethod =>
    expect .method frame
    let method ← ofExcept frame.method
    update fun assembler =>
      { assembler with state := if method.hasContent then .expectingContentHeader else .complete }
    update fun assembler => { assembler with method := some method }
  | .expectingContentHeader =>
    expect .header frame
    let header ← ofExcept frame.contentHeader
    acceptHeader header
  | .expectingContentBody =>
    expect .body frame
    appendBody frame.payload
  | .complete => refuse (.frameAfterComplete frame.kind)
  return (← get).assembler.isComplete

def handOver (body : ContentBody) (file : Option FileName) : Handling ContentBody := do
  modify fun custody => { custody with handed := custody.handed ++ [⟨body, file⟩] }
  return body

def takeFile : Handling (Option FileName) := do
  let custody ← get
  set { custody with file := none }
  return custody.file

def take : Handling ContentBody := do
  let assembler := (← get).assembler
  if assembler.state = .expectingContentBody then refuse .incompleteCommand
  update fun assembler => { assembler with body := .taken }
  match assembler.body with
  | .absent => handOver .empty none
  | .memory bytes => handOver (.ofBytes bytes) none
  | .spilling buffer => handOver (.ofSpill buffer.reader) (← takeFile)
  | .supplied body => handOver body (← takeFile)
  | .taken => refuse .bodyAlreadyTaken

/- A panic under the lock poisons it, and every call that needs the lock panics from then on. -/
def locked (handling : Handling α) (custody : Custody) : Except Failure α × Custody :=
  if custody.poisoned then (.error .panicked, custody)
  else
    match handling.run custody with
    | (.error .panicked, custody) => (.error .panicked, { custody with poisoned := true })
    | outcome => outcome

def settle : Except Failure Unit × Custody → Except Failure Custody
  | (.ok (), custody) => .ok custody
  | (.error failure, _) => .error failure

end Handling

namespace Custody

def feed (custody : Custody) (frame : Frame) : Except Failure Bool × Custody :=
  (Handling.handle frame).locked custody

def take (custody : Custody) : Except Failure ContentBody × Custody := Handling.take.locked custody

def read (custody : Custody) (index room : Nat) : Option (Except IoFault Bytes) × Custody :=
  match custody.handed[index]? with
  | none => (none, custody)
  | some handed =>
    let (result, body) := handed.body.read room
    (some result, { custody with handed := custody.handed.set index { handed with body } })

def drop (custody : Custody) (index : Nat) : Custody :=
  match custody.handed[index]? with
  | none => custody
  | some handed =>
    { custody with
      handed := custody.handed.eraseIdx index
      directory := custody.directory.letGo handed.file }

def drain (custody : Custody) (index : Nat) : Option (Except Error Bytes) × Custody :=
  (custody.handed[index]?.map fun handed => handed.body.remainder, custody.drop index)

def abandon (custody : Custody) : Directory :=
  custody.handed.foldl (fun directory handed => directory.letGo handed.file)
    (custody.directory.letGo custody.file)

end Custody

/- How an assembler is made: for frames from the first one on, or for a command that is there in part. -/
inductive Origin
  | frames
  | withMethod (method : Method) (header : Option ContentHeader) (body : Option Handed)

namespace Origin

def supplied : Origin → Option Handed
  | frames => none
  | withMethod _ _ body => body

def start (origin : Origin) (spill : SpillOptions) (directory : Directory) : Except Failure Custody :=
  match origin with
  | frames => .ok { assembler := { spill }, directory }
  | withMethod method header body =>
    let known : Custody :=
      { assembler := { state := .complete, method := some method, spill }, directory }
    match header, body with
    | none, body =>
      let state := if method.hasContent then .expectingContentHeader else .complete
      let slot := (body.map fun handed => BodySlot.supplied handed.body).getD .absent
      .ok { known with assembler := { known.assembler with state, body := slot }, file := body.bind Handed.file }
    | some header, some handed =>
      let assembler := { known.assembler with header := some header, body := .supplied handed.body }
      .ok { known with assembler, file := handed.file }
    | some header, none => Handling.settle ((Handling.acceptHeader header).run known)

end Origin

end AmqpClient
