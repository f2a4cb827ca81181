import AmqpClient.Content.Header
import AmqpClient.Content.Body

/-! Commands and their assembly. A command is a method; a method with content is followed by a content
header and, if that declares any bytes, by body frames that carry exactly so many. An assembler takes
one frame at a time and hands its body out once. -/
namespace AmqpClient

inductive AssemblyState
  | expectingMethod
  | expectingContentHeader
  | expectingContentBody
  | complete
  deriving DecidableEq, Repr

namespace AssemblyState

def name : AssemblyState → String
  | expectingMethod => "ExpectingMethod"
  | expectingContentHeader => "ExpectingContentHeader"
  | expectingContentBody => "ExpectingContentBody"
  | complete => "Complete"

end AssemblyState

inductive BodySlot
  | absent
  | memory (bytes : Bytes)
  | spilling (buffer : SpillBuffer)
  | supplied (body : ContentBody)
  | taken

structure Assembler where
  state : AssemblyState := .expectingMethod
  method : Option Method := none
  header : Option ContentHeader := none
  remaining : UInt64 := 0
  body : BodySlot := .absent
  spill : SpillOptions := {}

namespace Assembler

def isComplete (assembler : Assembler) : Bool := assembler.state == .complete

def holdsFile (assembler : Assembler) : Bool :=
  match assembler.body with
  | .spilling _ => true
  | .supplied body => body.isSpilled
  | _ => false

/- Where memory has room for the body if it belongs there. `Custody` says what comes of a header that asks for more. -/
def acceptHeader (assembler : Assembler) (header : ContentHeader) : Except Error Assembler :=
  let known := { assembler with remaining := header.bodySize, header := some header }
  if header.bodySize = 0 then .ok { known with state := .complete }
  else if assembler.spill.spills header.bodySize then do
    let buffer ← assembler.spill.create
    .ok { known with state := .expectingContentBody, body := .spilling buffer }
  else .ok { known with state := .expectingContentBody, body := .memory [] }

def appendBody (assembler : Assembler) (payload : Bytes) : Except Error Assembler :=
  if assembler.remaining.toNat < payload.length then
    let size := (assembler.header.map ContentHeader.bodySize).getD 0
    .error (.bodyOverflow size (size - assembler.remaining + UInt64.ofNat payload.length))
  else
    let left := assembler.remaining - UInt64.ofNat payload.length
    let state := if left = 0 then .complete else assembler.state
    match assembler.body with
    | .memory bytes =>
      .ok { assembler with body := .memory (bytes ++ payload), remaining := left, state }
    | .spilling buffer =>
      .ok { assembler with body := .spilling (buffer.append payload), remaining := left, state }
    | _ => .error .internalSerializationError

def accept (assembler : Assembler) (frame : Frame) : Except Error Assembler :=
  match assembler.state with
  | .expectingMethod =>
    if frame.kind ≠ .method then .error (.unexpectedFrame .method frame.kind)
    else do
      let method ← frame.method
      let state := if method.hasContent then .expectingContentHeader else .complete
      .ok { assembler with state, method := some method }
  | .expectingContentHeader =>
    if frame.kind ≠ .header then .error (.unexpectedFrame .header frame.kind)
    else do
      let header ← frame.contentHeader
      assembler.acceptHeader header
  | .expectingContentBody =>
    if frame.kind ≠ .body then .error (.unexpectedFrame .body frame.kind)
    else assembler.appendBody frame.payload
  | .complete => .error (.frameAfterComplete frame.kind)

def feed (assembler : Assembler) (frame : Frame) : Except Error Bool × Assembler :=
  match assembler.accept frame with
  | .ok next => (.ok next.isComplete, next)
  | .error e => (.error e, assembler)

def takeBody (assembler : Assembler) : Except Error ContentBody × Assembler :=
  if assembler.state = .expectingContentBody then (.error .incompleteCommand, assembler)
  else
    let emptied := { assembler with body := .taken }
    match assembler.body with
    | .absent => (.ok ContentBody.empty, emptied)
    | .memory bytes => (.ok (ContentBody.ofBytes bytes), emptied)
    | .spilling buffer => (.ok (ContentBody.ofSpill buffer.reader), emptied)
    | .supplied body => (.ok body, emptied)
    | .taken => (.error .bodyAlreadyTaken, emptied)

/- An assembler that has its method, and possibly its header and body, from the start. A header without a
body makes it wait for as many bytes as the header declares. -/
def ofMethod (method : Method) (header : Option ContentHeader) (body : Option ContentBody)
    (spill : SpillOptions) : Except Error Assembler :=
  let known : Assembler := { state := .complete, method := some method, spill }
  match header, body with
  | none, body =>
    let state := if method.hasContent then .expectingContentHeader else .complete
    .ok { known with state, body := (body.map BodySlot.supplied).getD .absent }
  | some header, some body => .ok { known with header := some header, body := .supplied body }
  | some header, none => known.acceptHeader header

def acceptAll (assembler : Assembler) : List Frame → Except Error Assembler
  | [] => .ok assembler
  | frame :: rest => do
    let assembler ← assembler.accept frame
    assembler.acceptAll rest

end Assembler

namespace Command

def ofMethod (method : Method) : Except Error Assembler := Assembler.ofMethod method none none {}

def withBody (method : Method) (properties : Properties) (body : ContentBody) :
    Except Error Assembler :=
  Assembler.ofMethod method (some (ContentHeader.basic body.length properties)) (some body) {}

end Command

end AmqpClient
