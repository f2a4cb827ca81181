import AmqpClient.Command.Assembler
import AmqpClient.Outlet

/-! Commands on their way out: a method frame, and for a method with content a header frame and as many
body frames as keep every frame within the limit. `write` puts the frames wherever its caller says, so
that the same definition serves a connection and plain memory. -/
namespace AmqpClient

namespace Command

def chunkSize (frameMax : UInt32) (bodyLength : UInt64) : Except Error Nat :=
  if frameMax = 0 then .ok bodyLength.toNat
  else if frameMax.toNat ≤ Frame.overhead then
    .error (.frameMaxTooSmall (UInt32.ofNat (Frame.overhead + 1)) frameMax)
  else .ok (frameMax.toNat - Frame.overhead)

def writeBody (put : σ → Frame → Except IoFault Unit × σ) (channel : UInt16) (total : UInt64)
    (chunk : Nat) : (left : Nat) → (written frames : Nat) → ContentBody → σ → Except Error Nat × σ
  | 0, _, frames, _, s => (.ok frames, s)
  | left + 1, written, frames, body, s =>
    if total.toNat ≤ written then (.ok frames, s)
    else
      let want := min chunk (total.toNat - written)
      match body.fill want with
      | (.error fault, _) => (.error (.io fault), s)
      | (.ok bytes, body) =>
        if bytes.length < want then
          (.error (.bodyTooShort total (UInt64.ofNat (written + bytes.length))), s)
        else
          match put s (Frame.body channel bytes) with
          | (.error fault, s) => (.error (.io fault), s)
          | (.ok (), s) => writeBody put channel total chunk left (written + want) (frames + 1) body s

structure Written (σ : Type) where
  result : Except Error Nat
  command : Assembler
  state : σ

def writeContent (put : σ → Frame → Except IoFault Unit × σ) (s : σ) (header : ContentHeader)
    (body : ContentBody) (channel : UInt16) (frameMax : UInt32) : Except Error Nat × σ :=
  match { header with bodySize := body.length }.frame channel with
  | .error e => (.error e, s)
  | .ok frame =>
    match put s frame with
    | (.error fault, s) => (.error (.io fault), s)
    | (.ok (), s) =>
      match chunkSize frameMax body.length with
      | .error e => (.error e, s)
      | .ok chunk => writeBody put channel body.length chunk body.length.toNat 0 0 body s

def write (put : σ → Frame → Except IoFault Unit × σ) (s : σ) (command : Assembler)
    (channel : UInt16) (frameMax : UInt32) : Written σ :=
  match command.method with
  | none => ⟨.error .incompleteCommand, command, s⟩
  | some method =>
    match method.frame channel with
    | .error e => ⟨.error e, command, s⟩
    | .ok frame =>
      match put s frame with
      | (.error fault, s) => ⟨.error (.io fault), command, s⟩
      | (.ok (), s) =>
        if method.hasContent then
          match command.header with
          | none => ⟨.error .incompleteCommand, command, s⟩
          | some header =>
            match command.takeBody with
            | (.error e, command) => ⟨.error e, command, s⟩
            | (.ok body, command) =>
              let (result, s) := writeContent put s header body channel frameMax
              ⟨result, command, s⟩
        else ⟨.ok 0, command, s⟩

def collect (frames : List Frame) (frame : Frame) : Except IoFault Unit × List Frame :=
  (.ok (), frames ++ [frame])

end Command

structure Transmitter where
  frameMax : UInt32 := 0
  outlet : Outlet := {}

namespace Transmitter

def flush (transmitter : Transmitter) : Except Error Unit × Transmitter :=
  match transmitter.outlet.flush with
  | (.ok (), outlet) => (.ok (), { transmitter with outlet })
  | (.error fault, outlet) => (.error (.io fault), { transmitter with outlet })

def takeAccepted (transmitter : Transmitter) : Bytes × Transmitter :=
  let (bytes, outlet) := transmitter.outlet.takeAccepted
  (bytes, { transmitter with outlet })

/- Writes a command and puts it out. What a failed command has written stays in the outlet. -/
def transmit (transmitter : Transmitter) (command : Assembler) (channel : UInt16) :
    Except Error Unit × Assembler × Transmitter :=
  let written := Command.write Outlet.writeFrame transmitter.outlet command channel transmitter.frameMax
  let transmitter := { transmitter with outlet := written.state }
  match written.result with
  | .error e => (.error e, written.command, transmitter)
  | .ok _ =>
    let (result, transmitter) := transmitter.flush
    (result, written.command, transmitter)

def heartbeat (transmitter : Transmitter) : Except Error Unit × Transmitter :=
  match transmitter.outlet.writeFrame Frame.heartbeat with
  | (.error fault, outlet) => (.error (.io fault), { transmitter with outlet })
  | (.ok (), outlet) => { transmitter with outlet }.flush

end Transmitter

end AmqpClient
