import AmqpClient.Frame.Intake
import AmqpClient.Method.Wire
import AmqpClient.Negotiation
import AmqpClient.Outlet

/-! How a connection opens: a protocol header, then start, tune and open, each answered in turn. What the
server sends after its last answer is not touched. -/
namespace AmqpClient

structure Handshake where
  intake : Intake := {}
  stream : Stream
  sink : Sink

namespace Handshake

def write (bytes : Bytes) (self : Handshake) : Except Error Unit × Handshake :=
  match self.sink.push bytes with
  | (none, _, sink) => (.ok (), { self with sink })
  | (some fault, _, sink) => (.error (.io fault), { self with sink })

def send (method : Method) (self : Handshake) : Except Error Unit × Handshake :=
  match method.frame 0 with
  | .error e => (.error e, self)
  | .ok frame => self.write frame.encode

def sendAll : List Method → Handshake → Except Error Unit × Handshake
  | [], self => (.ok (), self)
  | method :: rest, self =>
    match self.send method with
    | (.error e, self) => (.error e, self)
    | (.ok (), self) => self.sendAll rest

def methodOf (frame : Frame) : Except Error Method :=
  if frame.kind = .method ∧ frame.channel = 0 then do
    let method ← frame.method
    if method.hasContent then .error .frameUnexpected else .ok method
  else .error .frameUnexpected

def heed (method : Method) (self : Handshake) : Except Error Method × Handshake :=
  match method with
  | ⟨.connectionClose, (code, text, _, _, ())⟩ =>
    (.error (.serverClosedConnection code text), (self.send ⟨.connectionCloseOk, ()⟩).2)
  | method => (.ok method, self)

def receiveWithin : (fuel : Nat) → Handshake → Except Error Method × Handshake
  | 0, self => (.error .unexpectedSocketClose, self)
  | fuel + 1, self =>
    match self.intake.nextFrame self.stream with
    | (.error e, intake, stream) => (.error e, { self with intake, stream })
    | (.ok frame, intake, stream) =>
      let self := { self with intake, stream }
      if frame.kind = .heartbeat then receiveWithin fuel self
      else match methodOf frame with
        | .error e => (.error e, self)
        | .ok method => self.heed method

/- The next method from the server. Heartbeats are passed over; each takes at least one byte. -/
def receive (self : Handshake) : Except Error Method × Handshake :=
  receiveWithin (self.intake.pending.length + Stream.weight self.stream + 1) self

def start (options : ConnectionOptions) (self : Handshake) : Except Error FieldTable × Handshake :=
  match self.receive with
  | (.error e, self) => (.error e, self)
  | (.ok ⟨.connectionStart, (_, _, properties, mechanisms, locales, ())⟩, self) =>
    match options.startOk mechanisms locales with
    | .error e => (.error e, self)
    | .ok startOk =>
      match self.send startOk with
      | (.error e, self) => (.error e, self)
      | (.ok (), self) => (.ok properties, self)
  | (.ok _, self) => (.error .frameUnexpected, self)

def tune (options : ConnectionOptions) (self : Handshake) : Except Error Limits × Handshake :=
  match self.receive with
  | (.error e, self) => (.error e, self)
  | (.ok ⟨.connectionSecure, _⟩, self) => (.error .saslSecureNotSupported, self)
  | (.ok ⟨.connectionTune, (channelMax, frameMax, heartbeat, ())⟩, self) =>
    match options.tune ⟨channelMax, frameMax, heartbeat⟩ with
    | .error e => (.error e, self)
    | .ok limits =>
      match self.sendAll [limits.method, options.openMethod] with
      | (.error e, self) => (.error e, self)
      | (.ok (), self) => (.ok limits, self)
  | (.ok _, self) => (.error .frameUnexpected, self)

def consent (self : Handshake) : Except Error Unit × Handshake :=
  match self.receive with
  | (.error e, self) => (.error e, self)
  | (.ok ⟨.connectionOpenOk, _⟩, self) => (.ok (), self)
  | (.ok _, self) => (.error .frameUnexpected, self)

def run (options : ConnectionOptions) (self : Handshake) :
    Except Error (Limits × FieldTable) × Handshake :=
  match self.write Frame.protocolHeader with
  | (.error e, self) => (.error e, self)
  | (.ok (), self) =>
    match self.start options with
    | (.error e, self) => (.error e, self)
    | (.ok properties, self) =>
      match self.tune options with
      | (.error e, self) => (.error e, self)
      | (.ok limits, self) =>
        match self.consent with
        | (.error e, self) => (.error e, self)
        | (.ok (), self) => (.ok (limits, properties), self)

end Handshake

end AmqpClient
