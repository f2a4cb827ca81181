import AmqpClient.Connection.Call
import AmqpClient.Connection.Handshake
import AmqpClient.Connection.Inbound
import AmqpClient.Channel.Mail

/-! A connection in use. Its application holds the connection and channels by names of its own; a reader
takes in what the server sends; listeners may let go of a channel, or of the connection, while they are
called.

A call sends first, then the reader works until the call has its reply, then the call ends; the reader goes
on with what is left after that. What listeners do happens where they are called: on the reader's side nobody may wait for the server, on the
application's side one may. -/
namespace AmqpClient

inductive ListenerAction
  | nothing
  | fail
  | dropChannel (name : String)
  | dropConnection
  deriving DecidableEq, Repr

structure ActingListener (α : Type) where
  label : α
  action : ListenerAction := .nothing
  deriving DecidableEq, Repr

inductive Side
  | application
  | reader
  deriving DecidableEq, Repr

structure LiveConnection (α : Type) where
  core : Connection (ActingListener α)
  inbound : Inbound := {}
  answers : List Inbound := []
  held : Bool := true
  channels : List (String × SlotId) := []
  busy : List SlotId := []
  leaving : List SlotId := []
  mail : Mail := {}
  heard : List (α × ChannelEvent) := []

namespace LiveConnection

variable {α : Type}

abbrev Acting (α : Type) := Side → ListenerAction → LiveConnection α → LiveConnection α

def channel? (self : LiveConnection α) (name : String) : Option SlotId :=
  (self.channels.find? fun entry => entry.1 == name).map Prod.snd

def forget (name : String) (self : LiveConnection α) : LiveConnection α :=
  { self with channels := self.channels.filter fun entry => entry.1 != name }

def hear (label : α) (event : ChannelEvent) (self : LiveConnection α) : LiveConnection α :=
  { self with heard := self.heard ++ [(label, event)] }

/- Goes on with a changed core: messages reach their receivers, and once a command has gone out, the
server's answer comes in. -/
def adopt (core : Connection (ActingListener α)) (self : LiveConnection α) : LiveConnection α :=
  let count := core.sent - self.core.sent
  { self with
    core := { core with effects := { notices := core.effects.notices } }
    mail := core.effects.messages.foldl (fun mail entry => (mail.send entry.1 entry.2).2) self.mail
    inbound := (self.answers.take count).foldl Inbound.append self.inbound
    answers := self.answers.drop count }

def announce (act : Acting α) (side : Side) (self : LiveConnection α) : LiveConnection α :=
  self.core.effects.notices.foldl
    (fun self notice => act side notice.1.action (self.hear notice.1.label notice.2))
    { self with core := { self.core with effects := {} } }

def proceed (act : Acting α) (side : Side) (core : Connection (ActingListener α))
    (self : LiveConnection α) : LiveConnection α :=
  (self.adopt core).announce act side

def readWithin (enough : LiveConnection α → Bool) (act : Acting α) :
    (fuel : Nat) → LiveConnection α → LiveConnection α
  | 0, self => self
  | fuel + 1, self =>
    if enough self then self
    else match self.core.step? self.inbound with
      | none => self
      | some (core, inbound) =>
        readWithin enough act fuel ({ self with inbound }.proceed act .reader core)

def readUntil (enough : LiveConnection α → Bool) (act : Acting α) (self : LiveConnection α) :
    LiveConnection α :=
  readWithin enough act
    (self.answers.foldl (fun bound answer => bound + 2 * answer.weight)
      (self.core.stepBound self.inbound)) self

def read (act : Acting α) (self : LiveConnection α) : LiveConnection α :=
  self.readUntil (fun _ => false) act

def replied (id : SlotId) (self : LiveConnection α) : Bool :=
  ((self.core.slot? id).map fun slot => !slot.replies.isEmpty).getD true

def call (act : Acting α) (id : SlotId) (request : Request) (self : LiveConnection α) :
    Except Error Reply × LiveConnection α :=
  match self.core.issue id request with
  | (some result, core) => (result, self.proceed act .application core)
  | (none, core) =>
    let answered := (self.proceed act .application core).readUntil (replied id) act
    let (result, core) := answered.core.conclude id request
    (result, answered.proceed act .application core)

def closesOnDrop (self : LiveConnection α) (id : SlotId) : Bool :=
  self.core.isOpen && ((self.core.slot? id).map Slot.isOpen).getD false

def release (act : Acting α) (side : Side) (id : SlotId) (self : LiveConnection α) : LiveConnection α :=
  let closed :=
    if self.closesOnDrop id then
      match side with
      | .reader => self.proceed act .reader (self.core.closeWithoutWaiting id)
      | .application => (self.call act id .close).2
    else self
  { closed with core := closed.core.changeQuietly id Slot.drop }

def dropChannel (act : Acting α) (side : Side) (name : String) (self : LiveConnection α) :
    Bool × LiveConnection α :=
  match self.channel? name with
  | none => (false, self)
  | some id =>
    let self := self.forget name
    if self.busy.contains id then (true, { self with leaving := id :: self.leaving })
    else (true, self.release act side id)

def close (act : Acting α) (side : Side) (self : LiveConnection α) :
    Option (Except Error Unit) × LiveConnection α :=
  if self.held then
    let asked := { self with held := false }.proceed act side self.core.issueClose
    match side with
    | .reader => (some (.ok ()), asked)
    | .application =>
      let ended := asked.read act
      (some ended.core.closeResult, ended)
  else (none, self)

def actWithin : (depth : Nat) → Acting α
  | 0, _, _, self => self
  | depth + 1, side, action, self =>
    match action with
    | .nothing => self
    | .fail => self
    | .dropChannel name => (self.dropChannel (actWithin depth) side name).2
    | .dropConnection => (self.close (actWithin depth) side).2

/- What listeners do. Whatever nests lets go of a channel or of the connection, which bounds the depth. -/
def acting (self : LiveConnection α) : Acting α := actWithin (self.channels.length + 1)

/-! What an application does -/

def rest (self : LiveConnection α) : LiveConnection α := { self.read self.acting with answers := [] }

def inject (more : Inbound) (self : LiveConnection α) : LiveConnection α :=
  { self with inbound := self.inbound.append more }

def changeMail (change : Mail → Mail) (self : LiveConnection α) : LiveConnection α :=
  { self with mail := change self.mail }

def breakWrites (fault : Option IoFault) (self : LiveConnection α) : LiveConnection α :=
  let outlet := self.core.transmitter.outlet
  let sink :=
    match fault with
    | some fault => { outlet.sink with room := some 0, fault }
    | none => { outlet.sink with room := none }
  { self with
    core := { self.core with
      transmitter := { self.core.transmitter with outlet := { outlet with sink } } } }

def takeWritten (self : LiveConnection α) : Bytes × LiveConnection α :=
  let (bytes, transmitter) := self.core.transmitter.takeAccepted
  (bytes, { self with core := { self.core with transmitter } })

def claim (act : Acting α) (asked : Option UInt16) (self : LiveConnection α) :
    Except Error (UInt16 × SlotId) × LiveConnection α :=
  match self.core.issueOpen asked with
  | (.error e, core) => (.error e, self.proceed act .application core)
  | (.ok (number, id), core) =>
    let answered := (self.proceed act .application core).readUntil (replied id) act
    match answered.core.concludeOpen id with
    | (.error e, core) => (.error e, answered.proceed act .application core)
    | (.ok (), core) => (.ok (number, id), answered.proceed act .application core)

def openChannel (name : String) (asked : Option UInt16) (self : LiveConnection α) :
    Option (Except Error UInt16) × LiveConnection α :=
  if !self.held then (none, self)
  else
    let act := self.acting
    match self.claim act asked with
    | (.error e, self) => (some (.error e), self)
    | (.ok (number, id), self) =>
      let named := self.forget name
      let kept := { named with channels := named.channels ++ [(name, id)] }
      match self.channel? name with
      | some old => (some (.ok number), kept.release act .application old)
      | none => (some (.ok number), kept)

def unbusy (act : Acting α) (id : SlotId) (self : LiveConnection α) : LiveConnection α :=
  let free := { self with busy := self.busy.erase id }
  if free.leaving.contains id then
    { free with leaving := free.leaving.erase id }.release act .application id
  else free

def callNamed (name : String) (request : Request) (self : LiveConnection α) :
    Option (Except Error Reply) × LiveConnection α :=
  match self.channel? name with
  | none => (none, self)
  | some id =>
    let act := self.acting
    let (result, called) := { self with busy := id :: self.busy }.call act id request
    (some result, called.unbusy act id)

def listen (id : SlotId) (kind : EventKind) (listener : ActingListener α) (self : LiveConnection α) :
    Option ListenerId × LiveConnection α :=
  match self.core.slot? id with
  | none => (none, self)
  | some slot =>
    let (added, listeners) := slot.listeners.add kind listener
    (some added, { self with core := self.core.setSlot id { slot with listeners } })

def addListener (name : String) (kind : EventKind) (listener : ActingListener α)
    (self : LiveConnection α) : Option ListenerId × LiveConnection α :=
  match self.channel? name with
  | none => (none, self)
  | some id => self.listen id kind listener

def removeListener (name : String) (kind : EventKind) (listener : ListenerId)
    (self : LiveConnection α) : Option Bool × LiveConnection α :=
  match (self.channel? name).bind fun id => (self.core.slot? id).map fun slot => (id, slot) with
  | none => (none, self)
  | some (id, slot) =>
    let (found, listeners) := slot.listeners.remove kind listener
    (some found, { self with core := self.core.setSlot id { slot with listeners } })

def channelStates (self : LiveConnection α) : List (String × Bool) :=
  self.channels.map fun (name, id) => (name, ((self.core.slot? id).map Slot.isOpen).getD false)

def readTimeout (limits : Limits) : Option Nat :=
  if limits.heartbeat = 0 then none else some (limits.heartbeat.toNat * 1000)

def start (options : ConnectionOptions) (inbound : Inbound) (sink : Sink) :
    Except Error (Limits × FieldTable × LiveConnection α) × Bytes :=
  match Handshake.run options { stream := inbound.patient, sink } with
  | (.error e, shake) => (.error e, shake.sink.accepted.toList)
  | (.ok (limits, properties), shake) =>
    let core : Connection (ActingListener α) :=
      { transmitter := { frameMax := limits.frameMax, outlet := { sink := { shake.sink with accepted := #[] } } }
        ids := { max := limits.channelMax }
        spill := options.spill
        intake := shake.intake }
    (.ok (limits, properties, { core, inbound := inbound.leaving shake.stream }),
      shake.sink.accepted.toList)

end LiveConnection

end AmqpClient
