import AmqpClient.Recovery.Replay
import AmqpClient.Channel.Listeners

/-! Channels that survive the loss of their connection. Every call goes to a delegate channel. When the
connection is lost, a channel with the same number is opened on a new connection and takes the delegate's
place, and what the record holds is replayed on it. Listeners stay registered throughout, and hear only
of what happens to the present delegate.

The connections are whatever a `Link` reaches in the state `ω`: `η` are the channels on them and `κ` the
connections themselves. -/
namespace AmqpClient

abbrev Generation := Nat

structure Listener where
  label : String
  silent : Bool := false
  fails : Bool := false
  deriving DecidableEq, Repr

inductive Notice
  | channel (event : ChannelEvent)
  | recoveryStarted (channel : UInt16)
  | recoveryCompleted (channel : UInt16)
  | recoveryFailed (channel : UInt16) (cause : Error)

structure Link (ω η κ : Type) where
  connect : ω → Except Error κ × ω
  openChannel : κ → Option UInt16 → ω → Except Error (UInt16 × η) × ω
  attach : η → Generation → ω → ω
  request : η → Request → ω → Except Error Reply × ω
  dropChannel : η → ω → ω
  dropConnection : κ → ω → ω
  tell : ReceiverId → ConsumerMessage → ω → ω
  hear : Listener → Notice → ω → Except String Unit × ω
  raised : ω → List (Generation × ChannelEvent) × ω

structure RecoveryOptions where
  automatic : Bool := true
  topology : Bool := true
  deriving DecidableEq, Repr

inductive RecoveryStatus
  | open
  | recovering
  | closed
  deriving DecidableEq, Repr

namespace RecoveryStatus

def name : RecoveryStatus → String
  | .open => "Open"
  | .recovering => "Recovering"
  | .closed => "Closed"

end RecoveryStatus

structure RecoveringChannel (ω η κ : Type) where
  options : RecoveryOptions
  channel : UInt16
  delegate : η
  connection : κ
  generation : Generation
  record : ChannelRecord := {}
  status : RecoveryStatus := .open
  listeners : ChannelListeners Listener := {}
  recoveryListeners : Registry Listener := {}
  due : Bool := false
  world : ω

namespace RecoveringChannel

variable {ω η κ : Type} (link : Link ω η κ)

def isOpen (self : RecoveringChannel ω η κ) : Bool := self.status != .closed

def notify (view : RecoveringChannel ω η κ → Registry Listener) (notice : Notice)
    (self : RecoveringChannel ω η κ) : RecoveringChannel ω η κ :=
  Registry.notify view
    (fun self listener => { self with world := (link.hear listener notice self.world).2 }) self

def announce (event : ChannelEvent) (self : RecoveringChannel ω η κ) : RecoveringChannel ω η κ :=
  self.notify link (fun self => self.listeners.of event.kind) (.channel event)

def report (notice : Notice) (self : RecoveringChannel ω η κ) : RecoveringChannel ω η κ :=
  self.notify link recoveryListeners notice

def afterShutdown (signal : ShutdownSignal) (self : RecoveringChannel ω η κ) :
    RecoveringChannel ω η κ :=
  if self.status = .open then
    if !signal.isRecoverable then { self with status := .closed }
    else if self.options.automatic then { self with status := .recovering, due := true }
    else self
  else self

def handle (self : RecoveringChannel ω η κ) (raised : Generation × ChannelEvent) :
    RecoveringChannel ω η κ :=
  if raised.1 = self.generation then
    let told := self.announce link raised.2
    match raised.2 with
    | .shutdown signal => told.afterShutdown signal
    | _ => told
  else self

def attend (self : RecoveringChannel ω η κ) : RecoveringChannel ω η κ :=
  let (events, world) := link.raised self.world
  events.foldl (handle link) { self with world }

def act (step : ω → ω) (self : RecoveringChannel ω η κ) : RecoveringChannel ω η κ :=
  attend link { self with world := step self.world }

def ask (self : RecoveringChannel ω η κ) (request : Request) :
    Except Error Reply × RecoveringChannel ω η κ :=
  let (result, world) := link.request self.delegate request self.world
  (result, attend link { self with world })

def reopen (number : Option UInt16) (world : ω) : Except Error (κ × UInt16 × η) × ω :=
  match link.connect world with
  | (.error e, world) => (.error e, world)
  | (.ok connection, world) =>
    match link.openChannel connection number world with
    | (.error e, world) => (.error e, link.dropConnection connection world)
    | (.ok (number, channel), world) => (.ok (connection, number, channel), world)

def replaceDelegate (connection : κ) (delegate : η) (self : RecoveringChannel ω η κ) :
    RecoveringChannel ω η κ :=
  let generation := self.generation + 1
  let replaced :=
    { self with
      delegate, connection, generation, world := link.attach delegate generation self.world }
  (replaced.act link (link.dropChannel self.delegate)).act link (link.dropConnection self.connection)

def abandonConsumers (message : ConsumerMessage) (self : RecoveringChannel ω η κ) :
    RecoveringChannel ω η κ :=
  let (abandoned, record) := self.record.abandon
  abandoned.foldl (fun self consumer => self.act link (link.tell consumer.receiver message))
    { self with record }

def restore (self : RecoveringChannel ω η κ) : Except Error Unit × RecoveringChannel ω η κ :=
  match Replay.requests (ask link) self.record.modeRequests self with
  | (.error e, self) => (.error e, self)
  | (.ok (), self) =>
    if self.options.topology then
      let (result, record, self) := Replay.topology (ask link) self.record self
      (result, { self with record })
    else (.ok (), self.abandonConsumers link .serverCancelled)

def recoveryFailed (cause : Error) (self : RecoveringChannel ω η κ) :
    Except Error Unit × RecoveringChannel ω η κ :=
  (.error (.recoveryFailed self.channel cause),
    self.report link (.recoveryFailed self.channel cause))

/- One recovery of a channel whose status is `recovering`. If no new channel can be opened, the old delegate
stays and the channel is open again, whatever was raised meanwhile. If the replay fails, it is closed for good. -/
def runRecovery (self : RecoveringChannel ω η κ) : Except Error Unit × RecoveringChannel ω η κ :=
  let started := self.report link (.recoveryStarted self.channel)
  match reopen link (some self.channel) started.world with
  | (.error e, world) =>
    { attend link { started with world } with status := .open }.recoveryFailed link e
  | (.ok (connection, _, delegate), world) =>
    let attached := (attend link { started with world }).replaceDelegate link connection delegate
    match attached.restore link with
    | (.ok (), restored) =>
      let usable := { restored with status := .open }
      (.ok (), usable.report link (.recoveryCompleted self.channel))
    | (.error e, restored) =>
      let abandoned := restored.abandonConsumers link (.serverClosedConnection e)
      { abandoned with status := .closed }.recoveryFailed link e

def retry : (attempts : Nat) → RecoveringChannel ω η κ → RecoveringChannel ω η κ
  | 0, self => { self with status := .open }
  | attempts + 1, self =>
    match self.runRecovery link with
    | (.error _, failed) =>
      if failed.status = .open then retry attempts { failed with status := .recovering } else failed
    | (.ok (), recovered) => recovered

def settle (attempts : Nat) (self : RecoveringChannel ω η κ) : RecoveringChannel ω η κ :=
  if self.due then retry link attempts { self with due := false } else self

def start (options : RecoveryOptions) (number : Option UInt16) (world : ω) :
    Except Error (RecoveringChannel ω η κ) × ω :=
  match reopen link number world with
  | (.error e, world) => (.error e, world)
  | (.ok (connection, channel, delegate), world) =>
    let world := link.attach delegate 1 world
    (.ok { options, channel, delegate, connection, generation := 1, world }, world)

def close (self : RecoveringChannel ω η κ) : Except Error Reply × RecoveringChannel ω η κ :=
  { self with status := .closed, record := self.record.abandon.2 }.ask link .close

def call (self : RecoveringChannel ω η κ) (request : Request) :
    Except Error Reply × RecoveringChannel ω η κ :=
  match request.check with
  | .error e => (.error e, self)
  | .ok () =>
    if self.status = .closed then (.error (.channelClosed self.channel), self)
    else match request with
      | .close => self.close link
      | request =>
        let (result, after) := self.ask link (self.record.resolve request)
        (result, { after with record := after.record.note request result })

def recover (self : RecoveringChannel ω η κ) : Except Error Unit × RecoveringChannel ω η κ :=
  match self.status with
  | .closed => (.error (.channelClosed self.channel), self)
  | .recovering => (.ok (), self)
  | .open => { self with status := .recovering }.runRecovery link

def addListener (kind : EventKind) (listener : Listener) (self : RecoveringChannel ω η κ) :
    ListenerId × RecoveringChannel ω η κ :=
  let (id, listeners) := self.listeners.add kind listener
  (id, { self with listeners })

def removeListener (kind : EventKind) (id : ListenerId) (self : RecoveringChannel ω η κ) :
    Bool × RecoveringChannel ω η κ :=
  let (found, listeners) := self.listeners.remove kind id
  (found, { self with listeners })

def addRecoveryListener (listener : Listener) (self : RecoveringChannel ω η κ) :
    ListenerId × RecoveringChannel ω η κ :=
  let (id, recoveryListeners) := self.recoveryListeners.add listener
  (id, { self with recoveryListeners })

def removeRecoveryListener (id : ListenerId) (self : RecoveringChannel ω η κ) :
    Bool × RecoveringChannel ω η κ :=
  let (found, recoveryListeners) := self.recoveryListeners.remove id
  (found, { self with recoveryListeners })

end RecoveringChannel

end AmqpClient
