import AmqpClient.Recovery
import AmqpClient.Channel.Mail
import AmqpClient.Detail

/-! A server that acts by a script, to rehearse recoveries on. It refuses, fails and renames as it is
told, and keeps a log of all that is asked of it and of all that listeners hear. -/
namespace AmqpClient

structure Script where
  refuseConnect : Nat := 0
  refuseOpen : Nat := 0
  -- Requests that fail: those whose name and subject start with this, if it is not empty.
  fail : String := ""
  renameQueues : Bool := false
  renameTags : Bool := false
  count : UInt32 := 0
  message : Option Fetched := none

inductive LogLine
  | connectRefused
  | connected (connection : Nat)
  | openRefused (number : Option UInt16)
  | opened (number : Option UInt16)
  | connectionDropped (connection : Nat)
  | channelDropped (connection : Nat)
  | asked (request : Request)
  | published (exchange : String) (publish : Publish) (body : Bytes)
  | heard (label : String) (notice : Notice)

namespace Notice

def line (label : String) : Notice → List Detail
  | channel event => event.line label
  | recoveryStarted number => [.text "recovery_started", .text label, .number number.toNat]
  | recoveryCompleted number => [.text "recovery_completed", .text label, .number number.toNat]
  | recoveryFailed number cause =>
    [.text "recovery_failed", .text label, .number number.toNat, .error cause]

end Notice

namespace LogLine

def details : LogLine → List Detail
  | connectRefused => [.text "connect refused"]
  | connected connection => [.text "connect", .number connection]
  | openRefused number => [.text "open refused", .channel number]
  | opened number => [.text "open", .channel number]
  | connectionDropped connection => [.text "drop connection", .number connection]
  | channelDropped connection => [.text "drop channel", .number connection]
  | asked request => .text request.name :: request.details
  | published exchange publish body =>
    .text "basic.publish" :: .text exchange :: publish.details ++ [.bytes body]
  | heard label notice => notice.line label

end LogLine

structure RehearsedChannel where
  number : UInt16
  connection : Nat
  closed : Bool := false
  dead : Bool := false
  handlers : List (String × ReceiverId) := []
  generation : Option Generation := none

namespace RehearsedChannel

def start (tag : String) (receiver : ReceiverId) (channel : RehearsedChannel) : RehearsedChannel :=
  { channel with handlers := channel.handlers.filter (fun entry => entry.1 != tag) ++ [(tag, receiver)] }

def stop (tag : String) (channel : RehearsedChannel) : RehearsedChannel :=
  { channel with handlers := channel.handlers.filter fun entry => entry.1 != tag }

def handler? (channel : RehearsedChannel) (tag : String) : Option ReceiverId :=
  (channel.handlers.find? fun entry => entry.1 == tag).map Prod.snd

end RehearsedChannel

structure Rehearsal where
  script : Script := {}
  connections : Nat := 0
  channels : List RehearsedChannel := []
  queueNames : Nat := 0
  tagNames : Nat := 0
  log : List LogLine := []
  mail : Mail := {}
  events : List (Generation × ChannelEvent) := []

namespace Rehearsal

def pickedNumber : UInt16 := 7

def write (line : LogLine) (world : Rehearsal) : Rehearsal := { world with log := world.log ++ [line] }

def changeScript (change : Script → Script) (world : Rehearsal) : Rehearsal :=
  { world with script := change world.script }

def change (place : Nat) (f : RehearsedChannel → RehearsedChannel) (world : Rehearsal) : Rehearsal :=
  { world with channels := world.channels.modify place f }

def raise (place : Nat) (event : ChannelEvent) (world : Rehearsal) : Rehearsal :=
  match (world.channels[place]?).bind RehearsedChannel.generation with
  | some generation => { world with events := world.events ++ [(generation, event)] }
  | none => world

def tell (receiver : ReceiverId) (message : ConsumerMessage) (world : Rehearsal) : Rehearsal :=
  { world with mail := (world.mail.send receiver message).2 }

def connect (world : Rehearsal) : Except Error Nat × Rehearsal :=
  match world.script.refuseConnect with
  | left + 1 =>
    (.error (.io ⟨.connectionRefused, ""⟩),
      (world.changeScript fun script => { script with refuseConnect := left }).write .connectRefused)
  | 0 =>
    let connection := world.connections + 1
    (.ok connection, { world with connections := connection }.write (.connected connection))

def openChannel (connection : Nat) (asked : Option UInt16) (world : Rehearsal) :
    Except Error (UInt16 × Nat) × Rehearsal :=
  let number := asked.getD pickedNumber
  match world.script.refuseOpen with
  | left + 1 =>
    (.error (.unavailableChannelId number),
      (world.changeScript fun script => { script with refuseOpen := left }).write (.openRefused asked))
  | 0 =>
    let channel : RehearsedChannel := { number, connection }
    (.ok (number, world.channels.length),
      { world with channels := world.channels ++ [channel] }.write (.opened asked))

def newQueueName (world : Rehearsal) : String × Rehearsal :=
  ("gen-" ++ toString (world.queueNames + 1), { world with queueNames := world.queueNames + 1 })

def newTag (world : Rehearsal) : String × Rehearsal :=
  ("ctag-" ++ toString (world.tagNames + 1), { world with tagNames := world.tagNames + 1 })

def nameQueue (asked : String) (world : Rehearsal) : String × Rehearsal :=
  if asked.isEmpty || world.script.renameQueues then world.newQueueName else (asked, world)

def nameConsumer (asked : String) (world : Rehearsal) : String × Rehearsal :=
  if asked.isEmpty || world.script.renameTags then world.newTag else (asked, world)

def closeChannel (place : Nat) (channel : RehearsedChannel) (world : Rehearsal) : Rehearsal :=
  let closed := world.change place fun channel => { channel with closed := true, handlers := [] }
  let told := channel.handlers.foldl (fun world entry => world.tell entry.2 .clientClosedChannel) closed
  told.raise place (.shutdown ⟨channel.number, false, true, .clientClosedChannel⟩)

def message (queue : String) (world : Rehearsal) : Option Fetched :=
  world.script.message.map fun message =>
    { message with routingKey := queue, messageCount := world.script.count }

def grant (place : Nat) (channel : RehearsedChannel) (request : Request) (world : Rehearsal) :
    Except Error Reply × Rehearsal :=
  match request with
  | .close => (.ok .done, world.closeChannel place channel)
  | .declareQueue name _ =>
    let (queue, world) := world.nameQueue name
    (.ok (.declared ⟨queue, world.script.count, 0⟩), world)
  | .checkQueue name => (.ok (.declared ⟨name, world.script.count, 0⟩), world)
  | .purgeQueue _ => (.ok (.counted world.script.count), world)
  | .deleteQueue .. => (.ok (.counted world.script.count), world)
  | .consume consumer =>
    let (tag, world) := world.nameConsumer consumer.tag
    (.ok (.started tag), world.change place (RehearsedChannel.start tag consumer.receiver))
  | .cancel tag =>
    match channel.handler? tag with
    | some receiver =>
      (.ok .done, (world.tell receiver .clientCancelled).change place (RehearsedChannel.stop tag))
    | none => (.ok .done, world)
  | .get queue _ =>
    match world.message queue with
    | some message => (message.load.map fun loaded => .got (some loaded), world)
    | none => (.ok (.got none), world)
  | .fetch queue _ => (.ok (.fetched (world.message queue)), world)
  | _ => (.ok .done, world)

def fails (request : Request) (world : Rehearsal) : Bool :=
  !world.script.fail.isEmpty
    && world.script.fail.toList.isPrefixOf (request.name ++ " " ++ request.subject).toList

def lineOf : Request → Except Error LogLine
  | .publish exchange publish => do
    let body ← publish.body.remainder
    .ok (.published exchange publish body)
  | request => .ok (.asked request)

def request (place : Nat) (request : Request) (world : Rehearsal) : Except Error Reply × Rehearsal :=
  match lineOf request, world.channels[place]? with
  | .error e, _ => (.error e, world)
  | .ok _, none => (.error .connectionDropped, world)
  | .ok line, some channel =>
    if channel.closed then (.error .clientClosedChannel, world)
    else if channel.dead then (.error .connectionDropped, world)
    else
      let logged := world.write line
      if world.fails request then
        (.error (.serverClosedChannel channel.number 404
          ("injected: " ++ request.name ++ " " ++ request.subject)), logged)
      else logged.grant place channel request

def dropChannel (place : Nat) (world : Rehearsal) : Rehearsal :=
  match world.channels[place]? with
  | some channel => world.write (.channelDropped channel.connection)
  | none => world

def hear (listener : Listener) (notice : Notice) (world : Rehearsal) :
    Except String Unit × Rehearsal :=
  (if listener.fails then .error listener.label else .ok (),
    if listener.silent then world else world.write (.heard listener.label notice))

def link : Link Rehearsal Nat Nat where
  connect := connect
  openChannel := openChannel
  attach place generation := change place fun channel => { channel with generation := some generation }
  request := request
  dropChannel := dropChannel
  dropConnection connection := write (.connectionDropped connection)
  tell := tell
  hear := hear
  raised world := (world.events, { world with events := [] })

def refusals (world : Rehearsal) : Nat := world.script.refuseConnect + world.script.refuseOpen

def placeOf (opened : Option Nat) (world : Rehearsal) : Nat :=
  match opened with
  | some count => count - 1
  | none => world.channels.length - 1

def kill (place : Nat) (connectionLevel byApplication : Bool) (reason : Error) (world : Rehearsal) :
    Rehearsal :=
  match world.channels[place]? with
  | some channel =>
    (world.change place fun channel => { channel with dead := true }).raise place
      (.shutdown ⟨channel.number, connectionLevel, byApplication, reason⟩)
  | none => world

def deliver (place : Nat) (tag : String) (delivery : Delivery) (world : Rehearsal) :
    Option Bool × Rehearsal :=
  match (world.channels[place]?).bind fun channel => channel.handler? tag with
  | some receiver =>
    let (received, mail) := world.mail.send receiver (.delivery delivery)
    (some received, { world with mail })
  | none => (none, world)

end Rehearsal

abbrev RehearsedRecovery := RecoveringChannel Rehearsal Nat Nat

namespace RehearsedRecovery

def changeMail (change : Mail → Mail) (self : RehearsedRecovery) : RehearsedRecovery :=
  { self with world := { self.world with mail := change self.world.mail } }

def settle (self : RehearsedRecovery) : RehearsedRecovery :=
  RecoveringChannel.settle Rehearsal.link (self.world.refusals + 1) self

def disturb (change : Rehearsal → Rehearsal) (self : RehearsedRecovery) : RehearsedRecovery :=
  settle (RecoveringChannel.act Rehearsal.link change self)

def call (request : Request) (self : RehearsedRecovery) : Except Error Reply × RehearsedRecovery :=
  let (result, after) := RecoveringChannel.call Rehearsal.link self request
  (result, settle after)

end RehearsedRecovery

end AmqpClient
