import AmqpClient.Connection.Slot
import AmqpClient.Channel.Ids
import AmqpClient.Command.Transmission
import AmqpClient.Frame.Intake
import AmqpClient.Method.Wire

/-! A connection: commands go out through one transmitter, and inbound frames are assembled into
commands, channel by channel, each of which goes to exactly one place. The first failure closes every
channel. What consumers and listeners are told gathers in the connection until someone passes it on. -/
namespace AmqpClient

abbrev SlotId := Nat

structure Connection (α : Type) where
  transmitter : Transmitter := {}
  sent : Nat := 0
  ids : ChannelIds SlotId
  slots : List (Slot α) := []
  failure : Option Error := none
  spill : SpillOptions := {}
  intake : Intake := {}
  assemblers : List (UInt16 × Assembler) := []
  effects : Effects α := {}

namespace Connection

variable {α : Type}

def isOpen (connection : Connection α) : Bool := connection.failure.isNone

def emit (effects : Effects α) (connection : Connection α) : Connection α :=
  { connection with
    effects :=
      { messages := connection.effects.messages ++ effects.messages
        notices := connection.effects.notices ++ effects.notices } }

def slot? (connection : Connection α) (id : SlotId) : Option (Slot α) := connection.slots[id]?

def setSlot (id : SlotId) (slot : Slot α) (connection : Connection α) : Connection α :=
  { connection with slots := connection.slots.set id slot }

def change (id : SlotId) (f : Slot α → Slot α × Effects α) (connection : Connection α) :
    Connection α :=
  match connection.slot? id with
  | some slot => (connection.setSlot id (f slot).1).emit (f slot).2
  | none => connection

def changeQuietly (id : SlotId) (f : Slot α → Slot α) (connection : Connection α) : Connection α :=
  connection.change id fun slot => (f slot, {})

def shutDown (id : SlotId) (reason : Error) (connectionLevel byApplication : Bool) :
    Connection α → Connection α :=
  change id fun slot => slot.shutDown reason connectionLevel byApplication

def transmit (channel : UInt16) (command : Assembler) (connection : Connection α) :
    Except Error Unit × Connection α :=
  match connection.failure with
  | some reason => (.error reason.restated, connection)
  | none =>
    match connection.transmitter.transmit command channel with
    | (.ok (), _, transmitter) => (.ok (), { connection with transmitter, sent := connection.sent + 1 })
    | (.error e, _, transmitter) => (.error e, { connection with transmitter })

def send (channel : UInt16) (method : Method) (connection : Connection α) :
    Except Error Unit × Connection α :=
  match Command.ofMethod method with
  | .ok command => connection.transmit channel command
  | .error e => (.error e, connection)

def allocate (asked : Option UInt16) (connection : Connection α) :
    Except Error (UInt16 × SlotId) × Connection α :=
  match connection.failure with
  | some reason => (.error reason.restated, connection)
  | none =>
    let id := connection.slots.length
    match connection.ids.claim asked fun _ => id with
    | .error e => (.error e, connection)
    | .ok (number, ids) =>
      (.ok (number, id), { connection with ids, slots := connection.slots ++ [{ number }] })

/- Gives the number of a slot back, unless a newer slot has it by now. -/
def release (id : SlotId) (connection : Connection α) : Connection α :=
  match connection.slot? id with
  | some slot =>
    if connection.ids.get? slot.number = some id then
      { connection with ids := (connection.ids.release slot.number).2 }
    else connection
  | none => connection

def askedFor (reason : Error) : Bool := reason == .clientClosedConnection

def fail (reason : Error) (connection : Connection α) : Connection α :=
  if connection.failure.isSome then connection
  else
    let (held, ids) := connection.ids.releaseAll
    held.foldl (fun connection id => connection.shutDown id reason true (askedFor reason))
      { connection with ids, failure := some reason }

def dispatchOwn (method : Method) (connection : Connection α) : Except Error Unit × Connection α :=
  match method with
  | ⟨.connectionClose, (code, text, _, _, ())⟩ =>
    (.error (.serverClosedConnection code text), (connection.send 0 ⟨.connectionCloseOk, ()⟩).2)
  | ⟨.connectionCloseOk, _⟩ => (.error .clientClosedConnection, connection)
  | ⟨.connectionBlocked, _⟩ => (.ok (), connection)
  | ⟨.connectionUnblocked, _⟩ => (.ok (), connection)
  | _ => (.error .frameUnexpected, connection)

def content (command : Assembler) : Except Error (Properties × Bytes) := do
  let body ← command.takeBody.1
  let bytes ← body.remainder
  .ok ((command.header.map ContentHeader.properties).getD Properties.empty, bytes)

def answering (channel : UInt16) (method : Method) (andThen : Connection α → Connection α)
    (connection : Connection α) : Except Error Unit × Connection α :=
  match connection.send channel method with
  | (.error e, connection) => (.error e, connection)
  | (.ok (), connection) => (.ok (), andThen connection)

def withContent (command : Assembler) (andThen : Properties → Bytes → Connection α → Connection α)
    (connection : Connection α) : Except Error Unit × Connection α :=
  match content command with
  | .error e => (.error e, connection)
  | .ok (properties, body) => (.ok (), andThen properties body connection)

def dispatchTo (id : SlotId) (channel : UInt16) (method : Method) (command : Assembler)
    (connection : Connection α) : Except Error Unit × Connection α :=
  let replied : Connection α → Connection α := changeQuietly id fun slot => slot.reply (.ok command)
  match method with
  | ⟨.basicDeliver, (tag, deliveryTag, (redelivered, ()), exchange, routingKey, ())⟩ =>
    connection.withContent command fun properties body =>
      change id fun slot =>
        (slot, slot.deliver tag ⟨deliveryTag, redelivered, exchange, routingKey, body, properties⟩)
  | ⟨.basicReturn, (code, text, exchange, routingKey, ())⟩ =>
    connection.withContent command fun properties body =>
      change id fun slot =>
        (slot, slot.raise (.returned ⟨code, text, exchange, routingKey, body, properties⟩))
  | ⟨.basicAck, (deliveryTag, (multiple, ()), ())⟩ =>
    (.ok (), connection.change id fun slot => (slot, slot.raise (.confirm ⟨true, deliveryTag, multiple⟩)))
  | ⟨.basicNack, (deliveryTag, (multiple, _, ()), ())⟩ =>
    (.ok (), connection.change id fun slot => (slot, slot.raise (.confirm ⟨false, deliveryTag, multiple⟩)))
  | ⟨.basicCancel, (tag, (nowait, ()), ())⟩ =>
    let ended : Connection α → Connection α := change id fun slot => slot.endConsumer tag .serverCancelled
    if nowait then (.ok (), ended connection)
    else connection.answering channel ⟨.basicCancelOk, (tag, ())⟩ ended
  | ⟨.channelFlow, ((active, ()), ())⟩ =>
    connection.answering channel ⟨.channelFlowOk, ((active, ()), ())⟩
      (change id fun slot => (slot, slot.raise (.flow active)))
  | ⟨.channelClose, (code, text, _, _, ())⟩ =>
    connection.answering channel ⟨.channelCloseOk, ()⟩ fun connection =>
      (connection.release id).shutDown id (.serverClosedChannel channel code text) false false
  | ⟨.channelCloseOk, _⟩ => (.ok (), replied (connection.release id))
  | ⟨.basicConsumeOk, (tag, ())⟩ =>
    match connection.slot? id with
    | none => (.ok (), connection)
    | some slot =>
      match slot.startConsumer tag with
      | (.error e, slot) => (.error e, connection.setSlot id slot)
      | (.ok (), slot) => (.ok (), replied (connection.setSlot id slot))
  | ⟨.basicCancelOk, (tag, ())⟩ =>
    (.ok (), replied (connection.change id fun slot => slot.endConsumer tag .clientCancelled))
  | _ => (.ok (), replied connection)

def dispatch (channel : UInt16) (command : Assembler) (connection : Connection α) :
    Except Error Unit × Connection α :=
  match command.method with
  | none => (.error .frameUnexpected, connection)
  | some method =>
    if channel = 0 then connection.dispatchOwn method
    else match connection.ids.get? channel with
      | none => (.error (.bogusChannelId channel), connection)
      | some id => connection.dispatchTo id channel method command

def assembler (connection : Connection α) (channel : UInt16) : Assembler :=
  ((connection.assemblers.find? fun entry => entry.1 == channel).map Prod.snd).getD
    { spill := connection.spill }

def forget (channel : UInt16) (connection : Connection α) : Connection α :=
  { connection with assemblers := connection.assemblers.filter fun entry => entry.1 != channel }

def keep (channel : UInt16) (assembler : Assembler) (connection : Connection α) : Connection α :=
  { connection with
    assemblers :=
      (channel, assembler) :: connection.assemblers.filter fun entry => entry.1 != channel }

def receive (frame : Frame) (connection : Connection α) : Except Error Unit × Connection α :=
  if frame.kind = .heartbeat then (.ok (), connection)
  else match (connection.assembler frame.channel).feed frame with
    | (.error e, _) => (.error e, connection)
    | (.ok true, command) => (connection.forget frame.channel).dispatch frame.channel command
    | (.ok false, assembler) => (.ok (), connection.keep frame.channel assembler)

/- Bodies that are being kept in files: of commands that are not complete, and of replies that nobody has
waited for. -/
def spilledBodies (connection : Connection α) : Nat :=
  (connection.assemblers.filter fun entry => entry.2.holdsFile).length
    + (connection.slots.flatMap fun slot =>
        slot.replies.filter fun
          | .ok command => command.holdsFile
          | .error _ => false).length

end Connection

end AmqpClient
