import AmqpClient.Channel.Listeners
import AmqpClient.Channel.Request

/-! The receiving side of one channel: replies that wait for their calls, consumers, listeners, and the
reason why the channel closed. A slot closes once, for the first reason. -/
namespace AmqpClient

namespace Error

def restated : Error → Error
  | serverClosedChannel channel code text => serverClosedChannel channel code text
  | serverClosedConnection code text => serverClosedConnection code text
  | clientClosedChannel => clientClosedChannel
  | clientClosedConnection => clientClosedConnection
  | _ => connectionDropped

end Error

namespace ConsumerMessage

def ending : Error → ConsumerMessage
  | .clientClosedChannel => .clientClosedChannel
  | .serverClosedChannel channel code text =>
    .serverClosedChannel (.serverClosedChannel channel code text)
  | .clientClosedConnection => .clientClosedConnection
  | reason => .serverClosedConnection reason

end ConsumerMessage

structure Slot (α : Type) where
  number : UInt16
  replies : List (Except Error Assembler) := []
  closed : Option Error := none
  consumers : List (String × ReceiverId) := []
  expected : Option ReceiverId := none
  dropped : Bool := false
  listeners : ChannelListeners α := {}

structure Effects (α : Type) where
  messages : List (ReceiverId × ConsumerMessage) := []
  notices : List (α × ChannelEvent) := []

namespace Slot

variable {α : Type}

def isOpen (slot : Slot α) : Bool := slot.closed.isNone

def reply (slot : Slot α) (reply : Except Error Assembler) : Slot α :=
  if slot.dropped then slot else { slot with replies := slot.replies ++ [reply] }

def drop (slot : Slot α) : Slot α := { slot with replies := [], dropped := true }

def expect (slot : Slot α) (receiver : Option ReceiverId) : Slot α := { slot with expected := receiver }

def consumer? (slot : Slot α) (tag : String) : Option ReceiverId :=
  (slot.consumers.find? fun entry => entry.1 == tag).map Prod.snd

def startConsumer (slot : Slot α) (tag : String) : Except Error Unit × Slot α :=
  match slot.expected with
  | none => (.error .frameUnexpected, slot)
  | some receiver =>
    let slot := slot.expect none
    match slot.consumer? tag with
    | some _ => (.error (.duplicateConsumerTag slot.number tag), slot)
    | none => (.ok (), { slot with consumers := slot.consumers ++ [(tag, receiver)] })

def endConsumer (slot : Slot α) (tag : String) (message : ConsumerMessage) : Slot α × Effects α :=
  ({ slot with consumers := slot.consumers.filter fun entry => entry.1 != tag },
    { messages := (slot.consumer? tag).toList.map fun receiver => (receiver, message) })

def deliver (slot : Slot α) (tag : String) (delivery : Delivery) : Effects α :=
  { messages := (slot.consumer? tag).toList.map fun receiver => (receiver, .delivery delivery) }

def raise (slot : Slot α) (event : ChannelEvent) : Effects α :=
  { notices := slot.listeners.notices event }

/- Closes the slot, unless it is closed. Its consumers get a last message, unless the connection was lost
against the application's will: then someone may resume them. A waiting call learns the reason, and
listeners hear of it. -/
def shutDown (slot : Slot α) (reason : Error) (connectionLevel byApplication : Bool) :
    Slot α × Effects α :=
  if slot.closed.isSome then (slot, {})
  else
    let lost := connectionLevel && !byApplication
    let messages :=
      if lost then [] else slot.consumers.map fun entry => (entry.2, ConsumerMessage.ending reason)
    let closed := { slot with closed := some reason, consumers := [], expected := none }
    (closed.reply (.error reason),
      { messages
        notices :=
          slot.listeners.notices (.shutdown ⟨slot.number, connectionLevel, byApplication, reason⟩) })

end Slot

end AmqpClient
