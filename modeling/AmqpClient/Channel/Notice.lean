import AmqpClient.Content.Header

/-! What a channel tells its consumers and its listeners. -/
namespace AmqpClient

structure Delivery where
  deliveryTag : UInt64
  redelivered : Bool
  exchange : String
  routingKey : String
  body : Bytes
  properties : Properties

structure Returned where
  code : UInt16
  text : String
  exchange : String
  routingKey : String
  body : Bytes
  properties : Properties

structure Confirm where
  accepted : Bool
  deliveryTag : UInt64
  multiple : Bool
  deriving DecidableEq, Repr

structure ShutdownSignal where
  channel : UInt16
  connectionLevel : Bool
  byApplication : Bool
  reason : Error
  deriving DecidableEq, Repr

namespace ShutdownSignal

def isRecoverable (signal : ShutdownSignal) : Bool := signal.connectionLevel && !signal.byApplication

end ShutdownSignal

inductive ConsumerMessage
  | delivery (delivery : Delivery)
  | clientClosedChannel
  | serverClosedChannel (reason : Error)
  | clientCancelled
  | serverCancelled
  | clientClosedConnection
  | serverClosedConnection (reason : Error)

namespace ConsumerMessage

def name : ConsumerMessage → String
  | delivery _ => "Delivery"
  | clientClosedChannel => "ClientClosedChannel"
  | serverClosedChannel _ => "ServerClosedChannel"
  | clientCancelled => "ClientCancelled"
  | serverCancelled => "ServerCancelled"
  | clientClosedConnection => "ClientClosedConnection"
  | serverClosedConnection _ => "ServerClosedConnection"

def reason? : ConsumerMessage → Option Error
  | serverClosedChannel reason => some reason
  | serverClosedConnection reason => some reason
  | _ => none

end ConsumerMessage

inductive ChannelEvent
  | shutdown (signal : ShutdownSignal)
  | returned (message : Returned)
  | confirm (confirm : Confirm)
  | flow (active : Bool)

end AmqpClient
