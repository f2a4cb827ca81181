import AmqpClient.Channel.Notice
import AmqpClient.Topology

/-! What an application asks of an open channel, and what it learns when the server agrees. -/
namespace AmqpClient

inductive Request
  | close
  | declareExchange (exchange : RecordedExchange)
  | checkExchange (name : String)
  | deleteExchange (name : String) (ifUnused : Bool)
  | bind (binding : RecordedBinding)
  | unbind (binding : RecordedBinding)
  -- An empty name leaves the choice of a name to the server.
  | declareQueue (name : String) (options : QueueOptions)
  | checkQueue (name : String)
  | purgeQueue (name : String)
  | deleteQueue (name : String) (options : QueueDeleteOptions)
  | qos (prefetchSize : UInt32) (prefetchCount : UInt16) (everyConsumer : Bool)
  | consume (consumer : RecordedConsumer)
  | cancel (tag : String)
  | publish (exchange : String) (publish : Publish)
  | get (queue : String) (noAck : Bool)
  | fetch (queue : String) (noAck : Bool)
  | ack (deliveryTag : UInt64) (multiple : Bool)
  | nack (deliveryTag : UInt64) (multiple requeue : Bool)
  | reject (deliveryTag : UInt64) (requeue : Bool)
  | recover (requeue : Bool)
  | selectConfirm
  | selectTransactions
  | commit
  | rollback

structure Fetched where
  deliveryTag : UInt64
  redelivered : Bool
  exchange : String
  routingKey : String
  properties : Properties
  body : ContentBody
  messageCount : UInt32

inductive Reply
  | done
  | declared (queue : QueueDeclared)
  | counted (messages : UInt32)
  | started (tag : String)
  | got (message : Option (Delivery × UInt32))
  | fetched (message : Option Fetched)

namespace Request

def name : Request → String
  | close => "channel.close"
  | declareExchange _ => "exchange.declare"
  | checkExchange _ => "exchange.declare-passive"
  | deleteExchange .. => "exchange.delete"
  | bind binding =>
    match binding.kind with
    | .queue => "queue.bind"
    | .exchange => "exchange.bind"
  | unbind binding =>
    match binding.kind with
    | .queue => "queue.unbind"
    | .exchange => "exchange.unbind"
  | declareQueue .. => "queue.declare"
  | checkQueue _ => "queue.declare-passive"
  | purgeQueue _ => "queue.purge"
  | deleteQueue .. => "queue.delete"
  | qos .. => "basic.qos"
  | consume _ => "basic.consume"
  | cancel _ => "basic.cancel"
  | publish .. => "basic.publish"
  | get .. => "basic.get"
  | fetch .. => "basic.get"
  | ack .. => "basic.ack"
  | nack .. => "basic.nack"
  | reject .. => "basic.reject"
  | recover _ => "basic.recover"
  | selectConfirm => "confirm.select"
  | selectTransactions => "tx.select"
  | commit => "tx.commit"
  | rollback => "tx.rollback"

def subject : Request → String
  | declareExchange exchange => exchange.name
  | checkExchange name => name
  | deleteExchange name _ => name
  | bind binding => binding.destination
  | unbind binding => binding.destination
  | declareQueue name _ => name
  | checkQueue name => name
  | purgeQueue name => name
  | deleteQueue name _ => name
  | consume consumer => consumer.queue
  | cancel tag => tag
  | publish exchange _ => exchange
  | get queue _ => queue
  | fetch queue _ => queue
  | ack deliveryTag _ => toString deliveryTag.toNat
  | nack deliveryTag _ _ => toString deliveryTag.toNat
  | reject deliveryTag _ => toString deliveryTag.toNat
  | _ => ""

def check : Request → Except Error Unit
  | recover false => .error (.notSupported "basic.recover with requeue=false")
  | _ => .ok ()

end Request

namespace Fetched

def load (fetched : Fetched) : Except Error (Delivery × UInt32) := do
  let body ← fetched.body.remainder
  .ok (⟨fetched.deliveryTag, fetched.redelivered, fetched.exchange, fetched.routingKey, body,
    fetched.properties⟩, fetched.messageCount)

end Fetched

end AmqpClient
