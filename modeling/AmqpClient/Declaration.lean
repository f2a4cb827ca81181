import AmqpClient.Command.Assembler

/-! What an application asks a server to declare, and the methods that ask for it. -/
namespace AmqpClient

inductive ExchangeType
  | direct
  | fanout
  | topic
  | headers
  | custom (name : String)
  deriving DecidableEq, Repr

namespace ExchangeType

def name : ExchangeType → String
  | direct => "direct"
  | fanout => "fanout"
  | topic => "topic"
  | headers => "headers"
  | custom name => name

def ofName : String → ExchangeType
  | "direct" => direct
  | "fanout" => fanout
  | "topic" => topic
  | "headers" => headers
  | other => custom other

end ExchangeType

def isPredefinedExchange (name : String) : Bool :=
  name.isEmpty || "amq.".toList.isPrefixOf name.toList

structure ExchangeOptions where
  durable : Bool := false
  autoDelete : Bool := false
  internal : Bool := false
  arguments : FieldTable := .nil
  deriving DecidableEq, Repr

structure QueueOptions where
  durable : Bool := false
  exclusive : Bool := false
  autoDelete : Bool := false
  arguments : FieldTable := .nil
  deriving DecidableEq, Repr

structure QueueDeleteOptions where
  ifUnused : Bool := false
  ifEmpty : Bool := false
  deriving DecidableEq, Repr

structure ConsumerOptions where
  noLocal : Bool := false
  noAck : Bool := false
  exclusive : Bool := false
  arguments : FieldTable := .nil
  deriving DecidableEq, Repr

structure QueueDeclared where
  queue : String
  messageCount : UInt32
  consumerCount : UInt32
  deriving DecidableEq, Repr

structure Publish where
  routingKey : String
  mandatory : Bool := false
  immediate : Bool := false
  properties : Properties := .empty
  body : ContentBody

def noTicket : UInt16 := 0

namespace ExchangeOptions

def declare (options : ExchangeOptions) (type : ExchangeType) (name : String) (passive : Bool) :
    Method :=
  ⟨.exchangeDeclare, (noTicket, name, type.name,
    (passive, options.durable, options.autoDelete, options.internal, false, ()),
    options.arguments, ())⟩

end ExchangeOptions

namespace QueueOptions

def declare (options : QueueOptions) (name : String) (passive : Bool) : Method :=
  ⟨.queueDeclare, (noTicket, name,
    (passive, options.durable, options.exclusive, options.autoDelete, false, ()),
    options.arguments, ())⟩

end QueueOptions

namespace QueueDeleteOptions

def delete (options : QueueDeleteOptions) (name : String) : Method :=
  ⟨.queueDelete, (noTicket, name, (options.ifUnused, options.ifEmpty, false, ()), ())⟩

end QueueDeleteOptions

namespace ConsumerOptions

def consume (options : ConsumerOptions) (queue tag : String) : Method :=
  ⟨.basicConsume, (noTicket, queue, tag,
    (options.noLocal, options.noAck, options.exclusive, false, ()), options.arguments, ())⟩

end ConsumerOptions

namespace Publish

def method (publish : Publish) (exchange : String) : Method :=
  ⟨.basicPublish, (noTicket, exchange, publish.routingKey, (publish.mandatory, publish.immediate, ()), ())⟩

def command (publish : Publish) (exchange : String) : Except Error Assembler :=
  Command.withBody (publish.method exchange) publish.properties publish.body

end Publish

end AmqpClient
