import AmqpClient.Channel.Request

/-! What a line of a log says, beside its first word: of requests, and of events. -/
namespace AmqpClient

inductive Detail
  | text (value : String)
  | flag (value : Bool)
  | number (value : Nat)
  | channel (number : Option UInt16)
  | wide (value : UInt64)
  | bytes (value : Bytes)
  | table (value : FieldTable)
  | properties (value : Properties)
  | error (value : Error)

namespace ExchangeOptions

def details (options : ExchangeOptions) : List Detail :=
  [.flag options.durable, .flag options.autoDelete, .flag options.internal, .table options.arguments]

end ExchangeOptions

namespace QueueOptions

def details (options : QueueOptions) : List Detail :=
  [.flag options.durable, .flag options.exclusive, .flag options.autoDelete, .table options.arguments]

end QueueOptions

namespace ConsumerOptions

def details (options : ConsumerOptions) : List Detail :=
  [.flag options.noLocal, .flag options.noAck, .flag options.exclusive, .table options.arguments]

end ConsumerOptions

namespace Publish

def details (publish : Publish) : List Detail :=
  [.text publish.routingKey, .flag publish.mandatory, .flag publish.immediate,
    .properties publish.properties]

end Publish

namespace RecordedExchange

def details (exchange : RecordedExchange) : List Detail :=
  .text exchange.name :: .text exchange.type.name :: exchange.options.details

end RecordedExchange

namespace RecordedQueue

def details (queue : RecordedQueue) : List Detail := .text queue.name :: queue.options.details

end RecordedQueue

namespace RecordedBinding

def details (binding : RecordedBinding) : List Detail :=
  [.text binding.destination, .text binding.source, .text binding.routingKey, .table binding.arguments]

end RecordedBinding

namespace Request

def details : Request → List Detail
  | declareExchange exchange => exchange.details
  | checkExchange name => [.text name]
  | deleteExchange name ifUnused => [.text name, .flag ifUnused]
  | bind binding => binding.details
  | unbind binding => binding.details
  | declareQueue name options => .text name :: options.details
  | checkQueue name => [.text name]
  | purgeQueue name => [.text name]
  | deleteQueue name options => [.text name, .flag options.ifUnused, .flag options.ifEmpty]
  | qos prefetchSize prefetchCount everyConsumer =>
    [.number prefetchSize.toNat, .number prefetchCount.toNat, .flag everyConsumer]
  | consume consumer => .text consumer.queue :: .text consumer.tag :: consumer.options.details
  | cancel tag => [.text tag]
  | publish exchange message => .text exchange :: message.details
  | get queue noAck => [.text queue, .flag noAck]
  | fetch queue noAck => [.text queue, .flag noAck]
  | ack deliveryTag multiple => [.wide deliveryTag, .flag multiple]
  | nack deliveryTag multiple requeue => [.wide deliveryTag, .flag multiple, .flag requeue]
  | reject deliveryTag requeue => [.wide deliveryTag, .flag requeue]
  | recover requeue => [.flag requeue]
  | close | selectConfirm | selectTransactions | commit | rollback => []

end Request

namespace ChannelEvent

def name : ChannelEvent → String
  | shutdown _ => "shutdown"
  | returned _ => "return"
  | confirm _ => "confirm"
  | flow _ => "flow"

def details : ChannelEvent → List Detail
  | shutdown signal =>
    [.number signal.channel.toNat, .flag signal.connectionLevel, .flag signal.byApplication,
      .error signal.reason]
  | returned message =>
    [.number message.code.toNat, .text message.text, .text message.exchange, .text message.routingKey,
      .bytes message.body, .properties message.properties]
  | confirm answer =>
    [.text (if answer.accepted then "ack" else "nack"), .wide answer.deliveryTag, .flag answer.multiple]
  | flow active => [.flag active]

def line (label : String) (event : ChannelEvent) : List Detail :=
  .text event.name :: .text label :: event.details

end ChannelEvent

end AmqpClient
