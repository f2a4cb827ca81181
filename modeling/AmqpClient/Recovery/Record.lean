import AmqpClient.Channel.Request

/-! What a channel has to remember in order to be brought back: the recorded topology, the tags of its
running consumers, and its modes. A request goes out with current names, and only a request that the
server confirmed is remembered. -/
namespace AmqpClient

structure Qos where
  prefetchSize : UInt32 := 0
  prefetchCount : UInt16 := 0
  deriving DecidableEq, Repr

structure ChannelRecord where
  topology : Topology := {}
  activeTags : List String := []
  consumerQos : Qos := {}
  globalQos : Qos := {}
  confirmSelected : Bool := false
  transactionsSelected : Bool := false
  deriving DecidableEq, Repr

namespace ChannelRecord

def insertTag (record : ChannelRecord) (tag : String) : ChannelRecord :=
  if record.activeTags.contains tag then record
  else { record with activeTags := tag :: record.activeTags }

def removeTag (record : ChannelRecord) (tag : String) : ChannelRecord :=
  { record with activeTags := record.activeTags.filter fun other => other != tag }

def resolveBinding (record : ChannelRecord) (binding : RecordedBinding) : RecordedBinding :=
  match binding.kind with
  | .queue => { binding with destination := record.topology.resolveQueue binding.destination }
  | .exchange => binding

def resolve (record : ChannelRecord) : Request → Request
  | .bind binding => .bind (record.resolveBinding binding)
  | .unbind binding => .unbind (record.resolveBinding binding)
  | .declareQueue name options => .declareQueue (record.topology.resolveQueue name) options
  | .checkQueue name => .checkQueue (record.topology.resolveQueue name)
  | .purgeQueue name => .purgeQueue (record.topology.resolveQueue name)
  | .deleteQueue name options => .deleteQueue (record.topology.resolveQueue name) options
  | .consume consumer =>
    .consume { consumer with queue := record.topology.resolveQueue consumer.queue }
  | .cancel tag => .cancel (record.topology.resolveTag tag)
  | .get queue noAck => .get (record.topology.resolveQueue queue) noAck
  | .fetch queue noAck => .fetch (record.topology.resolveQueue queue) noAck
  | request => request

/- A queue keeps its server's choice of name when it is declared again under it. -/
def isServerNamed (record : ChannelRecord) (asked declared : String) : Bool :=
  asked.isEmpty || ((record.topology.queue? declared).map RecordedQueue.serverNamed).getD false

def recordQueue (record : ChannelRecord) (asked : String) (options : QueueOptions)
    (queue : QueueDeclared) : ChannelRecord :=
  let serverNamed := record.isServerNamed asked queue.queue
  { record with topology := record.topology.recordQueue ⟨queue.queue, options, serverNamed⟩ }

def forgetQueue (record : ChannelRecord) (name : String) : ChannelRecord :=
  let topology := (record.topology.deleteQueue name).2
  { record with
    topology
    activeTags := record.activeTags.filter fun tag => (topology.consumer? tag).isSome }

def recordQos (record : ChannelRecord) (qos : Qos) (everyConsumer : Bool) : ChannelRecord :=
  if everyConsumer then { record with globalQos := qos } else { record with consumerQos := qos }

def recordConsumer (record : ChannelRecord) (consumer : RecordedConsumer) : ChannelRecord :=
  { record with topology := record.topology.recordConsumer consumer }.insertTag consumer.tag

def forgetConsumer (record : ChannelRecord) (tag : String) : ChannelRecord :=
  { record with topology := (record.topology.deleteConsumer tag).2 }.removeTag tag

/- What a confirmed request changes. `asked` is the request as the application made it; it went out in
current names. -/
def learn (record : ChannelRecord) (asked : Request) (reply : Reply) : ChannelRecord :=
  match record.resolve asked, reply with
  | .declareExchange exchange, _ =>
    { record with topology := record.topology.recordExchange exchange }
  | .deleteExchange name _, _ =>
    { record with topology := (record.topology.deleteExchange name).2 }
  | .bind binding, _ => { record with topology := record.topology.recordBinding binding }
  | .unbind binding, _ => { record with topology := (record.topology.deleteBinding binding).2 }
  | .declareQueue _ options, .declared queue => record.recordQueue asked.subject options queue
  | .deleteQueue name _, _ => record.forgetQueue name
  | .qos prefetchSize prefetchCount everyConsumer, _ =>
    record.recordQos ⟨prefetchSize, prefetchCount⟩ everyConsumer
  | .consume consumer, .started tag => record.recordConsumer { consumer with tag }
  | .cancel tag, _ => record.forgetConsumer tag
  | .selectConfirm, _ => { record with confirmSelected := true }
  | .selectTransactions, _ => { record with transactionsSelected := true }
  | _, _ => record

def note (record : ChannelRecord) (asked : Request) : Except Error Reply → ChannelRecord
  | .ok reply => record.learn asked reply
  | .error _ => record

def retag (record : ChannelRecord) (old new : String) : ChannelRecord :=
  if old == new then record
  else ({ record with topology := record.topology.updateTag old new }.removeTag old).insertTag new

def abandon (record : ChannelRecord) : List RecordedConsumer × ChannelRecord :=
  record.activeTags.foldl
    (fun state tag =>
      match state.2.topology.deleteConsumer tag with
      | (some consumer, topology) => (state.1 ++ [consumer], { state.2 with topology })
      | (none, topology) => (state.1, { state.2 with topology }))
    ([], { record with activeTags := [] })

end ChannelRecord

end AmqpClient
