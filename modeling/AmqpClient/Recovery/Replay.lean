import AmqpClient.Recovery.Record

/-! Bringing a remembered channel back on a new one: first its modes, then exchanges, queues, bindings and
consumers, each in recorded order. A server may choose new names on the way, and what is replayed later
already uses them. The new channel is whatever answers requests in the state `σ`. -/
namespace AmqpClient

namespace ChannelRecord

def qosRequest (qos : Qos) (everyConsumer : Bool) : List Request :=
  if qos.prefetchCount = 0 then [] else [.qos qos.prefetchSize qos.prefetchCount everyConsumer]

def modeRequests (record : ChannelRecord) : List Request :=
  qosRequest record.consumerQos false ++ qosRequest record.globalQos true
    ++ (if record.confirmSelected then [.selectConfirm] else [])
    ++ (if record.transactionsSelected then [.selectTransactions] else [])

def exchangeRequests (record : ChannelRecord) : List Request :=
  (record.topology.exchanges.items.filter fun exchange => !exchange.isPredefined).map .declareExchange

def bindingRequests (record : ChannelRecord) : List Request :=
  record.topology.bindings.map .bind

end ChannelRecord

namespace RecordedQueue

def request (queue : RecordedQueue) : Request :=
  .declareQueue (if queue.serverNamed then "" else queue.name) queue.options

end RecordedQueue

namespace Replay

variable {σ : Type} (ask : σ → Request → Except Error Reply × σ)

def requests : List Request → σ → Except Error Unit × σ
  | [], s => (.ok (), s)
  | request :: rest, s =>
    match ask s request with
    | (.error e, s) => (.error e, s)
    | (.ok _, s) => requests rest s

def queues : List RecordedQueue → ChannelRecord → σ → Except Error Unit × ChannelRecord × σ
  | [], record, s => (.ok (), record, s)
  | queue :: rest, record, s =>
    match ask s queue.request with
    | (.error e, s) => (.error e, record, s)
    | (.ok (.declared declared), s) =>
      queues rest { record with topology := record.topology.renameQueue queue.name declared.queue } s
    | (.ok _, s) => (.error .frameUnexpected, record, s)

def consumers : List RecordedConsumer → ChannelRecord → σ → Except Error Unit × ChannelRecord × σ
  | [], record, s => (.ok (), record, s)
  | consumer :: rest, record, s =>
    match ask s (.consume consumer) with
    | (.error e, s) => (.error e, record, s)
    | (.ok (.started tag), s) => consumers rest (record.retag consumer.tag tag) s
    | (.ok _, s) => (.error .frameUnexpected, record, s)

/- Brings the recorded topology back. Each kind of record is taken as it stands when its turn comes. -/
def topology (record : ChannelRecord) (s : σ) : Except Error Unit × ChannelRecord × σ :=
  match requests ask record.exchangeRequests s with
  | (.error e, s) => (.error e, record, s)
  | (.ok (), s) =>
    match queues ask record.topology.queues.items record s with
    | (.error e, record, s) => (.error e, record, s)
    | (.ok (), record, s) =>
      match requests ask record.bindingRequests s with
      | (.error e, s) => (.error e, record, s)
      | (.ok (), s) => consumers ask record.topology.consumers.items record s

end Replay

end AmqpClient
