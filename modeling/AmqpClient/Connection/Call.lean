import AmqpClient.Connection

/-! Calls on a channel. A call either is answered at once or sends a method and waits: the reply is the
next one that its slot gets, whatever that is. In between the connection reads on. -/
namespace AmqpClient

namespace Method

def success : UInt16 := 200

def noFault : UInt16 := 0

def closeChannel : Method := ⟨.channelClose, (success, "goodbye", noFault, noFault, ())⟩

def closeConnection : Method := ⟨.connectionClose, (success, "goodbye", noFault, noFault, ())⟩

end Method

namespace Request

def method? : Request → Option Method
  | close => some .closeChannel
  | declareExchange exchange => some (exchange.options.declare exchange.type exchange.name false)
  | checkExchange name => some (ExchangeOptions.declare {} .direct name true)
  | deleteExchange name ifUnused =>
    some ⟨.exchangeDelete, (noTicket, name, (ifUnused, false, ()), ())⟩
  | bind ⟨.exchange, source, destination, routingKey, arguments⟩ =>
    some ⟨.exchangeBind, (noTicket, destination, source, routingKey, (false, ()), arguments, ())⟩
  | bind ⟨.queue, source, destination, routingKey, arguments⟩ =>
    some ⟨.queueBind, (noTicket, destination, source, routingKey, (false, ()), arguments, ())⟩
  | unbind ⟨.exchange, source, destination, routingKey, arguments⟩ =>
    some ⟨.exchangeUnbind, (noTicket, destination, source, routingKey, (false, ()), arguments, ())⟩
  | unbind ⟨.queue, source, destination, routingKey, arguments⟩ =>
    some ⟨.queueUnbind, (noTicket, destination, source, routingKey, arguments, ())⟩
  | declareQueue name options => some (options.declare name false)
  | checkQueue name => some (QueueOptions.declare {} name true)
  | purgeQueue name => some ⟨.queuePurge, (noTicket, name, (false, ()), ())⟩
  | deleteQueue name options => some (options.delete name)
  | qos prefetchSize prefetchCount everyConsumer =>
    some ⟨.basicQos, (prefetchSize, prefetchCount, (everyConsumer, ()), ())⟩
  | consume consumer => some (consumer.options.consume consumer.queue consumer.tag)
  | cancel tag => some ⟨.basicCancel, (tag, (false, ()), ())⟩
  | publish .. => none
  | get queue noAck => some ⟨.basicGet, (noTicket, queue, (noAck, ()), ())⟩
  | fetch queue noAck => some ⟨.basicGet, (noTicket, queue, (noAck, ()), ())⟩
  | ack deliveryTag multiple => some ⟨.basicAck, (deliveryTag, (multiple, ()), ())⟩
  | nack deliveryTag multiple requeue =>
    some ⟨.basicNack, (deliveryTag, (multiple, requeue, ()), ())⟩
  | reject deliveryTag requeue => some ⟨.basicReject, (deliveryTag, (requeue, ()), ())⟩
  | recover requeue => some ⟨.basicRecover, ((requeue, ()), ())⟩
  | selectConfirm => some ⟨.confirmSelect, ((false, ()), ())⟩
  | selectTransactions => some ⟨.txSelect, ()⟩
  | commit => some ⟨.txCommit, ()⟩
  | rollback => some ⟨.txRollback, ()⟩

def answerKind? : Request → Option MethodKind
  | close => some .channelCloseOk
  | declareExchange _ | checkExchange _ => some .exchangeDeclareOk
  | deleteExchange .. => some .exchangeDeleteOk
  | bind ⟨.exchange, _, _, _, _⟩ => some .exchangeBindOk
  | bind ⟨.queue, _, _, _, _⟩ => some .queueBindOk
  | unbind ⟨.exchange, _, _, _, _⟩ => some .exchangeUnbindOk
  | unbind ⟨.queue, _, _, _, _⟩ => some .queueUnbindOk
  | declareQueue .. | checkQueue _ => some .queueDeclareOk
  | purgeQueue _ => some .queuePurgeOk
  | deleteQueue .. => some .queueDeleteOk
  | qos .. => some .basicQosOk
  | consume _ => some .basicConsumeOk
  | cancel _ => some .basicCancelOk
  | recover _ => some .basicRecoverOk
  | selectConfirm => some .confirmSelectOk
  | selectTransactions => some .txSelectOk
  | commit => some .txCommitOk
  | rollback => some .txRollbackOk
  | publish .. | get .. | fetch .. | ack .. | nack .. | reject .. => none

def waits : Request → Bool
  | publish .. | ack .. | nack .. | reject .. => false
  | _ => true

end Request

namespace Reply

def fetchedOf (command : Assembler) : Except Error (Option Fetched) :=
  match command.method with
  | some ⟨.basicGetOk, (deliveryTag, (redelivered, ()), exchange, routingKey, messageCount, ())⟩ => do
    let body ← command.takeBody.1
    let properties := (command.header.map ContentHeader.properties).getD Properties.empty
    .ok (some ⟨deliveryTag, redelivered, exchange, routingKey, properties, body, messageCount⟩)
  | some ⟨.basicGetEmpty, _⟩ => .ok none
  | _ => .error .frameUnexpected

def ofMethod : Method → Reply
  | ⟨.queueDeclareOk, (queue, messageCount, consumerCount, ())⟩ =>
    .declared ⟨queue, messageCount, consumerCount⟩
  | ⟨.queuePurgeOk, (count, ())⟩ => .counted count
  | ⟨.queueDeleteOk, (count, ())⟩ => .counted count
  | ⟨.basicConsumeOk, (tag, ())⟩ => .started tag
  | _ => .done

def ofCommand (request : Request) (command : Assembler) : Except Error Reply :=
  match request with
  | .get .. => do
    match ← fetchedOf command with
    | some message => message.load.map fun loaded => got (some loaded)
    | none => .ok (got none)
  | .fetch .. => (fetchedOf command).map fetched
  | request =>
    match command.method with
    | some method =>
      if some method.kind = request.answerKind? then .ok (ofMethod method) else .error .frameUnexpected
    | none => .error .frameUnexpected

end Reply

namespace Connection

variable {α : Type}

def checkOpen (id : SlotId) (connection : Connection α) : Except Error Unit :=
  match (connection.slot? id).bind Slot.closed with
  | some reason => .error reason.restated
  | none => .ok ()

def numberOf (id : SlotId) (connection : Connection α) : UInt16 :=
  ((connection.slot? id).map Slot.number).getD 0

def sendOn (id : SlotId) (method : Method) (connection : Connection α) :
    Except Error Unit × Connection α :=
  match connection.checkOpen id with
  | .error e => (.error e, connection)
  | .ok () => connection.send (connection.numberOf id) method

def publishOn (id : SlotId) (exchange : String) (publish : Publish) (connection : Connection α) :
    Except Error Unit × Connection α :=
  match connection.checkOpen id with
  | .error e => (.error e, connection)
  | .ok () =>
    match publish.command exchange with
    | .error e => (.error e, connection)
    | .ok command => connection.transmit (connection.numberOf id) command

def sendRequest (id : SlotId) (request : Request) (connection : Connection α) :
    Except Error Unit × Connection α :=
  match request, request.method? with
  | .publish exchange publish, _ => connection.publishOn id exchange publish
  | _, some method => connection.sendOn id method
  | _, none => (.ok (), connection)

def prepare (id : SlotId) (request : Request) (connection : Connection α) : Connection α :=
  match request, connection.checkOpen id with
  | .consume consumer, .ok () => connection.changeQuietly id fun slot => slot.expect (some consumer.receiver)
  | _, _ => connection

/- What is left to do once a call has its result. A channel that was to be closed is closed, whatever the
result; a consumer that did not start is not expected any more. -/
def finish (id : SlotId) (request : Request) (result : Except Error Reply) (connection : Connection α) :
    Except Error Reply × Connection α :=
  match request, result with
  | .close, result => (result, (connection.release id).shutDown id .clientClosedChannel false true)
  | .consume _, .error e => (.error e, connection.changeQuietly id fun slot => slot.expect none)
  | _, result => (result, connection)

def issue (id : SlotId) (request : Request) (connection : Connection α) :
    Option (Except Error Reply) × Connection α :=
  match request.check with
  | .error e => (some (.error e), connection)
  | .ok () =>
    match (connection.prepare id request).sendRequest id request with
    | (.error e, connection) =>
      let (result, connection) := connection.finish id request (.error e)
      (some result, connection)
    | (.ok (), connection) => (if request.waits then none else some (.ok .done), connection)

def takeReply (id : SlotId) (connection : Connection α) : Except Error Assembler × Connection α :=
  match connection.slot? id with
  | none => (.error .connectionDropped, connection)
  | some slot =>
    match slot.replies with
    | [] => (.error .connectionDropped, connection)
    | reply :: rest =>
      (match reply with
        | .ok command => .ok command
        | .error reason => .error reason.restated,
        connection.setSlot id { slot with replies := rest })

def conclude (id : SlotId) (request : Request) (connection : Connection α) :
    Except Error Reply × Connection α :=
  let (reply, connection) := connection.takeReply id
  connection.finish id request (reply.bind (Reply.ofCommand request))

def giveUp (id : SlotId) (connection : Connection α) : Connection α :=
  ((connection.release id).shutDown id .clientClosedChannel false true).changeQuietly id Slot.drop

def issueOpen (asked : Option UInt16) (connection : Connection α) :
    Except Error (UInt16 × SlotId) × Connection α :=
  match connection.allocate asked with
  | (.error e, connection) => (.error e, connection)
  | (.ok (number, id), connection) =>
    match connection.sendOn id ⟨.channelOpen, ("", ())⟩ with
    | (.error e, connection) => (.error e, connection.giveUp id)
    | (.ok (), connection) => (.ok (number, id), connection)

def concludeOpen (id : SlotId) (connection : Connection α) : Except Error Unit × Connection α :=
  let (reply, connection) := connection.takeReply id
  match reply with
  | .ok command =>
    if command.method.map Method.kind = some .channelOpenOk then (.ok (), connection)
    else (.error .frameUnexpected, connection.giveUp id)
  | .error e => (.error e, connection.giveUp id)

/- Closes a channel without waiting for the server. Its number is free once the server has agreed. -/
def closeWithoutWaiting (id : SlotId) (connection : Connection α) : Connection α :=
  (connection.send (connection.numberOf id) .closeChannel).2.shutDown id .clientClosedChannel false true

def issueClose (connection : Connection α) : Connection α :=
  if connection.failure.isSome then connection
  else match connection.send 0 .closeConnection with
    | (.ok (), connection) => connection
    | (.error e, connection) => connection.fail e

def closeResult (connection : Connection α) : Except Error Unit :=
  match connection.failure with
  | some reason => if askedFor reason then .ok () else .error reason.restated
  | none => .ok ()

end Connection

end AmqpClient
