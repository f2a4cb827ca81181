import AmqpClient.Topology.Catalog
import AmqpClient.Declaration

/-! What a server has confirmed of a channel's declarations: exchanges, queues, bindings and consumers,
in the order in which they were declared. Forgetting a record forgets what the server drops with it,
auto-delete records that are left unused included. -/
namespace AmqpClient

structure RecordedExchange where
  name : String
  type : ExchangeType
  options : ExchangeOptions
  deriving DecidableEq, Repr

structure RecordedQueue where
  name : String
  options : QueueOptions
  serverNamed : Bool
  deriving DecidableEq, Repr

inductive BindingKind
  | queue
  | exchange
  deriving DecidableEq, Repr

structure RecordedBinding where
  kind : BindingKind
  source : String
  destination : String
  routingKey : String
  arguments : FieldTable
  deriving DecidableEq, Repr

abbrev ReceiverId := Nat

structure RecordedConsumer where
  tag : String
  queue : String
  options : ConsumerOptions
  receiver : ReceiverId
  deriving DecidableEq, Repr

instance : Keyed RecordedExchange := ⟨RecordedExchange.name⟩
instance : Keyed RecordedQueue := ⟨RecordedQueue.name⟩
instance : Keyed RecordedConsumer := ⟨RecordedConsumer.tag⟩

namespace RecordedExchange

def isPredefined (exchange : RecordedExchange) : Bool := isPredefinedExchange exchange.name

end RecordedExchange

namespace RecordedBinding

def same (a b : RecordedBinding) : Bool :=
  a.kind == b.kind && a.source == b.source && a.destination == b.destination
    && a.routingKey == b.routingKey && a.arguments.same b.arguments

def leadsTo (binding : RecordedBinding) (kind : BindingKind) (name : String) : Bool :=
  binding.kind == kind && binding.destination == name

end RecordedBinding

structure Topology where
  exchanges : Catalog RecordedExchange := {}
  queues : Catalog RecordedQueue := {}
  bindings : List RecordedBinding := []
  consumers : Catalog RecordedConsumer := {}
  queueAliases : Aliases := {}
  tagAliases : Aliases := {}
  deriving DecidableEq, Repr

namespace Topology

def isEmpty (topology : Topology) : Bool :=
  topology.exchanges.items.isEmpty && topology.queues.items.isEmpty && topology.bindings.isEmpty
    && topology.consumers.items.isEmpty

def resolveQueue (topology : Topology) (name : String) : String := topology.queueAliases.resolve name

def resolveTag (topology : Topology) (tag : String) : String := topology.tagAliases.resolve tag

def exchange? (topology : Topology) (name : String) : Option RecordedExchange :=
  topology.exchanges.find? name

def queue? (topology : Topology) (name : String) : Option RecordedQueue :=
  topology.queues.find? (topology.resolveQueue name)

def consumer? (topology : Topology) (tag : String) : Option RecordedConsumer :=
  topology.consumers.find? (topology.resolveTag tag)

def recordExchange (topology : Topology) (exchange : RecordedExchange) : Topology :=
  { topology with exchanges := topology.exchanges.record exchange }

def recordQueue (topology : Topology) (queue : RecordedQueue) : Topology :=
  { topology with queues := topology.queues.record queue }

def recordBinding (topology : Topology) (binding : RecordedBinding) : Topology :=
  if topology.bindings.any fun known => known.same binding then topology
  else { topology with bindings := topology.bindings ++ [binding] }

def recordConsumer (topology : Topology) (consumer : RecordedConsumer) : Topology :=
  { topology with consumers := topology.consumers.record consumer }

def isUnusedExchange (topology : Topology) (name : String) : Bool :=
  match topology.exchange? name with
  | some exchange =>
    exchange.options.autoDelete && !topology.bindings.any fun binding => binding.source == name
  | none => false

def isUnusedQueue (topology : Topology) (name : String) : Bool :=
  match topology.queues.find? name with
  | some queue =>
    queue.options.autoDelete && !topology.consumers.items.any fun consumer => consumer.queue == name
  | none => false

def dropExchangeWithin : (fuel : Nat) → String → Topology → Topology
  | 0, _, topology => topology
  | fuel + 1, name, topology =>
    let into := topology.bindings.filter fun binding => binding.leadsTo .exchange name
    let kept := topology.bindings.filter fun binding =>
      !(binding.leadsTo .exchange name) && binding.source != name
    let topology := { topology with exchanges := topology.exchanges.erase name, bindings := kept }
    into.foldl
      (fun topology binding =>
        if topology.isUnusedExchange binding.source then
          dropExchangeWithin fuel binding.source topology
        else topology)
      topology

/- Every exchange that goes after the first one was recorded when it went, so that the number of recorded
exchanges bounds how far this reaches. -/
def dropExchange (topology : Topology) (name : String) : Topology :=
  dropExchangeWithin (topology.exchanges.items.length + 1) name topology

def dropUnusedExchanges (topology : Topology) (names : List String) : Topology :=
  names.foldl
    (fun topology name =>
      if topology.isUnusedExchange name then topology.dropExchange name else topology)
    topology

def deleteExchange (topology : Topology) (name : String) : Option RecordedExchange × Topology :=
  (topology.exchange? name, topology.dropExchange name)

def deleteUnusedExchange (topology : Topology) (name : String) : Bool × Topology :=
  if topology.isUnusedExchange name then (true, topology.dropExchange name) else (false, topology)

def deleteQueue (topology : Topology) (name : String) : Option RecordedQueue × Topology :=
  let name := topology.resolveQueue name
  let into := topology.bindings.filter fun binding => binding.leadsTo .queue name
  let rest :=
    { topology with
      queues := topology.queues.erase name
      bindings := topology.bindings.filter fun binding => !(binding.leadsTo .queue name)
      consumers := ⟨topology.consumers.items.filter fun consumer => consumer.queue != name⟩
      queueAliases := topology.queueAliases.forget name }
  (topology.queues.find? name, rest.dropUnusedExchanges (into.map RecordedBinding.source))

def deleteUnusedQueue (topology : Topology) (name : String) : Bool × Topology :=
  let name := topology.resolveQueue name
  if topology.isUnusedQueue name then (true, (topology.deleteQueue name).2) else (false, topology)

def deleteBinding (topology : Topology) (binding : RecordedBinding) : Bool × Topology :=
  let kept := topology.bindings.filter fun known => !(known.same binding)
  if kept.length = topology.bindings.length then (false, topology)
  else (true, ({ topology with bindings := kept }.deleteUnusedExchange binding.source).2)

def deleteConsumer (topology : Topology) (tag : String) : Option RecordedConsumer × Topology :=
  let tag := topology.resolveTag tag
  match topology.consumers.find? tag with
  | none => (none, topology)
  | some consumer =>
    let rest :=
      { topology with
        consumers := topology.consumers.erase tag
        tagAliases := topology.tagAliases.forget tag }
    (some consumer, (rest.deleteUnusedQueue consumer.queue).2)

/- Gives a recorded queue a new name. Its bindings and consumers follow, and all its earlier names lead to
the new one. -/
def renameQueue (topology : Topology) (old new : String) : Topology :=
  if old == new then topology
  else match topology.queues.find? old with
    | none => topology
    | some queue =>
      { topology with
        queues := topology.queues.supersede old { queue with name := new }
        bindings := topology.bindings.map fun binding =>
          if binding.leadsTo .queue old then { binding with destination := new } else binding
        consumers := ⟨topology.consumers.items.map fun consumer =>
          if consumer.queue == old then { consumer with queue := new } else consumer⟩
        queueAliases := topology.queueAliases.redirect old new }

def updateTag (topology : Topology) (old new : String) : Topology :=
  if old == new then topology
  else match topology.consumers.find? old with
    | none => topology
    | some consumer =>
      { topology with
        consumers := topology.consumers.supersede old { consumer with tag := new }
        tagAliases := topology.tagAliases.redirect old new }

end Topology

end AmqpClient
