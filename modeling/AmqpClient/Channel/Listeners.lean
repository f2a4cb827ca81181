import AmqpClient.Channel.Notice
import AmqpClient.Registry

/-! The listeners of a channel: a registry for each kind of event. -/
namespace AmqpClient

inductive EventKind
  | shutdown
  | returned
  | confirm
  | flow
  deriving DecidableEq, Repr

namespace ChannelEvent

def kind : ChannelEvent → EventKind
  | shutdown _ => .shutdown
  | returned _ => .returned
  | confirm _ => .confirm
  | flow _ => .flow

end ChannelEvent

structure ChannelListeners (α : Type) where
  shutdown : Registry α := {}
  returned : Registry α := {}
  confirm : Registry α := {}
  flow : Registry α := {}
  deriving DecidableEq, Repr

namespace ChannelListeners

def of (listeners : ChannelListeners α) : EventKind → Registry α
  | .shutdown => listeners.shutdown
  | .returned => listeners.returned
  | .confirm => listeners.confirm
  | .flow => listeners.flow

def set (listeners : ChannelListeners α) (kind : EventKind) (registry : Registry α) :
    ChannelListeners α :=
  match kind with
  | .shutdown => { listeners with shutdown := registry }
  | .returned => { listeners with returned := registry }
  | .confirm => { listeners with confirm := registry }
  | .flow => { listeners with flow := registry }

def add (listeners : ChannelListeners α) (kind : EventKind) (listener : α) :
    ListenerId × ChannelListeners α :=
  let (id, registry) := (listeners.of kind).add listener
  (id, listeners.set kind registry)

def remove (listeners : ChannelListeners α) (kind : EventKind) (id : ListenerId) :
    Bool × ChannelListeners α :=
  let (found, registry) := (listeners.of kind).remove id
  (found, listeners.set kind registry)

def notices (listeners : ChannelListeners α) (event : ChannelEvent) : List (α × ChannelEvent) :=
  (listeners.of event.kind).listeners.map fun listener => (listener, event)

end ChannelListeners

end AmqpClient
