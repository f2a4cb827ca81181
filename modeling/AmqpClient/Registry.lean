import AmqpClient.Bytes

/-! Registries of listeners. Ids count up and are never handed out twice. A notification calls the
listeners that were registered when it started, whatever they do to the registry meanwhile: reactors add
listeners, take listeners out, start notifications of their own, or fail. -/
namespace AmqpClient

abbrev ListenerId := Nat

structure Registry (α : Type) where
  entries : List (ListenerId × α) := []
  next : ListenerId := 0
  deriving DecidableEq, Repr

namespace Registry

def add (registry : Registry α) (listener : α) : ListenerId × Registry α :=
  (registry.next,
    { entries := registry.entries ++ [(registry.next, listener)], next := registry.next + 1 })

def remove (registry : Registry α) (id : ListenerId) : Bool × Registry α :=
  (registry.entries.any fun entry => entry.1 == id,
    { registry with entries := registry.entries.filter fun entry => entry.1 != id })

def clear (registry : Registry α) : Registry α := { registry with entries := [] }

def ids (registry : Registry α) : List ListenerId := registry.entries.map Prod.fst

def size (registry : Registry α) : Nat := registry.entries.length

def listeners (registry : Registry α) : List α := registry.entries.map Prod.snd

/- Calls the listeners that are registered now, in order. What they do to the state is what the later ones
see; whom it calls does not change. -/
def notify (view : σ → Registry α) (call : σ → α → σ) (s : σ) : σ := (view s).listeners.foldl call s

end Registry

mutual
inductive Reactor where
  | mk (label : String) (reaction : Reaction)
  deriving DecidableEq, Repr
inductive Reaction where
  | nothing
  | fail
  | add (listener : Reactor)
  | remove (id : ListenerId)
  | clear
  | notify
  deriving DecidableEq, Repr
end

namespace Reactor

def label : Reactor → String
  | mk label _ => label

def reaction : Reactor → Reaction
  | mk _ reaction => reaction

end Reactor

structure Sounding where
  registry : Registry Reactor := {}
  calls : List (String × String) := []
  deriving DecidableEq, Repr

namespace Sounding

def longEvent : Nat := 8

def echo (event : String) : String := event ++ "+"

/- One notification. A listener that fails has no further effect; one that notifies starts a notification
with a longer event, so that the depth bounds how often that nests. -/
def notifyWithin : (depth : Nat) → String → Sounding → Sounding
  | depth, event, sounding =>
    Registry.notify Sounding.registry
      (fun sounding listener =>
        let called := { sounding with calls := sounding.calls ++ [(listener.label, event)] }
        match listener.reaction with
        | .nothing => called
        | .fail => called
        | .add other => { called with registry := (called.registry.add other).2 }
        | .remove id => { called with registry := (called.registry.remove id).2 }
        | .clear => { called with registry := called.registry.clear }
        | .notify =>
          match depth with
          | 0 => called
          | depth + 1 =>
            if event.utf8ByteSize < longEvent then notifyWithin depth (echo event) called else called)
      sounding

def notify (event : String) (sounding : Sounding) : Sounding :=
  notifyWithin longEvent event sounding

end Sounding

end AmqpClient
