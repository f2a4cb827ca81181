import AmqpClient.Channel.Request
import AmqpClient.Registry

/-! Receivers of consumer messages. A receiver keeps what is sent to it, in order, until it is read; what
is sent to a receiver that its owner has dropped is lost. The desk is what an application keeps beside its channels:
the receivers of its consumers, the messages that have reached it, and its listeners' ids under labels of its own. -/
namespace AmqpClient

structure Mail where
  next : ReceiverId := 0
  dropped : List ReceiverId := []
  arrived : List (ReceiverId × ConsumerMessage) := []

namespace Mail

def receiver (mail : Mail) : ReceiverId × Mail := (mail.next, { mail with next := mail.next + 1 })

def isDropped (mail : Mail) (receiver : ReceiverId) : Bool := mail.dropped.contains receiver

def drop (receiver : ReceiverId) (mail : Mail) : Mail :=
  { mail with dropped := receiver :: mail.dropped }

def send (receiver : ReceiverId) (message : ConsumerMessage) (mail : Mail) : Bool × Mail :=
  if mail.isDropped receiver then (false, mail)
  else (true, { mail with arrived := mail.arrived ++ [(receiver, message)] })

def messagesOf (mail : Mail) (receiver : ReceiverId) : List ConsumerMessage :=
  (mail.arrived.filter fun entry => entry.1 == receiver).map Prod.snd

def emptied (mail : Mail) : Mail := { mail with arrived := [] }

end Mail

structure Desk where
  consumers : List ReceiverId := []
  deliveries : List Delivery := []
  labels : List (String × ListenerId) := []

namespace Desk

def label (desk : Desk) (name : String) (id : ListenerId) : Desk :=
  { desk with labels := (name, id) :: desk.labels.filter fun entry => entry.1 != name }

def idOf? (desk : Desk) (name : String) : Option ListenerId :=
  (desk.labels.find? fun entry => entry.1 == name).map Prod.snd

def keep (desk : Desk) (receiver : ReceiverId) : Desk :=
  { desk with consumers := desk.consumers ++ [receiver] }

def take (desk : Desk) (receiver : ReceiverId) : Reply → Desk
  | .got (some (delivery, _)) => { desk with deliveries := desk.deliveries ++ [delivery] }
  | .started _ => desk.keep receiver
  | _ => desk

def arrivals (desk : Desk) (mail : Mail) : List (Nat × ConsumerMessage) :=
  (desk.consumers.zipIdx.map fun (receiver, place) =>
    (mail.messagesOf receiver).map fun message => (place, message)).flatten

def collect (desk : Desk) (mail : Mail) : Desk :=
  let deliveries := (desk.arrivals mail).filterMap fun
    | (_, .delivery delivery) => some delivery
    | _ => none
  { desk with deliveries := desk.deliveries ++ deliveries }

end Desk

end AmqpClient
