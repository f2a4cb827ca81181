import AmqpClient.Connection

/-! What a peer has sent that is not read yet. Unless the stream has ended, more may come, so that a
reader who has read everything waits. -/
namespace AmqpClient

structure Inbound where
  arrivals : Stream := []
  ended : Bool := false
  deriving DecidableEq, Repr

namespace Inbound

def ofPieces (pieces : Stream) (ended : Bool) : Inbound :=
  ⟨pieces.filter fun piece => piece != .data [], ended⟩

def patient (inbound : Inbound) : Stream :=
  if inbound.ended then inbound.arrivals else inbound.arrivals ++ [.fault .wouldBlock]

def leaving (inbound : Inbound) (rest : Stream) : Inbound :=
  { inbound with arrivals := if inbound.ended then rest else rest.dropLast }

def append (inbound more : Inbound) : Inbound :=
  if inbound.ended then inbound
  else { arrivals := inbound.arrivals ++ more.arrivals, ended := more.ended }

def weight (inbound : Inbound) : Nat := Stream.weight inbound.arrivals

end Inbound

namespace Connection

variable {α : Type}

def settled : Except Error Unit × Connection α → Connection α
  | (.ok (), connection) => connection
  | (.error e, connection) => connection.fail e

/- One step of the reader: takes in a frame that is complete, or else reads once. There is none where it
waits, and none once the connection has failed. -/
def step? (connection : Connection α) (inbound : Inbound) : Option (Connection α × Inbound) :=
  if connection.failure.isSome then none
  else match connection.intake.take with
    | (.error e, intake) => some ({ connection with intake }.fail e, inbound)
    | (.ok (some frame), intake) => some (settled ({ connection with intake }.receive frame), inbound)
    | (.ok none, _) =>
      match connection.intake.fill inbound.patient with
      | (.error e, intake, rest) => some ({ connection with intake }.fail e, inbound.leaving rest)
      | (.ok (.read _), intake, rest) => some ({ connection with intake }, inbound.leaving rest)
      | (.ok .wouldBlock, _, []) =>
        if inbound.ended then some (connection, inbound.leaving []) else none
      | (.ok .wouldBlock, _, rest) => some (connection, inbound.leaving rest)

/- More steps than the reader can take: every byte is read at most once and is part of at most one frame. -/
def stepBound (connection : Connection α) (inbound : Inbound) : Nat :=
  connection.intake.pending.length + 2 * inbound.weight + 2

end Connection

end AmqpClient
