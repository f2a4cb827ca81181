import AmqpClient.Connection.Live
import AmqpClient.Recovery

/-! Recovering channels over live connections. A server may have several addresses; connecting takes the
first that can be reached. What the server does is laid out beforehand, connection by connection: what it
sends at once, and what it sends in answer to each command. -/
namespace AmqpClient

def dial (attempt : α → ω → Except Error κ × ω) : List α → ω → Except Error κ × ω
  | [], world => (.error .connectionDropped, world)
  | [address], world => attempt address world
  | address :: rest, world =>
    match attempt address world with
    | (.ok connection, world) => (.ok connection, world)
    | (.error _, world) => dial attempt rest world

structure ServerPlan where
  inbound : Inbound := {}
  answers : List Inbound := []
  deriving DecidableEq, Repr

structure Network where
  options : ConnectionOptions := {}
  addresses : List Bool
  plans : List ServerPlan := []
  lines : List (LiveConnection Generation) := []
  mail : Mail := {}
  events : List (Generation × ChannelEvent) := []
  heard : List (String × Notice) := []

namespace Network

abbrev Handle := Nat × SlotId

def keep (place : Nat) (line : LiveConnection Generation) (world : Network) : Network :=
  { world with
    lines := world.lines.set place { line with heard := [], mail := {} }
    events := world.events ++ line.heard
    mail := line.mail.arrived.foldl (fun mail entry => (mail.send entry.1 entry.2).2) world.mail }

def on (place : Nat) (other : β) (f : LiveConnection Generation → β × LiveConnection Generation)
    (world : Network) : β × Network :=
  match world.lines[place]? with
  | some line => ((f line).1, world.keep place (f line).2)
  | none => (other, world)

def onQuietly (place : Nat) (f : LiveConnection Generation → LiveConnection Generation)
    (world : Network) : Network :=
  (world.on place () fun line => ((), f line)).2

def attempt (reachable : Bool) (world : Network) : Except Error Nat × Network :=
  match reachable, world.plans with
  | false, _ => (.error (.io ⟨.networkUnreachable, ""⟩), world)
  | true, [] => (.error (.io ⟨.connectionRefused, ""⟩), world)
  | true, plan :: plans =>
    match LiveConnection.start world.options plan.inbound {} with
    | (.error e, _) => (.error e, { world with plans })
    | (.ok (_, _, line), _) =>
      (.ok world.lines.length,
        { world with plans, lines := world.lines ++ [{ line with answers := plan.answers }] })

def openChannel (place : Nat) (asked : Option UInt16) (world : Network) :
    Except Error (UInt16 × Handle) × Network :=
  world.on place (.error .connectionDropped) fun line =>
    let (result, line) := line.claim line.acting asked
    (result.map fun (number, id) => (number, (place, id)), line)

def attach (handle : Handle) (generation : Generation) : Network → Network :=
  onQuietly handle.1 fun line =>
    [EventKind.shutdown, .returned, .confirm, .flow].foldl
      (fun line kind => (line.listen handle.2 kind { label := generation }).2) line

def hear (listener : Listener) (notice : Notice) (world : Network) : Except String Unit × Network :=
  (if listener.fails then .error listener.label else .ok (),
    { world with heard := world.heard ++ [(listener.label, notice)] })

def link : Link Network Handle Nat where
  connect world := dial attempt world.addresses world
  openChannel := openChannel
  attach := attach
  request handle request :=
    on handle.1 (.error .connectionDropped) fun line => line.call line.acting handle.2 request
  dropChannel handle := onQuietly handle.1 fun line => line.release line.acting .application handle.2
  dropConnection place := onQuietly place fun line => (line.close line.acting .application).2
  tell receiver message world := { world with mail := (world.mail.send receiver message).2 }
  hear := hear
  raised world := (world.events, { world with events := [] })

def inject (place : Nat) (more : Inbound) : Network → Network :=
  onQuietly place fun line =>
    let reached := line.inject more
    reached.read reached.acting

end Network

end AmqpClient
