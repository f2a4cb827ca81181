import AmqpClient.Proofs.Command.Writing
import AmqpClient.Proofs.Outlet.Breaking
import AmqpClient.Declaration
import Mathlib.Logic.Function.Basic

/-! Many calls on one transmitter over a sink that may fail for good, beside the same calls on plain memory.
The sink accepts the first bytes of what memory gets, leftovers of failed calls among them, and a call that
succeeds leaves nothing of them behind. -/
namespace AmqpClient

/- A call names its command by a number, so that a command which is sent again is found as the last call has
left it. -/
inductive Order
  | send (item : Nat) (channel : UInt16)
  | heartbeat

namespace Order

def output (frameMax : UInt32) (commands : Nat → Assembler) : Order → Bytes
  | send item channel => ((Command.collected (commands item) channel frameMax).state.map Frame.encode).flatten
  | heartbeat => Frame.heartbeat.encode

def commandsAfter (frameMax : UInt32) (commands : Nat → Assembler) : Order → Nat → Assembler
  | send item channel => Function.update commands item (Command.collected (commands item) channel frameMax).command
  | heartbeat => commands

end Order

structure Forwarding where
  commands : Nat → Assembler
  transmitter : Transmitter

namespace Forwarding

def act (self : Forwarding) : Order → Except Error Unit × Forwarding
  | .send item channel =>
    let (result, command, transmitter) := self.transmitter.transmit (self.commands item) channel
    (result, ⟨Function.update self.commands item command, transmitter⟩)
  | .heartbeat =>
    let (result, transmitter) := self.transmitter.heartbeat
    (result, { self with transmitter })

def actAll (orders : List Order) (self : Forwarding) : Forwarding :=
  orders.foldl (fun self order => (self.act order).2) self

def accepted (self : Forwarding) : Bytes := self.transmitter.outlet.sink.accepted.toList

end Forwarding

structure Draft where
  commands : Nat → Assembler
  bytes : Bytes := []

namespace Draft

def act (frameMax : UInt32) (draft : Draft) (order : Order) : Draft where
  commands := order.commandsAfter frameMax draft.commands
  bytes := draft.bytes ++ order.output frameMax draft.commands

def actAll (frameMax : UInt32) (orders : List Order) (draft : Draft) : Draft :=
  orders.foldl (act frameMax) draft

end Draft

theorem Command.putAllSent (frames : List Frame) (outlet : Outlet) (brisk : outlet.sink.Brisk) :
    Outlet.Sent (frames.map Frame.encode).flatten outlet (putAll Outlet.writeFrame frames outlet).1
      (putAll Outlet.writeFrame frames outlet).2 := by
  induction frames generalizing outlet with
  | nil => exact .nothing outlet brisk
  | cons frame rest ih =>
    have written := Outlet.writeFrameSent outlet frame brisk
    rw [List.map_cons, List.flatten_cons, putAll]
    rcases outcome : outlet.writeFrame frame with ⟨fault | ⟨⟩, middle⟩
    · rw [outcome] at written
      exact written.cut _
    · rw [outcome] at written
      exact written.trans (ih middle written.brisk)

theorem Command.writeCommand {σ : Type} {put : σ → Frame → Except IoFault Unit × σ} {s next : σ}
    (command : Assembler) (channel : UInt16) (frameMax : UInt32)
    (all : putAll put (collected command channel frameMax).state s = (.ok (), next)) :
    (write put s command channel frameMax).command = (collected command channel frameMax).command := by
  cases named : command.method with
  | none => simp only [collected, write, named]
  | some method =>
    cases framed : method.frame channel with
    | error e => simp only [collected, write, named, framed]
    | ok frame =>
      obtain ⟨frames, result, delivered⟩ := writeFollows named framed frameMax
      rw [(collectedAs delivered).2, putAll] at all
      rcases first : put s frame with ⟨fault | ⟨⟩, middle⟩
      · simp [first] at all
      · simp only [collected, write, named, framed, first, collect]
        by_cases content : method.hasContent = true
        · simp only [if_pos content]
          cases command.header with
          | none => rfl
          | some header => rcases command.takeBody with ⟨e | body, after⟩ <;> rfl
        · simp only [if_neg content]

theorem Command.collectedFilled {command : Assembler} {channel : UInt16} {frameMax : UInt32} {count : Nat}
    (written : (collected command channel frameMax).result = .ok count) :
    ((collected command channel frameMax).state.map Frame.encode).flatten ≠ [] := by
  cases put : (collected command channel frameMax).state with
  | cons frame rest => exact List.cons_ne_nil _ _
  | nil =>
    have speechless := (collectedSpeechless command channel frameMax).mp put
    unfold collected write at written
    cases named : command.method with
    | none => simp [named] at written
    | some method =>
      obtain ⟨e, framed⟩ := speechless method named
      simp [named, framed] at written

/- A call that was to put out those bytes. Unless the sink has failed for good they are on their way, and the
call has left its command as it should; if the call succeeded they have arrived. -/
structure Outlet.Served (output : Bytes) (outlet : Outlet) (result : Except Error Unit) (next : Outlet)
    (kept : Prop) : Prop where
  becomes : outlet.sink.Becomes next.sink
  brisk : next.sink.Brisk
  spent : outlet.sink.room = some 0 → next.sink.room = some 0 ∧ next.sink.accepted = outlet.sink.accepted
  outcome : next.produced = outlet.produced ++ output ∧ kept ∨
    next.sink.room = some 0 ∧ next.sink.accepted.toList <+: outlet.produced ++ output
  arrived : result = .ok () → output ≠ [] ∧ next.sink.accepted.toList = outlet.produced ++ output

namespace Outlet

variable {output : Bytes} {outlet next : Outlet} {result : Except Error Unit} {kept other : Prop}

theorem Served.imp (served : Served output outlet result next kept) (implies : kept → other) :
    Served output outlet result next other :=
  ⟨served.becomes, served.brisk, served.spent, served.outcome.imp (And.imp_right implies) id, served.arrived⟩

theorem Sent.stopped {fault : IoFault} (sent : Sent output outlet (.error fault) next) :
    Served output outlet (.error (.io fault)) next kept :=
  ⟨sent.becomes, sent.brisk, sent.spent, .inr (sent.failed fault rfl), fun ok => by contradiction⟩

theorem Sent.waiting (sent : Sent output outlet (.ok ()) next) (holds : kept) (e : Error) :
    Served output outlet (.error e) next kept :=
  ⟨sent.becomes, sent.brisk, sent.spent, .inl ⟨sent.whole rfl, holds⟩, fun ok => by contradiction⟩

theorem Sent.flushed (transmitter : Transmitter) (sent : Sent output outlet (.ok ()) transmitter.outlet)
    (holds : kept) (filled : output ≠ []) :
    ∃ result next, transmitter.flush = (result, { transmitter with outlet := next }) ∧
      Served output outlet result next kept := by
  obtain ⟨flushed, empty⟩ := flushSent transmitter.outlet sent.brisk
  have both := sent.trans flushed
  rw [List.append_nil] at both
  unfold Transmitter.flush
  rcases outcome : transmitter.outlet.flush with ⟨fault | ⟨⟩, next⟩
  · rw [outcome] at both
    exact ⟨.error (.io fault), next, rfl, both.stopped⟩
  · rw [outcome] at both empty
    have arrived : next.sink.accepted.toList = outlet.produced ++ output := by
      rw [← both.whole rfl, produced, empty rfl, List.append_nil]
    exact ⟨.ok (), next, rfl, both.becomes, both.brisk, both.spent, .inl ⟨both.whole rfl, holds⟩,
      fun _ => ⟨filled, arrived⟩⟩

end Outlet

namespace Transmitter

variable (transmitter : Transmitter) (brisk : transmitter.outlet.sink.Brisk)

include brisk

theorem heartbeatServed : ∃ result next, transmitter.heartbeat = (result, { transmitter with outlet := next }) ∧
    Outlet.Served Frame.heartbeat.encode transmitter.outlet result next True := by
  have sent := Outlet.writeFrameSent transmitter.outlet Frame.heartbeat brisk
  unfold heartbeat
  rcases written : transmitter.outlet.writeFrame Frame.heartbeat with ⟨fault | ⟨⟩, middle⟩
  · rw [written] at sent
    exact ⟨.error (.io fault), middle, rfl, sent.stopped⟩
  · rw [written] at sent
    exact Outlet.Sent.flushed { transmitter with outlet := middle } sent trivial (List.cons_ne_nil _ _)

theorem transmitServed (command : Assembler) (channel : UInt16) :
    ∃ result after next, transmitter.transmit command channel = (result, after, { transmitter with outlet := next }) ∧
      Outlet.Served ((Command.collected command channel transmitter.frameMax).state.map Frame.encode).flatten
        transmitter.outlet result next
        (after = (Command.collected command channel transmitter.frameMax).command) := by
  have sent := Command.putAllSent (Command.collected command channel transmitter.frameMax).state
    transmitter.outlet brisk
  have delivered := Command.writeCollected Outlet.writeFrame transmitter.outlet command channel transmitter.frameMax
  unfold Command.deliver at delivered
  unfold transmit
  rcases all : Command.putAll Outlet.writeFrame
    (Command.collected command channel transmitter.frameMax).state transmitter.outlet with ⟨fault | ⟨⟩, middle⟩
  · simp only [all, Prod.mk.injEq] at delivered sent
    simp only [delivered]
    exact ⟨_, _, _, rfl, sent.stopped⟩
  · have after := Command.writeCommand command channel transmitter.frameMax all
    simp only [all, Prod.mk.injEq] at delivered sent
    simp only [delivered, after]
    cases counted : (Command.collected command channel transmitter.frameMax).result with
    | error e => exact ⟨_, _, _, rfl, sent.waiting rfl e⟩
    | ok count =>
      obtain ⟨result, next, flushed, served⟩ := Outlet.Sent.flushed { transmitter with outlet := middle } sent
        (Eq.refl (Command.collected command channel transmitter.frameMax).command) (Command.collectedFilled counted)
      simp only [flushed]
      exact ⟨result, _, next, rfl, served⟩

end Transmitter

namespace Forwarding

theorem actServed (self : Forwarding) (order : Order) (brisk : self.transmitter.outlet.sink.Brisk) :
    ∃ result commands outlet, self.act order = (result, ⟨commands, { self.transmitter with outlet }⟩) ∧
      Outlet.Served (order.output self.transmitter.frameMax self.commands) self.transmitter.outlet result outlet
        (commands = order.commandsAfter self.transmitter.frameMax self.commands) := by
  cases order with
  | heartbeat =>
    obtain ⟨result, next, beaten, served⟩ := self.transmitter.heartbeatServed brisk
    simp only [act, beaten]
    exact ⟨result, self.commands, next, rfl, served.imp fun _ => rfl⟩
  | send item channel =>
    obtain ⟨result, after, next, transmitted, served⟩ :=
      self.transmitter.transmitServed brisk (self.commands item) channel
    simp only [act, transmitted]
    exact ⟨result, _, next, rfl, served.imp fun same => congrArg (Function.update self.commands item) same⟩

/- As long as the sink works the commands are as in memory and all is on its way. Afterwards nothing more is
accepted, and what was is the first of what memory got. -/
structure Abreast (frameMax : UInt32) (real : Forwarding) (draft : Draft) : Prop where
  limited : real.transmitter.frameMax = frameMax
  brisk : real.transmitter.outlet.sink.Brisk
  outcome : real.commands = draft.commands ∧ real.transmitter.outlet.produced = draft.bytes ∨
    real.transmitter.outlet.sink.room = some 0 ∧ real.accepted <+: draft.bytes

namespace Abreast

variable {frameMax : UInt32} {self : Forwarding} {draft : Draft}

theorem acceptedFirst (abreast : Abreast frameMax self draft) : self.accepted <+: draft.bytes := by
  obtain ⟨_, whole⟩ | ⟨_, first⟩ := abreast.outcome
  · exact whole ▸ List.prefix_append _ _
  · exact first

theorem act (abreast : Abreast frameMax self draft) (order : Order) :
    Abreast frameMax (self.act order).2 (draft.act frameMax order) ∧
      self.transmitter.outlet.sink.Becomes (self.act order).2.transmitter.outlet.sink ∧
      ((self.act order).1 = .ok () → (self.act order).2.accepted = (draft.act frameMax order).bytes) := by
  obtain ⟨limited, brisk, outcome⟩ := abreast
  obtain ⟨result, commands, outlet, acted, served⟩ := self.actServed order brisk
  rw [acted]
  rw [limited] at served
  obtain ⟨same, whole⟩ | ⟨spent, first⟩ := outcome
  · rw [same] at served
    have outcome := served.outcome
    have arrived := served.arrived
    rw [whole] at outcome arrived
    exact ⟨⟨limited, served.brisk, outcome.imp And.symm id⟩, served.becomes, fun ok => (arrived ok).2⟩
  · obtain ⟨still, unchanged⟩ := served.spent spent
    have accepted : outlet.sink.accepted.toList = self.accepted := congrArg Array.toList unchanged
    refine ⟨⟨limited, served.brisk, .inr ⟨still, ?_⟩⟩, served.becomes, fun ok => ?_⟩
    · exact (accepted.symm ▸ first : outlet.sink.accepted.toList <+: draft.bytes).trans (List.prefix_append _ _)
    · -- a sink that has failed for good cannot take the output of the call
      obtain ⟨filled, arrived⟩ := served.arrived ok
      rw [accepted, Outlet.produced, List.append_assoc] at arrived
      exact absurd (List.append_eq_nil_iff.mp (List.self_eq_append_right.mp arrived)).2 filled

theorem actAll (abreast : Abreast frameMax self draft) (orders : List Order) :
    Abreast frameMax (self.actAll orders) (draft.actAll frameMax orders) := by
  induction orders generalizing self draft with
  | nil => exact abreast
  | cons order rest ih => exact ih (abreast.act order).1

end Abreast

theorem acceptedInOrder (frameMax : UInt32) (room : Option Nat) (most : Nat → Option Nat) (fault : IoFault)
    (brisk : ∀ turn, most turn ≠ some 0) (commands : Nat → Assembler) (orders : List Order) (order : Order) :
    let self : Forwarding :=
      actAll orders { commands, transmitter := { frameMax, outlet := { sink := { room, most, fault } } } }
    let draft := Draft.actAll frameMax orders { commands }
    let next := (self.act order).2
    let whole := (draft.act frameMax order).bytes
    self.accepted <+: draft.bytes ∧
      self.transmitter.outlet.sink.Becomes next.transmitter.outlet.sink ∧
      (∀ midway : Sink, midway.Becomes next.transmitter.outlet.sink → midway.accepted.toList <+: whole) ∧
      ((self.act order).1 = .ok () → next.accepted = whole) := by
  intro self draft next whole
  let first : Forwarding := { commands, transmitter := { frameMax, outlet := { sink := { room, most, fault } } } }
  have fresh : Abreast frameMax first { commands } := ⟨rfl, brisk, .inl ⟨rfl, rfl⟩⟩
  have abreast : Abreast frameMax self draft := fresh.actAll orders
  obtain ⟨going, becomes, arrived⟩ := abreast.act order
  exact ⟨abreast.acceptedFirst, becomes, fun midway later => later.grown.trans going.acceptedFirst, arrived⟩

def shortBody : Assembler where
  state := .complete
  method := some (({ routingKey := "", body := .empty } : Publish).method "")
  header := some (.basic 5 .empty)
  body := .supplied (.ofSource (.ofBytes [1, 2]) 5)

def tight : Forwarding where
  commands _ := shortBody
  transmitter := { frameMax := 4096, outlet := { sink := { room := some 50, most := fun _ => some 3 } } }

/- The method and the header of a command that fails are 39 bytes and go out with the heartbeat after it. Of the
next heartbeat three bytes go out. -/
theorem tightForwarded :
    (∀ turn, (fun _ : Nat => some 3) turn ≠ some 0) ∧
      (tight.actAll [.send 0 1]).accepted = [] ∧
      ((tight.actAll [.send 0 1]).act .heartbeat).1 = .ok () ∧
      ((tight.actAll [.send 0 1]).act .heartbeat).2.accepted =
        ((Draft.actAll 4096 [.send 0 1] { commands := tight.commands }).act 4096 .heartbeat).bytes ∧
      ((tight.actAll [.send 0 1, .heartbeat]).act .heartbeat).1 = .error (.io ⟨.brokenPipe, ""⟩) ∧
      ((tight.actAll [.send 0 1, .heartbeat]).act .heartbeat).2.accepted.length = 50 ∧
      ((tight.actAll [.send 0 1, .heartbeat]).act .heartbeat).2.accepted <+:
        ((Draft.actAll 4096 [.send 0 1, .heartbeat] { commands := tight.commands }).act 4096 .heartbeat).bytes := by
  have brisk : ∀ turn, (fun _ : Nat => some 3) turn ≠ some 0 := by simp
  have one := acceptedInOrder 4096 (some 50) (fun _ => some 3) ⟨.brokenPipe, ""⟩ brisk tight.commands
    [.send 0 1] .heartbeat
  have two := acceptedInOrder 4096 (some 50) (fun _ => some 3) ⟨.brokenPipe, ""⟩ brisk tight.commands
    [.send 0 1, .heartbeat] .heartbeat
  exact ⟨brisk, rfl, rfl, one.2.2.2 rfl, rfl, rfl, two.2.2.1 _ .refl⟩

end Forwarding

end AmqpClient
