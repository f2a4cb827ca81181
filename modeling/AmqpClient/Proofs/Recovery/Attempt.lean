import AmqpClient.Recovery

/-! One call and one recovery, taken apart. A call is refused, or it closes the channel, or it is asked of the
delegate and noted. A recovery reports that it has started and opens a new channel; on that it restores what is on
record, once the new channel has taken the old one's place; and it reports how it ended. -/
namespace AmqpClient.RecoveringChannel

variable {ω η κ : Type} (link : Link ω η κ)

def noted (self : RecoveringChannel ω η κ) (request : Request) : Except Error Reply × RecoveringChannel ω η κ :=
  let (result, after) := self.ask link (self.record.resolve request)
  (result, { after with record := after.record.note request result })

inductive Called (self : RecoveringChannel ω η κ) (request : Request) :
    Except Error Reply × RecoveringChannel ω η κ → Prop
  | refused (e : Error) : Called self request (.error e, self)
  | closing (usable : self.status ≠ .closed) (last : request = .close) : Called self request (self.close link)
  | lasting (usable : self.status ≠ .closed) (other : request ≠ .close) : Called self request (self.noted link request)

theorem called (self : RecoveringChannel ω η κ) (request : Request) :
    Called link self request (self.call link request) := by
  unfold call
  cases request.check with
  | error e => exact .refused e
  | ok =>
    by_cases closed : self.status = .closed
    · dsimp only
      rw [if_pos closed]
      exact .refused _
    · dsimp only
      rw [if_neg closed]
      split
      · exact .closing closed rfl
      · exact .lasting closed ‹_›

def begun (self : RecoveringChannel ω η κ) : RecoveringChannel ω η κ :=
  self.report link (.recoveryStarted self.channel)

def reopening (self : RecoveringChannel ω η κ) : Except Error (κ × UInt16 × η) × ω :=
  reopen link (some self.channel) (self.report link (.recoveryStarted self.channel)).world

def reattached (self : RecoveringChannel ω η κ) (world : ω) (connection : κ) (delegate : η) :
    RecoveringChannel ω η κ :=
  (attend link { self.begun link with world }).replaceDelegate link connection delegate

inductive Ran (self : RecoveringChannel ω η κ) : Except Error Unit × RecoveringChannel ω η κ → Prop
  | refused {e world} (unopened : self.reopening link = (.error e, world)) :
      Ran self (recoveryFailed link e { attend link { self.begun link with world } with status := .open })
  | failed {connection number delegate world cause restored}
      (opened : self.reopening link = (.ok (connection, number, delegate), world))
      (replay : (self.reattached link world connection delegate).restore link = (.error cause, restored)) :
      Ran self (recoveryFailed link cause
        { restored.abandonConsumers link (.serverClosedConnection cause) with status := .closed })
  | replayed {connection number delegate world restored}
      (opened : self.reopening link = (.ok (connection, number, delegate), world))
      (replay : (self.reattached link world connection delegate).restore link = (.ok (), restored)) :
      Ran self (.ok (), report link (.recoveryCompleted self.channel) { restored with status := .open })

theorem ran (self : RecoveringChannel ω η κ) : Ran link self (self.runRecovery link) := by
  unfold runRecovery
  dsimp only
  rcases opened : reopen link (some self.channel) (self.report link (.recoveryStarted self.channel)).world
    with ⟨e | ⟨connection, number, delegate⟩, world⟩
  · exact .refused opened
  · dsimp only
    rcases replay : restore link _ with ⟨cause | ⟨⟩, restored⟩
    · exact .failed opened replay
    · exact .replayed opened replay

end AmqpClient.RecoveringChannel
