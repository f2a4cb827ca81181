import AmqpClient.Proofs.Command.Limiting
import AmqpClient.Proofs.Connection.Acts

/-! Whatever is done with a connection, done one thing at a time: a command is written, a number is taken or given back,
a slot is treated. Several threads may each do their part of that, in any order. -/
namespace AmqpClient.Connection

variable {α : Type} {mended : Prop} {before middle after connection : Connection α}

def beat (connection : Connection α) : Connection α :=
  if connection.failure.isSome then connection
  else { connection with transmitter := connection.transmitter.heartbeat.2 }

def rewire (fault : Option IoFault) (connection : Connection α) : Connection α :=
  let outlet := connection.transmitter.outlet
  { connection with
    transmitter := { connection.transmitter with outlet := { outlet with sink := outlet.sink.rewire fault } } }

/- What a connection comes to. Its network may break in between, and be mended if at all. -/
inductive Wrought (mended : Prop) (before : Connection α) : Connection α → Prop
  | nothing : Wrought mended before before
  | transmitted {after : Connection α} (wrought : Wrought mended before after) (channel : UInt16)
      (command : Assembler) : Wrought mended before (after.transmit channel command).2
  | beaten {after : Connection α} (wrought : Wrought mended before after) : Wrought mended before after.beat
  | allocated {after : Connection α} (wrought : Wrought mended before after) (asked : Option UInt16) :
      Wrought mended before (after.allocate asked).2
  | released {after : Connection α} (wrought : Wrought mended before after) (id : SlotId) :
      Wrought mended before (after.release id)
  | failed {after : Connection α} (wrought : Wrought mended before after) (reason : Error) :
      Wrought mended before (after.fail reason)
  | treated {after : Connection α} (wrought : Wrought mended before after) (id : SlotId) (deed : Deed α) :
      Wrought mended before (after.change id fun slot => slot.perform deed)
  -- Bytes come in, and what has gathered is passed on.
  | passed {after : Connection α} (wrought : Wrought mended before after) (intake : Intake)
      (assemblers : List (UInt16 × Assembler)) (effects : Effects α) :
      Wrought mended before { after with intake, assemblers, effects }
  | rewired {after : Connection α} (wrought : Wrought mended before after) (fault : Option IoFault)
      (may : fault = none → mended) : Wrought mended before (after.rewire fault)

theorem setSlotPerformed {id : SlotId} {slot : Slot α} {deed : Deed α} (there : connection.slot? id = some slot)
    (silent : (slot.perform deed).2 = {}) :
    connection.change id (fun slot => slot.perform deed) = connection.setSlot id (slot.perform deed).1 := by
  simp only [change, there, silent, emitNone]

namespace Wrought

theorem into {ρ : Type} {outcome : ρ × Connection α} {result : ρ} (wrought : Wrought mended before outcome.2)
    (answer : outcome = (result, after)) : Wrought mended before after := by
  rwa [answer] at wrought

variable (wrought : Wrought mended before connection)

include wrought

theorem setSlot {id : SlotId} {slot : Slot α} (deed : Deed α) (there : connection.slot? id = some slot)
    (silent : (slot.perform deed).2 = {}) : Wrought mended before (connection.setSlot id (slot.perform deed).1) :=
  setSlotPerformed there silent ▸ wrought.treated id deed

theorem shut (id : SlotId) (reason : Error) (connectionLevel byApplication : Bool) :
    Wrought mended before (connection.shutDown id reason connectionLevel byApplication) :=
  wrought.treated id (.shut reason connectionLevel byApplication)

theorem replied (id : SlotId) (reply : Except Error Assembler) :
    Wrought mended before (connection.changeQuietly id fun slot => slot.reply reply) :=
  wrought.treated id (.reply reply)

theorem dropped (id : SlotId) : Wrought mended before (connection.changeQuietly id Slot.drop) :=
  wrought.treated id .drop

theorem expecting (id : SlotId) (receiver : Option ReceiverId) :
    Wrought mended before (connection.changeQuietly id fun slot => slot.expect receiver) :=
  wrought.treated id (.expect receiver)

theorem sent (channel : UInt16) (method : Method) : Wrought mended before (connection.send channel method).2 := by
  unfold send
  split
  · exact wrought.transmitted channel _
  · exact wrought

/-! What comes in -/

theorem dispatchedOwn (method : Method) : Wrought mended before (connection.dispatchOwn method).2 := by
  unfold dispatchOwn
  split
  · exact wrought.sent ..
  all_goals exact wrought

theorem answered (channel : UInt16) (method : Method) {andThen : Connection α → Connection α}
    (next : ∀ {connection}, Wrought mended before connection → Wrought mended before (andThen connection)) :
    Wrought mended before (connection.answering channel method andThen).2 := by
  have sent := wrought.sent channel method
  unfold answering
  split <;> rename_i answer
  · exact sent.into answer
  · exact next (sent.into answer)

theorem withContent (command : Assembler) {andThen : Properties → Bytes → Connection α → Connection α}
    (next : ∀ properties body, Wrought mended before (andThen properties body connection)) :
    Wrought mended before (connection.withContent command andThen).2 := by
  unfold Connection.withContent
  split
  · exact wrought
  · exact next _ _

theorem started (id : SlotId) (tag : String) (reply : Except Error Assembler) :
    Wrought mended before
      (match connection.slot? id with
      | none => ((.ok () : Except Error Unit), connection)
      | some slot =>
        match slot.startConsumer tag with
        | (.error e, slot) => (.error e, connection.setSlot id slot)
        | (.ok (), slot) =>
          (.ok (), (connection.setSlot id slot).changeQuietly id fun slot => slot.reply reply)).2 := by
  split
  · exact wrought
  · rename_i slot there
    have stored : Wrought mended before (connection.setSlot id (slot.startConsumer tag).2) :=
      wrought.setSlot (.start tag) there rfl
    split <;> rename_i answer <;> rw [answer] at stored
    · exact stored
    · exact stored.replied ..

theorem dispatchedTo (id : SlotId) (channel : UInt16) (method : Method) (command : Assembler) :
    Wrought mended before (connection.dispatchTo id channel method command).2 := by
  unfold dispatchTo
  dsimp only
  split
  · exact wrought.withContent command fun properties body => wrought.treated id (.deliver _ _)
  · exact wrought.withContent command fun properties body => wrought.treated id (.raise _)
  · exact wrought.treated id (.raise _)
  · exact wrought.treated id (.raise _)
  · split
    · exact wrought.treated id (.stop _ _)
    · exact wrought.answered channel _ fun further => further.treated id (.stop _ _)
  · exact wrought.answered channel _ fun further => further.treated id (.raise _)
  · exact wrought.answered channel _ fun further => (further.released id).shut ..
  · exact (wrought.released id).replied ..
  · exact wrought.started ..
  · exact (wrought.treated id (.stop _ _)).replied ..
  · exact wrought.replied ..

theorem dispatched (channel : UInt16) (command : Assembler) :
    Wrought mended before (connection.dispatch channel command).2 := by
  unfold dispatch
  split
  · exact wrought
  · split
    · exact wrought.dispatchedOwn _
    · split
      · exact wrought
      · exact wrought.dispatchedTo ..

theorem received (frame : Frame) : Wrought mended before (connection.receive frame).2 := by
  unfold receive
  split
  · exact wrought
  · split
    · exact wrought
    · exact (wrought.passed connection.intake _ connection.effects).dispatched ..
    · exact wrought.passed connection.intake _ connection.effects

omit wrought in
theorem settled {outcome : Except Error Unit × Connection α} (wrought : Wrought mended before outcome.2) :
    Wrought mended before (Connection.settled outcome) := by
  unfold Connection.settled
  split
  · exact wrought
  · exact wrought.failed _

theorem stepped {inbound rest : Inbound} (step : connection.step? inbound = some (after, rest)) :
    Wrought mended before after := by
  have taken : ∀ intake, Wrought mended before { connection with intake } := fun intake =>
    wrought.passed intake connection.assemblers connection.effects
  unfold step? at step
  split at step
  · cases step
  · split at step
    · cases step
      exact (taken _).failed _
    · cases step
      exact settled ((taken _).received _)
    · split at step
      · cases step
        exact (taken _).failed _
      · cases step
        exact taken _
      · split at step <;> cases step
        exact wrought
      · cases step
        exact wrought

/-! Calls -/

theorem sentOn (id : SlotId) (method : Method) : Wrought mended before (connection.sendOn id method).2 := by
  unfold sendOn
  split
  · exact wrought
  · exact wrought.sent ..

theorem published (id : SlotId) (exchange : String) (publish : Publish) :
    Wrought mended before (connection.publishOn id exchange publish).2 := by
  unfold publishOn
  split
  · exact wrought
  · split
    · exact wrought
    · exact wrought.transmitted ..

theorem requested (id : SlotId) (request : Request) :
    Wrought mended before (connection.sendRequest id request).2 := by
  unfold sendRequest
  split
  · exact wrought.published ..
  · exact wrought.sentOn ..
  · exact wrought

theorem closed (id : SlotId) :
    Wrought mended before ((connection.release id).shutDown id .clientClosedChannel false true) :=
  (wrought.released id).shut ..

theorem prepared (id : SlotId) (request : Request) : Wrought mended before (connection.prepare id request) := by
  unfold prepare
  split
  · exact wrought.expecting ..
  · exact wrought

theorem finished (id : SlotId) (request : Request) (result : Except Error Reply) :
    Wrought mended before (connection.finish id request result).2 := by
  unfold finish
  split
  · exact wrought.closed id
  · exact wrought.expecting ..
  · exact wrought

theorem issued (id : SlotId) (request : Request) : Wrought mended before (connection.issue id request).2 := by
  have sent := (wrought.prepared id request).requested id request
  unfold issue
  split
  · exact wrought
  · split <;> rename_i answer
    · exact (sent.into answer).finished ..
    · exact sent.into answer

theorem tookReply (id : SlotId) : Wrought mended before (connection.takeReply id).2 := by
  unfold takeReply
  split
  · exact wrought
  · rename_i slot there
    split
    · exact wrought
    · rename_i reply rest waiting
      have taken := wrought.setSlot .take there rfl
      rw [Slot.perform, waiting] at taken
      exact taken

theorem concluded (id : SlotId) (request : Request) : Wrought mended before (connection.conclude id request).2 :=
  (wrought.tookReply id).finished ..

theorem gaveUp (id : SlotId) : Wrought mended before (connection.giveUp id) := (wrought.closed id).dropped id

theorem openIssued (asked : Option UInt16) : Wrought mended before (connection.issueOpen asked).2 := by
  have allocated := wrought.allocated asked
  unfold issueOpen
  split
  · rename_i answer
    exact allocated.into answer
  · rename_i number id opened answer
    have sent := (allocated.into answer).sentOn id ⟨.channelOpen, ("", ())⟩
    split <;> rename_i answer
    · exact (sent.into answer).gaveUp _
    · exact sent.into answer

theorem openConcluded (id : SlotId) : Wrought mended before (connection.concludeOpen id).2 := by
  have taken := wrought.tookReply id
  unfold concludeOpen
  dsimp only
  split
  · split
    · exact taken
    · exact taken.gaveUp id
  · exact taken.gaveUp id

theorem left (id : SlotId) : Wrought mended before (connection.closeWithoutWaiting id) := (wrought.sent _ _).shut ..

theorem closeIssued : Wrought mended before connection.issueClose := by
  have sent := wrought.sent 0 .closeConnection
  unfold issueClose
  split
  · exact wrought
  · split <;> rename_i answer
    · exact sent.into answer
    · exact (sent.into answer).failed _

theorem acted (act : Act α) (wired : ∀ transmitter, act ≠ .rewires transmitter) :
    Wrought mended before (connection.act act) := by
  cases act with
  | receives frame => exact settled (wrought.received frame)
  | fails reason => exact wrought.failed reason
  | opens asked => exact wrought.openIssued asked
  | opened id => exact wrought.openConcluded id
  | asks id request => exact wrought.issued id request
  | learns id request => exact wrought.concluded id request
  | leaves id => exact wrought.left id
  | drops id => exact wrought.dropped id
  | closes => exact wrought.closeIssued
  | listens id kind listener => exact wrought.treated id (.listen kind listener)
  | unlistens id kind listener => exact wrought.treated id (.unlisten kind listener)
  | reads intake => exact wrought.passed intake connection.assemblers connection.effects
  | rewires transmitter => exact absurd rfl (wired transmitter)

end Wrought

theorem actAllWrought (connection : Connection α) (acts : List (Act α))
    (wired : ∀ transmitter, .rewires transmitter ∉ acts) :
    Wrought mended connection (connection.actAll acts) :=
  List.foldlRecOn acts act .nothing fun _ wrought act member =>
    wrought.acted act fun transmitter same => wired transmitter (same ▸ member)

end AmqpClient.Connection
