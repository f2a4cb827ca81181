import AmqpClient.Proofs.Connection.Motion
import AmqpClient.Connection.Call
import AmqpClient.Connection.Inbound

/-! What a connection does to its slots. Whatever is sent or received, slots are opened and treated one at a time,
and what comes of it gathers in the connection. Only a call that starts a consumer expects one first. -/
namespace AmqpClient.Connection

variable {α : Type} {before middle after connection : Connection α}

def Moved (before after : Connection α) : Prop :=
  ∃ effects, Slot.Moves before.slots effects after.slots ∧ after.effects = before.effects.and effects

namespace Moved

theorem still (slots : after.slots = before.slots) (effects : after.effects = before.effects) : Moved before after :=
  ⟨{}, slots ▸ .still, effects.trans (Effects.andNone _).symm⟩

theorem refl (connection : Connection α) : Moved connection connection := .still rfl rfl

theorem trans (one : Moved before middle) (two : Moved middle after) : Moved before after := by
  obtain ⟨first, moves, effects⟩ := one
  obtain ⟨second, further, more⟩ := two
  exact ⟨first.and second, moves.trans further, by rw [more, effects, Effects.andAnd]⟩

theorem into {ρ : Type} {outcome : ρ × Connection α} {result : ρ} (moved : Moved before outcome.2)
    (answer : outcome = (result, after)) : Moved before after := by
  rwa [answer] at moved

end Moved

theorem changeMoved (id : SlotId) (f : Slot α → Slot α × Effects α) (connection : Connection α)
    (treated : ∀ slot : Slot α, slot.Treated (f slot).1 (f slot).2) : Moved connection (connection.change id f) := by
  unfold change
  cases there : connection.slot? id with
  | none => exact .refl connection
  | some slot => exact ⟨(f slot).2, Effects.noneAnd (f slot).2 ▸ Slot.Moves.still.treated there (treated slot), rfl⟩

theorem changeQuietlyMoves (id : SlotId) (f : Slot α → Slot α) (connection : Connection α)
    (treated : ∀ slot : Slot α, slot.Treated (f slot) {}) :
    Slot.Moves connection.slots {} (connection.changeQuietly id f).slots ∧
      (connection.changeQuietly id f).effects = connection.effects := by
  unfold changeQuietly change
  cases there : connection.slot? id with
  | none => exact ⟨.still, rfl⟩
  | some slot =>
    exact ⟨Effects.noneAnd ({} : Effects α) ▸ Slot.Moves.still.treated there (treated slot), Effects.andNone _⟩

theorem changeQuietlyMoved (id : SlotId) (f : Slot α → Slot α) (connection : Connection α)
    (treated : ∀ slot : Slot α, slot.Treated (f slot) {}) : Moved connection (connection.changeQuietly id f) := by
  obtain ⟨moves, effects⟩ := changeQuietlyMoves id f connection treated
  exact ⟨{}, moves, effects.trans (Effects.andNone _).symm⟩

theorem setSlotMoved {id : SlotId} {slot changed : Slot α} (there : connection.slot? id = some slot)
    (treated : slot.Treated changed {}) : Moved connection (connection.setSlot id changed) :=
  ⟨{}, Effects.noneAnd ({} : Effects α) ▸ Slot.Moves.still.treated there treated, (Effects.andNone _).symm⟩

theorem shutDownMoved (id : SlotId) (reason : Error) (connectionLevel byApplication : Bool)
    (connection : Connection α) (known : (connectionLevel && !byApplication) = false → reason.isLoss = false) :
    Moved connection (connection.shutDown id reason connectionLevel byApplication) :=
  changeMoved id _ connection fun slot => slot.shutDownTreated reason connectionLevel byApplication known

theorem replyMoved (id : SlotId) (reply : Except Error Assembler) (connection : Connection α) :
    Moved connection (connection.changeQuietly id fun slot => slot.reply reply) :=
  changeQuietlyMoved id _ connection fun slot => slot.replyTreated reply

theorem dropMoved (id : SlotId) (connection : Connection α) :
    Moved connection (connection.changeQuietly id Slot.drop) :=
  changeQuietlyMoved id _ connection Slot.dropTreated

theorem transmitMoved (channel : UInt16) (command : Assembler) (connection : Connection α) :
    Moved connection (connection.transmit channel command).2 := by
  unfold transmit
  split
  · exact .refl connection
  · split <;> exact .still rfl rfl

theorem sendMoved (channel : UInt16) (method : Method) (connection : Connection α) :
    Moved connection (connection.send channel method).2 := by
  unfold send
  split
  · exact transmitMoved ..
  · exact .refl connection

theorem allocateMoved (asked : Option UInt16) (connection : Connection α) :
    Moved connection (connection.allocate asked).2 := by
  unfold allocate
  split
  · exact .refl connection
  · dsimp only
    split
    · exact .refl connection
    · rename_i number ids _
      exact ⟨{}, Slot.Moves.still.opened number, (Effects.andNone _).symm⟩

theorem releaseMoved (id : SlotId) (connection : Connection α) : Moved connection (connection.release id) := by
  unfold release
  split
  · split
    · exact .still rfl rfl
    · exact .refl connection
  · exact .refl connection

theorem failMoved (reason : Error) (connection : Connection α) : Moved connection (connection.fail reason) := by
  unfold fail
  split
  · exact .refl connection
  · dsimp only
    refine List.foldlRecOn (motive := Moved connection) _ _ (.still rfl rfl) fun next moved id _ => moved.trans ?_
    refine shutDownMoved id reason true (askedFor reason) next fun asked => ?_
    obtain rfl : reason = .clientClosedConnection := by simpa [askedFor] using asked
    rfl

theorem dispatchOwnMoved (method : Method) (connection : Connection α) :
    Moved connection (connection.dispatchOwn method).2 := by
  unfold dispatchOwn
  split
  · exact sendMoved ..
  all_goals exact .refl connection

theorem answeringMoved (channel : UInt16) (method : Method) {andThen : Connection α → Connection α}
    (connection : Connection α) (next : ∀ connection, Moved connection (andThen connection)) :
    Moved connection (connection.answering channel method andThen).2 := by
  have sent := connection.sendMoved channel method
  unfold answering
  split
  · rename_i answer
    exact sent.into answer
  · rename_i answer
    exact (sent.into answer).trans (next _)

theorem withContentMoved (command : Assembler) {andThen : Properties → Bytes → Connection α → Connection α}
    (connection : Connection α)
    (next : ∀ properties body connection, Moved connection (andThen properties body connection)) :
    Moved connection (connection.withContent command andThen).2 := by
  unfold withContent
  split
  · exact .refl connection
  · exact next _ _ connection

theorem consumeOkMoved (id : SlotId) (tag : String) (reply : Except Error Assembler) (connection : Connection α) :
    Moved connection
      (match connection.slot? id with
      | none => ((.ok () : Except Error Unit), connection)
      | some slot =>
        match slot.startConsumer tag with
        | (.error e, slot) => (.error e, connection.setSlot id slot)
        | (.ok (), slot) => (.ok (), (connection.setSlot id slot).changeQuietly id fun slot => slot.reply reply)).2 := by
  split
  · exact .refl connection
  · rename_i slot there
    have treated := slot.startTreated tag
    split
    · rename_i answer
      rw [answer] at treated
      exact setSlotMoved there treated
    · rename_i answer
      rw [answer] at treated
      exact (setSlotMoved there treated).trans (replyMoved ..)

theorem dispatchToMoved (id : SlotId) (channel : UInt16) (method : Method) (command : Assembler)
    (connection : Connection α) : Moved connection (connection.dispatchTo id channel method command).2 := by
  unfold dispatchTo
  dsimp only
  split
  · exact withContentMoved command connection fun _ _ next => changeMoved id _ next fun slot => slot.deliverTreated _ _
  · exact withContentMoved command connection fun _ _ next =>
      changeMoved id _ next fun slot => slot.raiseTreated (by simp)
  · exact changeMoved id _ connection fun slot => slot.raiseTreated (by simp)
  · exact changeMoved id _ connection fun slot => slot.raiseTreated (by simp)
  · rename_i tag _
    have ended : ∀ next : Connection α, Moved next (next.change id fun slot => slot.endConsumer tag .serverCancelled) :=
      fun next => changeMoved id _ next fun slot => slot.endTreated tag rfl
    split
    · exact ended connection
    · exact answeringMoved channel _ connection ended
  · exact answeringMoved channel _ connection fun next => changeMoved id _ next fun slot => slot.raiseTreated (by simp)
  · exact answeringMoved channel _ connection fun next =>
      (next.releaseMoved id).trans (shutDownMoved id _ _ _ _ fun _ => rfl)
  · exact (connection.releaseMoved id).trans (replyMoved ..)
  · exact consumeOkMoved id _ _ connection
  · exact (changeMoved id _ connection fun slot => slot.endTreated _ rfl).trans (replyMoved ..)
  · exact replyMoved ..

theorem dispatchMoved (channel : UInt16) (command : Assembler) (connection : Connection α) :
    Moved connection (connection.dispatch channel command).2 := by
  unfold dispatch
  split
  · exact .refl connection
  · split
    · exact dispatchOwnMoved ..
    · split
      · exact .refl connection
      · exact dispatchToMoved ..

theorem receiveMoved (frame : Frame) (connection : Connection α) : Moved connection (connection.receive frame).2 := by
  unfold receive
  split
  · exact .refl connection
  · split
    · exact .refl connection
    · have forgotten : Moved connection (connection.forget frame.channel) := .still rfl rfl
      exact forgotten.trans (dispatchMoved ..)
    · exact .still rfl rfl

theorem settledMoved {outcome : Except Error Unit × Connection α} (moved : Moved before outcome.2) :
    Moved before (settled outcome) := by
  unfold settled
  split
  · exact moved
  · exact moved.trans (failMoved ..)

theorem stepMoved {inbound rest : Inbound} (step : connection.step? inbound = some (after, rest)) :
    Moved connection after := by
  have taken : ∀ intake, Moved connection { connection with intake } := fun _ => .still rfl rfl
  unfold step? at step
  split at step
  · cases step
  · split at step
    · cases step
      exact (taken _).trans (failMoved ..)
    · cases step
      exact settledMoved ((taken _).trans (receiveMoved ..))
    · split at step
      · cases step
        exact (taken _).trans (failMoved ..)
      · cases step
        exact taken _
      · split at step
        · cases step
          exact .refl _
        · cases step
      · cases step
        exact .refl _

/-! Calls -/

theorem sendOnMoved (id : SlotId) (method : Method) (connection : Connection α) :
    Moved connection (connection.sendOn id method).2 := by
  unfold sendOn
  split
  · exact .refl connection
  · exact sendMoved ..

theorem publishOnMoved (id : SlotId) (exchange : String) (publish : Publish) (connection : Connection α) :
    Moved connection (connection.publishOn id exchange publish).2 := by
  unfold publishOn
  split
  · exact .refl connection
  · split
    · exact .refl connection
    · exact transmitMoved ..

theorem sendRequestMoved (id : SlotId) (request : Request) (connection : Connection α) :
    Moved connection (connection.sendRequest id request).2 := by
  unfold sendRequest
  split
  · exact publishOnMoved ..
  · exact sendOnMoved ..
  · exact .refl connection

theorem closingMoved (id : SlotId) (connection : Connection α) :
    Moved connection ((connection.release id).shutDown id .clientClosedChannel false true) :=
  (connection.releaseMoved id).trans (shutDownMoved id _ _ _ _ fun _ => rfl)

theorem finishMoved (id : SlotId) (request : Request) (result : Except Error Reply) (connection : Connection α) :
    Moved connection (connection.finish id request result).2 := by
  unfold finish
  split
  · exact closingMoved id connection
  · exact changeQuietlyMoved id _ connection Slot.expectNoneTreated
  · exact .refl connection

theorem prepareElse {request : Request} (other : ∀ consumer, request ≠ .consume consumer) (id : SlotId)
    (connection : Connection α) : connection.prepare id request = connection := by
  unfold prepare
  split
  · exact absurd rfl (other _)
  · rfl

theorem prepareConsume {id : SlotId} {slot : Slot α} (there : connection.slot? id = some slot)
    (consumer : RecordedConsumer) : connection.prepare id (.consume consumer) =
      if slot.closed = none then connection.changeQuietly id fun slot => slot.expect (some consumer.receiver)
      else connection := by
  unfold prepare checkOpen
  rw [there]
  cases closed : slot.closed <;> simp [closed]

theorem prepareSent (id : SlotId) (request : Request) (connection : Connection α) :
    (connection.prepare id request).sent = connection.sent := by
  unfold prepare
  split
  · unfold changeQuietly change
    split <;> rfl
  · rfl

theorem issueMoved (id : SlotId) (request : Request) (connection : Connection α) :
    Moved (connection.prepare id request) (connection.issue id request).2 := by
  unfold issue
  split
  · rename_i refused
    rw [prepareElse fun consumer same => by simp [same, Request.check] at refused]
    exact .refl connection
  · have sent := (connection.prepare id request).sendRequestMoved id request
    split
    · rename_i answer
      exact (sent.into answer).trans (finishMoved ..)
    · rename_i answer
      exact (sent.into answer : Moved _ _)

theorem takeReplyMoved (id : SlotId) (connection : Connection α) : Moved connection (connection.takeReply id).2 := by
  unfold takeReply
  split
  · exact .refl connection
  · rename_i slot there
    split
    · exact .refl connection
    · exact setSlotMoved there (.none rfl rfl (List.Sublist.refl _))

theorem concludeMoved (id : SlotId) (request : Request) (connection : Connection α) :
    Moved connection (connection.conclude id request).2 :=
  (connection.takeReplyMoved id).trans (finishMoved ..)

theorem giveUpMoved (id : SlotId) (connection : Connection α) : Moved connection (connection.giveUp id) :=
  (connection.closingMoved id).trans (dropMoved ..)

theorem issueOpenMoved (asked : Option UInt16) (connection : Connection α) :
    Moved connection (connection.issueOpen asked).2 := by
  have allocated := connection.allocateMoved asked
  unfold issueOpen
  split
  · rename_i answer
    exact allocated.into answer
  · rename_i number id opened answer
    have sent := opened.sendOnMoved id ⟨.channelOpen, ("", ())⟩
    have opened := (allocated.into answer).trans sent
    split
    · rename_i answer
      exact (opened.into answer).trans (giveUpMoved ..)
    · rename_i answer
      exact opened.into answer

theorem Moved.length (moved : Moved before after) : before.slots.length ≤ after.slots.length := by
  obtain ⟨_, moves, _⟩ := moved
  exact moves.length

theorem issueOpenThere {asked : Option UInt16} {number : UInt16} {id : SlotId}
    (answer : connection.issueOpen asked = (.ok (number, id), after)) : id < after.slots.length := by
  unfold issueOpen at answer
  split at answer
  · cases answer
  · rename_i claimed slot opened allocated
    have within : slot < opened.slots.length := by
      unfold allocate at allocated
      split at allocated
      · cases allocated
      · dsimp only at allocated
        split at allocated
        · cases allocated
        · cases allocated
          simp
    have sent := opened.sendOnMoved slot ⟨.channelOpen, ("", ())⟩
    split at answer
    · cases answer
    · rename_i sending
      cases answer
      exact Nat.lt_of_lt_of_le within (sent.into sending).length

theorem concludeOpenMoved (id : SlotId) (connection : Connection α) :
    Moved connection (connection.concludeOpen id).2 := by
  have taken := connection.takeReplyMoved id
  unfold concludeOpen
  dsimp only
  split
  · split
    · exact taken
    · exact taken.trans (giveUpMoved ..)
  · exact taken.trans (giveUpMoved ..)

theorem closeWithoutWaitingMoved (id : SlotId) (connection : Connection α) :
    Moved connection (connection.closeWithoutWaiting id) :=
  (connection.sendMoved _ _).trans (shutDownMoved id _ _ _ _ fun _ => rfl)

theorem issueCloseMoved (connection : Connection α) : Moved connection connection.issueClose := by
  unfold issueClose
  split
  · exact .refl connection
  · have sent := connection.sendMoved 0 .closeConnection
    split
    · rename_i answer
      exact sent.into answer
    · rename_i answer
      exact (sent.into answer).trans (failMoved ..)

end AmqpClient.Connection
