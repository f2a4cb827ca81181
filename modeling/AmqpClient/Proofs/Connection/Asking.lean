import AmqpClient.Proofs.Connection.Deeds
import AmqpClient.Connection.Inbound

/-! What calls do to the slot of their channel. A call that starts a consumer expects it first, a call that ends takes
a reply, and a call that closes the channel shuts the slot. -/
namespace AmqpClient

namespace Connection

variable {α : Type} {before middle after connection : Connection α} {log : List (Entry α)}

theorem setSlotSame {id : SlotId} {slot : Slot α} (there : connection.slot? id = some slot) :
    connection.setSlot id slot = connection := by
  obtain ⟨bound, rfl⟩ := List.getElem?_eq_some_iff.mp there
  simp [setSlot]

theorem sendOnKeeps (id : SlotId) (method : Method) (connection : Connection α) :
    ∃ transmitter sent, (connection.sendOn id method).2 = { connection with transmitter, sent } := by
  unfold sendOn
  split
  · exact ⟨_, _, rfl⟩
  · exact sendKeeps ..

theorem publishOnKeeps (id : SlotId) (exchange : String) (publish : Publish) (connection : Connection α) :
    ∃ transmitter sent, (connection.publishOn id exchange publish).2 = { connection with transmitter, sent } := by
  unfold publishOn
  split
  · exact ⟨_, _, rfl⟩
  · split
    · exact ⟨_, _, rfl⟩
    · exact transmitKeeps ..

theorem sendRequestKeeps (id : SlotId) (request : Request) (connection : Connection α) :
    ∃ transmitter sent, (connection.sendRequest id request).2 = { connection with transmitter, sent } := by
  unfold sendRequest
  split
  · exact publishOnKeeps ..
  · exact sendOnKeeps ..
  · exact ⟨_, _, rfl⟩

theorem Worked.sentAfter {ids : ChannelIds SlotId} (worked : Worked ids log before middle)
    (transmitter : Transmitter) (sent : Nat) : Worked ids log before { middle with transmitter, sent } :=
  ⟨⟨worked.logged.slots, worked.logged.effects⟩, worked.ids, worked.assemblers, worked.spill, worked.failure⟩

theorem shutWorked (id : SlotId) (reason : Error) (connectionLevel byApplication : Bool) (connection : Connection α) :
    Worked (connection.release id).ids [(id, .shut reason connectionLevel byApplication)] connection
      ((connection.release id).shutDown id reason connectionLevel byApplication) :=
  (connection.releaseWorked id).deed id (.shut reason connectionLevel byApplication)

inductive Finished (request : Request) : Except Error Reply → List (Deed α) → Prop
  | closed {result : Except Error Reply} (closes : request = .close) :
      Finished request result [.shut .clientClosedChannel false true]
  | unstarted {consumer : RecordedConsumer} {reason : Error} (consumes : request = .consume consumer) :
      Finished request (.error reason) [.expect none]
  | plain {result : Except Error Reply} (stays : request ≠ .close)
      (started : ∀ consumer reason, request = .consume consumer → result ≠ .error reason) :
      Finished request result []

theorem finishWorked (id : SlotId) (request : Request) (result : Except Error Reply) (connection : Connection α) :
    (connection.finish id request result).1 = result ∧ ∃ deeds ids, Finished request result deeds ∧
      Worked ids (deeds.map (Prod.mk id)) connection (connection.finish id request result).2 ∧
      Fewer ids connection.ids := by
  unfold finish
  split
  · exact ⟨rfl, _, _, .closed rfl, connection.shutWorked id _ _ _, connection.releaseFewer id⟩
  · exact ⟨rfl, _, _, .unstarted rfl, (Worked.refl connection).deed id (.expect none), .refl _⟩
  · rename_i stays started
    exact ⟨rfl, _, _, .plain stays started, .refl connection, .refl _⟩

inductive Issued (request : Request) : Option (Except Error Reply) → List (Deed α) → Prop
  | sent {result : Option (Except Error Reply)} (stays : request = .close → result = none) :
      Issued request result []
  | expecting {consumer : RecordedConsumer} (consumes : request = .consume consumer) :
      Issued request none [.expect (some consumer.receiver)]
  | refused {reason : Error} {deeds : List (Deed α)} (closes : request = .close)
      (shut : deeds = [.shut .clientClosedChannel false true]) : Issued request (some (.error reason)) deeds
  | unexpected {consumer : RecordedConsumer} {reason : Error} {deeds : List (Deed α)}
      (consumes : request = .consume consumer)
      (expects : deeds = [.expect none] ∨ deeds = [.expect (some consumer.receiver), .expect none]) :
      Issued request (some (.error reason)) deeds

theorem prepareWorked (id : SlotId) (request : Request) (connection : Connection α) :
    ∃ deeds : List (Deed α), (deeds = [] ∨ ∃ consumer, request = .consume consumer ∧
        deeds = [.expect (some consumer.receiver)]) ∧
      Worked connection.ids (deeds.map (Prod.mk id)) connection (connection.prepare id request) := by
  unfold prepare
  split
  · exact ⟨_, .inr ⟨_, rfl, rfl⟩, (Worked.refl connection).deed id (.expect (some _))⟩
  · exact ⟨_, .inl rfl, .refl connection⟩

theorem issueWorked (id : SlotId) (request : Request) (connection : Connection α) :
    ∃ deeds ids, Issued request (connection.issue id request).1 deeds ∧
      Worked ids (deeds.map (Prod.mk id)) connection (connection.issue id request).2 ∧
      Fewer ids connection.ids := by
  unfold issue
  split
  · rename_i refused
    refine ⟨[], _, .sent fun same => ?_, .refl connection, .refl _⟩
    subst same
    cases refused
  · obtain ⟨first, expects, prepared⟩ := connection.prepareWorked id request
    obtain ⟨transmitter, count, keeps⟩ := (connection.prepare id request).sendRequestKeeps id request
    have sent := prepared.sentAfter transmitter count
    rw [← keeps] at sent
    split
    · rename_i reason middle answer
      rw [answer] at sent
      obtain ⟨same, last, ids, finished, worked, fewer⟩ := middle.finishWorked id request (.error reason)
      have ended := sent.trans worked
      rw [← List.map_append] at ended
      dsimp only
      rw [same]
      refine ⟨first ++ last, ids, ?_, ended, sent.ids ▸ fewer⟩
      cases finished with
      | closed closes =>
        rcases expects with rfl | ⟨consumer, consumes, _⟩
        · exact .refused closes rfl
        · cases closes.symm.trans consumes
      | unstarted consumes =>
        rcases expects with rfl | ⟨consumer, again, rfl⟩
        · exact .unexpected consumes (.inl rfl)
        · exact .unexpected again (.inr rfl)
      | plain stays started =>
        rcases expects with rfl | ⟨consumer, consumes, _⟩
        · exact .sent fun closes => absurd closes stays
        · exact absurd rfl (started consumer reason consumes)
    · rename_i middle answer
      rw [answer] at sent
      refine ⟨first, _, ?_, sent, .refl _⟩
      rcases expects with rfl | ⟨consumer, rfl, rfl⟩
      · refine .sent fun closes => ?_
        subst closes
        rfl
      · exact .expecting rfl

theorem takeReplyWorked (id : SlotId) (connection : Connection α) :
    Worked connection.ids [(id, .take)] connection (connection.takeReply id).2 := by
  have taken := (Worked.refl connection).deed id .take
  unfold takeReply
  split
  · rename_i missing
    rwa [changeNone missing] at taken
  · rename_i slot there
    have changed : connection.change id (fun slot => slot.perform .take)
        = connection.setSlot id { slot with replies := slot.replies.tail } := by simp [change, there, Slot.perform]
    rw [changed] at taken
    split
    · rename_i nothing
      have same : { slot with replies := slot.replies.tail } = slot := by
        rw [nothing, List.tail_nil, ← nothing]
      rwa [same, setSlotSame there] at taken
    · rename_i reply rest waiting
      rwa [waiting, List.tail_cons] at taken

theorem concludeWorked (id : SlotId) (request : Request) (connection : Connection α) :
    ∃ deeds ids, Finished request (connection.conclude id request).1 deeds ∧
      Worked ids ((Deed.take :: deeds).map (Prod.mk id)) connection (connection.conclude id request).2 ∧
      Fewer ids connection.ids := by
  have taken := connection.takeReplyWorked id
  unfold conclude
  dsimp only
  generalize (connection.takeReply id).1.bind (Reply.ofCommand request) = result
  obtain ⟨same, deeds, ids, finished, worked, fewer⟩ := finishWorked id request result (connection.takeReply id).2
  exact ⟨deeds, ids, by rwa [same], taken.trans worked, taken.ids ▸ fewer⟩

end Connection
end AmqpClient
