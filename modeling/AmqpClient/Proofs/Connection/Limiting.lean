import AmqpClient.Proofs.Connection.Working

/-! The limits of a connection over a while: numbers are taken below the highest, and frames are written within theirs,
whatever else is done and whether or not it goes well. -/
namespace AmqpClient.Connection

variable {α : Type} {mended : Prop} {before middle after connection : Connection α}

def numbers (connection : Connection α) : List UInt16 := connection.slots.map Slot.number

structure Numbered (connection : Connection α) : Prop where
  held : connection.ids.Bounded
  taken : ∀ number ∈ connection.numbers, ChannelIds.Usable connection.ids.max number

structure Still (before after : Connection α) : Prop where
  transmitter : after.transmitter = before.transmitter
  ids : after.ids = before.ids
  numbers : after.numbers = before.numbers

theorem Still.refl (connection : Connection α) : Still connection connection := ⟨rfl, rfl, rfl⟩

theorem Still.trans (one : Still before middle) (two : Still middle after) : Still before after :=
  ⟨two.transmitter.trans one.transmitter, two.ids.trans one.ids, two.numbers.trans one.numbers⟩

theorem changeStill (id : SlotId) (deed : Deed α) (connection : Connection α) :
    Still connection (connection.change id fun slot => slot.perform deed) := by
  unfold change
  split
  · rename_i slot there
    have listed : (connection.slots.map Slot.number)[id]? = some slot.number := by
      rw [List.getElem?_map, show connection.slots[id]? = some slot from there, Option.map_some]
    obtain ⟨within, same⟩ := List.getElem?_eq_some_iff.mp listed
    refine ⟨rfl, rfl, ?_⟩
    show (connection.slots.set id (slot.perform deed).1).map Slot.number = connection.slots.map Slot.number
    rw [List.map_set, Slot.performNumber, ← same, List.set_getElem_self]
  · exact .refl connection

theorem failStill (reason : Error) (unfailed : connection.failure = none) :
    Still { connection with ids := connection.ids.releaseAll.2, failure := some reason } (connection.fail reason) := by
  unfold fail
  rw [unfailed, if_neg (by simp)]
  exact List.foldlRecOn _ _ (.refl _) fun next still id _ =>
    still.trans (next.changeStill id (.shut reason true (askedFor reason)))

theorem restatedRoomy {β : Type} (reason : Error) : Error.Roomy (.error reason.restated : Except Error β) := by
  rintro least limit same
  unfold Error.restated at same
  split at same <;> cases same

structure Kept (mended : Prop) (before after : Connection α) : Prop where
  numbered : after.Numbered
  max : after.ids.max = before.ids.max
  wrote : Transmitter.Wrote mended before.transmitter after.transmitter

namespace Kept

theorem freed (kept : Kept mended before middle) (bounded : after.ids.Bounded)
    (max : after.ids.max = middle.ids.max) (transmitter : after.transmitter = middle.transmitter)
    (numbers : after.numbers = middle.numbers) : Kept mended before after where
  numbered := ⟨bounded, numbers ▸ max ▸ kept.numbered.taken⟩
  max := max.trans kept.max
  wrote := transmitter ▸ kept.wrote

theorem still (kept : Kept mended before middle) (still : Still middle after) : Kept mended before after :=
  kept.freed (still.ids ▸ kept.numbered.held) (congrArg ChannelIds.max still.ids) still.transmitter still.numbers

theorem written (kept : Kept mended before middle) {transmitter : Transmitter} (sent : Nat)
    (wrote : Transmitter.Wrote mended before.transmitter transmitter) :
    Kept mended before { middle with transmitter, sent } where
  numbered := ⟨kept.numbered.held, kept.numbered.taken⟩
  max := kept.max
  wrote := wrote

variable (kept : Kept mended before connection)

include kept

theorem allocated (asked : Option UInt16) : Kept mended before (connection.allocate asked).2 := by
  unfold allocate
  split
  · exact kept
  · dsimp only
    split
    · exact kept
    · rename_i number ids claimed
      obtain ⟨usable, -⟩ := ChannelIds.boundedClaim kept.numbered.held claimed
      obtain ⟨-, max, -⟩ := ChannelIds.claimCases claimed
      have bounded := ChannelIds.boundedAct kept.numbered.held (.claim asked fun _ => connection.slots.length)
      rw [ChannelIds.act, ChannelIds.attemptClaim, claimed] at bounded
      refine ⟨⟨bounded, ?_⟩, max.trans kept.max, kept.wrote⟩
      simp only [numbers, List.map_append, List.map_singleton, max]
      exact List.forall_mem_append.mpr ⟨kept.numbered.taken, List.forall_mem_singleton.mpr usable⟩

theorem released (id : SlotId) : Kept mended before (connection.release id) := by
  unfold release
  split
  · split
    · exact kept.freed (ChannelIds.boundedAct kept.numbered.held (.release _)) rfl rfl rfl
    · exact kept
  · exact kept

theorem failed (reason : Error) : Kept mended before (connection.fail reason) := by
  cases unfailed : connection.failure with
  | some earlier => rwa [failIdle unfailed]
  | none =>
    have still := failStill reason unfailed
    have ids : (connection.fail reason).ids = connection.ids.releaseAll.2 := still.ids
    have bounded : (connection.fail reason).ids.Bounded :=
      ids ▸ ChannelIds.boundedAct kept.numbered.held .releaseAll
    exact kept.freed bounded (ids ▸ rfl) still.transmitter still.numbers

theorem transmitted (large : 9 ≤ before.transmitter.frameMax.toNat) (channel : UInt16) (command : Assembler) :
    Kept mended before (connection.transmit channel command).2 ∧
      Error.Roomy (connection.transmit channel command).1 := by
  obtain ⟨wrote, roomy⟩ := kept.wrote.transmitted large command channel
  unfold transmit
  split
  · rename_i reason _
    exact ⟨kept, restatedRoomy reason⟩
  · split <;> rename_i answer <;> rw [answer] at wrote roomy
    · exact ⟨kept.written _ wrote, .done _⟩
    · exact ⟨kept.written _ wrote, roomy⟩

theorem beaten : Kept mended before connection.beat := by
  unfold beat
  split
  · exact kept
  · exact kept.written _ kept.wrote.beaten

end Kept

theorem Wrought.kept (wrought : Wrought mended before after) (numbered : before.Numbered)
    (large : 9 ≤ before.transmitter.frameMax.toNat) : Kept mended before after := by
  induction wrought with
  | nothing => exact ⟨numbered, rfl, .nothing _⟩
  | transmitted _ channel command ih => exact (ih.transmitted large channel command).1
  | beaten _ ih => exact ih.beaten
  | allocated _ asked ih => exact ih.allocated asked
  | released _ id ih => exact ih.released id
  | failed _ reason ih => exact ih.failed reason
  | treated _ id deed ih => exact ih.still (changeStill id deed _)
  | passed _ intake assemblers effects ih => exact ih.still ⟨rfl, rfl, rfl⟩
  | @rewired next _ fault may ih => exact ih.written next.sent (ih.wrote.rewired fault may)

/-! What comes of calls -/

theorem checkOpenRoomy {β : Type} {id : SlotId} {reason : Error} (refused : connection.checkOpen id = .error reason) :
    Error.Roomy (.error reason : Except Error β) := by
  unfold checkOpen at refused
  split at refused <;> cases refused
  exact restatedRoomy _

namespace Kept

variable (kept : Kept mended before connection)

include kept

theorem publishes (large : 9 ≤ before.transmitter.frameMax.toNat) (id : SlotId) (exchange : String)
    (publish : Publish) : Error.Roomy (connection.publishOn id exchange publish).1 := by
  unfold publishOn
  split
  · rename_i refused
    exact checkOpenRoomy refused
  · split
    · rename_i refused
      cases refused
    · exact (kept.transmitted large _ _).2

theorem issues (large : 9 ≤ before.transmitter.frameMax.toNat) (id : SlotId) (exchange : String) (publish : Publish) :
    ∃ result, (connection.issue id (.publish exchange publish)).1 = some result ∧ Error.Roomy result := by
  have roomy := kept.publishes large id exchange publish
  have asked : (connection.prepare id (.publish exchange publish)).sendRequest id (.publish exchange publish)
      = connection.publishOn id exchange publish := rfl
  simp only [issue, Request.check, asked]
  split <;> rename_i answer <;> rw [answer] at roomy
  · exact ⟨_, rfl, roomy.failed⟩
  · exact ⟨.ok .done, rfl, .done _⟩

theorem allocates {asked : Option UInt16} {number : UInt16} {id : SlotId}
    (allocated : (connection.allocate asked).1 = .ok (number, id)) : ChannelIds.Usable before.ids.max number := by
  unfold allocate at allocated
  split at allocated
  · cases allocated
  · dsimp only at allocated
    split at allocated
    · cases allocated
    · rename_i claimed
      cases allocated
      exact kept.max ▸ (ChannelIds.boundedClaim kept.numbered.held claimed).1

end Kept

end AmqpClient.Connection
