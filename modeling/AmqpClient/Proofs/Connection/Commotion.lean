import AmqpClient.Proofs.Connection.Operation
import AmqpClient.Connection.Live

/-! What a connection in use does to its slots. Whatever gathers in the connection is passed on before anything else
is done: messages arrive in the order in which they were sent, and listeners hear of what happened and may act on
it, which moves the slots again. -/
namespace AmqpClient

namespace Mail

theorem sendAll (messages : List (ReceiverId × ConsumerMessage)) (mail : Mail) :
    messages.foldl (fun mail entry => (mail.send entry.1 entry.2).2) mail
      = { mail with arrived := mail.arrived ++ messages.filter fun entry => !mail.isDropped entry.1 } := by
  induction messages generalizing mail with
  | nil => simp
  | cons entry rest ih =>
    rw [List.foldl_cons, ih]
    unfold send
    cases dropped : mail.isDropped entry.1 with
    | true => simp [dropped]
    | false =>
      rw [List.filter_cons_of_pos (by simp [dropped])]
      simp [isDropped]

end Mail

namespace LiveConnection

variable {α : Type} {before middle after line : LiveConnection α}

/- Nothing waits to be passed on, and everything that is sent arrives. -/
structure Settled (line : LiveConnection α) : Prop where
  passed : line.core.effects = {}
  kept : line.mail.dropped = []

def news (effects : Effects (ActingListener α)) : List (α × ChannelEvent) :=
  effects.notices.map fun notice => (notice.1.label, notice.2)

structure Carried (before after : LiveConnection α) (effects : Effects (ActingListener α)) : Prop where
  moves : Slot.Moves before.core.slots effects after.core.slots
  arrived : after.mail.arrived = before.mail.arrived ++ effects.messages
  heard : after.heard ⊆ before.heard ++ news effects

def Moved (before after : LiveConnection α) : Prop :=
  before.Settled → after.Settled ∧ ∃ effects, Carried before after effects

theorem Carried.trans {effects more : Effects (ActingListener α)} (one : Carried before middle effects)
    (two : Carried middle after more) : Carried before after (effects.and more) where
  moves := one.moves.trans two.moves
  arrived := by rw [two.arrived, one.arrived, List.append_assoc]; rfl
  heard := by
    have said : news (effects.and more) = news effects ++ news more := List.map_append
    rw [said, ← List.append_assoc]
    exact List.Subset.trans two.heard (List.append_subset_of_subset_of_subset
      (List.subset_append_of_subset_left _ one.heard) (List.subset_append_right ..))

namespace Moved

theorem still (core : after.core.slots = before.core.slots) (effects : after.core.effects = before.core.effects)
    (mail : after.mail = before.mail) (heard : after.heard = before.heard) : Moved before after := fun settled =>
  ⟨⟨effects.trans settled.passed, mail ▸ settled.kept⟩, {}, core ▸ .still, by simp [mail], by simp [heard]⟩

theorem refl (line : LiveConnection α) : Moved line line := .still rfl rfl rfl rfl

theorem trans (one : Moved before middle) (two : Moved middle after) : Moved before after := fun settled => by
  obtain ⟨settled, first, carried⟩ := one settled
  obtain ⟨settled, second, further⟩ := two settled
  exact ⟨settled, _, carried.trans further⟩

end Moved

def Lawful (act : Acting α) : Prop := ∀ side action line, Moved line (act side action line)

variable {act : Acting α}

theorem announceMoved (lawful : Lawful act) (side : Side) (line : LiveConnection α) (kept : line.mail.dropped = []) :
    (line.announce act side).Settled ∧ ∃ effects,
      Slot.Moves line.core.slots effects (line.announce act side).core.slots ∧
      (line.announce act side).mail.arrived = line.mail.arrived ++ effects.messages ∧
      (line.announce act side).heard ⊆ line.heard ++ (news line.core.effects ++ news effects) := by
  refine List.foldlRecOn (motive := fun next : LiveConnection α => next.Settled ∧ ∃ effects,
    Slot.Moves line.core.slots effects next.core.slots ∧ next.mail.arrived = line.mail.arrived ++ effects.messages ∧
      next.heard ⊆ line.heard ++ (news line.core.effects ++ news effects)) _ _
    ⟨⟨rfl, kept⟩, {}, .still, (List.append_nil _).symm, List.subset_append_left ..⟩ ?_
  rintro next ⟨settled, effects, moves, arrived, heard⟩ notice member
  have hearing : (next.hear notice.1.label notice.2).Settled := ⟨settled.passed, settled.kept⟩
  obtain ⟨settled, more, carried⟩ := lawful side notice.1.action _ hearing
  refine ⟨settled, effects.and more, moves.trans carried.moves, ?_, fun entry inside => ?_⟩
  · exact carried.arrived.trans ((congrArg (· ++ more.messages) arrived).trans (List.append_assoc ..))
  · have later : news (effects.and more) = news effects ++ news more := List.map_append
    rcases List.mem_append.mp (carried.heard inside) with before | new
    · rcases List.mem_append.mp before with earlier | now
      · have known := heard earlier
        simp only [later, List.mem_append] at known ⊢
        tauto
      · obtain rfl := List.mem_singleton.mp now
        have pending : (notice.1.label, notice.2) ∈ news line.core.effects := List.mem_map_of_mem member
        simp only [List.mem_append]
        tauto
    · simp only [later, List.mem_append]
      tauto

theorem proceedMoved (lawful : Lawful act) (side : Side) {core : Connection (ActingListener α)}
    (moved : line.core.Moved core) : Moved line (line.proceed act side core) := by
  intro settled
  obtain ⟨effects, moves, gathered⟩ := moved
  rw [settled.passed, Effects.noneAnd] at gathered
  subst gathered
  have mail : (line.adopt core).mail = _ := Mail.sendAll core.effects.messages line.mail
  have all : core.effects.messages.filter (fun entry => !line.mail.isDropped entry.1) = core.effects.messages :=
    List.filter_eq_self.mpr fun entry _ => by simp [Mail.isDropped, settled.kept]
  have arrived : (line.adopt core).mail.arrived = line.mail.arrived ++ core.effects.messages := by rw [mail, all]
  have kept : (line.adopt core).mail.dropped = [] := (congrArg Mail.dropped mail).trans settled.kept
  obtain ⟨settled, more, further, sent, heard⟩ := announceMoved lawful side (line.adopt core) kept
  have said : news (core.effects.and more) = news core.effects ++ news more := List.map_append
  refine ⟨settled, core.effects.and more, moves.trans further, ?_, said ▸ heard⟩
  calc (line.proceed act side core).mail.arrived
      = (line.adopt core).mail.arrived ++ more.messages := sent
    _ = line.mail.arrived ++ (core.effects.and more).messages := by rw [arrived, List.append_assoc]; rfl

theorem proceedGrown (lawful : Lawful act) (side : Side) (core : Connection (ActingListener α))
    (settled : line.Settled) :
    core.slots.length ≤ (line.proceed act side core).core.slots.length := by
  have kept : (line.adopt core).mail.dropped = [] :=
    (congrArg Mail.dropped (Mail.sendAll core.effects.messages line.mail)).trans settled.kept
  obtain ⟨_, _, moves, _⟩ := announceMoved lawful side (line.adopt core) kept
  exact moves.length

theorem Moved.grown (moved : Moved before after) (settled : before.Settled) :
    before.core.slots.length ≤ after.core.slots.length := by
  obtain ⟨_, _, carried⟩ := moved settled
  exact carried.moves.length

theorem readWithinMoved (enough : LiveConnection α → Bool) (lawful : Lawful act) (fuel : Nat)
    (line : LiveConnection α) : Moved line (readWithin enough act fuel line) := by
  induction fuel generalizing line with
  | zero => exact .refl line
  | succ fuel ih =>
    unfold readWithin
    split
    · exact .refl line
    · split
      · exact .refl line
      · rename_i core inbound step
        have taken : Moved line { line with inbound } := .still rfl rfl rfl rfl
        exact (taken.trans (proceedMoved lawful .reader (Connection.stepMoved step))).trans (ih _)

theorem readUntilMoved (enough : LiveConnection α → Bool) (lawful : Lawful act) (line : LiveConnection α) :
    Moved line (line.readUntil enough act) :=
  readWithinMoved enough lawful _ line

def expecting (id : SlotId) (request : Request) (line : LiveConnection α) : LiveConnection α :=
  { line with core := line.core.prepare id request }

theorem callMoved (lawful : Lawful act) (id : SlotId) (request : Request) (line : LiveConnection α) :
    Moved (line.expecting id request) (line.call act id request).2 := by
  have issued := line.core.issueMoved id request
  have sent : ∀ core, (line.core.prepare id request).Moved core →
      Moved (line.expecting id request) (line.proceed act .application core) := fun core moved => by
    have same : (line.expecting id request).proceed act .application core = line.proceed act .application core := by
      have sent := line.core.prepareSent id request
      simp only [proceed, adopt, expecting, sent]
    exact same ▸ proceedMoved lawful .application moved
  unfold call
  split
  · rename_i answer
    exact sent _ (issued.into answer)
  · rename_i answer
    have asked := sent _ (issued.into answer)
    have answered := asked.trans (readUntilMoved (replied id) lawful _)
    exact answered.trans (proceedMoved lawful .application (Connection.concludeMoved id request _))

theorem expectingElse {request : Request} (other : ∀ consumer, request ≠ .consume consumer) (id : SlotId)
    (line : LiveConnection α) : line.expecting id request = line := by
  unfold expecting
  rw [Connection.prepareElse other]

theorem askMoved (lawful : Lawful act) (id : SlotId) {request : Request}
    (other : ∀ consumer, request ≠ .consume consumer) (line : LiveConnection α) :
    Moved line (line.call act id request).2 := by
  have moved := callMoved lawful id request line
  rwa [expectingElse other] at moved

theorem releaseMoved (lawful : Lawful act) (side : Side) (id : SlotId) (line : LiveConnection α) :
    Moved line (line.release act side id) := by
  have dropped : ∀ line : LiveConnection α, Moved line { line with core := line.core.changeQuietly id Slot.drop } :=
    fun line settled => by
      obtain ⟨moves, effects⟩ := Connection.changeQuietlyMoves id Slot.drop line.core Slot.dropTreated
      exact ⟨⟨effects.trans settled.passed, settled.kept⟩, {}, moves, (List.append_nil _).symm,
        List.subset_append_left ..⟩
  unfold release
  dsimp only
  split
  · cases side with
    | reader => exact (proceedMoved lawful .reader (Connection.closeWithoutWaitingMoved id _)).trans (dropped _)
    | application => exact (askMoved lawful id (by simp) line).trans (dropped _)
  · exact dropped line

theorem dropChannelMoved (lawful : Lawful act) (side : Side) (name : String) (line : LiveConnection α) :
    Moved line (line.dropChannel act side name).2 := by
  unfold dropChannel
  split
  · exact .refl line
  · dsimp only
    split
    · exact .still rfl rfl rfl rfl
    · have forgotten : Moved line (line.forget name) := .still rfl rfl rfl rfl
      exact forgotten.trans (releaseMoved lawful side _ _)

theorem closeMoved (lawful : Lawful act) (side : Side) (line : LiveConnection α) :
    Moved line (line.close act side).2 := by
  unfold close
  split
  · have letGo : Moved line { line with held := false } := .still rfl rfl rfl rfl
    have asked := letGo.trans (proceedMoved lawful side (Connection.issueCloseMoved line.core))
    cases side with
    | reader => exact asked
    | application => exact asked.trans (readUntilMoved _ lawful _)
  · exact .refl line

theorem actWithinLawful (depth : Nat) : Lawful (actWithin (α := α) depth) := by
  induction depth with
  | zero => exact fun _ _ line => .refl line
  | succ depth ih =>
    intro side action line
    unfold actWithin
    split
    · exact .refl line
    · exact .refl line
    · exact dropChannelMoved ih side _ line
    · exact closeMoved ih side line

theorem claimMoved (lawful : Lawful act) (asked : Option UInt16) (line : LiveConnection α) :
    Moved line (line.claim act asked).2 ∧ (line.Settled → ∀ number id, (line.claim act asked).1 = .ok (number, id) →
      id < (line.claim act asked).2.core.slots.length) := by
  have issued := line.core.issueOpenMoved asked
  unfold claim
  split
  · rename_i answer
    exact ⟨proceedMoved lawful .application (issued.into answer), fun _ _ _ claimed => by cases claimed⟩
  · rename_i number id core answer
    have sent := proceedMoved lawful .application (issued.into answer)
    have answered := readUntilMoved (replied id) lawful (line.proceed act .application core)
    have concluded := Connection.concludeOpenMoved id ((line.proceed act .application core).readUntil (replied id) act).core
    dsimp only
    split
    · rename_i answer
      exact ⟨(sent.trans answered).trans (proceedMoved lawful .application (concluded.into answer)),
        fun _ _ _ claimed => by cases claimed⟩
    · rename_i final ending
      have ended := (sent.trans answered).trans (proceedMoved lawful .application (concluded.into ending))
      refine ⟨ended, fun settled _ _ claimed => ?_⟩
      cases claimed
      have ready := (sent settled).1
      have read := (answered ready).1
      calc id < core.slots.length := Connection.issueOpenThere answer
        _ ≤ (line.proceed act .application core).core.slots.length := proceedGrown lawful .application core settled
        _ ≤ _ := answered.grown ready
        _ ≤ _ := (concluded.into ending).length
        _ ≤ _ := proceedGrown lawful .application _ read

theorem injectMoved (more : Inbound) (line : LiveConnection α) :
    Moved line ((line.inject more).read (line.inject more).acting) := by
  have reached : Moved line (line.inject more) := .still rfl rfl rfl rfl
  exact reached.trans (readUntilMoved _ (actWithinLawful _) _)

end LiveConnection

end AmqpClient
