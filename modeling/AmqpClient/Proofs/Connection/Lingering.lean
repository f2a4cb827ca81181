import AmqpClient.Connection.Live
import AmqpClient.Proofs.Connection.Crossing

/-! Handles that outlive their channels. A channel that was shut has no number any more, unless its handle was left to
the server to close; so whatever is asked of the handle from then on concerns its own slot and nothing else. -/
namespace AmqpClient.Connection

variable {α : Type} {connection middle after : Connection α} {id : SlotId} {act : Act α} {log : List (Entry α)}

def Unnumbered (id : SlotId) (connection : Connection α) : Prop := ∀ number, connection.ids.get? number ≠ some id

theorem Unnumbered.fewer (unnumbered : Unnumbered id connection) (fewer : Fewer after.ids connection.ids) :
    Unnumbered id after := fun number held => unnumbered number (fewer number id held)

/-! What frees numbers -/

theorem Seated.alone (seated : Seated connection) {one two : UInt16} (first : connection.ids.get? one = some id)
    (second : connection.ids.get? two = some id) : one = two := by
  obtain ⟨slot, there, rfl⟩ := seated one id first
  obtain ⟨_, again, rfl⟩ := seated two id second
  cases there.symm.trans again
  rfl

theorem failFrees (unfailed : connection.failure = none) (reason : Error) :
    Unnumbered id (connection.fail reason) := by
  intro number held
  rw [(failLogged reason unfailed).2] at held
  simp [ChannelIds.releaseAll, ChannelIds.get?] at held

theorem releaseFrees (seated : Seated connection) (id : SlotId) : Unnumbered id (connection.release id) := by
  intro number held
  have before := releaseFewer id connection number id held
  rw [releaseNumbers seated before, if_pos rfl] at held
  cases held

theorem giveUpFrees (seated : Seated connection) (id : SlotId) : Unnumbered id (connection.giveUp id) :=
  (releaseFrees seated id).fewer ((giveUpWorked id connection).ids ▸ .refl _)

theorem closeFinished (seated : Seated connection) (id : SlotId) (result : Except Error Reply) :
    Unnumbered id (connection.finish id .close result).2 :=
  (releaseFrees seated id).fewer ((connection.shutWorked id .clientClosedChannel false true).ids ▸ .refl _)

theorem Seated.same (seated : Seated connection) (logged : Logged log connection middle)
    (ids : middle.ids = connection.ids) : Seated middle := seated.logged logged (ids ▸ .refl _)

theorem closeRefused (seated : Seated connection) (refused : (connection.issue id .close).1.isSome) :
    Unnumbered id (connection.issue id .close).2 := by
  obtain ⟨transmitter, sent, keeps⟩ := connection.sendOnKeeps id .closeChannel
  have checked : Request.close.check = .ok () := rfl
  have prepared : connection.prepare id .close = connection := rfl
  have asked : connection.sendRequest id .close = connection.sendOn id .closeChannel := rfl
  cases answer : connection.sendOn id .closeChannel with | mk result middle =>
  rw [answer] at keeps asked
  cases keeps
  simp only [issue, checked, prepared, asked] at refused ⊢
  cases result with
  | ok => cases refused
  | error reason =>
    exact @closeFinished _ { connection with transmitter, sent } (seated.same (.still rfl rfl) rfl) id (.error reason)

theorem closeConcluded (seated : Seated connection) (id : SlotId) : Unnumbered id (connection.conclude id .close).2 :=
  have taken := connection.takeReplyWorked id
  closeFinished (seated.same taken.logged taken.ids) id _

theorem openRefused {reason : Error} (seated : Seated connection) (refused : (connection.concludeOpen id).1 = .error reason) :
    Unnumbered id (connection.concludeOpen id).2 := by
  have taken := connection.takeReplyWorked id
  have middle := seated.same taken.logged taken.ids
  unfold concludeOpen at refused ⊢
  dsimp only at refused ⊢
  split at refused
  · split at refused
    · cases refused
    · rename_i other
      rw [if_neg other]
      exact giveUpFrees middle id
  · exact giveUpFrees middle id

theorem opensRefused {asked : Option UInt16} {claimed : UInt16 × SlotId} {reason : Error} (seated : Seated connection)
    (allocated : (connection.allocate asked).1 = .ok claimed) (refused : (connection.issueOpen asked).1 = .error reason) :
    Unnumbered connection.slots.length (connection.issueOpen asked).2 := by
  cases outcome : connection.allocate asked with | mk result middle =>
  rw [outcome] at allocated
  cases allocated
  obtain ⟨number, id⟩ := claimed
  have given := allocateSeated seated outcome
  obtain ⟨rfl, -, -, -⟩ := allocateDone outcome
  obtain ⟨transmitter, sent, keeps⟩ := middle.sendOnKeeps connection.slots.length ⟨.channelOpen, ("", ())⟩
  simp only [issueOpen, outcome] at refused ⊢
  split at refused
  · rename_i answer
    rw [answer] at keeps
    cases keeps
    exact @giveUpFrees _ { middle with transmitter, sent } (given.same (.still rfl rfl) rfl) _
  · cases refused

theorem roleClosing {command : Assembler} {code : UInt16} {text : String} (role : command.role = .closing code text) :
    ∃ rest, command.method = some ⟨.channelClose, (code, text, rest)⟩ := by
  unfold Assembler.role at role
  split at role
  case h_7 rest known =>
    cases role
    exact ⟨rest, known⟩
  case h_1 | h_2 => split at role <;> cases role
  all_goals cases role

theorem closingFrees {frame : Frame} {entry : UInt16 × String} (seated : Seated connection)
    (served : connection.receive frame = (.ok (), after)) (numbered : connection.ids.get? frame.channel = some id)
    (foreign : frame.channel ≠ 0) (closing : connection.closingOf frame = some entry) : Unnumbered id after := by
  unfold closingOf at closing
  split at closing
  · cases closing
  · rename_i kind
    split at closing
    · rename_i command fed
      split at closing
      · rename_i code text role
        obtain ⟨rest, known⟩ := roleClosing role
        have brings : connection.Brings frame.channel ⟨.channelClose, (code, text, rest)⟩ frame :=
          ⟨rfl, command, ⟨kind, fed⟩, known⟩
        obtain ⟨_, _, _, _, _, _, numbers⟩ := brings.freed rfl seated foreign numbered served
        intro number held
        rw [numbers] at held
        split at held
        · cases held
        · rename_i other
          exact other (seated.alone numbered held)
      · cases closing
    · cases closing

theorem failingUnfailed {cause : Cause} {reason : Error} (fails : connection.failing id reason = some cause) :
    connection.failure = none := by
  unfold Connection.failing at fails
  split at fails
  · rename_i both
    exact both.1
  · cases fails

theorem receivesFrees {frame : Frame} {cause : Cause} (seated : Seated connection)
    (caused : causeOf id connection (.receives frame) = some cause) : Unnumbered id (settled (connection.receive frame)) := by
  simp only [causeOf] at caused
  cases outcome : connection.receive frame with | mk result middle =>
  rw [outcome] at caused
  cases result with
  | error reason =>
    obtain ⟨_, _, _, _, failure⟩ := receiveFailed outcome
    exact failFrees (failure.trans (failingUnfailed caused)) reason
  | ok =>
    dsimp only at caused
    split at caused
    · rename_i numbered
      obtain ⟨entry, closing, -⟩ := Option.map_eq_some_iff.mp caused
      exact closingFrees seated outcome numbered.2 numbered.1 closing
    · cases caused

theorem issueCloseFrees {cause : Cause} (caused : causeOf id connection .closes = some cause) :
    Unnumbered id connection.issueClose := by
  obtain ⟨transmitter, sent, keeps⟩ := connection.sendKeeps 0 .closeConnection
  cases outcome : connection.send 0 .closeConnection with | mk result middle =>
  rw [outcome] at keeps
  cases keeps
  simp only [causeOf, outcome] at caused
  cases result with
  | ok => cases caused
  | error reason =>
    have unfailed := failingUnfailed caused
    have issued : connection.issueClose = fail reason { connection with transmitter, sent } := by
      simp [issueClose, unfailed, outcome]
    have same : ({ connection with transmitter, sent } : Connection α).failure = none := unfailed
    rw [issued]
    exact failFrees same reason

theorem causeFrees {cause : Cause} (seated : Seated connection) (caused : causeOf id connection act = some cause)
    (stays : act ≠ .leaves id) : Unnumbered id (connection.act act) := by
  cases act with
  | receives frame => exact receivesFrees seated caused
  | fails reason => exact failFrees (failingUnfailed caused) reason
  | closes => exact issueCloseFrees caused
  | opens asked =>
    simp only [causeOf] at caused
    split at caused
    · rename_i allocated refused
      split at caused
      · rename_i same
        subst same
        exact opensRefused seated allocated refused
      · cases caused
    · cases caused
  | opened other =>
    simp only [causeOf] at caused
    split at caused
    · rename_i refused
      split at caused
      · rename_i same
        obtain ⟨rfl, -⟩ := same
        exact openRefused seated refused
      · cases caused
    · cases caused
  | asks other request =>
    cases request with
    | close =>
      simp only [causeOf] at caused
      split at caused
      · rename_i same
        obtain ⟨rfl, -, refused⟩ := same
        exact closeRefused seated refused
      · cases caused
    | _ => cases caused
  | learns other request =>
    cases request with
    | close =>
      simp only [causeOf] at caused
      split at caused
      · rename_i same
        obtain ⟨rfl, -⟩ := same
        exact closeConcluded seated other
      · cases caused
    | _ => cases caused
  | leaves other =>
    simp only [causeOf] at caused
    split at caused
    · rename_i same
      exact absurd (congrArg Act.leaves same.1) stays
    · cases caused
  | drops | listens | unlistens | reads | rewires => cases caused

/-! Who has a number -/

def Manned (id : SlotId) (connection : Connection α) : Prop :=
  ∀ number, connection.ids.get? number = some id → (connection.slot? id).bind Slot.closed = none

theorem actUncaused (seated : Seated connection) (uncaused : causeOf id connection act = none) :
    ((connection.act act).slot? id).bind Slot.closed = (connection.slot? id).bind Slot.closed := by
  have numbered : ∀ slot, (connection.act act).slot? id = some slot →
      slot.number = (connection.act act).numberOf id := fun slot there => by simp [numberOf, there]
  obtain ⟨deeds, undergoes, -⟩ := actUndergoes seated act numbered
  have calm := undergoes.calm fun early other late same => by
    obtain ⟨rfl, rfl, rfl⟩ : early = [] ∧ other = act ∧ late = [] := by
      cases early <;> simp_all
    exact uncaused
  have closed := congrArg Slot.closed undergoes.slot
  rw [(Slot.calmAll calm fun _ => false).1] at closed
  rw [closedAt ((connection.act act).numberOf id), closedAt ((connection.act act).numberOf id)]
  exact closed

theorem Manned.stays (manned : Manned id connection) (seated : Seated connection) (kept : act ≠ .leaves id) :
    Manned id (connection.act act) := by
  intro number held
  cases caused : causeOf id connection act with
  | some cause => exact absurd held (causeFrees seated caused kept number)
  | none =>
    rw [actUncaused seated caused]
    obtain before | ⟨-, rfl⟩ := actNumbers act connection number held
    · exact manned number before
    · rw [slot?, List.getElem?_eq_none (Nat.le_refl _)]
      rfl

theorem actAllManned (manned : Manned id connection) (seated : Seated connection) {acts : List (Act α)}
    (stays : .leaves id ∉ acts) : Manned id (connection.actAll acts) := by
  induction acts generalizing connection with
  | nil => exact manned
  | cons act rest ih =>
    obtain ⟨other, stays⟩ := not_or.mp (stays ∘ List.mem_cons.mpr)
    exact ih (manned.stays seated (Ne.symm other)) (actSeated seated act) stays

theorem Blank.manned {start : Connection α} (blank : start.Blank) (id : SlotId) : Manned id start := by
  intro number held
  simp [ChannelIds.get?, blank.held] at held

/-! What a handle does to its slot once that is shut -/

section Shut

variable {slot : Slot α} {reason : Error}

theorem changeThere (there : connection.slot? id = some slot) (f : Slot α → Slot α) :
    connection.changeQuietly id f = connection.setSlot id (f slot) := by
  simp [changeQuietly, change, there]

theorem releaseIdle (there : connection.slot? id = some slot) (unnumbered : Unnumbered id connection) :
    connection.release id = connection := by
  simp only [release, there, if_neg (unnumbered slot.number)]

theorem shutAgain (there : connection.slot? id = some slot) (closed : slot.closed = some reason) (other : Error)
    (connectionLevel byApplication : Bool) : connection.shutDown id other connectionLevel byApplication = connection := by
  have idle : slot.shutDown other connectionLevel byApplication = (slot, {}) := Slot.shutIdle closed ..
  simp [shutDown, change, there, idle, setSlotSame there]

theorem finishShut (there : connection.slot? id = some slot) (closed : slot.closed = some reason)
    (unnumbered : Unnumbered id connection) (request : Request) (result : Except Error Reply) :
    ∃ left : Slot α, left.closed = some reason ∧ (connection.finish id request result).2 = connection.setSlot id left := by
  unfold finish
  split
  · refine ⟨slot, closed, ?_⟩
    dsimp only
    rw [releaseIdle there unnumbered, shutAgain there closed, setSlotSame there]
  · exact ⟨slot.expect none, closed, changeThere there _⟩
  · exact ⟨slot, closed, (setSlotSame there).symm⟩

theorem issueShut (there : connection.slot? id = some slot) (closed : slot.closed = some reason)
    (unnumbered : Unnumbered id connection) (request : Request) :
    (∃ error, (connection.issue id request).1 = some (.error error)) ∧
      ∃ left : Slot α, left.closed = some reason ∧ (connection.issue id request).2 = connection.setSlot id left := by
  unfold issue
  split
  · exact ⟨⟨_, rfl⟩, slot, closed, (setSlotSame there).symm⟩
  · rw [prepareRefused there closed, sendRequestRefused there closed]
    exact ⟨⟨_, congrArg some (finishWorked ..).1⟩, finishShut there closed unnumbered request _⟩

theorem setSlotAgain (id : SlotId) (first second : Slot α) (connection : Connection α) :
    (connection.setSlot id first).setSlot id second = connection.setSlot id second := by
  simp [setSlot]

theorem setSlotThere (there : connection.slot? id = some slot) (left : Slot α) :
    (connection.setSlot id left).slot? id = some left :=
  List.getElem?_set_self (List.getElem?_eq_some_iff.mp there).1

theorem takeReplyShut (there : connection.slot? id = some slot) (closed : slot.closed = some reason) :
    ∃ left : Slot α, left.closed = some reason ∧ (connection.takeReply id).2 = connection.setSlot id left := by
  unfold takeReply
  rw [there]
  dsimp only
  split
  · exact ⟨slot, closed, (setSlotSame there).symm⟩
  · rename_i rest _
    exact ⟨{ slot with replies := rest }, closed, rfl⟩

theorem concludeShut (there : connection.slot? id = some slot) (closed : slot.closed = some reason)
    (unnumbered : Unnumbered id connection) (request : Request) :
    ∃ left : Slot α, left.closed = some reason ∧ (connection.conclude id request).2 = connection.setSlot id left := by
  obtain ⟨taken, still, took⟩ := takeReplyShut there closed
  obtain ⟨left, stays, finished⟩ := @finishShut _ (connection.setSlot id taken) id _ _ (setSlotThere there taken) still
    unnumbered request ((connection.takeReply id).1.bind (Reply.ofCommand request))
  refine ⟨left, stays, ?_⟩
  unfold conclude
  dsimp only
  rw [took, finished, setSlotAgain]

theorem giveUpShut (there : connection.slot? id = some slot) (closed : slot.closed = some reason)
    (unnumbered : Unnumbered id connection) : connection.giveUp id = connection.setSlot id slot.drop := by
  rw [giveUp, releaseIdle there unnumbered, shutAgain there closed, changeThere there]

theorem concludeOpenShut (there : connection.slot? id = some slot) (closed : slot.closed = some reason)
    (unnumbered : Unnumbered id connection) :
    ∃ left : Slot α, left.closed = some reason ∧ (connection.concludeOpen id).2 = connection.setSlot id left := by
  obtain ⟨taken, still, took⟩ := takeReplyShut there closed
  have given : (connection.setSlot id taken).giveUp id = _ := giveUpShut (setSlotThere there taken) still unnumbered
  unfold concludeOpen
  dsimp only
  split
  · split
    · exact ⟨taken, still, took⟩
    · exact ⟨taken.drop, still, by rw [took, given, setSlotAgain]⟩
  · exact ⟨taken.drop, still, by rw [took, given, setSlotAgain]⟩

end Shut

inductive Handles (id : SlotId) : Act α → Prop
  | opened : Handles id (.opened id)
  | asks (request : Request) : Handles id (.asks id request)
  | learns (request : Request) : Handles id (.learns id request)
  | listens (kind : EventKind) (listener : α) : Handles id (.listens id kind listener)
  | unlistens (kind : EventKind) (listener : ListenerId) : Handles id (.unlistens id kind listener)
  | drops : Handles id (.drops id)

structure Confined (id : SlotId) (before after : Connection α) : Prop where
  others : ∀ other ≠ id, after.slot? other = before.slot? other
  ids : after.ids = before.ids
  transmitter : after.transmitter = before.transmitter
  sent : after.sent = before.sent
  effects : after.effects = before.effects
  assemblers : after.assemblers = before.assemblers
  intake : after.intake = before.intake
  spill : after.spill = before.spill
  failure : after.failure = before.failure

theorem Confined.set (id : SlotId) (slot : Slot α) (connection : Connection α) :
    Confined id connection (connection.setSlot id slot) where
  others _ apart := List.getElem?_set_ne apart.symm
  ids := rfl
  transmitter := rfl
  sent := rfl
  effects := rfl
  assemblers := rfl
  intake := rfl
  spill := rfl
  failure := rfl

theorem handlesShut {slot : Slot α} {reason : Error} (there : connection.slot? id = some slot)
    (closed : slot.closed = some reason) (unnumbered : Unnumbered id connection) (handles : Handles id act) :
    ∃ left : Slot α, left.closed = some reason ∧ connection.act act = connection.setSlot id left := by
  cases handles with
  | opened => exact concludeOpenShut there closed unnumbered
  | asks request => exact (issueShut there closed unnumbered request).2
  | learns request => exact concludeShut there closed unnumbered request
  | listens kind listener =>
    exact ⟨{ slot with listeners := (slot.listeners.add kind listener).2 }, closed, changeThere there _⟩
  | unlistens kind listener =>
    exact ⟨{ slot with listeners := (slot.listeners.remove kind listener).2 }, closed, changeThere there _⟩
  | drops => exact ⟨slot.drop, closed, changeThere there _⟩

/- A handle of a channel that was shut concerns nobody else: calls are refused, nothing is sent, nobody is told anything,
and whoever has the number by now keeps it. To let go of the handle is to let go of its own slot, on either side. -/
theorem staleHandleHarmless {α : Type} {start : Connection (ActingListener α)} (blank : start.Blank)
    (acts : List (Act (ActingListener α))) (id : SlotId) {slot : Slot (ActingListener α)} {reason : Error}
    (there : (start.actAll acts).slot? id = some slot) (closed : slot.closed = some reason)
    -- The handle was not given up to the server, so that it is still there.
    (kept : .leaves id ∉ acts) :
    Unnumbered id (start.actAll acts) ∧
    (∀ act, Handles id act → Confined id (start.actAll acts) ((start.actAll acts).act act) ∧
      (((start.actAll acts).act act).slot? id).bind Slot.closed = some reason) ∧
    (∀ request, ∃ error, ((start.actAll acts).issue id request).1 = some (.error error)) ∧
    ∀ (line : LiveConnection α), line.core = start.actAll acts → ∀ acting side,
      line.release acting side id = { line with core := (start.actAll acts).act (.drops id) } := by
  have seated := actAllSeated blank.seated acts
  have manned := actAllManned (blank.manned id) blank.seated kept
  have unnumbered : Unnumbered id (start.actAll acts) := fun number held => by
    have isOpen := manned number held
    rw [there] at isOpen
    cases closed.symm.trans isOpen
  refine ⟨unnumbered, fun act handles => ?_, fun request => (issueShut there closed unnumbered request).1,
    fun line core acting side => ?_⟩
  · obtain ⟨left, still, same⟩ := handlesShut there closed unnumbered handles
    rw [same, setSlotThere there]
    exact ⟨.set id left _, still⟩
  · have stays : line.closesOnDrop id = false := by
      simp [LiveConnection.closesOnDrop, core, there, Slot.isOpen, closed]
    simp only [LiveConnection.release, stays, Bool.false_eq_true, if_false, core]
    rfl

def reopening : List (Act (ActingListener Nat)) :=
  [.opens (some 1), .receives ⟨.method, 1, [0, 20, 0, 11, 0, 0, 0, 0]⟩, .opened 0, .receives serverClose,
   .opens (some 1), .receives ⟨.method, 1, [0, 20, 0, 11, 0, 0, 0, 0]⟩, .opened 1, .listens 1 .shutdown ⟨5, .nothing⟩]

def reopened : Connection (ActingListener Nat) := actAll { ids := { max := 2 } } reopening

theorem reopenedUnharmed :
    ((reopened.slot? 0).bind Slot.closed = some (.serverClosedChannel 1 404 "x") ∧
      (reopened.slot? 1).map Slot.isOpen = some true ∧ reopened.ids.get? 1 = some 1) ∧
    Confined 0 reopened (reopened.act (.asks 0 .close)) ∧
    (∃ error, (reopened.issue 0 .close).1 = some (.error error)) ∧
    ({ core := reopened } : LiveConnection Nat).release (fun _ _ line => line) .application 0 =
      { core := reopened.act (.drops 0) } := by
  have shut : (reopened.slot? 0).bind Slot.closed = some (.serverClosedChannel 1 404 "x") := rfl
  obtain ⟨slot, there, closed⟩ := Option.bind_eq_some_iff.mp shut
  obtain ⟨-, confined, refused, released⟩ :=
    staleHandleHarmless ⟨rfl, rfl, rfl, rfl⟩ reopening 0 there closed (by simp [reopening])
  exact ⟨⟨shut, rfl, rfl⟩, (confined _ (.asks .close)).1, refused .close, released { core := reopened } rfl _ _⟩

end AmqpClient.Connection
