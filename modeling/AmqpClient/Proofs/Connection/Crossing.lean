import AmqpClient.Proofs.Connection.Closing

/-! Closes that cross. The client has asked for a channel to be closed, and the server closes it before it reads that.
What the server then says to the client's close is about a channel that has no number any more. It fails the connection,
or strikes whichever channel has been given the number meanwhile. -/
namespace AmqpClient.Connection

variable {α : Type} {connection after : Connection α} {id : SlotId} {number : UInt16} {frame : Frame}

def Parts (id : SlotId) (connection : Connection α) : Act α → Prop
  | .asks other .close => other = id ∧ (connection.issue id .close).1 = none
  | .leaves other => other = id ∧ (connection.send (connection.numberOf id) .closeChannel).1 = .ok ()
  | _ => False

/- The client has asked for a channel to be closed, which has its number until the server has answered. -/
structure Parting (id : SlotId) (number : UInt16) (connection : Connection α) : Prop where
  asked : ∃ (start : Connection α) (before : List (Act α)) (act : Act α) (later : List (Act α)),
    start.Blank ∧ Parts id (start.actAll before) act ∧ connection = start.actAll (before ++ act :: later)
  numbered : connection.ids.get? number = some id

structure Brings (number : UInt16) (method : Method) (frame : Frame) (connection : Connection α) : Prop where
  channel : frame.channel = number
  completes : ∃ command, connection.Completes frame command ∧ command.method = some method

structure Freed (id : SlotId) (number : UInt16) (before after : Connection α) : Prop where
  shut : ((after.slot? id).bind Slot.closed).isSome
  numbers : ∀ other, after.ids.get? other = if number = other then none else before.ids.get? other
  others : ∀ other ≠ id, after.slot? other = before.slot? other
  failure : after.failure = before.failure

structure Lost (reason : Error) (before after : Connection α) : Prop where
  failure : after.failure = some reason
  numbers : ∀ other, after.ids.get? other = none
  shut : ∀ other id, before.ids.get? other = some id → ((after.slot? id).bind Slot.closed).isSome

/- A channel has lost its number, and has an answer that is not to its question. Whoever is still waiting for it to be
opened gives it up. -/
structure Robbed (id : SlotId) (number : UInt16) (before after : Connection α) : Prop where
  numbers : ∀ other, after.ids.get? other = if number = other then none else before.ids.get? other
  replied : ∃ slot command, before.slot? id = some slot ∧ command.method = some ⟨.channelCloseOk, ()⟩ ∧
    after.slots = before.slots.set id (slot.reply (.ok command))
  failure : after.failure = before.failure
  unopened : ∀ slot, before.slot? id = some slot → slot.closed = none → slot.dropped = false → slot.replies = [] →
    (after.concludeOpen id).1 = .error .frameUnexpected ∧
      ((after.concludeOpen id).2.slot? id).bind Slot.closed = some .clientClosedChannel

/- What the server's agreement comes to where the channel that it is about has no number any more. -/
inductive Strikes (born : Nat) (number : UInt16) (late : Frame) (connection : Connection α) : Prop
  | nobody (free : connection.ids.get? number = none)
      (refused : (connection.receive late).1 = .error (.bogusChannelId number))
      (lost : connection.failure = none → Lost (.bogusChannelId number) connection (connection.act (.receives late)))
  | newer {id : SlotId} (numbered : connection.ids.get? number = some id) (younger : born ≤ id)
      (served : (connection.receive late).1 = .ok ())
      (robbed : Robbed id number connection (connection.act (.receives late)))

theorem completeReceived {command : Assembler} (completes : connection.Completes frame command) :
    connection.receive frame = (connection.forget frame.channel).dispatch frame.channel command := by
  unfold receive
  rw [if_neg completes.1, completes.2]

theorem sendResult (channel : UInt16) (method : Method) (connection : Connection α)
    (assemblers : List (UInt16 × Assembler)) :
    (send channel method { connection with assemblers }).1 = (connection.send channel method).1 := by
  unfold send transmit
  cases Command.ofMethod method with
  | error reason => rfl
  | ok command =>
    dsimp only
    cases connection.failure with
    | some reason => rfl
    | none =>
      dsimp only
      split <;> rfl

theorem answeringResult (channel : UInt16) (method : Method) (andThen : Connection α → Connection α)
    (connection : Connection α) :
    (connection.answering channel method andThen).1 = (connection.send channel method).1 := by
  unfold answering
  split
  · rename_i sent
    rw [sent]
  · rename_i sent
    rw [sent]

theorem releaseNumbers (seated : Seated connection) (numbered : connection.ids.get? number = some id) (other : UInt16) :
    (connection.release id).ids.get? other = if number = other then none else connection.ids.get? other := by
  obtain ⟨slot, there, rfl⟩ := seated number id numbered
  have there : connection.slots[id]? = some slot := there
  rw [releaseIds, there]
  dsimp only
  rw [if_pos numbered, ChannelIds.getRelease]

theorem actServed (served : (connection.receive frame).1 = .ok ()) :
    connection.receive frame = (.ok (), connection.act (.receives frame)) := by
  show connection.receive frame = (.ok (), settled (connection.receive frame))
  cases outcome : connection.receive frame with | mk result after =>
  rw [outcome] at served
  cases served
  rfl

theorem Brings.received {method : Method} (brings : connection.Brings number method frame) (foreign : number ≠ 0)
    (numbered : connection.ids.get? number = some id) :
    ∃ command : Assembler, command.method = some method ∧
      connection.receive frame = (connection.forget number).dispatchTo id number method command := by
  obtain ⟨rfl, command, completes, known⟩ := brings
  have found : (connection.forget frame.channel).ids.get? frame.channel = some id := numbered
  refine ⟨command, known, ?_⟩
  rw [completeReceived completes, dispatch, known]
  dsimp only
  rw [if_neg foreign, found]

theorem Brings.freed {method : Method} (brings : connection.Brings number method frame) (freeing : frees method = true)
    (seated : Seated connection) (foreign : number ≠ 0) (numbered : connection.ids.get? number = some id)
    (served : connection.receive frame = (.ok (), after)) :
    ∃ (slot : Slot α) (command : Assembler), connection.slot? id = some slot ∧ command.method = some method ∧
      after.slots = connection.slots.set id (slot.performAll (command.role.deeds number command)).1 ∧
      after.failure = connection.failure ∧
      ∀ other, after.ids.get? other = if number = other then none else connection.ids.get? other := by
  obtain ⟨slot, there, -⟩ := seated number id numbered
  obtain ⟨command, known, received⟩ := brings.received foreign numbered
  have worked := dispatchToDone known (received.symm.trans served)
  rw [if_pos freeing] at worked
  refine ⟨slot, command, there, known, (worked.logged.here there).1, worked.failure, fun other => ?_⟩
  rw [worked.ids]
  exact @releaseNumbers _ (connection.forget number) _ _ seated numbered other

theorem failFailure (reason : Error) (unfailed : connection.failure = none) :
    (connection.fail reason).failure = some reason := by
  unfold fail
  rw [unfailed, if_neg (by simp)]
  exact (shutAllWorked reason connection.ids.releaseAll.1
    { connection with ids := connection.ids.releaseAll.2, failure := some reason }).failure

theorem shutIsClosed (slot : Slot α) (reason : Error) (connectionLevel byApplication : Bool) :
    (slot.shutDown reason connectionLevel byApplication).1.closed.isSome := by
  cases closed : slot.closed with
  | none => simp [shutDownCloses closed]
  | some earlier => simp [Slot.shutDown, closed]

theorem shutSeveral (slot : Slot α) (cause : Cause) (count : Nat) :
    (slot.performAll (List.replicate (count + 1) cause.deed)).1.closed.isSome := by
  obtain ⟨reason, closed⟩ := Option.isSome_iff_exists.mp
    (shutIsClosed slot cause.reason cause.connectionLevel cause.byApplication)
  have plain : ∀ deed ∈ List.replicate count (cause.deed : Deed α), ∀ signal, deed ≠ .raise (.shutdown signal) :=
    fun deed member => List.eq_of_mem_replicate member ▸ nofun
  exact Option.isSome_iff_exists.mpr ⟨reason, (Slot.closedAll closed plain fun _ => false).1⟩

theorem failLoses (reason : Error) (seated : Seated connection) (unfailed : connection.failure = none) :
    Lost reason connection (connection.fail reason) := by
  obtain ⟨logged, freed⟩ := failLogged reason unfailed
  refine ⟨failFailure reason unfailed, fun other => ?_, fun other id numbered => ?_⟩
  · rw [freed]
    simp [ChannelIds.releaseAll, ChannelIds.get?]
  · obtain ⟨slot, there, -⟩ := seated other id numbered
    have held : id ∈ connection.ids.releaseAll.1 := numberedHeld numbered
    obtain ⟨others, several⟩ := Nat.exists_eq_succ_of_ne_zero (Nat.ne_of_gt (List.count_pos_iff.mpr held))
    have there : connection.slots[id]? = some slot := there
    rw [slot?, logged.slots, Slot.enterAllSlot, Slot.ownEach, several, there]
    exact shutSeveral slot (.failure reason) others

section Close

variable {close : Frame} {code classId methodId : UInt16} {text : String}

theorem closeAnswered (closing : connection.Brings number ⟨.channelClose, (code, text, classId, methodId, ())⟩ close)
    (foreign : number ≠ 0) (numbered : connection.ids.get? number = some id) :
    (connection.receive close).1 = (connection.send number ⟨.channelCloseOk, ()⟩).1 := by
  obtain ⟨command, -, received⟩ := closing.received foreign numbered
  rw [received]
  exact (answeringResult ..).trans (sendResult ..)

theorem closeFrees (closing : connection.Brings number ⟨.channelClose, (code, text, classId, methodId, ())⟩ close)
    (seated : Seated connection) (foreign : number ≠ 0) (numbered : connection.ids.get? number = some id)
    (served : (connection.receive close).1 = .ok ()) :
    Freed id number connection (connection.act (.receives close)) := by
  obtain ⟨slot, command, there, known, slots, failure, numbers⟩ :=
    closing.freed rfl seated foreign numbered (actServed served)
  have bound := (List.getElem?_eq_some_iff.mp there).1
  have role : command.role = .closing code text := by
    unfold Assembler.role
    rw [known]
  refine ⟨?_, numbers, fun other apart => ?_, failure⟩
  · rw [slot?, slots, List.getElem?_set_self bound, role]
    exact shutIsClosed slot _ _ _
  · rw [slot?, slots]
    exact List.getElem?_set_ne apart.symm

end Close

theorem openUnanswered {slot : Slot α} {command : Assembler} {rest : List (Except Error Assembler)}
    (there : connection.slot? id = some slot) (waiting : slot.replies = .ok command :: rest)
    (isOpen : slot.closed = none) (other : command.method.map Method.kind ≠ some .channelOpenOk) :
    (connection.concludeOpen id).1 = .error .frameUnexpected ∧
      ((connection.concludeOpen id).2.slot? id).bind Slot.closed = some .clientClosedChannel := by
  have taken : connection.takeReply id = (.ok command, connection.setSlot id { slot with replies := rest }) := by
    simp only [takeReply, there, waiting]
  have concluded : connection.concludeOpen id =
      (.error .frameUnexpected, (connection.setSlot id { slot with replies := rest }).giveUp id) := by
    simp only [concludeOpen, taken, if_neg other]
  have found : (connection.setSlot id { slot with replies := rest }).slot? id = some { slot with replies := rest } :=
    List.getElem?_set_self (List.getElem?_eq_some_iff.mp there).1
  have shut : Logged ([Cause.client.deed, .drop].map (Prod.mk id)) (connection.setSlot id { slot with replies := rest })
      _ := (giveUpWorked id _).logged
  obtain ⟨slots, -⟩ := shut.here found
  rw [concluded]
  refine ⟨rfl, ?_⟩
  have bound := (List.getElem?_eq_some_iff.mp found).1
  rw [slot?, slots, List.getElem?_set_self bound]
  exact @shutDownCloses _ { slot with replies := rest } isOpen .clientClosedChannel false true

section Agreement

variable {late : Frame} (agreeing : connection.Brings number ⟨.channelCloseOk, ()⟩ late)

include agreeing

theorem agreementRefused (foreign : number ≠ 0) (free : connection.ids.get? number = none) :
    connection.receive late = (.error (.bogusChannelId number), connection.forget number) := by
  obtain ⟨rfl, command, completes, known⟩ := agreeing
  have nobody : (connection.forget late.channel).ids.get? late.channel = none := free
  rw [completeReceived completes, dispatch, known]
  dsimp only
  rw [if_neg foreign, nobody]

theorem agreementLoses (seated : Seated connection) (foreign : number ≠ 0) (free : connection.ids.get? number = none)
    (unfailed : connection.failure = none) :
    Lost (.bogusChannelId number) connection (connection.act (.receives late)) := by
  have lost := @failLoses _ (connection.forget number) (.bogusChannelId number) seated unfailed
  have fails : connection.act (.receives late) = (connection.forget number).fail (.bogusChannelId number) := by
    show settled (connection.receive late) = _
    rw [agreementRefused agreeing foreign free]
    rfl
  rw [fails]
  exact ⟨lost.failure, lost.numbers, lost.shut⟩

theorem agreementServed (foreign : number ≠ 0) (numbered : connection.ids.get? number = some id) :
    (connection.receive late).1 = .ok () := by
  obtain ⟨command, -, received⟩ := agreeing.received foreign numbered
  rw [received]
  rfl

theorem agreementRobs (seated : Seated connection) (foreign : number ≠ 0)
    (numbered : connection.ids.get? number = some id) :
    Robbed id number connection (connection.act (.receives late)) := by
  obtain ⟨slot, command, there, known, slots, failure, numbers⟩ :=
    agreeing.freed rfl seated foreign numbered (actServed (agreementServed agreeing foreign numbered))
  have bound := (List.getElem?_eq_some_iff.mp there).1
  have role : command.role = .answer := by
    unfold Assembler.role
    rw [known]
  rw [role] at slots
  refine ⟨numbers, ⟨slot, command, there, known, slots⟩, failure, fun found here isOpen kept unanswered => ?_⟩
  cases there.symm.trans here
  have waiting : (connection.act (.receives late)).slot? id = some { slot with replies := [.ok command] } := by
    rw [slot?, slots, List.getElem?_set_self bound]
    simp [Role.deeds, Slot.performAll, Slot.perform, replyKept kept, unanswered]
  exact openUnanswered waiting rfl isOpen (by simp [known])

end Agreement

section Numbers

variable {start : Connection α}

theorem opensFewer {asked : Option UInt16} {claimed : UInt16 × SlotId}
    (allocated : connection.allocate asked = (.ok claimed, after)) :
    Fewer (connection.issueOpen asked).2.ids after.ids := by
  obtain ⟨number, id⟩ := claimed
  obtain ⟨transmitter, sent, keeps⟩ := after.sendOnKeeps id ⟨.channelOpen, ("", ())⟩
  unfold issueOpen
  rw [allocated]
  dsimp only
  split
  · rename_i answer
    rw [answer] at keeps
    cases keeps
    rw [(giveUpWorked id _).ids]
    exact releaseFewer id { after with transmitter, sent }
  · rename_i answer
    rw [answer] at keeps
    cases keeps
    exact .refl _

theorem opensNumbers (asked : Option UInt16) (connection : Connection α) (other : UInt16)
    (held : (connection.issueOpen asked).2.ids.get? other = some id) :
    connection.ids.get? other = some id ∨ (other ≠ 0 ∧ id = connection.slots.length) := by
  cases outcome : connection.allocate asked with | mk allocated middle =>
  cases allocated with
  | error reason =>
    have same : (connection.issueOpen asked).2 = middle := by simp only [issueOpen, outcome]
    rw [same, allocateFailed outcome] at held
    exact .inl held
  | ok claimed =>
    have before := opensFewer outcome other id held
    obtain ⟨number, place⟩ := claimed
    obtain ⟨rfl, ids, claims, rfl⟩ := allocateDone outcome
    have before : ids.get? other = some id := before
    rw [ChannelIds.getClaim claims] at before
    split at before
    · rename_i same
      cases before
      exact .inr ⟨same ▸ ChannelIds.claimForeign claims, rfl⟩
    · exact .inl before

theorem actNumbers (act : Act α) (connection : Connection α) (other : UInt16)
    (held : (connection.act act).ids.get? other = some id) :
    connection.ids.get? other = some id ∨ (other ≠ 0 ∧ id = connection.slots.length) := by
  by_cases opening : ∃ asked, act = .opens asked
  · obtain ⟨asked, rfl⟩ := opening
    exact opensNumbers asked connection other held
  · exact .inl (actFewer (fun asked same => opening ⟨asked, same⟩) connection other id held)

theorem actGrown (seated : Seated connection) (act : Act α) :
    connection.slots.length ≤ (connection.act act).slots.length := by
  cases actTold seated act with
  | calm logged | shut _ logged | failed logged => rw [logged.slots, Slot.enterAllLength]
  | born slots | stillborn slots =>
    rw [slots, List.length_append]
    exact Nat.le_add_right ..

theorem actAllNumbers (seated : Seated connection) (acts : List (Act α)) (other : UInt16)
    (held : (connection.actAll acts).ids.get? other = some id) :
    connection.ids.get? other = some id ∨ (other ≠ 0 ∧ connection.slots.length ≤ id) := by
  induction acts generalizing connection with
  | nil => exact .inl held
  | cons act rest ih =>
    obtain before | ⟨foreign, younger⟩ := ih (actSeated seated act) held
    · exact (actNumbers act connection other before).imp_right fun opened => ⟨opened.1, Nat.le_of_eq opened.2.symm⟩
    · exact .inr ⟨foreign, Nat.le_trans (actGrown seated act) younger⟩

theorem Blank.foreign (blank : start.Blank) (acts : List (Act α)) (other : UInt16)
    (held : (start.actAll acts).ids.get? other = some id) : other ≠ 0 := by
  obtain before | ⟨foreign, -⟩ := actAllNumbers blank.seated acts other held
  · simp [ChannelIds.get?, blank.held] at before
  · exact foreign

end Numbers

/- Where closes cross, the server's close frees the number of the channel. Its agreement then always strikes: it fails
the connection, or a newer channel with that number loses it. -/
theorem crossingStrikes (parting : Parting id number connection) {close late : Frame} {code classId methodId : UInt16}
    {text : String} (closing : connection.Brings number ⟨.channelClose, (code, text, classId, methodId, ())⟩ close)
    (between : List (Act α))
    (agreeing : ((connection.act (.receives close)).actAll between).Brings number ⟨.channelCloseOk, ()⟩ late) :
    (connection.receive close).1 = (connection.send number ⟨.channelCloseOk, ()⟩).1 ∧
      ((connection.receive close).1 = .ok () →
        Freed id number connection (connection.act (.receives close)) ∧
          Strikes connection.slots.length number late ((connection.act (.receives close)).actAll between)) := by
  obtain ⟨start, before, act, later, blank, -, reached⟩ := parting.asked
  have numbered := parting.numbered
  have foreign : number ≠ 0 := blank.foreign _ number (reached ▸ numbered)
  have seated : Seated connection := reached ▸ actAllSeated blank.seated _
  refine ⟨closeAnswered closing foreign numbered, fun served => ?_⟩
  have freed := closeFrees closing seated foreign numbered served
  have after : Seated (connection.act (.receives close)) := actSeated seated _
  have now := actAllSeated after between
  refine ⟨freed, ?_⟩
  cases holder : ((connection.act (.receives close)).actAll between).ids.get? number with
  | none =>
    have refused := agreementRefused agreeing foreign holder
    exact .nobody holder (by rw [refused]) fun unfailed => agreementLoses agreeing now foreign holder unfailed
  | some newer =>
    -- The number was free after the server's close, so that whoever has it now was opened later.
    obtain old | ⟨-, younger⟩ := actAllNumbers after between number holder
    · rw [freed.numbers, if_pos rfl] at old
      cases old
    · exact .newer holder (Nat.le_trans (actGrown seated _) younger) (agreementServed agreeing foreign holder)
        (agreementRobs agreeing now foreign holder)

def partly : List (Act Nat) :=
  [.opens (some 1), .receives ⟨.method, 1, [0, 20, 0, 11, 0, 0, 0, 0]⟩, .opened 0,
   .opens (some 2), .receives ⟨.method, 2, [0, 20, 0, 11, 0, 0, 0, 0]⟩, .opened 1]

def parted : Connection Nat := vacant.actAll (partly ++ [.asks 0 .close])

def serverClose : Frame := ⟨.method, 1, [0, 20, 0, 40, 1, 148, 1, 120, 0, 0, 0, 0]⟩

def agreement : Frame := ⟨.method, 1, [0, 20, 0, 41]⟩

theorem partedParting : Parting 0 1 parted :=
  ⟨⟨vacant, partly, .asks 0 .close, [], vacantBlank, ⟨rfl, rfl⟩, rfl⟩, rfl⟩

theorem partedClosing :
    parted.Brings 1 ⟨.channelClose, ((404 : UInt16), "x", (0 : UInt16), (0 : UInt16), ())⟩ serverClose :=
  ⟨rfl, _, ⟨by decide, rfl⟩, rfl⟩

theorem partedStruck :
    Parting 0 1 parted ∧ (parted.receive serverClose).1 = .ok () ∧
    Freed 0 1 parted (parted.act (.receives serverClose)) ∧
    Strikes 2 1 agreement (parted.act (.receives serverClose)) ∧
    Strikes 2 1 agreement ((parted.act (.receives serverClose)).actAll [.opens (some 1)]) :=
  have lost := crossingStrikes partedParting partedClosing [] ⟨rfl, _, ⟨by decide, rfl⟩, rfl⟩
  have robbed := crossingStrikes partedParting partedClosing [.opens (some 1)] ⟨rfl, _, ⟨by decide, rfl⟩, rfl⟩
  ⟨partedParting, rfl, (lost.2 rfl).1, (lost.2 rfl).2, (robbed.2 rfl).2⟩

theorem partedLost :
    Parting 0 1 parted ∧
    (parted.receive serverClose).1 = .ok () ∧
    ((parted.act (.receives serverClose)).receive agreement).1 = .error (.bogusChannelId 1) ∧
    ((parted.act (.receives serverClose)).slot? 1).bind Slot.closed = none ∧
    (((parted.act (.receives serverClose)).act (.receives agreement)).slot? 1).bind Slot.closed =
      some (.bogusChannelId 1) ∧
    ((parted.actAll [.receives serverClose, .opens (some 1)]).slot? 2).bind Slot.closed = none ∧
    ((parted.actAll [.receives serverClose, .opens (some 1), .receives agreement, .opened 2]).slot? 2).bind Slot.closed =
      some .clientClosedChannel := ⟨partedParting, rfl, rfl, rfl, rfl, rfl, rfl⟩

end AmqpClient.Connection
