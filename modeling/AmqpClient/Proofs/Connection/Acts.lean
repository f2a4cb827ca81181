import AmqpClient.Proofs.Connection.Asking

/-! Everything that can happen to a connection, act by act, and what it does to the slots. A channel closes because the
server closes it, because the application does, or because the connection fails. -/
namespace AmqpClient

inductive Act (α : Type)
  | receives (frame : Frame)
  | fails (reason : Error)
  -- A channel is asked for, and the server has answered, or the connection has failed meanwhile.
  | opens (asked : Option UInt16)
  | opened (id : SlotId)
  | asks (id : SlotId) (request : Request)
  | learns (id : SlotId) (request : Request)
  -- A handle goes where nobody may wait for the server.
  | leaves (id : SlotId)
  | drops (id : SlotId)
  | closes
  | listens (id : SlotId) (kind : EventKind) (listener : α)
  | unlistens (id : SlotId) (kind : EventKind) (listener : ListenerId)
  -- Bytes come in or go out.
  | reads (intake : Intake)
  | rewires (transmitter : Transmitter)

namespace Act

variable {α : Type}

def brings : Act α → List ReceiverId
  | asks _ (.consume consumer) => [consumer.receiver]
  | _ => []

def bringsTo (id : SlotId) : Act α → List ReceiverId
  | asks other (.consume consumer) => if other = id then [consumer.receiver] else []
  | _ => []

def Empties (id : SlotId) : Act α → Prop
  | opens _ => False
  | opened other => other = id
  | learns other _ => other = id
  | drops other => other = id
  | _ => False

end Act

inductive Cause
  | server (channel code : UInt16) (text : String)
  | client
  | failure (reason : Error)

namespace Cause

def reason : Cause → Error
  | server channel code text => .serverClosedChannel channel code text
  | client => .clientClosedChannel
  | failure reason => reason

def connectionLevel : Cause → Bool
  | failure _ => true
  | _ => false

def byApplication : Cause → Bool
  | server .. => false
  | client => true
  | failure reason => Connection.askedFor reason

def signal (channel : UInt16) (cause : Cause) : ShutdownSignal :=
  ⟨channel, cause.connectionLevel, cause.byApplication, cause.reason⟩

/- What a consumer is told in the end. Where the connection was lost it is told nothing. -/
def ending? (cause : Cause) : Option ConsumerMessage :=
  if cause.connectionLevel && !cause.byApplication then none else some (.ending cause.reason)

def deed {α : Type} (cause : Cause) : Deed α := .shut cause.reason cause.connectionLevel cause.byApplication

end Cause

namespace Connection

variable {α : Type} {before middle after connection : Connection α} {log : List (Entry α)}

def act (connection : Connection α) : Act α → Connection α
  | .receives frame => settled (connection.receive frame)
  | .fails reason => connection.fail reason
  | .opens asked => (connection.issueOpen asked).2
  | .opened id => (connection.concludeOpen id).2
  | .asks id request => (connection.issue id request).2
  | .learns id request => (connection.conclude id request).2
  | .leaves id => connection.closeWithoutWaiting id
  | .drops id => connection.changeQuietly id Slot.drop
  | .closes => connection.issueClose
  | .listens id kind listener =>
    connection.changeQuietly id fun slot => { slot with listeners := (slot.listeners.add kind listener).2 }
  | .unlistens id kind listener =>
    connection.changeQuietly id fun slot => { slot with listeners := (slot.listeners.remove kind listener).2 }
  | .reads intake => { connection with intake }
  | .rewires transmitter => { connection with transmitter }

def actAll (connection : Connection α) (acts : List (Act α)) : Connection α := acts.foldl act connection

structure Blank (connection : Connection α) : Prop where
  slots : connection.slots = []
  held : connection.ids.held = {}
  unfailed : connection.failure = none
  effects : connection.effects = {}

def Reachable (connection : Connection α) : Prop :=
  ∃ (start : Connection α) (acts : List (Act α)), start.Blank ∧ connection = start.actAll acts

def failing (id : SlotId) (reason : Error) (connection : Connection α) : Option Cause :=
  if connection.failure = none ∧ id ∈ connection.ids.releaseAll.1 then some (.failure reason) else none

def closingOf (frame : Frame) (connection : Connection α) : Option (UInt16 × String) :=
  if frame.kind = .heartbeat then none
  else match (connection.assembler frame.channel).feed frame with
    | (.ok true, command) =>
      match command.role with
      | .closing code text => some (code, text)
      | _ => none
    | _ => none

def causeOf (id : SlotId) (connection : Connection α) : Act α → Option Cause
  | .receives frame =>
    match (connection.receive frame).1 with
    | .error reason => connection.failing id reason
    | .ok () =>
      if frame.channel ≠ 0 ∧ connection.ids.get? frame.channel = some id then
        (connection.closingOf frame).map fun entry => .server frame.channel entry.1 entry.2
      else none
  | .fails reason => connection.failing id reason
  | .opens asked =>
    match (connection.allocate asked).1, (connection.issueOpen asked).1 with
    | .ok _, .error _ => if connection.slots.length = id then some .client else none
    | _, _ => none
  | .opened other =>
    match (connection.concludeOpen other).1 with
    | .error _ => if other = id ∧ (connection.slot? id).isSome then some .client else none
    | .ok () => none
  | .asks other .close =>
    if other = id ∧ (connection.slot? id).isSome ∧ (connection.issue other .close).1.isSome then some .client else none
  | .learns other .close => if other = id ∧ (connection.slot? id).isSome then some .client else none
  | .leaves other => if other = id ∧ (connection.slot? id).isSome then some .client else none
  | .closes =>
    match (connection.send 0 .closeConnection).1 with
    | .error reason => connection.failing id reason
    | .ok () => none
  | _ => none

theorem shutAllWorked (reason : Error) (held : List SlotId) (connection : Connection α) :
    Worked connection.ids (held.map fun id => (id, (Cause.failure reason).deed)) connection
      (held.foldl (fun connection id => connection.shutDown id reason true (askedFor reason)) connection) := by
  induction held generalizing connection with
  | nil => exact .refl connection
  | cons id rest ih =>
    have first := (Worked.refl connection).deed id (Cause.failure reason).deed
    have later := ih (connection.change id fun slot => slot.perform (Cause.failure reason).deed)
    rw [first.ids] at later
    exact first.trans later

theorem failLogged (reason : Error) (unfailed : connection.failure = none) :
    Logged (connection.ids.releaseAll.1.map fun id => (id, (Cause.failure reason).deed)) connection
        (connection.fail reason) ∧
      (connection.fail reason).ids = connection.ids.releaseAll.2 := by
  unfold fail
  rw [unfailed, if_neg (by simp)]
  have worked := shutAllWorked reason connection.ids.releaseAll.1
    { connection with ids := connection.ids.releaseAll.2, failure := some reason }
  exact ⟨⟨worked.logged.slots, worked.logged.effects⟩, worked.ids⟩

theorem failIdle {reason earlier : Error} (failed : connection.failure = some earlier) :
    connection.fail reason = connection := by
  unfold fail
  rw [failed]
  rfl

def Calm (deed : Deed α) : Prop :=
  (∀ reason connectionLevel byApplication, deed ≠ .shut reason connectionLevel byApplication) ∧
    ∀ signal, deed ≠ .raise (.shutdown signal)

structure Calms (act : Act α) (log : List (Entry α)) : Prop where
  calm : ∀ entry ∈ log, Calm entry.2
  brings : ∀ id, ((Slot.own id log).flatMap Deed.brings).Sublist (act.bringsTo id)
  listens : ∀ entry ∈ log, ∀ kind listener, entry.2 = .listen kind listener → act = .listens entry.1 kind listener
  empties : ∀ entry ∈ log, entry.2 = .take ∨ entry.2 = .drop → act.Empties entry.1

inductive Told (connection : Connection α) (act : Act α) (after : Connection α) : Prop
  | calm {log : List (Entry α)} (logged : Logged log connection after) (calms : Calms act log)
      (causeless : ∀ id, causeOf id connection act = none)
  | shut {id : SlotId} {cause : Cause} {hush trail : List (Entry α)} {slot : Slot α}
      (there : connection.slot? id = some slot)
      (logged : Logged (hush ++ (id, cause.deed) :: trail) connection after)
      (quiet : hush = [] ∨ (cause = .client ∧ act.Empties id ∧ hush = [(id, .take)]))
      (dropped : trail = [] ∨ (cause = .client ∧ act.Empties id ∧ trail = [(id, .drop)]))
      (caused : ∀ other, causeOf other connection act = if other = id then some cause else none)
  | failed {reason : Error} {hush : List (Entry α)}
      (logged : Logged (hush ++ connection.ids.releaseAll.1.map fun id => (id, (Cause.failure reason).deed)) connection
        after)
      (quiet : Hushed hush)
      (caused : ∀ id, causeOf id connection act =
        if id ∈ connection.ids.releaseAll.1 then some (.failure reason) else none)
  | born {number : UInt16} (slots : after.slots = connection.slots ++ [Slot.blank number])
      (effects : after.effects = connection.effects) (causeless : ∀ id, causeOf id connection act = none)
  | stillborn {number : UInt16} {slot : Slot α} (slots : after.slots = connection.slots ++ [slot])
      (shut : slot = ((Slot.blank number).performAll [Cause.client.deed, .drop]).1)
      (effects : after.effects = connection.effects)
      (caused : ∀ id, causeOf id connection act = if connection.slots.length = id then some .client else none)

theorem Calms.none (act : Act α) : Calms act [] where
  calm := List.forall_mem_nil _
  brings _ := List.nil_sublist _
  listens := List.forall_mem_nil _
  empties := List.forall_mem_nil _

theorem Calms.here {act : Act α} (id : SlotId) (deeds : List (Deed α)) (calm : ∀ deed ∈ deeds, Calm deed)
    (brings : (deeds.flatMap Deed.brings).Sublist (act.bringsTo id))
    (listens : ∀ deed ∈ deeds, ∀ kind listener, deed = .listen kind listener → act = .listens id kind listener)
    (empties : ∀ deed ∈ deeds, deed = .take ∨ deed = .drop → act.Empties id) :
    Calms act (deeds.map (Prod.mk id)) where
  calm := List.forall_mem_map.mpr calm
  brings other := by
    rw [Slot.ownHere]
    split
    · rename_i same
      exact same ▸ brings
    · exact List.nil_sublist _
  listens := List.forall_mem_map.mpr listens
  empties := List.forall_mem_map.mpr empties

theorem Calms.hushed {act : Act α} (hush : Hushed log) : Calms act log := by
  rcases hush with rfl | ⟨id, rfl⟩
  · exact .none act
  · exact .here id [.expect Option.none] (by simp [Calm]) (List.nil_sublist _) (by simp) (by simp)

theorem failTold {act : Act α} {reason : Error} (quiet : Hushed log) (logged : Logged log connection middle)
    (ids : middle.ids = connection.ids) (failure : middle.failure = connection.failure)
    (caused : ∀ id, causeOf id connection act = connection.failing id reason) :
    Told connection act (middle.fail reason) := by
  cases failed : connection.failure with
  | none =>
    obtain ⟨shut, _⟩ := failLogged reason (failure.trans failed)
    refine .failed (ids ▸ logged.trans shut) quiet fun id => (caused id).trans ?_
    simp [failing, failed]
  | some earlier =>
    rw [failIdle (failure.trans failed)]
    exact .calm logged (.hushed quiet) fun id => (caused id).trans (by simp [failing, failed])

def Seated (connection : Connection α) : Prop :=
  ∀ number id, connection.ids.get? number = some id →
    ∃ slot, connection.slot? id = some slot ∧ slot.number = number

theorem roleEvent {command : Assembler} {event : ChannelEvent} (role : command.role = .event event)
    (signal : ShutdownSignal) : event ≠ .shutdown signal := by
  unfold Assembler.role at role
  split at role
  case h_1 | h_2 => split at role <;> cases role <;> simp
  all_goals cases role <;> simp

theorem roleCalm {command : Assembler} (channel : UInt16) (id : SlotId) (act : Act α)
    (stays : ∀ code text, command.role ≠ .closing code text) :
    Calms act ((command.role.deeds channel command).map (Prod.mk id)) := by
  cases role : command.role with
  | closing code text => exact absurd role (stays code text)
  | event event =>
    have other := roleEvent role
    exact .here id _ (by simp [Role.deeds, Calm, other]) (List.nil_sublist _) (by simp [Role.deeds])
      (by simp [Role.deeds])
  | delivery | cancelled | started | stopped | answer | unreadable =>
    exact .here id _ (by simp [Role.deeds, Calm]) (List.nil_sublist _) (by simp [Role.deeds]) (by simp [Role.deeds])

theorem receivesTold (seated : Seated connection) (frame : Frame) :
    Told connection (.receives frame) (settled (connection.receive frame)) := by
  cases outcome : connection.receive frame with | mk result after =>
  cases result with
  | error reason =>
    obtain ⟨log, quiet, logged, ids, failure⟩ := receiveFailed outcome
    have caused : ∀ id, causeOf id connection (.receives frame) = connection.failing id reason := fun id => by
      simp only [causeOf, outcome]
    exact failTold quiet logged ids failure caused
  | ok done =>
    have caused : ∀ id, causeOf id connection (.receives frame) =
        if frame.channel ≠ 0 ∧ connection.ids.get? frame.channel = some id then
          (connection.closingOf frame).map fun entry => .server frame.channel entry.1 entry.2
        else none := fun id => by simp only [causeOf, outcome]
    cases receiveDone outcome with
    | heartbeat kind same =>
      subst same
      exact .calm (.refl _) (.none _) fun id => by simp [caused, closingOf, kind]
    | piece kind fed kept =>
      subst kept
      exact .calm (.still rfl rfl) (.none _) fun id => by simp [caused, closingOf, kind, fed]
    | @complete command completes dispatched =>
      obtain ⟨kind, fed⟩ := completes
      cases dispatched with
      | own own worked =>
        exact .calm ⟨worked.logged.slots, worked.logged.effects⟩ (.none _) fun id => by simp [caused, own]
      | @foreign id _ _ foreign numbered known freed worked =>
        have logged : Logged _ connection after := ⟨worked.logged.slots, worked.logged.effects⟩
        have numbered : connection.ids.get? frame.channel = some id := numbered
        by_cases closing : ∃ code text, command.role = .closing code text
        · obtain ⟨code, text, role⟩ := closing
          obtain ⟨slot, there, _⟩ := seated _ _ numbered
          have shut : Logged ([] ++ [(id, (Cause.server frame.channel code text).deed)]) connection after := by
            rwa [role] at logged
          have closes : connection.closingOf frame = some (code, text) := by simp [closingOf, kind, fed, role]
          refine .shut there shut (.inl rfl) (.inl rfl) fun other => ?_
          simp [caused, foreign, numbered, closes, eq_comm]
        · have stays : ∀ code text, command.role ≠ .closing code text := fun code text role => closing ⟨code, text, role⟩
          have opens : connection.closingOf frame = none := by
            unfold closingOf
            rw [if_neg kind, fed]
            dsimp only
            split
            · exact absurd ‹_› (stays _ _)
            · rfl
          exact .calm logged (roleCalm _ _ _ stays) fun other => by simp [caused, opens]

theorem giveUpWorked (id : SlotId) (connection : Connection α) :
    Worked (connection.release id).ids [(id, Cause.client.deed), (id, .drop)] connection (connection.giveUp id) :=
  ((connection.releaseWorked id).deed id Cause.client.deed).deed id .drop

theorem allocateDone {asked : Option UInt16} {number : UInt16} {id : SlotId}
    (allocated : connection.allocate asked = (.ok (number, id), after)) : id = connection.slots.length ∧
      ∃ ids, connection.ids.claim asked (fun _ => id) = .ok (number, ids) ∧
        after = { connection with ids, slots := connection.slots ++ [Slot.blank number] } := by
  unfold allocate at allocated
  split at allocated
  · cases allocated
  · dsimp only at allocated
    split at allocated
    · cases allocated
    · rename_i ids claimed
      cases allocated
      exact ⟨rfl, ids, claimed, rfl⟩

theorem allocateFailed {asked : Option UInt16} {reason : Error}
    (refused : connection.allocate asked = (.error reason, after)) : after = connection := by
  unfold allocate at refused
  split at refused
  · cases refused
    rfl
  · dsimp only at refused
    split at refused
    · cases refused
      rfl
    · cases refused

theorem opensTold (asked : Option UInt16) (connection : Connection α) :
    Told connection (.opens asked) (connection.issueOpen asked).2 := by
  cases outcome : connection.allocate asked with | mk allocated middle =>
  cases allocated with
  | error reason =>
    obtain rfl := allocateFailed outcome
    have same : (middle.issueOpen asked).2 = middle := by simp only [issueOpen, outcome]
    rw [same]
    exact .calm (.refl _) (.none _) fun id => by simp only [causeOf, outcome]
  | ok claimed =>
    obtain ⟨number, id⟩ := claimed
    obtain ⟨rfl, ids, _, rfl⟩ := allocateDone outcome
    generalize opened : ({ connection with ids, slots := connection.slots ++ [Slot.blank number] } : Connection α) = middle
      at outcome
    have slots : middle.slots = connection.slots ++ [Slot.blank number] := by rw [← opened]
    have effects : middle.effects = connection.effects := by rw [← opened]
    obtain ⟨transmitter, sent, keeps⟩ := middle.sendOnKeeps connection.slots.length ⟨.channelOpen, ("", ())⟩
    cases asking : middle.sendOn connection.slots.length ⟨.channelOpen, ("", ())⟩ with | mk result next =>
    rw [asking] at keeps
    cases keeps
    cases result with
    | ok done =>
      have issued : connection.issueOpen asked
          = (.ok (number, connection.slots.length), { middle with transmitter, sent }) := by
        simp only [issueOpen, outcome, asking]
      rw [issued]
      exact .born slots effects fun id => by simp only [causeOf, outcome, issued]
    | error reason =>
      have issued : connection.issueOpen asked
          = (.error reason, giveUp connection.slots.length { middle with transmitter, sent }) := by
        simp only [issueOpen, outcome, asking]
      rw [issued]
      have there : slot? { middle with transmitter, sent } connection.slots.length = some (Slot.blank number) := by
        unfold slot?
        rw [slots]
        simp
      have worked := giveUpWorked connection.slots.length { middle with transmitter, sent }
      have shut : Logged ([Cause.client.deed, .drop].map (Prod.mk connection.slots.length))
          { middle with transmitter, sent } _ := worked.logged
      obtain ⟨after, gathered⟩ := shut.here there
      refine @Told.stillborn _ _ _ _ number _ ?_ rfl ?_ fun id => by simp only [causeOf, outcome, issued]
      · rw [after, slots]
        simp
      · rw [gathered]
        exact (Effects.andNone _).trans effects

theorem clientCause {id : SlotId} {slot : Slot α} (there : connection.slot? id = some slot) (other : SlotId) :
    (if id = other ∧ (connection.slot? other).isSome then some Cause.client else none)
      = if other = id then some Cause.client else none := by
  by_cases same : other = id
  · subst same
    simp [there]
  · simp [same, Ne.symm same]

theorem missingCause {id : SlotId} (missing : connection.slot? id = none) (other : SlotId) :
    (if id = other ∧ (connection.slot? other).isSome then some Cause.client else none) = none := by
  by_cases same : id = other
  · subst same
    simp [missing]
  · simp [same]

theorem openedTold (id : SlotId) (connection : Connection α) :
    Told connection (.opened id) (connection.concludeOpen id).2 := by
  have taken := connection.takeReplyWorked id
  have givenUp := taken.trans (giveUpWorked id (connection.takeReply id).2)
  have outcome : ((connection.concludeOpen id).1 = .ok () ∧
        (connection.concludeOpen id).2 = (connection.takeReply id).2) ∨
      ((∃ reason, (connection.concludeOpen id).1 = .error reason) ∧
        (connection.concludeOpen id).2 = (connection.takeReply id).2.giveUp id) := by
    unfold concludeOpen
    dsimp only
    split
    · split
      · exact .inl ⟨rfl, rfl⟩
      · exact .inr ⟨⟨_, rfl⟩, rfl⟩
    · exact .inr ⟨⟨_, rfl⟩, rfl⟩
  rcases outcome with ⟨done, same⟩ | ⟨⟨reason, refused⟩, same⟩
  · rw [same]
    have calms : Calms (.opened id) [(id, (.take : Deed α))] :=
      .here id [.take] (by simp [Calm]) (List.nil_sublist _) (by simp) (by simp [Act.Empties])
    exact .calm taken.logged calms fun other => by
      simp only [causeOf, done]
  · rw [same]
    have shut : Logged (([.take, Cause.client.deed, .drop] : List (Deed α)).map (Prod.mk id)) connection _ :=
      givenUp.logged
    cases there : connection.slot? id with
    | none =>
      exact .calm (shut.missing there) (.none _) fun other => by
        simp only [causeOf, refused, missingCause there]
    | some slot =>
      exact .shut there shut (.inr ⟨rfl, rfl, rfl⟩) (.inr ⟨rfl, rfl, rfl⟩) fun other => by
        simp only [causeOf, refused, clientCause there]

theorem asksElse {request : Request} (other : request ≠ .close) (id asked : SlotId) :
    causeOf id connection (.asks asked request) = none := by
  cases request <;> first | rfl | exact absurd rfl other

theorem learnsElse {request : Request} (other : request ≠ .close) (id asked : SlotId) :
    causeOf id connection (.learns asked request) = none := by
  cases request <;> first | rfl | exact absurd rfl other

theorem asksTold (id : SlotId) (request : Request) (connection : Connection α) :
    Told connection (.asks id request) (connection.issue id request).2 := by
  obtain ⟨deeds, ids, issued, worked, _⟩ := connection.issueWorked id request
  have logged := worked.logged
  generalize outcome : (connection.issue id request).1 = result at issued
  cases issued with
  | sent stays =>
    refine .calm logged (.none _) fun other => ?_
    by_cases closes : request = .close
    · subst closes
      simp [causeOf, outcome, stays rfl]
    · exact asksElse closes ..
  | expecting consumes =>
    subst consumes
    exact .calm logged (.here id _ (by simp [Calm]) (by simp [Deed.brings, Act.bringsTo]) (by simp) (by simp))
      fun other => rfl
  | refused closes shut =>
    subst closes shut
    have caused : ∀ other, causeOf other connection (.asks id .close) =
        if id = other ∧ (connection.slot? other).isSome then some .client else none := fun other => by
      simp [causeOf, outcome]
    cases there : connection.slot? id with
    | none => exact .calm (logged.missing there) (.none _) fun other => (caused other).trans (missingCause there other)
    | some slot =>
      have shut : Logged ([] ++ [(id, Cause.client.deed)]) connection _ := logged
      exact .shut there shut (.inl rfl) (.inl rfl) fun other => (caused other).trans (clientCause there other)
  | unexpected consumes expects =>
    subst consumes
    rcases expects with rfl | rfl <;>
    exact .calm logged (.here id _ (by simp [Calm]) (by simp [Deed.brings, Act.bringsTo]) (by simp) (by simp))
      fun other => rfl

theorem learnsTold (id : SlotId) (request : Request) (connection : Connection α) :
    Told connection (.learns id request) (connection.conclude id request).2 := by
  obtain ⟨deeds, ids, finished, worked, _⟩ := connection.concludeWorked id request
  have logged := worked.logged
  generalize (connection.conclude id request).1 = result at finished
  cases finished with
  | closed closes =>
    subst closes
    have caused : ∀ other, causeOf other connection (.learns id .close) =
        if id = other ∧ (connection.slot? other).isSome then some .client else none := fun other => rfl
    cases there : connection.slot? id with
    | none => exact .calm (logged.missing there) (.none _) fun other => (caused other).trans (missingCause there other)
    | some slot =>
      have shut : Logged ([(id, .take)] ++ [(id, Cause.client.deed)]) connection _ := logged
      exact .shut there shut (.inr ⟨rfl, rfl, rfl⟩) (.inl rfl) fun other => (caused other).trans (clientCause there other)
  | unstarted consumes =>
    exact .calm logged (.here id _ (by simp [Calm]) (List.nil_sublist _) (by simp) (by simp [Act.Empties]))
      fun other => learnsElse (by simp [consumes]) ..
  | plain stays =>
    exact .calm logged (.here id _ (by simp [Calm]) (List.nil_sublist _) (by simp) (by simp [Act.Empties]))
      fun other => learnsElse stays ..

theorem leavesTold (id : SlotId) (connection : Connection α) :
    Told connection (.leaves id) (connection.closeWithoutWaiting id) := by
  obtain ⟨transmitter, sent, keeps⟩ := connection.sendKeeps (connection.numberOf id) .closeChannel
  have worked := (connection.sentWorked transmitter sent).deed id Cause.client.deed
  rw [← keeps] at worked
  have caused : ∀ other, causeOf other connection (.leaves id) =
      if id = other ∧ (connection.slot? other).isSome then some .client else none := fun other => rfl
  cases there : connection.slot? id with
  | none =>
    have idle : Logged ([Cause.client.deed].map (Prod.mk id)) connection _ := worked.logged
    exact .calm (idle.missing there) (.none _) fun other => (caused other).trans (missingCause there other)
  | some slot =>
    exact .shut there worked.logged (.inl rfl) (.inl rfl) fun other => (caused other).trans (clientCause there other)

theorem closesTold (connection : Connection α) : Told connection .closes connection.issueClose := by
  unfold issueClose
  obtain ⟨transmitter, sent, keeps⟩ := connection.sendKeeps 0 .closeConnection
  cases outcome : connection.send 0 .closeConnection with | mk result middle =>
  rw [outcome] at keeps
  cases keeps
  split
  · rename_i failed
    obtain ⟨reason, failed⟩ := Option.isSome_iff_exists.mp failed
    refine .calm (.refl _) (.none _) fun id => ?_
    simp only [causeOf, outcome]
    cases result with
    | ok => rfl
    | error => simp [failing, failed]
  · cases result with
    | ok => exact .calm (.still rfl rfl) (.none _) fun id => by simp only [causeOf, outcome]
    | error reason =>
      exact failTold (.inl rfl) (.still rfl rfl) rfl rfl fun id => by simp only [causeOf, outcome]

theorem actTold (seated : Seated connection) (act : Act α) : Told connection act (connection.act act) := by
  have quiet : ∀ id (deed : Deed α), Logged [(id, deed)] connection (connection.change id fun slot => slot.perform deed) :=
    fun id deed => ((Worked.refl connection).deed id deed).logged
  cases act with
  | receives frame => exact receivesTold seated frame
  | fails reason => exact failTold (.inl rfl) (.refl connection) rfl rfl fun _ => rfl
  | opens asked => exact connection.opensTold asked
  | opened id => exact connection.openedTold id
  | asks id request => exact connection.asksTold id request
  | learns id request => exact connection.learnsTold id request
  | leaves id => exact connection.leavesTold id
  | drops id =>
    exact .calm (quiet id .drop)
      (.here id [.drop] (by simp [Calm]) (List.nil_sublist _) (by simp) (by simp [Act.Empties])) fun _ => rfl
  | closes => exact connection.closesTold
  | listens id kind listener =>
    exact .calm (quiet id (.listen kind listener))
      (.here id [.listen kind listener] (by simp [Calm]) (List.nil_sublist _) (by simp) (by simp)) fun _ => rfl
  | unlistens id kind listener =>
    exact .calm (quiet id (.unlisten kind listener))
      (.here id [.unlisten kind listener] (by simp [Calm]) (List.nil_sublist _) (by simp) (by simp)) fun _ => rfl
  | reads intake => exact .calm (.still rfl rfl) (.none _) fun _ => rfl
  | rewires transmitter => exact .calm (.still rfl rfl) (.none _) fun _ => rfl

/-! Numbers -/

theorem failFewer (reason : Error) (connection : Connection α) : Fewer (connection.fail reason).ids connection.ids := by
  cases failed : connection.failure with
  | some earlier =>
    rw [failIdle failed]
    exact .refl _
  | none =>
    rw [(failLogged reason failed).2]
    intro number id held
    simp [ChannelIds.releaseAll, ChannelIds.get?] at held

theorem receiveFewer (frame : Frame) (connection : Connection α) :
    Fewer (settled (connection.receive frame)).ids connection.ids := by
  cases outcome : connection.receive frame with | mk result after =>
  cases result with
  | error reason =>
    obtain ⟨_, _, _, ids, _⟩ := receiveFailed outcome
    exact ids ▸ failFewer reason after
  | ok done =>
    show Fewer after.ids connection.ids
    cases receiveDone outcome with
    | heartbeat _ same => exact same ▸ .refl _
    | piece _ _ kept => exact kept ▸ .refl _
    | complete _ dispatched =>
      cases dispatched with
      | own _ worked => exact worked.ids ▸ .refl _
      | @foreign id _ _ _ _ _ freed worked =>
        rw [worked.ids, freed]
        split
        · exact releaseFewer id (connection.forget frame.channel)
        · exact .refl _

theorem actFewer {act : Act α} (known : ∀ asked, act ≠ .opens asked) (connection : Connection α) :
    Fewer (connection.act act).ids connection.ids := by
  have quiet : ∀ id (deed : Deed α),
      Fewer (connection.change id fun slot => slot.perform deed).ids connection.ids := fun id deed =>
    ((Worked.refl connection).deed id deed).ids ▸ .refl _
  cases act with
  | receives frame => exact connection.receiveFewer frame
  | fails reason => exact connection.failFewer reason
  | opens asked => exact absurd rfl (known asked)
  | opened id =>
    have taken := (connection.takeReplyWorked id).ids
    show Fewer (connection.concludeOpen id).2.ids connection.ids
    have given : Fewer ((connection.takeReply id).2.giveUp id).ids connection.ids := by
      rw [(giveUpWorked id _).ids, ← taken]
      exact releaseFewer id (connection.takeReply id).2
    unfold concludeOpen
    dsimp only
    split
    · split
      · exact taken ▸ .refl _
      · exact given
    · exact given
  | asks id request =>
    obtain ⟨_, _, _, worked, fewer⟩ := connection.issueWorked id request
    exact worked.ids ▸ fewer
  | learns id request =>
    obtain ⟨_, _, _, worked, fewer⟩ := connection.concludeWorked id request
    exact worked.ids ▸ fewer
  | leaves id =>
    obtain ⟨transmitter, sent, keeps⟩ := connection.sendKeeps (connection.numberOf id) .closeChannel
    have worked := (connection.sentWorked transmitter sent).deed id Cause.client.deed
    rw [← keeps] at worked
    exact (worked.ids ▸ .refl _ : Fewer (connection.closeWithoutWaiting id).ids connection.ids)
  | drops id => exact quiet id .drop
  | closes =>
    show Fewer connection.issueClose.ids connection.ids
    obtain ⟨transmitter, sent, keeps⟩ := connection.sendKeeps 0 .closeConnection
    unfold issueClose
    split
    · exact .refl _
    · split
      · rename_i answer
        rw [answer] at keeps
        cases keeps
        exact .refl _
      · rename_i reason _ answer
        rw [answer] at keeps
        cases keeps
        exact failFewer reason { connection with transmitter, sent }
  | listens id kind listener => exact quiet id (.listen kind listener)
  | unlistens id kind listener => exact quiet id (.unlisten kind listener)
  | reads => exact .refl _
  | rewires => exact .refl _

theorem Seated.logged (seated : Seated connection) (logged : Logged log connection after)
    (fewer : Fewer after.ids connection.ids) : Seated after := by
  intro number id held
  obtain ⟨slot, there, same⟩ := seated number id (fewer number id held)
  obtain ⟨next, found, kept⟩ := Slot.enterAllNumber there log
  exact ⟨next, (congrArg (·[id]?) logged.slots).trans found, kept.trans same⟩

theorem Seated.grown (seated : Seated connection) {slot : Slot α} (slots : after.slots = connection.slots ++ [slot])
    (fewer : Fewer after.ids connection.ids) : Seated after := by
  intro number id held
  obtain ⟨found, there, same⟩ := seated number id (fewer number id held)
  refine ⟨found, (congrArg (·[id]?) slots).trans ?_, same⟩
  exact (List.getElem?_append_left (List.getElem?_eq_some_iff.mp there).1).trans there

theorem allocateSeated {asked : Option UInt16} {claimed : UInt16 × SlotId} (seated : Seated connection)
    (allocated : connection.allocate asked = (.ok claimed, after)) : Seated after := by
  obtain ⟨number, id⟩ := claimed
  obtain ⟨rfl, ids, claimed, rfl⟩ := allocateDone allocated
  intro other id held
  have held : ids.get? other = some id := held
  rw [ChannelIds.getClaim claimed] at held
  split at held
  · rename_i same
    obtain rfl := Option.some.inj held
    exact ⟨Slot.blank number, by simp [slot?], same⟩
  · obtain ⟨slot, there, same⟩ := seated other id held
    exact ⟨slot, (List.getElem?_append_left (List.getElem?_eq_some_iff.mp there).1).trans there, same⟩

theorem opensSeated (seated : Seated connection) (asked : Option UInt16) : Seated (connection.issueOpen asked).2 := by
  unfold issueOpen
  split
  · rename_i refused
    exact allocateFailed refused ▸ seated
  · rename_i number id middle allocated
    have middleSeated := allocateSeated seated allocated
    obtain ⟨transmitter, sent, keeps⟩ := middle.sendOnKeeps id ⟨.channelOpen, ("", ())⟩
    split
    · rename_i answer
      rw [answer] at keeps
      cases keeps
      have givenUp := giveUpWorked id { middle with transmitter, sent }
      exact middleSeated.logged ⟨givenUp.logged.slots, givenUp.logged.effects⟩ (givenUp.ids ▸ releaseFewer id _)
    · rename_i answer
      rw [answer] at keeps
      cases keeps
      exact middleSeated

theorem actSeated (seated : Seated connection) (act : Act α) : Seated (connection.act act) := by
  by_cases opening : ∃ asked, act = .opens asked
  · obtain ⟨asked, rfl⟩ := opening
    exact opensSeated seated asked
  · have fewer := actFewer (fun asked same => opening ⟨asked, same⟩) connection
    cases actTold seated act with
    | calm logged | shut _ logged | failed logged => exact seated.logged logged fewer
    | born slots | stillborn slots => exact seated.grown slots fewer

theorem Blank.seated (blank : connection.Blank) : Seated connection := by
  intro number id held
  simp [ChannelIds.get?, blank.held] at held

theorem actAllSeated (seated : Seated connection) (acts : List (Act α)) : Seated (connection.actAll acts) :=
  List.foldlRecOn acts act seated fun _ seated act _ => actSeated seated act

theorem Reachable.seated (reachable : connection.Reachable) : Seated connection := by
  obtain ⟨start, acts, blank, rfl⟩ := reachable
  exact actAllSeated blank.seated acts

end Connection

end AmqpClient
