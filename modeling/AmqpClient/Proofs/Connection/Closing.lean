import AmqpClient.Proofs.Connection.Following
import AmqpClient.Proofs.Connection.Sorting

/-! A channel closes once, for the first cause. Its listeners hear of it then and never again, its consumers get their
last message, whoever waits for a reply learns the reason, and so does every later call. -/
namespace AmqpClient

variable {α : Type}

def ConsumerMessage.isDelivery : ConsumerMessage → Bool
  | delivery _ => true
  | _ => false

namespace Effects

def shutdowns (heeds : α → Bool) (effects : Effects α) : List (α × ShutdownSignal) :=
  (effects.notices.filter fun notice => heeds notice.1).filterMap fun notice =>
    match notice.2 with
    | .shutdown signal => some (notice.1, signal)
    | _ => none

@[simp] theorem shutdownsAnd (heeds : α → Bool) (one two : Effects α) :
    (one.and two).shutdowns heeds = one.shutdowns heeds ++ two.shutdowns heeds := by
  simp [shutdowns, Effects.and]

@[simp] theorem shutdownsNone (heeds : α → Bool) : ({} : Effects α).shutdowns heeds = [] := rfl

theorem shutdownsOnly (receives : ReceiverId → Bool) (heeds : α → Bool) (effects : Effects α) :
    (effects.only receives heeds).shutdowns heeds = effects.shutdowns heeds := by
  simp [shutdowns, only]

theorem messagesToOnly (receiver : ReceiverId) (heeds : α → Bool) (effects : Effects α) :
    (effects.only (· == receiver) heeds).messagesTo receiver = effects.messagesTo receiver := by
  simp [messagesTo, only]

def ends (receiver : ReceiverId) (effects : Effects α) : Nat :=
  (effects.messagesTo receiver).countP fun message => !message.isDelivery

@[simp] theorem endsAnd (receiver : ReceiverId) (one two : Effects α) :
    (one.and two).ends receiver = one.ends receiver + two.ends receiver := by
  simp [ends]

end Effects

namespace Slot

open Connection

variable {slot : Slot α} {deed : Deed α} {deeds : List (Deed α)} {receiver : ReceiverId} {reason : Error}

theorem noticesShutdowns (listeners : ChannelListeners α) (heeds : α → Bool) (event : ChannelEvent) :
    ({ notices := listeners.notices event } : Effects α).shutdowns heeds =
      match event with
      | .shutdown signal => (listeners.shutdown.listeners.filter heeds).map fun listener => (listener, signal)
      | _ => [] := by
  cases event <;>
    simp [Effects.shutdowns, ChannelListeners.notices, List.filter_map, List.filterMap_map, Function.comp_def,
      ChannelEvent.kind, ChannelListeners.of]

theorem replyClosed (slot : Slot α) (reply : Except Error Assembler) : (slot.reply reply).closed = slot.closed := by
  unfold Slot.reply
  split <;> rfl

theorem calmClosed (calm : Calm deed) : (slot.perform deed).1.closed = slot.closed := by
  cases deed with
  | shut reason connectionLevel byApplication => exact absurd rfl (calm.1 reason connectionLevel byApplication)
  | reply reply => exact replyClosed slot reply
  | start tag =>
    unfold perform startConsumer
    dsimp only
    split
    · rfl
    · split <;> rfl
  | take | drop | expect | stop | deliver | raise | listen | unlisten => rfl

theorem calmQuiet (calm : Calm deed) (heeds : α → Bool) : (slot.perform deed).2.shutdowns heeds = [] := by
  cases deed with
  | shut reason connectionLevel byApplication => exact absurd rfl (calm.1 reason connectionLevel byApplication)
  | raise event =>
    refine (noticesShutdowns slot.listeners heeds event).trans ?_
    cases event with
    | shutdown signal => exact absurd rfl (calm.2 signal)
    | returned | confirm | flow => rfl
  | reply | take | drop | expect | start | stop | deliver | listen | unlisten => rfl

theorem calmAll (calm : ∀ deed ∈ deeds, Calm deed) (heeds : α → Bool) :
    (slot.performAll deeds).1.closed = slot.closed ∧ (slot.performAll deeds).2.shutdowns heeds = [] := by
  induction deeds generalizing slot with
  | nil => exact ⟨rfl, rfl⟩
  | cons deed rest ih =>
    obtain ⟨first, calm⟩ := List.forall_mem_cons.mp calm
    obtain ⟨closed, quiet⟩ := @ih (slot.perform deed).1 calm
    refine ⟨closed.trans (calmClosed first), ?_⟩
    show ((slot.perform deed).2.and ((slot.perform deed).1.performAll rest).2).shutdowns heeds = []
    rw [Effects.shutdownsAnd, calmQuiet first, quiet]
    rfl

theorem shutIdle (closed : slot.closed = some reason) (other : Error) (connectionLevel byApplication : Bool) :
    slot.perform (.shut other connectionLevel byApplication) = (slot, {}) := by
  simp [perform, shutDown, closed]

theorem closedAll (closed : slot.closed = some reason) (plain : ∀ deed ∈ deeds, ∀ signal, deed ≠ .raise (.shutdown signal))
    (heeds : α → Bool) :
    (slot.performAll deeds).1.closed = some reason ∧ (slot.performAll deeds).2.shutdowns heeds = [] := by
  induction deeds generalizing slot with
  | nil => exact ⟨closed, rfl⟩
  | cons deed rest ih =>
    obtain ⟨first, plain⟩ := List.forall_mem_cons.mp plain
    have step : (slot.perform deed).1.closed = some reason ∧ (slot.perform deed).2.shutdowns heeds = [] := by
      by_cases calm : Calm deed
      · exact ⟨(calmClosed calm).trans closed, calmQuiet calm heeds⟩
      · obtain ⟨other, level, application, rfl⟩ : ∃ other level application, deed = .shut other level application := by
          by_contra none
          exact calm ⟨fun other level application same => none ⟨other, level, application, same⟩, first⟩
        rw [shutIdle closed]
        exact ⟨closed, rfl⟩
    obtain ⟨stays, quiet⟩ := ih step.1 plain
    refine ⟨stays, ?_⟩
    show ((slot.perform deed).2.and ((slot.perform deed).1.performAll rest).2).shutdowns heeds = []
    rw [Effects.shutdownsAnd, step.2, quiet]
    rfl

/- What becomes of an open slot that is shut for a cause, and who is told. -/
structure Shut (cause : Cause) (slot next : Slot α) (effects : Effects α) : Prop where
  closed : next.closed = some cause.reason
  held : next.held = []
  messages : effects.messages = slot.receivers.flatMap fun receiver =>
    cause.ending?.toList.map fun message => (receiver, message)
  notices : effects.notices = slot.listeners.notices (.shutdown (cause.signal slot.number))
  replies : cause ≠ .client → slot.dropped = false → next.replies = slot.replies ++ [.error cause.reason]

theorem shutHeld (isOpen : slot.closed = none) (reason : Error) (connectionLevel byApplication : Bool) :
    (slot.shutDown reason connectionLevel byApplication).1.held = [] := by
  rw [shutDown, if_neg (by simp [isOpen])]
  unfold Slot.reply
  dsimp only
  split <;> rfl

theorem shutTold (isOpen : slot.closed = none) (reason : Error) (connectionLevel byApplication : Bool) :
    (slot.shutDown reason connectionLevel byApplication).2.messages =
      if connectionLevel && !byApplication then []
      else slot.receivers.map fun receiver => (receiver, ConsumerMessage.ending reason) := by
  rw [shutDown, if_neg (by simp [isOpen])]
  simp [receivers, Function.comp_def]

theorem shutOpen (isOpen : slot.closed = none) (cause : Cause) :
    Shut cause slot (slot.perform cause.deed).1 (slot.perform cause.deed).2 := by
  have shut : slot.perform cause.deed = slot.shutDown cause.reason cause.connectionLevel cause.byApplication := rfl
  rw [shut]
  refine ⟨shutDownCloses isOpen .., shutHeld isOpen .., ?_, ?_, fun _ kept => ?_⟩
  · rw [shutTold isOpen, Cause.ending?]
    split
    · simp
    · simp only [Option.toList_some, List.map_cons, List.map_nil, ← List.map_eq_flatMap]
  · rw [shutDown, if_neg (by simp [isOpen])]
    rfl
  · rw [shutDown, if_neg (by simp [isOpen])]
    dsimp only
    rw [replyKept (by exact kept)]

theorem shutTrail {cause : Cause} (closed : slot.closed = some reason)
    (idle : ∀ deed ∈ deeds, deed = cause.deed ∨ (cause = .client ∧ deed = .drop)) :
    (slot.performAll deeds).2 = {} ∧ (slot.performAll deeds).1.closed = slot.closed ∧
      (slot.performAll deeds).1.held = slot.held ∧
      (cause ≠ .client → (slot.performAll deeds).1.replies = slot.replies) := by
  induction deeds generalizing slot with
  | nil => exact ⟨rfl, rfl, rfl, fun _ => rfl⟩
  | cons deed rest ih =>
    obtain ⟨first, later⟩ := List.forall_mem_cons.mp idle
    rcases first with rfl | ⟨client, rfl⟩
    · have still : slot.performAll (cause.deed :: rest) = slot.performAll rest := by
        show _ = ((slot.performAll rest).1, (slot.performAll rest).2)
        simp only [performAll, Cause.deed, shutIdle closed, Effects.noneAnd]
      rw [still]
      exact ih closed later
    · obtain ⟨silent, same, held, _⟩ := @ih slot.drop closed later
      exact ⟨silent, same, held, fun other => absurd client other⟩

theorem shutHush (slot : Slot α) {cause : Cause} {hush : List (Deed α)}
    (quiet : hush = [] ∨ hush = [.expect none] ∨ (cause = .client ∧ hush = [.take])) :
    ∃ replies expected, slot.performAll hush = ({ slot with replies, expected }, {}) ∧
      (cause ≠ .client → replies = slot.replies) := by
  rcases quiet with rfl | rfl | ⟨client, rfl⟩
  · exact ⟨_, _, rfl, fun _ => rfl⟩
  · exact ⟨_, _, rfl, fun _ => rfl⟩
  · exact ⟨_, _, rfl, fun other => absurd client other⟩

theorem shutsShut {cause : Cause} (isOpen : slot.closed = none) (shuts : Shuts cause deeds) :
    Shut cause slot (slot.performAll deeds).1 (slot.performAll deeds).2 := by
  cases shuts with
  | @deeds hush trail quiet idle =>
    obtain ⟨replies, expected, hushed, same⟩ := slot.shutHush quiet
    have middle := @shutOpen _ { slot with replies, expected } isOpen cause
    obtain ⟨silent, closed, held, stays⟩ := shutTrail middle.closed idle
    rw [performAllAppend, hushed, performAll, Effects.noneAnd]
    dsimp only
    rw [silent, Effects.andNone]
    refine ⟨closed.trans middle.closed, held.trans middle.held, middle.messages, middle.notices, fun server kept => ?_⟩
    rw [stays server, middle.replies server kept, same server]

theorem toldAll {effects : Effects α} {receivers : List ReceiverId} {message : ConsumerMessage}
    (told : effects.messages = receivers.map fun receiver => (receiver, message)) (receiver : ReceiverId) :
    effects.messagesTo receiver = List.replicate (receivers.count receiver) message := by
  simp [Effects.messagesTo, told, List.filter_map, Function.comp_def, List.filter_beq]

theorem endsUnder (slot : Slot α) (tag : String) (message : ConsumerMessage) (receiver : ReceiverId) :
    ({ messages := (slot.consumer? tag).toList.map fun receiver => (receiver, message) } : Effects α).ends receiver ≤
      if slot.consumer? tag = some receiver then 1 else 0 := by
  rw [Effects.ends, toldUnder]
  split
  · exact List.countP_le_length
  · exact Nat.le_refl 0

theorem consumersUnder (slot : Slot α) (tag : String) (receiver : ReceiverId) :
    ((slot.consumers.filter fun entry => entry.1 != tag).map Prod.snd).count receiver +
      (if slot.consumer? tag = some receiver then 1 else 0) ≤ slot.receivers.count receiver := by
  have parts : slot.receivers.count receiver =
      ((slot.consumers.filter fun entry => entry.1 != tag).map Prod.snd).count receiver +
        ((slot.consumers.filter fun entry => !(entry.1 != tag)).map Prod.snd).count receiver := by
    rw [← List.count_append, ← List.map_append]
    exact ((List.filter_append_perm _ slot.consumers).map Prod.snd).symm.count_eq receiver
  rw [parts]
  refine Nat.add_le_add_left ?_ _
  split
  · rename_i has
    obtain ⟨entry, found, rfl⟩ := Option.map_eq_some_iff.mp has
    refine List.count_pos_iff.mpr (List.mem_map_of_mem (List.mem_filter.mpr ⟨List.mem_of_find?_eq_some found, ?_⟩))
    have tagged := List.find?_some found
    simpa using tagged
  · exact Nat.zero_le _

theorem performSpends (slot : Slot α) (deed : Deed α) (receiver : ReceiverId) :
    (slot.perform deed).1.held.count receiver + (slot.perform deed).2.ends receiver ≤
      slot.held.count receiver + deed.brings.count receiver := by
  have silent : (slot.perform deed).2.ends receiver = 0 →
      (slot.perform deed).1.held.count receiver + (slot.perform deed).2.ends receiver ≤
        slot.held.count receiver + deed.brings.count receiver := fun nothing => by
    rw [nothing, ← List.count_append]
    exact (slot.performHeld deed).count_le receiver
  cases deed with
  | stop tag message =>
    have told := slot.endsUnder tag message receiver
    have left := slot.consumersUnder tag receiver
    have after : (slot.perform (.stop tag message)).1.held =
        (slot.consumers.filter fun entry => entry.1 != tag).map Prod.snd ++ slot.expected.toList := rfl
    rw [after, held, List.count_append, List.count_append]
    show _ + Effects.ends receiver { messages := (slot.consumer? tag).toList.map fun receiver => (receiver, message) } ≤ _
    omega
  | deliver tag delivery =>
    refine silent ?_
    show (Effects.messagesTo receiver { messages := (slot.consumer? tag).toList.map _ }).countP _ = 0
    rw [toldUnder]
    split <;> rfl
  | shut reason connectionLevel byApplication =>
    cases closed : slot.closed with
    | some earlier =>
      refine silent ?_
      rw [shutIdle closed]
      rfl
    | none =>
      have gone : (slot.perform (.shut reason connectionLevel byApplication)).1.held = [] := shutHeld closed ..
      have told : (slot.perform (.shut reason connectionLevel byApplication)).2.messages = _ := shutTold closed ..
      rw [gone, List.count_nil, Nat.zero_add]
      split at told
      · rw [Effects.ends, Effects.messagesTo, told]
        exact Nat.zero_le _
      · rw [Effects.ends, toldAll told receiver, held, List.count_append]
        have few := List.countP_le_length (p := fun message : ConsumerMessage => !message.isDelivery)
          (l := List.replicate (slot.receivers.count receiver) (ConsumerMessage.ending reason))
        rw [List.length_replicate] at few
        omega
  | reply | take | drop | expect | start | raise | listen | unlisten => exact silent rfl

theorem performAllSpends (slot : Slot α) (deeds : List (Deed α)) (receiver : ReceiverId) :
    (slot.performAll deeds).1.held.count receiver + (slot.performAll deeds).2.ends receiver ≤
      slot.held.count receiver + (deeds.flatMap Deed.brings).count receiver := by
  induction deeds generalizing slot with
  | nil => exact Nat.le_refl _
  | cons deed rest ih =>
    have first := slot.performSpends deed receiver
    have later := ih (slot.perform deed).1
    show ((slot.perform deed).1.performAll rest).1.held.count receiver +
      ((slot.perform deed).2.and ((slot.perform deed).1.performAll rest).2).ends receiver ≤ _
    rw [Effects.endsAnd, List.flatMap_cons, List.count_append]
    omega

theorem performAllSilent (unheld : receiver ∉ slot.held) (unbrought : receiver ∉ deeds.flatMap Deed.brings) :
    (slot.performAll deeds).2.messagesTo receiver = [] := by
  induction deeds generalizing slot with
  | nil => rfl
  | cons deed rest ih =>
    rw [List.flatMap_cons, List.mem_append, not_or] at unbrought
    have nothing : (slot.perform deed).2.messagesTo receiver = [] := by
      refine List.map_eq_nil_iff.mpr (List.filter_eq_nil_iff.mpr fun entry told same => unheld ?_)
      rw [beq_iff_eq] at same
      exact same ▸ slot.performTold deed entry told
    have still : receiver ∉ (slot.perform deed).1.held := fun held =>
      (List.mem_append.mp ((slot.performHeld deed).subset held)).elim unheld unbrought.1
    show ((slot.perform deed).2.and ((slot.perform deed).1.performAll rest).2).messagesTo receiver = []
    rw [Effects.messagesToAnd, nothing, ih still unbrought.2]
    rfl

theorem performAllWaiting {reply : Except Error Assembler} {rest : List (Except Error Assembler)}
    (waiting : slot.replies = reply :: rest) (kept : ∀ deed ∈ deeds, deed ≠ .take ∧ deed ≠ .drop) :
    ∃ more, (slot.performAll deeds).1.replies = reply :: more := by
  induction deeds generalizing slot rest with
  | nil => exact ⟨rest, waiting⟩
  | cons deed later ih =>
    obtain ⟨⟨untaken, undropped⟩, kept⟩ := List.forall_mem_cons.mp kept
    suffices next : ∃ more, (slot.perform deed).1.replies = reply :: more from ih next.choose_spec kept
    have replied : ∀ (slot : Slot α) other, (∃ more, slot.replies = reply :: more) →
        ∃ more, (slot.reply other).replies = reply :: more := by
      rintro slot other ⟨more, here⟩
      unfold Slot.reply
      split
      · exact ⟨more, here⟩
      · exact ⟨more ++ [other], by simp [here]⟩
    cases deed with
    | take => exact absurd rfl untaken
    | drop => exact absurd rfl undropped
    | reply other => exact replied slot other ⟨rest, waiting⟩
    | shut reason connectionLevel byApplication =>
      unfold perform shutDown
      dsimp only
      split
      · exact ⟨rest, waiting⟩
      · exact replied _ _ ⟨rest, waiting⟩
    | start tag =>
      unfold perform startConsumer
      dsimp only
      split
      · exact ⟨rest, waiting⟩
      · split <;> exact ⟨rest, waiting⟩
    | expect | stop | deliver | raise | listen | unlisten => exact ⟨rest, waiting⟩

theorem Shut.shutdowns {cause : Cause} {next : Slot α} {effects : Effects α} (shut : Shut cause slot next effects)
    (heeds : α → Bool) : effects.shutdowns heeds =
      (slot.listeners.shutdown.listeners.filter heeds).map fun listener => (listener, cause.signal slot.number) := by
  rw [Effects.shutdowns, shut.notices]
  exact noticesShutdowns slot.listeners heeds (.shutdown (cause.signal slot.number))

theorem Shut.told {cause : Cause} {next : Slot α} {effects : Effects α} (shut : Shut cause slot next effects)
    (receiver : ReceiverId) :
    effects.messagesTo receiver = (List.replicate (slot.receivers.count receiver) cause.ending?.toList).flatten := by
  have messages := shut.messages
  cases ending : cause.ending? with
  | none =>
    have silent : effects.messages = [] :=
      messages.trans (List.flatMap_eq_nil_iff.mpr fun _ _ => by rw [ending]; rfl)
    rw [Effects.messagesTo, silent]
    simp
  | some message =>
    rw [ending] at messages
    simp only [Option.toList_some, List.map_cons, List.map_nil, ← List.map_eq_flatMap] at messages
    rw [toldAll messages, Option.toList_some, List.flatten_replicate_singleton]

end Slot

namespace Connection

variable {connection : Connection α} {id : SlotId} {slot : Slot α} {reason : Error} {request : Request}

theorem changeSent (id : SlotId) (f : Slot α → Slot α × Effects α) (connection : Connection α) :
    (connection.change id f).transmitter = connection.transmitter ∧ (connection.change id f).sent = connection.sent := by
  unfold change
  split <;> exact ⟨rfl, rfl⟩

theorem finishSent (id : SlotId) (request : Request) (result : Except Error Reply) (connection : Connection α) :
    (connection.finish id request result).2.transmitter = connection.transmitter ∧
      (connection.finish id request result).2.sent = connection.sent := by
  unfold finish
  split
  · obtain ⟨ids, released⟩ := connection.releaseKeeps id
    rw [released]
    exact changeSent ..
  · exact changeSent ..
  · exact ⟨rfl, rfl⟩

theorem checkClosed (there : connection.slot? id = some slot) (closed : slot.closed = some reason) :
    connection.checkOpen id = .error reason.restated := by
  simp [checkOpen, there, closed]

theorem prepareRefused (there : connection.slot? id = some slot) (closed : slot.closed = some reason)
    (request : Request) : connection.prepare id request = connection := by
  unfold prepare
  rw [checkClosed there closed]
  cases request <;> rfl

theorem sendRequestRefused (there : connection.slot? id = some slot) (closed : slot.closed = some reason)
    (request : Request) : connection.sendRequest id request = (.error reason.restated, connection) := by
  unfold sendRequest sendOn publishOn
  rw [checkClosed there closed]
  cases request with
  | bind binding => obtain ⟨kind, _, _, _, _⟩ := binding; cases kind <;> rfl
  | unbind binding => obtain ⟨kind, _, _, _, _⟩ := binding; cases kind <;> rfl
  | _ => rfl

theorem issueRefused (there : connection.slot? id = some slot) (closed : slot.closed = some reason)
    (supported : request ≠ .recover false) :
    (connection.issue id request).1 = some (.error reason.restated) ∧
      (connection.issue id request).2.transmitter = connection.transmitter ∧
      (connection.issue id request).2.sent = connection.sent := by
  have checks : request.check = .ok () := by
    unfold Request.check
    split
    · exact absurd rfl supported
    · rfl
  unfold issue
  rw [checks, prepareRefused there closed, sendRequestRefused there closed]
  exact ⟨congrArg some (finishWorked ..).1, finishSent ..⟩

theorem concludeRefused {rest : List (Except Error Assembler)} (there : connection.slot? id = some slot)
    (waiting : slot.replies = .error reason :: rest) (request : Request) :
    (connection.conclude id request).1 = .error reason.restated ∧
      (connection.concludeOpen id).1 = .error reason.restated := by
  refine ⟨learnsOutcome request there waiting, ?_⟩
  unfold concludeOpen takeReply
  simp only [there, waiting]

variable {start : Connection α} {acts before after : List (Act α)} {act : Act α} {cause : Cause} {heeds : α → Bool}
  {number : UInt16} {receiver : ReceiverId}

def Heeded (id : SlotId) (heeds : α → Bool) (acts : List (Act α)) : Prop :=
  ∀ other kind listener, .listens other kind listener ∈ acts → heeds listener = true → other = id

structure Closing (id : SlotId) (heeds : α → Bool) (start : Connection α) (before : List (Act α)) (act : Act α)
    (after : List (Act α)) (cause : Cause) (slot : Slot α) : Prop where
  first : Uncaused id start before
  caused : causeOf id (start.actAll before) act = some cause
  closed : ((start.actAll (before ++ act :: after)).slot? id).bind Slot.closed = some cause.reason
  notified : (start.actAll (before ++ act :: after)).effects.shutdowns heeds =
    (slot.listeners.shutdown.listeners.filter heeds).map fun listener => (listener, cause.signal slot.number)
  -- A handler that only the channel uses is told once for each of its consumers.
  told : ∀ receiver, (∀ other ∈ before ++ [act], ∀ place ≠ id, receiver ∉ other.bringsTo place) →
    (start.actAll (before ++ [act])).effects.messagesTo receiver = (start.actAll before).effects.messagesTo receiver ++
      (List.replicate (slot.receivers.count receiver) cause.ending?.toList).flatten
  -- A handler that is used for one consumer gets deliveries, and then the end if there is one to get.
  ended : ∀ receiver ∈ slot.receivers, ((before ++ act :: after).flatMap Act.brings).count receiver ≤ 1 →
    (∀ message ∈ (start.actAll before).effects.messagesTo receiver, message.isDelivery = true) ∧
      (start.actAll (before ++ act :: after)).effects.messagesTo receiver =
        (start.actAll before).effects.messagesTo receiver ++ cause.ending?.toList
  -- Whoever waits for a reply that has not come gets the error, whenever the reply is taken.
  waiting : cause ≠ .client → slot.replies = [] → slot.dropped = false → ∀ soon late, after = soon ++ late →
    (∀ act ∈ soon, ¬act.Empties id) → ∀ request,
      ((start.actAll (before ++ act :: soon)).conclude id request).1 = .error cause.reason.restated ∧
        ((start.actAll (before ++ act :: soon)).concludeOpen id).1 = .error cause.reason.restated
  refused : ∀ soon late, after = soon ++ late → ∀ request, request ≠ .recover false →
    ((start.actAll (before ++ act :: soon)).issue id request).1 = some (.error cause.reason.restated) ∧
      ((start.actAll (before ++ act :: soon)).issue id request).2.transmitter =
        (start.actAll (before ++ act :: soon)).transmitter ∧
      ((start.actAll (before ++ act :: soon)).issue id request).2.sent = (start.actAll (before ++ act :: soon)).sent

theorem firstCause (id : SlotId) (start : Connection α) (acts : List (Act α)) :
    Uncaused id start acts ∨ ∃ before act after cause, acts = before ++ act :: after ∧ Uncaused id start before ∧
      causeOf id (start.actAll before) act = some cause := by
  induction acts generalizing start with
  | nil => exact .inl fun early act late same => by simp at same
  | cons act rest ih =>
    cases caused : causeOf id start act with
    | some cause =>
      exact .inr ⟨[], act, rest, cause, rfl, fun early act late same => by simp at same, caused⟩
    | none =>
      have prepended : ∀ acts, Uncaused id (start.act act) acts → Uncaused id start (act :: acts) := by
        intro acts uncaused early other late same
        cases early with
        | nil =>
          cases same
          exact caused
        | cons _ early =>
          cases same
          exact uncaused early other late rfl
      rcases ih (start.act act) with uncaused | ⟨before, other, after, cause, rfl, uncaused, caused⟩
      · exact .inl (prepended rest uncaused)
      · exact .inr ⟨act :: before, other, after, cause, rfl, prepended before uncaused, caused⟩

theorem bringsApart {other : SlotId} (differ : other ≠ id) (acts : List (Act α)) (receiver : ReceiverId) :
    (acts.flatMap (Act.bringsTo id)).count receiver + (acts.flatMap (Act.bringsTo other)).count receiver ≤
      (acts.flatMap Act.brings).count receiver := by
  induction acts with
  | nil => exact Nat.le_refl 0
  | cons act rest ih =>
    have apart : (act.bringsTo id).count receiver + (act.bringsTo other).count receiver ≤ act.brings.count receiver := by
      unfold Act.bringsTo Act.brings
      split
      · rename_i place consumer
        by_cases here : place = id
        · subst here
          simp [Ne.symm differ]
        · rw [if_neg here, List.count_nil, Nat.zero_add]
          split
          · exact Nat.le_refl _
          · exact Nat.zero_le _
      · exact Nat.le_refl 0
    simp only [List.flatMap_cons, List.count_append]
    omega

theorem broughtOnce (once : (acts.flatMap Act.brings).count receiver ≤ 1)
    (mine : 1 ≤ (acts.flatMap (Act.bringsTo id)).count receiver) :
    ∀ act ∈ acts, ∀ other ≠ id, ∀ brought ∈ act.bringsTo other, (brought == receiver) = false := by
  intro act member other differ brought inside
  by_contra same
  obtain rfl : brought = receiver := by simpa using same
  have theirs : 0 < (acts.flatMap (Act.bringsTo other)).count brought :=
    List.count_pos_iff.mpr (List.mem_flatMap.mpr ⟨act, member, inside⟩)
  have apart := bringsApart differ acts brought
  omega

theorem Blank.lone (blank : start.Blank) (id : SlotId) (receives : ReceiverId → Bool) (heeds : α → Bool) :
    Slot.Lone id receives heeds start.slots := by
  rw [blank.slots]
  constructor <;> intro _ _ _ there <;> cases there

theorem Blank.slotAt (blank : start.Blank) (number : UInt16) (id : SlotId) :
    start.slotAt number id = Slot.blank number := by
  unfold Connection.slotAt slot?
  rw [blank.slots]
  rfl

theorem Heeded.respects (heeded : Heeded id heeds acts) :
    ∀ act ∈ acts, act.Respects id (fun _ => false) heeds := by
  refine fun act member => ⟨fun _ _ _ _ => rfl, fun other kind listener same differ => ?_⟩
  by_contra heard
  exact differ (heeded other kind listener (same ▸ member) (by simpa using heard))

theorem Undergoes.shutdowns {deeds : List (Deed α)} (undergoes : Undergoes id number connection acts deeds)
    (lone : Slot.Lone id (fun _ => false) heeds connection.slots)
    (respects : ∀ act ∈ acts, act.Respects id (fun _ => false) heeds) :
    Slot.Lone id (fun _ => false) heeds (connection.actAll acts).slots ∧
      (connection.actAll acts).effects.shutdowns heeds = connection.effects.shutdowns heeds ++
        ((connection.slotAt number id).performAll deeds).2.shutdowns heeds := by
  obtain ⟨last, told⟩ := undergoes.told _ heeds lone respects
  have heard := congrArg (Effects.shutdowns heeds) told
  rw [Effects.shutdownsAnd, Effects.shutdownsOnly, Effects.shutdownsOnly, Effects.shutdownsOnly] at heard
  exact ⟨last, heard⟩

theorem Undergoes.messages {deeds : List (Deed α)} (undergoes : Undergoes id number connection acts deeds)
    (lone : Slot.Lone id (· == receiver) (fun _ => false) connection.slots)
    (respects : ∀ act ∈ acts, act.Respects id (· == receiver) fun _ => false) :
    Slot.Lone id (· == receiver) (fun _ => false) (connection.actAll acts).slots ∧
      (connection.actAll acts).effects.messagesTo receiver = connection.effects.messagesTo receiver ++
        ((connection.slotAt number id).performAll deeds).2.messagesTo receiver := by
  obtain ⟨last, told⟩ := undergoes.told (· == receiver) (fun _ => false) lone respects
  have heard := congrArg (Effects.messagesTo receiver) told
  rw [Effects.messagesToAnd, Effects.messagesToOnly, Effects.messagesToOnly, Effects.messagesToOnly] at heard
  exact ⟨last, heard⟩

theorem slotAtClosed (closed : (connection.slotAt number id).closed = some reason) :
    connection.slot? id = some (connection.slotAt number id) := by
  unfold slotAt at closed ⊢
  cases there : connection.slot? id with
  | some slot => rfl
  | none =>
    rw [there] at closed
    cases closed

theorem numberedAt (seated : Seated connection) (id : SlotId) (early late : List (Act α)) :
    ∀ slot, (connection.actAll early).slot? id = some slot →
      slot.number = (connection.actAll (early ++ late)).numberOf id := by
  intro slot there
  rw [actAllAppend]
  obtain ⟨last, found, same⟩ := actAllNumber (actAllSeated seated early) late there
  rw [numberOf, found]
  exact same.symm

theorem closedAt (number : UInt16) (id : SlotId) (connection : Connection α) :
    (connection.slot? id).bind Slot.closed = (connection.slotAt number id).closed := by
  unfold slotAt
  cases connection.slot? id <;> rfl

theorem endedOnce {first second third : List (Deed α)} (blank : start.Blank)
    (early : Undergoes id number start before first)
    (now : Undergoes id number (start.actAll before) [act] second)
    (late : Undergoes id number ((start.actAll before).act act) after third)
    (shut : Slot.Shut cause ((start.actAll before).slotAt number id)
      (((start.actAll before).slotAt number id).performAll second).1
      (((start.actAll before).slotAt number id).performAll second).2)
    (has : receiver ∈ ((start.actAll before).slotAt number id).receivers)
    (once : ((before ++ act :: after).flatMap Act.brings).count receiver ≤ 1) :
    (∀ message ∈ (start.actAll before).effects.messagesTo receiver, message.isDelivery = true) ∧
      (start.actAll (before ++ act :: after)).effects.messagesTo receiver =
        (start.actAll before).effects.messagesTo receiver ++ cause.ending?.toList := by
  have spends := (Slot.blank number).performAllSpends first receiver
  rw [← blank.slotAt number id, ← early.slot] at spends
  have nobody : (start.slotAt number id).held.count receiver = 0 := by
    rw [blank.slotAt]
    rfl
  have brought := early.brings.count_le receiver
  have apart := bringsApart (Nat.succ_ne_self id) (before ++ act :: after) receiver
  have held : 1 ≤ ((start.actAll before).slotAt number id).receivers.count receiver := List.count_pos_iff.mpr has
  have fewer : ((start.actAll before).slotAt number id).receivers.count receiver ≤
      ((start.actAll before).slotAt number id).held.count receiver :=
    (List.sublist_append_left ..).count_le receiver
  have split : ((before ++ act :: after).flatMap (Act.bringsTo id)).count receiver =
      (before.flatMap (Act.bringsTo id)).count receiver + ((act.bringsTo id).count receiver +
        (after.flatMap (Act.bringsTo id)).count receiver) := by
    rw [List.flatMap_append, List.flatMap_cons, List.count_append, List.count_append]
  have respects : ∀ other ∈ before ++ act :: after, other.Respects id (· == receiver) fun _ => false :=
    fun other member => ⟨broughtOnce once (by omega) other member, fun _ _ _ _ _ => rfl⟩
  obtain ⟨earlier, later⟩ := List.forall_mem_append.mp respects
  obtain ⟨acting, further⟩ := List.forall_mem_cons.mp later
  obtain ⟨lone, opening⟩ := early.messages (blank.lone id _ _) earlier
  obtain ⟨lone, closing⟩ := now.messages lone (List.forall_mem_singleton.mpr acting)
  obtain ⟨_, rest⟩ := late.messages lone further
  have alone : ((start.actAll before).slotAt number id).receivers.count receiver = 1 := by omega
  have unheld : receiver ∉ (((start.actAll before).act act).slotAt number id).held := by
    have slot : ((start.actAll before).act act).slotAt number id = _ := now.slot
    rw [slot, shut.held]
    exact List.not_mem_nil
  have unbrought : receiver ∉ third.flatMap Deed.brings := fun brings => by
    have again := List.count_pos_iff.mpr (late.brings.subset brings)
    omega
  constructor
  · have none : (start.actAll before).effects.messagesTo receiver =
        ((start.slotAt number id).performAll first).2.messagesTo receiver := by
      rw [opening, blank.effects]
      rfl
    have ends : ((start.slotAt number id).performAll first).2.ends receiver = 0 := by omega
    rw [none]
    intro message told
    simpa using List.countP_eq_zero.mp ends message told
  · rw [actAllAppend]
    show (((start.actAll before).act act).actAll after).effects.messagesTo receiver = _
    have closing : ((start.actAll before).act act).effects.messagesTo receiver = _ := closing
    rw [rest, Slot.performAllSilent unheld unbrought, List.append_nil, closing, shut.told receiver, alone]
    simp

theorem toldEach {first second : List (Deed α)} (blank : start.Blank)
    (early : Undergoes id number start before first)
    (now : Undergoes id number (start.actAll before) [act] second)
    (shut : Slot.Shut cause ((start.actAll before).slotAt number id)
      (((start.actAll before).slotAt number id).performAll second).1
      (((start.actAll before).slotAt number id).performAll second).2)
    (mine : ∀ other ∈ before ++ [act], ∀ place ≠ id, receiver ∉ other.bringsTo place) :
    (start.actAll (before ++ [act])).effects.messagesTo receiver = (start.actAll before).effects.messagesTo receiver ++
      (List.replicate (((start.actAll before).slotAt number id).receivers.count receiver)
        cause.ending?.toList).flatten := by
  have respects : ∀ other ∈ before ++ [act], other.Respects id (· == receiver) fun _ => false :=
    fun other member => ⟨fun place differ brought inside => by
      rw [beq_eq_false_iff_ne]
      rintro rfl
      exact mine other member place differ inside, fun _ _ _ _ _ => rfl⟩
  obtain ⟨earlier, acting⟩ := List.forall_mem_append.mp respects
  obtain ⟨lone, _⟩ := early.messages (blank.lone id _ _) earlier
  rw [actAllAppend, (now.messages lone acting).2, shut.told receiver]

theorem notifiedOnce {first second third : List (Deed α)} (blank : start.Blank)
    (heeded : Heeded id heeds (before ++ act :: after))
    (early : Undergoes id number start before first)
    (now : Undergoes id number (start.actAll before) [act] second)
    (late : Undergoes id number ((start.actAll before).act act) after third)
    (unheard : ((start.slotAt number id).performAll first).2.shutdowns heeds = [])
    (closed : (((start.actAll before).act act).slotAt number id).closed = some cause.reason)
    (shut : Slot.Shut cause ((start.actAll before).slotAt number id)
      (((start.actAll before).slotAt number id).performAll second).1
      (((start.actAll before).slotAt number id).performAll second).2) :
    (start.actAll (before ++ act :: after)).effects.shutdowns heeds =
      (((start.actAll before).slotAt number id).listeners.shutdown.listeners.filter heeds).map fun listener =>
        (listener, cause.signal ((start.actAll before).slotAt number id).number) := by
  obtain ⟨earlier, further⟩ := List.forall_mem_append.mp heeded.respects
  obtain ⟨acting, further⟩ := List.forall_mem_cons.mp further
  obtain ⟨lone, opening⟩ := early.shutdowns (blank.lone id _ heeds) earlier
  obtain ⟨lone, closing⟩ := now.shutdowns lone (List.forall_mem_singleton.mpr acting)
  obtain ⟨_, rest⟩ := late.shutdowns lone further
  have closing : ((start.actAll before).act act).effects.shutdowns heeds = _ := closing
  have silent := (Slot.closedAll closed late.plain heeds).2
  have whole : start.actAll (before ++ act :: after) = ((start.actAll before).act act).actAll after :=
    actAllAppend start before (act :: after)
  rw [whole, rest, silent, closing, opening, unheard, blank.effects, shut.shutdowns heeds]
  simp

theorem staysOpen (blank : start.Blank) (heeded : Heeded id heeds acts) (uncaused : Uncaused id start acts) :
    ((start.actAll acts).slot? id).bind Slot.closed = none ∧ (start.actAll acts).effects.shutdowns heeds = [] := by
  have numbered := numberedAt blank.seated id acts []
  rw [List.append_nil] at numbered
  obtain ⟨deeds, undergoes⟩ := actAllUndergoes blank.seated acts numbered
  obtain ⟨closed, quiet⟩ := Slot.calmAll (undergoes.calm uncaused) heeds
  constructor
  · rw [closedAt, undergoes.slot, closed, blank.slotAt]
    rfl
  · rw [(undergoes.shutdowns (blank.lone id _ heeds) heeded.respects).2, blank.effects, quiet]
    rfl

/- A channel closes at most once, for the first cause, and everyone is told what that cause calls for. -/
theorem channelClosesOnce (blank : start.Blank) (acts : List (Act α)) (id : SlotId) (heeded : Heeded id heeds acts) :
    (Uncaused id start acts ∧ ((start.actAll acts).slot? id).bind Slot.closed = none ∧
      (start.actAll acts).effects.shutdowns heeds = []) ∨
    ∃ before act after cause, acts = before ++ act :: after ∧
      Closing id heeds start before act after cause
        ((start.actAll before).slotAt ((start.actAll acts).numberOf id) id) := by
  have seated := blank.seated
  rcases firstCause id start acts with uncaused | ⟨before, act, after, cause, rfl, uncaused, caused⟩
  · exact .inl ⟨uncaused, staysOpen blank heeded uncaused⟩
  · have middle := actAllSeated seated before
    have whole : ∀ soon, start.actAll (before ++ act :: soon) = ((start.actAll before).act act).actAll soon :=
      fun soon => actAllAppend start before (act :: soon)
    have numbered := numberedAt seated id
    obtain ⟨first, early⟩ := actAllUndergoes seated before (numbered before (act :: after))
    obtain ⟨second, now, shuts⟩ := actUndergoes middle act fun slot there =>
      (numberedAt (actSeated middle act) id [] after slot there).trans
        (congrArg (numberOf id) (whole after)).symm
    have later : ∀ soon late, after = soon ++ late → ∃ third,
        Undergoes id ((start.actAll (before ++ act :: after)).numberOf id) ((start.actAll before).act act) soon third := by
      rintro soon late rfl
      refine actAllUndergoes (actSeated middle act) soon ?_
      rw [whole]
      exact numberedAt (actSeated middle act) id soon late
    generalize (start.actAll (before ++ act :: after)).numberOf id = number at early now later ⊢
    obtain ⟨isOpen, unheard⟩ := Slot.calmAll (early.calm uncaused) heeds
    have isOpen : ((start.actAll before).slotAt number id).closed = none := by
      rw [early.slot, isOpen, blank.slotAt]
      rfl
    have shut := Slot.shutsShut isOpen (shuts cause caused)
    have next : ((start.actAll before).act act).slotAt number id = _ := now.slot
    have closed : (((start.actAll before).act act).slotAt number id).closed = some cause.reason := by
      rw [next]
      exact shut.closed
    have stays : ∀ soon third, Undergoes id number ((start.actAll before).act act) soon third →
        ((start.actAll (before ++ act :: soon)).slotAt number id).closed = some cause.reason := by
      intro soon third late
      rw [whole, late.slot]
      exact (Slot.closedAll closed late.plain heeds).1
    obtain ⟨third, late⟩ := later after [] (List.append_nil after).symm
    refine .inr ⟨before, act, after, cause, rfl, ⟨uncaused, caused, ?_, ?_, ?_, ?_, ?_, ?_⟩⟩
    · rw [closedAt number]
      exact stays after third late
    · exact notifiedOnce blank heeded early now late unheard closed shut
    · exact fun receiver mine => toldEach blank early now shut mine
    · exact fun receiver has once => endedOnce blank early now late shut has once
    · intro server nothing kept soon late same unemptied request
      obtain ⟨third, further⟩ := later soon late same
      have waits : (((start.actAll before).act act).slotAt number id).replies = [.error cause.reason] := by
        rw [next, shut.replies server kept, nothing]
        rfl
      have present := Option.isSome_iff_exists.mpr ⟨_, slotAtClosed closed⟩
      obtain ⟨more, waiting⟩ := Slot.performAllWaiting waits (further.kept present unemptied)
      rw [← further.slot, ← whole] at waiting
      exact concludeRefused (slotAtClosed (stays soon third further)) waiting request
    · intro soon late same request supported
      obtain ⟨third, further⟩ := later soon late same
      have refuses := stays soon third further
      exact issueRefused (slotAtClosed refuses) refuses supported

/- A channel with a listener and a consumer is closed by the server while a call waits, and then the connection is lost. -/
def departing : List (Act Nat) :=
  [.opens (some 1), .receives ⟨.method, 1, [0, 20, 0, 11, 0, 0, 0, 0]⟩, .opened 0, .listens 0 .shutdown 5,
   .asks 0 (.consume { tag := "a", queue := "q", options := {}, receiver := 7 }),
   .receives ⟨.method, 1, [0, 60, 0, 21, 1, 97]⟩, .asks 0 (.purgeQueue "q"),
   .receives ⟨.method, 1, [0, 20, 0, 40, 1, 148, 1, 120, 0, 0, 0, 0]⟩, .fails .connectionDropped]

def vacant : Connection Nat := { ids := { max := 2 } }

theorem vacantBlank : vacant.Blank := ⟨rfl, rfl, rfl, rfl⟩

def departed : Connection Nat := vacant.actAll departing

theorem departedHeeded : Heeded 0 (· == 5) departing := by
  intro other kind listener listens _
  simp [departing] at listens
  exact listens.1

theorem departedOnce :
    (∃ before act after cause, departing = before ++ act :: after ∧
      Closing 0 (· == 5) vacant before act after cause ((vacant.actAll before).slotAt (departed.numberOf 0) 0)) ∧
    departed.effects.shutdowns (· == 5) = [(5, ⟨1, false, false, .serverClosedChannel 1 404 "x"⟩)] ∧
    departed.effects.messages.length = 1 := by
  refine ⟨?_, rfl, rfl⟩
  rcases channelClosesOnce vacantBlank departing 0 departedHeeded with ⟨_, isOpen, _⟩ | closes
  · cases isOpen
  · exact closes

theorem departedUnsupported :
    (departed.slot? 0).bind Slot.closed = some (.serverClosedChannel 1 404 "x") ∧
      (departed.issue 0 (.recover false)).1 = some (.error (.notSupported "basic.recover with requeue=false")) ∧
      (departed.issue 0 (.recover true)).1 = some (.error (.serverClosedChannel 1 404 "x")) := ⟨rfl, rfl, rfl⟩

end Connection

end AmqpClient
