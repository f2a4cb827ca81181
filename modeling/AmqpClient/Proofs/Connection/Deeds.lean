import AmqpClient.Proofs.Channel.Claiming
import AmqpClient.Proofs.Connection.Operation
import AmqpClient.Proofs.Registry

/-! What is done to the slot of a channel, deed by deed. Everything that a connection does to its slots is a log of
deeds, and what comes of a slot is what its own deeds in that log come to. -/
namespace AmqpClient

inductive Deed (α : Type)
  | reply (reply : Except Error Assembler)
  | take
  | drop
  | expect (receiver : Option ReceiverId)
  | start (tag : String)
  | stop (tag : String) (message : ConsumerMessage)
  | deliver (tag : String) (delivery : Delivery)
  | raise (event : ChannelEvent)
  | shut (reason : Error) (connectionLevel byApplication : Bool)
  | listen (kind : EventKind) (listener : α)
  | unlisten (kind : EventKind) (listener : ListenerId)

def Deed.brings {α : Type} : Deed α → List ReceiverId
  | .expect receiver => receiver.toList
  | _ => []

abbrev Entry (α : Type) := SlotId × Deed α

inductive Role
  | delivery (tag : String) (delivery : Delivery)
  | event (event : ChannelEvent)
  | cancelled (tag : String)
  | closing (code : UInt16) (text : String)
  | started (tag : String)
  | stopped (tag : String)
  | answer
  -- Content that cannot be read, or no method at all.
  | unreadable

def Assembler.role (command : Assembler) : Role :=
  match command.method with
  | some ⟨.basicDeliver, (tag, deliveryTag, (redelivered, ()), exchange, routingKey, ())⟩ =>
    match Connection.content command with
    | .ok (properties, body) => .delivery tag ⟨deliveryTag, redelivered, exchange, routingKey, body, properties⟩
    | .error _ => .unreadable
  | some ⟨.basicReturn, (code, text, exchange, routingKey, ())⟩ =>
    match Connection.content command with
    | .ok (properties, body) => .event (.returned ⟨code, text, exchange, routingKey, body, properties⟩)
    | .error _ => .unreadable
  | some ⟨.basicAck, (deliveryTag, (multiple, ()), ())⟩ => .event (.confirm ⟨true, deliveryTag, multiple⟩)
  | some ⟨.basicNack, (deliveryTag, (multiple, _, ()), ())⟩ => .event (.confirm ⟨false, deliveryTag, multiple⟩)
  | some ⟨.basicCancel, (tag, _)⟩ => .cancelled tag
  | some ⟨.channelFlow, ((active, ()), ())⟩ => .event (.flow active)
  | some ⟨.channelClose, (code, text, _)⟩ => .closing code text
  | some ⟨.basicConsumeOk, (tag, ())⟩ => .started tag
  | some ⟨.basicCancelOk, (tag, ())⟩ => .stopped tag
  | some _ => .answer
  | none => .unreadable

def Role.deeds {α : Type} (channel : UInt16) (command : Assembler) : Role → List (Deed α)
  | .delivery tag message => [.deliver tag message]
  | .event news => [.raise news]
  | .cancelled tag => [.stop tag .serverCancelled]
  | .closing code text => [.shut (.serverClosedChannel channel code text) false false]
  | .started tag => [.start tag, .reply (.ok command)]
  | .stopped tag => [.stop tag .clientCancelled, .reply (.ok command)]
  | .answer => [.reply (.ok command)]
  | .unreadable => []

namespace Effects

variable {α : Type} {receives : ReceiverId → Bool} {heeds : α → Bool}

def only (receives : ReceiverId → Bool) (heeds : α → Bool) (effects : Effects α) : Effects α where
  messages := effects.messages.filter fun entry => receives entry.1
  notices := effects.notices.filter fun notice => heeds notice.1

@[simp] theorem onlyAnd (one two : Effects α) :
    (one.and two).only receives heeds = (one.only receives heeds).and (two.only receives heeds) := by
  simp [only, Effects.and]

end Effects

namespace Slot

variable {α : Type}

def perform (slot : Slot α) : Deed α → Slot α × Effects α
  | .reply reply => (slot.reply reply, {})
  | .take => ({ slot with replies := slot.replies.tail }, {})
  | .drop => (slot.drop, {})
  | .expect receiver => (slot.expect receiver, {})
  | .start tag => ((slot.startConsumer tag).2, {})
  | .stop tag message => slot.endConsumer tag message
  | .deliver tag delivery => (slot, slot.deliver tag delivery)
  | .raise event => (slot, slot.raise event)
  | .shut reason connectionLevel byApplication => slot.shutDown reason connectionLevel byApplication
  | .listen kind listener => ({ slot with listeners := (slot.listeners.add kind listener).2 }, {})
  | .unlisten kind listener => ({ slot with listeners := (slot.listeners.remove kind listener).2 }, {})

def performAll (slot : Slot α) : List (Deed α) → Slot α × Effects α
  | [] => (slot, {})
  | deed :: rest =>
    let (next, effects) := slot.perform deed
    let (last, more) := next.performAll rest
    (last, effects.and more)

theorem performAllAppend (slot : Slot α) (one two : List (Deed α)) :
    slot.performAll (one ++ two) =
      (((slot.performAll one).1.performAll two).1,
        (slot.performAll one).2.and ((slot.performAll one).1.performAll two).2) := by
  induction one generalizing slot with
  | nil => rfl
  | cons deed rest ih => simp only [List.cons_append, performAll, ih, Effects.andAnd]

theorem performHeld (slot : Slot α) (deed : Deed α) :
    (slot.perform deed).1.held.Sublist (slot.held ++ deed.brings) := by
  have still : ∀ next : Slot α, next.held = slot.held → next.held.Sublist (slot.held ++ deed.brings) :=
    fun next same => same ▸ List.sublist_append_left ..
  have gone : ∀ next : Slot α, next.held = slot.receivers → next.held.Sublist (slot.held ++ deed.brings) :=
    fun next same => same ▸ (List.sublist_append_left ..).trans (List.sublist_append_left ..)
  cases deed with
  | reply reply =>
    unfold perform Slot.reply
    dsimp only
    split <;> exact still _ rfl
  | expect receiver =>
    show (slot.receivers ++ receiver.toList).Sublist (slot.receivers ++ slot.expected.toList ++ receiver.toList)
    exact (List.sublist_append_left ..).append (List.Sublist.refl _)
  | start tag =>
    unfold perform startConsumer
    dsimp only
    cases expected : slot.expected with
    | none => exact still _ rfl
    | some receiver =>
      dsimp only
      split
      · exact gone _ (List.append_nil _)
      · exact still _ (by simp [held, receivers, expected, expect])
  | stop tag message =>
    have fewer : (slot.consumers.filter fun entry => entry.1 != tag).Sublist slot.consumers := List.filter_sublist
    exact ((fewer.map Prod.snd).append (List.Sublist.refl _)).trans (List.sublist_append_left ..)
  | shut reason connectionLevel byApplication =>
    unfold perform shutDown
    dsimp only
    split
    · exact still _ rfl
    · unfold Slot.reply
      split <;> exact List.nil_sublist _
  | take | drop | deliver | raise | listen | unlisten => exact still _ rfl

theorem performTold (slot : Slot α) (deed : Deed α) :
    ∀ entry ∈ (slot.perform deed).2.messages, entry.1 ∈ slot.held := by
  have named : ∀ tag (message : ConsumerMessage),
      ∀ entry ∈ (slot.consumer? tag).toList.map fun receiver => (receiver, message), entry.1 ∈ slot.held := by
    intro tag message entry told
    obtain ⟨receiver, has, rfl⟩ := List.mem_map.mp told
    obtain ⟨consumer, found, rfl⟩ := Option.map_eq_some_iff.mp (Option.mem_toList.mp has)
    exact List.mem_append_left _ (List.mem_map_of_mem (List.mem_of_find?_eq_some found))
  cases deed with
  | stop tag message => exact named tag message
  | deliver tag delivery => exact named tag (.delivery delivery)
  | shut reason connectionLevel byApplication =>
    unfold perform shutDown
    dsimp only
    intro entry told
    split at told
    · cases told
    · split at told
      · cases told
      · obtain ⟨consumer, has, rfl⟩ := List.mem_map.mp told
        exact List.mem_append_left _ (List.mem_map_of_mem has)
  | reply | take | drop | expect | start | raise | listen | unlisten => exact List.forall_mem_nil _

theorem performHeard (slot : Slot α) (deed : Deed α) :
    ∀ notice ∈ (slot.perform deed).2.notices, notice.1 ∈ (slot.listeners.of notice.2.kind).listeners := by
  have raised : ∀ event, ∀ notice ∈ slot.listeners.notices event,
      notice.1 ∈ (slot.listeners.of notice.2.kind).listeners := by
    intro event notice heard
    obtain ⟨listener, registered, rfl⟩ := List.mem_map.mp heard
    exact registered
  cases deed with
  | raise event => exact raised event
  | shut reason connectionLevel byApplication =>
    unfold perform shutDown
    dsimp only
    intro notice heard
    split at heard
    · cases heard
    · exact raised _ notice heard
  | reply | take | drop | expect | start | stop | deliver | listen | unlisten => exact List.forall_mem_nil _

theorem performRegistered {slot : Slot α} {deed : Deed α} {kind : EventKind} {listener : α}
    (registered : listener ∈ ((slot.perform deed).1.listeners.of kind).listeners) :
    listener ∈ (slot.listeners.of kind).listeners ∨ deed = .listen kind listener := by
  cases deed with
  | listen other added =>
    have added : listener ∈ ((slot.listeners.add other added).2.of kind).listeners := registered
    rw [ChannelListeners.addOf] at added
    split at added
    · rename_i same
      subst same
      simpa [Registry.add, Registry.listeners, or_comm, eq_comm] using added
    · exact .inl added
  | unlisten other id =>
    have left : listener ∈ ((slot.listeners.remove other id).2.of kind).listeners := registered
    rw [ChannelListeners.removeOf] at left
    split at left
    · obtain ⟨entry, kept, rfl⟩ := List.mem_map.mp left
      exact .inl (List.mem_map_of_mem (List.mem_of_mem_filter kept))
    · exact .inl left
  | reply reply =>
    unfold perform Slot.reply at registered
    dsimp only at registered
    split at registered <;> exact .inl registered
  | start tag =>
    unfold perform startConsumer at registered
    dsimp only at registered
    split at registered
    · exact .inl registered
    · split at registered <;> exact .inl registered
  | shut reason connectionLevel byApplication =>
    unfold perform shutDown Slot.reply at registered
    dsimp only at registered
    split at registered
    · exact .inl registered
    · split at registered <;> exact .inl registered
  | take | drop | expect | stop | deliver | raise => exact .inl registered

def enter (slots : List (Slot α)) (entry : Entry α) : List (Slot α) × Effects α :=
  match slots[entry.1]? with
  | some slot => (slots.set entry.1 (slot.perform entry.2).1, (slot.perform entry.2).2)
  | none => (slots, {})

def enterAll (slots : List (Slot α)) : List (Entry α) → List (Slot α) × Effects α
  | [] => (slots, {})
  | entry :: rest =>
    let (next, effects) := enter slots entry
    let (last, more) := enterAll next rest
    (last, effects.and more)

theorem enterAllAppend (slots : List (Slot α)) (one two : List (Entry α)) :
    enterAll slots (one ++ two) =
      ((enterAll (enterAll slots one).1 two).1, (enterAll slots one).2.and (enterAll (enterAll slots one).1 two).2) := by
  induction one generalizing slots with
  | nil => rfl
  | cons entry rest ih => simp only [List.cons_append, enterAll, ih, Effects.andAnd]

theorem enterAllLength (slots : List (Slot α)) (log : List (Entry α)) :
    (enterAll slots log).1.length = slots.length := by
  induction log generalizing slots with
  | nil => rfl
  | cons entry rest ih =>
    show (enterAll (enter slots entry).1 rest).1.length = slots.length
    rw [ih]
    unfold enter
    split
    · exact List.length_set
    · rfl

def own (id : SlotId) (log : List (Entry α)) : List (Deed α) :=
  (log.filter fun entry => entry.1 == id).map Prod.snd

theorem ownAppend (id : SlotId) (one two : List (Entry α)) : own id (one ++ two) = own id one ++ own id two := by
  simp [own]

theorem ownEach (id : SlotId) (slots : List SlotId) (deed : Deed α) :
    own id (slots.map fun id => (id, deed)) = List.replicate (slots.count id) deed := by
  simp [own, List.filter_map, Function.comp_def, List.filter_beq]

theorem ownHere (id other : SlotId) (deeds : List (Deed α)) :
    own other (deeds.map (Prod.mk id)) = if id = other then deeds else [] := by
  by_cases same : id = other <;> simp [own, List.filter_map, Function.comp_def, same]

theorem performNumber (slot : Slot α) (deed : Deed α) : (slot.perform deed).1.number = slot.number := by
  have replied : ∀ (slot : Slot α) reply, (slot.reply reply).number = slot.number := by
    intro slot reply
    unfold Slot.reply
    split <;> rfl
  cases deed with
  | reply reply => exact replied slot reply
  | start tag =>
    unfold perform startConsumer
    dsimp only
    split
    · rfl
    · split <;> rfl
  | shut reason connectionLevel byApplication =>
    unfold perform shutDown
    dsimp only
    split
    · rfl
    · exact replied _ _
  | take | drop | expect | stop | deliver | raise | listen | unlisten => rfl

structure Within (slot next : Slot α) (effects : Effects α) : Prop where
  number : next.number = slot.number
  held : next.held ⊆ slot.held
  registered : ∀ kind listener, listener ∈ (next.listeners.of kind).listeners →
    listener ∈ (slot.listeners.of kind).listeners
  told : ∀ entry ∈ effects.messages, entry.1 ∈ slot.held
  heard : ∀ notice ∈ effects.notices, notice.1 ∈ (slot.listeners.of notice.2.kind).listeners

namespace Within

theorem refl (slot : Slot α) : slot.Within slot {} :=
  ⟨rfl, List.Subset.refl _, fun _ _ registered => registered, List.forall_mem_nil _, List.forall_mem_nil _⟩

theorem trans {slot middle next : Slot α} {one two : Effects α} (first : slot.Within middle one)
    (second : middle.Within next two) : slot.Within next (one.and two) where
  number := second.number.trans first.number
  held := List.Subset.trans second.held first.held
  registered kind listener registered := first.registered kind listener (second.registered kind listener registered)
  told := List.forall_mem_append.mpr ⟨first.told, fun entry told => first.held (second.told entry told)⟩
  heard := List.forall_mem_append.mpr
    ⟨first.heard, fun notice heard => first.registered _ _ (second.heard notice heard)⟩

end Within

theorem performAllWithin (slot : Slot α) {deeds : List (Deed α)}
    (nobody : ∀ deed ∈ deeds, deed.brings = [] ∧ ∀ kind listener, deed ≠ .listen kind listener) :
    slot.Within (slot.performAll deeds).1 (slot.performAll deeds).2 := by
  induction deeds generalizing slot with
  | nil => exact .refl slot
  | cons deed rest ih =>
    obtain ⟨⟨unexpected, unlistened⟩, nobody⟩ := List.forall_mem_cons.mp nobody
    have held := slot.performHeld deed
    rw [unexpected, List.append_nil] at held
    have first : slot.Within (slot.perform deed).1 (slot.perform deed).2 :=
      ⟨slot.performNumber deed, held.subset, fun kind listener registered =>
        (performRegistered registered).resolve_right (unlistened kind listener), slot.performTold deed,
        slot.performHeard deed⟩
    exact first.trans (ih _ nobody)

theorem enterAllNumber {slots : List (Slot α)} {id : SlotId} {slot : Slot α} (there : slots[id]? = some slot)
    (log : List (Entry α)) : ∃ next, (enterAll slots log).1[id]? = some next ∧ next.number = slot.number := by
  induction log generalizing slots slot with
  | nil => exact ⟨slot, there, rfl⟩
  | cons entry rest ih =>
    suffices entered : ∃ next, (enter slots entry).1[id]? = some next ∧ next.number = slot.number by
      obtain ⟨next, here, same⟩ := entered
      obtain ⟨last, found, number⟩ := ih here
      exact ⟨last, found, number.trans same⟩
    unfold enter
    split
    · rename_i changed found
      by_cases same : entry.1 = id
      · subst same
        cases found.symm.trans there
        exact ⟨_, List.getElem?_set_self (List.getElem?_eq_some_iff.mp there).1, slot.performNumber _⟩
      · exact ⟨slot, (List.getElem?_set_ne same).trans there, rfl⟩
    · exact ⟨slot, there, rfl⟩

theorem enterAllHere {slots : List (Slot α)} {id : SlotId} {slot : Slot α} (there : slots[id]? = some slot)
    (deeds : List (Deed α)) :
    enterAll slots (deeds.map (Prod.mk id)) = (slots.set id (slot.performAll deeds).1, (slot.performAll deeds).2) := by
  induction deeds generalizing slots slot with
  | nil =>
    obtain ⟨bound, rfl⟩ := List.getElem?_eq_some_iff.mp there
    simp [enterAll, performAll]
  | cons deed rest ih =>
    have bound := (List.getElem?_eq_some_iff.mp there).1
    have next := @ih (slots.set id (slot.perform deed).1) _ (List.getElem?_set_self bound)
    simp only [List.map_cons, enterAll, enter, there, next, performAll, List.set_set]

theorem enterAllMissing {slots : List (Slot α)} {id : SlotId} (missing : slots[id]? = none) (deeds : List (Deed α)) :
    enterAll slots (deeds.map (Prod.mk id)) = (slots, {}) := by
  induction deeds with
  | nil => rfl
  | cons deed rest ih => simp only [List.map_cons, enterAll, enter, missing, ih, Effects.andNone]

end Slot

namespace Connection

variable {α : Type} {before middle after connection : Connection α} {one two log : List (Entry α)}

structure Logged (log : List (Entry α)) (before after : Connection α) : Prop where
  slots : after.slots = (Slot.enterAll before.slots log).1
  effects : after.effects = before.effects.and (Slot.enterAll before.slots log).2

namespace Logged

theorem still (slots : after.slots = before.slots) (effects : after.effects = before.effects) :
    Logged [] before after := ⟨slots, effects.trans (Effects.andNone _).symm⟩

theorem refl (connection : Connection α) : Logged [] connection connection := .still rfl rfl

theorem trans (first : Logged one before middle) (second : Logged two middle after) :
    Logged (one ++ two) before after where
  slots := by rw [second.slots, first.slots, Slot.enterAllAppend]
  effects := by rw [second.effects, first.effects, first.slots, Slot.enterAllAppend, Effects.andAnd]

theorem here {id : SlotId} {slot : Slot α} {deeds : List (Deed α)}
    (logged : Logged (deeds.map (Prod.mk id)) before after) (there : before.slot? id = some slot) :
    after.slots = before.slots.set id (slot.performAll deeds).1 ∧
      after.effects = before.effects.and (slot.performAll deeds).2 := by
  have entered := Slot.enterAllHere there deeds
  exact ⟨logged.slots.trans (congrArg Prod.fst entered), logged.effects.trans (congrArg _ (congrArg Prod.snd entered))⟩

theorem missing {id : SlotId} {deeds : List (Deed α)} (logged : Logged (deeds.map (Prod.mk id)) before after)
    (missing : before.slot? id = none) : Logged [] before after := by
  have entered := Slot.enterAllMissing missing deeds
  exact ⟨logged.slots.trans (congrArg Prod.fst entered), logged.effects.trans (congrArg _ (congrArg Prod.snd entered))⟩

end Logged

theorem changeLogged (id : SlotId) (deed : Deed α) (connection : Connection α) :
    Logged [(id, deed)] connection (connection.change id fun slot => slot.perform deed) := by
  unfold change slot?
  cases there : connection.slots[id]? with
  | none => exact ⟨by simp [Slot.enterAll, Slot.enter, there], by simp [Slot.enterAll, Slot.enter, there]⟩
  | some slot =>
    exact ⟨by simp [Slot.enterAll, Slot.enter, there, emit, setSlot],
      by simp [Slot.enterAll, Slot.enter, there, emit, setSlot, Effects.and]⟩

theorem transmitKeeps (channel : UInt16) (command : Assembler) (connection : Connection α) :
    ∃ transmitter sent, (connection.transmit channel command).2 = { connection with transmitter, sent } := by
  unfold transmit
  split
  · exact ⟨_, _, rfl⟩
  · split <;> exact ⟨_, _, rfl⟩

theorem sendKeeps (channel : UInt16) (method : Method) (connection : Connection α) :
    ∃ transmitter sent, (connection.send channel method).2 = { connection with transmitter, sent } := by
  unfold send
  split
  · exact transmitKeeps ..
  · exact ⟨_, _, rfl⟩

theorem releaseKeeps (id : SlotId) (connection : Connection α) :
    ∃ ids, connection.release id = { connection with ids } := by
  unfold release
  split
  · split <;> exact ⟨_, rfl⟩
  · exact ⟨_, rfl⟩

structure Worked (ids : ChannelIds SlotId) (log : List (Entry α)) (before after : Connection α) : Prop where
  logged : Logged log before after
  ids : after.ids = ids
  assemblers : after.assemblers = before.assemblers
  spill : after.spill = before.spill
  failure : after.failure = before.failure

namespace Worked

theorem refl (connection : Connection α) : Worked connection.ids [] connection connection :=
  ⟨.refl connection, rfl, rfl, rfl, rfl⟩

theorem trans {first second : ChannelIds SlotId} (here : Worked first one before middle)
    (there : Worked second two middle after) : Worked second (one ++ two) before after where
  logged := here.logged.trans there.logged
  ids := there.ids
  assemblers := there.assemblers.trans here.assemblers
  spill := there.spill.trans here.spill
  failure := there.failure.trans here.failure

end Worked

theorem Worked.deed {ids : ChannelIds SlotId} (worked : Worked ids log before middle) (id : SlotId) (deed : Deed α) :
    Worked ids (log ++ [(id, deed)]) before (middle.change id fun slot => slot.perform deed) := by
  have logged := worked.logged.trans (changeLogged id deed middle)
  unfold change at logged ⊢
  split at logged <;> exact ⟨logged, worked.ids, worked.assemblers, worked.spill, worked.failure⟩

theorem releaseIds (id : SlotId) (connection : Connection α) : (connection.release id).ids =
    match connection.slots[id]? with
    | some slot =>
      if connection.ids.get? slot.number = some id then (connection.ids.release slot.number).2 else connection.ids
    | none => connection.ids := by
  unfold release slot?
  cases connection.slots[id]? with
  | none => rfl
  | some slot => dsimp only; split <;> rfl

@[simp] theorem emitNone (connection : Connection α) : connection.emit {} = connection := by simp [emit]

theorem changeNone {id : SlotId} (missing : connection.slot? id = none) (f : Slot α → Slot α × Effects α) :
    connection.change id f = connection := by simp [change, missing]

theorem releaseWorked (id : SlotId) (connection : Connection α) :
    Worked (connection.release id).ids [] connection (connection.release id) := by
  obtain ⟨ids, released⟩ := connection.releaseKeeps id
  rw [released]
  exact ⟨.still rfl rfl, rfl, rfl, rfl, rfl⟩

theorem sentWorked (connection : Connection α) (transmitter : Transmitter) (sent : Nat) :
    Worked connection.ids [] connection { connection with transmitter, sent } := ⟨.still rfl rfl, rfl, rfl, rfl, rfl⟩

theorem answeringDone {channel : UInt16} {method : Method} {andThen : Connection α → Connection α}
    (served : connection.answering channel method andThen = (.ok (), after)) :
    ∃ transmitter sent, after = andThen { connection with transmitter, sent } := by
  obtain ⟨transmitter, sent, keeps⟩ := connection.sendKeeps channel method
  unfold answering at served
  split at served
  · cases served
  · rename_i middle answer
    rw [answer] at keeps
    cases served
    exact ⟨transmitter, sent, congrArg andThen keeps⟩

theorem withContentDone {command : Assembler} {andThen : Properties → Bytes → Connection α → Connection α}
    (served : connection.withContent command andThen = (.ok (), after)) :
    ∃ properties body, content command = .ok (properties, body) ∧ after = andThen properties body connection := by
  unfold withContent at served
  split at served
  · cases served
  · rename_i properties body read
    cases served
    exact ⟨properties, body, read, rfl⟩

theorem startDone {id : SlotId} {slot next : Slot α} {tag : String} {result : Except Error Unit}
    (there : connection.slot? id = some slot) (started : slot.startConsumer tag = (result, next)) :
    connection.setSlot id next = connection.change id fun slot => slot.perform (.start tag) := by
  simp [change, there, Slot.perform, started]

def frees (method : Method) : Bool := method.kind == .channelClose || method.kind == .channelCloseOk

theorem dispatchToDone {id : SlotId} {channel : UInt16} {method : Method} {command : Assembler}
    (known : command.method = some method)
    (served : connection.dispatchTo id channel method command = (.ok (), after)) :
    Worked (if frees method then (connection.release id).ids else connection.ids)
      ((command.role.deeds channel command).map (Prod.mk id)) connection after := by
  have start := Worked.refl connection
  unfold dispatchTo at served
  dsimp only at served
  unfold Assembler.role
  split at served
  · obtain ⟨properties, body, read, rfl⟩ := withContentDone served
    simp only [known, read]
    exact start.deed id (.deliver _ _)
  · obtain ⟨properties, body, read, rfl⟩ := withContentDone served
    simp only [known, read]
    exact start.deed id (.raise _)
  · cases served
    simp only [known]
    exact start.deed id (.raise _)
  · cases served
    simp only [known]
    exact start.deed id (.raise _)
  · simp only [known]
    split at served
    · cases served
      exact start.deed id (.stop _ _)
    · obtain ⟨transmitter, sent, rfl⟩ := answeringDone served
      exact (connection.sentWorked transmitter sent).deed id (.stop _ _)
  · simp only [known]
    obtain ⟨transmitter, sent, rfl⟩ := answeringDone served
    exact (connection.sentWorked transmitter sent).deed id (.raise _)
  · simp only [known]
    obtain ⟨transmitter, sent, rfl⟩ := answeringDone served
    have same : (release id { connection with transmitter, sent }).ids = (connection.release id).ids := by
      rw [releaseIds, releaseIds]
    have released := (connection.sentWorked transmitter sent).trans (releaseWorked id { connection with transmitter, sent })
    exact same ▸ released.deed id (.shut _ false false)
  · cases served
    simp only [known]
    exact (connection.releaseWorked id).deed id (.reply _)
  · rename_i tag
    simp only [known]
    split at served
    · rename_i missing
      cases served
      have idle := (start.deed id (.start tag)).deed id (.reply (.ok command))
      rwa [changeNone missing, changeNone missing] at idle
    · rename_i slot there
      split at served
      · cases served
      · rename_i next started
        cases served
        rw [startDone there started]
        exact (start.deed id (.start tag)).deed id (.reply (.ok command))
  · cases served
    simp only [known]
    exact (start.deed id (.stop _ .clientCancelled)).deed id (.reply (.ok command))
  · cases served
    -- Every other kind is an answer.
    rw [known]
    cases method with | mk kind arguments =>
    cases kind
    case basicDeliver other _ _ _ _ _ _ _ _ _ => exact (other _ _ _ _ _ rfl).elim
    case basicReturn other _ _ _ _ _ _ _ _ => exact (other _ _ _ _ rfl).elim
    case basicAck other _ _ _ _ _ _ _ => exact (other _ _ rfl).elim
    case basicNack other _ _ _ _ _ _ => exact (other _ _ _ rfl).elim
    case basicCancel other _ _ _ _ _ => exact (other _ _ rfl).elim
    case channelFlow other _ _ _ _ => exact (other _ rfl).elim
    case channelClose other _ _ _ => exact (other _ _ _ _ rfl).elim
    case channelCloseOk other _ _ => exact (other _ rfl).elim
    case basicConsumeOk other _ => exact (other _ rfl).elim
    case basicCancelOk other => exact (other _ rfl).elim
    all_goals exact start.deed id (.reply (.ok command))

theorem answeringFailed {channel : UInt16} {method : Method} {andThen : Connection α → Connection α} {reason : Error}
    (refused : connection.answering channel method andThen = (.error reason, after)) :
    ∃ transmitter sent, after = { connection with transmitter, sent } := by
  obtain ⟨transmitter, sent, keeps⟩ := connection.sendKeeps channel method
  unfold answering at refused
  split at refused
  · rename_i middle answer
    rw [answer] at keeps
    cases refused
    exact ⟨transmitter, sent, keeps⟩
  · cases refused

theorem withContentFailed {command : Assembler} {andThen : Properties → Bytes → Connection α → Connection α}
    {reason : Error} (refused : connection.withContent command andThen = (.error reason, after)) :
    after = connection := by
  unfold withContent at refused
  split at refused
  · cases refused
    rfl
  · cases refused

theorem startRefused {slot next : Slot α} {tag : String} {reason : Error}
    (refused : slot.startConsumer tag = (.error reason, next)) : next = slot.expect none := by
  unfold Slot.startConsumer at refused
  split at refused
  · rename_i nobody
    cases refused
    simp [Slot.expect, ← nobody]
  · dsimp only at refused
    split at refused
    · cases refused
      rfl
    · cases refused

theorem dispatchToFailed {id : SlotId} {channel : UInt16} {method : Method} {command : Assembler} {reason : Error}
    (refused : connection.dispatchTo id channel method command = (.error reason, after)) :
    ∃ log, (log = [] ∨ log = [(id, .expect none)]) ∧ Worked connection.ids log connection after := by
  have still := Worked.refl connection
  unfold dispatchTo at refused
  dsimp only at refused
  split at refused
  · exact ⟨[], .inl rfl, withContentFailed refused ▸ still⟩
  · exact ⟨[], .inl rfl, withContentFailed refused ▸ still⟩
  · cases refused
  · cases refused
  · split at refused
    · cases refused
    · obtain ⟨transmitter, sent, rfl⟩ := answeringFailed refused
      exact ⟨[], .inl rfl, connection.sentWorked transmitter sent⟩
  · obtain ⟨transmitter, sent, rfl⟩ := answeringFailed refused
    exact ⟨[], .inl rfl, connection.sentWorked transmitter sent⟩
  · obtain ⟨transmitter, sent, rfl⟩ := answeringFailed refused
    exact ⟨[], .inl rfl, connection.sentWorked transmitter sent⟩
  · cases refused
  · split at refused
    · cases refused
    · rename_i slot there
      split at refused
      · rename_i next unstarted
        cases refused
        have same : connection.setSlot id next = connection.change id fun slot => slot.perform (.expect none) := by
          simp [change, there, Slot.perform, startRefused unstarted]
        exact ⟨_, .inr rfl, same ▸ still.deed id (.expect none)⟩
      · cases refused
  · cases refused
  · cases refused

def Fewer (ids others : ChannelIds SlotId) : Prop :=
  ∀ number id, ids.get? number = some id → others.get? number = some id

theorem Fewer.refl (ids : ChannelIds SlotId) : Fewer ids ids := fun _ _ held => held

theorem releaseFewer (id : SlotId) (connection : Connection α) : Fewer (connection.release id).ids connection.ids := by
  intro number other held
  rw [releaseIds] at held
  split at held
  · split at held
    · rw [ChannelIds.getRelease] at held
      split at held
      · cases held
      · exact held
    · exact held
  · exact held

theorem dispatchOwnKeeps (method : Method) (connection : Connection α) :
    ∃ transmitter sent, (connection.dispatchOwn method).2 = { connection with transmitter, sent } := by
  unfold dispatchOwn
  split
  · exact sendKeeps ..
  all_goals exact ⟨_, _, rfl⟩

inductive Dispatched (channel : UInt16) (command : Assembler) (before after : Connection α) : Prop
  | own (own : channel = 0) (worked : Worked before.ids [] before after)
  | foreign {id : SlotId} {ids : ChannelIds SlotId} {method : Method} (foreign : channel ≠ 0)
      (numbered : before.ids.get? channel = some id) (known : command.method = some method)
      (freed : ids = if frees method then (before.release id).ids else before.ids)
      (worked : Worked ids ((command.role.deeds channel command).map (Prod.mk id)) before after)

theorem dispatchDone {channel : UInt16} {command : Assembler}
    (served : connection.dispatch channel command = (.ok (), after)) : Dispatched channel command connection after := by
  unfold dispatch at served
  split at served
  · cases served
  · rename_i method known
    split at served
    · rename_i own
      obtain ⟨transmitter, sent, keeps⟩ := connection.dispatchOwnKeeps method
      rw [served] at keeps
      cases keeps
      exact .own own (connection.sentWorked transmitter sent)
    · rename_i foreign
      split at served
      · cases served
      · rename_i id numbered
        exact .foreign foreign numbered known rfl (dispatchToDone known served)

def Hushed (log : List (Entry α)) : Prop := log = [] ∨ ∃ id, log = [(id, .expect none)]

theorem dispatchFailed {channel : UInt16} {command : Assembler} {reason : Error}
    (refused : connection.dispatch channel command = (.error reason, after)) :
    ∃ log, Hushed log ∧ Worked connection.ids log connection after := by
  unfold dispatch at refused
  split at refused
  · cases refused
    exact ⟨[], .inl rfl, .refl _⟩
  · rename_i method _
    split at refused
    · obtain ⟨transmitter, sent, keeps⟩ := connection.dispatchOwnKeeps method
      rw [refused] at keeps
      cases keeps
      exact ⟨[], .inl rfl, connection.sentWorked transmitter sent⟩
    · split at refused
      · cases refused
        exact ⟨[], .inl rfl, .refl _⟩
      · rename_i id _
        obtain ⟨log, hush, worked⟩ := dispatchToFailed refused
        exact ⟨log, hush.imp_right fun same => ⟨id, same⟩, worked⟩

def Completes (frame : Frame) (command : Assembler) (connection : Connection α) : Prop :=
  frame.kind ≠ .heartbeat ∧ (connection.assembler frame.channel).feed frame = (.ok true, command)

inductive Received (frame : Frame) (before after : Connection α) : Prop
  | heartbeat (kind : frame.kind = .heartbeat) (same : after = before)
  | piece {assembler : Assembler} (kind : frame.kind ≠ .heartbeat)
      (fed : (before.assembler frame.channel).feed frame = (.ok false, assembler))
      (kept : after = before.keep frame.channel assembler)
  | complete {command : Assembler} (completes : before.Completes frame command)
      (dispatched : Dispatched frame.channel command (before.forget frame.channel) after)

theorem receiveDone {frame : Frame} (served : connection.receive frame = (.ok (), after)) :
    Received frame connection after := by
  unfold receive at served
  split at served
  · rename_i kind
    cases served
    exact .heartbeat kind rfl
  · rename_i kind
    split at served
    · cases served
    · rename_i command fed
      exact .complete ⟨kind, fed⟩ (dispatchDone served)
    · rename_i assembler fed
      cases served
      exact .piece kind fed rfl

theorem receiveFailed {frame : Frame} {reason : Error}
    (refused : connection.receive frame = (.error reason, after)) :
    ∃ log, Hushed log ∧ Logged log connection after ∧ after.ids = connection.ids ∧
      after.failure = connection.failure := by
  unfold receive at refused
  split at refused
  · cases refused
  · split at refused
    · cases refused
      exact ⟨[], .inl rfl, .refl _, rfl, rfl⟩
    · obtain ⟨log, hush, worked⟩ := dispatchFailed refused
      exact ⟨log, hush, ⟨worked.logged.slots, worked.logged.effects⟩, worked.ids, worked.failure⟩
    · cases refused

end Connection

end AmqpClient
