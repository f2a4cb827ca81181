import AmqpClient.Proofs.Connection.Asking

/-! Where the commands on an open channel go. Each goes to one place, in order: to the call that waits for it, to the
handler of the consumer that it names, or to the listeners for its kind. -/
namespace AmqpClient

/- What happens on a channel: a command comes in, a call is sent, a call takes its reply, listeners come and go. -/
inductive Dealing (α : Type)
  | arrives (command : Assembler)
  | asks (request : Request)
  | learns (request : Request)
  | listens (kind : EventKind) (listener : α)
  | unlistens (kind : EventKind) (listener : ListenerId)

namespace Assembler

def unasked : List MethodKind :=
  [.basicDeliver, .basicReturn, .basicAck, .basicNack, .basicCancel, .channelFlow]

def isAnswer (command : Assembler) : Bool :=
  match command.method with
  | some method => !unasked.contains method.kind
  | none => false

end Assembler

namespace Role

def answers : Role → Bool
  | .closing .. => true
  | .started _ => true
  | .stopped _ => true
  | .answer => true
  | _ => false

end Role

theorem Assembler.roleAnswers (command : Assembler) : command.role.answers = command.isAnswer := by
  unfold role isAnswer
  cases command.method with
  | none => rfl
  | some method =>
    obtain ⟨kind, arguments⟩ := method
    cases kind
    case basicDeliver => cases Connection.content command <;> rfl
    case basicReturn => cases Connection.content command <;> rfl
    all_goals rfl

namespace Dealing

variable {α : Type}

def answers (dealings : List (Dealing α)) : List Assembler :=
  dealings.filterMap fun
    | .arrives command => if command.isAnswer then some command else none
    | _ => none

def concluded (dealings : List (Dealing α)) : List Request :=
  dealings.filterMap fun
    | .learns request => some request
    | _ => none

def brought (dealings : List (Dealing α)) : List ReceiverId :=
  dealings.filterMap fun
    | .asks (.consume consumer) => some consumer.receiver
    | _ => none

/- What comes to the handler of a consumer: the deliveries that carry its tag, until it is cancelled. -/
def thread (tag : String) : List (Dealing α) → List ConsumerMessage
  | [] => []
  | .arrives command :: rest =>
    match command.role with
    | .delivery other delivery => if other = tag then .delivery delivery :: thread tag rest else thread tag rest
    | .cancelled other => if other = tag then [.serverCancelled] else thread tag rest
    | .stopped other => if other = tag then [.clientCancelled] else thread tag rest
    | _ => thread tag rest
  | _ :: rest => thread tag rest

/- What listeners hear: each command that is for them goes to all that are registered when it comes. -/
def announced (listeners : ChannelListeners α) : List (Dealing α) → List (α × ChannelEvent)
  | [] => []
  | .arrives command :: rest =>
    match command.role with
    | .event event => listeners.notices event ++ announced listeners rest
    | _ => announced listeners rest
  | .listens kind listener :: rest => announced (listeners.add kind listener).2 rest
  | .unlistens kind listener :: rest => announced (listeners.remove kind listener).2 rest
  | _ :: rest => announced listeners rest

end Dealing

namespace Connection

variable {α : Type}

def deal (id : SlotId) (channel : UInt16) (connection : Connection α) : Dealing α → Connection α
  | .arrives command => (connection.dispatch channel command).2
  | .asks request => (connection.issue id request).2
  | .learns request => (connection.conclude id request).2
  | .listens kind listener =>
    connection.changeQuietly id fun slot => { slot with listeners := (slot.listeners.add kind listener).2 }
  | .unlistens kind listener =>
    connection.changeQuietly id fun slot => { slot with listeners := (slot.listeners.remove kind listener).2 }

def dealAll (id : SlotId) (channel : UInt16) (connection : Connection α) (dealings : List (Dealing α)) :
    Connection α :=
  dealings.foldl (deal id channel) connection

def results (id : SlotId) (channel : UInt16) (connection : Connection α) :
    List (Dealing α) → List (Except Error Reply)
  | [] => []
  | .learns request :: rest =>
    (connection.conclude id request).1 :: results id channel (connection.deal id channel (.learns request)) rest
  | dealing :: rest => results id channel (connection.deal id channel dealing) rest

def Serves (id : SlotId) (channel : UInt16) (connection : Connection α) : Dealing α → Prop
  | .arrives command => (connection.dispatch channel command).1 = .ok ()
  | .learns _ => ∃ slot, connection.slot? id = some slot ∧ slot.replies ≠ []
  | _ => True

def OpenAt (id : SlotId) (connection : Connection α) : Prop :=
  ∃ slot, connection.slot? id = some slot ∧ slot.closed = none

def expectedAt (id : SlotId) (connection : Connection α) : Option ReceiverId :=
  (connection.slot? id).bind Slot.expected

def Smooth (id : SlotId) (channel : UInt16) (connection : Connection α) : List (Dealing α) → Prop
  | [] => True
  | dealing :: rest =>
    connection.Serves id channel dealing ∧ (connection.deal id channel dealing).OpenAt id ∧
      Smooth id channel (connection.deal id channel dealing) rest

end Connection

namespace Slot

variable {α : Type}

inductive Dealt (slot : Slot α) : Dealing α → Slot α → Effects α → Prop
  | answered {command : Assembler} (role : command.role = .answer) :
      Dealt slot (.arrives command) { slot with replies := slot.replies ++ [.ok command] } {}
  | started {command : Assembler} {tag : String} {receiver : ReceiverId} (role : command.role = .started tag)
      (expected : slot.expected = some receiver) (unused : slot.consumer? tag = none) :
      Dealt slot (.arrives command) { slot with
        replies := slot.replies ++ [.ok command]
        consumers := slot.consumers ++ [(tag, receiver)]
        expected := none } {}
  | stopped {command : Assembler} {tag : String} (role : command.role = .stopped tag) :
      Dealt slot (.arrives command)
        { slot with
          replies := slot.replies ++ [.ok command]
          consumers := slot.consumers.filter fun entry => entry.1 != tag }
        { messages := (slot.consumer? tag).toList.map fun receiver => (receiver, .clientCancelled) }
  | cancelled {command : Assembler} {tag : String} (role : command.role = .cancelled tag) :
      Dealt slot (.arrives command)
        { slot with consumers := slot.consumers.filter fun entry => entry.1 != tag }
        { messages := (slot.consumer? tag).toList.map fun receiver => (receiver, .serverCancelled) }
  | delivered {command : Assembler} {tag : String} {delivery : Delivery}
      (role : command.role = .delivery tag delivery) :
      Dealt slot (.arrives command) slot
        { messages := (slot.consumer? tag).toList.map fun receiver => (receiver, .delivery delivery) }
  | raised {command : Assembler} {event : ChannelEvent} (role : command.role = .event event) :
      Dealt slot (.arrives command) slot { notices := slot.listeners.notices event }
  | unread {command : Assembler} (role : command.role = .unreadable) : Dealt slot (.arrives command) slot {}
  | asked {request : Request} {expected : Option ReceiverId}
      (origin : expected = slot.expected ∨ expected = none ∨
        ∃ consumer, request = .consume consumer ∧ expected = some consumer.receiver) :
      Dealt slot (.asks request) { slot with expected } {}
  | learnt {request : Request} {reply : Except Error Assembler} {rest : List (Except Error Assembler)}
      {expected : Option ReceiverId} (waiting : slot.replies = reply :: rest)
      (origin : expected = slot.expected ∨ expected = none) :
      Dealt slot (.learns request) { slot with replies := rest, expected } {}
  | listened (kind : EventKind) (listener : α) :
      Dealt slot (.listens kind listener) { slot with listeners := (slot.listeners.add kind listener).2 } {}
  | unlistened (kind : EventKind) (listener : ListenerId) :
      Dealt slot (.unlistens kind listener) { slot with listeners := (slot.listeners.remove kind listener).2 } {}

end Slot

namespace Connection

variable {α : Type} {id : SlotId} {channel : UInt16} {connection next : Connection α} {slot changed : Slot α}

/- The channel is open, its handle is held, and nobody else has its number. -/
structure Serving (id : SlotId) (channel : UInt16) (connection : Connection α) (slot : Slot α) : Prop where
  there : connection.slot? id = some slot
  isOpen : slot.closed = none
  kept : slot.dropped = false
  alone : ∀ other, connection.ids.get? channel = some other → other = id

theorem Serving.worked (serving : Serving id channel connection slot) {ids : ChannelIds SlotId} {deeds : List (Deed α)}
    (worked : Worked ids (deeds.map (Prod.mk id)) connection next) (fewer : Fewer ids connection.ids)
    (isOpen : (slot.performAll deeds).1.closed = none) (kept : (slot.performAll deeds).1.dropped = false) :
    Serving id channel next (slot.performAll deeds).1 ∧
      next.effects = connection.effects.and (slot.performAll deeds).2 := by
  obtain ⟨slots, effects⟩ := worked.logged.here serving.there
  have bound := (List.getElem?_eq_some_iff.mp serving.there).1
  refine ⟨⟨?_, isOpen, kept, fun other held => serving.alone other (fewer _ _ (worked.ids ▸ held))⟩, effects⟩
  unfold slot?
  rw [slots]
  exact List.getElem?_set_self bound

theorem Serving.stillOpen (serving : Serving id channel connection slot) {ids : ChannelIds SlotId}
    {deeds : List (Deed α)} (worked : Worked ids (deeds.map (Prod.mk id)) connection next)
    (isOpen : next.OpenAt id) : (slot.performAll deeds).1.closed = none := by
  obtain ⟨found, there, isOpen⟩ := isOpen
  obtain ⟨slots, _⟩ := worked.logged.here serving.there
  have bound := (List.getElem?_eq_some_iff.mp serving.there).1
  have here : next.slot? id = some (slot.performAll deeds).1 := by
    unfold slot?
    rw [slots]
    exact List.getElem?_set_self bound
  cases here.symm.trans there
  exact isOpen

theorem startedMethod {command : Assembler} {tag : String} (role : command.role = .started tag) :
    command.method = some ⟨.basicConsumeOk, (tag, ())⟩ := by
  unfold Assembler.role at role
  split at role
  case h_8 known =>
    cases role
    exact known
  case h_1 | h_2 => split at role <;> cases role
  all_goals cases role

theorem startedExpected {command : Assembler} {tag : String} (role : command.role = .started tag)
    (foreign : channel ≠ 0) (held : connection.ids.get? channel = some id) (there : connection.slot? id = some slot)
    (served : connection.dispatch channel command = (.ok (), next)) :
    ∃ receiver, slot.expected = some receiver ∧ slot.consumer? tag = none := by
  unfold dispatch at served
  rw [startedMethod role] at served
  dsimp only at served
  rw [if_neg foreign, held] at served
  dsimp only [dispatchTo] at served
  rw [there] at served
  dsimp only [Slot.startConsumer] at served
  cases expected : slot.expected with
  | none => simp [expected] at served
  | some receiver =>
    refine ⟨receiver, rfl, ?_⟩
    cases used : slot.consumer? tag with
    | none => rfl
    | some other =>
      unfold Slot.consumer? at used
      simp [expected, used, Slot.expect, Slot.consumer?] at served

theorem replyKept (kept : slot.dropped = false) (reply : Except Error Assembler) :
    slot.reply reply = { slot with replies := slot.replies ++ [reply] } := by
  simp [Slot.reply, kept]

theorem shutDownCloses (isOpen : slot.closed = none) (reason : Error) (connectionLevel byApplication : Bool) :
    (slot.shutDown reason connectionLevel byApplication).1.closed = some reason := by
  unfold Slot.shutDown Slot.reply
  rw [if_neg (by simp [isOpen])]
  dsimp only
  split <;> rfl

theorem roleDealt {command : Assembler} (isOpen : slot.closed = none) (kept : slot.dropped = false)
    (stays : (slot.performAll (command.role.deeds channel command)).1.closed = none)
    (started : ∀ tag, command.role = .started tag →
      ∃ receiver, slot.expected = some receiver ∧ slot.consumer? tag = none) :
    ∃ changed effects, slot.Dealt (.arrives command) changed effects ∧ changed.dropped = false ∧
      slot.performAll (command.role.deeds channel command) = (changed, effects) := by
  cases role : command.role with
  | delivery tag delivery =>
    exact ⟨_, _, .delivered role, kept, by simp [Role.deeds, Slot.performAll, Slot.perform, Slot.deliver]⟩
  | event event => exact ⟨_, _, .raised role, kept, by simp [Role.deeds, Slot.performAll, Slot.perform, Slot.raise]⟩
  | cancelled tag =>
    exact ⟨_, _, .cancelled role, kept, by simp [Role.deeds, Slot.performAll, Slot.perform, Slot.endConsumer]⟩
  | closing code text =>
    rw [role] at stays
    simp [Role.deeds, Slot.performAll, Slot.perform, shutDownCloses isOpen] at stays
  | started tag =>
    obtain ⟨receiver, expected, unused⟩ := started tag role
    refine ⟨_, _, .started role expected unused, kept, ?_⟩
    unfold Slot.consumer? at unused
    simp [Role.deeds, Slot.performAll, Slot.perform, Slot.startConsumer, expected, Slot.expect, Slot.consumer?, unused,
      Slot.reply, kept]
  | stopped tag =>
    refine ⟨_, _, .stopped role, kept, ?_⟩
    simp [Role.deeds, Slot.performAll, Slot.perform, Slot.endConsumer, Slot.reply, kept]
  | answer =>
    exact ⟨_, _, .answered role, kept, by simp [Role.deeds, Slot.performAll, Slot.perform, Slot.reply, kept]⟩
  | unreadable => exact ⟨_, _, .unread role, kept, rfl⟩

theorem arrivesDealt {command : Assembler} (foreign : channel ≠ 0) (serving : Serving id channel connection slot)
    (served : connection.dispatch channel command = (.ok (), next)) (isOpen : next.OpenAt id) :
    ∃ changed effects, slot.Dealt (.arrives command) changed effects ∧ Serving id channel next changed ∧
      next.effects = connection.effects.and effects := by
  cases dispatchDone served with
  | own own => exact absurd own foreign
  | @foreign other ids method _ held known freed worked =>
  obtain rfl := serving.alone other held
  have fewer : Fewer ids connection.ids := by
    rw [freed]
    split
    · exact connection.releaseFewer other
    · exact .refl _
  have stays := serving.stillOpen worked isOpen
  obtain ⟨changed, effects, dealt, kept, performed⟩ := roleDealt serving.isOpen serving.kept stays
    fun tag role => startedExpected role foreign held serving.there served
  obtain ⟨goes, gathered⟩ := serving.worked worked fewer stays (by rw [performed]; exact kept)
  rw [performed] at goes gathered
  exact ⟨changed, effects, dealt, goes, gathered⟩

theorem asksDealt (request : Request) (serving : Serving id channel connection slot)
    (isOpen : (connection.issue id request).2.OpenAt id) :
    ∃ changed effects, slot.Dealt (.asks request) changed effects ∧
      Serving id channel (connection.issue id request).2 changed ∧
      (connection.issue id request).2.effects = connection.effects.and effects := by
  obtain ⟨deeds, ids, issued, worked, fewer⟩ := connection.issueWorked id request
  have stays := serving.stillOpen worked isOpen
  suffices asked : slot.Dealt (.asks request) (slot.performAll deeds).1 (slot.performAll deeds).2 ∧
      (slot.performAll deeds).1.dropped = false by
    exact ⟨_, _, asked.1, serving.worked worked fewer stays asked.2⟩
  generalize (connection.issue id request).1 = result at issued
  cases issued with
  | sent => exact ⟨.asked (.inl rfl), serving.kept⟩
  | expecting consumes => exact ⟨.asked (.inr (.inr ⟨_, consumes, rfl⟩)), serving.kept⟩
  | refused _ shut =>
    subst shut
    simp [Slot.performAll, Slot.perform, shutDownCloses serving.isOpen] at stays
  | unexpected _ expects =>
    rcases expects with rfl | rfl <;> exact ⟨.asked (.inr (.inl rfl)), serving.kept⟩

def outcome (request : Request) : Except Error Assembler → Except Error Reply
  | .ok command => Reply.ofCommand request command
  | .error reason => .error reason.restated

theorem learnsOutcome {reply : Except Error Assembler} {rest : List (Except Error Assembler)} (request : Request)
    (there : connection.slot? id = some slot) (waiting : slot.replies = reply :: rest) :
    (connection.conclude id request).1 = outcome request reply := by
  unfold conclude takeReply
  simp only [there, waiting]
  rw [(finishWorked ..).1]
  cases reply <;> rfl

theorem learnsDealt {reply : Except Error Assembler} {rest : List (Except Error Assembler)} (request : Request)
    (serving : Serving id channel connection slot) (waiting : slot.replies = reply :: rest)
    (isOpen : (connection.conclude id request).2.OpenAt id) :
    ∃ expected, (expected = slot.expected ∨ expected = none) ∧
      Serving id channel (connection.conclude id request).2 { slot with replies := rest, expected } ∧
      (connection.conclude id request).2.effects = connection.effects := by
  obtain ⟨deeds, ids, finished, worked, fewer⟩ := connection.concludeWorked id request
  have stays := serving.stillOpen worked isOpen
  suffices learnt : ∃ expected, (expected = slot.expected ∨ expected = none) ∧
      slot.performAll (.take :: deeds) = ({ slot with replies := rest, expected }, {}) by
    obtain ⟨expected, origin, performed⟩ := learnt
    obtain ⟨goes, gathered⟩ := serving.worked worked fewer stays (by rw [performed]; exact serving.kept)
    rw [performed] at goes gathered
    exact ⟨expected, origin, goes, gathered.trans (Effects.andNone _)⟩
  generalize (connection.conclude id request).1 = result at finished
  cases finished with
  | closed =>
    have isOpen : ({ slot with replies := slot.replies.tail } : Slot α).closed = none := serving.isOpen
    simp [Slot.performAll, Slot.perform, shutDownCloses isOpen] at stays
  | unstarted => exact ⟨none, .inr rfl, by simp [Slot.performAll, Slot.perform, Slot.expect, waiting]⟩
  | plain => exact ⟨slot.expected, .inl rfl, by simp [Slot.performAll, Slot.perform, waiting]⟩

theorem listensDealt (deed : Deed α) (silent : (slot.perform deed).2 = {})
    (isOpen : (slot.perform deed).1.closed = none) (kept : (slot.perform deed).1.dropped = false)
    (serving : Serving id channel connection slot) :
    Serving id channel (connection.change id fun slot => slot.perform deed) (slot.perform deed).1 ∧
      (connection.change id fun slot => slot.perform deed).effects = connection.effects := by
  have worked : Worked connection.ids ([deed].map (Prod.mk id)) connection _ := (Worked.refl connection).deed id deed
  obtain ⟨goes, gathered⟩ := serving.worked worked (.refl _)
    (by simpa [Slot.performAll] using isOpen) (by simpa [Slot.performAll] using kept)
  simp [Slot.performAll, silent] at goes gathered
  exact ⟨goes, gathered⟩

theorem dealDealt {dealing : Dealing α} (foreign : channel ≠ 0) (serving : Serving id channel connection slot)
    (serves : connection.Serves id channel dealing) (isOpen : (connection.deal id channel dealing).OpenAt id) :
    ∃ changed effects, slot.Dealt dealing changed effects ∧
      Serving id channel (connection.deal id channel dealing) changed ∧
      (connection.deal id channel dealing).effects = connection.effects.and effects := by
  cases dealing with
  | arrives command =>
    have served : connection.dispatch channel command = (.ok (), connection.deal id channel (.arrives command)) :=
      Prod.ext serves rfl
    exact arrivesDealt foreign serving served isOpen
  | asks request => exact asksDealt request serving isOpen
  | learns request =>
    obtain ⟨found, there, nonempty⟩ := serves
    cases there.symm.trans serving.there
    obtain ⟨reply, rest, waiting⟩ := List.exists_cons_of_ne_nil nonempty
    obtain ⟨expected, origin, goes, gathered⟩ := learnsDealt request serving waiting isOpen
    exact ⟨_, {}, .learnt waiting origin, goes, gathered.trans (Effects.andNone _).symm⟩
  | listens kind listener =>
    obtain ⟨goes, gathered⟩ := listensDealt (.listen kind listener) rfl serving.isOpen serving.kept serving
    exact ⟨_, {}, .listened kind listener, goes, gathered.trans (Effects.andNone _).symm⟩
  | unlistens kind listener =>
    obtain ⟨goes, gathered⟩ := listensDealt (.unlisten kind listener) rfl serving.isOpen serving.kept serving
    exact ⟨_, {}, .unlistened kind listener, goes, gathered.trans (Effects.andNone _).symm⟩

end Connection

namespace Effects

variable {α : Type}

def messagesTo (receiver : ReceiverId) (effects : Effects α) : List ConsumerMessage :=
  (effects.messages.filter fun entry => entry.1 == receiver).map Prod.snd

@[simp] theorem messagesToAnd (receiver : ReceiverId) (one two : Effects α) :
    (one.and two).messagesTo receiver = one.messagesTo receiver ++ two.messagesTo receiver := by
  simp [messagesTo, Effects.and]

@[simp] theorem messagesToNone (receiver : ReceiverId) : ({} : Effects α).messagesTo receiver = [] := rfl

end Effects

namespace Slot

variable {α : Type} {slot next last : Slot α} {dealing : Dealing α} {dealings before after : List (Dealing α)}
  {effects : Effects α} {receiver : ReceiverId} {tag : String}

theorem consumerFiltered (slot : Slot α) (tag other : String) :
    ({ slot with consumers := slot.consumers.filter fun entry => entry.1 != other } : Slot α).consumer? tag
      = if tag = other then none else slot.consumer? tag := by
  unfold consumer?
  rw [List.find?_filter]
  split
  · rename_i same
    subst same
    rw [List.find?_eq_none.mpr (by simp), Option.map_none]
  · rename_i differ
    congr 2
    funext entry
    by_cases here : entry.1 = tag
    · simp [here, differ]
    · simp [here]

theorem consumerAppended (slot : Slot α) (tag other : String) (receiver : ReceiverId)
    (unused : slot.consumer? other = none) (replies : List (Except Error Assembler)) (expected : Option ReceiverId) :
    ({ slot with replies, consumers := slot.consumers ++ [(other, receiver)], expected } : Slot α).consumer? tag
      = if tag = other then some receiver else slot.consumer? tag := by
  unfold consumer? at unused ⊢
  rw [List.find?_append]
  split
  · rename_i same
    subst same
    rw [Option.map_eq_none_iff.mp unused]
    simp
  · rename_i differ
    have elsewhere : ([(other, receiver)].find? fun entry => entry.1 == tag) = none := by
      simp [Ne.symm differ]
    rw [elsewhere, Option.or_none]

theorem Dealt.fewer (dealt : slot.Dealt dealing next effects) (rest : List (Dealing α)) :
    (next.held ++ Dealing.brought rest).Sublist (slot.held ++ Dealing.brought (dealing :: rest)) := by
  have filtered : ∀ other, (slot.consumers.filter fun entry => entry.1 != other).Sublist slot.consumers := fun _ =>
    List.filter_sublist
  cases dealt with
  | answered | delivered | raised | unread | listened | unlistened => exact List.Sublist.refl _
  | started _ expected => simp [held, receivers, expected, Dealing.brought]
  | stopped | cancelled => exact (((filtered _).map _).append (List.Sublist.refl _)).append (List.Sublist.refl _)
  | @asked request _ origin =>
    have later : (Dealing.brought rest).Sublist (Dealing.brought (.asks request :: rest)) :=
      (List.sublist_cons_self ..).filterMap _
    rcases origin with rfl | rfl | ⟨consumer, rfl, rfl⟩
    · exact (List.Sublist.refl _).append later
    · exact ((List.Sublist.refl _).append (List.nil_sublist _)).append later
    · -- The handler moves from those to come to those that are held.
      simp [held, receivers, Dealing.brought]
  | learnt _ origin =>
    rcases origin with rfl | rfl
    · exact List.Sublist.refl _
    · exact ((List.Sublist.refl _).append (List.nil_sublist _)).append (List.Sublist.refl _)

theorem toldUnder (slot : Slot α) (tag : String) (message : ConsumerMessage) (receiver : ReceiverId) :
    ({ messages := (slot.consumer? tag).toList.map fun receiver => (receiver, message) } : Effects α).messagesTo receiver
      = if slot.consumer? tag = some receiver then [message] else [] := by
  cases slot.consumer? tag with
  | none => simp [Effects.messagesTo]
  | some other => by_cases same : other = receiver <;> simp [Effects.messagesTo, same]

theorem consumerOnce {other : String} (has : slot.consumer? tag = some receiver) (once : slot.held.Nodup) :
    slot.consumer? other = some receiver ↔ other = tag := by
  refine ⟨fun also => ?_, fun same => same ▸ has⟩
  obtain ⟨entry, here, rfl⟩ := Option.map_eq_some_iff.mp has
  obtain ⟨twin, there, same⟩ := Option.map_eq_some_iff.mp also
  have distinct : (slot.consumers.map Prod.snd).Nodup := once.sublist (List.sublist_append_left ..)
  obtain rfl := List.inj_on_of_nodup_map distinct (List.mem_of_find?_eq_some there) (List.mem_of_find?_eq_some here) same
  have named := List.find?_some here
  have alsoNamed := List.find?_some there
  simp only [beq_iff_eq] at named alsoNamed
  exact alsoNamed.symm.trans named

theorem Dealt.told (dealt : slot.Dealt dealing next effects) (heard : effects.messagesTo receiver ≠ []) :
    ∃ tag, slot.consumer? tag = some receiver := by
  cases dealt with
  | @stopped _ tag | @cancelled _ tag | @delivered _ tag =>
    rw [toldUnder] at heard
    exact ⟨tag, by_contra fun other => heard (if_neg other)⟩
  | answered | started | raised | unread | asked | learnt | listened | unlistened => exact absurd rfl heard

theorem Dealt.startedSource {command : Assembler} (dealt : slot.Dealt (.arrives command) next effects)
    (role : command.role = .started tag) : ∃ receiver, slot.expected = some receiver ∧
      next.consumer? tag = some receiver ∧ next.expected = none ∧ effects = {} := by
  cases dealt with
  | @started _ named receiver other expected unused =>
    cases other.symm.trans role
    refine ⟨receiver, expected, ?_, rfl, rfl⟩
    rw [consumerAppended slot tag tag _ unused, if_pos rfl]
  | answered other | stopped other | cancelled other | delivered other | raised other | unread other =>
    cases other.symm.trans role

theorem Dealt.expected (dealt : slot.Dealt dealing next effects) (expects : next.expected = some receiver) :
    slot.expected = some receiver ∨ receiver ∈ Dealing.brought [dealing] := by
  cases dealt with
  | answered | stopped | cancelled | delivered | raised | unread | listened | unlistened => exact .inl expects
  | started => cases expects
  | asked origin =>
    rcases origin with rfl | rfl | ⟨consumer, rfl, rfl⟩
    · exact .inl expects
    · cases expects
    · obtain rfl := Option.some.inj expects
      exact .inr (List.mem_singleton_self _)
  | learnt _ origin =>
    rcases origin with rfl | rfl
    · exact .inl expects
    · cases expects

theorem broughtCons (dealing : Dealing α) (rest : List (Dealing α)) :
    Dealing.brought (dealing :: rest) = Dealing.brought [dealing] ++ Dealing.brought rest :=
  List.filterMap_append (l := [dealing])

theorem Dealt.consumer (dealt : slot.Dealt dealing next effects) (has : next.consumer? tag = some receiver) :
    slot.consumer? tag = some receiver ∨
      ∃ command, dealing = .arrives command ∧ command.role = .started tag ∧ slot.expected = some receiver := by
  cases dealt with
  | answered | delivered | raised | unread | asked | learnt | listened | unlistened => exact .inl has
  | @started command other _ role expected unused =>
    rw [consumerAppended slot tag other _ unused] at has
    split at has
    · rename_i same
      exact .inr ⟨command, rfl, same ▸ role, expected.trans has⟩
    · exact .inl has
  | stopped | cancelled =>
    have has := (consumerFiltered slot tag _).symm.trans has
    split at has
    · cases has
    · exact .inl has

theorem consumerReceives (has : slot.consumer? tag = some receiver) : receiver ∈ slot.receivers := by
  obtain ⟨entry, there, rfl⟩ := Option.map_eq_some_iff.mp has
  exact List.mem_map_of_mem (List.mem_of_find?_eq_some there)

theorem broughtAppend (before after : List (Dealing α)) :
    Dealing.brought (before ++ after) = Dealing.brought before ++ Dealing.brought after :=
  List.filterMap_append

end Slot

namespace Connection

variable {α : Type} {id : SlotId} {channel : UInt16} {connection : Connection α} {slot last : Slot α}
  {dealing : Dealing α} {dealings before after : List (Dealing α)} {effects : Effects α} {receiver : ReceiverId}
  {tag : String}

/- How a channel goes on that stays open: its slot from one dealing to the next, and all that comes of it. -/
inductive Course (id : SlotId) (channel : UInt16) :
    Connection α → Slot α → List (Dealing α) → Slot α → Effects α → Prop
  | done {connection : Connection α} {slot : Slot α} (serving : Serving id channel connection slot) :
      Course id channel connection slot [] slot {}
  | more {connection : Connection α} {slot next last : Slot α} {dealing : Dealing α} {rest : List (Dealing α)}
      {effects more : Effects α} (serving : Serving id channel connection slot)
      (dealt : slot.Dealt dealing next effects)
      (later : Course id channel (connection.deal id channel dealing) next rest last more) :
      Course id channel connection slot (dealing :: rest) last (effects.and more)

theorem smoothCourse (foreign : channel ≠ 0) (serving : Serving id channel connection slot)
    (smooth : connection.Smooth id channel dealings) :
    ∃ last effects, Course id channel connection slot dealings last effects ∧
      (connection.dealAll id channel dealings).slot? id = some last ∧
      (connection.dealAll id channel dealings).effects = connection.effects.and effects := by
  induction dealings generalizing connection slot with
  | nil => exact ⟨slot, {}, .done serving, serving.there, (Effects.andNone _).symm⟩
  | cons dealing rest ih =>
    obtain ⟨serves, isOpen, smooth⟩ := smooth
    obtain ⟨next, effects, dealt, goes, gathered⟩ := dealDealt foreign serving serves isOpen
    obtain ⟨last, more, later, there, all⟩ := ih goes smooth
    exact ⟨last, effects.and more, .more serving dealt later, there, by
      rw [← Effects.andAnd, ← gathered]
      exact all⟩

namespace Course

theorem split (course : Course id channel connection slot (before ++ dealing :: after) last effects) :
    ∃ middle next early now late, Course id channel connection slot before middle early ∧
      middle.Dealt dealing next now ∧
      Course id channel ((connection.dealAll id channel before).deal id channel dealing) next after last late ∧
      (connection.dealAll id channel before).slot? id = some middle ∧ effects = early.and (now.and late) := by
  induction before generalizing connection slot effects with
  | nil =>
    cases course with
    | more serving dealt later => exact ⟨_, _, _, _, _, .done serving, dealt, later, serving.there, rfl⟩
  | cons first rest ih =>
    cases course with
    | more serving dealt later =>
      obtain ⟨middle, next, early, now, late, earlier, here, further, there, rfl⟩ := ih later
      exact ⟨_, _, _, _, _, .more serving dealt earlier, here, further, there, (Effects.andAnd ..).symm⟩

theorem fewer (course : Course id channel connection slot dealings last effects) (rest : List (Dealing α)) :
    (last.held ++ Dealing.brought rest).Sublist (slot.held ++ Dealing.brought (dealings ++ rest)) := by
  induction course with
  | done => exact List.Sublist.refl _
  | more _ dealt later ih => exact ih.trans (dealt.fewer _)

theorem origin (course : Course id channel connection slot dealings last effects)
    (expects : last.expected = some receiver) : receiver ∈ slot.expected.toList ++ Dealing.brought dealings := by
  induction course with
  | done => simp [expects]
  | more _ dealt later ih =>
    rw [Slot.broughtCons]
    simp only [List.mem_append] at ih ⊢
    rcases ih expects with before | brought
    · rcases dealt.expected (by simpa using before) with earlier | brought
      · exact .inl (by simp [earlier])
      · exact .inr (.inl brought)
    · exact .inr (.inr brought)

theorem silent (course : Course id channel connection slot dealings last effects)
    (without : ∀ tag, slot.consumer? tag ≠ some receiver)
    (never : ∀ before command tag after, dealings = before ++ .arrives command :: after →
      command.role = .started tag → expectedAt id (connection.dealAll id channel before) ≠ some receiver) :
    effects.messagesTo receiver = [] := by
  induction course with
  | done => rfl
  | @more connection slot _ _ _ _ effects _ serving dealt later ih =>
    have now : effects.messagesTo receiver = [] := by
      by_contra heard
      obtain ⟨tag, has⟩ := dealt.told heard
      exact without tag has
    rw [Effects.messagesToAnd, now, List.nil_append]
    refine ih (fun tag has => ?_) fun before command tag after same role =>
      never (_ :: before) command tag after (same ▸ rfl) role
    rcases dealt.consumer has with before | ⟨command, rfl, role, expected⟩
    · exact without tag before
    · refine never [] command tag _ rfl role ?_
      unfold expectedAt
      exact (congrArg (Option.bind · Slot.expected) serving.there).trans expected

theorem gone (course : Course id channel connection slot dealings last effects) (unheld : receiver ∉ slot.held)
    (unbrought : receiver ∉ Dealing.brought dealings) : effects.messagesTo receiver = [] := by
  refine course.silent (fun tag has => unheld (List.mem_append_left _ (Slot.consumerReceives has))) ?_
  rintro before command tag after rfl _ expected
  obtain ⟨middle, _, _, _, _, earlier, _, _, there, _⟩ := course.split
  unfold expectedAt at expected
  rw [there] at expected
  rcases List.mem_append.mp (earlier.origin expected) with held | brought
  · exact unheld (List.mem_append_right _ held)
  · exact unbrought (Slot.broughtAppend .. ▸ List.mem_append_left _ brought)

theorem awaited (course : Course id channel connection slot dealings last effects)
    (expects : last.expected = some receiver) (once : (slot.held ++ Dealing.brought dealings).Nodup) :
    effects.messagesTo receiver = [] := by
  unfold Slot.held at once
  rw [List.append_assoc] at once
  obtain ⟨_, later, apart⟩ := List.nodup_append'.mp once
  refine course.silent (fun tag has => apart (Slot.consumerReceives has) (course.origin expects)) ?_
  -- Once it had its consumer it would have to come a second time.
  rintro before command tag after rfl role expected
  obtain ⟨middle, next, _, _, _, earlier, dealt, further, there, _⟩ := course.split
  unfold expectedAt at expected
  rw [there] at expected
  obtain ⟨_, _, _, nobody, _⟩ := dealt.startedSource role
  have again : receiver ∈ Dealing.brought after := by simpa [nobody] using further.origin expects
  rw [Slot.broughtAppend, Slot.broughtCons, ← List.append_assoc] at later
  exact (List.nodup_append'.mp later).2.2 (earlier.origin expected) (List.mem_append_right _ again)

theorem ended {other : String} {next : Slot α} {message : ConsumerMessage}
    (later : Course id channel connection next dealings last effects) (has : slot.consumer? tag = some receiver)
    (once : (slot.held ++ Dealing.brought dealings).Nodup) (held : next.held = (slot.endConsumer other message).1.held)
    (goesOn : next.consumer? tag = some receiver → effects.messagesTo receiver = Dealing.thread tag dealings)
    (left : next.consumer? tag = if tag = other then none else slot.consumer? tag) :
    ({ messages := (slot.consumer? other).toList.map fun receiver => (receiver, message) } : Effects α).messagesTo
        receiver ++ effects.messagesTo receiver
      = if other = tag then [message] else Dealing.thread tag dealings := by
  obtain ⟨heldOnce, _, apart⟩ := List.nodup_append'.mp once
  rw [Slot.toldUnder, if_congr (Slot.consumerOnce has heldOnce) rfl rfl]
  by_cases same : other = tag
  · subst same
    have unheld : receiver ∉ next.held := held ▸ Slot.endGone has heldOnce message
    have unbrought := apart (List.mem_append_left _ (Slot.consumerReceives has))
    rw [if_pos rfl, if_pos rfl, later.gone unheld unbrought, List.append_nil]
  · rw [if_neg same, if_neg same, List.nil_append, goesOn (by rw [left, if_neg (Ne.symm same), has])]

theorem thread (course : Course id channel connection slot dealings last effects)
    (has : slot.consumer? tag = some receiver) (once : (slot.held ++ Dealing.brought dealings).Nodup) :
    effects.messagesTo receiver = Dealing.thread tag dealings := by
  induction course with
  | done => rfl
  | @more connection slot next _ dealing rest effects _ serving dealt later ih =>
    have still := once.sublist (dealt.fewer rest)
    have heldOnce : slot.held.Nodup := once.sublist (List.sublist_append_left ..)
    rw [Effects.messagesToAnd]
    cases dealt with
    | answered role | raised role | unread role =>
      rw [ih has still]
      simp [Dealing.thread, role, Effects.messagesTo]
    | @started _ other _ role expected unused =>
      have differs : tag ≠ other := fun same => by simp [← same, has] at unused
      rw [ih (by rw [Slot.consumerAppended slot tag other _ unused, if_neg differs, has]) still]
      simp [Dealing.thread, role]
    | @stopped _ other role =>
      simp only [Dealing.thread, role]
      exact later.ended has once rfl (fun here => ih here still) (Slot.consumerFiltered slot tag other)
    | @cancelled _ other role =>
      simp only [Dealing.thread, role]
      exact later.ended has once rfl (fun here => ih here still) (Slot.consumerFiltered slot tag other)
    | @delivered _ other _ role =>
      rw [ih has still, Slot.toldUnder, if_congr (Slot.consumerOnce has heldOnce) rfl rfl]
      simp only [Dealing.thread, role]
      split <;> rfl
    | asked | learnt | listened | unlistened =>
      rw [ih has still]
      rfl

theorem announced (course : Course id channel connection slot dealings last effects) :
    effects.notices = Dealing.announced slot.listeners dealings := by
  induction course with
  | done => rfl
  | more serving dealt later ih =>
    cases dealt with
    | answered role | started role | stopped role | cancelled role | delivered role | raised role | unread role =>
      simp [Effects.and, ih, Dealing.announced, role]
    | asked | learnt | listened | unlistened => simp [Effects.and, ih, Dealing.announced]

theorem replies (course : Course id channel connection slot dealings last effects) :
    ∃ taken, taken ++ last.replies = slot.replies ++ (Dealing.answers dealings).map .ok ∧
      connection.results id channel dealings = List.zipWith outcome (Dealing.concluded dealings) taken ∧
      taken.length = (Dealing.concluded dealings).length := by
  induction course with
  | done => exact ⟨[], by simp [Dealing.answers], rfl, rfl⟩
  | more serving dealt later ih =>
    obtain ⟨taken, order, made, count⟩ := ih
    cases dealt with
    | @answered command role | @started command _ _ role | @stopped command _ role =>
      have asked : command.isAnswer = true := by rw [← command.roleAnswers, role]; rfl
      exact ⟨taken, by simp [order, Dealing.answers, asked], made, count⟩
    | @cancelled command _ role | @delivered command _ _ role | @raised command _ role | @unread command role =>
      have unasked : command.isAnswer = false := by rw [← command.roleAnswers, role]; rfl
      exact ⟨taken, by simp [order, Dealing.answers, unasked], made, count⟩
    | asked | listened | unlistened => exact ⟨taken, order, made, count⟩
    | @learnt request reply rest _ waiting =>
      refine ⟨reply :: taken, ?_, ?_, congrArg Nat.succ count⟩
      · rw [waiting]
        exact congrArg (reply :: ·) order
      · have took := learnsOutcome request serving.there waiting
        exact congrArg₂ List.cons took made

end Course

structure Threaded (id : SlotId) (channel : UInt16) (connection : Connection α) (slot : Slot α)
    (dealings : List (Dealing α)) (receiver : ReceiverId) (heard : List ConsumerMessage) : Prop where
  -- It has a consumer from the start.
  before : ∀ tag, slot.consumer? tag = some receiver → heard = Dealing.thread tag dealings
  -- It is expected when the server confirms a consumer.
  started : ∀ early command tag late, dealings = early ++ .arrives command :: late → command.role = .started tag →
    expectedAt id (connection.dealAll id channel early) = some receiver → heard = Dealing.thread tag late
  neither : (∀ tag, slot.consumer? tag ≠ some receiver) →
    (∀ early command tag late, dealings = early ++ .arrives command :: late → command.role = .started tag →
      expectedAt id (connection.dealAll id channel early) ≠ some receiver) → heard = []

theorem Course.threaded (course : Course id channel connection slot dealings last effects)
    (once : (slot.held ++ Dealing.brought dealings).Nodup) :
    Threaded id channel connection slot dealings receiver (effects.messagesTo receiver) where
  before _ has := course.thread has once
  started := by
    rintro early command tag late rfl role expected
    obtain ⟨middle, next, _, _, _, earlier, dealt, further, there, rfl⟩ := course.split
    have awaits : middle.expected = some receiver := by
      unfold expectedAt at expected
      rwa [there] at expected
    have sofar : (slot.held ++ Dealing.brought early).Nodup := once.sublist <|
      (List.Sublist.refl _).append (Slot.broughtAppend early _ ▸ List.sublist_append_left ..)
    have after := (once.sublist (earlier.fewer _)).sublist (dealt.fewer late)
    obtain ⟨other, expects, has, _, rfl⟩ := dealt.startedSource role
    cases expects.symm.trans awaits
    rw [Effects.messagesToAnd, Effects.messagesToAnd, earlier.awaited awaits sofar, further.thread has after]
    rfl
  neither without never := course.silent without never

/- Every command that comes in on an open channel goes to one place, in order: the k-th call that takes a reply takes
the k-th answer; a handler hears the deliveries to its consumer and its end, and listeners hear what is for them. -/
theorem commandsReachOnePlace (dealings : List (Dealing α)) (foreign : channel ≠ 0)
    (numbered : connection.ids.get? channel = some id) (there : connection.slot? id = some slot)
    (isOpen : slot.closed = none) (kept : slot.dropped = false) (smooth : connection.Smooth id channel dealings) :
    ∃ last effects, (connection.dealAll id channel dealings).slot? id = some last ∧
      (connection.dealAll id channel dealings).effects = connection.effects.and effects ∧
      (∃ taken, taken ++ last.replies = slot.replies ++ (Dealing.answers dealings).map .ok ∧
        connection.results id channel dealings = List.zipWith outcome (Dealing.concluded dealings) taken ∧
        taken.length = (Dealing.concluded dealings).length) ∧
      ((slot.held ++ Dealing.brought dealings).Nodup → ∀ receiver,
        Threaded id channel connection slot dealings receiver (effects.messagesTo receiver)) ∧
      effects.notices = Dealing.announced slot.listeners dealings := by
  have alone : ∀ other, connection.ids.get? channel = some other → other = id := fun other held =>
    Option.some.inj (held.symm.trans numbered)
  obtain ⟨last, effects, course, found, gathered⟩ := smoothCourse foreign ⟨there, isOpen, kept, alone⟩ smooth
  exact ⟨last, effects, found, gathered, course.replies, fun once receiver => course.threaded once, course.announced⟩

def expectant : Connection Nat where
  ids := { held := ({} : Std.TreeMap UInt16 SlotId).insert 1 0, max := 1 }
  slots := [{ number := 1, expected := some 7, listeners := { confirm := (Registry.add {} 5).2 } }]

def command (method : Method) : Assembler := { state := .complete, method := some method }

def eventful : List (Dealing Nat) :=
  [.arrives (command ⟨.basicConsumeOk, ("a", ())⟩),
   .arrives (command ⟨.basicDeliver, ("a", (1 : UInt64), (false, ()), "x", "k", ())⟩),
   .learns (.consume { tag := "a", queue := "q", options := {}, receiver := 7 }),
   .arrives (command ⟨.basicAck, ((1 : UInt64), (false, ()), ())⟩),
   .arrives (command ⟨.basicCancel, ("a", (true, ()), ())⟩),
   .arrives (command ⟨.queuePurgeOk, ((3 : UInt32), ())⟩),
   .learns (.purgeQueue "q")]

theorem eventfulSmooth : expectant.Smooth 0 1 eventful :=
  ⟨rfl, ⟨_, rfl, rfl⟩, rfl, ⟨_, rfl, rfl⟩, ⟨_, rfl, List.cons_ne_nil _ _⟩, ⟨_, rfl, rfl⟩, rfl, ⟨_, rfl, rfl⟩, rfl,
    ⟨_, rfl, rfl⟩, rfl, ⟨_, rfl, rfl⟩, ⟨_, rfl, List.cons_ne_nil _ _⟩, ⟨_, rfl, rfl⟩, trivial⟩

theorem eventfulSorted : ∃ effects, (expectant.dealAll 0 1 eventful).effects = expectant.effects.and effects ∧
    effects.messagesTo 7 = Dealing.thread "a" eventful.tail ∧
    effects.notices = [(5, .confirm ⟨true, 1, false⟩)] ∧
    expectant.results 0 1 eventful = [.ok (.started "a"), .ok (.counted 3)] := by
  obtain ⟨_, effects, _, gathered, _, handlers, listeners⟩ :=
    commandsReachOnePlace eventful (by decide) rfl rfl rfl rfl eventfulSmooth
  have threaded := handlers (by decide) 7
  exact ⟨effects, gathered, threaded.started [] _ "a" _ rfl rfl rfl, listeners, rfl⟩

end Connection

end AmqpClient
