import AmqpClient.Proofs.Recovery.Viewing
import AmqpClient.Proofs.Recovery.Attending
import AmqpClient.Proofs.Registry

/-! Whom a recovering channel passes events on to. Channels that it was attached to once tell it of their events
ever after; it listens to the last one only. A chronicle of all that happens shows what its listeners must have
heard, and that is what they heard. -/
namespace AmqpClient

abbrev Relay (η : Type) := List (η × Generation) → η → List Generation

namespace Relay

variable {η : Type} [DecidableEq η]

def every : Relay η := fun attached delegate => (attached.filter fun entry => entry.1 = delegate).map Prod.snd

def last : Relay η := fun attached delegate =>
  match attached.getLast? with
  | some (present, generation) => if delegate = present then [generation] else []
  | none => []

end Relay

/- The same link, where delegates raise events of their own, and what they are attached to is told of them. -/
def Link.wired {ω η κ : Type} (link : Link ω η κ) (emitted : ω → List (η × ChannelEvent) × ω) (relay : Relay η) :
    Link (ω × List (η × Generation)) η κ where
  connect world := ((link.connect world.1).1, (link.connect world.1).2, world.2)
  openChannel connection number world :=
    ((link.openChannel connection number world.1).1, (link.openChannel connection number world.1).2, world.2)
  attach delegate generation world :=
    (link.attach delegate generation world.1, world.2 ++ [(delegate, generation)])
  request delegate request world :=
    ((link.request delegate request world.1).1, (link.request delegate request world.1).2, world.2)
  dropChannel delegate world := (link.dropChannel delegate world.1, world.2)
  dropConnection connection world := (link.dropConnection connection world.1, world.2)
  tell receiver message world := (link.tell receiver message world.1, world.2)
  hear listener notice world := ((link.hear listener notice world.1).1, (link.hear listener notice world.1).2, world.2)
  raised world :=
    ((emitted world.1).1.flatMap fun raised => (relay world.2 raised.1).map fun generation => (generation, raised.2),
      (emitted world.1).2, world.2)

inductive Mark (η κ : Type)
  | connected (connection : κ)
  | attached (delegate : η) (generation : Generation)
  | dropped (delegate : η)
  | hungUp (connection : κ)
  | raised (delegate : η) (event : ChannelEvent)
  | heard (listener : Listener) (event : ChannelEvent)
  | listened (kind : EventKind) (listener : Listener)
  | unlistened (kind : EventKind) (id : ListenerId)

namespace Mark

variable {η κ : Type}

def attachment? : Mark η κ → Option (η × Generation)
  | attached delegate generation => some (delegate, generation)
  | _ => none

def hearing? : Mark η κ → Option (Listener × ChannelEvent)
  | heard listener event => some (listener, event)
  | _ => none

def ofAnswer : Except Error κ → List (Mark η κ)
  | .ok connection => [connected connection]
  | .error _ => []

def ofNotice (listener : Listener) : Notice → List (Mark η κ)
  | .channel event => [heard listener event]
  | _ => []

def ofHearings (hearings : List (Listener × ChannelEvent)) : List (Mark η κ) :=
  hearings.map fun hearing => heard hearing.1 hearing.2

def ofEvents (events : List (η × ChannelEvent)) : List (Mark η κ) :=
  events.map fun event => raised event.1 event.2

theorem hearingsAttach (hearings : List (Listener × ChannelEvent)) :
    (ofHearings hearings : List (Mark η κ)).filterMap attachment? = [] := by
  simp [ofHearings, attachment?]

theorem hearingsHeard (hearings : List (Listener × ChannelEvent)) :
    (ofHearings hearings : List (Mark η κ)).filterMap hearing? = hearings := by
  simp [ofHearings, List.filterMap_map, Function.comp_def, hearing?]

theorem eventsAttach (events : List (η × ChannelEvent)) :
    (ofEvents events : List (Mark η κ)).filterMap attachment? = [] := by
  simp [ofEvents, attachment?]

theorem eventsHeard (events : List (η × ChannelEvent)) :
    (ofEvents events : List (Mark η κ)).filterMap hearing? = [] := by
  simp [ofEvents, hearing?]

end Mark

abbrev Chronicle (η κ : Type) := List (Mark η κ)

def Link.chronicled {ω η κ : Type} (link : Link ω η κ) (emitted : ω → List (η × ChannelEvent) × ω) (relay : Relay η) :
    Link ((ω × List (η × Generation)) × Chronicle η κ) η κ where
  connect world :=
    let (answer, next) := (link.wired emitted relay).connect world.1
    (answer, next, world.2 ++ Mark.ofAnswer answer)
  openChannel connection number world :=
    let (answer, next) := (link.wired emitted relay).openChannel connection number world.1
    (answer, next, world.2)
  attach delegate generation world :=
    ((link.wired emitted relay).attach delegate generation world.1, world.2 ++ [.attached delegate generation])
  request delegate request world :=
    let (answer, next) := (link.wired emitted relay).request delegate request world.1
    (answer, next, world.2)
  dropChannel delegate world :=
    ((link.wired emitted relay).dropChannel delegate world.1, world.2 ++ [.dropped delegate])
  dropConnection connection world :=
    ((link.wired emitted relay).dropConnection connection world.1, world.2 ++ [.hungUp connection])
  tell receiver message world := ((link.wired emitted relay).tell receiver message world.1, world.2)
  hear listener notice world :=
    let (answer, next) := (link.wired emitted relay).hear listener notice world.1
    (answer, next, world.2 ++ Mark.ofNotice listener notice)
  raised world :=
    let (events, next) := (link.wired emitted relay).raised world.1
    (events, next, world.2 ++ Mark.ofEvents (emitted world.1.1).1)

theorem Link.chronicledCarries {ω η κ : Type} (link : Link ω η κ) (emitted : ω → List (η × ChannelEvent) × ω)
    (relay : Relay η) : (link.chronicled emitted relay).Carries Prod.fst (link.wired emitted relay) :=
  ⟨fun _ => rfl, fun _ _ _ => rfl, fun _ _ _ => rfl, fun _ _ _ => rfl, fun _ _ => rfl, fun _ _ => rfl,
    fun _ _ _ => rfl, fun _ _ _ => rfl, fun _ => rfl⟩

/- What a chronicle comes to. Every event of the delegate attached last must be heard by all who are registered
then, in the order in which they were; no other event by anyone. -/
structure Standing (η κ : Type) where
  listeners : ChannelListeners Listener := {}
  -- a connection that has no delegate yet
  ahead : Option κ := none
  connection : Option κ := none
  delegate : Option η := none
  formerConnection : Option κ := none
  formerDelegate : Option η := none
  owed : List (Listener × ChannelEvent) := []
  -- whether anything in use was dropped before it was replaced
  untimely : Bool := false

namespace Standing

variable {η κ : Type} [DecidableEq η] [DecidableEq κ]

def enter (standing : Standing η κ) : Mark η κ → Standing η κ
  | .connected connection => { standing with ahead := some connection }
  | .attached delegate _ =>
    { standing with
      ahead := none, connection := standing.ahead, delegate := some delegate,
      formerConnection := standing.connection, formerDelegate := standing.delegate }
  | .dropped delegate =>
    if standing.formerDelegate = some delegate then standing else { standing with untimely := true }
  | .hungUp connection =>
    if standing.ahead = some connection then { standing with ahead := none }
    else if standing.formerConnection = some connection then standing
    else { standing with untimely := true }
  | .raised delegate event =>
    if standing.delegate = some delegate then
      { standing with owed := standing.owed ++ standing.listeners.notices event }
    else standing
  | .heard .. => standing
  | .listened kind listener => { standing with listeners := (standing.listeners.add kind listener).2 }
  | .unlistened kind id => { standing with listeners := (standing.listeners.remove kind id).2 }

def of (chronicle : Chronicle η κ) : Standing η κ := chronicle.foldl enter {}

theorem ofAppend (chronicle more : Chronicle η κ) : of (chronicle ++ more) = more.foldl enter (of chronicle) :=
  List.foldl_append

theorem enterEvents (events : List (η × ChannelEvent)) (standing : Standing η κ) :
    (Mark.ofEvents events).foldl enter standing
      = { standing with
          owed := standing.owed ++ events.flatMap fun raised =>
            if standing.delegate = some raised.1 then standing.listeners.notices raised.2 else [] } := by
  induction events generalizing standing with
  | nil => simp [Mark.ofEvents]
  | cons raised events ih =>
    rw [Mark.ofEvents, List.map_cons, List.foldl_cons, ← Mark.ofEvents, ih, List.flatMap_cons]
    by_cases present : standing.delegate = some raised.1 <;> simp [enter, present]

theorem enterHearings (hearings : List (Listener × ChannelEvent)) (standing : Standing η κ) :
    (Mark.ofHearings hearings).foldl enter standing = standing := by
  rw [Mark.ofHearings, List.foldl_map]
  exact List.foldl_fixed' (fun _ => rfl) hearings

end Standing

abbrev ChronicledChannel (ω η κ : Type) := RecoveringChannel ((ω × List (η × Generation)) × Chronicle η κ) η κ

def RecoveringChannel.chronicle {ω η κ : Type} (self : ChronicledChannel ω η κ) : Chronicle η κ := self.world.2

def RecoveringChannel.attachings {ω η κ : Type} (self : ChronicledChannel ω η κ) : List (η × Generation) :=
  self.world.1.2

namespace ChronicledChannel

variable {ω η κ : Type}

structure Stays (before after : ChronicledChannel ω η κ) : Prop where
  attachings : after.attachings = before.attachings
  generation : after.generation = before.generation
  delegate : after.delegate = before.delegate
  connection : after.connection = before.connection
  listeners : after.listeners = before.listeners

theorem Stays.refl (self : ChronicledChannel ω η κ) : Stays self self := ⟨rfl, rfl, rfl, rfl, rfl⟩

theorem Stays.trans {before middle after : ChronicledChannel ω η κ} (one : Stays before middle)
    (two : Stays middle after) : Stays before after :=
  ⟨two.attachings.trans one.attachings, two.generation.trans one.generation, two.delegate.trans one.delegate,
    two.connection.trans one.connection, two.listeners.trans one.listeners⟩

variable [DecidableEq η] [DecidableEq κ]

/- The channel was attached to each of its delegates once, one generation after the other; its listeners are
those of the chronicle, and have heard what they must have heard by it. -/
structure Abreast (ahead : Option κ) (channel : ChronicledChannel ω η κ) : Prop where
  attached : channel.chronicle.filterMap Mark.attachment? = channel.attachings
  numbered : channel.attachings.map Prod.snd = List.range' 1 channel.generation
  latest : channel.attachings.getLast? = some (channel.delegate, channel.generation)
  delegate : (Standing.of channel.chronicle).delegate = some channel.delegate
  connection : (Standing.of channel.chronicle).connection = some channel.connection
  ahead : (Standing.of channel.chronicle).ahead = ahead
  timely : (Standing.of channel.chronicle).untimely = false
  listeners : (Standing.of channel.chronicle).listeners = channel.listeners
  inTurn : channel.listeners.InTurn
  heard : channel.chronicle.filterMap Mark.hearing? = (Standing.of channel.chronicle).owed

def hearings (self : ChronicledChannel ω η κ) (events : List (η × ChannelEvent)) : List (Listener × ChannelEvent) :=
  events.flatMap fun raised => if raised.1 = self.delegate then self.listeners.notices raised.2 else []

theorem Abreast.grown {ahead later : Option κ} {before after : ChronicledChannel ω η κ}
    (abreast : Abreast ahead before) (stays : Stays before after) (more : Chronicle η κ)
    (grown : after.chronicle = before.chronicle ++ more) (unattached : more.filterMap Mark.attachment? = [])
    (standing : more.foldl Standing.enter (Standing.of before.chronicle)
      = { Standing.of before.chronicle with
          ahead := later, owed := (Standing.of before.chronicle).owed ++ more.filterMap Mark.hearing? }) :
    Abreast later after := by
  rw [← Standing.ofAppend, ← grown] at standing
  refine ⟨?_, ?_, ?_, ?_, ?_, ?_, ?_, ?_, stays.listeners ▸ abreast.inTurn, ?_⟩
  · rw [grown, List.filterMap_append, unattached, List.append_nil, stays.attachings, abreast.attached]
  · rw [stays.attachings, stays.generation, abreast.numbered]
  · rw [stays.attachings, stays.delegate, stays.generation, abreast.latest]
  · rw [standing, stays.delegate, abreast.delegate]
  · rw [standing, stays.connection, abreast.connection]
  · rw [standing]
  · rw [standing, abreast.timely]
  · rw [standing, stays.listeners, abreast.listeners]
  · rw [standing, grown, List.filterMap_append, abreast.heard]

theorem Abreast.told {ahead : Option κ} {before after : ChronicledChannel ω η κ} (abreast : Abreast ahead before)
    (stays : Stays before after) (events : List (η × ChannelEvent))
    (grown : after.chronicle
      = before.chronicle ++ (Mark.ofEvents events ++ Mark.ofHearings (before.hearings events))) :
    Abreast ahead after := by
  have meant : before.hearings events = events.flatMap fun raised =>
      if (Standing.of before.chronicle).delegate = some raised.1 then
        (Standing.of before.chronicle).listeners.notices raised.2 else [] := by
    simp only [hearings, abreast.delegate, abreast.listeners, Option.some.injEq, eq_comm]
  refine abreast.grown stays _ grown ?_ ?_
  · rw [List.filterMap_append, Mark.eventsAttach, Mark.hearingsAttach, List.append_nil]
  · rw [List.foldl_append, Standing.enterHearings, Standing.enterEvents, ← meant, List.filterMap_append,
      Mark.eventsHeard, Mark.hearingsHeard, List.nil_append, abreast.ahead.symm]

theorem Abreast.still {ahead : Option κ} {before after : ChronicledChannel ω η κ} (abreast : Abreast ahead before)
    (stays : Stays before after) (same : after.chronicle = before.chronicle) : Abreast ahead after :=
  abreast.told stays [] (same.trans (by simp [Mark.ofEvents, Mark.ofHearings, hearings]))

/- Generations are never used again, so the last attaching is all that makes a difference. -/
theorem Abreast.everyPresent {ahead : Option κ} {self : ChronicledChannel ω η κ} (abreast : Abreast ahead self)
    (delegate : η) :
    (Relay.every self.attachings delegate).filter (· = self.generation) = Relay.last self.attachings delegate ∧
      Relay.last self.attachings delegate = if delegate = self.delegate then [self.generation] else [] := by
  obtain ⟨earlier, attachings⟩ := List.getLast?_eq_some_iff.mp abreast.latest
  have older : ∀ generation ∈ earlier.map Prod.snd, generation ≠ self.generation := by
    have numbered := abreast.numbered
    have apart : ((earlier ++ [(self.delegate, self.generation)]).map Prod.snd).Nodup :=
      attachings ▸ numbered ▸ List.nodup_range'
    rw [List.map_append, List.map_singleton, List.nodup_append] at apart
    exact fun generation member => apart.2.2 generation member _ (List.mem_singleton_self _)
  have gone : (Relay.every earlier delegate).filter (· = self.generation) = [] := by
    refine List.filter_eq_nil_iff.mpr fun generation member => ?_
    obtain ⟨entry, found, rfl⟩ := List.mem_map.mp member
    simpa using older entry.2 (List.mem_map_of_mem (List.mem_filter.mp found).1)
  have last : Relay.last self.attachings delegate = if delegate = self.delegate then [self.generation] else [] := by
    rw [Relay.last, abreast.latest]
  have split : Relay.every self.attachings delegate
      = Relay.every earlier delegate ++ if delegate = self.delegate then [self.generation] else [] := by
    rw [attachings, Relay.every, List.filter_append, List.map_append, ← Relay.every]
    by_cases present : delegate = self.delegate
    · simp [present]
    · simp [present, Ne.symm present]
  refine ⟨?_, last⟩
  rw [last, split, List.filter_append, gone, List.nil_append]
  split <;> simp

end ChronicledChannel

namespace RecoveringChannel

theorem handleAllPresent {ω η κ : Type} (link : Link ω η κ) (events : List (Generation × ChannelEvent))
    (self : RecoveringChannel ω η κ) :
    events.foldl (handle link) self
      = (events.filter fun raised => raised.1 = self.generation).foldl (handle link) self := by
  induction events generalizing self with
  | nil => rfl
  | cons raised events ih =>
    have same : (self.handle link raised).generation = self.generation := (handleAttended link self raised).generation
    rw [List.foldl_cons, ih, same]
    by_cases present : raised.1 = self.generation
    · rw [List.filter_cons_of_pos (by simpa using present), List.foldl_cons]
    · rw [List.filter_cons_of_neg (by simpa using present), handle, if_neg present]

end RecoveringChannel

namespace ChronicledChannel

variable {ω η κ : Type} (link : Link ω η κ) (emitted : ω → List (η × ChannelEvent) × ω)

theorem notifyChronicle (relay : Relay η) (view : ChronicledChannel ω η κ → Registry Listener) (notice : Notice)
    (self : ChronicledChannel ω η κ) :
    (self.notify (link.chronicled emitted relay) view notice).attachings = self.attachings ∧
      (self.notify (link.chronicled emitted relay) view notice).chronicle
        = self.chronicle ++ (view self).listeners.flatMap fun listener => Mark.ofNotice listener notice := by
  have told (listeners : List Listener) (start : ChronicledChannel ω η κ) :
      let after := listeners.foldl (fun self listener =>
        { self with world := ((link.chronicled emitted relay).hear listener notice self.world).2 }) start
      after.attachings = start.attachings ∧
        after.chronicle = start.chronicle ++ listeners.flatMap fun listener => Mark.ofNotice listener notice := by
    induction listeners generalizing start with
    | nil => exact ⟨rfl, (List.append_nil _).symm⟩
    | cons listener listeners ih =>
      refine ⟨(ih _).1, (ih _).2.trans ?_⟩
      rw [List.flatMap_cons, ← List.append_assoc]
      rfl
  exact told (view self).listeners self

theorem notifyStays (relay : Relay η) (view : ChronicledChannel ω η κ → Registry Listener) (notice : Notice)
    (self : ChronicledChannel ω η κ) : Stays self (self.notify (link.chronicled emitted relay) view notice) := by
  have attachings := (notifyChronicle link emitted relay view notice self).1
  obtain ⟨world, same⟩ := RecoveringChannel.notifyWorld (link.chronicled emitted relay) view notice self
  refine ⟨attachings, ?_, ?_, ?_, ?_⟩ <;> rw [same]

theorem handleChronicle (relay : Relay η) (self : ChronicledChannel ω η κ) (raised : Generation × ChannelEvent) :
    Stays self (self.handle (link.chronicled emitted relay) raised) ∧
      (self.handle (link.chronicled emitted relay) raised).chronicle = self.chronicle ++ Mark.ofHearings
        (if raised.1 = self.generation then self.listeners.notices raised.2 else []) := by
  obtain ⟨generation, event⟩ := raised
  unfold RecoveringChannel.handle
  by_cases present : generation = self.generation
  · have stays : Stays self (self.announce (link.chronicled emitted relay) event) :=
      notifyStays link emitted relay _ _ self
    have told : (self.announce (link.chronicled emitted relay) event).chronicle
        = self.chronicle ++ Mark.ofHearings (self.listeners.notices event) := by
      refine (notifyChronicle link emitted relay _ _ self).2.trans (congrArg (self.chronicle ++ ·) ?_)
      rw [Mark.ofHearings, ChannelListeners.notices, List.map_map]
      exact (List.map_eq_flatMap ..).symm
    rw [if_pos present, if_pos present]
    cases event with
    | shutdown signal =>
      obtain ⟨status, due, same⟩ :=
        RecoveringChannel.afterShutdownElse (self.announce (link.chronicled emitted relay) (.shutdown signal)) signal
      dsimp only
      rw [same]
      exact ⟨⟨stays.attachings, stays.generation, stays.delegate, stays.connection, stays.listeners⟩, told⟩
    | returned | confirm | flow => exact ⟨stays, told⟩
  · rw [if_neg present, if_neg present]
    exact ⟨.refl self, (List.append_nil _).symm⟩

theorem handleAllChronicle (relay : Relay η) (events : List (Generation × ChannelEvent))
    (self : ChronicledChannel ω η κ) :
    Stays self (events.foldl (RecoveringChannel.handle (link.chronicled emitted relay)) self) ∧
      (events.foldl (RecoveringChannel.handle (link.chronicled emitted relay)) self).chronicle
        = self.chronicle ++ Mark.ofHearings (events.flatMap fun raised =>
            if raised.1 = self.generation then self.listeners.notices raised.2 else []) := by
  induction events generalizing self with
  | nil => exact ⟨.refl self, (List.append_nil _).symm⟩
  | cons raised events ih =>
    obtain ⟨stays, told⟩ := handleChronicle link emitted relay self raised
    obtain ⟨later, rest⟩ := ih (self.handle (link.chronicled emitted relay) raised)
    refine ⟨stays.trans later, ?_⟩
    rw [List.foldl_cons, rest, told, stays.generation, stays.listeners, List.flatMap_cons, List.append_assoc]
    simp only [Mark.ofHearings, List.map_append]

theorem attendChronicle (relay : Relay η) (self : ChronicledChannel ω η κ) :
    ∃ hearings, (self.attend (link.chronicled emitted relay)).chronicle
      = self.chronicle ++ (Mark.ofEvents (emitted self.world.1.1).1 ++ Mark.ofHearings hearings) :=
  ⟨_, (handleAllChronicle link emitted relay ((link.chronicled emitted relay).raised self.world).1
    { self with world := ((link.chronicled emitted relay).raised self.world).2 }).2.trans (List.append_assoc ..)⟩

variable [DecidableEq η] [DecidableEq κ]

def Follows (ahead : Option κ) (one other : ChronicledChannel ω η κ) : Prop := one = other ∧ Abreast ahead one

def Concurs {β : Type} (one other : β × ChronicledChannel ω η κ) : Prop := one = other ∧ Abreast none one.2

theorem attendFollows {ahead : Option κ} {self : ChronicledChannel ω η κ} (abreast : Abreast ahead self) :
    Follows ahead (self.attend (link.chronicled emitted Relay.every))
      (self.attend (link.chronicled emitted Relay.last)) := by
  -- both relays tell the present generation the same
  have relayed (raised : η × ChannelEvent) :
      ((Relay.every self.attachings raised.1).map fun generation => (generation, raised.2)).filter
          (fun told => told.1 = self.generation)
        = (Relay.last self.attachings raised.1).map fun generation => (generation, raised.2) := by
    rw [List.filter_map]
    exact congrArg _ (abreast.everyPresent raised.1).1
  have same : self.attend (link.chronicled emitted Relay.every) = self.attend (link.chronicled emitted Relay.last) := by
    unfold RecoveringChannel.attend
    dsimp only [Link.chronicled, Link.wired]
    rw [RecoveringChannel.handleAllPresent, List.filter_flatMap]
    exact congrArg (List.foldl _ _) (List.flatMap_congr fun raised _ => relayed raised)
  have meant (raised : η × ChannelEvent) :
      ((Relay.last self.attachings raised.1).map fun generation => (generation, raised.2)).flatMap
          (fun told => if told.1 = self.generation then self.listeners.notices told.2 else [])
        = if raised.1 = self.delegate then self.listeners.notices raised.2 else [] := by
    rw [(abreast.everyPresent raised.1).2]
    split <;> simp
  obtain ⟨stays, told⟩ := handleAllChronicle link emitted Relay.last
    ((link.chronicled emitted Relay.last).raised self.world).1
    { self with world := ((link.chronicled emitted Relay.last).raised self.world).2 }
  refine ⟨same, same ▸ abreast.told ⟨stays.attachings, stays.generation, stays.delegate, stays.connection,
    stays.listeners⟩ (emitted self.world.1.1).1 (told.trans ((List.append_assoc ..).trans (congrArg _ ?_)))⟩
  dsimp only [Link.chronicled, Link.wired]
  rw [List.flatMap_assoc]
  exact congrArg _ (congrArg Mark.ofHearings (List.flatMap_congr fun raised _ => meant raised))

theorem attendStanding (relay : Relay η) (self : ChronicledChannel ω η κ) :
    ∃ owed, Standing.of (self.attend (link.chronicled emitted relay)).chronicle
      = { Standing.of self.chronicle with owed } := by
  obtain ⟨hearings, grown⟩ := attendChronicle link emitted relay self
  have standing := congrArg Standing.of grown
  rw [Standing.ofAppend, List.foldl_append, Standing.enterHearings, Standing.enterEvents] at standing
  exact ⟨_, standing⟩

variable {link emitted}

theorem reopenAbreast {relay : Relay η} {self : ChronicledChannel ω η κ} (abreast : Abreast none self)
    {number : Option UInt16} {answer : Except Error (κ × UInt16 × η)}
    {world : (ω × List (η × Generation)) × Chronicle η κ}
    (reopened : RecoveringChannel.reopen (link.chronicled emitted relay) number self.world = (answer, world)) :
    Abreast (answer.toOption.map Prod.fst) { self with world } := by
  unfold RecoveringChannel.reopen at reopened
  dsimp only [Link.chronicled, Link.wired] at reopened
  rcases connected : link.connect self.world.1.1 with ⟨e | connection, next⟩ <;> rw [connected] at reopened
  · obtain ⟨rfl, rfl⟩ := Prod.mk.injEq .. ▸ reopened
    exact abreast.still ⟨rfl, rfl, rfl, rfl, rfl⟩ (List.append_nil _)
  · dsimp only at reopened
    rcases opened : link.openChannel connection number next with ⟨e | ⟨number, delegate⟩, last⟩ <;>
      rw [opened] at reopened
    · obtain ⟨rfl, rfl⟩ := Prod.mk.injEq .. ▸ reopened
      refine abreast.grown ⟨rfl, rfl, rfl, rfl, rfl⟩ [.connected connection, .hungUp connection]
        (List.append_assoc ..) rfl ?_
      simp [Standing.enter, Mark.hearing?, Except.toOption]
    · obtain ⟨rfl, rfl⟩ := Prod.mk.injEq .. ▸ reopened
      refine abreast.grown ⟨rfl, rfl, rfl, rfl, rfl⟩ [.connected connection] rfl rfl ?_
      simp [Standing.enter, Mark.hearing?, Except.toOption]

end ChronicledChannel

end AmqpClient
