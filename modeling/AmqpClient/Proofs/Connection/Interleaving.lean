import AmqpClient.Proofs.Connection.Acts

/-! Channels keep apart. What frames of other channels come in between, and where heartbeats do, makes no difference to
a channel. -/
namespace AmqpClient

def Frame.belongs (channel : UInt16) (frame : Frame) : Bool := frame.kind != .heartbeat && frame.channel == channel

namespace Effects

variable {α : Type}

def since (earlier later : Effects α) : Effects α where
  messages := later.messages.drop earlier.messages.length
  notices := later.notices.drop earlier.notices.length

@[simp] theorem sinceAnd (effects more : Effects α) : effects.since (effects.and more) = more := by
  simp [since, Effects.and]

@[simp] theorem sinceSelf (effects : Effects α) : effects.since effects = {} := by simp [since]

def all (many : List (Effects α)) : Effects α := many.foldr and {}

end Effects

theorem Role.deedsBring {α : Type} (channel : UInt16) (command : Assembler) (role : Role) :
    ∀ deed ∈ (role.deeds channel command : List (Deed α)),
      deed.brings = [] ∧ ∀ kind listener, deed ≠ .listen kind listener := by
  cases role <;> simp [Role.deeds, Deed.brings]

namespace Connection

variable {α : Type} {channel : UInt16} {frame : Frame} {connection after one other oneAfter otherAfter : Connection α}

def receiveAll (connection : Connection α) : List Frame → Except Error Unit × Connection α
  | [] => (.ok (), connection)
  | frame :: rest =>
    match connection.receive frame with
    | (.error reason, next) => (.error reason, next)
    | (.ok (), next) => next.receiveAll rest

def news (connection : Connection α) : List Frame → List (Frame × Effects α)
  | [] => []
  | frame :: rest =>
    let next := (connection.receive frame).2
    (frame, connection.effects.since next.effects) :: next.news rest

/- What two connections have in common that do not differ for the channel. -/
structure Alike (channel : UInt16) (one other : Connection α) : Prop where
  slots : ∀ id slot, slot.number = channel → (one.slot? id = some slot ↔ other.slot? id = some slot)
  numbered : one.ids.get? channel = other.ids.get? channel
  assembler : one.assembler channel = other.assembler channel
  spill : one.spill = other.spill

namespace Alike

theorem refl (channel : UInt16) (connection : Connection α) : Alike channel connection connection :=
  ⟨fun _ _ _ => Iff.rfl, rfl, rfl, rfl⟩

theorem symm (alike : Alike channel one other) : Alike channel other one :=
  ⟨fun id slot same => (alike.slots id slot same).symm, alike.numbered.symm, alike.assembler.symm, alike.spill.symm⟩

theorem trans {third : Connection α} (first : Alike channel one other) (second : Alike channel other third) :
    Alike channel one third where
  slots id slot same := (first.slots id slot same).trans (second.slots id slot same)
  numbered := first.numbered.trans second.numbered
  assembler := first.assembler.trans second.assembler
  spill := first.spill.trans second.spill

end Alike

theorem assemblerKept (channel : UInt16) (assembler : Assembler) (connection : Connection α) :
    (connection.keep channel assembler).assembler channel = assembler := by
  simp [keep, Connection.assembler]

theorem assemblerForgotten (channel : UInt16) (connection : Connection α) :
    (connection.forget channel).assembler channel = { spill := connection.spill } := by
  have nothing : (connection.assemblers.filter fun entry => entry.1 != channel).find? (fun entry => entry.1 == channel)
      = none := by simp
  simp only [forget, Connection.assembler, nothing]
  rfl

theorem findOther {other : UInt16} (apart : other ≠ channel) (assemblers : List (UInt16 × Assembler)) :
    (assemblers.filter fun entry => entry.1 != channel).find? (fun entry => entry.1 == other)
      = assemblers.find? fun entry => entry.1 == other := by
  rw [List.find?_filter]
  congr 1
  funext entry
  by_cases same : entry.1 = other <;> simp [same, apart]

theorem assemblerForgottenElsewhere {other : UInt16} (apart : other ≠ channel) (connection : Connection α) :
    (connection.forget channel).assembler other = connection.assembler other := by
  simp [forget, Connection.assembler, findOther apart]

theorem assemblerKeptElsewhere {other : UInt16} (apart : other ≠ channel) (assembler : Assembler)
    (connection : Connection α) : (connection.keep channel assembler).assembler other = connection.assembler other := by
  simp [keep, Connection.assembler, findOther apart, Ne.symm apart]

theorem Worked.assembler {ids : ChannelIds SlotId} {log : List (Entry α)} (worked : Worked ids log connection after)
    (channel : UInt16) : after.assembler channel = connection.assembler channel := by
  simp only [Connection.assembler, worked.assemblers, worked.spill]

theorem releaseApart (connection : Connection α) {id : SlotId} {slot : Slot α} (there : connection.slot? id = some slot)
    (apart : slot.number ≠ channel) : (connection.release id).ids.get? channel = connection.ids.get? channel := by
  have found : connection.slots[id]? = some slot := there
  rw [releaseIds, found]
  dsimp only
  split
  · rw [ChannelIds.getRelease, if_neg apart]
  · rfl

/- A frame does something to one slot at most, which has the number of its channel. -/
inductive Touched (frame : Frame) (before after : Connection α) : Prop
  | nothing (slots : after.slots = before.slots) (gathered : after.effects = before.effects)
  | slot {id : SlotId} {slot next : Slot α} {effects : Effects α} (kind : frame.kind ≠ .heartbeat)
      (there : before.slot? id = some slot) (number : slot.number = frame.channel)
      (within : slot.Within next effects) (slots : after.slots = before.slots.set id next)
      (gathered : after.effects = before.effects.and effects)

theorem receiveTouched (seated : Seated connection) (served : connection.receive frame = (.ok (), after)) :
    Touched frame connection after := by
  cases receiveDone served with
  | heartbeat kind same => exact same ▸ .nothing rfl rfl
  | piece kind fed kept => exact kept ▸ .nothing rfl rfl
  | @complete command completes dispatched =>
    cases dispatched with
    | own own worked => exact .nothing worked.logged.slots (worked.logged.effects.trans (Effects.andNone _))
    | foreign foreign numbered known freed worked =>
      obtain ⟨slot, there, number⟩ := seated _ _ numbered
      obtain ⟨slots, gathered⟩ := worked.logged.here there
      have within := slot.performAllWithin (command.role.deedsBring frame.channel command)
      exact .slot completes.1 there number within slots gathered

theorem Touched.apart (touched : Touched frame connection after) (elsewhere : frame.belongs channel = false)
    (id : SlotId) {found : Slot α} (same : found.number = channel) :
    connection.slot? id = some found ↔ after.slot? id = some found := by
  cases touched with
  | nothing slots => rw [slot?, slot?, slots]
  | @slot changed slot next _ kind there number within slots =>
    have other : slot.number ≠ channel := fun same => by simp [Frame.belongs, kind, ← same, number] at elsewhere
    rw [slot?, slot?, slots]
    by_cases moved : changed = id
    · subst moved
      rw [List.getElem?_set_self (List.getElem?_eq_some_iff.mp there).1, Option.some_inj]
      refine ⟨fun here => ?_, fun here => ?_⟩
      · cases here.symm.trans there
        exact absurd same other
      · exact absurd (within.number.symm.trans (here ▸ same)) other
    · rw [List.getElem?_set_ne moved]

theorem receiveElsewhere (seated : Seated connection) (served : connection.receive frame = (.ok (), after))
    (elsewhere : frame.belongs channel = false) : Alike channel connection after := by
  have apart : frame.kind ≠ .heartbeat → channel ≠ frame.channel := fun kind same => by
    simp [Frame.belongs, kind, same] at elsewhere
  have slots : ∀ id (slot : Slot α), slot.number = channel → _ := fun id slot same =>
    (receiveTouched seated served).apart elsewhere id same
  cases receiveDone served with
  | heartbeat kind same => exact same ▸ .refl channel connection
  | piece kind fed kept =>
    subst kept
    exact ⟨slots, rfl, (assemblerKeptElsewhere (apart kind) ..).symm, rfl⟩
  | complete completes dispatched =>
    have apart := apart completes.1
    have forgotten := assemblerForgottenElsewhere apart connection
    cases dispatched with
    | own own worked =>
      refine ⟨slots, congrArg (ChannelIds.get? · channel) worked.ids.symm, ?_, worked.spill.symm⟩
      rw [worked.assembler, forgotten]
    | foreign foreign numbered known freed worked =>
      obtain ⟨slot, there, number⟩ := seated _ _ numbered
      refine ⟨slots, ?_, by rw [worked.assembler, forgotten], worked.spill.symm⟩
      rw [worked.ids, freed]
      split
      · exact (releaseApart (connection.forget frame.channel) there fun same => apart (same.symm.trans number)).symm
      · rfl

theorem dispatchedAlike {command : Assembler} (alike : Alike channel one other) (seated : Seated one)
    (dispatched : Dispatched channel command one oneAfter)
    (alsoDispatched : Dispatched channel command other otherAfter) : Alike channel oneAfter otherAfter ∧
      one.effects.since oneAfter.effects = other.effects.since otherAfter.effects := by
  cases dispatched with
  | own own worked =>
    cases alsoDispatched with
    | foreign foreign => exact absurd own foreign
    | own _ alsoWorked =>
      have slots : oneAfter.slots = one.slots := worked.logged.slots
      have alsoSlots : otherAfter.slots = other.slots := alsoWorked.logged.slots
      refine ⟨⟨?_, ?_, ?_, ?_⟩, ?_⟩
      · simpa [slot?, slots, alsoSlots] using alike.slots
      · rw [worked.ids, alsoWorked.ids, alike.numbered]
      · rw [worked.assembler, alsoWorked.assembler, alike.assembler]
      · rw [worked.spill, alsoWorked.spill, alike.spill]
      · rw [worked.logged.effects, alsoWorked.logged.effects]
        simp [Slot.enterAll]
  | @foreign id _ _ foreign numbered known freed worked =>
    cases alsoDispatched with
    | own own => exact absurd own foreign
    | foreign _ alsoNumbered alsoKnown alsoFreed alsoWorked =>
      cases known.symm.trans alsoKnown
      cases (alike.numbered.symm.trans numbered).symm.trans alsoNumbered
      obtain ⟨slot, there, number⟩ := seated _ _ numbered
      have alsoThere := (alike.slots id slot number).mp there
      obtain ⟨slots, effects⟩ := worked.logged.here there
      obtain ⟨alsoSlots, alsoEffects⟩ := alsoWorked.logged.here alsoThere
      refine ⟨⟨fun place found same => ?_, ?_, ?_, ?_⟩, ?_⟩
      · rw [slot?, slot?, slots, alsoSlots]
        by_cases moved : id = place
        · subst moved
          rw [List.getElem?_set_self (List.getElem?_eq_some_iff.mp there).1,
            List.getElem?_set_self (List.getElem?_eq_some_iff.mp alsoThere).1]
        · rw [List.getElem?_set_ne moved, List.getElem?_set_ne moved]
          exact alike.slots place found same
      · rw [worked.ids, alsoWorked.ids, freed, alsoFreed]
        split
        · rw [releaseIds, releaseIds]
          have found : one.slots[id]? = some slot := there
          have alsoFound : other.slots[id]? = some slot := alsoThere
          simp only [found, alsoFound, number, numbered, alsoNumbered, if_true, ChannelIds.getRelease]
        · exact alike.numbered
      · rw [worked.assembler, alsoWorked.assembler, alike.assembler]
      · rw [worked.spill, alsoWorked.spill, alike.spill]
      · rw [effects, alsoEffects, Effects.sinceAnd, Effects.sinceAnd]

theorem receiveHere (alike : Alike channel one other) (seated : Seated one)
    (served : one.receive frame = (.ok (), oneAfter)) (alsoServed : other.receive frame = (.ok (), otherAfter))
    (here : frame.belongs channel = true) : Alike channel oneAfter otherAfter ∧
      one.effects.since oneAfter.effects = other.effects.since otherAfter.effects := by
  obtain ⟨kind, rfl⟩ : frame.kind ≠ .heartbeat ∧ frame.channel = channel := by simpa [Frame.belongs] using here
  cases receiveDone served with
  | heartbeat heartbeat => exact absurd heartbeat kind
  | piece _ fed kept =>
    cases receiveDone alsoServed with
    | heartbeat heartbeat => exact absurd heartbeat kind
    | piece _ alsoFed alsoKept =>
      rw [← alike.assembler, fed] at alsoFed
      cases alsoFed
      subst kept alsoKept
      refine ⟨⟨alike.slots, alike.numbered, ?_, alike.spill⟩, by simp [keep]⟩
      rw [assemblerKept, assemblerKept]
    | complete completes =>
      have alsoFed := completes.2
      rw [← alike.assembler, fed] at alsoFed
      cases alsoFed
  | complete completes dispatched =>
    have fed := completes.2
    cases receiveDone alsoServed with
    | heartbeat heartbeat => exact absurd heartbeat kind
    | piece _ alsoFed =>
      rw [← alike.assembler, fed] at alsoFed
      cases alsoFed
    | complete alsoCompletes alsoDispatched =>
      have alsoFed := alsoCompletes.2
      rw [← alike.assembler, fed] at alsoFed
      cases alsoFed
      have forgotten : Alike frame.channel (one.forget frame.channel) (other.forget frame.channel) :=
        ⟨alike.slots, alike.numbered, by rw [assemblerForgotten, assemblerForgotten, alike.spill], alike.spill⟩
      have treated := dispatchedAlike forgotten seated dispatched alsoDispatched
      exact treated

inductive Taken : Connection α → List Frame → List (Frame × Effects α) → Connection α → Prop
  | done (connection : Connection α) : Taken connection [] [] connection
  | more {frame : Frame} {rest : List Frame} {before next after : Connection α} {news : List (Frame × Effects α)}
      (served : before.receive frame = (.ok (), next)) (later : Taken next rest news after) :
      Taken before (frame :: rest) ((frame, before.effects.since next.effects) :: news) after

theorem receiveAllTaken {frames : List Frame} (served : (connection.receiveAll frames).1 = .ok ()) :
    Taken connection frames (connection.news frames) (connection.receiveAll frames).2 := by
  induction frames generalizing connection with
  | nil => exact .done connection
  | cons frame rest ih =>
    unfold receiveAll at served ⊢
    split at served
    · cases served
    · rename_i next taken
      unfold news
      rw [taken]
      exact .more taken (ih served)

theorem Touched.number {id : SlotId} {slot : Slot α} (touched : Touched frame connection after)
    (there : connection.slot? id = some slot) : ∃ next, after.slot? id = some next ∧ next.number = slot.number := by
  unfold slot?
  cases touched with
  | nothing slots => exact ⟨slot, slots ▸ there, rfl⟩
  | @slot changed _ next _ _ found number within slots =>
    rw [slots]
    by_cases moved : changed = id
    · subst moved
      cases found.symm.trans there
      exact ⟨next, List.getElem?_set_self (List.getElem?_eq_some_iff.mp there).1, within.number⟩
    · exact ⟨slot, (List.getElem?_set_ne moved).trans there, rfl⟩

structure Sole (channel : UInt16) (receives : ReceiverId → Bool) (heeds : α → Bool) (connection : Connection α) :
    Prop where
  receivers : ∀ id slot, connection.slot? id = some slot → slot.number ≠ channel →
    ∀ receiver ∈ slot.held, receives receiver = false
  listeners : ∀ id slot, connection.slot? id = some slot → slot.number ≠ channel →
    ∀ kind, ∀ listener ∈ (slot.listeners.of kind).listeners, heeds listener = false

variable {receives : ReceiverId → Bool} {heeds : α → Bool}

theorem Touched.sole (touched : Touched frame connection after) (sole : Sole channel receives heeds connection) :
    Sole channel receives heeds after := by
  cases touched with
  | nothing slots =>
    refine ⟨fun id slot there => sole.receivers id slot ?_, fun id slot there => sole.listeners id slot ?_⟩ <;>
    exact (congrArg (·[id]?) slots).symm.trans there
  | @slot changed before next _ _ found _ within slots =>
    have earlier : ∀ id slot, after.slot? id = some slot → slot.number ≠ channel →
        ∃ old, connection.slot? id = some old ∧ old.number ≠ channel ∧ slot.held ⊆ old.held ∧
          ∀ kind listener, listener ∈ (slot.listeners.of kind).listeners →
            listener ∈ (old.listeners.of kind).listeners := by
      intro id slot there other
      rw [slot?, slots] at there
      by_cases moved : changed = id
      · subst moved
        rw [List.getElem?_set_self (List.getElem?_eq_some_iff.mp found).1] at there
        cases there
        exact ⟨before, found, within.number ▸ other, within.held, within.registered⟩
      · rw [List.getElem?_set_ne moved] at there
        exact ⟨slot, there, other, List.Subset.refl _, fun _ _ registered => registered⟩
    constructor
    · intro id slot there other receiver held
      obtain ⟨old, found, apart, fewer, _⟩ := earlier id slot there other
      exact sole.receivers id old found apart receiver (fewer held)
    · intro id slot there other kind listener registered
      obtain ⟨old, found, apart, _, fewer⟩ := earlier id slot there other
      exact sole.listeners id old found apart kind listener (fewer kind listener registered)

theorem Touched.gathered (touched : Touched frame connection after) :
    after.effects = connection.effects.and (connection.effects.since after.effects) := by
  cases touched with
  | nothing _ gathered => simp [gathered]
  | slot _ _ _ _ _ gathered => simp [gathered]

theorem Touched.silent (touched : Touched frame connection after) (sole : Sole channel receives heeds connection)
    (elsewhere : frame.belongs channel = false) :
    (connection.effects.since after.effects).only receives heeds = {} := by
  cases touched with
  | nothing _ gathered => simp [gathered, Effects.only]
  | @slot id slot _ effects kind there number within _ gathered =>
    have other : slot.number ≠ channel := fun same => by simp [Frame.belongs, kind, ← same, number] at elsewhere
    have unheard : effects.messages.filter (fun entry => receives entry.1) = [] :=
      List.filter_eq_nil_iff.mpr fun entry told => by
        simp [sole.receivers id slot there other entry.1 (within.told entry told)]
    have unnoticed : effects.notices.filter (fun notice => heeds notice.1) = [] :=
      List.filter_eq_nil_iff.mpr fun notice heard => by
        simp [sole.listeners id slot there other _ notice.1 (within.heard notice heard)]
    rw [gathered, Effects.sinceAnd, Effects.only, unheard, unnoticed]

theorem receiveSeated (seated : Seated connection) (served : connection.receive frame = (.ok (), after)) :
    Seated after := by
  have settles : Seated (settled (connection.receive frame)) := actSeated seated (.receives frame)
  rwa [served] at settles

namespace Taken

variable {frames others : List Frame} {news otherNews : List (Frame × Effects α)}

theorem number {id : SlotId} {slot : Slot α} (run : Taken connection frames news after) (seated : Seated connection)
    (there : connection.slot? id = some slot) : ∃ last, after.slot? id = some last ∧ last.number = slot.number := by
  induction run generalizing slot with
  | done => exact ⟨slot, there, rfl⟩
  | more served later ih =>
    obtain ⟨middle, found, same⟩ := (receiveTouched seated served).number there
    obtain ⟨last, kept, unchanged⟩ := ih (receiveSeated seated served) found
    exact ⟨last, kept, unchanged.trans same⟩

theorem elsewhere (run : Taken connection frames news after) (seated : Seated connection)
    (without : frames.filter (Frame.belongs channel) = []) :
    Alike channel connection after ∧ news.filter (fun entry => entry.1.belongs channel) = [] := by
  induction run with
  | done => exact ⟨.refl .., rfl⟩
  | @more frame _ _ _ _ _ served later ih =>
    cases own : frame.belongs channel with
    | true => simp [own] at without
    | false =>
      rw [List.filter_cons_of_neg (by simp [own])] at without
      obtain ⟨alike, nothing⟩ := ih (receiveSeated seated served) without
      exact ⟨(receiveElsewhere seated served own).trans alike, by simp [own, nothing]⟩

theorem next {rest : List Frame} (run : Taken connection frames news after) (seated : Seated connection)
    (order : frames.filter (Frame.belongs channel) = frame :: rest) :
    ∃ middle later remaining moreNews, Alike channel connection middle ∧ Seated middle ∧
      middle.receive frame = (.ok (), later) ∧ Taken later remaining moreNews after ∧
      remaining.filter (Frame.belongs channel) = rest ∧
      news.filter (fun entry => entry.1.belongs channel) = (frame, middle.effects.since later.effects)
        :: moreNews.filter fun entry => entry.1.belongs channel := by
  induction run with
  | done => cases order
  | @more first _ _ _ _ _ served further ih =>
    cases own : first.belongs channel with
    | true =>
      rw [List.filter_cons_of_pos own] at order
      cases order
      exact ⟨_, _, _, _, .refl .., seated, served, further, rfl, List.filter_cons_of_pos own⟩
    | false =>
      rw [List.filter_cons_of_neg (by simp [own])] at order
      obtain ⟨middle, later, remaining, moreNews, alike, settled, here, run, left, heard⟩ :=
        ih (receiveSeated seated served) order
      refine ⟨middle, later, remaining, moreNews, (receiveElsewhere seated served own).trans alike, settled, here, run,
        left, ?_⟩
      rw [List.filter_cons_of_neg (by simp [own]), heard]

theorem heard (run : Taken connection frames news after) (seated : Seated connection)
    (sole : Sole channel receives heeds connection) :
    after.effects.only receives heeds = (connection.effects.only receives heeds).and
      ((Effects.all ((news.filter fun entry => entry.1.belongs channel).map Prod.snd)).only receives heeds) := by
  induction run with
  | done => exact (Effects.andNone _).symm
  | @more frame _ before next _ _ served later ih =>
    have touched := receiveTouched seated served
    rw [ih (receiveSeated seated served) (touched.sole sole), touched.gathered, Effects.onlyAnd, Effects.andAnd,
      Effects.sinceAnd]
    cases own : frame.belongs channel with
    | false => rw [touched.silent sole own, Effects.noneAnd, List.filter_cons_of_neg (by simp [own])]
    | true =>
      rw [List.filter_cons_of_pos (by exact own)]
      simp only [List.map_cons, Effects.all, List.foldr_cons, Effects.onlyAnd]

theorem alike (run : Taken one frames news oneAfter) (alsoRun : Taken other others otherNews otherAfter)
    (alike : Alike channel one other) (seated : Seated one) (alsoSeated : Seated other)
    (same : frames.filter (Frame.belongs channel) = others.filter (Frame.belongs channel)) :
    Alike channel oneAfter otherAfter ∧ news.filter (fun entry => entry.1.belongs channel)
      = otherNews.filter fun entry => entry.1.belongs channel := by
  induction run generalizing other others otherNews with
  | done =>
    obtain ⟨kept, nothing⟩ := alsoRun.elsewhere alsoSeated same.symm
    exact ⟨alike.trans kept, nothing.symm⟩
  | @more frame rest one next _ _ served later ih =>
    have oneSeated := receiveSeated seated served
    cases own : frame.belongs channel with
    | false =>
      rw [List.filter_cons_of_neg (by simp [own])] at same
      rw [List.filter_cons_of_neg (by simp [own])]
      exact ih alsoRun ((receiveElsewhere seated served own).symm.trans alike) oneSeated alsoSeated same
    | true =>
      rw [List.filter_cons_of_pos own] at same
      obtain ⟨middle, _, _, _, kept, middleSeated, alsoServed, alsoLater, left, heard⟩ := alsoRun.next alsoSeated same.symm
      obtain ⟨nextAlike, told⟩ := receiveHere (alike.trans kept) seated served alsoServed own
      obtain ⟨lastAlike, further⟩ :=
        ih alsoLater nextAlike oneSeated (receiveSeated middleSeated alsoServed) left.symm
      refine ⟨lastAlike, ?_⟩
      rw [List.filter_cons_of_pos (by exact own), heard, told, further]

end Taken

/- Channels do not interfere: what becomes of the slots of a channel, what its frames bring, what of a command has come
in, and what only its consumers and listeners are told, depends on the frames of the channel alone. -/
theorem channelsKeepApart {frames others : List Frame} (reachable : connection.Reachable)
    (served : (connection.receiveAll frames).1 = .ok ()) (alsoServed : (connection.receiveAll others).1 = .ok ()) :
    (∀ channel, frames.filter (Frame.belongs channel) = others.filter (Frame.belongs channel) →
      (∀ id slot, connection.slot? id = some slot → slot.number = channel →
        (connection.receiveAll frames).2.slot? id = (connection.receiveAll others).2.slot? id) ∧
      (connection.receiveAll frames).2.assembler channel = (connection.receiveAll others).2.assembler channel ∧
      (connection.news frames).filter (fun entry => entry.1.belongs channel)
        = (connection.news others).filter (fun entry => entry.1.belongs channel) ∧
      ∀ receives heeds, Sole channel receives heeds connection →
        (connection.receiveAll frames).2.effects.only receives heeds
          = (connection.receiveAll others).2.effects.only receives heeds) ∧
    ((∀ channel, frames.filter (Frame.belongs channel) = others.filter (Frame.belongs channel)) →
      (connection.receiveAll frames).2.slots = (connection.receiveAll others).2.slots) := by
  have seated := reachable.seated
  have run := receiveAllTaken served
  have alsoRun := receiveAllTaken alsoServed
  have alike : ∀ channel, frames.filter (Frame.belongs channel) = others.filter (Frame.belongs channel) → _ :=
    fun channel => run.alike alsoRun (.refl channel connection) seated seated
  refine ⟨fun channel same => ?_, fun same => List.ext_getElem? fun id => ?_⟩
  · obtain ⟨kept, brought⟩ := alike channel same
    refine ⟨fun id slot there number => ?_, kept.assembler, brought, fun receives heeds sole => ?_⟩
    · obtain ⟨last, found, unchanged⟩ := run.number seated there
      exact found.trans ((kept.slots id last (unchanged.trans number)).mp found).symm
    · rw [run.heard seated sole, alsoRun.heard seated sole, brought]
  · exact Option.ext fun slot => (alike slot.number (same _)).1.slots id slot rfl

def pair : Connection Nat := ({ ids := { max := 2 } } : Connection Nat).actAll
  [.opens (some 1), .opens (some 2), .asks 0 (.consume { tag := "a", queue := "q", options := {}, receiver := 7 }),
    .listens 1 .confirm 5]

theorem pairReachable : pair.Reachable := ⟨_, _, ⟨rfl, rfl, rfl, rfl⟩, rfl⟩

def delivering : List Frame :=
  [⟨.method, 1, [0, 60, 0, 21, 1, 97]⟩,
   ⟨.method, 1, [0, 60, 0, 60, 1, 97, 0, 0, 0, 0, 0, 0, 0, 1, 0, 0, 0]⟩,
   ⟨.header, 1, [0, 60, 0, 0, 0, 0, 0, 0, 0, 0, 0, 2, 0, 0]⟩,
   ⟨.body, 1, [104]⟩, ⟨.body, 1, [105]⟩]

def confirming : List Frame :=
  [⟨.method, 2, [0, 60, 0, 80, 0, 0, 0, 0, 0, 0, 0, 1, 0]⟩,
   ⟨.method, 2, [0, 60, 0, 60, 1, 97, 0, 0, 0, 0, 0, 0, 0, 1, 0, 0, 0]⟩]

def mixed : List Frame :=
  delivering.take 3 ++ ⟨.heartbeat, 1, []⟩ :: confirming.take 1 ++ (delivering.drop 3).take 1 ++ confirming.drop 1 ++
    ⟨.heartbeat, 2, []⟩ :: delivering.drop 4

theorem mixedOrder (channel : UInt16) :
    mixed.filter (Frame.belongs channel) = (confirming ++ delivering).filter (Frame.belongs channel) := by
  by_cases first : channel = 1
  · subst first
    rfl
  · by_cases second : channel = 2
    · subst second
      rfl
    · simp [mixed, delivering, confirming, Frame.belongs, Ne.symm first, Ne.symm second]

theorem pairSole : Sole 1 (· == 7) (fun _ => false) pair where
  receivers id slot there other receiver held := by
    match id with
    | 0 =>
      cases there
      exact absurd rfl other
    | 1 =>
      cases there
      cases held
    | _ + 2 => cases there
  listeners _ _ _ _ _ _ _ := rfl

theorem mixedApart : (pair.receiveAll mixed).2.slots = (pair.receiveAll (confirming ++ delivering)).2.slots ∧
    ((pair.receiveAll mixed).2.assembler 2).state = .expectingContentHeader ∧
    (pair.receiveAll (confirming ++ delivering)).2.effects.messages.length = 1 ∧
    (pair.receiveAll mixed).2.effects.only (· == 7) (fun _ => false)
      = (pair.receiveAll (confirming ++ delivering)).2.effects.only (· == 7) fun _ => false := by
  obtain ⟨each, every⟩ := channelsKeepApart pairReachable
    (rfl : (pair.receiveAll mixed).1 = .ok ()) (rfl : (pair.receiveAll (confirming ++ delivering)).1 = .ok ())
  obtain ⟨_, _, _, told⟩ := each 1 (mixedOrder 1)
  exact ⟨every mixedOrder, rfl, rfl, told _ _ pairSole⟩

end Connection

end AmqpClient
