import AmqpClient.Proofs.Connection.Acts

/-! One slot, followed through everything that happens to its connection. To the slot a run is the deeds that are done
to it, and those whom nobody but the slot knows are told what comes of these deeds. -/
namespace AmqpClient

variable {α : Type} {id : SlotId} {receives : ReceiverId → Bool} {heeds : α → Bool}

namespace Slot

variable {slots : List (Slot α)} {log : List (Entry α)}

/- Certain receivers and listeners are known to no other slot. -/
structure Lone (id : SlotId) (receives : ReceiverId → Bool) (heeds : α → Bool) (slots : List (Slot α)) : Prop where
  receivers : ∀ (other : SlotId) slot, other ≠ id → slots[other]? = some slot →
    ∀ receiver ∈ slot.held, receives receiver = false
  listeners : ∀ (other : SlotId) slot, other ≠ id → slots[other]? = some slot →
    ∀ kind, ∀ listener ∈ (slot.listeners.of kind).listeners, heeds listener = false

def Respects (id : SlotId) (receives : ReceiverId → Bool) (heeds : α → Bool) (entry : Entry α) : Prop :=
  entry.1 ≠ id → (∀ receiver ∈ entry.2.brings, receives receiver = false) ∧
    ∀ kind listener, entry.2 = .listen kind listener → heeds listener = false

theorem enterThere {entry : Entry α} {slot : Slot α} (there : slots[entry.1]? = some slot) :
    enter slots entry = (slots.set entry.1 (slot.perform entry.2).1, (slot.perform entry.2).2) := by
  simp only [enter, there]

theorem enterMissing {entry : Entry α} (missing : slots[entry.1]? = none) : enter slots entry = (slots, {}) := by
  simp only [enter, missing]

theorem enterSlot (id : SlotId) (slots : List (Slot α)) (entry : Entry α) : (enter slots entry).1[id]? =
    if entry.1 = id then slots[id]?.map fun slot => (slot.perform entry.2).1 else slots[id]? := by
  cases found : slots[entry.1]? with
  | none =>
    rw [enterMissing found]
    split
    · rename_i same
      rw [← same, found, Option.map_none]
    · rfl
  | some slot =>
    rw [enterThere found]
    split
    · rename_i same
      rw [← same, found]
      exact List.getElem?_set_self (List.getElem?_eq_some_iff.mp found).1
    · rename_i differ
      exact List.getElem?_set_ne differ

theorem enterAllSlot (id : SlotId) (slots : List (Slot α)) (log : List (Entry α)) :
    (enterAll slots log).1[id]? = slots[id]?.map fun slot => (slot.performAll (own id log)).1 := by
  induction log generalizing slots with
  | nil => simp [enterAll, own, performAll]
  | cons entry rest ih =>
    show (enterAll (enter slots entry).1 rest).1[id]? = _
    rw [ih, enterSlot]
    by_cases same : entry.1 = id
    · rw [if_pos same, Option.map_map]
      simp only [own, List.filter_cons, same, beq_self_eq_true, if_true, List.map_cons, performAll, Function.comp_def]
    · simp only [own, List.filter_cons, same, if_false, beq_iff_eq]

theorem Lone.entered {entry : Entry α} (lone : Lone id receives heeds slots)
    (respects : Respects id receives heeds entry) : Lone id receives heeds (Slot.enter slots entry).1 := by
  have known : ∀ (other : SlotId) next, other ≠ id → (Slot.enter slots entry).1[other]? = some next →
      (∀ receiver ∈ next.held, receives receiver = false) ∧
        ∀ kind, ∀ listener ∈ (next.listeners.of kind).listeners, heeds listener = false := by
    intro other next differ there
    rw [enterSlot] at there
    split at there
    · rename_i same
      obtain ⟨slot, found, rfl⟩ := Option.map_eq_some_iff.mp there
      obtain ⟨unbrought, unlistened⟩ := respects (same ▸ differ)
      constructor
      · intro receiver held
        rcases List.mem_append.mp ((slot.performHeld entry.2).subset held) with before | brought
        · exact lone.receivers other slot differ found receiver before
        · exact unbrought receiver brought
      · intro kind listener registered
        rcases performRegistered registered with before | listens
        · exact lone.listeners other slot differ found kind listener before
        · exact unlistened kind listener listens
    · exact ⟨lone.receivers other next differ there, lone.listeners other next differ there⟩
  exact ⟨fun other next differ there => (known other next differ there).1,
    fun other next differ there => (known other next differ there).2⟩

theorem Lone.elsewhere {entry : Entry α} {slot : Slot α} (lone : Lone id receives heeds slots) (differ : entry.1 ≠ id)
    (found : slots[entry.1]? = some slot) : (slot.perform entry.2).2.only receives heeds = {} := by
  have unheard : (slot.perform entry.2).2.messages.filter (fun told => receives told.1) = [] :=
    List.filter_eq_nil_iff.mpr fun told member => by
      simp [lone.receivers _ slot differ found told.1 (slot.performTold entry.2 told member)]
  have unnoticed : (slot.perform entry.2).2.notices.filter (fun notice => heeds notice.1) = [] :=
    List.filter_eq_nil_iff.mpr fun notice member => by
      simp [lone.listeners _ slot differ found _ notice.1 (slot.performHeard entry.2 notice member)]
  simp only [Effects.only, unheard, unnoticed]

theorem Lone.heard {entry : Entry α} (lone : Lone id receives heeds slots) :
    (Slot.enter slots entry).2.only receives heeds =
      if entry.1 = id then ((slots[id]?.map fun slot : Slot α => (slot.perform entry.2).2).getD {}).only receives heeds
      else {} := by
  cases found : slots[entry.1]? with
  | none =>
    rw [enterMissing found]
    split
    · rename_i same
      rw [← same, found]
      rfl
    · rfl
  | some slot =>
    rw [enterThere found]
    split
    · rename_i same
      rw [← same, found]
      rfl
    · rename_i differ
      exact lone.elsewhere differ found

theorem Lone.enterAll (lone : Lone id receives heeds slots)
    (respects : ∀ entry ∈ log, Respects id receives heeds entry) :
    Lone id receives heeds (Slot.enterAll slots log).1 ∧ (Slot.enterAll slots log).2.only receives heeds =
      ((slots[id]?.map fun slot : Slot α => (slot.performAll (own id log)).2).getD {}).only receives heeds := by
  induction log generalizing slots with
  | nil =>
    refine ⟨lone, ?_⟩
    cases slots[id]? <;> rfl
  | cons entry rest ih =>
    obtain ⟨first, respects⟩ := List.forall_mem_cons.mp respects
    obtain ⟨last, further⟩ := ih (lone.entered first) respects
    refine ⟨last, ?_⟩
    show ((Slot.enter slots entry).2.and (Slot.enterAll (Slot.enter slots entry).1 rest).2).only receives heeds = _
    rw [Effects.onlyAnd, lone.heard, further, enterSlot]
    by_cases same : entry.1 = id
    · cases slots[id]? with
      | none => simp [same, Effects.only, Effects.and]
      | some slot =>
        simp only [own, List.filter_cons, same, beq_self_eq_true, if_true, List.map_cons, performAll, Option.map_some,
          Option.getD_some, Effects.onlyAnd]
    · simp only [own, List.filter_cons, same, if_false, beq_iff_eq]
      rfl

end Slot

def Act.Respects (id : SlotId) (receives : ReceiverId → Bool) (heeds : α → Bool) (act : Act α) : Prop :=
  (∀ other ≠ id, ∀ receiver ∈ act.bringsTo other, receives receiver = false) ∧
    ∀ other kind listener, act = .listens other kind listener → other ≠ id → heeds listener = false

namespace Connection

variable {connection : Connection α} {number : UInt16} {act : Act α} {acts one two : List (Act α)}
  {log : List (Entry α)} {deeds first second : List (Deed α)}

def slotAt (number : UInt16) (id : SlotId) (connection : Connection α) : Slot α :=
  (connection.slot? id).getD (Slot.blank number)

def Uncaused (id : SlotId) (connection : Connection α) (acts : List (Act α)) : Prop :=
  ∀ early act late, acts = early ++ act :: late → causeOf id (connection.actAll early) act = none

structure Undergoes (id : SlotId) (number : UInt16) (connection : Connection α) (acts : List (Act α))
    (deeds : List (Deed α)) : Prop where
  slot : (connection.actAll acts).slotAt number id = ((connection.slotAt number id).performAll deeds).1
  plain : ∀ deed ∈ deeds, ∀ signal, deed ≠ .raise (.shutdown signal)
  calm : Uncaused id connection acts → ∀ deed ∈ deeds, Calm deed
  brings : (deeds.flatMap Deed.brings).Sublist (acts.flatMap (Act.bringsTo id))
  kept : (connection.slot? id).isSome → (∀ act ∈ acts, ¬act.Empties id) → ∀ deed ∈ deeds, deed ≠ .take ∧ deed ≠ .drop
  told : ∀ receives heeds, Slot.Lone id receives heeds connection.slots →
    (∀ act ∈ acts, act.Respects id receives heeds) →
      Slot.Lone id receives heeds (connection.actAll acts).slots ∧
      (connection.actAll acts).effects.only receives heeds = (connection.effects.only receives heeds).and
        (((connection.slotAt number id).performAll deeds).2.only receives heeds)

theorem loggedUndergoes (logged : Logged log connection (connection.act act))
    (plain : ∀ entry ∈ log, ∀ signal, entry.2 ≠ .raise (.shutdown signal))
    (calm : causeOf id connection act = none → ∀ deed ∈ Slot.own id log, Calm deed)
    (brings : ((Slot.own id log).flatMap Deed.brings).Sublist (act.bringsTo id))
    (kept : ¬act.Empties id → ∀ deed ∈ Slot.own id log, deed ≠ .take ∧ deed ≠ .drop)
    (respects : ∀ receives heeds, act.Respects id receives heeds → ∀ entry ∈ log,
      Slot.Respects id receives heeds entry) :
    Undergoes id number connection [act] (if (connection.slot? id).isSome then Slot.own id log else []) := by
  have followed := Slot.enterAllSlot id connection.slots log
  rw [← logged.slots] at followed
  have told : ∀ receives heeds, Slot.Lone id receives heeds connection.slots →
      (∀ other ∈ [act], other.Respects id receives heeds) → _ := fun receives heeds lone careful =>
    lone.enterAll (respects receives heeds (careful act (List.mem_singleton_self act)))
  have uncaused : Uncaused id connection [act] → causeOf id connection act = none := fun without => without [] act [] rfl
  cases there : connection.slot? id with
  | none =>
    have missing : connection.slots[id]? = none := there
    rw [missing] at followed
    refine ⟨?_, List.forall_mem_nil _, fun _ => List.forall_mem_nil _, List.nil_sublist _,
      fun _ _ => List.forall_mem_nil _, fun receives heeds lone careful => ?_⟩
    · unfold slotAt
      rw [there]
      exact congrArg (Option.getD · _) followed
    · obtain ⟨last, heard⟩ := told receives heeds lone careful
      rw [missing] at heard
      refine ⟨(logged.slots ▸ last : Slot.Lone id receives heeds (connection.act act).slots), ?_⟩
      show (connection.act act).effects.only receives heeds = _
      rw [logged.effects, Effects.onlyAnd, heard]
      rfl
  | some slot =>
    have found : connection.slots[id]? = some slot := there
    rw [found] at followed
    have same : connection.slotAt number id = slot := by rw [slotAt, there, Option.getD_some]
    have mine : ∀ deed ∈ Slot.own id log, ∃ entry ∈ log, entry.2 = deed := fun deed member => by
      obtain ⟨entry, inside, rfl⟩ := List.mem_map.mp member
      exact ⟨entry, List.mem_of_mem_filter inside, rfl⟩
    rw [Option.isSome_some, if_pos rfl]
    refine ⟨?_, fun deed member signal => ?_, fun without => calm (uncaused without), by simpa using brings,
      fun _ full => kept (full act (List.mem_singleton_self act)), fun receives heeds lone careful => ?_⟩
    · rw [same]
      exact congrArg (Option.getD · _) followed
    · obtain ⟨entry, inside, rfl⟩ := mine deed member
      exact plain entry inside signal
    · obtain ⟨last, heard⟩ := told receives heeds lone careful
      rw [found] at heard
      refine ⟨(logged.slots ▸ last : Slot.Lone id receives heeds (connection.act act).slots), ?_⟩
      show (connection.act act).effects.only receives heeds = _
      rw [logged.effects, Effects.onlyAnd, heard, same]
      rfl

/- The deeds by which nobody is told anything but that the channel closes. -/
inductive Mute : Deed α → Prop
  | take : Mute .take
  | drop : Mute .drop
  | unexpected : Mute (.expect none)
  | shut (reason : Error) (connectionLevel byApplication : Bool) : Mute (.shut reason connectionLevel byApplication)

/- Deeds by which a slot is shut for a cause. What comes before tells nobody anything, and what comes after has no
effect on a slot that is shut. -/
inductive Shuts (cause : Cause) : List (Deed α) → Prop
  | deeds {hush trail : List (Deed α)}
      (quiet : hush = [] ∨ hush = [.expect none] ∨ (cause = .client ∧ hush = [.take]))
      (idle : ∀ deed ∈ trail, deed = cause.deed ∨ (cause = .client ∧ deed = .drop)) :
      Shuts cause (hush ++ cause.deed :: trail)

theorem Hushed.mute (hush : Hushed log) : ∀ entry ∈ log, Mute entry.2 := by
  rcases hush with rfl | ⟨id, rfl⟩
  · exact List.forall_mem_nil _
  · exact List.forall_mem_singleton.mpr .unexpected

theorem Hushed.own (hush : Hushed log) (id : SlotId) : Slot.own id log = [] ∨ Slot.own id log = [.expect none] := by
  rcases hush with rfl | ⟨other, rfl⟩
  · exact .inl rfl
  · have here := Slot.ownHere other id [(.expect none : Deed α)]
    split at here
    · exact .inr here
    · exact .inl here

theorem muteUndergoes (logged : Logged log connection (connection.act act)) (mute : ∀ entry ∈ log, Mute entry.2)
    (calm : causeOf id connection act = none → ∀ deed ∈ Slot.own id log, Calm deed)
    (kept : ¬act.Empties id → ∀ deed ∈ Slot.own id log, deed ≠ .take ∧ deed ≠ .drop) :
    Undergoes id number connection [act] (if (connection.slot? id).isSome then Slot.own id log else []) := by
  have unbrought : ∀ deed : Deed α, Mute deed → deed.brings = [] := fun deed mute => by cases mute <;> rfl
  refine loggedUndergoes logged (fun entry member signal same => ?_) calm ?_ kept
    fun receives heeds _ entry member _ => ⟨fun receiver brought => ?_, fun kind listener same => ?_⟩
  · cases same ▸ mute entry member
  · have nobody : (Slot.own id log).flatMap Deed.brings = [] := List.flatMap_eq_nil_iff.mpr fun deed member => by
      obtain ⟨entry, inside, rfl⟩ := List.mem_map.mp member
      exact unbrought _ (mute entry (List.mem_of_mem_filter inside))
    exact nobody ▸ List.nil_sublist _
  · rw [unbrought _ (mute entry member)] at brought
    cases brought
  · cases same ▸ mute entry member

theorem calmUndergoes (logged : Logged log connection (connection.act act)) (calms : Calms act log) :
    Undergoes id number connection [act] (if (connection.slot? id).isSome then Slot.own id log else []) := by
  have mine : ∀ deed ∈ Slot.own id log, (id, deed) ∈ log := fun deed member => by
    obtain ⟨⟨other, done⟩, inside, rfl⟩ := List.mem_map.mp member
    obtain ⟨logged, same⟩ := List.mem_filter.mp inside
    obtain rfl : other = id := by simpa using same
    exact logged
  refine loggedUndergoes logged (fun entry member => (calms.calm entry member).2)
    (fun _ deed member => calms.calm _ (mine deed member)) (calms.brings id)
    (fun unemptied deed member => ⟨fun same => ?_, fun same => ?_⟩)
    fun receives heeds careful entry member differ => ⟨fun receiver brought => ?_, fun kind listener same => ?_⟩
  · exact unemptied (calms.empties _ (mine deed member) (.inl same))
  · exact unemptied (calms.empties _ (mine deed member) (.inr same))
  · have inside : entry.2 ∈ Slot.own entry.1 log := List.mem_map_of_mem (List.mem_filter.mpr ⟨member, by simp⟩)
    exact careful.1 entry.1 differ receiver
      ((calms.brings entry.1).subset (List.mem_flatMap.mpr ⟨entry.2, inside, brought⟩))
  · exact careful.2 entry.1 kind listener (calms.listens entry member kind listener same) differ

theorem numberedHeld (numbered : connection.ids.get? number = some id) : id ∈ connection.ids.releaseAll.1 :=
  List.mem_map.mpr ⟨(number, id), Std.TreeMap.mem_toList_iff_getElem?_eq_some.mpr numbered, rfl⟩

theorem heldNumbered (held : id ∈ connection.ids.releaseAll.1) : ∃ number, connection.ids.get? number = some id := by
  obtain ⟨⟨number, other⟩, member, rfl⟩ := List.mem_map.mp held
  exact ⟨number, Std.TreeMap.mem_toList_iff_getElem?_eq_some.mp member⟩

theorem Mute.nothing {deed : Deed α} (mute : Mute deed) :
    deed.brings = [] ∧ ∀ kind listener, deed ≠ .listen kind listener := by
  cases mute <;> exact ⟨rfl, by simp⟩

theorem blankUnheeded (born : UInt16) (kind : EventKind) (listener : α) :
    listener ∉ ((Slot.blank born : Slot α).listeners.of kind).listeners := by
  cases kind <;> exact List.not_mem_nil

theorem blankWithin (born : UInt16) (mute : ∀ deed ∈ deeds, Mute deed) :
    (Slot.blank born : Slot α).Within ((Slot.blank born).performAll deeds).1 ((Slot.blank born).performAll deeds).2 :=
  (Slot.blank born).performAllWithin fun deed member => (mute deed member).nothing

theorem blankSilent (born : UInt16) (mute : ∀ deed ∈ deeds, Mute deed) :
    ((Slot.blank born : Slot α).performAll deeds).2 = {} := by
  have within := blankWithin born mute
  have messages : ((Slot.blank born : Slot α).performAll deeds).2.messages = [] :=
    List.eq_nil_iff_forall_not_mem.mpr fun entry told => List.not_mem_nil (within.told entry told)
  have notices : ((Slot.blank born : Slot α).performAll deeds).2.notices = [] :=
    List.eq_nil_iff_forall_not_mem.mpr fun notice heard => blankUnheeded born _ _ (within.heard notice heard)
  cases outcome : ((Slot.blank born : Slot α).performAll deeds).2 with
  | mk told heard =>
    rw [outcome] at messages notices
    rw [show told = [] from messages, show heard = [] from notices]

theorem blankLone {born : UInt16} {receives : ReceiverId → Bool} {heeds : α → Bool} {slots : List (Slot α)}
    (lone : Slot.Lone id receives heeds slots) (mute : ∀ deed ∈ deeds, Mute deed) :
    Slot.Lone id receives heeds (slots ++ [((Slot.blank born).performAll deeds).1]) := by
  have within := blankWithin born mute
  have known : ∀ (other : SlotId) next, (slots ++ [((Slot.blank born).performAll deeds).1])[other]? = some next →
      slots[other]? = some next ∨ next = ((Slot.blank born).performAll deeds).1 := by
    intro other next there
    rw [List.getElem?_append] at there
    split at there
    · exact .inl there
    · exact .inr (List.mem_singleton.mp (List.mem_of_getElem? there))
  constructor
  · intro other next differ there receiver held
    rcases known other next there with before | rfl
    · exact lone.receivers other next differ before receiver held
    · exact absurd (within.held held) List.not_mem_nil
  · intro other next differ there kind listener registered
    rcases known other next there with before | rfl
    · exact lone.listeners other next differ before kind listener registered
    · exact absurd (within.registered kind listener registered) (blankUnheeded born kind listener)

theorem grownUndergoes {born : UInt16} {slot : Slot α}
    (slots : (connection.act act).slots = connection.slots ++ [slot])
    (begins : slot = ((Slot.blank born).performAll deeds).1)
    (effects : (connection.act act).effects = connection.effects) (mute : ∀ deed ∈ deeds, Mute deed)
    (calm : causeOf id connection act = none → connection.slots.length = id → deeds = [])
    (numbered : ∀ slot, (connection.act act).slot? id = some slot → slot.number = number) :
    Undergoes id number connection [act] (if connection.slots.length = id then deeds else []) := by
  have lone : ∀ receives heeds, Slot.Lone id receives heeds connection.slots →
      Slot.Lone id receives heeds (connection.act act).slots := fun receives heeds lone => by
    rw [slots, begins]
    exact blankLone lone mute
  have heard : ∀ receives heeds, (connection.act act).effects.only receives heeds =
      (connection.effects.only receives heeds).and (({} : Effects α).only receives heeds) := fun receives heeds =>
    (congrArg (Effects.only receives heeds) effects).trans (Effects.andNone _).symm
  split
  · rename_i same
    subst same
    have missing : connection.slot? connection.slots.length = none := List.getElem?_eq_none (Nat.le_refl _)
    have there : (connection.act act).slot? connection.slots.length = some slot := by
      rw [slot?, slots]
      simp
    have number : born = number := by
      rw [← numbered slot there, begins, (blankWithin born mute).number]
      rfl
    subst number
    have blank : connection.slotAt born connection.slots.length = Slot.blank born := by rw [slotAt, missing]; rfl
    refine ⟨?_, fun deed member signal same => ?_, fun without => ?_, ?_, fun present => ?_, fun receives heeds alone _ =>
      ⟨lone receives heeds alone, ?_⟩⟩
    · rw [blank, ← begins]
      exact congrArg (Option.getD · _) there
    · cases same ▸ mute deed member
    · rw [calm (without [] act [] rfl) rfl]
      exact List.forall_mem_nil _
    · rw [List.flatMap_eq_nil_iff.mpr fun deed member => (mute deed member).nothing.1]
      exact List.nil_sublist _
    · rw [missing] at present
      cases present
    · rw [blank, blankSilent born mute]
      exact heard receives heeds
  · rename_i differ
    refine ⟨?_, List.forall_mem_nil _, fun _ => List.forall_mem_nil _, List.nil_sublist _,
      fun _ _ => List.forall_mem_nil _, fun receives heeds alone _ => ⟨lone receives heeds alone, heard receives heeds⟩⟩
    show (connection.act act).slotAt number id = connection.slotAt number id
    unfold slotAt slot?
    rw [slots, List.getElem?_append]
    split
    · rfl
    · rename_i beyond
      rw [List.getElem?_eq_none (by simp; omega), List.getElem?_eq_none (by omega)]

theorem shutDeeds {changed : SlotId} {cause : Cause} {hush trail : List (Entry α)}
    (quiet : hush = [] ∨ (cause = .client ∧ act.Empties changed ∧ hush = [(changed, .take)]))
    (dropped : trail = [] ∨ (cause = .client ∧ act.Empties changed ∧ trail = [(changed, .drop)])) :
    ∃ deeds, hush ++ (changed, cause.deed) :: trail = deeds.map (Prod.mk changed) ∧
      Shuts cause deeds ∧ (∀ deed ∈ deeds, Mute deed) ∧ (¬act.Empties changed → deeds = [cause.deed]) := by
  have quietly : Mute (cause.deed : Deed α) := .shut ..
  rcases quiet with rfl | ⟨client, empties, rfl⟩ <;> rcases dropped with rfl | ⟨client, empties, rfl⟩
  · exact ⟨[cause.deed], rfl, .deeds (.inl rfl) (List.forall_mem_nil _), by simpa using quietly, fun _ => rfl⟩
  · exact ⟨[cause.deed, .drop], rfl, .deeds (.inl rfl) (by simp [client]), by simp [quietly, Mute.drop],
      fun kept => absurd empties kept⟩
  · exact ⟨[.take, cause.deed], rfl, .deeds (.inr (.inr ⟨client, rfl⟩)) (List.forall_mem_nil _),
      by simp [quietly, Mute.take], fun kept => absurd empties kept⟩
  · exact ⟨[.take, cause.deed, .drop], rfl, .deeds (.inr (.inr ⟨client, rfl⟩)) (by simp [client]),
      by simp [quietly, Mute.take, Mute.drop], fun kept => absurd empties kept⟩

theorem shutUndergoes {changed : SlotId} {cause : Cause} {slot : Slot α}
    (there : connection.slot? changed = some slot)
    (logged : Logged (deeds.map (Prod.mk changed)) connection (connection.act act)) (shuts : Shuts cause deeds)
    (mute : ∀ deed ∈ deeds, Mute deed) (alone : ¬act.Empties changed → deeds = [cause.deed])
    (caused : ∀ other, causeOf other connection act = if other = changed then some cause else none) :
    ∃ own, Undergoes id number connection [act] own ∧
      ∀ cause, causeOf id connection act = some cause → Shuts cause own := by
  have own := Slot.ownHere changed id deeds
  refine ⟨_, muteUndergoes logged (List.forall_mem_map.mpr mute) (fun uncaused => ?_) (fun unemptied => ?_),
    fun cause closes => ?_⟩
  · rw [own, if_neg fun same => by simp [caused, same] at uncaused]
    exact List.forall_mem_nil _
  · rw [own]
    split
    · rename_i same
      rw [alone (same ▸ unemptied)]
      simp [Cause.deed]
    · exact List.forall_mem_nil _
  · rw [caused] at closes
    split at closes
    · rename_i same
      subst same
      cases closes
      rw [there, Option.isSome_some, if_pos rfl, own, if_pos rfl]
      exact shuts
    · cases closes

theorem failedUndergoes {reason : Error} {hush : List (Entry α)} (seated : Seated connection)
    (logged : Logged (hush ++ connection.ids.releaseAll.1.map fun id => (id, (Cause.failure reason).deed)) connection
      (connection.act act))
    (quiet : Hushed hush)
    (caused : ∀ id, causeOf id connection act =
      if id ∈ connection.ids.releaseAll.1 then some (.failure reason) else none) :
    ∃ own, Undergoes id number connection [act] own ∧
      ∀ cause, causeOf id connection act = some cause → Shuts cause own := by
  have own : Slot.own id (hush ++ connection.ids.releaseAll.1.map fun id => (id, (Cause.failure reason).deed)) =
      Slot.own id hush ++ List.replicate (connection.ids.releaseAll.1.count id) (Cause.failure reason).deed := by
    rw [Slot.ownAppend, Slot.ownEach]
  have mute : ∀ entry ∈ hush ++ connection.ids.releaseAll.1.map fun id => (id, (Cause.failure reason).deed),
      Mute entry.2 := List.forall_mem_append.mpr ⟨quiet.mute, List.forall_mem_map.mpr fun _ _ => .shut ..⟩
  refine ⟨_, muteUndergoes logged mute (fun uncaused => ?_) (fun unemptied => ?_), fun cause closes => ?_⟩
  · have spared : connection.ids.releaseAll.1.count id = 0 :=
      List.count_eq_zero.mpr fun held => by simp [caused, held] at uncaused
    rw [own, spared]
    rcases quiet.own id with none | none <;> simp [none, Calm]
  · rw [own]
    rcases quiet.own id with none | none <;> simp +contextual [none, Cause.deed]
  · rw [caused] at closes
    split at closes
    · rename_i held
      cases closes
      obtain ⟨_, numbered⟩ := heldNumbered held
      obtain ⟨slot, there, _⟩ := seated _ _ numbered
      obtain ⟨others, several⟩ := Nat.exists_eq_succ_of_ne_zero
        (Nat.ne_of_gt (List.count_pos_iff.mpr held))
      rw [there, Option.isSome_some, if_pos rfl, own, several, List.replicate_succ]
      exact .deeds ((quiet.own id).imp_right .inl) fun deed same => .inl (List.eq_of_mem_replicate same)
    · cases closes

theorem actUndergoes (seated : Seated connection) (act : Act α)
    (numbered : ∀ slot, (connection.act act).slot? id = some slot → slot.number = number) :
    ∃ deeds, Undergoes id number connection [act] deeds ∧
      ∀ cause, causeOf id connection act = some cause → Shuts cause deeds := by
  cases actTold seated act with
  | calm logged calms causeless =>
    exact ⟨_, calmUndergoes logged calms, fun cause caused => by rw [causeless] at caused; cases caused⟩
  | shut there logged quiet dropped caused =>
    obtain ⟨deeds, same, shuts, mute, alone⟩ := shutDeeds quiet dropped
    exact shutUndergoes there (same ▸ logged) shuts mute alone caused
  | failed logged quiet caused => exact failedUndergoes seated logged quiet caused
  | @born fresh slots effects causeless =>
    exact ⟨_, grownUndergoes slots rfl effects (List.forall_mem_nil _) (fun _ _ => rfl) numbered,
      fun cause caused => by rw [causeless] at caused; cases caused⟩
  | @stillborn fresh slot slots shut effects caused =>
    have mute : ∀ deed ∈ [Cause.client.deed, (.drop : Deed α)], Mute deed := by
      simpa using ⟨Mute.shut .., Mute.drop⟩
    refine ⟨_, grownUndergoes slots shut effects mute (fun uncaused same => ?_) numbered, fun cause closes => ?_⟩
    · simp [caused, same] at uncaused
    · rw [caused] at closes
      split at closes
      · rename_i same
        cases closes
        rw [if_pos same]
        exact .deeds (.inl rfl) (by simp)
      · cases closes

theorem actAllAppend (connection : Connection α) (one two : List (Act α)) :
    connection.actAll (one ++ two) = (connection.actAll one).actAll two := List.foldl_append

theorem Uncaused.before (uncaused : Uncaused id connection (one ++ two)) : Uncaused id connection one :=
  fun early act late same => uncaused early act (late ++ two) (by simp [same])

theorem Uncaused.after (uncaused : Uncaused id connection (one ++ two)) : Uncaused id (connection.actAll one) two :=
  fun early act late same => actAllAppend connection one early ▸ uncaused (one ++ early) act late (by simp [same])

theorem actNumber (seated : Seated connection) (act : Act α) {slot : Slot α} (there : connection.slot? id = some slot) :
    ∃ next, (connection.act act).slot? id = some next ∧ next.number = slot.number := by
  have grown : ∀ more, (connection.act act).slots = connection.slots ++ [more] →
      ∃ next, (connection.act act).slot? id = some next ∧ next.number = slot.number := by
    intro more slots
    refine ⟨slot, ?_, rfl⟩
    rw [slot?, slots]
    exact (List.getElem?_append_left (List.getElem?_eq_some_iff.mp there).1).trans there
  cases actTold seated act with
  | calm logged | shut _ logged | failed logged =>
    unfold slot?
    rw [logged.slots]
    exact Slot.enterAllNumber there _
  | born slots | stillborn slots => exact grown _ slots

theorem actAllNumber (seated : Seated connection) (acts : List (Act α)) {slot : Slot α}
    (there : connection.slot? id = some slot) :
    ∃ last, (connection.actAll acts).slot? id = some last ∧ last.number = slot.number := by
  induction acts generalizing connection slot with
  | nil => exact ⟨slot, there, rfl⟩
  | cons act rest ih =>
    obtain ⟨next, found, same⟩ := actNumber seated act there
    obtain ⟨last, kept, unchanged⟩ := ih (actSeated seated act) found
    exact ⟨last, kept, unchanged.trans same⟩

namespace Undergoes

theorem refl (id : SlotId) (number : UInt16) (connection : Connection α) : Undergoes id number connection [] [] where
  slot := rfl
  plain := List.forall_mem_nil _
  calm _ := List.forall_mem_nil _
  brings := List.Sublist.refl _
  kept _ _ := List.forall_mem_nil _
  told _ _ lone _ := ⟨lone, (Effects.andNone _).symm⟩

theorem trans (seated : Seated connection) (here : Undergoes id number connection one first)
    (there : Undergoes id number (connection.actAll one) two second) :
    Undergoes id number connection (one ++ two) (first ++ second) where
  slot := by rw [actAllAppend, there.slot, here.slot, Slot.performAllAppend]
  plain := List.forall_mem_append.mpr ⟨here.plain, there.plain⟩
  calm uncaused := List.forall_mem_append.mpr ⟨here.calm uncaused.before, there.calm uncaused.after⟩
  brings := by
    rw [List.flatMap_append, List.flatMap_append]
    exact here.brings.append there.brings
  kept present full := by
    obtain ⟨slot, found⟩ := Option.isSome_iff_exists.mp present
    obtain ⟨last, kept, _⟩ := actAllNumber seated one found
    obtain ⟨early, late⟩ := List.forall_mem_append.mp full
    exact List.forall_mem_append.mpr ⟨here.kept present early, there.kept (by rw [kept]; rfl) late⟩
  told receives heeds lone careful := by
    obtain ⟨early, late⟩ := List.forall_mem_append.mp careful
    obtain ⟨middle, heard⟩ := here.told receives heeds lone early
    obtain ⟨last, further⟩ := there.told receives heeds middle late
    rw [actAllAppend]
    refine ⟨last, ?_⟩
    rw [further, heard, here.slot, Effects.andAnd, Slot.performAllAppend, Effects.onlyAnd]

end Undergoes

theorem actAllUndergoes (seated : Seated connection) (acts : List (Act α))
    (numbered : ∀ slot, (connection.actAll acts).slot? id = some slot → slot.number = number) :
    ∃ deeds, Undergoes id number connection acts deeds := by
  induction acts generalizing connection with
  | nil => exact ⟨[], .refl id number connection⟩
  | cons act rest ih =>
    have next := actSeated seated act
    have same : ∀ slot, (connection.act act).slot? id = some slot → slot.number = number := fun slot there => by
      obtain ⟨last, found, unchanged⟩ := actAllNumber next rest there
      exact unchanged.symm.trans (numbered last found)
    obtain ⟨first, here, _⟩ := actUndergoes seated act same
    obtain ⟨second, there⟩ := ih next numbered
    exact ⟨first ++ second, here.trans seated there⟩

end Connection

end AmqpClient
