import AmqpClient.Proofs.Recovery.Hearing
import AmqpClient.Proofs.Registry
import AmqpClient.Recovery.Rehearsal

/-! The status of a recovering channel and the news of its recoveries, whatever its application, its
connections and its server do. Every recovery is heard as one that started and ended, and a channel that is
closed stays closed, in silence. -/
namespace AmqpClient

namespace RecoveringChannel

variable {ω η κ : Type} (link : Link ω η κ)

/- How an attempt to recover leaves a channel. Where no channel can be opened, the old one is open again as it was. -/
inductive Attempted (self : RecoveringChannel ω η κ) : Except Error Unit × RecoveringChannel ω η κ → Prop
  | refused {e world last} (unopened : self.reopening link = (.error e, world))
      (usable : last.status = .open)
      (same : last = { self with world := last.world, status := last.status, due := last.due })
      (calm : self.status ≠ .open → last.due = true → self.due = true) :
      Attempted self (.error (.recoveryFailed self.channel e), last)
  | failed {e opened world last} (reopened : self.reopening link = (.ok opened, world))
      (closed : last.status = .closed) : Attempted self (.error e, last)
  | recovered {opened world last} (reopened : self.reopening link = (.ok opened, world))
      (usable : last.status = .open) : Attempted self (.ok (), last)

theorem reportSame (notice : Notice) (self : RecoveringChannel ω η κ) :
    ∃ world, self.report link notice = { self with world } := notifyWorld link recoveryListeners notice self

theorem runRecoveryAttempted (self : RecoveringChannel ω η κ) : Attempted link self (self.runRecovery link) := by
  have cases := ran link self
  generalize self.runRecovery link = outcome at cases
  cases cases with
  | @refused e world unopened =>
    obtain ⟨began, started⟩ := reportSame link (.recoveryStarted self.channel) self
    rw [begun, started]
    have attended := attendAttended link { self with world }
    generalize attend link { self with world } = heard at attended ⊢
    obtain ⟨told, reported⟩ := reportSame link (.recoveryFailed heard.channel e) { heard with status := .open }
    have number : heard.channel = self.channel := by rw [attended.same]
    dsimp only [recoveryFailed]
    rw [reported, number]
    refine .refused unopened rfl ?_ fun busy due => ?_
    · dsimp only
      rw [attended.same]
    · exact (attended.due due).resolve_right fun found => busy found.1
  | @failed _ _ _ _ cause restored opened replay =>
    dsimp only [recoveryFailed]
    generalize abandonConsumers link (.serverClosedConnection cause) restored = abandoned
    obtain ⟨told, reported⟩ :=
      reportSame link (.recoveryFailed abandoned.channel cause) { abandoned with status := .closed }
    rw [reported]
    exact .failed opened rfl
  | @replayed _ _ _ _ restored opened replay =>
    obtain ⟨told, reported⟩ :=
      reportSame link (.recoveryCompleted self.channel) { restored with status := .open }
    rw [reported]
    exact .recovered opened rfl

end RecoveringChannel

/- What can happen to a channel from outside: calls, recoveries that are asked for or due, changes of the world
with the events that they raise, and listeners that come and go. -/
inductive Occurrence (ω : Type)
  | call (request : Request)
  | recover
  | settle (attempts : Nat)
  | signal (change : ω → ω)
  | listen (kind : EventKind) (listener : Listener)
  | unlisten (kind : EventKind) (id : ListenerId)
  | follow (listener : Listener)
  | unfollow (id : ListenerId)

def Occurrence.beside : Occurrence ω → Occurrence (ω × α)
  | call request => call request
  | recover => recover
  | settle attempts => settle attempts
  | signal change => signal (Prod.map change id)
  | listen kind listener => listen kind listener
  | unlisten kind id => unlisten kind id
  | follow listener => follow listener
  | unfollow id => unfollow id

namespace RecoveringChannel

variable {ω η κ : Type} (link : Link ω η κ)

/- Calls wait while a recovery is due, and so find none. -/
def undergo (self : RecoveringChannel ω η κ) : Occurrence ω → RecoveringChannel ω η κ
  | .call request => if self.status = .recovering then self else (self.call link request).2
  | .recover => (self.recover link).2
  | .settle attempts => self.settle link attempts
  | .signal change => self.act link change
  | .listen kind listener => (self.addListener kind listener).2
  | .unlisten kind id => (self.removeListener kind id).2
  | .follow listener => (self.addRecoveryListener listener).2
  | .unfollow id => (self.removeRecoveryListener id).2

def undergoAll (occurrences : List (Occurrence ω)) (self : RecoveringChannel ω η κ) : RecoveringChannel ω η κ :=
  occurrences.foldl (undergo link) self

theorem undergoViewed {α : Type} {wide : Link (ω × α) η κ} {link : Link ω η κ} (carries : wide.Carries Prod.fst link)
    (occurrence : Occurrence ω) (self : RecoveringChannel (ω × α) η κ) :
    (self.undergo wide occurrence.beside).viewed Prod.fst = (self.viewed Prod.fst).undergo link occurrence := by
  cases occurrence with
  | call request =>
    have called := congrArg Prod.snd (callViewed carries self request)
    dsimp only [undergo, Occurrence.beside]
    rw [apply_ite (viewed Prod.fst), called]
    rfl
  | recover => exact (congrArg Prod.snd (recoverViewed carries self)).symm
  | settle attempts => exact settleViewed carries attempts self
  | signal change => exact actViewed carries self rfl
  | listen | unlisten | follow | unfollow => rfl

end RecoveringChannel

namespace HeededChannel

variable {ω η κ : Type} (link : Link ω η κ)

structure Told (episodes : List Episode) (before after : HeededChannel ω η κ) : Prop where
  news : after.recoveryNews = before.recoveryNews ++ episodes.flatMap (Episode.news before.channel)
  ended : ∀ episode ∈ episodes, ∃ result, episode.Ended before.channel result
  channel : after.channel = before.channel

theorem Quiet.told {before after : HeededChannel ω η κ} (quiet : Quiet before after) : Told [] before after :=
  ⟨quiet.news.trans (List.append_nil _).symm, List.forall_mem_nil _, quiet.channel⟩

theorem Concluded.told {self : HeededChannel ω η κ} {outcome : Except Error Unit × HeededChannel ω η κ}
    {episode : Episode} (concluded : Concluded self outcome episode) : Told [episode] self outcome.2 where
  news := by rw [concluded.news, List.flatMap_singleton]
  ended := List.forall_mem_singleton.mpr ⟨_, concluded.ended⟩
  channel := concluded.channel

theorem Told.trans {episodes more : List Episode} {before middle after : HeededChannel ω η κ}
    (one : Told episodes before middle) (two : Told more middle after) : Told (episodes ++ more) before after where
  news := by rw [two.news, one.news, one.channel, List.append_assoc, List.flatMap_append]
  ended := List.forall_mem_append.mpr ⟨one.ended, one.channel ▸ two.ended⟩
  channel := two.channel.trans one.channel

def HeardByAll (episodes : List Episode) (before after : HeededChannel ω η κ) : Prop :=
  (∀ episode ∈ episodes, episode.audience = before.recoveryListeners.entries) ∧
    after.recoveryListeners = before.recoveryListeners

theorem retryTold (attempts : Nat) (self : HeededChannel ω η κ) :
    ∃ episodes, Told episodes self (self.retry link.heeded.taped attempts) ∧
      HeardByAll episodes self (self.retry link.heeded.taped attempts) := by
  induction attempts generalizing self with
  | zero => exact ⟨[], Quiet.told ⟨rfl, rfl, rfl⟩, List.forall_mem_nil _, rfl⟩
  | succ attempts ih =>
    obtain ⟨episode, concluded⟩ := runRecoveryConcluded link self
    have told := concluded.told
    have heard : HeardByAll [episode] self (self.runRecovery link.heeded.taped).2 :=
      ⟨List.forall_mem_singleton.mpr concluded.heardBy, concluded.audience⟩
    unfold RecoveringChannel.retry
    generalize self.runRecovery link.heeded.taped = outcome at told heard ⊢
    obtain ⟨e | ⟨⟩, next⟩ := outcome
    · dsimp only
      split
      · obtain ⟨more, later, all, same⟩ := ih { next with status := .recovering }
        have again : Told more next _ := ⟨later.news, later.ended, later.channel⟩
        refine ⟨episode :: more, told.trans again, ?_, same.trans heard.2⟩
        refine List.forall_mem_cons.mpr ⟨concluded.heardBy, fun other member => ?_⟩
        exact (all other member).trans (congrArg Registry.entries heard.2)
      · exact ⟨[episode], told, heard⟩
    · exact ⟨[episode], told, heard⟩

theorem callQuiet (self : HeededChannel ω η κ) (request : Request) :
    Quiet self (self.call link.heeded.taped request).2 := by
  unfold RecoveringChannel.call
  split
  · exact .refl self
  · split
    · exact .refl self
    · split
      · have closed : Quiet self { self with status := .closed, record := self.record.abandon.2 } := ⟨rfl, rfl, rfl⟩
        exact closed.trans (askQuiet link _ .close)
      · have asked := askQuiet link self (self.record.resolve request)
        exact ⟨asked.news, asked.audience, asked.channel⟩

abbrev undergone (self : HeededChannel ω η κ) (occurrence : Occurrence ω) : HeededChannel ω η κ :=
  self.undergo link.heeded.taped occurrence.beside.beside

structure Witnessed (occurrence : Occurrence ω) (episodes : List Episode) (before after : HeededChannel ω η κ) :
    Prop where
  told : Told episodes before after
  audience : ∀ episode ∈ episodes, episode.audience = before.recoveryListeners.entries
  fresh : before.recoveryListeners.Fresh → after.recoveryListeners.Fresh
  stays : ∀ entry ∈ before.recoveryListeners.entries,
    occurrence ≠ .unfollow entry.1 → entry ∈ after.recoveryListeners.entries

theorem Told.witnessed {episodes : List Episode} {before after : HeededChannel ω η κ}
    (told : Told episodes before after) (heard : HeardByAll episodes before after) (occurrence : Occurrence ω) :
    Witnessed occurrence episodes before after where
  told := told
  audience := heard.1
  fresh := fun fresh => heard.2 ▸ fresh
  stays := fun _ member _ => heard.2 ▸ member

theorem Quiet.witnessed {before after : HeededChannel ω η κ} (quiet : Quiet before after)
    (occurrence : Occurrence ω) : Witnessed occurrence [] before after :=
  quiet.told.witnessed ⟨List.forall_mem_nil _, quiet.audience⟩ occurrence

theorem undergoneWitnessed (self : HeededChannel ω η κ) (occurrence : Occurrence ω) :
    ∃ episodes, Witnessed occurrence episodes self (undergone link self occurrence) := by
  cases occurrence with
  | call request =>
    dsimp only [undergone, RecoveringChannel.undergo, Occurrence.beside]
    split
    · exact ⟨[], (Quiet.refl self).witnessed _⟩
    · exact ⟨[], (callQuiet link self request).witnessed _⟩
  | recover =>
    dsimp only [undergone, RecoveringChannel.undergo, Occurrence.beside]
    unfold RecoveringChannel.recover
    split
    · exact ⟨[], (Quiet.refl self).witnessed _⟩
    · exact ⟨[], (Quiet.refl self).witnessed _⟩
    · obtain ⟨episode, concluded⟩ := runRecoveryConcluded link { self with status := .recovering }
      have told := concluded.told
      have here : Told [episode] self _ := ⟨told.news, told.ended, told.channel⟩
      exact ⟨[episode], here.witnessed ⟨List.forall_mem_singleton.mpr concluded.heardBy, concluded.audience⟩ _⟩
  | settle attempts =>
    dsimp only [undergone, RecoveringChannel.undergo, Occurrence.beside]
    unfold RecoveringChannel.settle
    split
    · obtain ⟨episodes, told, heard⟩ := retryTold link attempts { self with due := false }
      have here : Told episodes self _ := ⟨told.news, told.ended, told.channel⟩
      exact ⟨episodes, here.witnessed heard _⟩
    · exact ⟨[], (Quiet.refl self).witnessed _⟩
  | signal change =>
    exact ⟨[], (actQuiet link self (Prod.map (Prod.map change id) id) fun _ => rfl).witnessed _⟩
  | listen kind listener =>
    have quiet : Quiet self (undergone link self (.listen kind listener)) := ⟨rfl, rfl, rfl⟩
    exact ⟨[], quiet.witnessed _⟩
  | unlisten kind id =>
    have quiet : Quiet self (undergone link self (.unlisten kind id)) := ⟨rfl, rfl, rfl⟩
    exact ⟨[], quiet.witnessed _⟩
  | follow listener =>
    refine ⟨[], ⟨(List.append_nil _).symm, List.forall_mem_nil _, rfl⟩, List.forall_mem_nil _, ?_, ?_⟩
    · exact fun fresh => fresh.add listener
    · exact fun entry member _ => Registry.addKeeps _ listener member
  | unfollow id =>
    refine ⟨[], ⟨(List.append_nil _).symm, List.forall_mem_nil _, rfl⟩, List.forall_mem_nil _, ?_, ?_⟩
    · exact fun fresh => fresh.remove id
    · intro entry member other
      refine Registry.removeKeeps member fun same => other ?_
      rw [same]

variable {link} {self : HeededChannel ω η κ}

theorem undergoneReachable (reachable : TapedChannel.Reachable link.heeded self) (occurrence : Occurrence ω) :
    TapedChannel.Reachable link.heeded (undergone link self occurrence) := by
  cases occurrence with
  | call request =>
    dsimp only [undergone, RecoveringChannel.undergo, Occurrence.beside]
    split
    · exact reachable
    · rename_i usable
      exact reachable.step (.call self request usable)
  | recover => exact reachable.recover
  | settle attempts => exact reachable.settle attempts
  | signal change =>
    exact (reachable.step (.disturb self (Prod.map change id self.world.1))).step (.attend _)
  | listen kind listener => exact reachable.step (.listen self kind listener)
  | unlisten kind id => exact reachable.step (.unlisten self kind id)
  | follow listener => exact reachable.step (.follow self listener)
  | unfollow id => exact reachable.step (.unfollow self id)

theorem undergoneClosed (reachable : TapedChannel.Reachable link.heeded self) (closed : self.status = .closed)
    (occurrence : Occurrence ω) :
    (undergone link self occurrence).status = .closed ∧
      (undergone link self occurrence).recoveryNews = self.recoveryNews ∧
      (undergone link self occurrence).tape = self.tape := by
  cases occurrence with
  | call request =>
    have refused : (self.call link.heeded.taped request).2 = self := by
      unfold RecoveringChannel.call
      cases request.check with
      | error e => rfl
      | ok => simp only [closed, if_true]
    have still : undergone link self (.call request) = self := by
      dsimp only [undergone, RecoveringChannel.undergo, Occurrence.beside]
      rw [refused, ite_self]
    rw [still]
    exact ⟨closed, rfl, rfl⟩
  | recover =>
    have refused : undergone link self .recover = self := by
      simp [undergone, RecoveringChannel.undergo, Occurrence.beside, RecoveringChannel.recover, closed]
    rw [refused]
    exact ⟨closed, rfl, rfl⟩
  | settle attempts =>
    have idle : self.due ≠ true := fun due => absurd (closed.symm.trans (reachable.sound.due due)) (by simp)
    have nothing : undergone link self (.settle attempts) = self := if_neg idle
    rw [nothing]
    exact ⟨closed, rfl, rfl⟩
  | signal change =>
    have grown := TapedChannel.actGrown link.heeded self (Prod.map (Prod.map change id) id) fun _ => rfl
    have busy : self.status ≠ .open := by simp [closed]
    exact ⟨(grown.calm busy).1.trans closed, (actQuiet link self (Prod.map (Prod.map change id) id) fun _ => rfl).news,
      grown.tape.trans (List.append_nil _)⟩
  | listen | unlisten | follow | unfollow => exact ⟨closed, rfl, rfl⟩

variable (link)

def undergoneAll (occurrences : List (Occurrence ω)) (self : HeededChannel ω η κ) : HeededChannel ω η κ :=
  occurrences.foldl (undergone link) self

def plain (self : HeededChannel ω η κ) : RecoveringChannel ω η κ := (self.viewed Prod.fst).viewed Prod.fst

theorem undergoneAllPlain (occurrences : List (Occurrence ω)) (self : HeededChannel ω η κ) :
    (undergoneAll link occurrences self).plain = self.plain.undergoAll link occurrences := by
  refine (List.foldl_hom plain fun self occurrence => ?_).symm
  have outer := RecoveringChannel.undergoViewed link.heeded.tapedCarries occurrence.beside self
  have inner := RecoveringChannel.undergoViewed link.heededCarries occurrence (self.viewed Prod.fst)
  exact inner.symm.trans (congrArg (RecoveringChannel.viewed Prod.fst) outer.symm)

variable {link}

theorem undergoneAllReachable (reachable : TapedChannel.Reachable link.heeded self)
    (occurrences : List (Occurrence ω)) : TapedChannel.Reachable link.heeded (undergoneAll link occurrences self) :=
  List.foldlRecOn _ _ reachable fun _ reachable occurrence _ => undergoneReachable reachable occurrence

theorem undergoneAllFresh (fresh : self.recoveryListeners.Fresh) (occurrences : List (Occurrence ω)) :
    (undergoneAll link occurrences self).recoveryListeners.Fresh :=
  List.foldlRecOn (motive := fun next : HeededChannel ω η κ => next.recoveryListeners.Fresh) _ _ fresh
    fun next fresh occurrence _ => (undergoneWitnessed link next occurrence).elim fun _ seen => seen.fresh fresh

theorem undergoneAllClosed (reachable : TapedChannel.Reachable link.heeded self) (closed : self.status = .closed)
    (occurrences : List (Occurrence ω)) :
    (undergoneAll link occurrences self).status = .closed ∧
      (undergoneAll link occurrences self).recoveryNews = self.recoveryNews ∧
      (undergoneAll link occurrences self).tape = self.tape := by
  induction occurrences generalizing self with
  | nil => exact ⟨closed, rfl, rfl⟩
  | cons occurrence rest ih =>
    obtain ⟨status, news, tape⟩ := undergoneClosed reachable closed occurrence
    obtain ⟨lastly, silent, unasked⟩ := ih (undergoneReachable reachable occurrence) status
    exact ⟨lastly, silent.trans news, unasked.trans tape⟩

theorem undergoneAllTold (fresh : self.recoveryListeners.Fresh) (occurrences : List (Occurrence ω)) :
    ∃ episodes, Told episodes self (undergoneAll link occurrences self) ∧
      ∀ episode ∈ episodes, (episode.audience.map Prod.fst).Nodup ∧
        ∀ entry ∈ self.recoveryListeners.entries, .unfollow entry.1 ∉ occurrences → entry ∈ episode.audience := by
  induction occurrences generalizing self with
  | nil => exact ⟨[], (Quiet.refl self).told, List.forall_mem_nil _⟩
  | cons occurrence rest ih =>
    obtain ⟨episodes, seen⟩ := undergoneWitnessed link self occurrence
    obtain ⟨more, later, heard⟩ := ih (seen.fresh fresh)
    refine ⟨episodes ++ more, seen.told.trans later, List.forall_mem_append.mpr ⟨fun episode member => ?_, ?_⟩⟩
    · rw [seen.audience episode member]
      exact ⟨fresh.distinct, fun entry registered _ => registered⟩
    · intro episode member
      obtain ⟨distinct, present⟩ := heard episode member
      refine ⟨distinct, fun entry registered throughout => ?_⟩
      obtain ⟨here, later⟩ := List.ne_and_not_mem_of_not_mem_cons throughout
      exact present entry (seen.stays entry registered here.symm) later

def listening (self : RecoveringChannel ω η κ) : HeededChannel ω η κ :=
  { self with world := ((self.world, []), []) }

theorem startListening {options : RecoveryOptions} {number : Option UInt16} {world after : ω}
    {self : RecoveringChannel ω η κ} (started : RecoveringChannel.start link options number world = (.ok self, after)) :
    RecoveringChannel.start link.heeded.taped options number ((world, []), [])
        = (.ok (listening self), ((after, []), [])) ∧
      self.recoveryListeners.Fresh := by
  unfold RecoveringChannel.start RecoveringChannel.reopen at *
  simp only [Link.taped, Link.heeded]
  rcases connected : link.connect world with ⟨e | connection, next⟩
  · simp [connected] at started
  · simp only [connected] at started ⊢
    rcases opened : link.openChannel connection number next with ⟨e | ⟨channel, delegate⟩, last⟩
    · simp [opened] at started
    · simp only [opened, Prod.mk.injEq, Except.ok.injEq, and_true] at started ⊢
      obtain ⟨rfl, rfl⟩ := started
      exact ⟨⟨rfl, rfl⟩, Registry.emptyFresh⟩

/- Whatever happened in between: one recovery after the other was heard of from start to end by all who were
registered throughout, and if the channel was closed it still is, unheard and unused. -/
structure Disciplined (occurrences : List (Occurrence ω)) (before after : HeededChannel ω η κ) : Prop where
  heard : ∃ episodes, Told episodes before after ∧
    ∀ episode ∈ episodes, (episode.audience.map Prod.fst).Nodup ∧
      ∀ entry ∈ before.recoveryListeners.entries, .unfollow entry.1 ∉ occurrences → entry ∈ episode.audience
  silent : before.status = .closed →
    after.status = .closed ∧ after.recoveryNews = before.recoveryNews ∧ after.tape = before.tape

theorem recoversWithDiscipline {options : RecoveryOptions} {number : Option UInt16} {world after : ω}
    {self : RecoveringChannel ω η κ} (started : RecoveringChannel.start link options number world = (.ok self, after))
    (earlier later : List (Occurrence ω)) :
    (undergoneAll link (earlier ++ later) (listening self)).plain = self.undergoAll link (earlier ++ later) ∧
      Disciplined later (undergoneAll link earlier (listening self))
        (undergoneAll link (earlier ++ later) (listening self)) ∧
      (∀ claimed : RecoveringChannel ω η κ, claimed.Attempted link (claimed.runRecovery link)) ∧
      ∀ claimed : HeededChannel ω η κ,
        ∃ episode, Concluded claimed (claimed.runRecovery link.heeded.taped) episode := by
  obtain ⟨began, fresh⟩ := startListening started
  have reached := undergoneAllReachable (.start began) earlier
  have onward : undergoneAll link (earlier ++ later) (listening self)
      = undergoneAll link later (undergoneAll link earlier (listening self)) := List.foldl_append
  refine ⟨undergoneAllPlain link _ _, ?_, RecoveringChannel.runRecoveryAttempted link, runRecoveryConcluded link⟩
  rw [onward]
  exact ⟨undergoneAllTold (undergoneAllFresh fresh earlier) later,
    fun closed => undergoneAllClosed reached closed later⟩

def rehearsedStart : RehearsedRecovery :=
  { options := {}, channel := 7, delegate := 0, connection := 1, generation := 1,
    world := (RecoveringChannel.start Rehearsal.link {} none {}).2 }

def rehearsedTroubles : List (Occurrence Rehearsal) :=
  [.signal (Rehearsal.changeScript fun script => { script with refuseConnect := 1 }), .recover, .recover,
    .call (.declareQueue "orders" {}),
    .signal (Rehearsal.changeScript fun script => { script with fail := "queue.declare" }), .recover, .recover]

theorem rehearsedDiscipline :
    Disciplined rehearsedTroubles
        (undergoneAll Rehearsal.link [.follow ⟨"ear", false, true⟩] (listening rehearsedStart))
        (undergoneAll Rehearsal.link ([.follow ⟨"ear", false, true⟩] ++ rehearsedTroubles) (listening rehearsedStart)) ∧
      (rehearsedStart.undergoAll Rehearsal.link
        ([.follow ⟨"ear", false, true⟩] ++ rehearsedTroubles)).status = .closed ∧
      (undergoneAll Rehearsal.link ([.follow ⟨"ear", false, true⟩] ++ rehearsedTroubles)
        (listening rehearsedStart)).recoveryNews.length = 6 := by
  have started : RecoveringChannel.start Rehearsal.link {} none {} = (.ok rehearsedStart, rehearsedStart.world) := rfl
  exact ⟨(recoversWithDiscipline started _ rehearsedTroubles).2.1, rfl, rfl⟩

end HeededChannel

end AmqpClient
