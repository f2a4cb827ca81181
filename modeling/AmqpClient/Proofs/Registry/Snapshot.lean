import AmqpClient.Proofs.Registry
import AmqpClient.Registry
import Mathlib.Data.List.Induction

/-! Whom a notification calls. A listener may do anything to the registry that calls it, and may notify in turn. Who
is registered at any time is told by a log of all registrations and removals so far, and a pass calls exactly those
who were registered before it started. -/
namespace AmqpClient.Registry

variable {α ε σ : Type}

/- What a listener does, step by step, and may make depend on what it learns: from the registry, or from a world that
all share. -/
inductive Program (α ε σ : Type)
  | done
  | fail
  | add (listener : α) (next : ListenerId → Program α ε σ)
  | remove (id : ListenerId) (next : Bool → Program α ε σ)
  | clear (next : Program α ε σ)
  | look (next : List (ListenerId × α) → Program α ε σ)
  | notify (event : ε) (next : Program α ε σ)
  | read (next : σ → Program α ε σ)
  | write (world : σ) (next : Program α ε σ)

inductive Note (α : Type)
  | added (id : ListenerId) (listener : α)
  | removed (id : ListenerId)
  | cleared
  | started (pass : Nat)
  | called (pass : Nat) (listener : α)
  deriving DecidableEq, Repr

structure Scene (α σ : Type) where
  registry : Registry α := {}
  log : List (Note α) := []
  passes : Nat := 0
  world : σ

def perform (sound : ε → Scene α σ → Scene α σ) : Program α ε σ → Scene α σ → Scene α σ
  | .done, scene => scene
  | .fail, scene => scene
  | .add listener next, scene =>
    let (id, registry) := scene.registry.add listener
    perform sound (next id) { scene with registry, log := scene.log ++ [.added id listener] }
  | .remove id next, scene =>
    let (found, registry) := scene.registry.remove id
    perform sound (next found) { scene with registry, log := scene.log ++ [.removed id] }
  | .clear next, scene =>
    perform sound next { scene with registry := scene.registry.clear, log := scene.log ++ [.cleared] }
  | .look next, scene => perform sound (next scene.registry.entries) scene
  | .notify event next, scene => perform sound next (sound event scene)
  | .read next, scene => perform sound (next scene.world) scene
  | .write world next, scene => perform sound next { scene with world }

def sound (behave : α → ε → Program α ε σ) : (depth : Nat) → ε → Scene α σ → Scene α σ
  | 0, _, scene => scene
  | depth + 1, event, scene =>
    Registry.notify Scene.registry
      (fun called listener => perform (sound behave depth) (behave listener event)
        { called with log := called.log ++ [.called scene.passes listener] })
      { scene with passes := scene.passes + 1, log := scene.log ++ [.started scene.passes] }

/-! Who is registered -/

def Note.apply (registry : Registry α) : Note α → Registry α
  | .added _ listener => (registry.add listener).2
  | .removed id => (registry.remove id).2
  | .cleared => registry.clear
  | .started _ => registry
  | .called _ _ => registry

def replay (log : List (Note α)) : Registry α := log.foldl Note.apply {}

def calls (pass : Nat) (log : List (Note α)) : List α :=
  log.filterMap fun
    | .called other listener => if other = pass then some listener else none
    | _ => none

def addedIds (log : List (Note α)) : List ListenerId :=
  log.filterMap fun
    | .added id _ => some id
    | _ => none

def Standing (log : List (Note α)) (id : ListenerId) (listener : α) : Prop :=
  ∃ before after, log = before ++ .added id listener :: after ∧ .removed id ∉ after ∧ .cleared ∉ after

def Truthful (log : List (Note α)) : Prop :=
  ∀ before id listener after, log = before ++ .added id listener :: after → id = (replay before).next

variable {log before after : List (Note α)} {note mark : Note α} {id : ListenerId} {listener : α}

theorem splitLast (split : log ++ [note] = before ++ mark :: after) :
    (log = before ∧ note = mark ∧ after = []) ∨ ∃ front, after = front ++ [note] ∧ log = before ++ mark :: front := by
  rcases List.eq_nil_or_concat after with rfl | ⟨front, last, rfl⟩
  · obtain ⟨same, final⟩ := List.append_inj' split rfl
    exact .inl ⟨same, List.head_eq_of_cons_eq final, rfl⟩
  · rw [List.concat_eq_append, ← List.cons_append, ← List.append_assoc] at split
    obtain ⟨same, final⟩ := List.append_inj' split rfl
    obtain rfl := List.head_eq_of_cons_eq final
    exact .inr ⟨front, List.concat_eq_append, same⟩

theorem replayNote (log : List (Note α)) (note : Note α) : replay (log ++ [note]) = note.apply (replay log) := by
  rw [replay, List.foldl_append]
  rfl

theorem InTurn.clear {registry : Registry α} : registry.clear.InTurn := ⟨List.Pairwise.nil, List.forall_mem_nil _⟩

theorem InTurn.apply {registry : Registry α} (inTurn : registry.InTurn) (note : Note α) : (note.apply registry).InTurn := by
  cases note with
  | added _ listener => exact inTurn.add listener
  | removed id => exact inTurn.remove id
  | cleared => exact InTurn.clear
  | started => exact inTurn
  | called => exact inTurn

theorem replayInTurn (log : List (Note α)) : (replay log).InTurn := by
  induction log using List.reverseRecOn with
  | nil => exact emptyInTurn
  | append_singleton log note ih =>
    rw [replayNote]
    exact ih.apply note

theorem Truthful.front (truthful : Truthful (log ++ after)) : Truthful log := fun before id listener rest split =>
  truthful before id listener (rest ++ after) (by rw [split, List.append_assoc, List.cons_append])

theorem standingNote (log : List (Note α)) (note : Note α) (id : ListenerId) (listener : α) :
    Standing (log ++ [note]) id listener ↔
      note = .added id listener ∨ (Standing log id listener ∧ note ≠ .removed id ∧ note ≠ .cleared) := by
  constructor
  · rintro ⟨before, after, split, kept, uncleared⟩
    rcases splitLast split with ⟨rfl, rfl, rfl⟩ | ⟨front, rfl, rfl⟩
    · exact .inl rfl
    · simp only [List.mem_append, List.mem_singleton, not_or] at kept uncleared
      exact .inr ⟨⟨before, front, rfl, kept.1, uncleared.1⟩, fun same => kept.2 same.symm, fun same => uncleared.2 same.symm⟩
  · rintro (rfl | ⟨⟨before, after, rfl, kept, uncleared⟩, other, another⟩)
    · exact ⟨log, [], rfl, List.not_mem_nil, List.not_mem_nil⟩
    · refine ⟨before, after ++ [note], by rw [List.append_assoc, List.cons_append], ?_, ?_⟩
      · simpa [kept] using other.symm
      · simpa [uncleared] using another.symm

theorem standingIff (truthful : Truthful log) : (id, listener) ∈ (replay log).entries ↔ Standing log id listener := by
  induction log using List.reverseRecOn with
  | nil =>
    constructor
    · exact nofun
    · rintro ⟨before, after, split, _⟩
      simp at split
  | append_singleton log note ih =>
    have ih := ih truthful.front
    rw [replayNote, standingNote]
    cases note with
    | added given newcomer =>
      obtain rfl := truthful log given newcomer [] rfl
      simp [Note.apply, add, ih, or_comm, eq_comm]
    | removed other => simp [Note.apply, remove, ih, @eq_comm _ id other]
    | cleared => simp [Note.apply, clear]
    | started => simp [Note.apply, ih]
    | called => simp [Note.apply, ih]

theorem addedIdsNote (log : List (Note α)) (note : Note α) :
    addedIds (log ++ [note]) = addedIds log ++ addedIds [note] := List.filterMap_append

theorem idsRise (truthful : Truthful log) :
    (addedIds log).Pairwise (· < ·) ∧ ∀ id ∈ addedIds log, id < (replay log).next := by
  induction log using List.reverseRecOn with
  | nil => exact ⟨List.Pairwise.nil, List.forall_mem_nil _⟩
  | append_singleton log note ih =>
    obtain ⟨rising, below⟩ := ih truthful.front
    rw [addedIdsNote, replayNote]
    cases note with
    | added given newcomer =>
      obtain rfl := truthful log given newcomer [] rfl
      refine ⟨List.pairwise_append.mpr ⟨rising, List.pairwise_singleton .., fun id member next last => ?_⟩,
        List.forall_mem_append.mpr ⟨fun id member => Nat.lt_succ_of_lt (below id member),
          List.forall_mem_singleton.mpr (Nat.lt_succ_self _)⟩⟩
      exact List.mem_singleton.mp last ▸ below id member
    | _ =>
      rw [show addedIds [_] = [] from rfl, List.append_nil]
      exact ⟨rising, below⟩

/-! Passes -/

theorem callsNote (pass : Nat) (log : List (Note α)) (note : Note α) :
    calls pass (log ++ [note]) = calls pass log ++ calls pass [note] := List.filterMap_append

/- What is true of a run at any time, where some passes have still to call some listeners. -/
structure Kept (scene : Scene α σ) (due : Nat → List α) : Prop where
  told : scene.registry = replay scene.log
  truthful : Truthful scene.log
  exact : ∀ before pass after, scene.log = before ++ .started pass :: after →
    calls pass before = [] ∧ calls pass after ++ due pass = (replay before).listeners
  begun : ∀ pass, .started pass ∈ scene.log ↔ pass < scene.passes
  ahead : ∀ pass, scene.passes ≤ pass → calls pass scene.log = [] ∧ due pass = []

variable {scene : Scene α σ} {due : Nat → List α}

theorem Truthful.snoc (truthful : Truthful log) (given : ∀ id listener, note = .added id listener → id = (replay log).next) :
    Truthful (log ++ [note]) := by
  intro before id listener after split
  rcases splitLast split with ⟨rfl, same, rfl⟩ | ⟨front, rfl, rfl⟩
  · exact given id listener same
  · exact truthful before id listener front rfl

theorem Kept.change (kept : Kept scene due) (note : Note α)
    (given : ∀ id listener, note = .added id listener → id = scene.registry.next) (quiet : ∀ pass, calls pass [note] = [])
    (unmarked : ∀ pass, note ≠ .started pass) :
    Kept { scene with registry := note.apply scene.registry, log := scene.log ++ [note] } due := by
  constructor
  · rw [replayNote, ← kept.told]
  · exact kept.truthful.snoc (kept.told ▸ given)
  · intro before pass after split
    rcases splitLast split with ⟨_, marked, _⟩ | ⟨front, rfl, known⟩
    · exact absurd marked (unmarked pass)
    · rw [callsNote, quiet, List.append_nil]
      exact kept.exact before pass front known
  · intro pass
    rw [List.mem_append, List.mem_singleton, kept.begun, or_iff_left (unmarked pass).symm]
  · intro pass higher
    rw [callsNote, quiet, List.append_nil]
    exact kept.ahead pass higher

theorem Kept.start (kept : Kept scene due) :
    Kept { scene with passes := scene.passes + 1, log := scene.log ++ [.started scene.passes] }
      (Function.update due scene.passes scene.registry.listeners) := by
  have unheard (pass other : Nat) : calls pass [Note.started (α := α) other] = [] := rfl
  constructor
  · rw [replayNote]
    exact kept.told
  · exact kept.truthful.snoc nofun
  · intro before pass after split
    rcases splitLast split with ⟨rfl, marked, rfl⟩ | ⟨front, rfl, known⟩
    · cases marked
      rw [Function.update_self, ← kept.told]
      exact ⟨(kept.ahead _ (Nat.le_refl _)).1, rfl⟩
    · have lower : pass < scene.passes := (kept.begun pass).mp (by rw [known]; simp)
      rw [callsNote, unheard, List.append_nil, Function.update_of_ne (Nat.ne_of_lt lower)]
      exact kept.exact before pass front known
  · intro pass
    rw [List.mem_append, List.mem_singleton, kept.begun, Note.started.injEq, Nat.lt_succ_iff_lt_or_eq]
  · intro pass higher
    obtain ⟨uncalled, none⟩ := kept.ahead pass (Nat.le_of_succ_le higher)
    rw [callsNote, unheard, List.append_nil, Function.update_of_ne (Nat.ne_of_gt higher)]
    exact ⟨uncalled, none⟩

theorem Kept.call {pass : Nat} {rest : List α} (kept : Kept scene due) (next : due pass = listener :: rest) :
    Kept { scene with log := scene.log ++ [.called pass listener] } (Function.update due pass rest) := by
  have own : calls pass [Note.called pass listener] = [listener] := by simp [calls]
  have unheard {other : Nat} (differs : other ≠ pass) : calls other [Note.called pass listener] = [] := by
    simp [calls, differs.symm]
  have running : pass < scene.passes := by
    refine Nat.lt_of_not_le fun higher => ?_
    rw [(kept.ahead pass higher).2] at next
    cases next
  constructor
  · rw [replayNote]
    exact kept.told
  · exact kept.truthful.snoc nofun
  · intro before other after split
    rcases splitLast split with ⟨_, marked, _⟩ | ⟨front, rfl, known⟩
    · cases marked
    · obtain ⟨unheardBefore, exact⟩ := kept.exact before other front known
      refine ⟨unheardBefore, ?_⟩
      by_cases same : other = pass
      · subst same
        rw [next] at exact
        rw [callsNote, own, Function.update_self, List.append_assoc, List.singleton_append, exact]
      · rw [callsNote, unheard same, List.append_nil, Function.update_of_ne same, exact]
  · intro other
    rw [List.mem_append, List.mem_singleton, kept.begun, or_iff_left nofun]
  · intro other higher
    have differs : other ≠ pass := Nat.ne_of_gt (Nat.lt_of_lt_of_le running higher)
    rw [callsNote, unheard differs, List.append_nil, Function.update_of_ne differs]
    exact kept.ahead other higher

theorem Kept.perform {sound : ε → Scene α σ → Scene α σ}
    (sounds : ∀ event scene due, Kept scene due → Kept (sound event scene) due) (program : Program α ε σ)
    (kept : Kept scene due) : Kept (perform sound program scene) due := by
  induction program generalizing scene with
  | done => exact kept
  | fail => exact kept
  | add listener next ih =>
    refine ih _ (kept.change (.added scene.registry.next listener) ?_ (fun _ => rfl) nofun)
    exact fun _ _ same => (Note.added.inj same).1.symm
  | remove id next ih => exact ih _ (kept.change (.removed id) nofun (fun _ => rfl) nofun)
  | clear next ih => exact ih (kept.change .cleared nofun (fun _ => rfl) nofun)
  | look next ih => exact ih _ kept
  | notify event next ih => exact ih (sounds event scene due kept)
  | read next ih => exact ih _ kept
  | write world next ih => exact ih ⟨kept.told, kept.truthful, kept.exact, kept.begun, kept.ahead⟩

theorem Kept.passOn {pass : Nat} {react : Scene α σ → α → Scene α σ}
    (reacts : ∀ listener scene due, Kept scene due → Kept (react scene listener) due) (listeners : List α)
    (kept : Kept scene (Function.update due pass listeners)) :
    Kept (listeners.foldl
      (fun called listener => react { called with log := called.log ++ [.called pass listener] } listener) scene)
      (Function.update due pass []) := by
  induction listeners generalizing scene with
  | nil => exact kept
  | cons listener rest ih =>
    have called := kept.call (Function.update_self ..)
    rw [Function.update_idem] at called
    exact ih (reacts listener _ _ called)

theorem Kept.sound (behave : α → ε → Program α ε σ) (depth : Nat) (event : ε) (scene : Scene α σ) (due : Nat → List α)
    (kept : Kept scene due) : Kept (sound behave depth event scene) due := by
  induction depth generalizing event scene due with
  | zero => exact kept
  | succ depth ih =>
    have finished := kept.start.passOn (fun listener scene due kept => Kept.perform ih (behave listener event) kept)
      scene.registry.listeners
    have nothing : Function.update due scene.passes [] = due :=
      Function.update_eq_self_iff.mpr (kept.ahead _ (Nat.le_refl _)).2.symm
    rw [nothing] at finished
    exact finished

theorem Kept.empty (world : σ) : Kept ({ world } : Scene α σ) (fun _ => []) where
  told := rfl
  truthful := fun before _ _ _ split => by simp at split
  exact := fun before _ _ split => by simp at split
  begun := fun pass => by simp
  ahead := fun _ _ => ⟨rfl, rfl⟩

/- Whatever a program and the listeners do, up to any depth of nested notifications: each pass calls, one after the
other, exactly the listeners that were registered when it started, which are those that were added and since then
neither removed nor cleared away, in the order of their ids; and the ids that are given out rise all along. -/
theorem snapshotCalled (behave : α → ε → Program α ε σ) (depth : Nat) (program : Program α ε σ) (world : σ) :
    let final := perform (sound behave depth) program { world }
    final.registry = replay final.log ∧
    (∀ before pass after, final.log = before ++ .started pass :: after →
      calls pass before = [] ∧ calls pass after = (replay before).listeners) ∧
    (∀ pass, calls pass final.log ≠ [] → .started pass ∈ final.log) ∧
    (∀ before after, final.log = before ++ after → (replay before).ids.Pairwise (· < ·) ∧
      ∀ id listener, (id, listener) ∈ (replay before).entries ↔ Standing before id listener) ∧
    (addedIds final.log).Pairwise (· < ·) := by
  intro final
  have kept : Kept final fun _ => [] := Kept.perform (Kept.sound behave depth) program (Kept.empty world)
  refine ⟨kept.told, fun before pass after split => ?_, fun pass called => ?_, fun before after split => ?_,
    (idsRise kept.truthful).1⟩
  · obtain ⟨unheard, exact⟩ := kept.exact before pass after split
    exact ⟨unheard, (List.append_nil _).symm.trans exact⟩
  · refine (kept.begun pass).mpr (Nat.lt_of_not_le fun higher => ?_)
    exact called (kept.ahead pass higher).1
  · have truthful := kept.truthful
    rw [split] at truthful
    exact ⟨(replayInTurn before).rising, fun id listener => standingIff truthful.front⟩

/-! Reactors are listeners whose programs take one step -/

def program (reactor : Reactor) (event : String) : Program Reactor String (List (String × String)) :=
  .read fun calls => .write (calls ++ [(reactor.label, event)]) <|
    match reactor.reaction with
    | .nothing => .done
    | .fail => .fail
    | .add other => .add other fun _ => .done
    | .remove id => .remove id fun _ => .done
    | .clear => .clear .done
    | .notify => if event.utf8ByteSize < Sounding.longEvent then .notify (Sounding.echo event) .done else .done

def Scene.sounding (scene : Scene Reactor (List (String × String))) : Sounding := ⟨scene.registry, scene.world⟩

theorem soundPrograms (depth : Nat) (event : String) (scene : Scene Reactor (List (String × String))) :
    (sound program (depth + 1) event scene).sounding = Sounding.notifyWithin depth event scene.sounding := by
  induction depth generalizing event scene with
  | zero =>
    rw [sound, Sounding.notifyWithin, Registry.notify, Registry.notify]
    refine (List.foldl_hom Scene.sounding fun called reactor => ?_).symm
    cases reaction : reactor.reaction with
    | notify => by_cases short : event.utf8ByteSize < Sounding.longEvent <;> simp [program, short, perform, reaction] <;> rfl
    | _ => simp only [program, perform, reaction, Scene.sounding]
  | succ depth ih =>
    rw [sound, Sounding.notifyWithin, Registry.notify, Registry.notify]
    refine (List.foldl_hom Scene.sounding fun called reactor => ?_).symm
    cases reaction : reactor.reaction with
    | notify =>
      by_cases short : event.utf8ByteSize < Sounding.longEvent
      · simp only [program, if_pos short, perform, reaction, ih]
        rfl
      · simp only [program, if_neg short, perform, reaction]
        rfl
    | _ => simp only [program, perform, reaction, Scene.sounding]

/- The first nests a notification, the second takes out the third, and the third fails. -/
def registrations : List (Note Reactor) :=
  [.added 0 (.mk "nesting" .notify), .added 1 (.mk "removing" (.remove 2)), .added 2 (.mk "failing" .fail)]

def meddling : Program Reactor String (List (String × String)) :=
  .add (.mk "nesting" .notify) fun _ => .add (.mk "removing" (.remove 2)) fun _ => .add (.mk "failing" .fail) fun _ =>
    .notify "event++" .done

theorem meddlingSnapshotCalled :
    let final := perform (sound program 2) meddling { world := [] }
    ∃ after, final.log = registrations ++ .started 0 :: after ∧ .removed 2 ∈ after ∧
      (calls 0 registrations = [] ∧ calls 0 after = (replay registrations).listeners) ∧
      (calls 1 final.log ≠ [] ∧ .started 1 ∈ final.log) ∧
      ((replay registrations).ids.Pairwise (· < ·) ∧
        ∀ id listener, (id, listener) ∈ (replay registrations).entries ↔ Standing registrations id listener) := by
  intro final
  have split : final.log = registrations ++ .started 0 :: final.log.drop 4 := by decide
  obtain ⟨_, exact, begun, standing, _⟩ := snapshotCalled program 2 meddling []
  have heard : calls 1 final.log ≠ [] := by decide
  exact ⟨_, split, by decide, exact _ _ _ split, ⟨heard, begun 1 heard⟩, standing _ _ split⟩

end AmqpClient.Registry
