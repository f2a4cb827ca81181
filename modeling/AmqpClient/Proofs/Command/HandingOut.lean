import AmqpClient.Proofs.Command.Grammar

/-! Handing out a body at any time. What an assembler hands out before the header of its command is empty, and
a header that then declares bytes makes room for a body once more, which is handed out as well. In every other
run there is at most one body, and it is the whole body of the command. -/
namespace AmqpClient.Assembler

inductive Act
  | feed (frame : Frame)
  | take

/- An assembler in use, with the frames that it has accepted, the bodies that it has handed out, and whether it
has made room for a body after that. -/
structure Usage where
  assembler : Assembler
  accepted : List Frame := []
  handed : List ContentBody := []
  refilled : Bool := false

namespace Usage

def act (usage : Usage) : Act → Usage
  | .feed frame =>
    match usage.assembler.feed frame with
    | (.ok _, assembler) =>
      { assembler
        accepted := usage.accepted ++ [frame]
        handed := usage.handed
        refilled := usage.refilled || (usage.assembler.state == .expectingContentHeader
          && assembler.state == .expectingContentBody && !usage.handed.isEmpty) }
    | (.error _, assembler) => { usage with assembler }
  | .take =>
    match usage.assembler.takeBody with
    | (.ok body, assembler) => { usage with assembler, handed := usage.handed ++ [body] }
    | (.error _, assembler) => { usage with assembler }

def actAll (spill : SpillOptions) (acts : List Act) : Usage := acts.foldl act { assembler := { spill } }

end Usage

theorem takeBodyTaken {assembler next : Assembler} {body : ContentBody}
    (taken : assembler.takeBody = (.ok body, next)) :
    assembler.state ≠ .expectingContentBody ∧ next = { assembler with body := .taken } := by
  unfold takeBody at taken
  split at taken
  · cases taken
  · rename_i ready
    dsimp only at taken
    split at taken <;> cases taken <;> exact ⟨ready, rfl⟩

theorem takeBodyRefused {assembler next : Assembler} {e : Error} (refused : assembler.takeBody = (.error e, next)) :
    next = assembler := by
  unfold takeBody at refused
  split at refused
  · cases refused
    rfl
  · dsimp only at refused
    split at refused <;> cases refused
    rename_i gone
    rw [← gone]

theorem takeBodyGone {assembler : Assembler} (gone : assembler.body = .taken) :
    ∃ e, assembler.takeBody = (.error e, assembler) := by
  cases outcome : assembler.takeBody with
  | mk result next =>
    cases result with
    | error e => exact ⟨e, by rw [takeBodyRefused outcome]⟩
    | ok body =>
      obtain ⟨ready, _⟩ := takeBodyTaken outcome
      simp [takeBody, ready, gone] at outcome

inductive Before (assembler : Assembler) : Bool → List ContentBody → Prop
  | nothing : Before assembler false []
  | empty {header : ContentHeader} (titled : assembler.header = some header) (sized : header.bodySize ≠ 0) :
      Before assembler true [ContentBody.empty]

inductive Standing (spill : SpillOptions) : Usage → Prop
  | kept {assembler : Assembler} {accepted : List Frame} {handed : List ContentBody} {refilled : Bool}
      (progress : Progress spill accepted assembler) (before : Before assembler refilled handed) :
      Standing spill ⟨assembler, accepted, handed, refilled⟩
  | given {assembler next : Assembler} {accepted : List Frame} {handed : List ContentBody} {refilled : Bool}
      {body : ContentBody} (progress : Progress spill accepted assembler)
      (before : Before assembler refilled handed) (taken : assembler.takeBody = (.ok body, next)) :
      Standing spill ⟨next, accepted, handed ++ [body], refilled⟩

variable {spill : SpillOptions} {frames : List Frame} {assembler next : Assembler} {frame : Frame}

theorem progressTitled {header : ContentHeader} (progress : Progress spill frames assembler)
    (titled : assembler.header = some header) (ok : assembler.accept frame = .ok next) :
    next.header = some header := by
  cases progress with
  | fresh | bare | announced => contradiction
  | empty | whole =>
    rw [acceptComplete rfl] at ok
    contradiction
  | growing opening only lacking =>
    obtain ⟨_, ⟨_, rfl⟩ | ⟨_, rfl⟩⟩ := (acceptCollecting lacking).mp ok <;> exact titled

theorem Standing.took {usage : Usage} (standing : Standing spill usage) : Standing spill (usage.act .take) := by
  cases standing with
  | @kept assembler accepted handed refilled progress before =>
    simp only [Usage.act]
    rcases outcome : assembler.takeBody with ⟨e | body, next⟩
    · obtain rfl := takeBodyRefused outcome
      exact .kept progress before
    · exact .given progress before outcome
  | @given assembler next accepted handed refilled body progress before taken =>
    obtain ⟨_, rfl⟩ := takeBodyTaken taken
    obtain ⟨e, refused⟩ := @takeBodyGone { assembler with body := .taken } rfl
    simp only [Usage.act, refused]
    exact .given progress before taken

theorem Before.early {refilled : Bool} {handed : List ContentBody} (before : Before assembler refilled handed)
    (untitled : assembler.header = none) : refilled = false ∧ handed = [] := by
  cases before with
  | nothing => exact ⟨rfl, rfl⟩
  | empty titled sized =>
    rw [untitled] at titled
    contradiction

theorem givenAccept (working : spill.directory = true) {body : ContentBody} {after : Assembler}
    (progress : Progress spill frames assembler) (taken : assembler.takeBody = (.ok body, next))
    (ok : next.accept frame = .ok after) :
    assembler.header = none ∧ body = .empty ∧
      ((∃ base, Progress spill (frames ++ [frame]) base ∧ base.takeBody = (.ok .empty, after)) ∨
        next.state = .expectingContentHeader ∧ after.state = .expectingContentBody ∧
          Progress spill (frames ++ [frame]) after ∧ Before after true [.empty]) := by
  cases progress with
  | fresh =>
    cases taken
    obtain ⟨method, parsed, rfl⟩ := (acceptMethodIff rfl).mp ok
    refine ⟨rfl, rfl, .inl ?_⟩
    cases content : method.hasContent with
    | false => exact ⟨_, .bare parsed content, rfl⟩
    | true => exact ⟨_, .announced parsed content, rfl⟩
  | announced parsed content =>
    cases taken
    obtain ⟨header, titled, accepted⟩ := (acceptHeaderIff rfl).mp ok
    refine ⟨rfl, rfl, ?_⟩
    by_cases zero : header.bodySize = 0
    · rw [acceptHeaderEmpty _ zero] at accepted
      cases accepted
      exact .inl ⟨_, .empty ⟨parsed, content, titled⟩ zero, rfl⟩
    · rw [acceptHeaderSized _ working zero] at accepted
      cases accepted
      have lacking : 0 < header.bodySize.toNat :=
        Nat.pos_of_ne_zero fun empty => zero (UInt64.toNat_inj.mp empty)
      have nothing : ∀ body ∈ ([] : List Frame), body.kind = .body := List.forall_mem_nil _
      have growing : Progress spill _ _ := Progress.growing ⟨parsed, content, titled⟩ nothing lacking
      exact .inr ⟨rfl, rfl, by simpa [collecting] using growing, .empty rfl zero⟩
  | growing => cases taken
  | bare | empty | whole =>
    obtain ⟨_, rfl⟩ := takeBodyTaken taken
    rw [acceptComplete rfl] at ok
    contradiction

theorem Standing.fed (working : spill.directory = true) {usage : Usage} (standing : Standing spill usage)
    (frame : Frame) : Standing spill (usage.act (.feed frame)) := by
  cases standing with
  | @kept assembler accepted handed refilled progress before =>
    simp only [Usage.act, feed]
    cases ok : assembler.accept frame with
    | error e => exact .kept progress before
    | ok next =>
      refine .kept (progressAccept working progress ok) ?_
      cases before with
      | nothing => simpa using .nothing
      | empty titled sized => simpa using .empty (progressTitled progress titled ok) sized
  | @given assembler next accepted handed refilled body progress before taken =>
    simp only [Usage.act, feed]
    cases ok : next.accept frame with
    | error e => exact .given progress before taken
    | ok after =>
      obtain ⟨untitled, rfl, ⟨base, further, gone⟩ | ⟨waiting, going, further, again⟩⟩ :=
        givenAccept working progress taken ok
      · obtain ⟨rfl, rfl⟩ := before.early untitled
        obtain ⟨ready, rfl⟩ := takeBodyTaken gone
        have unready : (base.state == .expectingContentBody) = false := beq_eq_false_iff_ne.mpr ready
        simpa [unready] using Standing.given further .nothing gone
      · obtain ⟨rfl, rfl⟩ := before.early untitled
        simpa [waiting, going] using Standing.kept further again

theorem standing (working : spill.directory = true) (acts : List Act) : Standing spill (Usage.actAll spill acts) := by
  refine List.foldlRecOn (motive := Standing spill) acts Usage.act (.kept .fresh .nothing) ?_
  intro usage standing act _
  cases act with
  | feed frame => exact standing.fed working frame
  | take => exact standing.took

def Whole (usage : Usage) (body : ContentBody) : Prop :=
  body.length.toNat = (bodyBytes usage.accepted).length ∧ body.remainder = .ok (bodyBytes usage.accepted)

theorem progressWhole {body : ContentBody} (progress : Progress spill frames assembler)
    (complete : assembler.state = .complete) (taken : assembler.takeBody = (.ok body, next)) :
    body.length.toNat = (bodyBytes frames).length ∧ body.remainder = .ok (bodyBytes frames) := by
  obtain ⟨_, _, outcome, whole⟩ := progressBody progress complete
  rw [taken] at outcome
  cases outcome
  exact whole

theorem progressSized {header : ContentHeader} (progress : Progress spill frames assembler)
    (complete : assembler.state = .complete) (titled : assembler.header = some header) :
    (bodyBytes frames).length = header.bodySize.toNat := by
  have remaining := progressRemaining progress
  have positive := progressPositive progress
  rw [complete] at positive
  simp only [titled, Option.map_some, Option.getD_some, reduceCtorEq, iff_false] at remaining positive
  omega

/- There is one body at most, and it is whole, exactly if no header that declares bytes is accepted after a body
was handed out. -/
theorem handedOnceAndWhole (spill : SpillOptions) (working : spill.directory = true) (acts : List Act) :
    ((Usage.actAll spill acts).refilled = false → (Usage.actAll spill acts).handed.length ≤ 1) ∧
      ((Usage.actAll spill acts).assembler.state = .complete →
        ((Usage.actAll spill acts).refilled = false ↔
          (Usage.actAll spill acts).handed.length ≤ 1 ∧
            ∀ body ∈ (Usage.actAll spill acts).handed, Whole (Usage.actAll spill acts) body)) := by
  have standing := standing working acts
  generalize Usage.actAll spill acts = usage at standing ⊢
  cases standing with
  | kept progress before =>
    cases before with
    | nothing => simp
    | empty titled sized =>
      refine ⟨fun once => by contradiction, fun complete => ⟨fun once => by contradiction, fun only => ?_⟩⟩
      have whole := (only.2 _ (List.mem_singleton_self _)).1
      rw [progressSized progress complete titled] at whole
      exact absurd (UInt64.toNat_inj.mp whole.symm) sized
  | given progress before taken =>
    cases before with
    | nothing =>
      refine ⟨fun _ => Nat.le_refl _, fun complete => iff_of_true rfl ⟨Nat.le_refl _, ?_⟩⟩
      obtain ⟨_, rfl⟩ := takeBodyTaken taken
      exact List.forall_mem_singleton.mpr (progressWhole progress complete taken)
    | empty titled sized => simp

set_option maxRecDepth 1000 in
theorem askedThreeTimes :
    ({ threshold := 0 } : SpillOptions).directory = true ∧
      (Usage.actAll { threshold := 0 }
        [.feed ⟨.method, 1, [0, 60, 0, 71, 0, 0, 0, 0, 0, 0, 0, 1, 0, 0, 0, 0, 0, 0, 0]⟩,
          .feed ⟨.header, 1, [0, 60, 0, 0, 0, 0, 0, 0, 0, 0, 0, 2, 0, 0]⟩, .feed (.body 1 [5]), .take,
          .feed (.body 1 [6]), .take, .take]).handed.map (fun body => body.remainder) = [.ok [5, 6]] ∧
      (Usage.actAll { threshold := 0 }
        [.feed ⟨.method, 1, [0, 60, 0, 71, 0, 0, 0, 0, 0, 0, 0, 1, 0, 0, 0, 0, 0, 0, 0]⟩,
          .feed ⟨.header, 1, [0, 60, 0, 0, 0, 0, 0, 0, 0, 0, 0, 2, 0, 0]⟩, .feed (.body 1 [5]), .take,
          .feed (.body 1 [6]), .take, .take]).handed.length ≤ 1 :=
  ⟨rfl, rfl, (handedOnceAndWhole { threshold := 0 } rfl _).1 rfl⟩

set_option maxRecDepth 1000 in
theorem emptyBeforeWhole :
    ({} : SpillOptions).directory = true ∧
      ∃ usage, usage = Usage.actAll {}
          [.take, .feed ⟨.method, 1, [0, 60, 0, 71, 0, 0, 0, 0, 0, 0, 0, 1, 0, 0, 0, 0, 0, 0, 0]⟩,
            .feed ⟨.header, 1, [0, 60, 0, 0, 0, 0, 0, 0, 0, 0, 0, 2, 0, 0]⟩, .feed (.body 1 [5, 6]), .take] ∧
        usage.assembler.state = .complete ∧
        usage.handed.map (fun body => body.remainder) = [.ok [], .ok [5, 6]] ∧
        ¬ ∀ body ∈ usage.handed, Whole usage body := by
  refine ⟨rfl, _, rfl, rfl, rfl, fun whole => ?_⟩
  exact absurd (whole .empty List.mem_cons_self).1 (by decide)

end AmqpClient.Assembler
