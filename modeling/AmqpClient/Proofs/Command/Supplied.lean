import AmqpClient.Proofs.Command.HandingOut
import AmqpClient.Declaration

/-! Commands that come with their body. What was supplied is what is handed out first, unless a header that
declares bytes is accepted before: it makes room for them in the place of the body that was supplied, and what
is handed out then are the bytes of frames. -/
namespace AmqpClient

def Frame.declares (frame : Frame) : Nat :=
  match frame.contentHeader with
  | .ok header => header.bodySize.toNat
  | .error _ => 0

theorem Frame.declaresTitled {frame : Frame} {header : ContentHeader} (titled : frame.contentHeader = .ok header) :
    frame.declares = header.bodySize.toNat := by
  rw [declares, titled]

namespace Assembler

theorem acceptHeaderKept {assembler next : Assembler} {header : ContentHeader} (sized : header.bodySize ≠ 0)
    (ok : assembler.acceptHeader header = .ok next) :
    next = { assembler with
      state := .expectingContentBody, remaining := header.bodySize, header := some header
      body := assembler.spill.keep header.bodySize [] } := by
  cases working : assembler.spill.directory with
  | true =>
    rw [acceptHeaderSized assembler working sized] at ok
    exact (Except.ok.inj ok).symm
  | false =>
    simp only [acceptHeader, if_neg sized, SpillOptions.create, working, Bool.false_eq_true, if_false] at ok
    split at ok
    · contradiction
    · rename_i small
      obtain rfl := Except.ok.inj ok
      simp only [SpillOptions.keep, if_neg small]

inductive Bearing (method : Method) (body : ContentBody) : List Frame → Assembler → Prop
  | waiting (spill : SpillOptions) : Bearing method body []
      { state := .expectingContentHeader, method := some method, body := .supplied body, spill }
  | whole {frames : List Frame} {assembler : Assembler} (complete : assembler.state = .complete)
      (held : assembler.body = .supplied body) (bare : ∀ frame ∈ frames, frame.declares = 0) :
      Bearing method body frames assembler
  | growing {spill : SpillOptions} {first : Frame} {header : ContentHeader} {bodies : List Frame}
      (titled : first.contentHeader = .ok header) (lacking : (bodyBytes bodies).length < header.bodySize.toNat) :
      Bearing method body (first :: bodies) (collecting spill method header (bodyBytes bodies))
  | replaced {spill : SpillOptions} {first : Frame} {header : ContentHeader} {bodies : List Frame}
      (titled : first.contentHeader = .ok header) (sized : 0 < header.bodySize.toNat)
      (total : (bodyBytes bodies).length = header.bodySize.toNat) :
      Bearing method body (first :: bodies) (collected spill method header (bodyBytes bodies))

variable {method : Method} {body : ContentBody} {frames : List Frame} {assembler next : Assembler}

theorem bearingAccept {frame : Frame} (bearing : Bearing method body frames assembler)
    (ok : assembler.accept frame = .ok next) : Bearing method body (frames ++ [frame]) next := by
  cases bearing with
  | waiting spill =>
    obtain ⟨header, titled, accepted⟩ := (acceptHeaderIff rfl).mp ok
    by_cases zero : header.bodySize = 0
    · rw [acceptHeaderEmpty _ zero] at accepted
      obtain rfl := Except.ok.inj accepted
      refine .whole rfl rfl (List.forall_mem_singleton.mpr ?_)
      rw [Frame.declaresTitled titled, zero]
      rfl
    · obtain rfl := acceptHeaderKept zero accepted
      have lacking : 0 < header.bodySize.toNat :=
        Nat.pos_of_ne_zero fun empty => zero (UInt64.toNat_inj.mp empty)
      have growing := @Bearing.growing method body spill frame header [] titled lacking
      simpa [collecting] using growing
  | @growing spill first header bodies titled lacking =>
    obtain ⟨only, outcome⟩ := (acceptCollecting lacking).mp ok
    have bytes : bodyBytes bodies ++ frame.payload = bodyBytes (bodies ++ [frame]) := by
      simp [Frame.bodyBytes, only]
    rw [bytes] at outcome
    obtain ⟨fewer, rfl⟩ | ⟨total, rfl⟩ := outcome
    · exact .growing titled fewer
    · exact .replaced titled (Nat.zero_lt_of_lt lacking) total
  | whole complete =>
    rw [acceptComplete complete] at ok
    contradiction
  | replaced =>
    rw [acceptComplete rfl] at ok
    contradiction

theorem bearingStarts (method : Method) (header : Option ContentHeader) (body : ContentBody)
    (spill : SpillOptions) :
    ∃ start, ofMethod method header (some body) spill = .ok start ∧ Bearing method body [] start ∧
      (header.isSome = true ∨ method.hasContent = false → start.state = .complete) := by
  have nothing : ∀ frame ∈ ([] : List Frame), frame.declares = 0 := List.forall_mem_nil _
  cases header with
  | some header => exact ⟨_, rfl, .whole rfl rfl nothing, fun _ => rfl⟩
  | none =>
    cases content : method.hasContent with
    | false =>
      refine ⟨_, rfl, .whole ?_ rfl nothing, fun _ => ?_⟩ <;> simp [content]
    | true =>
      refine ⟨_, rfl, ?_, fun shape => ?_⟩
      · simpa [content] using .waiting spill
      · simp at shape

namespace Usage

def actFrom (start : Assembler) (acts : List Act) : Usage := acts.foldl act { assembler := start }

theorem handedBefore {usage : Usage} {move : Act} (nothing : (usage.act move).handed = []) : usage.handed = [] := by
  cases move with
  | feed frame =>
    simp only [act] at nothing
    split at nothing <;> exact nothing
  | take =>
    simp only [act] at nothing
    split at nothing
    · exact (List.append_eq_nil_iff.mp nothing).1
    · exact nothing

theorem bearing {start : Assembler} (begun : Bearing method body [] start) (acts : List Act) :
    (actFrom start acts).handed = [] →
      Bearing method body (actFrom start acts).accepted (actFrom start acts).assembler := by
  refine List.foldlRecOn (motive := fun usage : Usage =>
    usage.handed = [] → Bearing method body usage.accepted usage.assembler) acts act (fun _ => begun) ?_
  intro usage bearing move _ nothing
  have before := bearing (handedBefore nothing)
  cases move with
  | feed frame =>
    simp only [act, feed]
    cases ok : usage.assembler.accept frame with
    | error e => exact before
    | ok next => exact bearingAccept before ok
  | take =>
    simp only [act] at nothing ⊢
    rcases outcome : usage.assembler.takeBody with ⟨e | body, next⟩
    · obtain rfl := takeBodyRefused outcome
      exact before
    · simp [outcome] at nothing

theorem completeAccepts {start : Assembler} (complete : start.state = .complete) (acts : List Act) :
    (actFrom start acts).accepted = [] := by
  suffices (actFrom start acts).accepted = [] ∧ (actFrom start acts).assembler.state = .complete from this.1
  refine List.foldlRecOn (motive := fun usage : Usage =>
    usage.accepted = [] ∧ usage.assembler.state = .complete) acts act ⟨rfl, complete⟩ ?_
  rintro usage ⟨nothing, whole⟩ move _
  cases move with
  | feed frame => simpa only [act, feed, acceptComplete whole] using ⟨nothing, whole⟩
  | take =>
    simp only [act]
    rcases outcome : usage.assembler.takeBody with ⟨e | body, next⟩
    · obtain rfl := takeBodyRefused outcome
      exact ⟨nothing, whole⟩
    · obtain ⟨_, rfl⟩ := takeBodyTaken outcome
      exact ⟨nothing, whole⟩

end Usage

/- What the first body that is handed out is: the one supplied, or the bytes that took its place. -/
inductive FirstHanded (body : ContentBody) (accepted : List Frame) (taken : ContentBody) : Prop
  | supplied (bare : ∀ frame ∈ accepted, frame.declares = 0) (same : taken = body)
  | fromFrames (replaced : ∃ frame ∈ accepted, frame.declares ≠ 0)
      (length : taken.length.toNat = (bodyBytes accepted).length)
      (bytes : taken.remainder = .ok (bodyBytes accepted))

theorem bearingTake (bearing : Bearing method body frames assembler)
    (ready : assembler.state ≠ .expectingContentBody) :
    ∃ taken next, assembler.takeBody = (.ok taken, next) ∧ FirstHanded body frames taken := by
  cases bearing with
  | waiting spill => exact ⟨body, _, rfl, .supplied (List.forall_mem_nil _) rfl⟩
  | whole complete held bare =>
    refine ⟨body, { assembler with body := .taken }, ?_, .supplied bare rfl⟩
    simp only [takeBody, if_neg ready, held]
  | growing => exact absurd rfl ready
  | @replaced spill first header bodies titled sized total =>
    obtain ⟨taken, next, outcome, length, remainder⟩ := keepRest spill header.bodySize (bodyBytes bodies)
      (collected spill method header (bodyBytes bodies)) rfl rfl
    have bytes : bodyBytes (first :: bodies) = bodyBytes bodies := by
      rw [bodyBytesCons, Frame.bodyBytesOfHeader titled, List.nil_append]
    refine ⟨taken, next, outcome, .fromFrames ⟨first, List.mem_cons_self, ?_⟩ ?_ (bytes ▸ remainder)⟩
    · rw [Frame.declaresTitled titled]
      omega
    · rw [bytes, length]
      exact UInt64.toNat_ofNat_of_lt' (total ▸ header.bodySize.toNat_lt)

/- The body that came with a command is the first one handed out exactly if no header that declares bytes is
accepted before, which takes a method with content and no header of its own. -/
theorem suppliedUnlessReplaced (method : Method) (header : Option ContentHeader) (body : ContentBody)
    (spill : SpillOptions) (acts : List Act) :
    ∃ start, ofMethod method header (some body) spill = .ok start ∧
      (header.isSome = true ∨ method.hasContent = false → (Usage.actFrom start acts).accepted = []) ∧
      ((Usage.actFrom start acts).handed = [] →
        ((Usage.actFrom start acts).assembler.state ≠ .expectingContentBody ↔
          ∃ taken next, (Usage.actFrom start acts).assembler.takeBody = (.ok taken, next)) ∧
        ∀ taken next, (Usage.actFrom start acts).assembler.takeBody = (.ok taken, next) →
          ((∀ frame ∈ (Usage.actFrom start acts).accepted, frame.declares = 0) → taken = body) ∧
          ((∃ frame ∈ (Usage.actFrom start acts).accepted, frame.declares ≠ 0) →
            taken.length.toNat = (bodyBytes (Usage.actFrom start acts).accepted).length ∧
            taken.remainder = .ok (bodyBytes (Usage.actFrom start acts).accepted))) := by
  obtain ⟨start, built, begun, complete⟩ := bearingStarts method header body spill
  refine ⟨start, built, fun shape => Usage.completeAccepts (complete shape) acts, fun nothing => ?_⟩
  have bearing := Usage.bearing begun acts nothing
  generalize Usage.actFrom start acts = usage at bearing ⊢
  refine ⟨⟨fun ready => ?_, fun ⟨taken, next, outcome⟩ => (takeBodyTaken outcome).1⟩, ?_⟩
  · obtain ⟨taken, next, outcome, _⟩ := bearingTake bearing ready
    exact ⟨taken, next, outcome⟩
  · intro taken next outcome
    obtain ⟨first, _, same, handed⟩ := bearingTake bearing (takeBodyTaken outcome).1
    obtain rfl : taken = first := by
      rw [outcome] at same
      exact Except.ok.inj (Prod.mk.inj same).1
    cases handed with
    | supplied bare same => exact ⟨fun _ => same, fun ⟨frame, member, more⟩ => absurd (bare frame member) more⟩
    | fromFrames replaced length bytes =>
      refine ⟨fun bare => ?_, fun _ => ⟨length, bytes⟩⟩
      obtain ⟨frame, member, more⟩ := replaced
      exact absurd (bare frame member) more

set_option maxRecDepth 1000 in
theorem suppliedAfterEmptyHeader :
    ∃ start, ofMethod (({ routingKey := "", body := .empty } : Publish).method "") none
        (some (.ofBytes [1, 2, 3])) {} = .ok start ∧
      ∃ next, (Usage.actFrom start [.feed (.body 1 [9]), .feed ⟨.header, 1, [0, 60, 0, 0, 0, 0, 0, 0, 0, 0, 0, 0, 0, 0]⟩,
        .feed (.body 1 [9])]).assembler.takeBody = (.ok (.ofBytes [1, 2, 3]), next) := by
  obtain ⟨start, built, _, first⟩ := suppliedUnlessReplaced (({ routingKey := "", body := .empty } : Publish).method "")
    none (.ofBytes [1, 2, 3]) {} [.feed (.body 1 [9]), .feed ⟨.header, 1, [0, 60, 0, 0, 0, 0, 0, 0, 0, 0, 0, 0, 0, 0]⟩,
      .feed (.body 1 [9])]
  obtain rfl := Except.ok.inj built
  obtain ⟨succeeds, handed⟩ := first rfl
  obtain ⟨taken, next, outcome⟩ := succeeds.mp (by decide)
  obtain rfl := (handed taken next outcome).1 (by decide)
  exact ⟨_, rfl, next, outcome⟩

set_option maxRecDepth 1000 in
theorem suppliedReplaced :
    ∃ start, ofMethod (({ routingKey := "", body := .empty } : Publish).method "") none
        (some (.ofBytes [1])) {} = .ok start ∧
      ∃ usage, usage = Usage.actFrom start
          [.feed ⟨.header, 1, [0, 60, 0, 0, 0, 0, 0, 0, 0, 0, 0, 2, 0, 0]⟩, .feed (.body 1 [5, 6]), .take] ∧
        usage.handed.map (fun body => body.remainder) = [.ok [5, 6]] ∧
        usage.handed.head? ≠ some (.ofBytes [1]) := by
  refine ⟨_, rfl, _, rfl, rfl, fun same => ?_⟩
  have length := congrArg ContentBody.length (Option.some.inj same)
  exact absurd length (by decide)

end Assembler

end AmqpClient
