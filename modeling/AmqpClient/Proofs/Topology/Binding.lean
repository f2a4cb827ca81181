import AmqpClient.Proofs.Field.Comparing
import AmqpClient.Proofs.Field.Reading
import AmqpClient.Proofs.Topology.Operations
import Mathlib.Data.List.Pairwise

/-! Bindings recorded once. Bindings are told apart by value, so that one with what is not a number among its
arguments is never found again; and a queue's new name can bring two of them together. Where neither happens there is
one record of each binding, and it goes when it is asked for. -/
namespace AmqpClient

namespace RecordedBinding

structure Agrees (one other : RecordedBinding) : Prop where
  kind : one.kind = other.kind
  source : one.source = other.source
  destination : one.destination = other.destination
  routingKey : one.routingKey = other.routingKey
  arguments : one.arguments.write = other.arguments.write

variable {one other binding : RecordedBinding}

theorem Agrees.refl (binding : RecordedBinding) : binding.Agrees binding := ⟨rfl, rfl, rfl, rfl, rfl⟩

theorem Agrees.symm (agrees : one.Agrees other) : other.Agrees one :=
  ⟨agrees.kind.symm, agrees.source.symm, agrees.destination.symm, agrees.routingKey.symm, agrees.arguments.symm⟩

def Readable (binding : RecordedBinding) : Prop :=
  binding.arguments.write.length < UInt32.size ∧ binding.arguments.Throughout KeysSound

theorem Agrees.equal (agrees : one.Agrees other) (readable : one.Readable) (legible : other.Readable) :
    one = other := by
  have first := FieldTable.readWriteOf readable.1 readable.2 []
  have second := FieldTable.readWriteOf legible.1 legible.2 []
  rw [agrees.arguments] at first
  obtain ⟨kind, source, destination, routingKey, arguments⟩ := one
  obtain ⟨rfl, rfl, rfl, rfl, _⟩ := agrees
  have same : arguments = other.arguments := (Prod.mk.inj (Option.some.inj (first.symm.trans second))).1
  subst same
  rfl

theorem sameIff : one.same other = true ↔ one.kind = other.kind ∧ one.source = other.source ∧
    one.destination = other.destination ∧ one.routingKey = other.routingKey ∧
    one.arguments.same other.arguments = true := by
  simp only [same, Bool.and_eq_true, beq_iff_eq, and_assoc]

theorem sameNumeric (found : one.same other = true) : other.arguments.Numeric :=
  FieldTable.sameNumeric (sameIff.mp found).2.2.2.2

theorem sameItself : binding.same binding = true ↔ binding.arguments.Numeric :=
  ⟨sameNumeric, fun numeric => sameIff.mpr ⟨rfl, rfl, rfl, rfl, FieldTable.sameItself numeric⟩⟩

end RecordedBinding

namespace Topology

variable {topology next : Topology} {binding : RecordedBinding} {old new : String}

def Knows (topology : Topology) (binding : RecordedBinding) : Prop :=
  ∃ known ∈ topology.bindings, known.same binding = true

theorem recordBindingKnown (knows : topology.Knows binding) : topology.recordBinding binding = topology :=
  if_pos (List.any_eq_true.mpr knows)

theorem recordBindingNew (unknown : ¬ topology.Knows binding) :
    (topology.recordBinding binding).bindings = topology.bindings ++ [binding] := by
  rw [recordBinding, if_neg (fun found => unknown (List.any_eq_true.mp found))]

theorem recordBindingMember {known : RecordedBinding} : known ∈ (topology.recordBinding binding).bindings ↔
    known ∈ topology.bindings ∨ known = binding ∧ ¬ topology.Knows binding := by
  by_cases knows : topology.Knows binding
  · simp [recordBindingKnown knows, knows]
  · simp [recordBindingNew knows, knows]

theorem recordBindingKnows (numeric : binding.arguments.Numeric) : (topology.recordBinding binding).Knows binding := by
  by_cases knows : topology.Knows binding
  · rwa [recordBindingKnown knows]
  · refine ⟨binding, ?_, RecordedBinding.sameItself.mpr numeric⟩
    rw [recordBindingNew knows]
    exact List.mem_append_right _ List.mem_cons_self

theorem knowsNumeric (knows : topology.Knows binding) : binding.arguments.Numeric := by
  obtain ⟨known, _, same⟩ := knows
  exact RecordedBinding.sameNumeric same

theorem recordTwice : ((topology.recordBinding binding).recordBinding binding).bindings
    = (topology.recordBinding binding).bindings ↔ binding.arguments.Numeric := by
  constructor
  · intro again
    by_contra other
    have unknown (topology : Topology) : ¬ topology.Knows binding := fun knows => other (knowsNumeric knows)
    rw [recordBindingNew (unknown _)] at again
    simp at again
  · intro numeric
    rw [recordBindingKnown (recordBindingKnows numeric)]

theorem deleteBindingKnown : (topology.deleteBinding binding).1 = true ↔ topology.Knows binding := by
  unfold deleteBinding
  dsimp only
  split
  · rename_i whole
    refine iff_of_false Bool.false_ne_true ?_
    rintro ⟨known, member, same⟩
    have kept := List.length_filter_eq_length_iff.mp whole known member
    rw [same] at kept
    cases kept
  · rename_i part
    refine iff_of_true rfl ?_
    by_contra unknown
    refine part (List.length_filter_eq_length_iff.mpr fun known member => ?_)
    rw [Bool.not_eq_true']
    exact Bool.eq_false_iff.mpr fun same => unknown ⟨known, member, same⟩

theorem unusedUnbound (unused : topology.isUnusedExchange new = true) {known : RecordedBinding}
    (member : known ∈ topology.bindings) : known.source ≠ new := by
  unfold isUnusedExchange at unused
  split at unused
  · have alone := (Bool.and_eq_true_iff.mp unused).2
    rw [Bool.not_eq_true', List.any_eq_false] at alone
    exact fun same => alone known member (beq_iff_eq.mpr same)
  · cases unused

theorem deleteBindingLeft {known : RecordedBinding} (source : known.source = binding.source) :
    known ∈ (topology.deleteBinding binding).2.bindings ↔
      known ∈ topology.bindings ∧ known.same binding = false := by
  unfold deleteBinding
  dsimp only
  split
  · rename_i whole
    have kept := List.length_filter_eq_length_iff.mp whole
    exact ⟨fun member => ⟨member, Bool.not_eq_true' _ ▸ kept known member⟩, And.left⟩
  · have filtered : known ∈ (topology.bindings.filter fun other => !(other.same binding)) ↔
        known ∈ topology.bindings ∧ known.same binding = false := by simp
    refine Iff.trans ?_ filtered
    unfold deleteUnusedExchange
    split
    · rename_i unused
      refine ⟨fun member => ?_, fun member => absurd source (unusedUnbound unused member)⟩
      exact (deleteExchangeForgets _ binding.source).bindings.subset member
    · rfl

theorem noneLeft :
    (∀ known ∈ ((topology.recordBinding binding).deleteBinding binding).2.bindings, ¬ known.Agrees binding) ↔
      binding.arguments.Numeric ∧ ∀ known ∈ topology.bindings, known.Agrees binding → known.same binding = true := by
  constructor
  · intro gone
    have same (known : RecordedBinding) (member : known ∈ (topology.recordBinding binding).bindings)
        (agrees : known.Agrees binding) : known.same binding = true := by
      by_contra other
      exact gone known ((deleteBindingLeft agrees.source).mpr ⟨member, Bool.eq_false_iff.mpr other⟩) agrees
    refine ⟨?_, fun known member => same known (recordBindingMember.mpr (.inl member))⟩
    by_cases knows : topology.Knows binding
    · exact knowsNumeric knows
    · exact RecordedBinding.sameItself.mp (same binding (recordBindingMember.mpr (.inr ⟨rfl, knows⟩)) (.refl binding))
  · rintro ⟨numeric, same⟩ known member agrees
    obtain ⟨here, differs⟩ := (deleteBindingLeft agrees.source).mp member
    rw [← Bool.not_eq_true] at differs
    rcases recordBindingMember.mp here with before | ⟨rfl, _⟩
    · exact differs (same known before agrees)
    · exact differs (RecordedBinding.sameItself.mpr numeric)

def Unrepeated (topology : Topology) : Prop := topology.bindings.Pairwise fun one other => ¬ one.Agrees other

theorem Unrepeated.sublist (apart : Unrepeated topology) (fewer : next.bindings.Sublist topology.bindings) :
    Unrepeated next :=
  List.Pairwise.sublist fewer apart

theorem recordBindingApart (apart : Unrepeated topology) : Unrepeated (topology.recordBinding binding) ↔
    ∀ known ∈ topology.bindings, known.Agrees binding → topology.Knows binding := by
  by_cases knows : topology.Knows binding
  · rw [recordBindingKnown knows]
    exact iff_of_true apart fun _ _ _ => knows
  · unfold Unrepeated
    rw [recordBindingNew knows, List.pairwise_append]
    constructor
    · rintro ⟨_, _, between⟩ known member agrees
      exact absurd agrees (between known member binding List.mem_cons_self)
    · intro all
      refine ⟨apart, List.pairwise_singleton .., fun known member other same agrees => ?_⟩
      obtain rfl := List.mem_singleton.mp same
      exact knows (all known member agrees)

def redirected (old new : String) (binding : RecordedBinding) : RecordedBinding :=
  if binding.leadsTo .queue old then { binding with destination := new } else binding

theorem renameQueueBindings (known : old ∈ topology.queues.keys) (other : new ≠ old) :
    (topology.renameQueue old new).bindings = topology.bindings.map (redirected old new) := by
  obtain ⟨queue, found⟩ := Catalog.findKnown known
  have differ : ¬ (old == new) = true := fun same => other (beq_iff_eq.mp same).symm
  unfold renameQueue
  rw [if_neg differ, found]
  rfl

theorem leadsToIff {kind : BindingKind} {name : String} :
    binding.leadsTo kind name = true ↔ binding.kind = kind ∧ binding.destination = name := by
  simp only [RecordedBinding.leadsTo, Bool.and_eq_true, beq_iff_eq]

theorem redirectedAgree {one other : RecordedBinding}
    (agrees : (redirected old new one).Agrees (redirected old new other)) (apart : ¬ one.Agrees other) :
    (one.leadsTo .queue old = true ∧ other.Agrees { one with destination := new }) ∨
      (other.leadsTo .queue old = true ∧ one.Agrees { other with destination := new }) := by
  by_cases moved : one.leadsTo .queue old = true
  · by_cases along : other.leadsTo .queue old = true
    · have same := (leadsToIff.mp moved).2.trans (leadsToIff.mp along).2.symm
      simp only [redirected, moved, along, if_true] at agrees
      exact absurd ⟨agrees.kind, agrees.source, same, agrees.routingKey, agrees.arguments⟩ apart
    · simp only [redirected, moved, along, if_true] at agrees
      exact .inl ⟨moved, agrees.symm⟩
  · by_cases along : other.leadsTo .queue old = true
    · simp only [redirected, moved, along, if_true] at agrees
      exact .inr ⟨along, agrees⟩
    · simp only [redirected, moved, along] at agrees
      exact absurd agrees apart

theorem redirectedApart (apart : Unrepeated topology) (differ : new ≠ old) :
    (topology.bindings.map (redirected old new)).Pairwise (fun one other => ¬ one.Agrees other) ↔
      ∀ moved ∈ topology.bindings, moved.leadsTo .queue old = true → ∀ known ∈ topology.bindings,
        ¬ known.Agrees { moved with destination := new } := by
  rw [List.pairwise_map]
  constructor
  · intro after moved member leads known there agrees
    have still : ¬ known.leadsTo .queue old = true := fun along =>
      differ (agrees.destination.symm.trans (leadsToIff.mp along).2)
    have distinct : known ≠ moved := fun same => still (same ▸ leads)
    have meet : (redirected old new known).Agrees (redirected old new moved) := by
      rwa [redirected, if_neg still, redirected, if_pos leads]
    have both : Std.Symm fun one other => ¬ (redirected old new one).Agrees (redirected old new other) :=
      ⟨fun _ _ apart agrees => apart agrees.symm⟩
    exact after.forall there member distinct meet
  · intro all
    refine List.Pairwise.imp_of_mem (fun one other apart agrees => ?_) apart
    rcases redirectedAgree agrees apart with ⟨leads, meet⟩ | ⟨leads, meet⟩
    · exact all _ one leads _ other meet
    · exact all _ other leads _ one meet

/- An operation brings no two bindings together: one that is recorded is found if it is there, and no binding of a
queue that gets a new name has its like under that name already. -/
def Operation.Distinguishing (topology : Topology) : Operation → Prop
  | .recordBinding binding => ∀ known ∈ topology.bindings, known.Agrees binding → topology.Knows binding
  | .renameQueue old new => old ∈ topology.queues.keys → new ≠ old →
      ∀ moved ∈ topology.bindings, moved.leadsTo .queue old = true → ∀ known ∈ topology.bindings,
        ¬ known.Agrees { moved with destination := new }
  | _ => True

theorem apartStep (apart : Unrepeated topology) (operation : Operation) :
    Unrepeated (topology.perform operation) ↔ operation.Distinguishing topology := by
  cases forgets : operation.forgets with
  | true =>
    obtain ⟨gone, forgotten⟩ := topology.performForgets forgets
    refine iff_of_true (apart.sublist forgotten.bindings) ?_
    cases operation with
    | recordBinding | renameQueue => cases forgets
    | _ => trivial
  | false =>
    cases operation with
    | recordQueue queue => exact iff_of_true apart trivial
    | recordConsumer consumer => exact iff_of_true apart trivial
    | recordBinding binding => exact recordBindingApart apart
    | renameQueue old new =>
      by_cases moves : old ∈ topology.queues.keys ∧ new ≠ old
      · obtain ⟨known, other⟩ := moves
        rw [perform, Unrepeated, renameQueueBindings known other, redirectedApart apart other]
        exact ⟨fun all _ _ => all, fun all => all known other⟩
      · rw [perform, renameQueueNothing moves]
        exact iff_of_true apart fun known other => absurd ⟨known, other⟩ moves
    | _ => cases forgets

/- A binding is recorded once and unbound again exactly if its arguments are numbers wherever they are floating-point
values, and nothing that agrees with it is left exactly if what agrees with it is found equal to it as well; of
arguments that are read back only the same ones agree. All along a run there is one binding of those that agree
exactly if no operation brings two of them together. -/
theorem recordedOnceExactly (operations : List Operation) (binding : RecordedBinding) :
    let topology := run operations
    let once := topology.recordBinding binding
    let unbound := once.deleteBinding binding
    ((once.recordBinding binding).bindings = once.bindings ↔ binding.arguments.Numeric) ∧
      (unbound.1 = true ↔ binding.arguments.Numeric) ∧
      ((∀ known ∈ unbound.2.bindings, ¬ known.Agrees binding) ↔ binding.arguments.Numeric ∧
        ∀ known ∈ topology.bindings, known.Agrees binding → known.same binding = true) ∧
      (binding.Readable → ∀ known : RecordedBinding, known.Readable → known.Agrees binding → known = binding) ∧
      ((∀ part, part <+: operations → Unrepeated (run part)) ↔ Throughout Operation.Distinguishing operations) := by
  intro topology once unbound
  refine ⟨recordTwice, deleteBindingKnown.trans ⟨knowsNumeric, recordBindingKnows⟩, noneLeft,
    fun legible known readable agrees => agrees.equal readable legible, ?_⟩
  exact throughoutExactly Unrepeated Operation.Distinguishing List.Pairwise.nil
    (fun before operation apart => apartStep apart operation) operations

theorem unequalRecordedTwice :
    let odd : RecordedBinding := ⟨.queue, "e", "q", "k", .cons "x" (.double 0x7FF8000000000000) .nil⟩
    let first : RecordedBinding := ⟨.queue, "e", "a", "k", .nil⟩
    let second : RecordedBinding := ⟨.queue, "e", "b", "k", .nil⟩
    let queue : RecordedQueue := ⟨"a", {}, true⟩
    (run [.recordBinding odd, .recordBinding odd]).bindings = [odd, odd] ∧
      (run [.recordBinding odd]).deleteBinding odd = (false, run [.recordBinding odd]) ∧
      (run [.recordQueue queue, .recordBinding first, .recordBinding second, .renameQueue "a" "b"]).bindings
        = [second, second] := by
  decide

end Topology

end AmqpClient
