import AmqpClient.Proofs.Topology.Forgetting
import Mathlib.Order.Bounds.Basic

/-! What goes along with a deleted exchange, queue or binding. An auto-delete exchange goes with the last
binding that starts at it, and with it go the bindings into it, at whose start the same may happen again,
around any cycle. Which exchanges go is the least set that is closed under this rule, whatever the order in
which they are looked at. -/
namespace AmqpClient.Topology

def withoutExchange (topology : Topology) (name : String) : Topology :=
  { topology with
    exchanges := topology.exchanges.erase name
    bindings := topology.bindings.filter fun binding =>
      !(binding.leadsTo .exchange name) && binding.source != name }

def sourcesInto (topology : Topology) (name : String) : List String :=
  (topology.bindings.filter fun binding => binding.leadsTo .exchange name).map RecordedBinding.source

/- Looks at exchanges one after another and drops those that are unused. For each that goes the sources of the
bindings into it are looked at first, in the order that `visit` puts them. Nothing bounds the depth here, so
that there is a derivation only where this ends. -/
inductive Sweeps (visit : List String → List String) : List String → Topology → Topology → Prop
  | done (topology : Topology) : Sweeps visit [] topology topology
  | kept {name : String} {rest : List String} {topology next : Topology}
      (used : topology.isUnusedExchange name = false) (later : Sweeps visit rest topology next) :
      Sweeps visit (name :: rest) topology next
  | dropped {name : String} {rest : List String} {topology middle next : Topology}
      (unused : topology.isUnusedExchange name = true)
      (nested : Sweeps visit (visit (topology.sourcesInto name)) (topology.withoutExchange name) middle)
      (later : Sweeps visit rest middle next) : Sweeps visit (name :: rest) topology next

def sweepWithin (visit : List String → List String) : (fuel : Nat) → List String → Topology → Topology
  | 0, _, topology => topology
  | fuel + 1, names, topology =>
    names.foldl
      (fun topology name =>
        if topology.isUnusedExchange name then
          sweepWithin visit fuel (visit (topology.sourcesInto name)) (topology.withoutExchange name)
        else topology)
      topology

section

variable {visit : List String → List String} {topology next : Topology} {name : String} {sources : List String}

theorem unusedRecorded (unused : topology.isUnusedExchange name = true) :
    ∃ exchange, topology.exchange? name = some exchange ∧ exchange.options.autoDelete = true ∧
      ∀ binding ∈ topology.bindings, binding.source ≠ name := by
  unfold isUnusedExchange at unused
  split at unused
  · rename_i exchange found
    refine ⟨exchange, found, ?_⟩
    simpa using unused
  · contradiction

theorem unusedIff {exchange : RecordedExchange} (found : topology.exchange? name = some exchange)
    (auto : exchange.options.autoDelete = true) :
    topology.isUnusedExchange name = true ↔ ∀ binding ∈ topology.bindings, binding.source ≠ name := by
  simp [isUnusedExchange, found, auto]

theorem eraseFewer (unused : topology.isUnusedExchange name = true) :
    (topology.withoutExchange name).exchanges.items.length < topology.exchanges.items.length := by
  obtain ⟨exchange, found, _⟩ := unusedRecorded unused
  obtain ⟨member, rfl⟩ := Catalog.findSome found
  exact List.length_filter_lt_length_iff_exists.mpr ⟨exchange, member, by simp⟩

theorem Sweeps.fewer (sweeps : Sweeps visit sources topology next) :
    next.exchanges.items.length ≤ topology.exchanges.items.length := by
  induction sweeps with
  | done => exact Nat.le_refl _
  | kept used later ih => exact ih
  | dropped unused nested later inner outer =>
    exact Nat.le_trans outer (Nat.le_trans inner (Nat.le_of_lt (eraseFewer unused)))

/- Each exchange that goes was recorded, so that their number bounds the depth. -/
theorem sweepWithinSweeps (fuel : Nat) (sources : List String) (topology : Topology)
    (enough : topology.exchanges.items.length ≤ fuel) :
    Sweeps visit sources topology (sweepWithin visit fuel sources topology) := by
  induction fuel generalizing sources topology with
  | zero =>
    induction sources with
    | nil => exact .done topology
    | cons name rest ih =>
      refine .kept (Bool.eq_false_iff.mpr fun unused => ?_) ih
      have fewer := eraseFewer unused
      omega
  | succ fuel deeper =>
    induction sources generalizing topology with
    | nil => exact .done topology
    | cons name rest ih =>
      cases unused : topology.isUnusedExchange name with
      | false =>
        have first : sweepWithin visit (fuel + 1) (name :: rest) topology
            = sweepWithin visit (fuel + 1) rest topology := by
          simp only [sweepWithin, List.foldl_cons, unused, Bool.false_eq_true, if_false]
        rw [first]
        exact .kept unused (ih topology enough)
      | true =>
        have fewer := eraseFewer unused
        have nested := deeper (visit (topology.sourcesInto name)) (topology.withoutExchange name) (by omega)
        have first : sweepWithin visit (fuel + 1) (name :: rest) topology
            = sweepWithin visit (fuel + 1) rest
                (sweepWithin visit fuel (visit (topology.sourcesInto name)) (topology.withoutExchange name)) := by
          simp only [sweepWithin, List.foldl_cons, unused, if_true]
        rw [first]
        exact .dropped unused nested (ih _ (by have less := nested.fewer; omega))

theorem dropWithinSweep (fuel : Nat) (name : String) (topology : Topology) :
    dropExchangeWithin (fuel + 1) name topology
      = sweepWithin id fuel (topology.sourcesInto name) (topology.withoutExchange name) := by
  induction fuel generalizing name topology with
  | zero => simp [dropExchangeWithin, sweepWithin, withoutExchange]
  | succ fuel ih =>
    rw [dropExchangeWithin, sweepWithin, sourcesInto, List.foldl_map]
    simp only [ih]
    rfl

theorem dropExchangeSweeps (topology : Topology) (name : String) :
    Sweeps id (topology.sourcesInto name) (topology.withoutExchange name) (topology.dropExchange name) := by
  unfold dropExchange
  rw [dropWithinSweep]
  exact sweepWithinSweeps _ _ _ (List.length_filter_le _ _)

theorem dropUnusedSweeps (sources : List String) (topology : Topology) :
    Sweeps id sources topology (topology.dropUnusedExchanges sources) := by
  induction sources generalizing topology with
  | nil => exact .done topology
  | cons name rest ih =>
    unfold dropUnusedExchanges
    rw [List.foldl_cons]
    split
    · rename_i unused
      exact .dropped unused (dropExchangeSweeps topology name) (ih _)
    · rename_i used
      exact .kept (Bool.eq_false_iff.mpr used) (ih topology)

theorem exchangeWithout (topology : Topology) (name other : String) :
    (topology.withoutExchange other).exchange? name = if name = other then none else topology.exchange? name := by
  have found := topology.exchanges.findFiltered (fun key => key != other) name
  simpa [exchange?, withoutExchange, Catalog.erase, apply_ite] using found

theorem Sweeps.settled (whole : ∀ names name, name ∈ visit names ↔ name ∈ names)
    (sweeps : Sweeps visit sources topology next) (unused : next.isUnusedExchange name = true) :
    topology.isUnusedExchange name = true ∧ name ∉ sources := by
  induction sweeps with
  | done => exact ⟨unused, List.not_mem_nil⟩
  | @kept other rest topology next used later ih =>
    obtain ⟨before, unseen⟩ := ih unused
    refine ⟨before, fun member => ?_⟩
    rcases List.mem_cons.mp member with rfl | inside
    · exact absurd before (by simp [used])
    · exact unseen inside
  | @dropped other rest topology middle next goes nested later inner outer =>
    obtain ⟨between, unseen⟩ := outer unused
    obtain ⟨after, elsewhere⟩ := inner between
    obtain ⟨exchange, found, auto, idle⟩ := unusedRecorded after
    rw [exchangeWithout] at found
    split at found
    · contradiction
    · rename_i apart
      refine ⟨(unusedIff found auto).mpr fun binding known starts => ?_, fun member => ?_⟩
      · by_cases into : binding.leadsTo .exchange other = true
        · exact elsewhere ((whole _ _).mpr
            (List.mem_map.mpr ⟨binding, List.mem_filter.mpr ⟨known, into⟩, starts⟩))
        · exact idle binding (List.mem_filter.mpr ⟨known, by simp [into, starts, apart]⟩) starts
      · exact (List.mem_cons.mp member).elim apart unseen

end

def bereft (topology : Topology) (cut : RecordedBinding → Bool) (gone : List String) : Topology :=
  { topology with
    exchanges := ⟨topology.exchanges.items.filter fun exchange => !gone.contains exchange.name⟩
    bindings := topology.bindings.filter fun binding =>
      !(cut binding || gone.contains binding.source
        || (binding.kind == .exchange && gone.contains binding.destination)) }

def Lost (cut : RecordedBinding → Bool) (gone : Set String) (binding : RecordedBinding) : Prop :=
  cut binding = true ∨ binding.kind = .exchange ∧ binding.destination ∈ gone

/- Those named are among them, and so is each auto-delete exchange that loses a binding by this and keeps
none. -/
structure Engulfs (topology : Topology) (cut : RecordedBinding → Bool) (named : List String)
    (gone : Set String) : Prop where
  named : ∀ name ∈ named, name ∈ gone
  unused : ∀ name exchange, topology.exchange? name = some exchange → exchange.options.autoDelete = true →
    (∃ binding ∈ topology.bindings, binding.source = name ∧ Lost cut gone binding) →
    (∀ binding ∈ topology.bindings, binding.source = name → Lost cut gone binding) → name ∈ gone

section

variable {visit : List String → List String} {topology next : Topology} {cut : RecordedBinding → Bool}
  {name : String} {sources gone named : List String}

theorem Lost.mono {gone more : Set String} {binding : RecordedBinding} (wider : gone ⊆ more)
    (lost : Lost cut gone binding) : Lost cut more binding :=
  lost.imp_right fun into => ⟨into.1, wider into.2⟩

theorem bereftBinding {binding : RecordedBinding} : binding ∈ (topology.bereft cut gone).bindings ↔
    binding ∈ topology.bindings ∧ binding.source ∉ gone ∧ ¬ Lost cut {name | name ∈ gone} binding := by
  simp only [bereft, List.mem_filter, Lost, Set.mem_ofPred_eq]
  grind

theorem bereftExchange (topology : Topology) (cut : RecordedBinding → Bool) (gone : List String) (name : String) :
    (topology.bereft cut gone).exchange? name = if name ∈ gone then none else topology.exchange? name := by
  have found := topology.exchanges.findFiltered (fun key => !gone.contains key) name
  simpa [exchange?, bereft, Keyed.key, apply_ite] using found

theorem bereftSame (topology : Topology) (cut : RecordedBinding → Bool) {gone others : List String}
    (same : ∀ name, name ∈ others ↔ name ∈ gone) : topology.bereft cut others = topology.bereft cut gone := by
  have contained : ∀ name, others.contains name = gone.contains name := by
    intro name
    simp only [List.contains_eq_mem, same name]
  simp only [bereft, contained]

theorem bereftWithout (topology : Topology) (cut : RecordedBinding → Bool) (gone : List String) (name : String) :
    (topology.bereft cut gone).withoutExchange name = topology.bereft cut (name :: gone) := by
  simp only [withoutExchange, bereft, Catalog.erase, List.filter_filter, RecordedBinding.leadsTo,
    List.contains_cons, Keyed.key]
  congr 2
  · refine List.filter_congr fun exchange _ => ?_
    grind
  · funext binding
    grind

theorem bereftUnused (unused : (topology.bereft cut gone).isUnusedExchange name = true) :
    ∃ exchange, topology.exchange? name = some exchange ∧ exchange.options.autoDelete = true ∧ name ∉ gone ∧
      ∀ binding ∈ topology.bindings, binding.source = name → Lost cut {name | name ∈ gone} binding := by
  obtain ⟨exchange, found, auto, idle⟩ := unusedRecorded unused
  rw [bereftExchange] at found
  split at found
  · contradiction
  · rename_i stays
    refine ⟨exchange, found, auto, stays, fun binding known starts => ?_⟩
    by_contra kept
    exact idle binding (bereftBinding.mpr ⟨known, starts ▸ stays, kept⟩) starts

theorem Sweeps.bereft (whole : ∀ names name, name ∈ visit names ↔ name ∈ names)
    (sweeps : Sweeps visit sources (topology.bereft cut gone) next)
    (lost : ∀ name ∈ sources, ∃ binding ∈ topology.bindings,
      binding.source = name ∧ Lost cut {name | name ∈ gone} binding) :
    ∃ more, next = topology.bereft cut more ∧ gone ⊆ more ∧
      ∀ named all, Engulfs topology cut named all → (∀ name ∈ gone, name ∈ all) → ∀ name ∈ more, name ∈ all := by
  generalize start : topology.bereft cut gone = before at sweeps
  induction sweeps generalizing gone with
  | done before => exact ⟨gone, start.symm, List.Subset.refl _, fun _ _ _ within => within⟩
  | kept used later ih => exact ih (fun name member => lost name (List.mem_cons_of_mem _ member)) start
  | @dropped name rest before middle next unused nested later inner outer =>
    subst start
    obtain ⟨exchange, found, auto, stays, idle⟩ := bereftUnused unused
    have nestedLost : ∀ source ∈ visit ((topology.bereft cut gone).sourcesInto name),
        ∃ binding ∈ topology.bindings, binding.source = source ∧ Lost cut {other | other ∈ name :: gone} binding := by
      intro source member
      obtain ⟨binding, inside, rfl⟩ := List.mem_map.mp ((whole _ _).mp member)
      obtain ⟨kept, into⟩ := List.mem_filter.mp inside
      simp only [RecordedBinding.leadsTo, Bool.and_eq_true, beq_iff_eq] at into
      refine ⟨binding, (bereftBinding.mp kept).1, rfl, .inr ⟨into.1, ?_⟩⟩
      rw [into.2]
      exact List.mem_cons_self
    obtain ⟨between, rfl, wider, forced⟩ := inner nestedLost (bereftWithout topology cut gone name).symm
    have widest : gone ⊆ between := fun other member => wider (List.mem_cons_of_mem _ member)
    have lostLater : ∀ source ∈ rest, ∃ binding ∈ topology.bindings,
        binding.source = source ∧ Lost cut {other | other ∈ between} binding := by
      intro source member
      obtain ⟨binding, known, starts, lose⟩ := lost source (List.mem_cons_of_mem _ member)
      exact ⟨binding, known, starts, lose.mono widest⟩
    obtain ⟨more, rfl, widened, forcedLater⟩ := outer lostLater rfl
    refine ⟨more, rfl, List.Subset.trans widest widened, fun named all engulfs within => ?_⟩
    obtain ⟨binding, known, starts, lose⟩ := lost name List.mem_cons_self
    have goes : name ∈ all := engulfs.unused name exchange found auto ⟨binding, known, starts, lose.mono within⟩
      fun other recorded starts => (idle other recorded starts).mono within
    refine forcedLater named all engulfs (forced named all engulfs fun other member => ?_)
    rcases List.mem_cons.mp member with rfl | inside
    · exact goes
    · exact within other inside

theorem Sweeps.least (whole : ∀ names name, name ∈ visit names ↔ name ∈ names)
    (sweeps : Sweeps visit sources (topology.bereft cut named) next)
    (members : ∀ name, name ∈ sources ↔ ∃ binding ∈ topology.bindings,
      binding.source = name ∧ Lost cut {name | name ∈ named} binding) :
    ∃ gone, IsLeast {all | Engulfs topology cut named all} {name | name ∈ gone} ∧
      next = topology.bereft cut gone := by
  obtain ⟨gone, rfl, wider, forced⟩ := sweeps.bereft whole fun name member => (members name).mp member
  refine ⟨gone, ⟨⟨fun name member => wider member, fun name exchange found auto touched idle => ?_⟩,
    fun all engulfs => forced named all engulfs engulfs.named⟩, rfl⟩
  by_contra stays
  have kept : (topology.bereft cut gone).exchange? name = some exchange := by
    rw [bereftExchange, if_neg (show name ∉ gone from stays), found]
  obtain ⟨before, unseen⟩ := sweeps.settled whole ((unusedIff kept auto).mpr fun binding member starts => by
    obtain ⟨known, _, keeps⟩ := bereftBinding.mp member
    exact keeps (idle binding known starts))
  obtain ⟨_, _, _, _, lost⟩ := bereftUnused before
  obtain ⟨binding, known, starts, _⟩ := touched
  exact unseen ((members name).mpr ⟨binding, known, starts, lost binding known starts⟩)

end

inductive Deletion
  | exchange (name : String)
  | queue (name : String)
  | binding (binding : RecordedBinding)

namespace Deletion

def perform (topology : Topology) : Deletion → Topology
  | .exchange name => (topology.deleteExchange name).2
  | .queue name => (topology.deleteQueue name).2
  | .binding known => (topology.deleteBinding known).2

def named : Deletion → List String
  | .exchange name => [name]
  | _ => []

def removes (topology : Topology) : Deletion → RecordedBinding → Bool
  | .exchange name, other => other.leadsTo .exchange name
  | .queue name, other => other.leadsTo .queue (topology.resolveQueue name)
  | .binding known, other => other.same known

def elsewhere (topology : Topology) : Deletion → Topology
  | .queue name => { topology.withoutQueue (topology.resolveQueue name) with bindings := topology.bindings }
  | _ => topology

def direct (topology : Topology) (deletion : Deletion) : Topology :=
  (deletion.elsewhere topology).bereft (deletion.removes topology) deletion.named

theorem directExchange (topology : Topology) (name : String) :
    (exchange name).direct topology = topology.withoutExchange name := by
  simp only [direct, elsewhere, bereft, removes, named, withoutExchange, Catalog.erase, RecordedBinding.leadsTo,
    List.contains_cons, List.contains_nil, Bool.or_false, Keyed.key]
  congr 2
  funext other
  grind

theorem directQueue (topology : Topology) (name : String) :
    (queue name).direct topology = topology.withoutQueue (topology.resolveQueue name) := by
  simp [direct, elsewhere, bereft, removes, named, withoutQueue]

theorem directBinding (topology : Topology) (known : RecordedBinding) :
    (binding known).direct topology
      = { topology with bindings := topology.bindings.filter fun other => !(other.same known) } := by
  simp [direct, elsewhere, bereft, removes, named]

theorem elsewhereSame (topology : Topology) (deletion : Deletion) :
    (deletion.elsewhere topology).exchanges = topology.exchanges ∧
      (deletion.elsewhere topology).bindings = topology.bindings := by
  cases deletion <;> exact ⟨rfl, rfl⟩

theorem lostDirectly (topology : Topology) (deletion : Deletion) (other : RecordedBinding) :
    Lost (deletion.removes topology) {name | name ∈ deletion.named} other ↔ deletion.removes topology other = true := by
  cases deletion with
  | exchange name => simp [Lost, removes, named, RecordedBinding.leadsTo]
  | queue name => simp [Lost, named]
  | binding known => simp [Lost, named]

/- The sources of what a deletion removes are looked at, each at least once. -/
def Starts (topology : Topology) (deletion : Deletion) (sources : List String) : Prop :=
  ∀ name, name ∈ sources ↔ ∃ other ∈ topology.bindings, other.source = name ∧ deletion.removes topology other = true

theorem startsMap {topology : Topology} {deletion : Deletion} :
    Starts topology deletion ((topology.bindings.filter (deletion.removes topology)).map RecordedBinding.source) := by
  intro name
  simp only [List.mem_map, List.mem_filter]
  exact exists_congr fun other => by rw [and_assoc, and_comm (a := other.source = name)]

theorem deleteUnusedSweeps (topology : Topology) (name : String) :
    Sweeps id [name] topology (topology.deleteUnusedExchange name).2 := by
  have same : (topology.deleteUnusedExchange name).2 = topology.dropUnusedExchanges [name] := by
    simp only [deleteUnusedExchange, dropUnusedExchanges, List.foldl_cons, List.foldl_nil]
    split <;> rfl
  rw [same]
  exact dropUnusedSweeps [name] topology

theorem bindingSweeps (topology : Topology) (known : RecordedBinding) :
    ∃ sources, Starts topology (binding known) sources ∧
      Sweeps id sources ((binding known).direct topology) ((binding known).perform topology) := by
  rw [directBinding]
  unfold perform deleteBinding
  dsimp only
  split
  · rename_i missing
    have unlike : ∀ other ∈ topology.bindings, (!other.same known) = true := List.length_filter_eq_length_iff.mp missing
    refine ⟨[], fun name => ⟨fun member => absurd member List.not_mem_nil, ?_⟩, ?_⟩
    · rintro ⟨other, recorded, _, same⟩
      have apart := unlike other recorded
      rw [show other.same known = true from same] at apart
      contradiction
    · rw [List.filter_eq_self.mpr unlike]
      exact .done topology
  · rename_i found
    refine ⟨[known.source], fun name => ?_, deleteUnusedSweeps _ known.source⟩
    have sameSource : ∀ other : RecordedBinding, other.same known = true → other.source = known.source := by
      intro other same
      simp only [RecordedBinding.same, Bool.and_eq_true, beq_iff_eq] at same
      exact same.1.1.1.2
    rw [List.mem_singleton]
    constructor
    · rintro rfl
      by_contra none
      refine found (List.length_filter_eq_length_iff.mpr fun other recorded => ?_)
      by_contra same
      rw [Bool.not_eq_true', Bool.not_eq_false] at same
      exact none ⟨other, recorded, sameSource other same, same⟩
    · rintro ⟨other, _, rfl, same⟩
      exact sameSource other same

theorem performSweeps (topology : Topology) (deletion : Deletion) :
    ∃ sources, Starts topology deletion sources ∧
      Sweeps id sources (deletion.direct topology) (deletion.perform topology) := by
  cases deletion with
  | exchange name =>
    refine ⟨topology.sourcesInto name, startsMap, ?_⟩
    rw [directExchange]
    exact dropExchangeSweeps topology name
  | queue name =>
    refine ⟨_, startsMap, ?_⟩
    rw [directQueue]
    exact dropUnusedSweeps _ _
  | binding known => exact bindingSweeps topology known

end Deletion

theorem Engulfs.same {other topology : Topology} (exchanges : other.exchanges = topology.exchanges)
    (bindings : other.bindings = topology.bindings) (cut : RecordedBinding → Bool) (named : List String)
    (gone : Set String) : Engulfs other cut named gone ↔ Engulfs topology cut named gone := by
  constructor
  · intro engulfs
    refine ⟨engulfs.named, fun name exchange found => ?_⟩
    rw [← bindings]
    exact engulfs.unused name exchange (by rwa [exchange?, exchanges])
  · intro engulfs
    refine ⟨engulfs.named, fun name exchange found => ?_⟩
    rw [bindings]
    exact engulfs.unused name exchange (by rwa [exchange?, ← exchanges])

theorem Engulfs.sameCut {topology : Topology} {cut other : RecordedBinding → Bool} {named : List String} {gone : Set String}
    (engulfs : Engulfs topology cut named gone) (same : ∀ binding ∈ topology.bindings, cut binding = other binding) :
    Engulfs topology other named gone := by
  have lost : ∀ binding ∈ topology.bindings, (Lost cut gone binding ↔ Lost other gone binding) :=
    fun binding known => by rw [Lost, Lost, same binding known]
  refine ⟨engulfs.named, fun name exchange found auto touched idle => engulfs.unused name exchange found auto ?_ ?_⟩
  · obtain ⟨binding, known, starts, touched⟩ := touched
    exact ⟨binding, known, starts, (lost binding known).mpr touched⟩
  · exact fun binding known starts => (lost binding known).mpr (idle binding known starts)

theorem Deletion.performLeast (topology : Topology) (deletion : Deletion) : ∃ gone : List String,
    IsLeast {all | Engulfs topology (deletion.removes topology) deletion.named all} {name | name ∈ gone} ∧
      deletion.perform topology = (deletion.elsewhere topology).bereft (deletion.removes topology) gone := by
  obtain ⟨exchanges, bindings⟩ := deletion.elsewhereSame topology
  obtain ⟨sources, starts, sweeps⟩ := deletion.performSweeps topology
  have least := sweeps.least (fun _ _ => Iff.rfl) fun name => by
    rw [starts name, bindings]
    exact exists_congr fun other => by rw [deletion.lostDirectly]
  simpa only [Engulfs.same exchanges bindings] using least

/- For each deletion, and whether or not what it names is recorded. The order in which sources are looked at, and
whether they are looked at again, is left open. -/
theorem cascadeIsLeastClosure (topology : Topology) (deletion : Deletion) :
    ∃ gone : List String,
      IsLeast {all | Engulfs topology (deletion.removes topology) deletion.named all} {name | name ∈ gone} ∧
      deletion.perform topology = (deletion.elsewhere topology).bereft (deletion.removes topology) gone ∧
      ∀ visit : List String → List String, (∀ names name, name ∈ visit names ↔ name ∈ names) →
        ∀ sources, deletion.Starts topology sources →
          ∀ next, Sweeps visit sources (deletion.direct topology) next ↔ next = deletion.perform topology := by
  obtain ⟨exchanges, bindings⟩ := deletion.elsewhereSame topology
  have swept : ∀ visit : List String → List String, (∀ names name, name ∈ visit names ↔ name ∈ names) →
      ∀ sources, deletion.Starts topology sources → ∀ next, Sweeps visit sources (deletion.direct topology) next →
      ∃ gone : List String,
        IsLeast {all | Engulfs topology (deletion.removes topology) deletion.named all} {name | name ∈ gone} ∧
        next = (deletion.elsewhere topology).bereft (deletion.removes topology) gone := by
    intro visit whole sources starts next sweeps
    have least := sweeps.least whole fun name => by
      rw [starts name, bindings]
      exact exists_congr fun other => by rw [deletion.lostDirectly]
    simpa only [Engulfs.same exchanges bindings] using least
  obtain ⟨first, starting, performed⟩ := deletion.performSweeps topology
  obtain ⟨gone, least, result⟩ := swept id (fun _ _ => Iff.rfl) first starting _ performed
  refine ⟨gone, least, result, fun visit whole sources starts next => ?_⟩
  have unique : ∀ other, Sweeps visit sources (deletion.direct topology) other →
      other = deletion.perform topology := by
    intro other sweeps
    obtain ⟨others, leastToo, rfl⟩ := swept visit whole sources starts other sweeps
    rw [result]
    exact bereftSame _ _ fun name => Set.ext_iff.mp (leastToo.unique least) name
  refine ⟨unique next, ?_⟩
  rintro rfl
  have ended : Sweeps visit sources (deletion.direct topology) _ :=
    sweepWithinSweeps _ sources (deletion.direct topology) (Nat.le_refl _)
  rwa [unique _ ended] at ended

/- The queue takes along what fed it, step by step. An exchange in a cycle keeps a binding, whatever else it
loses. -/
example :
    let kept (name : String) : RecordedExchange := ⟨name, .fanout, { autoDelete := true }⟩
    let bound (kind : BindingKind) (source destination : String) : RecordedBinding :=
      ⟨kind, source, destination, "", .nil⟩
    let topology : Topology :=
      { exchanges := ⟨["a", "b", "c", "d"].map kept⟩
        bindings := [bound .exchange "a" "b", bound .queue "b" "q", bound .exchange "c" "d",
          bound .exchange "d" "c", bound .exchange "c" "b"] }
    ((Deletion.queue "q").perform topology).exchanges.keys = ["c", "d"] := by decide

end AmqpClient.Topology
