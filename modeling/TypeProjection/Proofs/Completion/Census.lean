import Mathlib.Algebra.BigOperators.Group.List.Basic
import TypeProjection.Proofs.Completion.Shape
import TypeProjection.Proofs.Projection.Faithful
import TypeProjection.Proofs.Registry.Tables

/-!
# Proofs.Completion.Census — what a completion counts is what is there

The counts of a completion add up what its steps say that they do. Two sweeps decide separately
which bases are theirs, and each counts for itself; but every base falls to one of them, so that the
counts describe the output catalog that is left behind:

* `Registry.sourcedTargets` : the output declarations that stand for source types;
* `census`                  : what such declarations amount to;
* `Total.counts_add`        : two sweeps over the same bindings count binding by binding;
* `SetOnce`                 : a base that one of the two sweeps sets, and the other leaves alone;
* `census_of_complete`      : the counts of a completion are the census of what it leaves behind.
-/

namespace TypeProjection

open Target (TypeDecl)

namespace Registry

/-- Whether a binding stands for a source type. -/
def isSourced (R : Registry) (c : TypeBindingId) : Bool := (R.types[c]?.bind (·.source)).isSome

/-- The output declaration of a binding for a source type. -/
def sourcedTarget? (R : Registry) (c : TypeBindingId) : Option TypeDecl := do
  let b ← R.types[c]?
  let _ ← b.source
  R.target.types[b.target]?

/-- The output declarations of all bindings for source types, in the order of the bindings. -/
def sourcedTargets (R : Registry) : List TypeDecl := R.types.handles.filterMap R.sourcedTarget?

theorem sourcedTarget?_of_unsourced {R : Registry} {c : TypeBindingId} {b : TypeBinding}
    (bound : R.types[c]? = some b) (unsourced : b.source = none) : R.sourcedTarget? c = none := by
  simp [sourcedTarget?, bound, unsourced]

theorem sourcedTarget?_of_source {R : Registry} {c : TypeBindingId} {b : TypeBinding}
    {t : Source.TypeId} (bound : R.types[c]? = some b) (source : b.source = some t) :
    R.sourcedTarget? c = R.target.types[b.target]? := by
  simp [sourcedTarget?, bound, source]

/-- If no output type is bound twice, all bindings are listed, and each of them once. -/
theorem Coherent.bindings_perm {R : Registry} (coherent : R.Coherent) (once : R.TargetsBoundOnce) :
    R.bindings.Perm R.types.handles := by
  have nodup : R.types.handles.Nodup := by
    refine List.pairwise_map.2 (List.nodup_range.imp fun other same => other (Handle.mk.inj same))
  refine (List.perm_ext_iff_of_nodup coherent.bindings_nodup nodup).2 fun c => ?_
  rw [Table.mem_handles]
  constructor
  · intro mem
    rcases coherent.exists_of_mem_bindings mem with ⟨b, bound⟩
    exact Table.lt_size_of_getElem? bound
  · intro lt
    rcases Table.exists_getElem? lt with ⟨b, bound⟩
    exact coherent.mem_bindings bound fun c' b' bound' same => once c' b' bound' c b bound same

end Registry

namespace Completion

/-! ## Sums of counts -/

instance : Zero Summary := ⟨{}⟩

/-- Counts can be summed up in any order. -/
instance : AddCommMonoid Summary where
  add_assoc := Summary.add_assoc
  zero_add a := Summary.add_comm {} a
  add_zero _ := rfl
  add_comm := Summary.add_comm
  nsmul := nsmulRec

/-- What output declarations amount to: their parameters, how many of these are marked, and how many
declarations have each kind of base. -/
def census (Ds : List TypeDecl) : Summary where
  params := (Ds.flatMap (·.params)).length
  unmanagedParams := (Ds.flatMap (·.params)).countP (·.unmanaged)
  enumBases := Ds.countP (·.base = some Interop.enumBase)
  valueTypeBases := Ds.countP (·.base = some Interop.valueTypeBase)
  projectedBases := Ds.countP fun D => D.base ≠ some Interop.enumBase ∧
    D.base ≠ some Interop.valueTypeBase

theorem census_cons (D : TypeDecl) (Ds : List TypeDecl) :
    census (D :: Ds) = census [D] + census Ds := by
  simp only [census, Summary.mk_add_mk, ← List.length_append, ← List.countP_append,
    ← List.flatMap_append, List.singleton_append]

/-- All bases that are counted. -/
def Summary.bases (counts : Summary) : Nat :=
  counts.enumBases + counts.valueTypeBases + counts.projectedBases

theorem Summary.bases_add (a b : Summary) : (a + b).bases = a.bases + b.bases := by
  change a.enumBases + b.enumBases + (a.valueTypeBases + b.valueTypeBases) +
    (a.projectedBases + b.projectedBases) = _
  unfold bases
  omega

/-- Every declaration counts for one sort of base. -/
theorem bases_census_singleton (D : TypeDecl) : (census [D]).bases = 1 := by
  have apart : Interop.enumBase ≠ Interop.valueTypeBase := by decide
  by_cases enum : D.base = some Interop.enumBase
  · simp [Summary.bases, census, enum, apart]
  · by_cases valueType : D.base = some Interop.valueTypeBase
    · simp [Summary.bases, census, valueType, apart.symm]
    · simp [Summary.bases, census, enum, valueType]

theorem bases_census (Ds : List TypeDecl) : (census Ds).bases = Ds.length := by
  induction Ds with
  | nil => rfl
  | cons D Ds ih =>
      rw [census_cons, Summary.bases_add, bases_census_singleton, ih,
        List.length_cons, Nat.add_comm]

theorem census_filterMap {ι : Type} (f : ι → Option TypeDecl) (is : List ι) :
    census (is.filterMap f) = (is.map fun i => census (f i).toList).sum := by
  induction is with
  | nil => rfl
  | cons i is ih =>
      rw [List.map_cons, List.sum_cons, ← ih]
      cases found : f i with
      | none => rw [List.filterMap_cons_none found]; exact (zero_add _).symm
      | some D => rw [List.filterMap_cons_some found]; exact census_cons D _

/-- Two sweeps over the same bindings count together what their steps count for each. -/
theorem Total.counts_add {ι : Type} {plan plan' : ι → Plan → Prop} {is : List ι} {p q : Plan}
    {each : ι → Summary}
    (counted : ∀ i ∈ is, ∀ p q, plan i p → plan' i q → p.counts + q.counts = each i)
    (first : Total plan is p) (second : Total plan' is q) :
    p.counts + q.counts = (is.map each).sum := by
  -- Both sweeps go through the same bindings, so that to each step of the first belongs one of the
  -- second.
  induction first generalizing q with
  | nil =>
      cases second
      rfl
  | @cons i is p ps here rest ih =>
      cases second with
      | @cons _ _ q qs here' rest' =>
          have others := ih (fun j mem => counted j (List.mem_cons_of_mem _ mem)) rest'
          calc p.counts + ps.counts + (q.counts + qs.counts)
              = (p.counts + q.counts) + (ps.counts + qs.counts) := add_add_add_comm ..
            _ = each i + (is.map each).sum := by
              rw [counted i List.mem_cons_self p q here here', others]
            _ = ((i :: is).map each).sum := by rw [List.map_cons, List.sum_cons]

/-! ## One type -/

/-- A base that is set either in the first of two sweeps, to that of value types or enumerations, or
in the second one to any other; and that the other sweep leaves alone. -/
inductive SetOnce (before between after : Option Target.Signature) : Prop
  | first {base : Target.Signature} (isValueBase : base.isValueBase) (set : between = some base)
      (kept : after = between)
  | second {base : Target.Signature} (plain : base.isValueBase = false) (kept : between = before)
      (set : after = some base)

/-- What one declaration amounts to, by what fixes its base. -/
theorem census_singleton (kind : BaseKind) {D : TypeDecl}
    (fixed : ∀ base, kind.fixed? = some base → D.base = some base)
    (projected : kind = .projected → ∃ base, D.base = some base ∧ base.isValueBase = false) :
    census [D] = shapeCounts D.params kind +
      { projectedBases := if kind = .projected then 1 else 0 } := by
  have apart : Interop.enumBase ≠ Interop.valueTypeBase := by decide
  cases kind with
  | enum =>
      have base := fixed _ rfl
      simp [census, shapeCounts, Summary.mk_add_mk, base, apart]
  | valueType =>
      have base := fixed _ rfl
      simp [census, shapeCounts, Summary.mk_add_mk, base, apart.symm]
  | projected =>
      rcases projected rfl with ⟨base, set, plain⟩
      have notEnum : base ≠ Interop.enumBase := by
        rintro rfl
        cases plain
      have notValueType : base ≠ Interop.valueTypeBase := by
        rintro rfl
        cases plain
      simp [census, shapeCounts, Summary.mk_add_mk, set, notEnum, notValueType]

section Counts

variable {R : Registry} {C : Target.Catalog} {m : Layout.Memo} {p : Plan} {c : TypeBindingId}
  {b : TypeBinding} {t : Source.TypeId} {d : Source.TypeDecl} {k : LayoutClass}

theorem ShapePlan.counts_eq (plan : ShapePlan R m c p) (sourced : Sourced R m c b t d k) :
    p.counts = shapeCounts (d.params.map (completedParam k.isBlittable))
      (baseKind k.isBlittable d) := by
  cases plan with
  | unsourced bound unsourced => exact absurd unsourced (sourced.source_ne_none bound)
  | sourced sourced' =>
      rcases sourced.unique sourced' with ⟨rfl, rfl, rfl, rfl⟩
      rfl

theorem BasePlan.counts_eq (plan : BasePlan R C m c p) (sourced : Sourced R m c b t d k) :
    p.counts = { projectedBases := if baseKind k.isBlittable d = .projected then 1 else 0 } := by
  cases plan with
  | unsourced bound unsourced => exact absurd unsourced (sourced.source_ne_none bound)
  | fixed sourced' kind =>
      rcases sourced.unique sourced' with ⟨rfl, rfl, rfl, rfl⟩
      rw [if_neg kind]
  | projected sourced' kind =>
      rcases sourced.unique sourced' with ⟨rfl, rfl, rfl, rfl⟩
      rw [if_pos kind]
      rfl

end Counts

namespace Outcome

variable {W W₁ W' : Workspace} {p q : Plan} {c : TypeBindingId} {b : TypeBinding}
  {t : Source.TypeId}

/-- What both sweeps make of the output type of a binding for a source type: its base is set once,
and it counts as their steps for the binding say. -/
theorem settles (outcome : Outcome W W.registry.bindings W.registry.bindings p q W₁ W')
    (coherent : W.registry.Coherent) (once : W.registry.TargetsBoundOnce)
    (bound : W.registry.types[c]? = some b) (source : b.source = some t) :
    ∃ D D₁ D', W.registry.target.types[b.target]? = some D ∧
      W₁.registry.target.types[b.target]? = some D₁ ∧
      W'.registry.target.types[b.target]? = some D' ∧ SetOnce D.base D₁.base D'.base ∧
      ∀ p₀ q₀, ShapePlan W.registry W.notes.classes c p₀ →
        BasePlan W.registry W₁.registry.target W.notes.classes c q₀ →
          p₀.counts + q₀.counts = census [D'] := by
  -- No other binding has the output type, so that the sweeps come to this one.
  have mem : c ∈ W.registry.bindings :=
    coherent.mem_bindings bound fun c' b' bound' same => once c' b' bound' c b bound same
  rcases outcome.types_shaped once bound source mem with ⟨d, k, D, sourced, found, shaped⟩
  obtain ⟨kind, found'⟩ | ⟨kind, A, base, -, starting, found'⟩ :=
    outcome.types_based once sourced mem shaped
  · rcases exists_fixed kind with ⟨base, fixed⟩
    have set : (shapeDecl d k D).base = some base := by simp [shapeDecl, fixed]
    have isValueBase := (isValueBase_of_fixed fixed).1
    refine ⟨D, _, _, found, shaped, found', .first isValueBase set rfl,
      fun p₀ q₀ first second => ?_⟩
    rw [first.counts_eq sourced, second.counts_eq sourced]
    refine Eq.symm
      (census_singleton (baseKind k.isBlittable d) (fun base' fixed' => ?_) fun projected => ?_)
    · rw [set, ← fixed, fixed']
    · exact absurd projected kind
  -- The first sweep leaves such a base to the second.
  · have plain := isValueBase_of_starting starting
    have kept : (shapeDecl d k D).base = D.base := by simp [shapeDecl, kind, BaseKind.fixed?]
    refine ⟨D, _, _, found, shaped, found', .second plain kept rfl, fun p₀ q₀ first second => ?_⟩
    rw [first.counts_eq sourced, second.counts_eq sourced]
    refine Eq.symm
      (census_singleton (baseKind k.isBlittable d) (fun base' fixed' => ?_) fun _ => ?_)
    · simp [kind, BaseKind.fixed?] at fixed'
    · exact ⟨base, rfl, plain⟩

/-- The counts of both sweeps, binding by binding. -/
theorem counts_eq (outcome : Outcome W W.registry.bindings W.registry.bindings p q W₁ W')
    (coherent : W.registry.Coherent) (once : W.registry.TargetsBoundOnce) :
    p.counts + q.counts = census W'.registry.sourcedTargets := by
  have types : W'.registry.types = W.registry.types := outcome.midway.types
  have counted : ∀ c ∈ W.registry.bindings, ∀ p₀ q₀, ShapePlan W.registry W.notes.classes c p₀ →
      BasePlan W.registry W₁.registry.target W.notes.classes c q₀ →
      p₀.counts + q₀.counts = census (W'.registry.sourcedTarget? c).toList := by
    intro c mem p₀ q₀ first second
    rcases coherent.exists_of_mem_bindings mem with ⟨b, bound⟩
    have bound' : W'.registry.types[c]? = some b := types ▸ bound
    cases source : b.source with
    | none =>
        have nothing : p₀ = {} := (ownPlans_shape _ _).unique first (.unsourced bound source)
        have nothing' : q₀ = {} := (ownPlans_base _ _ _).unique second (.unsourced bound source)
        rw [Registry.sourcedTarget?_of_unsourced bound' source, nothing, nothing']
        rfl
    | some t =>
        rcases outcome.settles coherent once bound source with ⟨D, D₁, D', -, -, found, -, settled⟩
        rw [Registry.sourcedTarget?_of_source bound' source, found]
        exact settled p₀ q₀ first second
  calc p.counts + q.counts
      = (W.registry.bindings.map fun c => census (W'.registry.sourcedTarget? c).toList).sum :=
        Total.counts_add counted outcome.shapes outcome.bases
    _ = (W'.registry.types.handles.map fun c =>
      census (W'.registry.sourcedTarget? c).toList).sum := by
        rw [types]
        exact ((coherent.bindings_perm once).map _).sum_eq
    _ = census W'.registry.sourcedTargets := (census_filterMap _ _).symm

end Outcome

variable {W W' : Workspace} {counts : Summary}

/-- After a completion that succeeds, its counts are the census of the completed declarations. Each
base is set once, in one of the two sweeps. -/
theorem census_of_complete (reachable : W.Reachable) (once : W.registry.TargetsBoundOnce)
    (plain : W.registry.TargetsStartPlain) (run : complete.run W = (.ok counts, W')) :
    counts = census W'.registry.sourcedTargets ∧
    counts.bases = W'.registry.types.handles.countP W'.registry.isSourced ∧
    ∃ first second W₁, (sweep fillShape W.registry.bindings).run W = (.ok first, W₁) ∧
      (sweep fillBase W.registry.bindings).run W₁ = (.ok second, W') ∧
      ∀ (c : TypeBindingId) (b : TypeBinding), W.registry.types[c]? = some b → b.source ≠ none →
        ∃ D D₁ D', W.registry.target.types[b.target]? = some D ∧
          W₁.registry.target.types[b.target]? = some D₁ ∧
          W'.registry.target.types[b.target]? = some D' ∧ SetOnce D.base D₁.base D'.base := by
  rw [run_complete] at run
  rcases completeIn_eq_ok_iff.1 run with ⟨first, second, W₁, runShapes, runBases, rfl⟩
  rcases Outcome.of_sweeps once plain runShapes runBases with ⟨p, q, outcome, rfl, rfl⟩
  have counted := outcome.counts_eq reachable.coherent once
  have settled : ∀ (c : TypeBindingId) (b : TypeBinding), W.registry.types[c]? = some b →
    b.source ≠ none →
      ∃ D D₁ D', W.registry.target.types[b.target]? = some D ∧
      W₁.registry.target.types[b.target]? = some D₁ ∧
        W'.registry.target.types[b.target]? = some D' ∧ SetOnce D.base D₁.base D'.base := by
    intro c b bound sourced
    rcases Option.ne_none_iff_exists'.1 sourced with ⟨t, source⟩
    rcases outcome.settles reachable.coherent once bound source with
      ⟨D, D₁, D', found, between, found', set, -⟩
    exact ⟨D, D₁, D', found, between, found', set⟩
  have types : W'.registry.types = W.registry.types := outcome.midway.types
  refine ⟨counted, ?_, p.counts, q.counts, W₁, runShapes, runBases, settled⟩
  rw [counted, bases_census, Registry.sourcedTargets, List.length_filterMap_eq_countP]
  -- A binding for a source type is counted, because its output declaration is there in the end.
  refine List.countP_congr fun c _ => ?_
  cases bound : W'.registry.types[c]? with
  | none => simp [Registry.sourcedTarget?, Registry.isSourced, bound]
  | some b =>
      cases source : b.source with
      | none =>
          simp [Registry.sourcedTarget?_of_unsourced bound source, Registry.isSourced,
            bound, source]
      | some t =>
          rcases settled c b (types ▸ bound) (by simp [source]) with ⟨_, _, D', -, -, found, -⟩
          simp [Registry.sourcedTarget?_of_source bound source, found, Registry.isSourced,
            bound, source]

/-- In the sample program, eleven output types stand for source types, and they have the bases and
parameters that are counted. -/
theorem census_of_complete_shop :
    (complete.run Sample.shop).1 =
        .ok { params := 3, unmanagedParams := 1, enumBases := 1, valueTypeBases := 2,
              projectedBases := 8 } ∧
      census (complete.run Sample.shop).2.registry.sourcedTargets =
        { params := 3, unmanagedParams := 1, enumBases := 1, valueTypeBases := 2,
          projectedBases := 8 } ∧
      (complete.run Sample.shop).2.registry.types.handles.countP
      (complete.run Sample.shop).2.registry.isSourced =
        11 := by
  have completed : (complete.run Sample.shop).1 =
      .ok { params := 3, unmanagedParams := 1, enumBases := 1, valueTypeBases := 2,
            projectedBases := 8 } := by
    decide +kernel
  have reachable : Sample.shop.Reachable := ⟨_, _, _, _, rfl⟩
  obtain ⟨counted, bases, -⟩ :=
    census_of_complete reachable (by decide +kernel) (by decide +kernel) (Effect.run_eq completed)
  exact ⟨completed, counted.symm, bases.symm⟩

end Completion

end TypeProjection
