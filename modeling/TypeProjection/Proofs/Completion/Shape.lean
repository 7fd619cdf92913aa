import TypeProjection.Proofs.Completion.Outcome
import TypeProjection.Proofs.Layout.Growth

/-!
# Proofs.Completion.Shape — the shapes that a completion leaves behind

A completion gives every output type that stands for a source type the shape that the layout class
asks for:

* `Target.Catalog.IsSkeleton` : what has to hold before;
* `ShapedBy`, `Shaped` : the output type of a binding has the shape that the class of the binding
  asks for;
* `Underway` : every output type is as it was, or shaped by its binding;
* `Underway.of_marked` : which bindings mark parameters;
* `Outcome.shaped`, `Outcome.underway` : what a completion leads to.
-/

namespace TypeProjection

open Layout (Memo HasClass)

/-- No output type has parameters or a base yet. -/
def Target.Catalog.IsSkeleton (C : Target.Catalog) : Prop :=
  ∀ (u : Target.TypeId) (D : Target.TypeDecl), C.types[u]? = some D → D.params = [] ∧ D.base = none

instance (C : Target.Catalog) : Decidable C.IsSkeleton := by
  unfold Target.Catalog.IsSkeleton
  infer_instance

namespace Completion

variable {R : Registry} {m : Memo} {c : TypeBindingId} {b : TypeBinding} {D : Target.TypeDecl}

/-! ## Shapes -/

/-- An output declaration has the shape that the class of a binding asks for: parameters like those
of the source type, and the base of a value type just if the class fixes the base. -/
def ShapedBy (R : Registry) (m : Memo) (c : TypeBindingId) (D : Target.TypeDecl) : Prop :=
  ∃ b t d k, R.types[c]? = some b ∧ b.source = some t ∧ R.source.types[t]? = some d ∧
    HasClass R m c k ∧ D.params = d.params.map (completedParam k.isBlittable) ∧
    (D.isValueType ↔ baseKind k.isBlittable d ≠ .projected)

theorem ShapedBy.shape (shaped : ShapedBy R m c D) {t : Source.TypeId} {d : Source.TypeDecl}
    {k : LayoutClass} (bound : R.types[c]? = some b) (source : b.source = some t)
    (declared : R.source.types[t]? = some d) (has : HasClass R m c k) :
    D.params = d.params.map (completedParam k.isBlittable) ∧
      (D.isValueType ↔ baseKind k.isBlittable d ≠ .projected) := by
  rcases shaped with ⟨b', t', d', k', bound', source', declared', has', shape⟩
  cases bound.symm.trans bound'
  cases source.symm.trans source'
  cases declared.symm.trans declared'
  cases has.unique has'
  exact shape

/-- The output type of a binding for a source type has the shape that the class of the binding asks
for. -/
def Shaped (R : Registry) (m : Memo) (c : TypeBindingId) : Prop :=
  ∀ (b : TypeBinding) (t : Source.TypeId), R.types[c]? = some b → b.source = some t →
    ∃ D, R.target.types[b.target]? = some D ∧ ShapedBy R m c D

/-- Every output type is without parameters and no value type, or has the shape that its binding
asks for. -/
def Underway (R : Registry) (m : Memo) : Prop :=
  ∀ (u : Target.TypeId) (D : Target.TypeDecl), R.target.types[u]? = some D →
    D.params = [] ∧ D.isValueType = false ∨
      ∃ c b, R.types[c]? = some b ∧ b.target = u ∧ ShapedBy R m c D

/-- Only blittable bindings for types with parameters mark parameters of their output types. -/
theorem Underway.of_marked (underway : Underway R m) {u : Target.TypeId} {position : Nat}
    (marked : R.target.isMarked (.type u) position = some true) :
    ∃ c b t d k, R.types[c]? = some b ∧ b.target = u ∧ b.source = some t ∧
      R.source.types[t]? = some d ∧ HasClass R m c k ∧ k.isBlittable ∧ d.params ≠ [] := by
  rcases Option.map_eq_some_iff.1 marked with ⟨params, found, marked⟩
  rcases Option.map_eq_some_iff.1 found with ⟨D, declared, rfl⟩
  rcases Option.any_eq_true _ _ |>.1 marked with ⟨q, at_, marked⟩
  -- A type that is untouched has no parameters at all.
  rcases underway u D declared with ⟨plain, -⟩ | ⟨c, b, bound, target, shaped⟩
  · simp [plain] at at_
  · rcases shaped with ⟨b', t, d, k, bound', source, declared', has, params, -⟩
    cases bound.symm.trans bound'
    rw [params, List.getElem?_map] at at_
    rcases Option.map_eq_some_iff.1 at_ with ⟨p, at', rfl⟩
    have isBlittable : k.isBlittable := by
      cases blittable : k.isBlittable with
      | true => rfl
      | false => simp [blittable, completedParam] at marked
    refine ⟨c, b, t, d, k, bound, target, source, declared', has, isBlittable, fun plain => ?_⟩
    simp [plain] at at'

/-- Stand-ins are references, so that no parameter of theirs is marked. -/
theorem Underway.not_marked_of_standIn (underway : Underway R m) (once : R.TargetsBoundOnce)
    (bound : R.types[c]? = some b) (standIn : b.standIn) {position : Nat} :
    R.target.isMarked (.type b.target) position ≠ some true := by
  intro marked
  rcases underway.of_marked marked with ⟨c', b', t, d, k, bound', target, -, -, has, isBlittable, -⟩
  -- The binding that has marked it would be the stand-in itself.
  cases once c' b' bound' c b bound target
  rcases has with ⟨b'', bound'', has⟩
  cases bound.symm.trans bound''
  simp only [standIn, if_true] at has
  simp [has, LayoutClass.isBlittable] at isBlittable

theorem shapedBy_withTarget_iff {target : Target.Catalog} :
    ShapedBy { R with target } m c D ↔ ShapedBy R m c D := by
  have same {k} : HasClass { R with target } m c k ↔ HasClass R m c k :=
    Layout.hasClass_withTarget_iff
  simp only [ShapedBy, same]

/-! ## Completed types -/

/-- A skeleton has no value types yet. -/
theorem startPlain_of_isSkeleton (skeleton : R.target.IsSkeleton) : R.TargetsStartPlain := by
  intro c b _ isValueType
  rcases Option.map_eq_some_iff.1 isValueType with ⟨D, found, isValueType⟩
  simp [Target.TypeDecl.isValueType, (skeleton _ D found).2] at isValueType

/-- A base that the class fixes is the base of a value type. -/
theorem isValueBase_of_fixed {kind : BaseKind} {base : Target.Signature}
    (fixed : kind.fixed? = some base) :
    base.isValueBase ∧ ∃ e, base = .external e := by
  cases kind with
  | enum =>
      cases fixed
      exact ⟨by decide, _, rfl⟩
  | valueType =>
      cases fixed
      exact ⟨by decide, _, rfl⟩
  | projected => cases fixed

theorem exists_fixed {kind : BaseKind} (fixed : kind ≠ .projected) :
    ∃ base, kind.fixed? = some base := by
  cases kind with
  | enum => exact ⟨_, rfl⟩
  | valueType => exact ⟨_, rfl⟩
  | projected => exact absurd rfl fixed

theorem Sourced.hasClass {t : Source.TypeId} {d : Source.TypeDecl} {k : LayoutClass}
    (sourced : Sourced R m c b t d k) :
    HasClass R m c k :=
  Registry.hasClass_of_classOf (.refl R m) (Effect.run_eq sourced.starts)

namespace Outcome

variable {W W₁ W' : Workspace} {p q : Plan} {t : Source.TypeId}

/-- The output type of a binding for a source type as a completion of all bindings leaves it: it is
shaped by the binding, and its base is a library type or the form of the source's base. -/
theorem completed (outcome : Outcome W W.registry.bindings W.registry.bindings p q W₁ W')
    (coherent : W.registry.Coherent) (once : W.registry.TargetsBoundOnce)
    (bound : W.registry.types[c]? = some b) (source : b.source = some t) :
    ∃ D base, W'.registry.target.types[b.target]? = some D ∧
      ShapedBy W.registry W.notes.classes c D ∧ D.base = some base ∧ ((∃ e, base = .external e) ∨
        ∃ into s, W'.registry.Yields W.notes.classes
          (W'.registry.projectOption into false s) base) := by
  -- No other binding has its output type, so that the sweeps come to this one.
  have mem : c ∈ W.registry.bindings :=
    coherent.mem_bindings bound fun c' b' bound' same => once c' b' bound' c b bound same
  rcases outcome.types_shaped once bound source mem with ⟨d, k, D, sourced, -, shaped⟩
  have declared := sourced.declared
  have has := sourced.hasClass
  obtain ⟨kind, found⟩ | ⟨kind, A, base, -, starting, found⟩ :=
    outcome.types_based once sourced mem shaped
  · rcases exists_fixed kind with ⟨base, fixed⟩
    rcases isValueBase_of_fixed fixed with ⟨isValueBase, external⟩
    have base_eq : (shapeDecl d k D).base = some base := by simp [shapeDecl, fixed]
    refine ⟨_, base, found, ⟨b, t, d, k, bound, source, declared, has, rfl, ?_⟩, base_eq,
      .inl external⟩
    simp [Target.TypeDecl.isValueType, base_eq, isValueBase, kind]
  · have yields : W'.registry.Yields W.notes.classes
        (W'.registry.projectOption A.module false d.base) base := by
      rw [outcome.midway.projectOption_eq]
      exact ⟨{ classes := W.notes.classes }, _, .refl _ _, Effect.run_eq starting⟩
    have plain := isValueBase_of_projectOption yields
    refine ⟨_, base, found, ⟨b, t, d, k, bound, source, declared, has, rfl, ?_⟩, rfl,
      .inr ⟨_, _, yields⟩⟩
    simp [Target.TypeDecl.isValueType, plain, kind]

theorem shapedBy_iff (outcome : Outcome W W.registry.bindings W.registry.bindings p q W₁ W') :
    ShapedBy W'.registry m c D ↔ ShapedBy W.registry m c D := by
  rcases outcome.leads.registry with ⟨types, eq⟩
  rw [eq, shapedBy_withTarget_iff]

theorem shaped (outcome : Outcome W W.registry.bindings W.registry.bindings p q W₁ W')
    (coherent : W.registry.Coherent) (once : W.registry.TargetsBoundOnce) (c : TypeBindingId) :
    Shaped W'.registry W.notes.classes c := by
  intro b t bound source
  rcases outcome.completed coherent once (outcome.midway.types ▸ bound) source with
    ⟨D, base, found, shaped, -⟩
  exact ⟨D, found, outcome.shapedBy_iff.2 shaped⟩

theorem underway (outcome : Outcome W W.registry.bindings W.registry.bindings p q W₁ W')
    (coherent : W.registry.Coherent) (once : W.registry.TargetsBoundOnce)
    (skeleton : W.registry.target.IsSkeleton) :
    Underway W'.registry W.notes.classes := by
  intro u D found
  rcases outcome.types_cases found with before | ⟨c, b, t, bound, source, rfl⟩
  · rcases skeleton u D before with ⟨params, base⟩
    exact .inl ⟨params, by simp [Target.TypeDecl.isValueType, base]⟩
  · rcases outcome.completed coherent once bound source with ⟨D', base, found', shaped, -⟩
    cases found.symm.trans found'
    exact .inr ⟨c, b, outcome.midway.types ▸ bound, rfl, outcome.shapedBy_iff.2 shaped⟩

end Outcome

end Completion

end TypeProjection
