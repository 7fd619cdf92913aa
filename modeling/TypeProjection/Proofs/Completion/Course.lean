import TypeProjection.Proofs.Completion.Outcome

/-!
# Proofs.Completion.Course — the second sweep, side by side with another

An output type that is bound twice, or that starts as a value type, can become another sort of type
in the middle of the second sweep, so that there is no plan for a binding that holds throughout.
What a step does hangs on outlines only, however, and it overwrites what was there before. So two
sweeps that start from the same outlines go on alike:

* `TypeDecl.overwrite`, `Plan.Overwrites` : to replace parameters and bases, whatever they were;
* `Deferred`, `Plan.Rebases` : bindings that the second sweep has to find a base for, and what it
  does;
* `Abreast`, `Abreast.sweep` : two second sweeps that go along side by side;
* `Midway.sweep_fillBase` : what one such sweep does.
-/

namespace TypeProjection

open Layout (Memo Traced)
open Target (TypeId TypeDecl)

/-! ## Overwriting declarations -/

namespace Target.TypeDecl

variable {D E : TypeDecl} {params params' : Option (List TypeParam)} {base base' : Option Signature}

/-- A declaration with other parameters and another base, if there are any. -/
def overwrite (params : Option (List TypeParam)) (base : Option Signature)
    (D : TypeDecl) : TypeDecl :=
  { D with params := params.getD D.params, base := base.or D.base }

theorem overwrite_overwrite :
    overwrite params' base' (overwrite params base D) =
      overwrite (params'.or params) (base'.or base) D := by
  cases params' <;> cases base' <;> rfl

theorem overwrite_idem : overwrite params base (overwrite params base D) =
    overwrite params base D := by
  rw [overwrite_overwrite, Option.or_self, Option.or_self]

/-- The outline of what overwrites a declaration is made from the outline of that. -/
theorem outline_overwrite :
    (overwrite params base D).outline =
      ({ D.outline.1 with params := params.getD D.outline.1.params },
        base.elim D.outline.2 Signature.isValueBase) := by
  cases base <;> rfl

end Target.TypeDecl

namespace Completion

variable {R : Registry} {m : Memo} {c : TypeBindingId} {cs : List TypeBindingId} {p q : Plan}
  {u : TypeId} {V V' U U' W W' : Workspace} {counts : Summary}

/-! ## Plans that overwrite -/

/-- A plan overwrites declarations if what it makes of them does not hang on what it replaces. -/
def Plan.Overwrites (p : Plan) : Prop :=
  ∀ u, ∃ params base, p.fill u = TypeDecl.overwrite params base

namespace Plan.Overwrites

theorem nothing : Plan.Overwrites {} := fun _ => ⟨none, none, rfl⟩

theorem andThen (first : p.Overwrites) (second : q.Overwrites) : (p.andThen q).Overwrites := by
  intro u
  rcases first u with ⟨params, base, eq⟩
  rcases second u with ⟨params', base', eq'⟩
  refine ⟨params'.or params, base'.or base, funext fun D => ?_⟩
  change q.fill u (p.fill u D) = _
  rw [eq, eq', TypeDecl.overwrite_overwrite]

/-- Catalogs with the same outlines still have the same ones after a plan that overwrites. -/
theorem sameOutlines (overwrites : p.Overwrites) (leads : p.Leads V V') (leads' : p.Leads U U')
    (same : Target.Catalog.SameOutlines V.registry.target U.registry.target) :
    Target.Catalog.SameOutlines V'.registry.target U'.registry.target where
  modules := by rw [leads.modules, leads'.modules, same.modules]
  methods := by rw [leads.methods, leads'.methods, same.methods]
  types u := by
    rcases overwrites u with ⟨params, base, eq⟩
    rw [leads.types, leads'.types, eq, Option.map_map, Option.map_map]
    simp only [Function.comp_def, TypeDecl.outline_overwrite]
    exact same.map_outline
      (fun outline => ({ outline.1 with params := params.getD outline.1.params },
      base.elim outline.2 Target.Signature.isValueBase)) u

/-- A plan that overwrites changes nothing the second time. -/
theorem again (overwrites : p.Overwrites) (leads : p.Leads V V') (leads' : p.Leads V' U) :
    U.registry = V'.registry ∧ ∀ n x, U.notes.references.has n x ↔ V'.notes.references.has n x := by
  constructor
  · rcases leads'.registry with ⟨types, eq⟩
    have same : types = V'.registry.target.types := by
      refine Table.ext fun u => ?_
      have filled := leads'.types u
      rcases overwrites u with ⟨params, base, fill⟩
      rw [eq, leads.types, Option.map_map, fill] at filled
      rw [leads.types, fill]
      simpa only [Function.comp_def, TypeDecl.overwrite_idem] using filled
    rw [eq, same]
  · intro n x
    rw [leads'.references, leads.references, or_assoc, or_self]

end Plan.Overwrites

theorem overwrites_shape {b : TypeId} {d : Source.TypeDecl} {k : LayoutClass} :
    (Plan.shape b d k).Overwrites := by
  intro u
  by_cases here : u = b
  · subst here
    exact ⟨some (d.params.map (completedParam k.isBlittable)), (baseKind k.isBlittable d).fixed?,
      Plan.onlyAt_self ..⟩
  · exact ⟨none, none, Plan.onlyAt_of_ne here⟩

/-- The first sweep overwrites, also where output types are bound twice. -/
theorem overwrites_of_shapes (total : Total (ShapePlan R m) cs p) : p.Overwrites := by
  induction total with
  | nil => exact .nothing
  | cons first _ ih =>
      cases first with
      | unsourced => exact .andThen .nothing ih
      | sourced => exact .andThen overwrites_shape ih

/-! ## What the second sweep does -/

/-- The second sweep has to find a base for an output type, because a binding for it is for a source
type whose class fixes none. -/
def Deferred (R : Registry) (m : Memo) (c : TypeBindingId) (u : TypeId) : Prop :=
  ∃ b t d k, Sourced R m c b t d k ∧ baseKind k.isBlittable d = .projected ∧ b.target = u

/-- A plan gives new bases to output types of deferred bindings and does nothing else; and none of
these bases makes a value type. -/
def Plan.Rebases (R : Registry) (m : Memo) (cs : List TypeBindingId) (q : Plan) : Prop :=
  ∀ u, ∃ base, q.fill u = TypeDecl.overwrite none base ∧
    ∀ s ∈ base, s.isValueBase = false ∧ ∃ c ∈ cs, Deferred R m c u

namespace Plan.Rebases

theorem nothing : Plan.Rebases R m cs {} := fun _ => ⟨none, rfl, fun _ mem => nomatch mem⟩

theorem overwrites (rebases : q.Rebases R m cs) : q.Overwrites := fun u => by
  rcases rebases u with ⟨base, eq, -⟩
  exact ⟨none, base, eq⟩

theorem cons (first : p.Rebases R m [c]) (others : q.Rebases R m cs) :
    (p.andThen q).Rebases R m (c :: cs) := by
  intro u
  rcases first u with ⟨base, eq, made⟩
  rcases others u with ⟨base', eq', made'⟩
  refine ⟨base'.or base, funext fun D => ?_, fun s mem => ?_⟩
  · change q.fill u (p.fill u D) = _
    rw [eq, eq', TypeDecl.overwrite_overwrite, Option.or_none]
  · rcases Option.or_eq_some_iff.1 mem with found | ⟨-, found⟩
    · rcases made' s found with ⟨isValueBase, c', mem, deferred⟩
      exact ⟨isValueBase, c', List.mem_cons_of_mem _ mem, deferred⟩
    · rcases made s found with ⟨isValueBase, c', mem, deferred⟩
      cases List.mem_singleton.1 mem
      exact ⟨isValueBase, _, List.mem_cons_self, deferred⟩

/-- An output type that no deferred binding is for is left alone. -/
theorem fill_eq_id (rebases : q.Rebases R m cs) (none : ∀ c ∈ cs, ¬ Deferred R m c u) :
    q.fill u = id := by
  rcases rebases u with ⟨base, eq, made⟩
  cases base with
  | none => exact eq
  | some s =>
      rcases made s rfl with ⟨-, c, mem, deferred⟩
      exact absurd deferred (none c mem)

end Plan.Rebases

theorem BasePlan.rebases {C : Target.Catalog} (plan : BasePlan R C m c p) : p.Rebases R m [c] := by
  cases plan with
  | unsourced => exact .nothing
  | fixed => exact .nothing
  | @projected b t d k A base D sourced kind owned starting found =>
      intro u
      by_cases here : u = b.target
      · subst here
        refine ⟨some base, Plan.onlyAt_self .., fun s mem => ?_⟩
        cases mem
        exact ⟨isValueBase_of_starting starting, c, List.mem_singleton.2 rfl, b, t, d, k,
          sourced, kind, rfl⟩
      · exact ⟨none, Plan.onlyAt_of_ne here, fun _ mem => nomatch mem⟩

/-! ## Two sweeps side by side -/

/-- Two workspaces on the way through a second sweep have come to the same point if their output
catalogs have the same outlines. -/
structure Abreast (R : Registry) (m : Memo) (V U : Workspace) : Prop where
  first : Midway R m (Target.Catalog.SameView V.registry.target) V
  second : Midway R m (Target.Catalog.SameOutlines V.registry.target) U

theorem Midway.imp {View View' : Target.Catalog → Prop} (midway : Midway R m View W)
    (weaker : View W.registry.target → View' W.registry.target) : Midway R m View' W where
  registry := by
    rcases midway.registry with ⟨C, eq, view⟩
    refine ⟨C, eq, ?_⟩
    rw [eq] at weaker
    exact weaker view
  traced := midway.traced

namespace Abreast

theorem self {View : Target.Catalog → Prop} (midway : Midway R m View V) : Abreast R m V V where
  first := midway.imp fun _ => .refl _
  second := midway.imp fun _ => .refl _

/-- Where one of the two takes a step, the other takes the same. -/
theorem step (abreast : Abreast R m V U) (run : (fillBase c).run V = (.ok counts, V')) :
    ∃ (p : Plan) (U' : Workspace), p.Rebases R m [c] ∧ (fillBase c).run U = (.ok counts, U') ∧
      p.Leads V V' ∧ p.Leads U U' ∧ Abreast R m V' U' := by
  rcases abreast.first.exists_plan run with ⟨p, plan⟩
  rcases abreast.first.follows plan with ⟨V'', run', leads, traced⟩
  cases run.symm.trans run'
  have second : Midway R m (Target.Catalog.SameView V.registry.target) U :=
    abreast.second.imp Target.Catalog.SameOutlines.sameView
  rcases second.follows plan with ⟨U', runOther, leads', traced'⟩
  have outlines := plan.rebases.overwrites.sameOutlines leads leads' abreast.second.view
  exact ⟨p, U', plan.rebases, runOther, leads, leads',
    ⟨abreast.first.next leads (.refl _) traced, abreast.second.next leads' outlines traced'⟩⟩

/-- Where one of the two goes through to the end, so does the other, in the same way. This is by
induction on what is left of the sweep. -/
theorem sweep (abreast : Abreast R m V U) (run : (sweep fillBase cs).run V = (.ok counts, V')) :
    ∃ (q : Plan) (U' : Workspace), q.Rebases R m cs ∧
      (Completion.sweep fillBase cs).run U = (.ok counts, U') ∧
      q.Leads V V' ∧ q.Leads U U' ∧ Abreast R m V' U' := by
  induction cs generalizing V U counts with
  | nil =>
      rcases Effect.pure_eq_ok_iff.1 run with ⟨rfl, rfl⟩
      exact ⟨{}, U, .nothing, rfl, .refl V, .refl U, abreast⟩
  | cons c cs ih =>
      rcases Effect.bind_eq_ok_iff.1 run with ⟨first, V₁, runFirst, run⟩
      rcases Effect.bind_eq_ok_iff.1 run with ⟨others, V₂, runRest, run⟩
      rcases Effect.pure_eq_ok_iff.1 run with ⟨rfl, rfl⟩
      rcases abreast.step runFirst with ⟨p, U₁, rebases, runFirst', leads, leads', abreast⟩
      rcases ih abreast runRest with ⟨q, U', rebases', runRest', leadsRest, leadsRest', abreast⟩
      exact ⟨p.andThen q, U', rebases.cons rebases',
        Effect.bind_eq_ok_iff.2 ⟨_, U₁, runFirst', Effect.bind_eq_ok_iff.2 ⟨_, U', runRest', rfl⟩⟩,
        leads.trans leadsRest, leads'.trans leadsRest', abreast⟩

end Abreast

/-- A second sweep that succeeds gives new bases to output types of deferred bindings and does
nothing else. -/
theorem Midway.sweep_fillBase {View : Target.Catalog → Prop} (midway : Midway R m View V)
    (run : (sweep fillBase cs).run V = (.ok counts, V')) :
    ∃ q : Plan, q.Rebases R m cs ∧ q.Leads V V' ∧
      Midway R m (Target.Catalog.SameView V'.registry.target) V' := by
  rcases (Abreast.self midway).sweep run with ⟨q, -, rebases, -, leads, -, ⟨first, -⟩⟩
  exact ⟨q, rebases, leads, first⟩

end Completion

end TypeProjection
