import TypeProjection.Proofs.Completion.Plan
import TypeProjection.Proofs.Completion.Steps
import TypeProjection.Proofs.Projection.Constant

/-!
# Proofs.Completion.Outcome — what a completion does, whatever its order

In the first sweep the class of a binding is all that a step asks for, and the output catalog has no
say in classes. In the second sweep a step also asks for forms; but no step of that sweep changes
what is a value type or marked, so the forms are those of the catalog that the first sweep left
behind. Hence both sweeps are planned:

* `ShapePlan`, `planned_fillShape`   : what the first sweep does for a binding;
* `BasePlan`, `planned_fillBase`     : what the second sweep does for a binding;
* `Outcome`, `Outcome.of_completeIn` : what both sweeps do together;
* `Outcome.perm`                     : the order within the sweeps has no say in it.
-/

namespace TypeProjection

open Layout (Memo Traced SameBindings)
open Target (TypeId TypeDecl)

/-- No bound output type is a value type, as far as its base says so yet. -/
def Registry.TargetsStartPlain (R : Registry) : Prop :=
  ∀ (c : TypeBindingId) (b : TypeBinding), R.types[c]? = some b →
    R.target.isValueType (.defined b.target) ≠ some true

instance (R : Registry) : Decidable R.TargetsStartPlain := by
  unfold Registry.TargetsStartPlain
  infer_instance

namespace Completion

variable {R : Registry} {m : Memo} {c : TypeBindingId} {W W' : Workspace} {counts : Summary}

/-! ## On the way through a sweep -/

/-- A workspace on the way through a sweep: only the output catalog differs, and that only in what
the sweep may change; and the notes are traced. -/
structure Midway (R : Registry) (m : Memo) (View : Target.Catalog → Prop)
    (W : Workspace) : Prop where
  registry : ∃ C, W.registry = { R with target := C } ∧ View C
  traced : Traced R m W.notes.classes

/-- The class of a binding over the notes from the beginning. -/
def StartClass (R : Registry) (m : Memo) (c : TypeBindingId) (k : LayoutClass) : Prop :=
  ((R.classOf c).run { classes := m }).1 = .ok k

theorem StartClass.unique {k k' : LayoutClass} (starts : StartClass R m c k)
    (other : StartClass R m c k') : k = k' :=
  Except.ok.inj (starts.symm.trans other)

/-- A binding for a source type, with the class that it has in the beginning. -/
structure Sourced (R : Registry) (m : Memo) (c : TypeBindingId) (b : TypeBinding)
    (t : Source.TypeId) (d : Source.TypeDecl) (k : LayoutClass) : Prop where
  bound : R.types[c]? = some b
  source : b.source = some t
  declared : R.source.types[t]? = some d
  starts : StartClass R m c k

namespace Sourced

variable {b b' : TypeBinding} {t t' : Source.TypeId} {d d' : Source.TypeDecl} {k k' : LayoutClass}

theorem unique (sourced : Sourced R m c b t d k) (other : Sourced R m c b' t' d' k') :
    b = b' ∧ t = t' ∧ d = d' ∧ k = k' := by
  cases sourced.bound.symm.trans other.bound
  cases sourced.source.symm.trans other.source
  cases sourced.declared.symm.trans other.declared
  exact ⟨rfl, rfl, rfl, sourced.starts.unique other.starts⟩

theorem source_ne_none (sourced : Sourced R m c b t d k) (bound : R.types[c]? = some b') :
    b'.source ≠ none := by
  cases sourced.bound.symm.trans bound
  simp [sourced.source]

end Sourced

namespace Midway

variable {View : Target.Catalog → Prop} {k : LayoutClass} {notes : Ledger}

theorem types (midway : Midway R m View W) : W.registry.types = R.types := by
  rcases midway.registry with ⟨C, eq, -⟩
  rw [eq]

theorem source (midway : Midway R m View W) : W.registry.source = R.source := by
  rcases midway.registry with ⟨C, eq, -⟩
  rw [eq]

theorem sameBindings (midway : Midway R m View W) : SameBindings R W.registry := by
  rcases midway.registry with ⟨C, eq, -⟩
  exact eq ▸ .withTarget R C

theorem view (midway : Midway R m View W) : View W.registry.target := by
  rcases midway.registry with ⟨C, eq, view⟩
  rwa [eq]

/-- Another step, which follows a plan. -/
theorem next {View' : Target.Catalog → Prop} {p : Plan} (midway : Midway R m View W)
    (leads : p.Leads W W') (view : View' W'.registry.target)
    (traced : Traced R m W'.notes.classes) : Midway R m View' W' where
  registry := by
    rcases midway.registry with ⟨C, eq, -⟩
    rcases leads.registry with ⟨types, eq'⟩
    refine ⟨W'.registry.target, ?_, view⟩
    rw [eq', eq]
  traced := traced

/-- The class of a binding is the one that it has in the beginning, and asking for it records
nothing. -/
theorem classOf_iff (midway : Midway R m View W) :
    (∃ notes, (W.registry.classOf c).run W.notes = (.ok k, notes)) ↔ StartClass R m c k := by
  have constant : Constant R m (R.classOf c) := Registry.constant_classOf (.refl R) c
  rw [Registry.classOf_congr midway.sameBindings, StartClass,
    ← (constant.outcome W.notes midway.traced).1]
  constructor
  · rintro ⟨notes, run⟩
    exact congrArg Prod.fst run
  · exact fun answered => ⟨_, Effect.run_eq answered⟩

theorem traced_classOf (midway : Midway R m View W)
    (run : (W.registry.classOf c).run W.notes = (.ok k, notes)) : Traced R m notes.classes :=
  (Registry.constant_classOf midway.sameBindings c).keeps.after midway.traced run

/-- Whatever is asked on the way, the class of a binding is the one that it has in the beginning. -/
theorem answer_classOf (midway : Midway R m View W) (starts : StartClass R m c k)
    (qs : List Question) :
    ((W.registry.classOf c).run (W.registry.notesAfter W.notes qs)).1 = .ok k := by
  have traced := Registry.traced_notesAfter midway.sameBindings midway.traced qs
  calc ((W.registry.classOf c).run (W.registry.notesAfter W.notes qs)).1
      = ((W.registry.classOf c).run { classes := m }).1 :=
        ((Registry.constant_classOf midway.sameBindings c).outcome _ traced).1
    _ = ((R.classOf c).run { classes := m }).1 := by rw [Registry.classOf_congr midway.sameBindings]
    _ = .ok k := starts

end Midway

/-! ## The first sweep -/

/-- Two catalogs declare the same types. -/
def SameTypes (C C' : Target.Catalog) : Prop :=
  ∀ u : TypeId, (∃ D, C'.types[u]? = some D) ↔ ∃ D, C.types[u]? = some D

theorem SameTypes.leads {C : Target.Catalog} {p : Plan} (same : SameTypes C W.registry.target)
    (leads : p.Leads W W') :
    SameTypes C W'.registry.target := by
  intro u
  rw [← same u, leads.types]
  cases W.registry.target.types[u]? with
  | none => rfl
  | some D => exact ⟨fun _ => ⟨D, rfl⟩, fun _ => ⟨_, rfl⟩⟩

/-- To give a type the parameters that a class asks for, and a base if the class fixes it. -/
def Plan.shape (u : TypeId) (d : Source.TypeDecl) (k : LayoutClass) : Plan where
  counts := shapeCounts (d.params.map (completedParam k.isBlittable)) (baseKind k.isBlittable d)
  fill := onlyAt u (shapeDecl d k)

/-- What the first sweep does for a binding. -/
inductive ShapePlan (R : Registry) (m : Memo) (c : TypeBindingId) : Plan → Prop
  | unsourced {b : TypeBinding} (bound : R.types[c]? = some b) (unsourced : b.source = none) :
      ShapePlan R m c {}
  | sourced {b : TypeBinding} {t : Source.TypeId} {d : Source.TypeDecl} {k : LayoutClass}
      {D : TypeDecl} (sourced : Sourced R m c b t d k)
      (found : R.target.types[b.target]? = some D) :
      ShapePlan R m c (.shape b.target d k)

/-- The first sweep's step for a binding depends on its class only. -/
theorem planned_fillShape :
    Planned (Midway R m (SameTypes R.target)) fillShape (ShapePlan R m) where
  follows {c p W} midway plan := by
    cases plan with
    | unsourced bound unsourced =>
        exact ⟨W, fillShape_of_unsourced (midway.types ▸ bound) unsourced, midway, .refl W⟩
    | @sourced b t d k D sourced found =>
        rcases midway.classOf_iff.2 sourced.starts with ⟨notes, classified⟩
        rcases (midway.view b.target).2 ⟨D, found⟩ with ⟨E, found'⟩
        have run := (fillShape_eq_ok_iff (midway.types ▸ sourced.bound) sourced.source).2
          ⟨d, k, notes, E, midway.source ▸ sourced.declared, classified, found', rfl, rfl⟩
        have leads : (Plan.shape b.target d k).Leads W
            { registry := W.registry.replaceType b.target (shapeDecl d k E), notes } :=
          Plan.leads_replaceType rfl found'
            (by simp [Registry.references_eq_of_classOf classified, Plan.shape])
        exact ⟨_, run, midway.next leads (midway.view.leads leads)
          (midway.traced_classOf classified), leads⟩
  planned {c W W' counts} midway run := by
    rcases Update.look_bind_eq_ok_iff.1 run with ⟨b, fetched, -⟩
    have bound := Table.fetch_eq_ok_iff.1 fetched
    cases source : b.source with
    | none => exact ⟨_, .unsourced (midway.types ▸ bound) source⟩
    | some t =>
        rcases (fillShape_eq_ok_iff bound source).1 run with
          ⟨d, k, notes, E, declared, classified, found, -⟩
        rcases (midway.view b.target).1 ⟨E, found⟩ with ⟨D, found⟩
        exact ⟨_, .sourced ⟨midway.types ▸ bound, source, midway.source ▸ declared,
          midway.classOf_iff.1 ⟨notes, classified⟩⟩ found⟩

/-! ## The second sweep -/

/-- The output types whose base is not fixed are no value types. -/
def UnfixedPlain (R : Registry) (C : Target.Catalog) (m : Memo) : Prop :=
  ∀ (c : TypeBindingId) (b : TypeBinding) (t : Source.TypeId) (d : Source.TypeDecl)
    (k : LayoutClass), Sourced R m c b t d k → baseKind k.isBlittable d = .projected →
    C.isValueType (.defined b.target) ≠ some true

/-- To give a type a base that is the form of the source's base, which needs some references. -/
def Plan.base (u : TypeId) (base : Target.Signature) (needed : Target.References) : Plan where
  counts := { projectedBases := 1 }
  fill := onlyAt u fun D => { D with base := some base }
  records n x := needed.has n x

/-- What the second sweep does for a binding, where `C` is the output catalog that the first sweep
left behind. -/
inductive BasePlan (R : Registry) (C : Target.Catalog) (m : Memo) (c : TypeBindingId) : Plan → Prop
  | unsourced {b : TypeBinding} (bound : R.types[c]? = some b) (unsourced : b.source = none) :
      BasePlan R C m c {}
  | fixed {b : TypeBinding} {t : Source.TypeId} {d : Source.TypeDecl} {k : LayoutClass}
      (sourced : Sourced R m c b t d k) (kind : baseKind k.isBlittable d ≠ .projected) :
      BasePlan R C m c {}
  | projected {b : TypeBinding} {t : Source.TypeId} {d : Source.TypeDecl} {k : LayoutClass}
      {A : AssemblyBinding} {base : Target.Signature} {D : TypeDecl}
      (sourced : Sourced R m c b t d k) (kind : baseKind k.isBlittable d = .projected)
      (owned : R.assemblies[b.assembly]? = some A)
      (starting :
        (({ R with target := C }.projectOption A.module false d.base).run { classes := m }).1 =
          .ok base) (found : C.types[b.target]? = some D) :
      BasePlan R C m c (.base b.target base
        (({ R with target := C }.projectOption A.module false d.base).run
          { classes := m }).2.references)

theorem sameTypes_of_sameView {C C' : Target.Catalog} (view : Target.Catalog.SameView C C') :
    SameTypes C C' := by
  intro u
  have module := view.moduleOf u
  cases found : C.types[u]? with
  | none => simp_all
  | some D => cases found' : C'.types[u]? <;> simp_all

namespace Midway

variable {C : Target.Catalog} {into : Target.ModuleId} {s : Option Source.Signature}
  {base : Target.Signature} {notes : Ledger}

theorem assemblies {View : Target.Catalog → Prop} (midway : Midway R m View W) :
    W.registry.assemblies = R.assemblies := by
  rcases midway.registry with ⟨C, eq, -⟩
  rw [eq]

/-- In the second sweep the form of a base is asked for as if the catalog were still the one from
its beginning. -/
theorem projectOption_eq (midway : Midway R m (Target.Catalog.SameView C) W)
    (into : Target.ModuleId) (s : Option Source.Signature) :
    W.registry.projectOption into false s = { R with target := C }.projectOption into false s := by
  rcases midway.registry with ⟨C', eq, view⟩
  have alike : Alike { R with target := C } C' into Eq := view.alike into
  rw [eq, alike.projectOption s]

end Midway

theorem constant_projectOption (R : Registry) (m : Memo) (C : Target.Catalog)
    (into : Target.ModuleId) (s : Option Source.Signature) :
    Constant R m ({ R with target := C }.projectOption into false s) :=
  (constant_alike (.withTarget R C) into).projectOption s

namespace Midway

variable {C : Target.Catalog} {b : TypeBinding} {t : Source.TypeId} {d : Source.TypeDecl}
  {k : LayoutClass} {A : AssemblyBinding} {base : Target.Signature} {D : TypeDecl}

/-- Whatever is asked on the way, a form, or the failure to find one, is as from the beginning of
the sweep. -/
theorem answer_projectOption (midway : Midway R m (Target.Catalog.SameView C) W)
    {into : Target.ModuleId} {s : Option Source.Signature}
    {answer : Except Failure Target.Signature}
    (starting : (({ R with target := C }.projectOption into false s).run { classes := m }).1 =
      answer) (qs : List Question) :
    ((W.registry.projectOption into false s).run (W.registry.notesAfter W.notes qs)).1 =
      answer := by
  have traced := Registry.traced_notesAfter midway.sameBindings midway.traced qs
  calc ((W.registry.projectOption into false s).run (W.registry.notesAfter W.notes qs)).1
      = (({ R with target := C }.projectOption into false s).run
        (W.registry.notesAfter W.notes qs)).1 := by
        rw [midway.projectOption_eq]
    _ = (({ R with target := C }.projectOption into false s).run { classes := m }).1 :=
        ((constant_projectOption _ _ _ into s).outcome _ traced).1
    _ = answer := starting

/-- Where the class fixes the base, the second sweep's step only takes notes about classes. -/
theorem fillBase_fixed (midway : Midway R m (Target.Catalog.SameView C) W)
    (sourced : Sourced R m c b t d k) (kind : baseKind k.isBlittable d ≠ .projected) :
    ∃ W', (fillBase c).run W = (.ok {}, W') ∧ Plan.Leads {} W W' ∧ Traced R m W'.notes.classes := by
  rcases midway.classOf_iff.2 sourced.starts with ⟨notes, classified⟩
  have run := (fillBase_eq_ok_iff (midway.types ▸ sourced.bound) sourced.source).2
    ⟨d, k, notes, midway.source ▸ sourced.declared, classified, .inl ⟨kind, rfl, rfl⟩⟩
  have leads : Plan.Leads {} W { W with notes } :=
    ⟨⟨_, rfl⟩, fun u => by simp, by simp [Registry.references_eq_of_classOf classified]⟩
  exact ⟨_, run, leads, midway.traced_classOf classified⟩

/-- Where the class fixes no base, the second sweep's step adds the form that the source's base has
while the catalog looks as it does. -/
theorem fillBase_projected (midway : Midway R m (Target.Catalog.SameView C) W)
    (sourced : Sourced R m c b t d k) (kind : baseKind k.isBlittable d = .projected)
    (owned : R.assemblies[b.assembly]? = some A)
    (starting :
      (({ R with target := C }.projectOption A.module false d.base).run { classes := m }).1 =
        .ok base) (found : C.types[b.target]? = some D) :
    ∃ W', (fillBase c).run W = (.ok { projectedBases := 1 }, W') ∧
      (Plan.base b.target base
        (({ R with target := C }.projectOption A.module false d.base).run
          { classes := m }).2.references).Leads W W' ∧
      Traced R m W'.notes.classes := by
  rcases midway.classOf_iff.2 sourced.starts with ⟨notes, classified⟩
  have traced := midway.traced_classOf classified
  rcases (sameTypes_of_sameView midway.view b.target).2 ⟨D, found⟩ with ⟨E, found'⟩
  -- The notes from the way here have no say in the form, nor in what it records.
  have constant := constant_projectOption R m C A.module d.base
  rcases constant.outcome notes traced with ⟨same, recorded⟩
  obtain ⟨notes', projected⟩ : ∃ notes',
      ({ R with target := C }.projectOption A.module false d.base).run notes = (.ok base, notes') :=
    ⟨_, Effect.run_eq (same.trans starting)⟩
  rw [projected, Registry.references_eq_of_classOf classified] at recorded
  have projected' := (midway.projectOption_eq A.module d.base).symm ▸ projected
  have run := (fillBase_eq_ok_iff (midway.types ▸ sourced.bound) sourced.source).2
    ⟨d, k, notes, midway.source ▸ sourced.declared, classified,
      .inr ⟨kind, A, base, notes', E, midway.assemblies ▸ owned, projected', found', rfl, rfl⟩⟩
  have leads : (Plan.base b.target base _).Leads W
      { registry := W.registry.replaceType b.target { E with base := some base },
        notes := notes' } :=
    Plan.leads_replaceType (f := fun D => { D with base := some base }) rfl found' recorded
  exact ⟨_, run, leads, constant.keeps.after traced projected⟩

/-- The second sweep's step follows what is planned for a catalog that looks the same. -/
theorem follows (midway : Midway R m (Target.Catalog.SameView C) W) {p : Plan}
    (plan : BasePlan R C m c p) :
    ∃ W', (fillBase c).run W = (.ok p.counts, W') ∧ p.Leads W W' ∧ Traced R m W'.notes.classes := by
  cases plan with
  | unsourced bound unsourced =>
      exact ⟨W, fillBase_of_unsourced (midway.types ▸ bound) unsourced, .refl W, midway.traced⟩
  | fixed sourced kind => exact midway.fillBase_fixed sourced kind
  | projected sourced kind owned starting found =>
      exact midway.fillBase_projected sourced kind owned starting found

/-- Where the second sweep's step succeeds, there is a plan for it. -/
theorem exists_plan (midway : Midway R m (Target.Catalog.SameView C) W)
    (run : (fillBase c).run W = (.ok counts, W')) : ∃ p, BasePlan R C m c p := by
  rcases Update.look_bind_eq_ok_iff.1 run with ⟨b, fetched, -⟩
  have bound := Table.fetch_eq_ok_iff.1 fetched
  cases source : b.source with
  | none => exact ⟨_, .unsourced (midway.types ▸ bound) source⟩
  | some t =>
      rcases (fillBase_eq_ok_iff bound source).1 run with
        ⟨d, k, notes, declared, classified, outcome⟩
      have sourced : Sourced R m c b t d k :=
        ⟨midway.types ▸ bound, source, midway.source ▸ declared,
          midway.classOf_iff.1 ⟨notes, classified⟩⟩
      obtain ⟨kind, -⟩ | ⟨kind, A, base, notes', E, owned, projected, found, -⟩ := outcome
      · exact ⟨_, .fixed sourced kind⟩
      · rcases (sameTypes_of_sameView midway.view b.target).1 ⟨E, found⟩ with ⟨D, found⟩
        have constant := constant_projectOption R m C A.module d.base
        have starting := (constant.outcome notes (midway.traced_classOf classified)).1
        rw [midway.projectOption_eq] at projected
        rw [projected] at starting
        exact ⟨_, .projected sourced kind (midway.assemblies ▸ owned) starting.symm found⟩

end Midway

/-- A plan that keeps the outlines of all declarations leads to a catalog that looks the same. -/
theorem Plan.Leads.sameOutlines {p : Plan} (leads : p.Leads W W')
    (kept : ∀ u D, W.registry.target.types[u]? = some D → (p.fill u D).outline = D.outline) :
    Target.Catalog.SameOutlines W.registry.target W'.registry.target where
  modules := leads.modules
  methods := leads.methods
  types u := by
    rw [leads.types]
    cases found : W.registry.target.types[u]? with
    | none => rfl
    | some D => exact congrArg some (kept u D found)

/-- The form of a source's base is no base of value types. -/
theorem isValueBase_of_starting {C : Target.Catalog} {into : Target.ModuleId}
    {s : Option Source.Signature} {base : Target.Signature}
    (starting : (({ R with target := C }.projectOption into false s).run { classes := m }).1 =
      .ok base) :
    base.isValueBase = false :=
  isValueBase_of_projectOption ⟨{ classes := m }, _, .refl _ m, Effect.run_eq starting⟩

/-- The second sweep's step makes no value type of a type that is none, and of no other type
anything else. -/
theorem BasePlan.keeps_outline {C : Target.Catalog} {p : Plan} (plan : BasePlan R C m c p)
    (plain : UnfixedPlain R C m) {u : TypeId} {D : TypeDecl}
    (isValueType : C.isValueType (.defined u) = some D.isValueType) :
    (p.fill u D).outline = D.outline := by
  cases plan with
  | unsourced => rfl
  | fixed => rfl
  | @projected b t d k A base E sourced kind owned starting found =>
      change (Plan.onlyAt b.target (fun D => { D with base := some base }) u D).outline = D.outline
      by_cases here : u = b.target
      · -- A base that makes no value type takes the place of one that makes none either.
        subst here
        have before : D.isValueType = false := by
          simpa [isValueType] using plain c b t d k sourced kind
        have after : { D with base := some base }.isValueType = false :=
          isValueBase_of_starting starting
        simp only [Plan.onlyAt_self, TypeDecl.outline, before, after]
      · rw [Plan.onlyAt_of_ne here, id]

/-- The second sweep's step for a binding depends on its class and on what the first sweep left
behind. -/
theorem planned_fillBase {C : Target.Catalog} (plain : UnfixedPlain R C m) :
    Planned (Midway R m (Target.Catalog.SameView C)) fillBase (BasePlan R C m) where
  follows {c p W} midway plan := by
    rcases midway.follows plan with ⟨W', run, leads, traced⟩
    have outlines := leads.sameOutlines fun u D found => plan.keeps_outline plain <| by
      rw [← midway.view.isValueType, Target.Catalog.isValueType, found, Option.map_some]
    exact ⟨W', run, midway.next leads (midway.view.trans outlines.sameView) traced, leads⟩
  planned midway run := midway.exists_plan run

/-! ## Both sweeps -/

theorem ownPlans_shape (R : Registry) (m : Memo) : OwnPlans R (ShapePlan R m) where
  unique {c p q} first second := by
    cases first with
    | unsourced bound unsourced =>
        cases second with
        | unsourced => rfl
        | sourced sourced => exact absurd unsourced (sourced.source_ne_none bound)
    | sourced sourced =>
        cases second with
        | unsourced bound unsourced => exact absurd unsourced (sourced.source_ne_none bound)
        | sourced sourced' =>
            rcases sourced.unique sourced' with ⟨rfl, rfl, rfl, rfl⟩
            rfl
  own {c p} plan := by
    cases plan with
    | unsourced bound => exact ⟨_, id, bound, (Plan.onlyAt_id _).symm, fun _ => rfl⟩
    | sourced sourced =>
        exact ⟨_, _, sourced.bound, rfl, fun unsourced =>
          absurd unsourced (sourced.source_ne_none sourced.bound)⟩

theorem ownPlans_base (R : Registry) (C : Target.Catalog) (m : Memo) :
    OwnPlans R (BasePlan R C m) where
  unique {c p q} first second := by
    cases first with
    | unsourced bound unsourced =>
        cases second with
        | unsourced => rfl
        | fixed => rfl
        | projected sourced => exact absurd unsourced (sourced.source_ne_none bound)
    | fixed sourced kind =>
        cases second with
        | unsourced => rfl
        | fixed => rfl
        | projected sourced' kind' =>
            rcases sourced.unique sourced' with ⟨rfl, rfl, rfl, rfl⟩
            exact absurd kind' kind
    | projected sourced kind owned starting =>
        cases second with
        | unsourced bound unsourced => exact absurd unsourced (sourced.source_ne_none bound)
        | fixed sourced' kind' =>
            rcases sourced.unique sourced' with ⟨rfl, rfl, rfl, rfl⟩
            exact absurd kind kind'
        | projected sourced' _ owned' starting' =>
            rcases sourced.unique sourced' with ⟨rfl, rfl, rfl, rfl⟩
            cases owned.symm.trans owned'
            cases starting.symm.trans starting'
            rfl
  own {c p} plan := by
    cases plan with
    | unsourced bound => exact ⟨_, id, bound, (Plan.onlyAt_id _).symm, fun _ => rfl⟩
    | fixed sourced => exact ⟨_, id, sourced.bound, (Plan.onlyAt_id _).symm, fun _ => rfl⟩
    | projected sourced =>
        exact ⟨_, _, sourced.bound, rfl, fun unsourced =>
          absurd unsourced (sourced.source_ne_none sourced.bound)⟩

theorem isValueType_shapeDecl {d : Source.TypeDecl} {k : LayoutClass} {D : TypeDecl}
    (kind : baseKind k.isBlittable d = .projected) :
    (shapeDecl d k D).isValueType = D.isValueType := by
  simp [shapeDecl, kind, BaseKind.fixed?, TypeDecl.isValueType]

/-- The first sweep makes no value types of those whose base is not fixed. -/
theorem unfixedPlain_of_leads (once : W.registry.TargetsBoundOnce)
    (plain : W.registry.TargetsStartPlain) {shapes : List TypeBindingId} {p : Plan}
    (total : Total (ShapePlan W.registry m) shapes p) (leads : p.Leads W W') :
    UnfixedPlain W.registry W'.registry.target m := by
  intro c b t d k sourced kind isValueType
  rcases Option.map_eq_some_iff.1 isValueType with ⟨D', found', isValueType⟩
  rw [leads.types] at found'
  rcases Option.map_eq_some_iff.1 found' with ⟨D, found, rfl⟩
  have start : D.isValueType = false := by
    simpa [Target.Catalog.isValueType, found] using plain c b sourced.bound
  have kept : (p.fill b.target D).isValueType = false := by
    refine total.fill_keeps (Q := fun D => D.isValueType = false)
      (fun c' _ p first E start => ?_) start
    cases first with
    | unsourced => exact start
    | @sourced b' t' d' k' _ sourced' =>
        change (Plan.onlyAt b'.target (shapeDecl d' k') b.target E).isValueType = false
        by_cases same : b.target = b'.target
        · -- Only the binding itself fills in its output type.
          cases once c b sourced.bound c' b' sourced'.bound same
          rcases sourced.unique sourced' with ⟨rfl, rfl, rfl, rfl⟩
          rw [Plan.onlyAt_self, isValueType_shapeDecl kind, start]
        · rw [Plan.onlyAt_of_ne same, id, start]
  simp [kept] at isValueType

theorem shapeDecl_shapeDecl {d : Source.TypeDecl} {k : LayoutClass} (D : TypeDecl) :
    shapeDecl d k (shapeDecl d k D) = shapeDecl d k D := by
  unfold shapeDecl
  cases (baseKind k.isBlittable d).fixed? <;> rfl

/-- After the first sweep, the output type of a binding for a source type has the shape that the
class asks for. -/
theorem types_shaped_of_leads {shapes : List TypeBindingId} {p : Plan}
    (total : Total (ShapePlan W.registry m) shapes p) (leads : p.Leads W W')
    (once : W.registry.TargetsBoundOnce) {b : TypeBinding} {t : Source.TypeId}
    (bound : W.registry.types[c]? = some b) (source : b.source = some t) (mem : c ∈ shapes) :
    ∃ d k D, Sourced W.registry m c b t d k ∧ W.registry.target.types[b.target]? = some D ∧
      W'.registry.target.types[b.target]? = some (shapeDecl d k D) := by
  rcases total.exists_of_mem mem with ⟨p₀, plan⟩
  cases plan with
  | unsourced bound' unsourced =>
      cases bound.symm.trans bound'
      cases source.symm.trans unsourced
  | @sourced b' t' d k D sourced found =>
      cases bound.symm.trans sourced.bound
      cases source.symm.trans sourced.source
      have here : (Plan.shape b.target d k).fill b.target = shapeDecl d k := Plan.onlyAt_self ..
      have filled := (ownPlans_shape _ _).fill_target once bound (.sourced sourced found)
        (by simp only [here, shapeDecl_shapeDecl, implies_true]) total mem D
      refine ⟨d, k, D, sourced, found, ?_⟩
      rw [leads.types, found, Option.map_some, filled, here]

theorem run_complete (W : Workspace) :
    complete.run W = (completeIn W.registry.bindings W.registry.bindings).run W := rfl

/-- A completion succeeds if both sweeps do. -/
theorem completeIn_eq_ok_iff {shapes bases : List TypeBindingId} :
    (completeIn shapes bases).run W = (.ok counts, W') ↔
      ∃ first second W₁, (sweep fillShape shapes).run W = (.ok first, W₁) ∧
        (sweep fillBase bases).run W₁ = (.ok second, W') ∧ first + second = counts := by
  constructor
  · intro run
    rcases Effect.bind_eq_ok_iff.1 run with ⟨first, W₁, runShapes, run⟩
    rcases Effect.bind_eq_ok_iff.1 run with ⟨second, W₂, runBases, run⟩
    rcases Effect.pure_eq_ok_iff.1 run with ⟨counted, rfl⟩
    exact ⟨first, second, W₁, runShapes, runBases, counted⟩
  · rintro ⟨first, second, W₁, runShapes, runBases, rfl⟩
    exact Effect.bind_eq_ok_iff.2
      ⟨first, W₁, runShapes, Effect.bind_eq_ok_iff.2 ⟨second, W', runBases, rfl⟩⟩

/-- What both sweeps do, with the workspace between them. -/
structure Outcome (W : Workspace) (shapes bases : List TypeBindingId) (p q : Plan)
    (W₁ W' : Workspace) : Prop where
  shapes : Total (ShapePlan W.registry W.notes.classes) shapes p
  first : p.Leads W W₁
  bases : Total (BasePlan W.registry W₁.registry.target W.notes.classes) bases q
  second : q.Leads W₁ W'
  midway : Midway W.registry W.notes.classes (Target.Catalog.SameView W₁.registry.target) W'

namespace Outcome

variable {shapes bases shapes' bases' : List TypeBindingId} {p q : Plan} {W₁ : Workspace}

theorem leads (outcome : Outcome W shapes bases p q W₁ W') : (p.andThen q).Leads W W' :=
  outcome.first.trans outcome.second

theorem midway_start (W : Workspace) :
    Midway W.registry W.notes.classes (SameTypes W.registry.target) W :=
  ⟨⟨_, rfl, fun _ => Iff.rfl⟩, .refl _ _⟩

/-- The end of the first sweep is the beginning of the second. -/
theorem midway_between (midway : Midway W.registry m (SameTypes W.registry.target) W₁) :
    Midway W.registry m (Target.Catalog.SameView W₁.registry.target) W₁ := by
  rcases midway.registry with ⟨C, eq, -⟩
  exact ⟨⟨W₁.registry.target, by rw [eq], .refl _⟩, midway.traced⟩

/-- Sweeps that succeed one after the other do what was planned. -/
theorem of_sweeps (once : W.registry.TargetsBoundOnce) (plain : W.registry.TargetsStartPlain)
    {first second : Summary} (runShapes : (sweep fillShape shapes).run W = (.ok first, W₁))
    (runBases : (sweep fillBase bases).run W₁ = (.ok second, W')) :
    ∃ p q, Outcome W shapes bases p q W₁ W' ∧ p.counts = first ∧ q.counts = second := by
  rcases planned_fillShape.sweep.leads (midway_start W) runShapes with
    ⟨p, shapes, rfl, midway, leads⟩
  have plain₁ := unfixedPlain_of_leads once plain shapes leads
  rcases (planned_fillBase plain₁).sweep.leads (midway_between midway) runBases with
    ⟨q, bases, rfl, midway', leads'⟩
  exact ⟨p, q, ⟨shapes, leads, bases, leads', midway'⟩, rfl, rfl⟩

/-- A completion that succeeds does what was planned. -/
theorem of_completeIn (once : W.registry.TargetsBoundOnce) (plain : W.registry.TargetsStartPlain)
    (run : (completeIn shapes bases).run W = (.ok counts, W')) :
    ∃ p q W₁, Outcome W shapes bases p q W₁ W' ∧ (p.andThen q).counts = counts := by
  rcases completeIn_eq_ok_iff.1 run with ⟨first, second, W₁, runShapes, runBases, rfl⟩
  rcases of_sweeps once plain runShapes runBases with ⟨p, q, outcome, rfl, rfl⟩
  exact ⟨p, q, W₁, outcome, rfl⟩

/-- What both sweeps do in one order they do in every other. -/
theorem perm (outcome : Outcome W shapes bases p q W₁ W') (once : W.registry.TargetsBoundOnce)
    (plain : W.registry.TargetsStartPlain) (permShapes : shapes.Perm shapes')
    (permBases : bases.Perm bases') :
    ∃ W₁' W'', Outcome W shapes' bases' p q W₁' W'' ∧
      (completeIn shapes' bases').run W = (.ok (p.andThen q).counts, W'') := by
  have shapes := outcome.shapes.perm ((ownPlans_shape _ _).commutes once) permShapes
  rcases planned_fillShape.sweep.follows (midway_start W) shapes with
    ⟨W₁', runShapes, midway, leads⟩
  -- Both orders of the first sweep lead to one registry, in which the second sweep has the same
  -- plans.
  have same := outcome.first.registry_eq leads
  have bases := same ▸ outcome.bases.perm ((ownPlans_base _ _ _).commutes once) permBases
  have plain₁ := unfixedPlain_of_leads once plain shapes leads
  rcases (planned_fillBase plain₁).sweep.follows (midway_between midway) bases with
    ⟨W'', runBases, midway', leads'⟩
  exact ⟨W₁', W'', ⟨shapes, leads, bases, leads', midway'⟩,
    completeIn_eq_ok_iff.2 ⟨_, _, W₁', runShapes, runBases, rfl⟩⟩

/-! ## Output types after a completion -/

/-- An output type that stands for no source type is as it was. -/
theorem types_other (outcome : Outcome W shapes bases p q W₁ W') {u : TypeId}
    (other : ∀ (c : TypeBindingId) (b : TypeBinding), W.registry.types[c]? = some b →
      b.source ≠ none → b.target ≠ u) :
    W'.registry.target.types[u]? = W.registry.target.types[u]? := by
  have kept : (p.andThen q).fill u = id := funext fun D => by
    change q.fill u (p.fill u D) = D
    rw [(ownPlans_shape _ _).fill_other other outcome.shapes,
      (ownPlans_base _ _ _).fill_other other outcome.bases]
  rw [outcome.leads.types, kept, Option.map_id, id]

/-- An output type is as it was, or it is that of a binding for a source type. -/
theorem types_cases (outcome : Outcome W shapes bases p q W₁ W') {u : TypeId} {D : TypeDecl}
    (found : W'.registry.target.types[u]? = some D) :
    W.registry.target.types[u]? = some D ∨
      ∃ (c : TypeBindingId) (b : TypeBinding) (t : Source.TypeId), W.registry.types[c]? = some b ∧
        b.source = some t ∧ b.target = u := by
  refine Classical.or_iff_not_imp_right.2 fun none => ?_
  rwa [outcome.types_other fun c b bound source target => ?_] at found
  rcases Option.ne_none_iff_exists'.1 source with ⟨t, source⟩
  exact none ⟨c, b, t, bound, source, target⟩

theorem types_shaped (outcome : Outcome W shapes bases p q W₁ W')
    (once : W.registry.TargetsBoundOnce) {b : TypeBinding} {t : Source.TypeId}
    (bound : W.registry.types[c]? = some b) (source : b.source = some t) (mem : c ∈ shapes) :
    ∃ d k D, Sourced W.registry W.notes.classes c b t d k ∧
      W.registry.target.types[b.target]? = some D ∧
      W₁.registry.target.types[b.target]? = some (shapeDecl d k D) :=
  types_shaped_of_leads outcome.shapes outcome.first once bound source mem

/-- The second sweep leaves a base that is fixed as it is, and replaces any other by the form of the
source's base. -/
theorem types_based (outcome : Outcome W shapes bases p q W₁ W')
    (once : W.registry.TargetsBoundOnce) {b : TypeBinding} {t : Source.TypeId} {d : Source.TypeDecl}
    {k : LayoutClass} {D : TypeDecl} (sourced : Sourced W.registry W.notes.classes c b t d k)
    (mem : c ∈ bases) (found : W₁.registry.target.types[b.target]? = some D) :
    baseKind k.isBlittable d ≠ .projected ∧ W'.registry.target.types[b.target]? = some D ∨
      baseKind k.isBlittable d = .projected ∧ ∃ A base,
        W.registry.assemblies[b.assembly]? = some A ∧
        (({ W.registry with target := W₁.registry.target }.projectOption A.module false d.base).run
          { classes := W.notes.classes }).1 = .ok base ∧
        W'.registry.target.types[b.target]? = some { D with base := some base } := by
  rcases outcome.bases.exists_of_mem mem with ⟨q₀, plan⟩
  have filled := fun stays =>
    (ownPlans_base _ _ _).fill_target once sourced.bound plan stays outcome.bases mem D
  have types := outcome.second.types b.target
  rw [found, Option.map_some] at types
  cases plan with
  | unsourced bound unsourced => exact absurd unsourced (sourced.source_ne_none bound)
  | fixed sourced' kind =>
      rcases sourced.unique sourced' with ⟨rfl, rfl, rfl, rfl⟩
      rw [filled fun _ => rfl] at types
      exact .inl ⟨kind, types⟩
  | @projected _ _ _ _ A base _ sourced' kind owned starting =>
      rcases sourced.unique sourced' with ⟨rfl, rfl, rfl, rfl⟩
      have here : ∀ needed, (Plan.base b.target base needed).fill b.target = fun D =>
          { D with base := some base } :=
        fun _ => Plan.onlyAt_self ..
      rw [filled (by simp only [here, implies_true]), here] at types
      exact .inr ⟨kind, A, base, owned, starting, types⟩

/-! ## Questions after a completion -/

/-- After a completion a class is the one from the beginning, whatever was asked in between. -/
theorem answer_classOf (outcome : Outcome W shapes bases p q W₁ W') {k : LayoutClass}
    (starts : StartClass W.registry W.notes.classes c k) (qs : List Question) :
    ((W'.registry.classOf c).run (W'.registry.notesAfter W'.notes qs)).1 = .ok k :=
  outcome.midway.answer_classOf starts qs

/-- After a completion a form is the one from the end of the first sweep, whatever was asked in
between. -/
theorem answer_projectOption (outcome : Outcome W shapes bases p q W₁ W') {into : Target.ModuleId}
    {s : Option Source.Signature} {r : Target.Signature}
    (starting : (({ W.registry with target := W₁.registry.target }.projectOption into false s).run
      { classes := W.notes.classes }).1 = .ok r) (qs : List Question) :
    ((W'.registry.projectOption into false s).run (W'.registry.notesAfter W'.notes qs)).1 = .ok r :=
  outcome.midway.answer_projectOption starting qs

end Outcome

end Completion

end TypeProjection
