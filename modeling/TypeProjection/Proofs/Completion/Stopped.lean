import TypeProjection.Proofs.Completion.Consistent
import TypeProjection.Proofs.Completion.Course
import TypeProjection.Proofs.Registry.Tables

/-!
# Proofs.Completion.Stopped — what a completion that fails leaves behind

Only the form of a base can lack something. So where a completion fails with a look-up error, the
first sweep has ended and the second sweep has stopped at one binding, whose output type is left as
it is:

* `Lookupless` : steps that do not fail with look-up errors;
* `exists_of_sweep_error` : a sweep that fails ends at its first step that fails;
* `ComesTo`, `BaseAnswer` : where the second sweep comes to a binding, and what the form of the base
  is there;
* `types_of_reached`, `types_of_unreached` : output types in the middle of the second sweep;
* `exists_stop`, `Midway.exists_of_error` : the step at which a completion stops;
* `complete_stopped` : the output after a completion that fails.
-/

namespace TypeProjection

open Layout (Memo)
open Target (TypeId TypeDecl)

/-! ## Steps that need nothing -/

theorem orDangling_ne_lookup {α : Type} (found : Option α) (e : LookupError) :
    orDangling found ≠ .error (.lookup e) := by
  cases found <;> simp [orDangling]

namespace Update

variable {α β : Type} {W W' : Workspace} {e : LookupError}

/-- A step does not fail with look-up errors. -/
def Lookupless (q : Update α) : Prop := ∀ W W' e, q.run W ≠ (.error (.lookup e), W')

namespace Lookupless

theorem pure (a : α) : Lookupless (pure a : Update α) :=
  fun _ _ _ failed => nomatch congrArg Prod.fst failed

/-- What starts with such a step fails with a look-up error only after that has succeeded. -/
theorem bind_error {q : Update α} {f : α → Update β} (lookupless : Lookupless q)
    (failed : (q >>= f).run W = (.error (.lookup e), W')) :
    ∃ a between, q.run W = (.ok a, between) ∧ (f a).run between = (.error (.lookup e), W') :=
  (Effect.bind_eq_error_iff.1 failed).resolve_left (lookupless W W' e)

theorem bind {q : Update α} {f : α → Update β} (first : Lookupless q)
    (rest : ∀ a, Lookupless (f a)) :
    Lookupless (q >>= f) := by
  intro W W' e failed
  rcases first.bind_error failed with ⟨a, between, -, failed⟩
  exact rest a between W' e failed

theorem look {κ : Entity} {t : Registry → Table κ α} {h : Handle κ} :
    Lookupless (Update.look fun R => (t R).fetch h) := by
  intro W W' e failed
  exact orDangling_ne_lookup (t W.registry)[h]? e (congrArg Prod.fst failed)

theorem classOf (c : TypeBindingId) : Lookupless (Update.ask fun R => R.classOf c) := by
  intro W W' e failed
  have answered : ((W.registry.classOf c).run W.notes).1 = .error (.lookup e) :=
    congrArg Prod.fst failed
  rw [Registry.answer_classOf] at answered
  exact orDangling_ne_lookup _ e answered

theorem editTarget {f : Target.Catalog → Option (α × Target.Catalog)} :
    Lookupless (Update.editTarget f) := by
  intro W W' e failed
  simp only [Update.editTarget, Update.edit, ExceptT.run] at failed
  split at failed <;> cases failed

end Lookupless

end Update

namespace Completion

open Update (Lookupless)

variable {R : Registry} {m : Memo} {c c' : TypeBindingId} {cs before after : List TypeBindingId}
  {b b' : TypeBinding} {t : Source.TypeId} {d : Source.TypeDecl} {k : LayoutClass} {u : TypeId}
  {D : TypeDecl} {W W₁ W' V : Workspace} {counts : Summary} {e : LookupError}

theorem lookupless_fillShape (c : TypeBindingId) : Lookupless (fillShape c) := by
  refine .bind .look fun b => ?_
  split
  · exact .pure _
  · refine .bind .look fun d => .bind (.classOf c) fun k => .bind .editTarget fun _ => ?_
    dsimp only
    split
    · exact .bind .editTarget fun _ => .pure _
    · exact .pure _

theorem lookupless_sweep {step : TypeBindingId → Update Summary} (each : ∀ c, Lookupless (step c))
    (cs : List TypeBindingId) : Lookupless (sweep step cs) := by
  induction cs with
  | nil => exact .pure _
  | cons c cs ih => exact .bind (each c) fun _ => .bind ih fun _ => .pure _

/-- The second sweep's step fails with a look-up error only where that is the failure to find the
form of the source's base; then it has done nothing but ask. -/
theorem exists_of_fillBase_error (failed : (fillBase c).run W = (.error (.lookup e), W')) :
    ∃ b t d k notes A notes', W.registry.types[c]? = some b ∧ b.source = some t ∧
      W.registry.source.types[t]? = some d ∧ (W.registry.classOf c).run W.notes = (.ok k, notes) ∧
      baseKind k.isBlittable d = .projected ∧ W.registry.assemblies[b.assembly]? = some A ∧
      (W.registry.projectOption A.module false d.base).run notes = (.error (.lookup e), notes') ∧
      { W with notes := notes' } = W' := by
  rcases Lookupless.look.bind_error failed with ⟨b, _, looked, failed⟩
  rcases Update.look_eq_ok_iff.1 looked with ⟨bound, rfl⟩
  cases source : b.source with
  | none =>
      simp only [source] at failed
      cases congrArg Prod.fst failed
  | some t =>
      simp only [source] at failed
      rcases Lookupless.look.bind_error failed with ⟨d, _, looked, failed⟩
      rcases Update.look_eq_ok_iff.1 looked with ⟨declared, rfl⟩
      rcases (Lookupless.classOf c).bind_error failed with ⟨k, _, asked, failed⟩
      rcases Update.ask_eq_ok_iff.1 asked with ⟨notes, classified, rfl⟩
      cases kind : baseKind k.isBlittable d with
      | enum =>
          simp only [kind] at failed
          cases congrArg Prod.fst failed
      | valueType =>
          simp only [kind] at failed
          cases congrArg Prod.fst failed
      | projected =>
          simp only [kind] at failed
          rcases Lookupless.look.bind_error failed with ⟨A, _, looked, failed⟩
          rcases Update.look_eq_ok_iff.1 looked with ⟨owned, rfl⟩
          rcases Effect.bind_eq_error_iff.1 failed with failed | ⟨base, between, -, failed⟩
          · rw [Update.run_ask] at failed
            refine ⟨b, t, d, k, notes, A, _, Table.fetch_eq_ok_iff.1 bound, source,
              Table.fetch_eq_ok_iff.1 declared, classified, kind, Table.fetch_eq_ok_iff.1 owned,
              Effect.run_eq (congrArg Prod.fst failed), congrArg Prod.snd failed⟩
          · -- Once the form is found, only a dangling handle can stop the step.
            rcases Lookupless.editTarget.bind_error failed with ⟨_, _, -, failed⟩
            cases congrArg Prod.fst failed

/-! ## Sweeps that stop -/

/-- A sweep that fails has gone through the steps before the first one that fails, and ends with
that. -/
theorem exists_of_sweep_error {step : TypeBindingId → Update Summary} {failure : Failure}
    (failed : (sweep step cs).run W = (.error failure, W')) :
    ∃ before c after counts V, cs = before ++ c :: after ∧
      (sweep step before).run W = (.ok counts, V) ∧ (step c).run V = (.error failure, W') := by
  induction cs generalizing W with
  | nil => cases congrArg Prod.fst failed
  | cons c cs ih =>
      rcases Effect.bind_eq_error_iff.1 failed with failed | ⟨first, W₁, run, failed⟩
      · exact ⟨[], c, cs, {}, W, rfl, rfl, failed⟩
      · rcases Effect.bind_eq_error_iff.1 failed with failed | ⟨_, _, -, failed⟩
        · rcases ih failed with ⟨before, c', after, counts, V, rfl, runBefore, failed⟩
          exact ⟨c :: before, c', after, first + counts, V, rfl,
            Effect.bind_eq_ok_iff.2 ⟨_, W₁, run, Effect.bind_eq_ok_iff.2 ⟨_, V, runBefore, rfl⟩⟩,
            failed⟩
        · cases congrArg Prod.fst failed

/-- A sweep goes through the first part of its list and then through the rest. -/
theorem exists_of_sweep_append {step : TypeBindingId → Update Summary}
    (run : (sweep step (before ++ after)).run W = (.ok counts, W')) :
    ∃ first V rest, (sweep step before).run W = (.ok first, V) ∧
      (sweep step after).run V = (.ok rest, W') := by
  induction before generalizing W counts with
  | nil => exact ⟨{}, W, counts, rfl, run⟩
  | cons c before ih =>
      rcases Effect.bind_eq_ok_iff.1 run with ⟨first, W₁, runFirst, run⟩
      rcases Effect.bind_eq_ok_iff.1 run with ⟨others, W₂, runRest, run⟩
      rcases Effect.pure_eq_ok_iff.1 run with ⟨-, rfl⟩
      rcases ih runRest with ⟨others', V, rest, runBefore, runAfter⟩
      exact ⟨first + others', V, rest,
        Effect.bind_eq_ok_iff.2 ⟨_, W₁, runFirst, Effect.bind_eq_ok_iff.2 ⟨_, V, runBefore, rfl⟩⟩,
        runAfter⟩

/-- In its second sweep, a completion comes to a binding at this workspace: the first sweep has
ended, and the steps for all bindings that are listed before have succeeded. -/
def ComesTo (W : Workspace) (c : TypeBindingId) (V : Workspace) : Prop :=
  ∃ before after counts, W.registry.bindings = before ++ c :: after ∧
    (completeIn W.registry.bindings before).run W = (.ok counts, V)

/-- Where a completion comes to a binding in its second sweep, this is the form of the base, or the
failure to find it, whatever is asked before. -/
def BaseAnswer (W : Workspace) (c : TypeBindingId) (b : TypeBinding) (d : Source.TypeDecl)
    (answer : Except Failure Target.Signature) : Prop :=
  ∃ A V, W.registry.assemblies[b.assembly]? = some A ∧ ComesTo W c V ∧ ∀ qs,
    ((V.registry.projectOption A.module false d.base).run (V.registry.notesAfter V.notes qs)).1 =
      answer

/-! ## In the middle of the second sweep -/

/-- Only its own binding can make the second sweep find a base for an output type, if none is bound
twice. -/
theorem Deferred.unique (once : R.TargetsBoundOnce) (sourced : Sourced R m c b t d k)
    (deferred : Deferred R m c' b.target) : c' = c ∧ baseKind k.isBlittable d = .projected := by
  rcases deferred with ⟨b', t', d', k', sourced', kind, target⟩
  cases once c' b' sourced'.bound c b sourced.bound target
  rcases sourced.unique sourced' with ⟨rfl, rfl, rfl, rfl⟩
  exact ⟨rfl, kind⟩

/-- The second sweep leaves an output type alone that it does not have to find a base for. -/
theorem types_of_unreached {View : Target.Catalog → Prop} (midway : Midway R m View W₁)
    (run : (sweep fillBase before).run W₁ = (.ok counts, V))
    (none : ∀ c ∈ before, ¬ Deferred R m c u) :
    V.registry.target.types[u]? = W₁.registry.target.types[u]? := by
  rcases midway.sweep_fillBase run with ⟨q, rebases, leads, -⟩
  rw [leads.types, rebases.fill_eq_id none, Option.map_id, id]

/-- Where the second sweep comes to a binding that it has to find a base for, it adds the form that
the source's base has there. -/
theorem types_of_step {View : Target.Catalog → Prop} (midway : Midway R m View W₁)
    (run : (fillBase c).run W₁ = (.ok counts, V)) (sourced : Sourced R m c b t d k)
    (kind : baseKind k.isBlittable d = .projected)
    (found : W₁.registry.target.types[b.target]? = some D) :
    ∃ A base, R.assemblies[b.assembly]? = some A ∧
      (∀ qs,
        ((W₁.registry.projectOption A.module false d.base).run
          (W₁.registry.notesAfter W₁.notes qs)).1 = .ok base) ∧
      V.registry.target.types[b.target]? = some { D with base := some base } := by
  have here := (Abreast.self midway).first
  rcases here.exists_plan run with ⟨p, plan⟩
  rcases here.follows plan with ⟨V', run', leads, -⟩
  cases run.symm.trans run'
  cases plan with
  | unsourced bound unsourced => exact absurd unsourced (sourced.source_ne_none bound)
  | fixed sourced' fixed =>
      rcases sourced.unique sourced' with ⟨rfl, rfl, rfl, rfl⟩
      exact absurd kind fixed
  | @projected _ _ _ _ A base _ sourced' _ owned starting =>
      rcases sourced.unique sourced' with ⟨rfl, rfl, rfl, rfl⟩
      refine ⟨A, base, owned, here.answer_projectOption starting, ?_⟩
      rw [leads.types, found, Option.map_some]
      simp only [Plan.base, Plan.onlyAt_self]

/-- The output type of a binding that the second sweep has come through. -/
theorem types_of_reached (once : R.TargetsBoundOnce) {View : Target.Catalog → Prop}
    (midway : Midway R m View W₁)
    (run : (sweep fillBase (before ++ c :: after)).run W₁ = (.ok counts, V)) (fresh : c ∉ before)
    (fresh' : c ∉ after) (sourced : Sourced R m c b t d k)
    (kind : baseKind k.isBlittable d = .projected)
    (found : W₁.registry.target.types[b.target]? = some D) :
    ∃ first V₁ A base, (sweep fillBase before).run W₁ = (.ok first, V₁) ∧
      R.assemblies[b.assembly]? = some A ∧ (∀ qs,
        ((V₁.registry.projectOption A.module false d.base).run
          (V₁.registry.notesAfter V₁.notes qs)).1 = .ok base) ∧
      V.registry.target.types[b.target]? = some { D with base := some base } := by
  have other : ∀ {cs : List TypeBindingId}, c ∉ cs → ∀ c' ∈ cs, ¬ Deferred R m c' b.target := by
    intro cs fresh c' mem deferred
    exact fresh ((deferred.unique once sourced).1 ▸ mem)
  rcases exists_of_sweep_append run with ⟨first, V₁, rest, runBefore, run⟩
  rcases Effect.bind_eq_ok_iff.1 run with ⟨_, V₂, runStep, run⟩
  rcases Effect.bind_eq_ok_iff.1 run with ⟨_, V₃, runAfter, run⟩
  rcases Effect.pure_eq_ok_iff.1 run with ⟨-, rfl⟩
  rcases midway.sweep_fillBase runBefore with ⟨-, -, -, midway₁⟩
  rcases (Abreast.self midway₁).step runStep with ⟨-, -, -, -, -, -, ⟨midway₂, -⟩⟩
  have found₁ := (types_of_unreached midway runBefore (other fresh)).trans found
  rcases types_of_step midway₁ runStep sourced kind found₁ with ⟨A, base, owned, answers, found₂⟩
  exact ⟨first, V₁, A, base, runBefore, owned, answers,
    (types_of_unreached midway₂ runAfter (other fresh')).trans found₂⟩

/-- What the first sweep and the first steps of the second one make of the output type of a
binding. -/
theorem exists_completed (once : W.registry.TargetsBoundOnce) (nodup : W.registry.bindings.Nodup)
    (split : W.registry.bindings = before ++ after) {first : Summary}
    (runShapes : (sweep fillShape W.registry.bindings).run W = (.ok first, W₁))
    (runBefore : (sweep fillBase before).run W₁ = (.ok counts, V))
    (bound : W.registry.types[c]? = some b) (source : b.source = some t)
    (mem : c ∈ W.registry.bindings) :
    ∃ d k D D', Sourced W.registry W.notes.classes c b t d k ∧
      W.registry.target.types[b.target]? = some D ∧
      V.registry.target.types[b.target]? = some D' ∧ CompletedFrom d k D D' ∧
      (baseKind k.isBlittable d = .projected →
        (c ∈ before → ∃ base, BaseAnswer W c b d (.ok base) ∧ D'.base = some base) ∧
        (c ∉ before → D'.base = D.base)) := by
  rcases planned_fillShape.sweep.leads (Outcome.midway_start W) runShapes with
    ⟨p, shapes, rfl, midway, leads⟩
  rcases types_shaped_of_leads shapes leads once bound source mem with
    ⟨d, k, D, sourced, found, shaped⟩
  have completed := shapeDecl_completed d k D
  by_cases due : baseKind k.isBlittable d = .projected ∧ c ∈ before
  · obtain ⟨kind, reached⟩ := due
    obtain ⟨xs, ys, rfl⟩ := List.append_of_mem reached
    -- The binding is listed once, so that its step is the only one for its output type.
    obtain ⟨fresh, fresh'⟩ : c ∉ xs ∧ c ∉ ys := by
      rw [split, List.append_assoc, List.cons_append] at nodup
      obtain ⟨-, later, apart⟩ := List.nodup_append.1 nodup
      exact ⟨fun mem => apart c mem c List.mem_cons_self rfl,
        fun mem => (List.nodup_cons.1 later).1 (List.mem_append_left _ mem)⟩
    obtain ⟨counts₁, V₁, A, base, runXs, owned, answers, found'⟩ :=
      types_of_reached once midway runBefore fresh fresh' sourced kind shaped
    have comesTo : ComesTo W c V₁ :=
      ⟨xs, ys ++ after, p.counts + counts₁, by rw [split, List.append_assoc, List.cons_append],
        Effect.bind_eq_ok_iff.2 ⟨_, W₁, runShapes, Effect.bind_eq_ok_iff.2 ⟨_, V₁, runXs, rfl⟩⟩⟩
    exact ⟨d, k, D, _, sourced, found, found', completed.withBase kind base, fun _ =>
      ⟨fun _ => ⟨base, ⟨A, V₁, owned, comesTo, answers⟩, rfl⟩,
        fun unreached => absurd reached unreached⟩⟩
  · have unreached : ∀ c' ∈ before, ¬ Deferred W.registry W.notes.classes c' b.target := by
      intro c' mem' deferred
      obtain ⟨rfl, kind⟩ := deferred.unique once sourced
      exact due ⟨kind, mem'⟩
    refine ⟨d, k, D, _, sourced, found,
      (types_of_unreached midway runBefore unreached).trans shaped, completed,
      fun kind => ⟨fun reached => absurd ⟨kind, reached⟩ due, fun _ => ?_⟩⟩
    simp [shapeDecl, kind, BaseKind.fixed?]

/-! ## A completion that fails -/

/-- A completion that fails with a look-up error has ended its first sweep and some steps of the
second one. -/
theorem exists_stop (failed : complete.run W = (.error (.lookup e), W')) :
    ∃ before c₀ after first counts W₁ V, W.registry.bindings = before ++ c₀ :: after ∧
      (sweep fillShape W.registry.bindings).run W = (.ok first, W₁) ∧
      (sweep fillBase before).run W₁ = (.ok counts, V) ∧
        (fillBase c₀).run V = (.error (.lookup e), W') := by
  rw [run_complete] at failed
  rcases (lookupless_sweep lookupless_fillShape _).bind_error failed with
    ⟨first, W₁, runShapes, failed⟩
  have failed := (Effect.bind_eq_error_iff.1 failed).resolve_right fun ⟨_, _, _, failed⟩ =>
    nomatch congrArg Prod.fst failed
  rcases exists_of_sweep_error failed with ⟨before, c₀, after, counts, V, split, runBefore, failed⟩
  exact ⟨before, c₀, after, first, counts, W₁, V, split, runShapes, runBefore, failed⟩

/-- The step that fails is one for an open base, and it fails as asking for the form of that base
does. Besides, it only takes notes. -/
theorem Midway.exists_of_error (midway : Midway R m (Target.Catalog.SameView V.registry.target) V)
    (failed : (fillBase c).run V = (.error (.lookup e), W')) :
    ∃ b t d k A, Sourced R m c b t d k ∧ baseKind k.isBlittable d = .projected ∧
      R.assemblies[b.assembly]? = some A ∧ (∀ qs,
        ((V.registry.projectOption A.module false d.base).run
          (V.registry.notesAfter V.notes qs)).1 =
        .error (.lookup e)) ∧
      W'.registry = V.registry ∧ Midway R m (Target.Catalog.SameView V.registry.target) W' := by
  rcases exists_of_fillBase_error failed with
    ⟨b, t, d, k, notes, A, notes', bound, source, declared, classified, kind, owned, lacking, rfl⟩
  have traced := midway.traced_classOf classified
  have constant := constant_projectOption R m V.registry.target A.module d.base
  rw [midway.projectOption_eq] at lacking
  -- The notes have no say in the failure.
  have starting := (constant.outcome notes traced).1
  rw [lacking] at starting
  have sourced : Sourced R m c b t d k :=
    ⟨midway.types ▸ bound, source, midway.source ▸ declared,
      midway.classOf_iff.1 ⟨notes, classified⟩⟩
  exact ⟨b, t, d, k, A, sourced, kind, midway.assemblies ▸ owned,
    midway.answer_projectOption starting.symm, rfl,
    ⟨midway.registry, constant.keeps.after traced lacking⟩⟩

/-- A completion that fails with a look-up error stops in the second sweep, at the first open base
without a form. Only the open bases from there on are left as they were. -/
theorem complete_stopped (reachable : W.Reachable) (once : W.registry.TargetsBoundOnce)
    (failed : complete.run W = (.error (.lookup e), W')) :
    (∃ types, W'.registry = { W.registry with target := { W.registry.target with types } }) ∧
    (∀ u : TypeId,
      (∀ (c : TypeBindingId) (b : TypeBinding), W.registry.types[c]? = some b → b.source ≠ none →
      b.target ≠ u) → W'.registry.target.types[u]? = W.registry.target.types[u]?) ∧
    ∃ (c₀ : TypeBindingId) (b₀ : TypeBinding) (t₀ : Source.TypeId) (d₀ : Source.TypeDecl)
      (k₀ : LayoutClass),
      Sourced W.registry W.notes.classes c₀ b₀ t₀ d₀ k₀ ∧ d₀.form ≠ .enumType ∧ ¬ k₀.isBlittable ∧
      BaseAnswer W c₀ b₀ d₀ (.error (.lookup e)) ∧
      ∀ (c : TypeBindingId) (b : TypeBinding) (t : Source.TypeId), W.registry.types[c]? = some b →
        b.source = some t → ∃ d D D' k, W.registry.source.types[t]? = some d ∧
          W.registry.target.types[b.target]? = some D ∧
          W'.registry.target.types[b.target]? = some D' ∧ CompletedFrom d k D D' ∧
          (∀ qs, ((W'.registry.classOf c).run (W'.registry.notesAfter W'.notes qs)).1 = .ok k) ∧
          (d.form ≠ .enumType → ¬ k.isBlittable →
            (W.registry.Precedes c c₀ → ∃ base, BaseAnswer W c b d (.ok base) ∧
              D'.base = some base) ∧
            (¬ W.registry.Precedes c c₀ → D'.base = D.base)) := by
  rcases exists_stop failed with
    ⟨before, c₀, after, first, counts, W₁, V, split, runShapes, runBefore, failed⟩
  rcases planned_fillShape.sweep.leads (Outcome.midway_start W) runShapes with
    ⟨p, shapes, rfl, midway₁, leads₁⟩
  rcases midway₁.sweep_fillBase runBefore with ⟨q, rebases, leads, midway⟩
  rcases midway.exists_of_error failed with
    ⟨b₀, t₀, d₀, k₀, A₀, sourced₀, kind₀, owned₀, answers, same, midway'⟩
  have comesTo : ComesTo W c₀ V := ⟨before, after, p.counts + counts, split,
    Effect.bind_eq_ok_iff.2 ⟨_, W₁, runShapes, Effect.bind_eq_ok_iff.2 ⟨_, V, runBefore, rfl⟩⟩⟩
  have deferred₀ := baseKind_eq_projected_iff.1 kind₀
  rw [same]
  refine ⟨(leads₁.trans leads).registry, fun u other => ?_, c₀, b₀, t₀, d₀, k₀, sourced₀,
    deferred₀.1, deferred₀.2, ⟨A₀, V, owned₀, comesTo, answers⟩, fun c b t bound source => ?_⟩
  · have unreached : ∀ c ∈ before, ¬ Deferred W.registry W.notes.classes c u := by
      rintro c - ⟨b, t, d, k, sourced, -, target⟩
      exact other c b sourced.bound (sourced.source_ne_none sourced.bound) target
    have shaped : p.fill u = id := funext ((ownPlans_shape _ _).fill_other other shapes)
    rw [types_of_unreached midway₁ runBefore unreached, leads₁.types, shaped, Option.map_id, id]
  · have mem : c ∈ W.registry.bindings :=
      reachable.coherent.mem_bindings bound fun c' b' bound' same =>
        once c' b' bound' c b bound same
    rcases exists_completed once reachable.coherent.bindings_nodup split runShapes runBefore bound
      source mem with
      ⟨d, k, D, D', sourced, found, found', completed, based⟩
    refine ⟨d, D, D', k, sourced.declared, found, found', completed, fun qs => ?_,
      fun notEnum notBlittable => ?_⟩
    · rw [← same]
      exact midway'.answer_classOf sourced.starts qs
    · rw [reachable.coherent.precedes_iff_mem split mem]
      exact based (baseKind_eq_projected_iff.2 ⟨notEnum, notBlittable⟩)

end Completion

namespace Sample

/-- The sample program without a binding for bags, which palettes extend. -/
def bagless : Workspace :=
  (Workspace.start "mscorlib" shopSource shopTarget).after
    ([.register (.assembly ⟨0⟩ ⟨0⟩), .register (.assembly ⟨1⟩ ⟨1⟩)]
      ++ [0, 1, 2, 3, 4, 5, 6, 8, 9].map
        (fun i => .register (.type (if i < 5 then ⟨0⟩ else ⟨1⟩) (some ⟨i⟩) ⟨i⟩))
      ++ [.register (.standIn ⟨1⟩ (some ⟨5⟩) ⟨10⟩), .register (.counterpart ⟨5⟩ ⟨9⟩)])

end Sample

/-- Without bags the completion stops at palettes: strings have got their base before, and the
stand-in for lists, which comes later, has got its parameter and no base. -/
theorem Completion.complete_stopped_bagless :
    (complete.run Sample.bagless).1 = .error (.lookup (.unregisteredType "Shop.Bag")) ∧
      (∃ c₀ b₀ d₀, Sample.bagless.registry.types[c₀]? = some b₀ ∧
        BaseAnswer Sample.bagless c₀ b₀ d₀ (.error (.lookup (.unregisteredType "Shop.Bag")))) ∧
      (complete.run Sample.bagless).2.registry.target.types[(⟨3⟩ : TypeId)]?.map (·.base) =
        some (some (.defined ⟨0⟩)) ∧
      (complete.run Sample.bagless).2.registry.target.types[(⟨8⟩ : TypeId)]?.map
      (·.base) = some none ∧
      (complete.run Sample.bagless).2.registry.target.types[(⟨10⟩ : TypeId)]?.map
        (fun D => (D.params.map (·.name), D.base)) = some (["T"], none) := by
  have failed : (complete.run Sample.bagless).1 =
    .error (.lookup (.unregisteredType "Shop.Bag")) := by decide +kernel
  have reachable : Sample.bagless.Reachable := ⟨_, _, _, _, rfl⟩
  obtain ⟨-, -, c₀, b₀, _, d₀, _, sourced, -, -, answer, -⟩ :=
    complete_stopped reachable (by decide +kernel) (Effect.run_eq failed)
  exact ⟨failed, ⟨c₀, b₀, d₀, sourced.bound, answer⟩, by
    decide +kernel, by decide +kernel, by decide +kernel⟩

end TypeProjection
