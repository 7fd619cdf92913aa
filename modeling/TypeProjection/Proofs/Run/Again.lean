import TypeProjection.Proofs.Layout.Twins
import TypeProjection.Proofs.Projection.Proven
import TypeProjection.Proofs.Registry.Again
import TypeProjection.Proofs.Run.Independent

/-!
# Proofs.Run.Again — binding a pair again makes no difference

After a pair was bound again, look-ups by source type lead to the first binding, and a completion
fills in the output type through the second one. Both have the same class, so that neither questions
nor completions come to another end. There is one exception. A binding can be linked to a
counterpart that is not there yet; then the second binding may turn out to be that counterpart, and
what met a dangling handle before does so no longer:

* `Again.parallel` : all questions about the later registry refine those about the earlier one;
* `Again.answer_classOf` : the second binding is answered for like the first;
* `Beside` : workspaces over both registries, which are changed alike;
* `Again.inStep` : the steps of a completion refine each other, the second binding in place of the
  first;
* `Workspace.addType_again` : so binding a pair again is neutral.
-/

namespace TypeProjection

open Effect (Refines)
open Layout (Memo Traced Twins SameBindings)

variable {R R' : Registry} {m : Memo} {c c' : TypeBindingId} {α β : Type}

/-! ## Questions -/

/-- Where the notes have no say, a question that refines another one over the same notes does so
over any. -/
theorem Constant.answer_of_refines {q q' : Query α} {notes notes' : Ledger}
    (constant : Constant R m q) (constant' : Constant R' m q') (refines : Refines Eq q q')
    (traced : Traced R m notes.classes) (traced' : Traced R' m notes'.classes) :
    (q.run notes).1 = .error .danglingHandle ∨ (q'.run notes').1 = (q.run notes).1 := by
  rw [(constant.outcome notes traced).1, (constant'.outcome notes' traced').1]
  exact (refines _ _ rfl).imp_right And.left

namespace Registry.Again

theorem withTarget (again : R.Again R' c c') (target : Target.Catalog) :
    Again { R with target } { R' with target } c c' where
  corlib := again.corlib
  source := again.source
  target := rfl
  assemblyBySource := again.assemblyBySource
  assemblyByName := again.assemblyByName
  assemblies := again.assemblies
  fresh := again.fresh
  types := again.types
  pair := again.pair

theorem ne (again : R.Again R' c c') : c ≠ c' := by
  rintro rfl
  rcases again.pair with ⟨b, -, -, bound, -⟩
  simp [again.fresh] at bound

/-- No look-up leads to the second binding, so that the search for the class of any other one goes
the same way. -/
theorem classify_eq (again : R.Again R' c c') (coherent : R.Coherent) {c₀ : TypeBindingId}
    (other : c₀ ≠ c') (active : List TypeBindingId) :
    Layout.classify R' active c₀ = Layout.classify R active c₀ := by
  refine Layout.classify_eq_of_lookups ⟨again.source, again.binding?⟩
    (fun leads => again.types _ ?_) active c₀
    (again.types c₀ other)
  rintro rfl
  rcases coherent.binding?_source leads with ⟨b, -, bound, -⟩
  simp [again.fresh] at bound

theorem refines_fetch (again : R.Again R' c c') (c₀ : TypeBindingId) :
    Refines Eq (liftM (R.types.fetch c₀) : Query TypeBinding) (liftM (R'.types.fetch c₀)) := by
  by_cases new : c₀ = c'
  · intro notes _ _
    rw [new, Table.fetch, again.fresh]
    exact .inl rfl
  · rw [Table.fetch, Table.fetch, again.types c₀ new]
    exact .refl _

theorem refines_classOf (again : R.Again R' c c') (coherent : R.Coherent) (c₀ : TypeBindingId) :
    Refines Eq (R.classOf c₀) (R'.classOf c₀) := by
  by_cases new : c₀ = c'
  · intro notes _ _
    rw [Registry.answer_classOf, new, Layout.classify_unbound again.fresh]
    exact .inl rfl
  · have same : R'.classOf c₀ = R.classOf c₀ := by
      funext notes
      rw [classOf, classOf, again.classify_eq coherent new]
    rw [same]
    exact .refl _

/-- All basic questions about the later registry refine those about the earlier one. -/
theorem parallel (again : R.Again R' c c') (coherent : R.Coherent) (into : Target.ModuleId) :
    Parallel R R' into into (Refines Eq) where
  toComposable := Effect.composable_refines Eq
  source := again.source
  bindingFor := again.bindingFor
  corlibBinding := again.corlibBinding
  binding := again.refines_fetch
  classOf := again.refines_classOf coherent
  recordLibrary library := again.target ▸ .refl _
  importType u := again.target ▸ .refl _
  methods := by rw [again.target]
  isMarked _ _ := by rw [again.target]
  isValueType _ := by rw [again.target]

/-! ## The class of the second binding -/

theorem twins (again : R.Again R' c c') (coherent : R.Coherent) (unnoted : m[c]? = none)
    (unnoted' : m[c']? = none) :
    Twins R' m c c' := by
  rcases again.pair with ⟨b, b', t, bound, plain, source, bound', same⟩
  rcases coherent.declared bound source with ⟨d, declared⟩
  have declared' : R'.source.types[t]? = some d := by rw [again.source, declared]
  exact ⟨t, d, ⟨⟨b, (again.types c again.ne).trans bound, plain, source⟩, unnoted, declared'⟩,
    ⟨⟨b', bound', same.standIn.trans plain, same.source.trans source⟩, unnoted', declared'⟩⟩

/-- From traced notes, the second binding is answered for like the first in the registry before
it. -/
theorem answer_classOf (again : R.Again R' c c') (coherent : R.Coherent) (unnoted : m[c]? = none)
    (unnoted' : m[c']? = none) {notes notes' : Ledger} (traced : Traced R m notes.classes)
    (traced' : Traced R' m notes'.classes) :
    ((R'.classOf c').run notes').1 = ((R.classOf c).run notes).1 := by
  have first := again.classify_eq coherent again.ne []
  calc ((R'.classOf c').run notes').1
      = orDangling (((Layout.classify R' [] c').run notes'.classes).map (·.1)) :=
        Registry.answer_classOf c' notes'
    _ = orDangling (((Layout.classify R' [] c).run m).map (·.1)) := by
        rw [(Traced.refl R' m).classify_twin traced' (again.twins coherent unnoted unnoted')]
    _ = orDangling (((Layout.classify R [] c).run notes.classes).map (·.1)) := by
        rw [first, Layout.classify_constant (.refl R m) traced]
    _ = ((R.classOf c).run notes).1 := (Registry.answer_classOf c notes).symm

end Registry.Again

/-! ## Steps -/

/-- Two workspaces have the one and the other of two registries, over the same output catalog, and
notes that are traced. -/
structure Beside (R R' : Registry) (m : Memo) (W V : Workspace) : Prop where
  registries : ∃ target, W.registry = { R with target } ∧ V.registry = { R' with target }
  traced : Traced R m W.notes.classes
  traced' : Traced R' m V.notes.classes

namespace Beside

/-- What is looked at has to be found in both, but need not be the same. -/
theorem look_bind {q q' : Registry → Except Failure α} {f f' : α → Update β}
    (found : ∀ target, q { R with target } = .error .danglingHandle ∨
      ∃ a a', q { R with target } = .ok a ∧ q' { R' with target } = .ok a' ∧
        Refines (Beside R R' m) (f a) (f' a')) :
    Refines (Beside R R' m) (Update.look q >>= f) (Update.look q' >>= f') := by
  intro W V beside
  rcases beside.registries with ⟨target, eq, eq'⟩
  have look : (Update.look q).run W = (q { R with target }, W) := by rw [← eq]; rfl
  have look' : (Update.look q').run V = (q' { R' with target }, V) := by rw [← eq']; rfl
  rcases found target with dangling | ⟨a, a', ok, ok', rest⟩
  · rw [dangling] at look
    exact .inl (by rw [Effect.run_bind_of_error look])
  · rw [ok] at look
    rw [ok'] at look'
    rw [Effect.run_bind_of_ok look, Effect.run_bind_of_ok look']
    exact rest W V beside

theorem look {q q' : Registry → Except Failure α}
    (same : ∀ target, q' { R' with target } = q { R with target }) :
    Refines (Beside R R' m) (Update.look q) (Update.look q') := by
  intro W V beside
  rcases beside.registries with ⟨target, eq, eq'⟩
  refine .inr ⟨?_, beside⟩
  change q' V.registry = q W.registry
  rw [eq, eq', same]

/-- What is asked has to have one outcome over all traced notes, in each of the two registries. -/
theorem ask {q q' : Registry → Query α} (constant : ∀ R₁, SameBindings R R₁ → Constant R m (q R₁))
    (constant' : ∀ R₁, SameBindings R' R₁ → Constant R' m (q' R₁))
    (same : ∀ target notes notes', Traced R m notes.classes → Traced R' m notes'.classes →
      ((q { R with target }).run notes).1 = .error .danglingHandle ∨
        ((q' { R' with target }).run notes').1 = ((q { R with target }).run notes).1) :
    Refines (Beside R R' m) (Update.ask q) (Update.ask q') := by
  intro W V beside
  rcases beside.registries with ⟨target, eq, eq'⟩
  have kept := (constant _ (.withTarget R target)).keeps W.notes beside.traced
  have kept' := (constant' _ (.withTarget R' target)).keeps V.notes beside.traced'
  rw [Update.run_ask, Update.run_ask, eq, eq']
  exact (same target W.notes V.notes beside.traced beside.traced').imp_right fun answers =>
    ⟨answers, ⟨target, rfl, rfl⟩, kept, kept'⟩

/-- The output catalog is edited in the same way in both. -/
theorem editTarget (f : Target.Catalog → Option (α × Target.Catalog)) :
    Refines (Beside R R' m) (Update.editTarget f) (Update.editTarget f) := by
  intro W V beside
  rcases beside.registries with ⟨target, eq, eq'⟩
  simp only [Update.editTarget, Update.edit, ExceptT.run, eq, eq']
  cases f target with
  | none => exact .inl rfl
  | some result => exact .inr ⟨rfl, ⟨result.2, rfl, rfl⟩, beside.traced, beside.traced'⟩

end Beside

namespace Registry.Again

/-- Let neither of the two bindings have a class at first. Then the steps of a completion refine
each other, where the second binding takes the place of the first. -/
theorem inStep (again : R.Again R' c c') (coherent : R.Coherent) (unnoted : m[c]? = none)
    (unnoted' : m[c']? = none) :
    Completion.InStep (Refines (Beside R R' m)) (Function.update id c c') where
  toComposable := Effect.composable_refines _
  binding c₀ f f' rest := by
    refine Beside.look_bind fun target => ?_
    simp only [Table.fetch]
    by_cases first : c₀ = c
    · -- The second binding need not be the same in counterpart and methods, but nobody looks there.
      subst first
      rcases again.pair with ⟨b, b', t, bound, -, -, bound', same⟩
      rw [Function.update_self, bound, bound']
      exact .inr ⟨b, b', rfl, rfl, rest b b' same⟩
    · rw [Function.update_of_ne first, id]
      cases bound : R.types[c₀]? with
      | none => exact .inl rfl
      | some b =>
          -- What is there before the second binding is not the second binding.
          have other : c₀ ≠ c' := by
            rintro rfl
            simp [again.fresh] at bound
          rw [again.types c₀ other, bound]
          exact .inr ⟨b, b, rfl, rfl, rest b b ⟨rfl, rfl, rfl, rfl⟩⟩
  declaration t := Beside.look fun _ => by rw [again.source]
  assembly i f f' rest := by
    refine Beside.look_bind fun target => ?_
    have related := again.assemblies i
    simp only [Table.fetch]
    generalize R.assemblies[i]? = found at related ⊢
    generalize R'.assemblies[i]? = found' at related ⊢
    cases related with
    | none => exact .inl rfl
    | some redirected => exact .inr ⟨_, _, rfl, rfl, rest _ _ redirected.module⟩
  classOf c₀ := by
    refine Beside.ask (fun _ same => constant_classOf same c₀)
      (fun _ same => constant_classOf same _) ?_
    intro target notes notes' traced traced'
    rw [classOf_congr (.withTarget R target), classOf_congr (.withTarget R' target)]
    by_cases first : c₀ = c
    · -- The two searches note different bindings, but both leave traced notes.
      subst first
      rw [Function.update_self]
      exact .inr (again.answer_classOf coherent unnoted unnoted' traced traced')
    · rw [Function.update_of_ne first, id]
      exact (constant_classOf (.refl R) c₀).answer_of_refines (constant_classOf (.refl R') c₀)
        (again.refines_classOf coherent c₀) traced traced'
  projectOption into s := by
    refine Beside.ask (fun _ same => (constant_alike same into).projectOption s)
      (fun _ same => (constant_alike same into).projectOption s) ?_
    intro target notes notes' traced traced'
    exact Constant.answer_of_refines ((constant_alike (.withTarget R target) into).projectOption s)
      ((constant_alike (.withTarget R' target) into).projectOption s)
      (((again.withTarget target).parallel (coherent.withTarget target) into).projectOption s)
        traced traced'
  setParams _ _ := Beside.editTarget _
  setBase _ _ := Beside.editTarget _

/-- A completion goes the same way, through the second binding in place of the first. -/
theorem refines_complete (again : R.Again R' c c') (coherent : R.Coherent) (unnoted : m[c]? = none)
    (unnoted' : m[c']? = none) :
    Refines (Beside R R' m) Completion.complete Completion.complete := by
  intro W V beside
  have bindings : W.registry.bindings = R.bindings ∧ V.registry.bindings = R'.bindings := by
    rcases beside.registries with ⟨target, eq, eq'⟩
    rw [eq, eq']
    exact ⟨rfl, rfl⟩
  rw [Completion.run_complete, Completion.run_complete, bindings.1, bindings.2, again.bindings]
  exact (again.inStep coherent unnoted unnoted').completeIn R.bindings R.bindings W V beside

end Registry.Again

/-! ## Registering again -/

theorem beside_notesAfter (again : R.Again R' c c') (notes : Ledger) (qs qs' : List Question) :
    Beside R R' notes.classes { registry := R, notes := R.notesAfter notes qs }
      { registry := R', notes := R'.notesAfter notes qs' } where
  registries := ⟨R.target, rfl, by rw [← again.target]⟩
  traced := Registry.traced_notesAfter (.refl R) (.refl R notes.classes) qs
  traced' := Registry.traced_notesAfter (.refl R') (.refl R' notes.classes) qs'

namespace Workspace

/-- Binding a pair of types again makes no difference to look-ups, answers and completions, as far
as they meet no dangling handle. -/
theorem addType_again {W : Workspace} (reachable : W.Reachable)
    (unclassified : W.notes.classes.isEmpty) {i : AssemblyBindingId} {t : Source.TypeId}
    {u : Target.TypeId} {c : TypeBindingId} (leading : W.registry.Leading i t u c) :
    ∃ c' R', W.registry.addType i (some t) u = some (c', R') ∧
      (∀ t', R'.bindingFor t' = W.registry.bindingFor t') ∧
      (∀ (j : AssemblyBindingId) (fullName : String),
        R'.assemblies[j]?.map (fun A => (A.module, A.bindingNamed fullName)) =
          W.registry.assemblies[j]?.map fun A => (A.module, A.bindingNamed fullName)) ∧
      ∀ qs qs',
        (∀ q, ((W.registry.answer q).run (W.registry.notesAfter W.notes qs)).1 ≠
          .error .danglingHandle →
          ((R'.answer q).run (R'.notesAfter W.notes qs')).1 =
            ((W.registry.answer q).run (W.registry.notesAfter W.notes qs)).1) ∧
        ((R'.classOf c').run (R'.notesAfter W.notes qs')).1 =
          ((W.registry.classOf c).run (W.registry.notesAfter W.notes qs)).1 ∧
        ((Completion.complete.run
          { registry := W.registry, notes := W.registry.notesAfter W.notes qs }).1 ≠
            .error .danglingHandle →
          (Completion.complete.run { registry := R', notes := R'.notesAfter W.notes qs' }).1 =
              (Completion.complete.run
                { registry := W.registry, notes := W.registry.notesAfter W.notes qs }).1 ∧
            (Completion.complete.run
              { registry := R', notes := R'.notesAfter W.notes qs' }).2.registry.target =
              (Completion.complete.run
                { registry := W.registry,
                  notes := W.registry.notesAfter W.notes qs }).2.registry.target) := by
  have coherent := reachable.coherent
  have unnoted : ∀ c : TypeBindingId, W.notes.classes[c]? = none := fun c =>
    Std.TreeMap.getElem?_of_isEmpty unclassified
  rcases Registry.again_of_addType coherent leading with ⟨R', added, again⟩
  refine ⟨_, R', added, again.bindingFor, again.bindingNamed, fun qs qs' => ?_⟩
  have beside := beside_notesAfter again W.notes qs qs'
  refine ⟨fun q valid => ?_, ?_, fun valid => ?_⟩
  · have constant : Constant W.registry W.notes.classes (W.registry.answer q) :=
      Alike.answer (constant_alike (.refl W.registry)) q
    have constant' : Constant R' W.notes.classes (R'.answer q) :=
      Alike.answer (constant_alike (.refl R')) q
    exact (constant.answer_of_refines constant'
      (Parallel.answer (again.parallel coherent) q) beside.traced
      beside.traced').resolve_left valid
  · exact again.answer_classOf coherent (unnoted c) (unnoted _) beside.traced beside.traced'
  · rcases again.refines_complete coherent (unnoted c) (unnoted _) _ _ beside with
      dangling | ⟨outcomes, after⟩
    · exact absurd dangling valid
    · rcases after.registries with ⟨target, eq, eq'⟩
      exact ⟨outcomes, by rw [eq, eq']⟩

/-- In the sample program, loops can be bound to their output type again. The second binding is not
blittable either, and after its class was asked for the output is completed as before. -/
theorem addType_again_loop :
    Sample.unasked.registry.Leading ⟨0⟩ ⟨5⟩ ⟨5⟩ ⟨5⟩ ∧
      ∃ c' R', Sample.unasked.registry.addType ⟨0⟩ (some ⟨5⟩) ⟨5⟩ = some (c', R') ∧
        ((R'.classOf c').run (R'.notesAfter Sample.unasked.notes [.classOf c'])).1 =
          .ok .nonBlittable ∧
        (Completion.complete.run
          { registry := R', notes := R'.notesAfter Sample.unasked.notes [.classOf c'] }).1 =
          .ok { params := 2, unmanagedParams := 1, enumBases := 0, valueTypeBases := 4,
                projectedBases := 4 } := by
  have bound : Sample.unasked.registry.types[(⟨5⟩ : TypeBindingId)]?.map
      (fun b => (b.standIn, b.assembly, b.source, b.target)) =
        some (false, ⟨0⟩, some ⟨5⟩, ⟨5⟩) := by
    decide +kernel
  have owned : Sample.unasked.registry.assemblies[(⟨0⟩ : AssemblyBindingId)]?.map
      (fun A => (A.bySource[(⟨5⟩ : Source.TypeId)]?, A.byTarget[(⟨5⟩ : Target.TypeId)]?)) =
        some (some ⟨5⟩, some ⟨5⟩) := by
    decide +kernel
  have class' : ((Sample.unasked.registry.classOf ⟨5⟩).run
      (Sample.unasked.registry.notesAfter Sample.unasked.notes [])).1 = .ok .nonBlittable := by
    decide +kernel
  have completed : (Completion.complete.run { registry := Sample.unasked.registry
                                              notes := Sample.unasked.registry.notesAfter
                                                Sample.unasked.notes [] }).1 =
      .ok { params := 2, unmanagedParams := 1, enumBases := 0, valueTypeBases := 4,
            projectedBases := 4 } := by
    decide +kernel
  rcases Option.map_eq_some_iff.1 bound with ⟨b, found, eq⟩
  rcases Option.map_eq_some_iff.1 owned with ⟨A, found', eq'⟩
  simp only [Prod.mk.injEq] at eq eq'
  have leading : Sample.unasked.registry.Leading ⟨0⟩ ⟨5⟩ ⟨5⟩ ⟨5⟩ := ⟨⟨b, found, eq⟩, A, found', eq'⟩
  have reachable : Sample.unasked.Reachable := ⟨_, _, _, _, rfl⟩
  rcases addType_again reachable (by decide +kernel) leading with ⟨c', R', added, -, -, neutral⟩
  rcases neutral [] [.classOf c'] with ⟨-, classes, completes⟩
  rw [completed] at completes
  exact ⟨leading, c', R', added, classes.trans class', (completes (by simp)).1⟩

end Workspace

end TypeProjection
