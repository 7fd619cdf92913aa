import TypeProjection.Proofs.Completion.Consistent
import TypeProjection.Proofs.Completion.Shape
import TypeProjection.Proofs.Run.Recorded

/-!
# Proofs.Completion.ValueTypes — value types are the types whose values cross as they are

Only its base makes an output type a value type, and both sweeps write bases. This module shows that
they write the bases of value types where the layout class asks for them and nowhere else, and that
arrays are wrapped accordingly:

* `Registry.isValueBase_of_run`   : no reference has the base of value types for its form;
* `Registry.exists_project_array` : the form of an array of a bound type, which is always found;
* `valueTypes_of_complete`        : value types, classes and arrays after a completion.
-/

namespace TypeProjection

open Effect (lift_bind_eq_ok_iff bind_eq_ok_iff)

namespace Registry

variable {R : Registry} {into : Target.ModuleId} {u : Target.TypeId} {D : Target.TypeDecl}
  {t : Source.TypeId} {d : Source.TypeDecl} {c : TypeBindingId} {b : TypeBinding}

/-- Whatever was noted before, no reference has a form that would make a value type of what it is
the base of. -/
theorem isValueBase_of_run {boxed : Bool} {s : Option Source.Signature} {r : Target.Signature}
    {notes notes' : Ledger} (run : (R.projectOption into boxed s).run notes = (.ok r, notes')) :
    r.isValueBase = false := by
  have yields : R.Yields notes.classes (R.projectOption into boxed s) r :=
    ⟨notes, notes', .refl R notes.classes, run⟩
  exact Completion.isValueBase_of_projectOption yields

/-! ## Forms that are always found -/

theorem fullName_of_declared (declared : R.source.types[t]? = some d) :
    R.fullName t = .ok d.fullName :=
  except_bind_eq_ok_iff.2 ⟨d, Table.fetch_eq_ok_iff.2 declared, rfl⟩

/-- A declared type can be mentioned in every module that is there. -/
theorem exists_importType (declared : R.target.types[u]? = some D)
    (there : into.index < R.target.modules.size) (notes : Ledger) :
    ∃ notes', (R.target.importType into u).run notes = (.ok (.defined u), notes') := by
  by_cases same : D.module = into
  · refine ⟨notes, lift_bind_eq_ok_iff.2 ⟨D, Table.fetch_eq_ok_iff.2 declared, ?_⟩⟩
    simp only [ne_eq, same, not_true_eq_false, if_false]
    rfl
  · rcases Table.exists_getElem? there with ⟨name, module⟩
    let noted : Ledger :=
      { notes with references := notes.references.record into (.module D.module) }
    have recorded : (R.target.record into (.module D.module)).run notes = (.ok (), noted) :=
      lift_bind_eq_ok_iff.2 ⟨name, Table.fetch_eq_ok_iff.2 module, rfl⟩
    refine ⟨noted, lift_bind_eq_ok_iff.2 ⟨D, Table.fetch_eq_ok_iff.2 declared, ?_⟩⟩
    simp only [ne_eq, same, not_false_eq_true, if_true]
    exact bind_eq_ok_iff.2 ⟨(), noted, recorded, rfl⟩

/-- A type without a name of its own meaning has the output type of its binding for its form. -/
theorem exists_projectNamed (declared : R.source.types[t]? = some d)
    (treated : Corlib.treatment d.fullName = .bound) (bound : R.binding? t = some c)
    (found : R.types[c]? = some b) (target : R.target.types[b.target]? = some D)
    (there : into.index < R.target.modules.size) (notes : Ledger) :
    ∃ notes', (R.projectNamed into false t).run notes = (.ok (.defined b.target), notes') := by
  rcases exists_importType target there notes with ⟨notes', imported⟩
  refine ⟨notes', lift_bind_eq_ok_iff.2 ⟨d.fullName, fullName_of_declared declared, ?_⟩⟩
  simp only [treated]
  refine lift_bind_eq_ok_iff.2 ⟨c, bindingFor_eq_ok_iff.2 bound, ?_⟩
  exact lift_bind_eq_ok_iff.2 ⟨b.target, targetOf_false found, imported⟩

/-- A type whose name has no meaning of its own is not that of strings. -/
theorem isString_of_bound (declared : R.source.types[t]? = some d)
    (treated : Corlib.treatment d.fullName = .bound) : R.isString (.named t) = .ok false := by
  have other : d.fullName ≠ Corlib.stringName := by
    intro same
    rw [same] at treated
    exact absurd treated (by decide)
  refine except_bind_eq_ok_iff.2 ⟨d.fullName, fullName_of_declared declared, ?_⟩
  simp only [other, decide_false]
  rfl

/-- The wrapper for arrays of a declared type goes by the output type. -/
theorem arrayFor_named (target : R.target.types[u]? = some D) :
    R.arrayFor (.named t) (.defined u) =
      .ok (if D.isValueType then Interop.structArray else Interop.referenceArray) := by
  have isValueType : R.target.isValueType (.defined u) = some D.isValueType := by
    simp only [Target.Catalog.isValueType, target, Option.map_some]
  exact except_bind_eq_ok_iff.2 ⟨D.isValueType, orDangling_eq_ok_iff.2 isValueType, rfl⟩

/-- An array of such a type is wrapped as the output type asks for. -/
theorem exists_project_array (declared : R.source.types[t]? = some d)
    (treated : Corlib.treatment d.fullName = .bound) (bound : R.binding? t = some c)
    (found : R.types[c]? = some b) (target : R.target.types[b.target]? = some D)
    (there : into.index < R.target.modules.size) (notes : Ledger) :
    ∃ notes', (R.project into false (.array (.named t) 1)).run notes =
      (.ok (.inst (if D.isValueType then Interop.structArray else Interop.referenceArray)
        [.defined b.target]), notes') := by
  rcases exists_projectNamed declared treated bound found target there notes with
    ⟨notes', projected⟩
  refine ⟨notes', ?_⟩
  -- The array has one dimension and is none of strings, so its element is projected and then
  -- wrapped.
  rw [project]
  simp only [ne_eq, not_true_eq_false, if_false]
  refine lift_bind_eq_ok_iff.2 ⟨false, isString_of_bound declared treated, ?_⟩
  simp only [Bool.false_eq_true, if_false]
  rw [project]
  refine bind_eq_ok_iff.2 ⟨_, _, projected, ?_⟩
  exact lift_bind_eq_ok_iff.2 ⟨_, arrayFor_named target, rfl⟩

end Registry

/-! ## After a completion -/

namespace Completion

variable {W W' : Workspace} {counts : Summary}

/-- After a completion that succeeds, an output type is a value type just if its source is an
enumeration or blittable, and just then its arrays are arrays of structs. -/
theorem valueTypes_of_complete (reachable : W.Reachable) (once : W.registry.TargetsBoundOnce)
    (plain : W.registry.TargetsStartPlain) (run : complete.run W = (.ok counts, W')) :
    (∀ (R : Registry) (into : Target.ModuleId) (boxed : Bool) (s : Option Source.Signature)
      (r : Target.Signature) (notes notes' : Ledger),
        (R.projectOption into boxed s).run notes = (.ok r, notes') →
        ∀ flag, r ≠ Interop.corlib Corlib.valueTypeName flag ∧
          r ≠ Interop.corlib Corlib.enumName flag) ∧
    ∀ (c : TypeBindingId) (b : TypeBinding) (t : Source.TypeId), W'.registry.types[c]? = some b →
      b.source = some t → ∃ d D k, W'.registry.source.types[t]? = some d ∧
        W'.registry.target.types[b.target]? = some D ∧
        (∀ qs, ((W'.registry.classOf c).run (W'.registry.notesAfter W'.notes qs)).1 = .ok k) ∧
        (D.isValueType ↔ d.form = .enumType ∨ k.isBlittable) ∧
        (W'.registry.binding? t = some c → Corlib.treatment d.fullName = .bound →
          ∀ (i : AssemblyBindingId) (A : AssemblyBinding),
            W'.registry.assemblies[i]? = some A → ∀ qs,
            ((W'.registry.project A.module false (.array (.named t) 1)).run
              (W'.registry.notesAfter W'.notes qs)).1 =
              .ok
                (.inst
                  (if d.form = .enumType ∨ k.isBlittable then Interop.structArray else
                    Interop.referenceArray)
                [.defined b.target])) := by
  constructor
  · intro R into boxed s r notes notes' answered flag
    have noBase := Registry.isValueBase_of_run answered
    constructor
    · rintro rfl
      simp [Interop.corlib, Target.Signature.isValueBase] at noBase
    · rintro rfl
      simp [Interop.corlib, Target.Signature.isValueBase] at noBase
  · intro c b t bound source
    have there : W'.registry.HasModules :=
      Registry.HasModules.survives.complete.after reachable.hasModules run
    rw [run_complete] at run
    rcases Outcome.of_completeIn once plain run with ⟨p, q, W₁, outcome, -⟩
    have bound₀ : W.registry.types[c]? = some b := outcome.midway.types ▸ bound
    rcases outcome.completed reachable.coherent once bound₀ source with ⟨D, base, found, shaped, -⟩
    obtain ⟨d, k, D₀, sourced, -, -⟩ := outcome.types_shaped once bound₀ source
      (reachable.coherent.mem_bindings bound₀ fun c' b' bound' same =>
        once c' b' bound' c b bound₀ same)
    have declared : W'.registry.source.types[t]? = some d :=
      outcome.midway.source ▸ sourced.declared
    have isValueType : D.isValueType ↔ d.form = .enumType ∨ k.isBlittable := by
      have shape := (shaped.shape sourced.bound source sourced.declared sourced.hasClass).2
      simpa only [ne_eq, baseKind_eq_projected_iff, Classical.not_and_iff_not_or_not,
        Classical.not_not] using shape
    refine ⟨d, D, k, declared, found, outcome.answer_classOf sourced.starts, isValueType, ?_⟩
    intro leads treated i A listed qs
    obtain ⟨notes', answered⟩ :=
      Registry.exists_project_array declared treated leads bound found (there i A listed)
        (W'.registry.notesAfter W'.notes qs)
    rw [answered]
    simp only [isValueType]

/-- In the sample program, arrays of colors are arrays of structs and arrays of palettes are arrays
of references. -/
theorem valueTypes_of_complete_color :
    (complete.run Sample.shop).1 =
        .ok { params := 3, unmanagedParams := 1, enumBases := 1, valueTypeBases := 2,
              projectedBases := 8 } ∧
      ∀ qs, (((complete.run Sample.shop).2.registry.project ⟨1⟩ false (.array (.named ⟨6⟩) 1)).run
          ((complete.run Sample.shop).2.registry.notesAfter
            (complete.run Sample.shop).2.notes qs)).1 =
        .ok (.inst Interop.structArray [.defined ⟨6⟩]) ∧
      (((complete.run Sample.shop).2.registry.project ⟨1⟩ false (.array (.named ⟨8⟩) 1)).run
          ((complete.run Sample.shop).2.registry.notesAfter
            (complete.run Sample.shop).2.notes qs)).1 =
        .ok (.inst Interop.referenceArray [.defined ⟨8⟩]) := by
  obtain ⟨completed, home⟩ : (complete.run Sample.shop).1 =
        .ok { params := 3, unmanagedParams := 1, enumBases := 1, valueTypeBases := 2,
              projectedBases := 8 } ∧
      (complete.run Sample.shop).2.registry.assemblies[(⟨1⟩ : AssemblyBindingId)]?.map (·.module) =
        some ⟨1⟩ := by
    decide +kernel
  have reachable : Sample.shop.Reachable := ⟨_, _, _, _, rfl⟩
  obtain ⟨-, values⟩ :=
    valueTypes_of_complete reachable (by decide +kernel) (by decide +kernel)
      (Effect.run_eq completed)
  rcases Option.map_eq_some_iff.1 home with ⟨A, listed, eq⟩
  -- What is looked up of a type settles how its arrays are wrapped.
  have arrays (i : Nat) (form : Source.TypeForm) (k : LayoutClass)
      (found : (complete.run Sample.shop).2.registry.types[(⟨i⟩ : TypeBindingId)]?.map
        (fun b => (b.source, b.target)) =
          some (some ⟨i⟩, ⟨i⟩) ∧
        (complete.run Sample.shop).2.registry.binding? ⟨i⟩ = some ⟨i⟩ ∧
        (complete.run Sample.shop).2.registry.source.types[(⟨i⟩ : Source.TypeId)]?.map
          (fun d => (d.form, Corlib.treatment d.fullName)) = some (form, .bound) ∧
        (((complete.run Sample.shop).2.registry.classOf ⟨i⟩).run
          (complete.run Sample.shop).2.notes).1 = .ok k)
      (qs : List Question) :
      (((complete.run Sample.shop).2.registry.project ⟨1⟩ false (.array (.named ⟨i⟩) 1)).run
          ((complete.run Sample.shop).2.registry.notesAfter
            (complete.run Sample.shop).2.notes qs)).1 =
        .ok
          (.inst (if form = .enumType ∨ k.isBlittable then Interop.structArray else
            Interop.referenceArray)
          [.defined ⟨i⟩]) := by
    rcases found with ⟨bound, leads, declared, isClass⟩
    rcases Option.map_eq_some_iff.1 bound with ⟨b, bound, same⟩
    simp only [Prod.mk.injEq] at same
    obtain ⟨d, D, k', declared', -, classes, -, answers⟩ := values ⟨i⟩ b ⟨i⟩ bound same.1
    simp only [declared', Option.map_some, Option.some.injEq, Prod.mk.injEq] at declared
    cases isClass.symm.trans (classes [])
    simpa only [eq, declared.1, same.2] using answers leads declared.2 ⟨1⟩ A listed qs
  have colors := arrays 6 .enumType .reference (by decide +kernel)
  have palettes := arrays 8 .classType .reference (by decide +kernel)
  exact ⟨completed, fun qs => ⟨colors qs, palettes qs⟩⟩

end Completion

end TypeProjection
