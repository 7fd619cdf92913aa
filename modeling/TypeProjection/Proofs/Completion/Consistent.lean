import TypeProjection.Proofs.Completion.Outcome
import TypeProjection.Proofs.Projection.Faithful
import TypeProjection.Proofs.Run.Stable

/-!
# Proofs.Completion.Consistent — a completed output agrees with itself

The second sweep asks for forms while the catalog that they depend on is being changed. This module
shows that the output agrees with the answers nevertheless: what a completion has filled in is what
would be filled in again.

* `CompletedParam`, `CompletedFrom` : what becomes of a parameter and of a declaration;
* `complete_consistent`             : the output after a completion, type by type.
-/

namespace TypeProjection.Completion

open Target (TypeId TypeDecl)

/-- What becomes of a parameter: marked for a blittable type, and without variance and bounds for
any other. -/
structure CompletedParam (blittable : Bool) (p : Source.TypeParam)
    (q : Target.TypeParam) : Prop where
  name : q.name = Text.toIdentifier Text.isAlphanumeric p.name
  flags : q.flags = if blittable then p.flags else p.flags.diff
    (ParamFlags.valueType.union ParamFlags.variance)
  unmanaged : q.unmanaged = blittable
  constraints : q.constraints = if blittable then [Interop.valueTypeBase] else []

theorem completedParam_completed (blittable : Bool) (p : Source.TypeParam) :
    CompletedParam blittable p (completedParam blittable p) := by
  cases blittable with
  | true => exact ⟨rfl, rfl, rfl, rfl⟩
  | false => exact ⟨rfl, rfl, rfl, rfl⟩

/-- What becomes of an output declaration `D` for a source type declared by `d` with the class `k`.
-/
structure CompletedFrom (d : Source.TypeDecl) (k : LayoutClass) (D D' : TypeDecl) : Prop where
  kept : D' = { D with params := D'.params, base := D'.base }
  length : D'.params.length = d.params.length
  params : ∀ (i : Nat) (p : Source.TypeParam), d.params[i]? = some p →
    ∃ q, D'.params[i]? = some q ∧ CompletedParam k.isBlittable p q
  enumBase : d.form = .enumType → D'.base = some Interop.enumBase
  valueTypeBase : d.form ≠ .enumType → k.isBlittable → D'.base = some Interop.valueTypeBase

theorem shapeDecl_completed (d : Source.TypeDecl) (k : LayoutClass) (D : TypeDecl) :
    CompletedFrom d k D (shapeDecl d k D) where
  kept := rfl
  length := List.length_map _
  params i p found :=
    ⟨completedParam k.isBlittable p, by
      simp [shapeDecl, found], completedParam_completed k.isBlittable p⟩
  enumBase isEnum := by simp [shapeDecl, baseKind, isEnum, BaseKind.fixed?]
  valueTypeBase notEnum isBlittable := by
    simp [shapeDecl, baseKind, notEnum, isBlittable, BaseKind.fixed?]

theorem baseKind_eq_projected_iff {d : Source.TypeDecl} {k : LayoutClass} :
    baseKind k.isBlittable d = .projected ↔ d.form ≠ .enumType ∧ ¬ k.isBlittable := by
  unfold baseKind
  split
  · next isEnum => simp [isEnum]
  · next notEnum => split <;> simp_all

/-- A base that is the form of the source's base stands where the class fixes none. -/
theorem CompletedFrom.withBase {d : Source.TypeDecl} {k : LayoutClass} {D D' : TypeDecl}
    (completed : CompletedFrom d k D D') (kind : baseKind k.isBlittable d = .projected)
    (base : Target.Signature) :
    CompletedFrom d k D { D' with base := some base } where
  kept := by rw [completed.kept]
  length := completed.length
  params := completed.params
  enumBase isEnum := absurd isEnum (baseKind_eq_projected_iff.1 kind).1
  valueTypeBase _ isBlittable := absurd isBlittable (baseKind_eq_projected_iff.1 kind).2

variable {W W' : Workspace} {counts : Summary}

/-- A completion that succeeds completes every output type as the class of its binding asks for,
with a base that the final registry still answers, and changes nothing else. -/
theorem complete_consistent (reachable : W.Reachable) (once : W.registry.TargetsBoundOnce)
    (plain : W.registry.TargetsStartPlain) (run : complete.run W = (.ok counts, W')) :
    (∃ types, W'.registry = { W.registry with target := { W.registry.target with types } }) ∧
    (∀ u : TypeId,
      (∀ (c : TypeBindingId) (b : TypeBinding), W.registry.types[c]? = some b → b.source ≠ none →
      b.target ≠ u) → W'.registry.target.types[u]? = W.registry.target.types[u]?) ∧
    ∀ (c : TypeBindingId) (b : TypeBinding) (t : Source.TypeId), W.registry.types[c]? = some b →
      b.source = some t → ∃ d D D' k, W.registry.source.types[t]? = some d ∧
        W.registry.target.types[b.target]? = some D ∧
        W'.registry.target.types[b.target]? = some D' ∧ CompletedFrom d k D D' ∧
        (∀ qs, ((W'.registry.classOf c).run (W'.registry.notesAfter W'.notes qs)).1 = .ok k) ∧
        (d.form ≠ .enumType → ¬ k.isBlittable → ∃ A base,
          W'.registry.assemblies[b.assembly]? = some A ∧
          D'.base = some base ∧ ∀ qs, ((W'.registry.projectOption A.module false d.base).run
            (W'.registry.notesAfter W'.notes qs)).1 = .ok base) := by
  rw [run_complete] at run
  rcases Outcome.of_completeIn once plain run with ⟨p, q, W₁, outcome, -⟩
  refine ⟨outcome.leads.registry, fun u other => outcome.types_other other,
    fun c b t bound source => ?_⟩
  -- No other binding has its output type, so that the sweeps come to this one.
  have mem : c ∈ W.registry.bindings :=
    reachable.coherent.mem_bindings bound fun c' b' bound' same => once c' b' bound' c b bound same
  rcases outcome.types_shaped once bound source mem with ⟨d, k, D, sourced, found, shaped⟩
  have completed := shapeDecl_completed d k D
  have classes := outcome.answer_classOf sourced.starts
  obtain ⟨kind, found'⟩ | ⟨kind, A, base, owned, starting, found'⟩ :=
    outcome.types_based once sourced mem shaped
  · refine ⟨d, D, _, k, sourced.declared, found, found', completed, classes,
      fun notEnum notBlittable => ?_⟩
    exact absurd (baseKind_eq_projected_iff.2 ⟨notEnum, notBlittable⟩) kind
  · exact ⟨d, D, _, k, sourced.declared, found, found', completed.withBase kind base,
      classes, fun _ _ =>
      ⟨A, base, outcome.midway.assemblies ▸ owned, rfl, outcome.answer_projectOption starting⟩⟩

/-- In the sample program, palettes get a bag of arrays of colors for their base, and that stays the
form of the source's base. -/
theorem complete_consistent_palette :
    (complete.run Sample.shop).1 =
        .ok { params := 3, unmanagedParams := 1, enumBases := 1, valueTypeBases := 2,
              projectedBases := 8 } ∧
      ∀ qs, (((complete.run Sample.shop).2.registry.projectOption ⟨1⟩ false
        (some (.inst ⟨7⟩ [.array (.named ⟨6⟩) 1]))).run
          ((complete.run Sample.shop).2.registry.notesAfter
            (complete.run Sample.shop).2.notes qs)).1 =
        .ok (.inst (.defined ⟨7⟩) [.inst Interop.structArray [.defined ⟨6⟩]]) := by
  have completed : (complete.run Sample.shop).1 =
      .ok { params := 3, unmanagedParams := 1, enumBases := 1, valueTypeBases := 2,
            projectedBases := 8 } := by
    decide +kernel
  have palette : Sample.shop.registry.types[(⟨8⟩ : TypeBindingId)]?.map
    (fun b => (b.assembly, b.source, b.target)) =
      some (⟨1⟩, some ⟨8⟩, ⟨8⟩) := by
    decide +kernel
  have declaration : Sample.shop.registry.source.types[(⟨8⟩ : Source.TypeId)]?.map
    (fun d => (d.form, d.base)) =
      some (.classType, some (.inst ⟨7⟩ [.array (.named ⟨6⟩) 1])) := by
    decide +kernel
  have base : (complete.run Sample.shop).2.registry.target.types[(⟨8⟩ : TypeId)]?.map (·.base) =
      some (some (.inst (.defined ⟨7⟩) [.inst Interop.structArray [.defined ⟨6⟩]])) := by
    decide +kernel
  have home : (complete.run Sample.shop).2.registry.assemblies[(⟨1⟩ : AssemblyBindingId)]?.map
    (·.module) =
      some ⟨1⟩ := by
    decide +kernel
  have isClass :
    (((complete.run Sample.shop).2.registry.classOf ⟨8⟩).run (complete.run Sample.shop).2.notes).1 =
      .ok .reference := by
    decide +kernel
  have reachable : Sample.shop.Reachable := ⟨_, _, _, _, rfl⟩
  obtain ⟨-, -, consistent⟩ :=
    complete_consistent reachable (by decide +kernel) (by decide +kernel) (Effect.run_eq completed)
  -- What the theorem says of palettes is put together with what is looked up of them.
  rcases Option.map_eq_some_iff.1 palette with ⟨b, bound, eq⟩
  simp only [Prod.mk.injEq] at eq
  obtain ⟨d, D, D', k, declared, -, found, -, classes, projected⟩ :=
    consistent ⟨8⟩ b ⟨8⟩ bound eq.2.1
  simp only [declared, Option.map_some, Option.some.injEq, Prod.mk.injEq] at declaration
  simp only [eq.2.2] at found
  simp only [found, Option.map_some, Option.some.injEq] at base
  cases isClass.symm.trans (classes [])
  obtain ⟨A, base', owned, eqBase, answers⟩ :=
    projected (by simp [declaration.1]) (by simp [LayoutClass.isBlittable])
  simp only [eq.1] at owned
  simp only [owned, Option.map_some, Option.some.injEq] at home
  cases eqBase.symm.trans base
  simp only [home, declaration.2] at answers
  exact ⟨completed, answers⟩

end TypeProjection.Completion
