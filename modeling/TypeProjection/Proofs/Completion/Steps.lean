import TypeProjection.Completion
import TypeProjection.Proofs.Projection.Form
import TypeProjection.Proofs.Update

/-!
# Proofs.Completion.Steps — what one step of a sweep does

A step of a sweep replaces the output declaration of one binding at most, and otherwise only takes
notes:

* `shapeDecl` : the declaration after the first sweep;
* `fillShape_eq_ok_iff`, `fillBase_eq_ok_iff` : the steps that succeed, and where they lead;
* `isValueBase_of_projectOption` : a base that is the form of the source's base makes no value type.
-/

namespace TypeProjection

open Layout (Memo)

namespace Completion

variable {W W' : Workspace} {m : Memo} {c : TypeBindingId} {b : TypeBinding} {t : Source.TypeId}
  {counts : Summary}

/-! ## Steps that succeed -/

/-- The declaration of an output type once it has its parameters, and its base if that is fixed. -/
def shapeDecl (d : Source.TypeDecl) (k : LayoutClass) (D : Target.TypeDecl) : Target.TypeDecl :=
  { D with
    params := d.params.map (completedParam k.isBlittable)
    base := (baseKind k.isBlittable d).fixed?.or D.base }

theorem fillShape_of_unsourced (bound : W.registry.types[c]? = some b)
    (unsourced : b.source = none) :
    (fillShape c).run W = (.ok {}, W) := by
  refine Update.look_bind_eq_ok_iff.2 ⟨b, Table.fetch_eq_ok_iff.2 bound, ?_⟩
  simp only [unsourced]
  rfl

/-- Filling in parameters and then a base replaces the declaration once. -/
theorem setParams_setBase_eq_ok_iff {u : Target.TypeId} {params : List Target.TypeParam}
    {base : Option Target.Signature} {first second : Unit} :
    (∃ between, (Update.setParams (.type u) params).run W = (.ok first, between) ∧
        (Update.setBase u base).run between = (.ok second, W')) ↔
      ∃ D, W.registry.target.types[u]? = some D ∧
        { W with registry := W.registry.replaceType u { D with params, base } } = W' := by
  simp only [Update.setParams_eq_ok_iff, Update.setBase_eq_ok_iff]
  constructor
  · rintro ⟨between, ⟨D, declared, rfl⟩, D', declared', rfl⟩
    -- The base is written into the declaration that the parameters left behind.
    cases (Registry.getElem?_replaceType_self declared).symm.trans declared'
    exact ⟨D, declared, by rw [Registry.replaceType_replaceType]⟩
  · rintro ⟨D, declared, rfl⟩
    exact ⟨_, ⟨D, declared, rfl⟩, _, Registry.getElem?_replaceType_self declared,
      by rw [Registry.replaceType_replaceType]⟩

/-- The first sweep's step for a source type gives its output type parameters, and a base where the
class fixes it. -/
theorem fillShape_eq_ok_iff (bound : W.registry.types[c]? = some b) (source : b.source = some t) :
    (fillShape c).run W = (.ok counts, W') ↔
      ∃ d k notes D, W.registry.source.types[t]? = some d ∧
        (W.registry.classOf c).run W.notes = (.ok k, notes) ∧
          W.registry.target.types[b.target]? = some D ∧
        shapeCounts (shapeDecl d k D).params (baseKind k.isBlittable d) = counts ∧
        { registry := W.registry.replaceType b.target (shapeDecl d k D), notes } = W' := by
  rw [fillShape, Update.look_bind_eq_ok_iff]
  simp only [Table.fetch_eq_ok_iff, bound, Option.some.injEq, exists_eq_left', source,
    Update.look_bind_eq_ok_iff, Update.ask_bind_eq_ok_iff]
  refine exists_congr fun d => ?_
  simp only [← exists_and_left]
  refine exists_congr fun k => exists_congr fun notes => ?_
  unfold shapeDecl
  cases (baseKind k.isBlittable d).fixed? with
  | none =>
      simp only [Effect.bind_eq_ok_iff, Update.setParams_eq_ok_iff, Effect.pure_eq_ok_iff]
      constructor
      · rintro ⟨declared, classified, _, _, ⟨D, found, rfl⟩, rfl, rfl⟩
        exact ⟨D, declared, classified, found, rfl, rfl⟩
      · rintro ⟨D, declared, classified, found, rfl, rfl⟩
        exact ⟨declared, classified, (), _, ⟨D, found, rfl⟩, rfl, rfl⟩
  | some base =>
      simp only [Effect.bind_eq_ok_iff, Effect.pure_eq_ok_iff]
      constructor
      · rintro ⟨declared, classified, _, W₁, setParams, _, W₂, setBase, rfl, rfl⟩
        rcases setParams_setBase_eq_ok_iff.1 ⟨W₁, setParams, setBase⟩ with ⟨D, found, rfl⟩
        exact ⟨D, declared, classified, found, rfl, rfl⟩
      · rintro ⟨D, declared, classified, found, rfl, rfl⟩
        obtain ⟨between, setParams, setBase⟩ : ∃ between,
            (Update.setParams (.type b.target) (d.params.map (completedParam k.isBlittable))).run
              { W with notes } =
                (.ok (), between) ∧
              (Update.setBase b.target (some base)).run between = (.ok (), _) :=
          setParams_setBase_eq_ok_iff.2 ⟨D, found, rfl⟩
        exact ⟨declared, classified, (), between, setParams, (), _, setBase, rfl, rfl⟩

theorem fillBase_of_unsourced (bound : W.registry.types[c]? = some b)
    (unsourced : b.source = none) :
    (fillBase c).run W = (.ok {}, W) := by
  refine Update.look_bind_eq_ok_iff.2 ⟨b, Table.fetch_eq_ok_iff.2 bound, ?_⟩
  simp only [unsourced]
  rfl

/-- The second sweep's step for a source type gives its output type the form of the source's base,
where the class does not fix the base. -/
theorem fillBase_eq_ok_iff (bound : W.registry.types[c]? = some b) (source : b.source = some t) :
    (fillBase c).run W = (.ok counts, W') ↔
      ∃ d k notes, W.registry.source.types[t]? = some d ∧
        (W.registry.classOf c).run W.notes = (.ok k, notes) ∧
        (baseKind k.isBlittable d ≠ .projected ∧ {} = counts ∧ { W with notes } = W' ∨
          baseKind k.isBlittable d = .projected ∧
            ∃ A base notes' D, W.registry.assemblies[b.assembly]? = some A ∧
              (W.registry.projectOption A.module false d.base).run notes = (.ok base, notes') ∧
              W.registry.target.types[b.target]? = some D ∧ { projectedBases := 1 } = counts ∧
              { registry := W.registry.replaceType b.target { D with base := some base },
                notes := notes' } = W') := by
  rw [fillBase, Update.look_bind_eq_ok_iff]
  simp only [Table.fetch_eq_ok_iff, bound, Option.some.injEq, exists_eq_left', source,
    Update.look_bind_eq_ok_iff, Update.ask_bind_eq_ok_iff]
  refine exists_congr fun d => ?_
  rw [← exists_and_left]
  refine exists_congr fun k => ?_
  rw [← exists_and_left]
  refine exists_congr fun notes => and_congr_right fun _ => and_congr_right fun _ => ?_
  cases baseKind k.isBlittable d with
  | enum => exact Effect.pure_eq_ok_iff.trans (by simp)
  | valueType => exact Effect.pure_eq_ok_iff.trans (by simp)
  | projected =>
      simp only [Update.look_bind_eq_ok_iff, Update.ask_bind_eq_ok_iff, Table.fetch_eq_ok_iff]
      simp only [Effect.bind_eq_ok_iff, Update.setBase_eq_ok_iff, Effect.pure_eq_ok_iff]
      constructor
      · rintro ⟨A, owned, base, notes', projected, _, _, ⟨D, found, rfl⟩, rfl, rfl⟩
        exact .inr ⟨trivial, A, base, notes', D, owned, projected, found, rfl, rfl⟩
      · rintro (⟨other, -⟩ | ⟨-, A, base, notes', D, owned, projected, found, rfl, rfl⟩)
        · exact absurd rfl other
        · exact ⟨A, owned, base, notes', projected, (), _, ⟨D, found, rfl⟩, rfl, rfl⟩

/-! ## Projected bases -/

variable {R : Registry} {into : Target.ModuleId} {boxed : Bool}

theorem isValueBase_of_support {e : Target.External} (library : e.library = .support) :
    (Target.Signature.external e).isValueBase = false := by
  simp [Target.Signature.isValueBase, library]

/-- No form of a declared type is the base of a value type, since the library types that are are
none of those that are taken over as they are. -/
theorem isValueBase_of_namedForm {d : Source.TypeDecl} {base : Target.Signature}
    (form : Registry.NamedForm R boxed t d base) : base.isValueBase = false := by
  cases form with
  | verbatim treated =>
      have notTreated : ∀ name ∈ [Corlib.valueTypeName, Corlib.enumName],
          Corlib.treatment name ≠ .verbatim := by
        decide
      have notValueType : d.fullName ≠ Corlib.valueTypeName :=
        fun eq => notTreated _ (by simp [eq]) treated
      have notEnum : d.fullName ≠ Corlib.enumName := fun eq => notTreated _ (by simp [eq]) treated
      simp [Target.Signature.isValueBase, notValueType, notEnum]
  | void => decide
  | string => decide
  | root => rfl
  | bound => rfl

/-- No base that is the form of a source's base makes a value type. -/
theorem isValueBase_of_projectOption {s : Option Source.Signature} {base : Target.Signature}
    (yields : R.Yields m (R.projectOption into boxed s) base) : base.isValueBase = false := by
  rcases yields.projectOption with rfl | ⟨s, -, yields⟩
  · exact isValueBase_of_support rfl
  · cases yields.referenceForm with
    | named _ form => exact isValueBase_of_namedForm form
    | unresolved => exact isValueBase_of_support rfl
    | otherRank => exact isValueBase_of_support rfl
    | strings => exact isValueBase_of_support rfl
    | array => rfl
    | byRef => rfl
    | pointer => rfl
    | inst => rfl
    | param => rfl

end Completion

end TypeProjection
