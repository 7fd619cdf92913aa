import TypeProjection.Proofs.Effect
import TypeProjection.Workspace

/-!
# Proofs.Update — the basic steps of a run

What the basic steps of a run do to a workspace, where they succeed:

* `Registry.replaceType` : a registry with another declaration for an output type;
* `look_eq_ok_iff`, `ask_eq_ok_iff` : looking changes nothing, and asking changes the notes;
* `setParams_eq_ok_iff`, `setBase_eq_ok_iff` : filling in replaces one output declaration.
-/

namespace TypeProjection

/-- A registry with another declaration for an output type. -/
def Registry.replaceType (R : Registry) (u : Target.TypeId) (D : Target.TypeDecl) : Registry :=
  { R with target := { R.target with types := R.target.types.set u D } }

namespace Update

variable {α : Type} {a : α} {W W' : Workspace} {u : Target.TypeId}

theorem run_ask (q : Registry → Query α) (W : Workspace) :
    (ask q).run W =
      (((q W.registry).run W.notes).1, { W with notes := ((q W.registry).run W.notes).2 }) := rfl

theorem look_eq_ok_iff {q : Registry → Except Failure α} :
    (look q).run W = (.ok a, W') ↔ q W.registry = .ok a ∧ W = W' :=
  Prod.ext_iff

theorem ask_eq_ok_iff {q : Registry → Query α} :
    (ask q).run W = (.ok a, W') ↔
      ∃ notes, (q W.registry).run W.notes = (.ok a, notes) ∧ { W with notes } = W' := by
  rw [run_ask]
  constructor
  · intro run
    exact ⟨_, Effect.run_eq (congrArg Prod.fst run), congrArg Prod.snd run⟩
  · rintro ⟨notes, answered, rfl⟩
    rw [answered]

theorem look_bind_eq_ok_iff {β : Type} {q : Registry → Except Failure β} {f : β → Update α} :
    (look q >>= f).run W = (.ok a, W') ↔ ∃ b, q W.registry = .ok b ∧ (f b).run W = (.ok a, W') := by
  rw [Effect.bind_eq_ok_iff]
  constructor
  · rintro ⟨b, between, looked, run⟩
    rcases look_eq_ok_iff.1 looked with ⟨found, rfl⟩
    exact ⟨b, found, run⟩
  · rintro ⟨b, found, run⟩
    exact ⟨b, W, look_eq_ok_iff.2 ⟨found, rfl⟩, run⟩

theorem ask_bind_eq_ok_iff {β : Type} {q : Registry → Query β} {f : β → Update α} :
    (ask q >>= f).run W = (.ok a, W') ↔
      ∃ b notes, (q W.registry).run W.notes = (.ok b, notes) ∧
        (f b).run { W with notes } = (.ok a, W') := by
  rw [Effect.bind_eq_ok_iff]
  constructor
  · rintro ⟨b, between, asked, run⟩
    rcases ask_eq_ok_iff.1 asked with ⟨notes, answered, rfl⟩
    exact ⟨b, notes, answered, run⟩
  · rintro ⟨b, notes, answered, run⟩
    exact ⟨b, _, ask_eq_ok_iff.2 ⟨notes, answered, rfl⟩, run⟩

theorem edit_eq_ok_iff {f : Registry → Option (α × Registry)} :
    (edit f).run W = (.ok a, W') ↔ ∃ registry, f W.registry = some (a, registry) ∧
      { W with registry } = W' := by
  simp only [edit, ExceptT.run]
  split
  · next a' registry found =>
    rw [found]
    constructor
    · intro run
      cases run
      exact ⟨registry, rfl, rfl⟩
    · rintro ⟨_, eq, rfl⟩
      cases eq
      rfl
  · next missing =>
    rw [missing]
    constructor
    · intro run
      cases run
    · rintro ⟨_, eq, -⟩
      cases eq

/-- Replacing the declaration of an output type by one that is made from it. -/
theorem editType_eq_ok_iff {f : Target.TypeDecl → Target.TypeDecl} {done : Unit} :
    (editTarget fun C => (C.types[u]?.map fun D => { C with types := C.types.set u (f D) }).map
        fun C => ((), C)).run W = (.ok done, W') ↔
      ∃ D, W.registry.target.types[u]? = some D ∧
        { W with registry := W.registry.replaceType u (f D) } = W' := by
  rw [editTarget, edit_eq_ok_iff]
  cases W.registry.target.types[u]? with
  | none => simp
  | some D => simp [Registry.replaceType]

theorem setParams_eq_ok_iff {params : List Target.TypeParam} {done : Unit} :
    (setParams (.type u) params).run W = (.ok done, W') ↔
      ∃ D, W.registry.target.types[u]? = some D ∧
        { W with registry := W.registry.replaceType u { D with params } } = W' :=
  editType_eq_ok_iff

theorem setBase_eq_ok_iff {base : Option Target.Signature} {done : Unit} :
    (setBase u base).run W = (.ok done, W') ↔
      ∃ D, W.registry.target.types[u]? = some D ∧
        { W with registry := W.registry.replaceType u { D with base } } = W' :=
  editType_eq_ok_iff

end Update

/-! ## Replaced declarations -/

namespace Registry

variable {R : Registry} {u v : Target.TypeId} {D D' E : Target.TypeDecl}

theorem replaceType_replaceType : (R.replaceType u D).replaceType u D' = R.replaceType u D' := by
  simp [replaceType, Table.set_set]

theorem getElem?_replaceType_iff (declared : R.target.types[u]? = some D) :
    (R.replaceType u D').target.types[v]? = some E ↔ v = u ∧ D' = E ∨ v ≠ u ∧
      R.target.types[v]? = some E :=
  Table.getElem?_set_eq_some_iff declared

theorem getElem?_replaceType_self (declared : R.target.types[u]? = some D) :
    (R.replaceType u D').target.types[u]? = some D' :=
  (getElem?_replaceType_iff declared).2 (.inl ⟨rfl, rfl⟩)

end Registry

end TypeProjection
