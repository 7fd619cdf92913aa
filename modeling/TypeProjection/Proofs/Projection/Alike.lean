import TypeProjection.Proofs.Layout.Alike
import TypeProjection.Proofs.Projection.Parallel

/-!
# Proofs.Projection.Alike — questions that ask alike

Where two registries have the same bindings and differ in their output catalogs at most, the basic
questions are those for the class of a binding, and for the mention of an output type or a library.
So what relates these relates all questions:

* `Alike` : a relation between questions that holds of the basic ones;
* `Alike.provenUnmanaged`, `Alike.project`, `Alike.answer` : it holds of all others;
* `SameView` : output catalogs that no question tells apart;
* `SameOutlines` : catalogs that differ in bases only look the same.
-/

namespace TypeProjection

/-- Registries with the same bindings give them the same classes. -/
theorem Registry.classOf_congr {R R' : Registry} (same : Layout.SameBindings R R')
    (c : TypeBindingId) :
    R'.classOf c = R.classOf c := by
  funext notes
  simp only [Registry.classOf, Layout.classify_congr same]

/-- A relation between questions that holds of the basic questions about a registry, and the same
ones with another output catalog. -/
structure Alike (R : Registry) (C : Target.Catalog) (into : Target.ModuleId)
    (Q : ∀ {α : Type}, Query α → Query α → Prop) :
    Prop extends Composable (Except Failure) Query Q where
  classOf : ∀ c, Q (R.classOf c) ({ R with target := C }.classOf c)
  recordLibrary : ∀ library, Q (R.target.record into (.library library))
    (C.record into (.library library))
  importType : ∀ u, Q (R.target.importType into u) (C.importType into u)
  methods : C.methods = R.target.methods
  isMarked : ∀ owner position, C.isMarked owner position = R.target.isMarked owner position
  isValueType : ∀ s, C.isValueType s = R.target.isValueType s

namespace Alike

variable {R : Registry} {C : Target.Catalog} {into : Target.ModuleId} {boxed : Bool}
  {Q : ∀ {α : Type}, Query α → Query α → Prop}

/-- The same questions are put to both registries, in one module. -/
theorem parallel (alike : Alike R C into Q) : Parallel R { R with target := C } into into Q where
  toComposable := alike.toComposable
  source := rfl
  bindingFor _ := rfl
  corlibBinding _ := rfl
  binding _ := alike.lift _
  classOf := alike.classOf
  recordLibrary := alike.recordLibrary
  importType := alike.importType
  methods := alike.methods
  isMarked := alike.isMarked
  isValueType := alike.isValueType

theorem provenUnmanaged (alike : Alike R C into Q) (s : Source.Signature) :
    Q (R.provenUnmanaged into boxed s) ({ R with target := C }.provenUnmanaged into boxed s) :=
  alike.parallel.provenUnmanaged s

theorem project (alike : Alike R C into Q) (s : Source.Signature) :
    Q (R.project into boxed s) ({ R with target := C }.project into boxed s) :=
  alike.parallel.project s

theorem projectOption (alike : Alike R C into Q) (s : Option Source.Signature) :
    Q (R.projectOption into boxed s) ({ R with target := C }.projectOption into boxed s) :=
  alike.parallel.projectOption s

/-- What relates the basic questions relates all of them. -/
theorem answer (alike : ∀ into, Alike R C into Q) (q : Question) :
    Q (R.answer q) ({ R with target := C }.answer q) :=
  Parallel.answer (fun into => (alike into).parallel) q

end Alike

/-! ## Output catalogs that look the same -/

/-- A declaration without its base, and with what the base makes of it. -/
def Target.TypeDecl.outline (D : TypeDecl) : TypeDecl × Bool :=
  ({ D with base := none }, D.isValueType)

namespace Target.Catalog

/-- Two catalogs agree on which parameters are marked and on what is a value type. -/
structure SameShapes (C C' : Catalog) : Prop where
  isMarked : ∀ (owner : Owner) (position : Nat),
    C'.isMarked owner position = C.isMarked owner position
  isValueType : ∀ s : Signature, C'.isValueType s = C.isValueType s

/-- Two catalogs agree on all that questions about references look at. -/
structure SameView (C C' : Catalog) : Prop extends SameShapes C C' where
  modules : C'.modules = C.modules
  methods : C'.methods = C.methods
  moduleOf : ∀ u : TypeId, C'.types[u]?.map (·.module) = C.types[u]?.map (·.module)

namespace SameView

variable {C C' C'' : Catalog}

theorem refl (C : Catalog) : SameView C C :=
  ⟨⟨fun _ _ => rfl, fun _ => rfl⟩, rfl, rfl, fun _ => rfl⟩

theorem trans (first : SameView C C') (second : SameView C' C'') : SameView C C'' where
  isMarked owner position := (second.isMarked owner position).trans (first.isMarked owner position)
  isValueType s := (second.isValueType s).trans (first.isValueType s)
  modules := second.modules.trans first.modules
  methods := second.methods.trans first.methods
  moduleOf u := (second.moduleOf u).trans (first.moduleOf u)

/-- Of the declaration of a type, only its module has a part in mentioning it. -/
theorem importType_eq_of_module (C : Catalog) (into : ModuleId) (u : TypeId) :
    C.importType into u = (do
      let home ← orDangling (C.types[u]?.map (·.module))
      if home ≠ into then C.record into (.module home)
      return .defined u) := by
  unfold importType Table.fetch
  cases C.types[u]? with
  | none => rfl
  | some D => rfl

theorem record_eq (view : SameView C C') (into : ModuleId) (imported : Reference) :
    C'.record into imported = C.record into imported := by
  rw [record, record, view.modules]

theorem importType_eq (view : SameView C C') (into : ModuleId) (u : TypeId) :
    C'.importType into u = C.importType into u := by
  rw [importType_eq_of_module, importType_eq_of_module, view.moduleOf]
  simp only [view.record_eq]

/-- Questions about references are the same over output catalogs that look the same. -/
theorem alike {R : Registry} {C : Catalog} (view : SameView R.target C) (into : ModuleId) :
    Alike R C into Eq where
  toComposable := composable_eq
  classOf c := (Registry.classOf_congr (.withTarget R C) c).symm
  recordLibrary library := (view.record_eq into (.library library)).symm
  importType u := (view.importType_eq into u).symm
  methods := view.methods
  isMarked := view.isMarked
  isValueType := view.isValueType

end SameView

/-- Two catalogs differ at most in the bases of types, and that in none that makes a value type of
one of them only. -/
structure SameOutlines (C C' : Catalog) : Prop where
  modules : C'.modules = C.modules
  methods : C'.methods = C.methods
  types : ∀ u : TypeId, C'.types[u]?.map TypeDecl.outline = C.types[u]?.map TypeDecl.outline

namespace SameOutlines

variable {C C' : Catalog}

theorem refl (C : Catalog) : SameOutlines C C := ⟨rfl, rfl, fun _ => rfl⟩

/-- What is read off outlines is the same in both catalogs. -/
theorem map_outline (same : SameOutlines C C') {α : Type} (f : TypeDecl × Bool → α) (u : TypeId) :
    C'.types[u]?.map (fun D => f D.outline) = C.types[u]?.map fun D => f D.outline := by
  have mapped := congrArg (Option.map f) (same.types u)
  simpa only [Option.map_map, Function.comp_def] using mapped

theorem sameView (same : SameOutlines C C') : SameView C C' where
  isMarked owner position := by
    cases owner with
    | method m => simp only [Catalog.isMarked, Catalog.params, same.methods]
    | type u =>
        have params := same.map_outline (fun outline => outline.1.params) u
        simp only [TypeDecl.outline] at params
        simp only [Catalog.isMarked, Catalog.params, params]
  isValueType s := by
    induction s with
    | defined u => exact same.map_outline (·.2) u
    | inst generic args ih _ => simpa only [Catalog.isValueType] using ih
    | _ => rfl
  modules := same.modules
  methods := same.methods
  moduleOf u := same.map_outline (fun outline => outline.1.module) u

end SameOutlines

end Target.Catalog

end TypeProjection
