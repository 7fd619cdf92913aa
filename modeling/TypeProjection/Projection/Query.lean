import TypeProjection.Failure
import TypeProjection.Layout.Classify
import TypeProjection.Target.References

/-!
# Projection.Query — questions that leave notes

Asking about a reference changes neither catalog and no binding, but it leaves notes: the layout
classes that were found on the way and the module references that the answer needs. This module
defines

- `Ledger` : the notes;
- `Query`  : a question, which has an answer or a `Failure`, and keeps its notes in either case;
- `classOf`, `record`, and what an output module does to mention a type or method.
-/

namespace TypeProjection

/-- What questions leave behind. -/
structure Ledger where
  classes : Layout.Memo := ∅
  references : Target.References := {}

/-- The layout class of a binding as far as it is noted or fixed from the start. -/
def Ledger.class? (notes : Ledger) (c : TypeBindingId) (b : TypeBinding) : Option LayoutClass :=
  if b.standIn then some .reference else notes.classes[c]?

/-- A question that reads and extends the notes. -/
abbrev Query := ExceptT Failure (StateM Ledger)

/-! ## Classes -/

namespace Registry

def classOf (R : Registry) (c : TypeBindingId) : Query LayoutClass := fun notes =>
  match (Layout.classify R [] c).run notes.classes with
  | some (k, classes) => (.ok k, { notes with classes })
  | none => (.error .danglingHandle, notes)

end Registry

/-! ## Mentioning types and methods of the output -/

namespace Target.Catalog

def record (C : Catalog) (into : ModuleId) (imported : Reference) : Query Unit := do
  let _ ← C.modules.fetch into
  modify fun notes => { notes with references := notes.references.record into imported }

/-- Mention an output type in a module, which then refers to the module of the type if that is
another. -/
def importType (C : Catalog) (into : ModuleId) (t : TypeId) : Query Signature := do
  let d ← C.types.fetch t
  if d.module ≠ into then C.record into (.module d.module)
  return .defined t

/-- Mention a library type in a module, which then refers to the library. -/
def importExternal (C : Catalog) (into : ModuleId) (e : External) : Query Signature := do
  C.record into (.library e.library)
  return .external e

/-- Mention an output method, with the type that declares it, in a module. -/
def importMethod (C : Catalog) (into : ModuleId) (m : MethodId) : Query (TypeId × MethodId) := do
  let d ← C.methods.fetch m
  let _ ← C.importType into d.type
  return (d.type, m)

def importSurface (C : Catalog) (into : ModuleId) : Query Unit := do
  C.record into (.library .support)
  C.record into (.library .corlib)

end Target.Catalog

end TypeProjection
