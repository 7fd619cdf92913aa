import TypeProjection.Projection.Reference
import TypeProjection.Registry.Registration

/-!
# Workspace — a registry together with the notes taken on it

A workspace is what changes in the course of a run: bindings are added, questions leave notes, and
output types are filled in. This module defines

- `Workspace` : the registry and the notes;
- `Update` : a step of a run, which keeps what it did before a failure;
- `ask`, `edit`, `editTarget`, `bindAssembly` : the basic steps.
-/

namespace TypeProjection

/-- A registry and the notes that questions about it left. -/
structure Workspace where
  registry : Registry := {}
  notes : Ledger := {}

/-- A step of a run. What it did before a failure stays done. -/
abbrev Update := ExceptT Failure (StateM Workspace)

namespace Update

/-- Ask a question about the registry and keep the notes. -/
def ask {α : Type} (q : Registry → Query α) : Update α := fun W =>
  let (answer, notes) := (q W.registry).run W.notes
  (answer, { W with notes })

def look {α : Type} (q : Registry → Except Failure α) : Update α := fun W => (q W.registry, W)

/-- Change the registry; no result means that a dangling handle was met. -/
def edit {α : Type} (f : Registry → Option (α × Registry)) : Update α := fun W =>
  match f W.registry with
  | some (a, registry) => (.ok a, { W with registry })
  | none => (.error .danglingHandle, W)

/-- Change the output catalog; no result means that a dangling handle was met. -/
def editTarget {α : Type} (f : Target.Catalog → Option (α × Target.Catalog)) : Update α :=
  edit fun R => (f R.target).map fun (a, target) => (a, { R with target })

def setParams (owner : Target.Owner) (params : List Target.TypeParam) : Update Unit :=
  editTarget fun C => (C.setParams owner params).map fun C => ((), C)

def setBase (t : Target.TypeId) (base : Option Target.Signature) : Update Unit :=
  editTarget fun C => (C.setBase t base).map fun C => ((), C)

/-- Bind a source assembly to an output module, which then mentions the fixed surface. -/
def bindAssembly (source : Source.AssemblyId) (module : Target.ModuleId) :
    Update AssemblyBindingId := do
  ask fun R => R.target.importSurface module
  edit fun R => R.addAssembly source module

end Update

end TypeProjection
