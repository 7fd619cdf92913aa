import TypeProjection.Completion
import TypeProjection.Registry.History

/-!
# Run — sequences of registrations, questions, changes and completions

A run starts from two catalogs without bindings and takes steps in any order. This module defines

- `Question` and `Answer` : what can be asked about a registry, and how;
- `Step`                  : one step of a run;
- `Workspace.after`       : the workspace after several steps;
- `Workspace.Reachable`   : the workspaces that runs lead to.

A step that fails leaves what it did before the failure. The output catalog is open to any change
from outside at any time; the source catalog never changes.
-/

namespace TypeProjection

/-! ## Questions -/

/-- What can be asked about a registry. -/
inductive Question
  | classOf (c : TypeBindingId)
  | provenUnmanaged (into : Target.ModuleId) (boxed : Bool) (s : Source.Signature)
  | project (into : Target.ModuleId) (boxed : Bool) (s : Option Source.Signature)
  | projectMethod (into : Target.ModuleId) (m : Source.MethodId)
  | importType (into : Target.ModuleId) (t : Target.TypeId)
  | importExternal (into : Target.ModuleId) (e : Target.External)
  | importMethod (into : Target.ModuleId) (m : Target.MethodId)
  | importSurface (into : Target.ModuleId)
  deriving DecidableEq, Repr

inductive Answer
  | layoutClass (k : LayoutClass)
  | truth (b : Bool)
  | signature (s : Target.Signature)
  | method (type : Target.TypeId) (method : Target.MethodId)
  | done
  deriving DecidableEq, Repr

namespace Registry

def answer (R : Registry) : Question → Query Answer
  | .classOf c => return .layoutClass (← R.classOf c)
  | .provenUnmanaged into boxed s => return .truth (← R.provenUnmanaged into boxed s)
  | .project into boxed s => return .signature (← R.projectOption into boxed s)
  | .projectMethod into m => do
      let (t, target) ← R.projectMethod into m
      return .method t target
  | .importType into t => return .signature (← R.target.importType into t)
  | .importExternal into e => return .signature (← R.target.importExternal into e)
  | .importMethod into m => do
      let (t, target) ← R.target.importMethod into m
      return .method t target
  | .importSurface into => do
      R.target.importSurface into
      return .done

/-- The notes after several questions, answered or not. -/
def notesAfter (R : Registry) (notes : Ledger) (qs : List Question) : Ledger :=
  qs.foldl (fun notes q => ((R.answer q).run notes).2) notes

end Registry

/-! ## Steps -/

inductive Step
  | register (r : Registration)
  | ask (q : Question)
  | edit (e : Target.Edit)
  | complete
  deriving DecidableEq, Repr

def Step.take : Step → Update Unit
  | .register (.assembly source module) => do
      -- The module refers to the fixed surface from the start.
      let _ ← Update.bindAssembly source module
  | .register r => Update.edit fun R => (R.register r).map ((), ·)
  | .ask q => do
      let _ ← Update.ask fun R => R.answer q
  | .edit e => Update.editTarget fun C => (C.edit e).map ((), ·)
  | .complete => do
      let _ ← Completion.complete

namespace Workspace

def after (W : Workspace) (steps : List Step) : Workspace :=
  steps.foldl (fun W step => (step.take.run W).2) W

/-- A workspace over two catalogs, without bindings and notes. -/
def start (corlib : String) (source : Source.Catalog) (target : Target.Catalog) : Workspace :=
  { registry := Registry.start corlib source target }

/-- A workspace to which a run leads. -/
def Reachable (W : Workspace) : Prop :=
  ∃ corlib source target steps, W = (start corlib source target).after steps

end Workspace

end TypeProjection
