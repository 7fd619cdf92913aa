import TypeProjection.Registry.Registration

/-!
# Registry.History — registries as the outcome of registrations

A registry comes about by registrations, one after the other, over two given catalogs. Its table of
type bindings is the record of them. This module defines

- `Registration` : one registration;
- `Registry.registerAll` : the registry after several of them;
- `Registry.record` : the record, and `Registration.added?` : what a registration adds to it;
- `Registry.IsFirst`, `IsLast` : which of the recorded bindings with a property came first or last;
- `Registry.Enters` : which of them were entered under a full name.
-/

namespace TypeProjection

inductive Registration
  | assembly (source : Source.AssemblyId) (module : Target.ModuleId)
  | type (assembly : AssemblyBindingId) (source : Option Source.TypeId) (target : Target.TypeId)
  | standIn (assembly : AssemblyBindingId) (source : Option Source.TypeId) (target : Target.TypeId)
  | counterpart (binding counterpart : TypeBindingId)
  | method (binding : TypeBindingId) (source : Source.MethodId) (target : Target.MethodId)
  deriving DecidableEq, Repr

namespace Registry

/-- The registry after a registration, if that meets no dangling handle. -/
def register (R : Registry) : Registration → Option Registry
  | .assembly source module => (R.addAssembly source module).map (·.2)
  | .type assembly source target => (R.addType assembly source target).map (·.2)
  | .standIn assembly source target => (R.addStandIn assembly source target).map (·.2)
  | .counterpart c counterpart => R.setCounterpart c counterpart
  | .method c source target => R.addMethod c source target

/-- The registry after several registrations, if none of them meets a dangling handle. -/
def registerAll (R : Registry) (rs : List Registration) : Option Registry := rs.foldlM register R

def start (corlib : String) (source : Source.Catalog) (target : Target.Catalog) : Registry :=
  { corlib, source, target }

end Registry

/-! ## The record -/

/-- The type binding that a registration adds to the record. -/
def Registration.added? : Registration → Option TypeBinding
  | .assembly _ _ => none
  | .type i source target => some { assembly := i, source, target }
  | .standIn i source target => some { assembly := i, source, target, standIn := true }
  | .counterpart _ _ => none
  | .method _ _ _ => none

namespace TypeBinding

/-- A type binding as it was when it was added, before it got a counterpart or methods. -/
def asAdded (b : TypeBinding) : TypeBinding := { b with counterpart := none, methods := ∅ }

/-- A binding was added to an assembly for a source type. -/
def OfSource (i : AssemblyBindingId) (t : Source.TypeId) (b : TypeBinding) : Prop :=
  b.assembly = i ∧ b.source = some t

/-- A binding was added to an assembly for an output type. -/
def OfTarget (i : AssemblyBindingId) (u : Target.TypeId) (b : TypeBinding) : Prop :=
  b.assembly = i ∧ b.target = u

end TypeBinding

namespace Registry

/-- All type bindings, each as it was when it was added. -/
def record (R : Registry) : List TypeBinding := R.types.entries.toList.map TypeBinding.asAdded

/-- Some binding in the record has a property. -/
def Records (R : Registry) (p : TypeBinding → Prop) : Prop :=
  ∃ (c : TypeBindingId) (b : TypeBinding), R.types[c]? = some b ∧ p b

/-! ## First and last -/

/-- A binding is the first in the record with a property. -/
def IsFirst (R : Registry) (p : TypeBinding → Prop) (c : TypeBindingId) : Prop :=
  (∃ b, R.types[c]? = some b ∧ p b) ∧
    ∀ (c' : TypeBindingId) (b' : TypeBinding), R.types[c']? = some b' → p b' → c.index ≤ c'.index

/-- A binding is the last in the record with a property. -/
def IsLast (R : Registry) (p : TypeBinding → Prop) (c : TypeBindingId) : Prop :=
  (∃ b, R.types[c]? = some b ∧ p b) ∧
    ∀ (c' : TypeBindingId) (b' : TypeBinding), R.types[c']? = some b' → p b' → c'.index ≤ c.index

theorem IsFirst.unique {R : Registry} {p : TypeBinding → Prop} {c c' : TypeBindingId}
    (first : R.IsFirst p c) (other : R.IsFirst p c') : c = c' := by
  rcases first with ⟨⟨b, found, holds⟩, least⟩
  rcases other with ⟨⟨b', found', holds'⟩, least'⟩
  exact Handle.eq_of_le_of_le (least c' b' found' holds') (least' c b found holds)

/-! ## Names -/

/-- A binding was added to an assembly under a full name. -/
def OfName (R : Registry) (i : AssemblyBindingId) (name : String) (b : TypeBinding) : Prop :=
  b.assembly = i ∧ R.registeredName b.source b.target = some name

/-- A binding was also entered under its full name: it has no source type, or it came first for that
type. -/
def Enters (R : Registry) (i : AssemblyBindingId) (name : String) (c : TypeBindingId) : Prop :=
  ∃ b, R.types[c]? = some b ∧ R.OfName i name b ∧ ∀ t, b.source = some t →
    R.IsFirst (TypeBinding.OfSource i t) c

/-- A binding was entered under a full name after all others that were. -/
def IsLastEntry (R : Registry) (i : AssemblyBindingId) (name : String) (c : TypeBindingId) : Prop :=
  R.Enters i name c ∧ ∀ c', R.Enters i name c' → c'.index ≤ c.index

/-- All bindings that were added to an assembly under a full name are for the same source type,
unless there is only one. -/
def OneSource (R : Registry) (i : AssemblyBindingId) (name : String) : Prop :=
  ∀ (c : TypeBindingId) (b : TypeBinding), R.types[c]? = some b →
    ∀ (c' : TypeBindingId) (b' : TypeBinding), R.types[c']? = some b' →
      R.OfName i name b → R.OfName i name b' → c = c' ∨ b.source ≠ none ∧ b.source = b'.source

instance (R : Registry) (i : AssemblyBindingId) (name : String) (b : TypeBinding) :
    Decidable (R.OfName i name b) := by
  unfold OfName
  infer_instance

instance (R : Registry) (i : AssemblyBindingId) (name : String) :
    Decidable (R.OneSource i name) := by
  unfold OneSource
  infer_instance

end Registry

end TypeProjection
