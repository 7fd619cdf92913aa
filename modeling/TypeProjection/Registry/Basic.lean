import Std.Data.TreeMap
import TypeProjection.Failure
import TypeProjection.Source.Catalog
import TypeProjection.Target.Catalog

/-!
# Registry — which output type stands for which source type

A registry holds both catalogs and the bindings between them. An assembly binding says into which
output module the types of a source assembly go; a type binding pairs a source type with an output
type. This module defines

- `TypeBinding`, `AssemblyBinding`, `Registry` : the bindings and the tables to find them by;
- the look-ups, each as an `Option` or with the reason why it found nothing.

A binding without a source type belongs to an output type that was made up for the output. A
*stand-in* is a reference type that replaces a value type where a reference is needed; the binding
of the value type names the stand-in's binding as its *counterpart*.
-/

namespace TypeProjection

abbrev AssemblyBindingId := Handle .assemblyBinding

abbrev TypeBindingId := Handle .typeBinding

/-! ## Bindings -/

/-- A source type and the output type that stands for it. -/
structure TypeBinding where
  assembly : AssemblyBindingId
  source : Option Source.TypeId
  target : Target.TypeId
  /-- The output type is a reference type that replaces a value type. -/
  standIn : Bool := false
  /-- The binding to use where the reference form of the type is needed. -/
  counterpart : Option TypeBindingId := none
  /-- The output methods that stand for the methods of the source type. -/
  methods : Std.TreeMap Source.MethodId Target.MethodId := ∅

/-- A source assembly and the output module for its types. -/
structure AssemblyBinding where
  name : String
  source : Source.AssemblyId
  module : Target.ModuleId
  /-- For each source type, the binding that was registered first. -/
  bySource : Std.TreeMap Source.TypeId TypeBindingId := ∅
  /-- For each output type, the binding that was registered last. -/
  byTarget : Std.TreeMap Target.TypeId TypeBindingId := ∅
  /-- For each full name, a binding registered under it. -/
  byName : Std.TreeMap String TypeBindingId := ∅

structure Registry where
  /-- The name of the source's base class library. -/
  corlib : String := "mscorlib"
  source : Source.Catalog := {}
  target : Target.Catalog := {}
  assemblies : Table .assemblyBinding AssemblyBinding := ∅
  types : Table .typeBinding TypeBinding := ∅
  /-- For each source assembly, the binding that was registered last. -/
  assemblyBySource : Std.TreeMap Source.AssemblyId AssemblyBindingId := ∅
  /-- For each assembly name, the binding that was registered last. -/
  assemblyByName : Std.TreeMap String AssemblyBindingId := ∅

/-! ## Look-ups in one assembly -/

namespace AssemblyBinding

/-- The bindings of an assembly, one for each output type, in the order of the output types. -/
def types (A : AssemblyBinding) : List TypeBindingId := A.byTarget.values

/-- The binding of a source type of the assembly; `d` is the declaration of the type. -/
def bindingFor (A : AssemblyBinding) (t : Source.TypeId) (d : Source.TypeDecl) :
    Except Failure TypeBindingId :=
  match A.bySource[t]? with
  | some c => .ok c
  | none => .error (.lookup (.unregisteredType d.fullName))

theorem bindingFor_eq_ok_iff {A : AssemblyBinding} {t : Source.TypeId}
    {d : Source.TypeDecl} {c : TypeBindingId} :
    A.bindingFor t d = .ok c ↔ A.bySource[t]? = some c := by
  unfold bindingFor
  split <;> simp_all

def bindingNamed (A : AssemblyBinding) (fullName : String) : Except Failure TypeBindingId :=
  match A.byName[fullName]? with
  | some c => .ok c
  | none => .error (.lookup (.unknownTypeName A.name fullName))

end AssemblyBinding

/-! ## Look-ups in all assemblies -/

namespace Registry

def fullName (R : Registry) (t : Source.TypeId) : Except Failure String := do
  let d ← R.source.types.fetch t
  return d.fullName

def assemblyFor (R : Registry) (a : Source.AssemblyId) : Except Failure AssemblyBindingId :=
  match R.assemblyBySource[a]? with
  | some b => .ok b
  | none => do
      -- Only the message needs the name, so that the handle is checked here and not before.
      let name ← R.source.assemblies.fetch a
      throw (.lookup (.unregisteredAssembly name))

theorem assemblyFor_eq_ok_iff {R : Registry} {a : Source.AssemblyId} {b : AssemblyBindingId} :
    R.assemblyFor a = .ok b ↔ R.assemblyBySource[a]? = some b := by
  unfold assemblyFor
  split
  · simp_all
  · cases R.source.assemblies.fetch a <;> simp_all
      [bind, Except.bind, throw, throwThe, MonadExceptOf.throw]

def assemblyNamed (R : Registry) (name : String) : Except Failure AssemblyBindingId :=
  match R.assemblyByName[name]? with
  | some b => .ok b
  | none => .error (.lookup (.unknownAssembly name))

/-- The binding of a source type in the assembly that declares it, if there is one. -/
def binding? (R : Registry) (t : Source.TypeId) : Option TypeBindingId := do
  let d ← R.source.types[t]?
  let b ← R.assemblyBySource[d.assembly]?
  let A ← R.assemblies[b]?
  A.bySource[t]?

/-- The binding of a source type in the assembly that declares it, or the reason why there is
none. -/
def bindingFor (R : Registry) (t : Source.TypeId) : Except Failure TypeBindingId := do
  let d ← R.source.types.fetch t
  let b ← R.assemblyFor d.assembly
  let A ← R.assemblies.fetch b
  A.bindingFor t d

/-- The look-up that gives a reason finds a binding exactly if there is one. -/
theorem bindingFor_eq_ok_iff {R : Registry} {t : Source.TypeId} {c : TypeBindingId} :
    R.bindingFor t = .ok c ↔ R.binding? t = some c := by
  simp only [bindingFor, binding?, Table.fetch]
  cases R.source.types[t]? with
  | none => simp [orDangling, bind, Except.bind]
  | some d =>
      cases found : R.assemblyBySource[d.assembly]? with
      | none =>
          -- Whether the handle dangles or not, there is no binding.
          have missing : ∀ b, R.assemblyFor d.assembly ≠ .ok b := by
            simp [assemblyFor_eq_ok_iff, found]
          cases h : R.assemblyFor d.assembly with
          | ok b => exact absurd h (missing b)
          | error => simp [orDangling, bind, Except.bind, h, found]
      | some b =>
          have h : R.assemblyFor d.assembly = .ok b := assemblyFor_eq_ok_iff.2 found
          cases bound : R.assemblies[b]? with
          | none => simp [orDangling, bind, Except.bind, h, found, bound]
          | some A =>
              simp [orDangling, bind, Except.bind, h, found, bound,
                AssemblyBinding.bindingFor_eq_ok_iff]

def targetFor (R : Registry) (t : Source.TypeId) : Except Failure Target.TypeId := do
  let c ← R.bindingFor t
  let b ← R.types.fetch c
  return b.target

/-- The binding of a type of the source's base class library, by its full name. -/
def corlibBinding (R : Registry) (fullName : String) : Except Failure TypeBindingId := do
  let b ← R.assemblyNamed R.corlib
  let A ← R.assemblies.fetch b
  A.bindingNamed fullName

theorem corlibBinding_eq_ok_iff {R : Registry} {fullName : String} {c : TypeBindingId} :
    R.corlibBinding fullName = .ok c ↔
      ∃ i A, R.assemblyByName[R.corlib]? = some i ∧ R.assemblies[i]? = some A ∧
        A.byName[fullName]? = some c := by
  simp only [corlibBinding, assemblyNamed]
  cases R.assemblyByName[R.corlib]? with
  | none => simp [bind, Except.bind]
  | some i =>
      cases found : R.assemblies[i]? with
      | none => simp [Table.fetch, orDangling, bind, Except.bind, found]
      | some A =>
          cases known : A.byName[fullName]? with
          | none =>
              simp [Table.fetch, orDangling, bind, Except.bind, found,
                AssemblyBinding.bindingNamed, known]
          | some c' =>
              simp [Table.fetch, orDangling, bind, Except.bind, found,
                AssemblyBinding.bindingNamed, known]

/-- All bindings: assembly by assembly, and in each in the order of the output types. -/
def bindings (R : Registry) : List TypeBindingId :=
  R.assemblies.entries.toList.flatMap AssemblyBinding.types

end Registry

end TypeProjection
