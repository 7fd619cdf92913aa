import TypeProjection.Registry.Basic

/-!
# Registry.Registration — adding bindings

Bindings are only ever added; afterwards a binding may get a counterpart and methods. Each function
has no result exactly if it would have to look up a handle that points outside its table.

- An assembly bound again, by handle or by name, is found under the later binding.
- Of the bindings for one source type the first is found, and of those for one output type the last.
- A full name leads to the binding that was registered under it last, where a binding for a source
  type that already had one does not count.
-/

namespace TypeProjection

namespace AssemblyBinding

/-- Enter a binding into the tables of its assembly. -/
def register (A : AssemblyBinding) (c : TypeBindingId) (source : Option Source.TypeId)
    (target : Target.TypeId) (fullName : String) : AssemblyBinding :=
  -- A further binding for the same source type is found by its output type only.
  let known := source.any A.bySource.contains
  { A with
    bySource := match source with
      | some t => A.bySource.insertIfNew t c
      | none => A.bySource
    byTarget := A.byTarget.insert target c
    byName := if known then A.byName else A.byName.insert fullName c }

end AssemblyBinding

namespace Registry

def addAssembly (R : Registry) (source : Source.AssemblyId) (module : Target.ModuleId) :
    Option (AssemblyBindingId × Registry) := do
  let name ← R.source.assemblies[source]?
  let b := R.assemblies.next
  -- An assembly that is bound again is found by its last binding.
  return (b, { R with
    assemblies := R.assemblies.push { name, source, module }
    assemblyBySource := R.assemblyBySource.insert source b
    assemblyByName := R.assemblyByName.insert name b })

/-- The full name under which a binding is registered: that of its source type, or of its output
type if it has none. -/
def registeredName (R : Registry) (source : Option Source.TypeId) (target : Target.TypeId) :
    Option String :=
  match source with
  | some t => R.source.types[t]?.map (·.fullName)
  | none => R.target.types[target]?.map (·.fullName)

/-- Add a type binding to the assembly that it names. -/
def addBinding (R : Registry) (b : TypeBinding) : Option (TypeBindingId × Registry) := do
  let fullName ← R.registeredName b.source b.target
  let A ← R.assemblies[b.assembly]?
  let c := R.types.next
  return (c, { R with
    assemblies := R.assemblies.set b.assembly (A.register c b.source b.target fullName)
    types := R.types.push b })

/-- Bind a source type, or nothing, to an output type. -/
def addType (R : Registry) (assembly : AssemblyBindingId) (source : Option Source.TypeId)
    (target : Target.TypeId) : Option (TypeBindingId × Registry) :=
  R.addBinding { assembly, source, target }

/-- Bind the value type that is a source type, or nothing, to the reference type that replaces
it. -/
def addStandIn (R : Registry) (assembly : AssemblyBindingId) (source : Option Source.TypeId)
    (target : Target.TypeId) : Option (TypeBindingId × Registry) :=
  R.addBinding { assembly, source, target, standIn := true }

def setCounterpart (R : Registry) (c counterpart : TypeBindingId) : Option Registry := do
  let b ← R.types[c]?
  return { R with types := R.types.set c { b with counterpart := some counterpart } }

/-- Let an output method stand for a source method of a bound type. -/
def addMethod (R : Registry) (c : TypeBindingId) (source : Source.MethodId)
    (target : Target.MethodId) :
    Option Registry := do
  let b ← R.types[c]?
  return { R with types := R.types.set c { b with methods := b.methods.insert source target } }

end Registry

end TypeProjection
