import TypeProjection.Projection.Reference
import TypeProjection.Source.Occurrence

/-!
# Projection.Lacking — what a registry lacks for a reference

A reference has no form in the output if the registry lacks something for one of its parts. This
module defines

- `Registry.Lacks`   : what is lacking for a part, by the error that says so;
- `Registry.InRange` : registries without dangling handles.
-/

namespace TypeProjection.Registry

open Source (Signature TypeId TypeDecl)

/-- What the registry lacks for a part of a reference. -/
inductive Lacks (R : Registry) (notes : Ledger) : Signature → LookupError → Prop
  | type {s : Signature} {t : TypeId} {d : TypeDecl} {i : AssemblyBindingId}
      (mentions : s.ownMention R.source = some t) (declared : R.source.types[t]? = some d)
      (listed : R.assemblyBySource[d.assembly]? = some i) (unbound : R.binding? t = none) :
      Lacks R notes s (.unregisteredType d.fullName)
  | assembly {s : Signature} {t : TypeId} {d : TypeDecl} {name : String}
      (mentions : s.ownMention R.source = some t) (declared : R.source.types[t]? = some d)
      (unlisted : R.assemblyBySource[d.assembly]? = none) (unbound : R.binding? t = none)
      (named : R.source.assemblies[d.assembly]? = some name) :
      Lacks R notes s (.unregisteredAssembly name)
  | method {m : Source.MethodId} {position : Nat} {method : Source.MethodDecl} {d : TypeDecl}
      {c : TypeBindingId} {b : TypeBinding} (declared : R.source.methods[m]? = some method)
      (declaring : R.source.types[method.type]? = some d) (bound : R.binding? method.type = some c)
      (found : R.types[c]? = some b) (unknown : b.methods[m]? = none) :
      Lacks R notes (.param (.method m) position) (.unregisteredMethod d.fullName method.name)
  | counterpart {generic : TypeId} {args : List Signature} {d : TypeDecl} {c : TypeBindingId}
      {b : TypeBinding} (declared : R.source.types[generic]? = some d)
      (bound : R.binding? generic = some c)
      (isGeneric : ((R.classOf c).run notes).1 = .ok .genericBlittable)
      (found : R.types[c]? = some b) (alone : b.counterpart = none) :
      Lacks R notes (.inst generic args) (.missingCounterpart d.fullName)
  | corlib {s : Signature} {t : TypeId} {d : TypeDecl} (head : s.head? = some t)
      (declared : R.source.types[t]? = some d)
      (isRoot : d.fullName = Corlib.objectName ∨ d.fullName = Corlib.attributeName)
      (unknown : R.assemblyByName[R.corlib]? = none) : Lacks R notes s (.unknownAssembly R.corlib)
  | root {s : Signature} {t : TypeId} {d : TypeDecl} {i : AssemblyBindingId} {A : AssemblyBinding}
      (head : s.head? = some t) (declared : R.source.types[t]? = some d)
      (isRoot : d.fullName = Corlib.objectName ∨ d.fullName = Corlib.attributeName)
      (known : R.assemblyByName[R.corlib]? = some i) (listed : R.assemblies[i]? = some A)
      (unknown : A.byName[d.fullName]? = none) :
      Lacks R notes s (.unknownTypeName A.name d.fullName)

/-- What the registry lacks for some part of a reference. -/
def LacksWithin (R : Registry) (notes : Ledger) (s : Signature) (e : LookupError) : Prop :=
  ∃ part ∈ s.parts, R.Lacks notes part e

/-- All handles in the catalogs and in the bindings of a registry are in range. -/
structure InRange (R : Registry) : Prop where
  fields : R.source.FieldsDeclared
  assemblies : ∀ (t : TypeId) (d : TypeDecl), R.source.types[t]? = some d →
    d.assembly.index < R.source.assemblies.size
  methods : ∀ (m : Source.MethodId) (d : Source.MethodDecl), R.source.methods[m]? = some d →
    d.type.index < R.source.types.size
  targetOwners : ∀ (m : Target.MethodId) (d : Target.MethodDecl), R.target.methods[m]? = some d →
    d.type.index < R.target.types.size
  targets : ∀ (c : TypeBindingId) (b : TypeBinding), R.types[c]? = some b →
    b.target.index < R.target.types.size
  counterparts : ∀ (c : TypeBindingId) (b : TypeBinding), R.types[c]? = some b →
    ∀ d ∈ b.counterpart, d.index < R.types.size
  targetMethods : ∀ (c : TypeBindingId) (b : TypeBinding), R.types[c]? = some b →
    ∀ m ∈ b.methods.values, m.index < R.target.methods.size

end TypeProjection.Registry
