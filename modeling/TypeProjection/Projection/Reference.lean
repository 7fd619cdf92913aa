import TypeProjection.Interop
import TypeProjection.Projection.Query

/-!
# Projection.Reference — source references in terms of the output

Every reference to a source type has a form in the output, which this module defines:

- `projectNamed`    : the form of a declared type;
- `projectMethod`   : the output method for a source method;
- `provenUnmanaged` : whether a reference is known to be unmanaged where it is used;
- `project`         : the form of any reference.

A position can ask for the reference form of value types; then `boxed` is true and bindings give way
to their counterparts. An application of a generic value type goes to the counterpart also where its
arguments are not known to be unmanaged.
-/

namespace TypeProjection.Registry

open Source (TypeId MethodId)

/-! ## Declared types, owners and methods -/

/-- The output type of a binding, or of its counterpart if the reference form is asked for and there
is a counterpart. -/
def targetOf (R : Registry) (boxed : Bool) (c : TypeBindingId) : Except Failure Target.TypeId := do
  let b ← R.types.fetch c
  match b.counterpart with
  | some d =>
      if boxed then do
        let standIn ← R.types.fetch d
        return standIn.target
      else return b.target
  | none => return b.target

/-- The form of a declared type in a module. -/
def projectNamed (R : Registry) (into : Target.ModuleId) (boxed : Bool) (t : TypeId) :
    Query Target.Signature := do
  let fullName ← R.fullName t
  match Corlib.treatment fullName with
  | .verbatim => R.target.importExternal into ⟨.corlib, fullName, true⟩
  | .void => return Interop.void
  | .string => return Interop.string
  | .root => do
      -- The roots of the type system are reference types and have no counterpart.
      let target ← R.targetOf false (← R.corlibBinding fullName)
      R.target.importType into target
  | .bound => do
      let target ← R.targetOf boxed (← R.bindingFor t)
      R.target.importType into target

/-- The output method for a source method, with the type that declares it. -/
def projectMethod (R : Registry) (into : Target.ModuleId) (m : MethodId) :
    Query (Target.TypeId × Target.MethodId) := do
  let method ← R.source.methods.fetch m
  let b ← R.types.fetch (← R.bindingFor method.type)
  match b.methods[m]? with
  | some target => R.target.importMethod into target
  | none => do
      let declaringType ← R.fullName method.type
      throw (.lookup (.unregisteredMethod declaringType method.name))

def projectOwner (R : Registry) (into : Target.ModuleId) (boxed : Bool) :
    Source.Owner → Query Target.Owner
  | .type t => do
      let target ← R.targetOf boxed (← R.bindingFor t)
      -- A parameter of a type mentions the type as well.
      let _ ← R.target.importType into target
      return .type target
  | .method m => do
      let (_, target) ← R.projectMethod into m
      return .method target

/-! ## Unmanaged references -/

def isBlittable (R : Registry) (t : TypeId) : Query Bool := do
  let k ← R.classOf (← R.bindingFor t)
  return k.isBlittable

mutual

/-- Whether a reference is known to be unmanaged where it is used. -/
def provenUnmanaged (R : Registry) (into : Target.ModuleId) (boxed : Bool) :
    Source.Signature → Query Bool
  | .named t => R.isBlittable t
  | .unresolved _ => return false
  | .array _ _ => return false
  | .byRef _ => return false
  | .pointer _ => return true
  | .inst generic args => do
      if ← R.allProvenUnmanaged into boxed args then R.isBlittable generic else return false
  | .param owner position => do
      let target ← R.projectOwner into boxed owner
      orDangling (R.target.isMarked target position)

/-- Whether all references are known to be unmanaged; the first that is not ends the search. -/
def allProvenUnmanaged (R : Registry) (into : Target.ModuleId) (boxed : Bool) :
    List Source.Signature → Query Bool
  | [] => return true
  | s :: rest => do
      if ← R.provenUnmanaged into boxed s then
        R.allProvenUnmanaged into boxed rest
      else return false

end

/-! ## References -/

/-- The output type of the counterpart that a generic value type has to have. -/
def counterpartOf (R : Registry) (generic : TypeId) (c : TypeBindingId) :
    Except Failure Target.TypeId := do
  let b ← R.types.fetch c
  match b.counterpart with
  | some d => do
      let standIn ← R.types.fetch d
      return standIn.target
  | none => do
      let fullName ← R.fullName generic
      throw (.lookup (.missingCounterpart fullName))

/-- What an application of a generic type applies in the output. -/
def projectHead (R : Registry) (into : Target.ModuleId) (boxed : Bool) (generic : TypeId)
    (args : List Source.Signature) : Query Target.Signature := do
  let c ← R.bindingFor generic
  if (← R.classOf c) = .genericBlittable then
    if ← R.provenUnmanaged into boxed (.inst generic args) then R.projectNamed into boxed generic
    else do
      -- Some argument may hold references, so the values have to be wrapped.
      let target ← R.counterpartOf generic c
      R.target.importType into target
  else R.projectNamed into boxed generic

def isString (R : Registry) : Source.Signature → Except Failure Bool
  | .named t => do
      let fullName ← R.fullName t
      return fullName = Corlib.stringName
  | _ => return false

/-- The generic array for elements whose source and output forms are given. -/
def arrayFor (R : Registry) (element : Source.Signature) (projected : Target.Signature) :
    Except Failure Target.Signature :=
  match element with
  | .param _ _ => return Interop.arrayBase
  | _ => do
      let isValueType ← orDangling (R.target.isValueType projected)
      return if isValueType then Interop.structArray else Interop.referenceArray

mutual

/-- The form of a reference in a module. -/
def project (R : Registry) (into : Target.ModuleId) (boxed : Bool) :
    Source.Signature → Query Target.Signature
  | .named t => R.projectNamed into boxed t
  | .unresolved _ => return Interop.objectBase
  | .array element rank => do
      -- Only arrays of one dimension have a wrapper; the element of any other is not looked at.
      if rank ≠ 1 then return Interop.objectBase
      else if ← R.isString element then return Interop.stringArray
      else do
        let projected ← R.project into boxed element
        let array ← R.arrayFor element projected
        return .inst array [projected]
  | .byRef target => do
      let projected ← R.project into boxed target
      return .byRef projected
  | .pointer target => do
      let projected ← R.project into boxed target
      return .pointer projected
  | .inst generic args => do
      let projected ← R.projectAll into boxed args
      let head ← R.projectHead into boxed generic args
      return .inst head projected
  | .param owner position => do
      let target ← R.projectOwner into boxed owner
      return .param target position

def projectAll (R : Registry) (into : Target.ModuleId) (boxed : Bool) :
    List Source.Signature → Query (List Target.Signature)
  | [] => return []
  | s :: rest => do
      let projected ← R.project into boxed s
      let others ← R.projectAll into boxed rest
      return projected :: others

end

/-- The form of a reference in a module; one that is absent becomes the base of wrapped objects. -/
def projectOption (R : Registry) (into : Target.ModuleId) (boxed : Bool) :
    Option Source.Signature → Query Target.Signature
  | some s => R.project into boxed s
  | none => return Interop.objectBase

end TypeProjection.Registry
