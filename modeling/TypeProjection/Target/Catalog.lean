import TypeProjection.Corlib
import TypeProjection.Target.Signature
import TypeProjection.Text.Qualified

/-!
# Target.Catalog — the type system under construction

A catalog holds the modules, types and methods of the output, each in its own table. A type starts
as a skeleton; its generic parameters and its base are filled in later. This module defines

- `TypeDecl`, `MethodDecl` : the declarations and their parts;
- `Catalog`                : the tables, with ways to add to them and to fill in declarations;
- `Edit`                   : the ways in which the tables can change;
- `Catalog.isMarked`       : whether a generic parameter is marked unmanaged;
- `Catalog.isValueType`    : whether a signature denotes a value type;
- `Catalog.display`        : the text of a signature.
-/

namespace TypeProjection.Target

/-! ## Declarations -/

/-- A generic parameter that a type or method of the output declares. -/
structure TypeParam where
  name : String
  flags : ParamFlags := .none
  /-- Arguments have to be unmanaged. -/
  unmanaged : Bool := false
  constraints : List Signature := []
  deriving DecidableEq, Repr

structure TypeDecl where
  module : ModuleId
  space : String
  name : String
  /-- The number of generic parameters that the skeleton announces. -/
  arity : Nat
  params : List TypeParam := []
  base : Option Signature := none
  deriving DecidableEq, Repr

structure MethodDecl where
  type : TypeId
  name : String
  params : List TypeParam := []
  deriving DecidableEq, Repr

/-- Whether a base makes its type a value type: it is the base of all value types or the base of all
enumerations. -/
def Signature.isValueBase : Signature → Bool
  | .external e => e.library = .corlib &&
    (e.fullName = Corlib.valueTypeName || e.fullName = Corlib.enumName)
  | _ => false

namespace TypeDecl

def fullName (d : TypeDecl) : String := Text.qualify d.space d.name

/-- Whether a type is a value type, which only its base decides. -/
def isValueType (d : TypeDecl) : Bool := d.base.any Signature.isValueBase

end TypeDecl

/-! ## The catalog -/

/-- The modules, by name, and the types and methods of the output. -/
structure Catalog where
  modules : Table .module String := ∅
  types : Table .targetType TypeDecl := ∅
  methods : Table .targetMethod MethodDecl := ∅
  deriving Repr

namespace Catalog

def addModule (C : Catalog) (name : String) : ModuleId × Catalog :=
  (C.modules.next, { C with modules := C.modules.push name })

/-- Add the skeleton of a type. -/
def addType (C : Catalog) (d : TypeDecl) : TypeId × Catalog :=
  (C.types.next, { C with types := C.types.push d })

def addMethod (C : Catalog) (m : MethodDecl) : MethodId × Catalog :=
  (C.methods.next, { C with methods := C.methods.push m })

def params (C : Catalog) : Owner → Option (List TypeParam)
  | .type t => C.types[t]?.map (·.params)
  | .method m => C.methods[m]?.map (·.params)

/-- Whether a generic parameter is marked unmanaged; a parameter that is not there is not. -/
def isMarked (C : Catalog) (owner : Owner) (position : Nat) : Option Bool :=
  (C.params owner).map fun params => params[position]?.any (·.unmanaged)

def setParams (C : Catalog) (owner : Owner) (params : List TypeParam) : Option Catalog :=
  match owner with
  | .type t => C.types[t]?.map fun d => { C with types := C.types.set t { d with params } }
  | .method m => C.methods[m]?.map fun d => { C with methods := C.methods.set m { d with params } }

def setBase (C : Catalog) (t : TypeId) (base : Option Signature) : Option Catalog :=
  C.types[t]?.map fun d => { C with types := C.types.set t { d with base } }

/-! ## Changes -/

end Catalog

/-- A change of a catalog. Nothing is ever taken away, but what a declaration says can be
replaced. -/
inductive Edit
  | addModule (name : String)
  | addType (d : TypeDecl)
  | addMethod (m : MethodDecl)
  | setType (t : TypeId) (d : TypeDecl)
  | setMethod (m : MethodId) (d : MethodDecl)
  deriving DecidableEq, Repr

namespace Catalog

/-- The catalog after a change; no result means that the handle of what is replaced is dangling. -/
def edit (C : Catalog) : Edit → Option Catalog
  | .addModule name => some (C.addModule name).2
  | .addType d => some (C.addType d).2
  | .addMethod m => some (C.addMethod m).2
  | .setType t d => C.types[t]?.map fun _ => { C with types := C.types.set t d }
  | .setMethod m d => C.methods[m]?.map fun _ => { C with methods := C.methods.set m d }

/-! ## Modules under changes -/

variable {C C' : Catalog}

theorem modules_setParams {owner : Owner} {params : List TypeParam}
    (set : C.setParams owner params = some C') :
    C'.modules = C.modules := by
  cases owner with
  | type t =>
      rcases Option.map_eq_some_iff.1 set with ⟨d, -, rfl⟩
      rfl
  | method m =>
      rcases Option.map_eq_some_iff.1 set with ⟨d, -, rfl⟩
      rfl

theorem modules_setBase {t : TypeId} {base : Option Signature} (set : C.setBase t base = some C') :
    C'.modules = C.modules := by
  rcases Option.map_eq_some_iff.1 set with ⟨d, -, rfl⟩
  rfl

theorem size_modules_edit {e : Edit} (changed : C.edit e = some C') :
    C.modules.size ≤ C'.modules.size := by
  cases e with
  | addModule name =>
      cases changed
      simp [addModule]
  | addType d =>
      cases changed
      exact Nat.le_refl _
  | addMethod m =>
      cases changed
      exact Nat.le_refl _
  | setType t d =>
      rcases Option.map_eq_some_iff.1 changed with ⟨_, -, rfl⟩
      exact Nat.le_refl _
  | setMethod m d =>
      rcases Option.map_eq_some_iff.1 changed with ⟨_, -, rfl⟩
      exact Nat.le_refl _

/-! ## Value types -/

/-- Whether a signature denotes a value type. -/
def isValueType (C : Catalog) : Signature → Option Bool
  | .defined t => C.types[t]?.map (·.isValueType)
  | .external e => some e.isValueType
  -- The arguments have no say in it.
  | .inst generic _ => C.isValueType generic
  | .byRef _ => some false
  | .pointer _ => some false
  | .param _ _ => some false

/-! ## Text of signatures -/

mutual

def display (C : Catalog) : Signature → Option String
  | .defined t => do
      let d ← C.types[t]?
      return d.fullName
  | .external e => some e.fullName
  | .inst generic args => do
      let text ← C.display generic
      let texts ← C.displayAll args
      return text ++ "<" ++ ", ".intercalate texts ++ ">"
  | .byRef target => do
      let text ← C.display target
      return text ++ "&"
  | .pointer target => do
      let text ← C.display target
      return text ++ "*"
  | .param owner position => do
      let params ← C.params owner
      return match params[position]? with
        | some param => param.name
        | none => "!" ++ toString position

def displayAll (C : Catalog) : List Signature → Option (List String)
  | [] => some []
  | s :: rest => do
      let text ← C.display s
      let texts ← C.displayAll rest
      return text :: texts

end

end Catalog

end TypeProjection.Target
