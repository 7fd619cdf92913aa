import TypeProjection.Source.Signature
import TypeProjection.Text.Qualified

/-!
# Source.Catalog — the type system that is projected

A catalog holds the assemblies, types and methods of the source, each in its own table. This module
defines

- `TypeDecl`, `MethodDecl` : the declarations and their parts;
- `Catalog` : the tables, with ways to add to them and to find a type by its full name;
- `Catalog.FieldsDeclared` : catalogs whose fields mention only declared types;
- `Catalog.display` : the text of a signature.
-/

namespace TypeProjection.Source

/-! ## Declarations -/

/-- What sort of type a declaration introduces. -/
inductive TypeForm
  | classType
  | structType
  | enumType
  | interfaceType
  deriving DecidableEq, Repr

/-- A generic parameter that a type or method declares. -/
structure TypeParam where
  name : String
  flags : ParamFlags := .none
  constraints : List Signature := []
  deriving DecidableEq, Repr

/-- A field of a type; a static field belongs to no instance. -/
structure Field where
  name : String
  type : Signature
  isStatic : Bool := false
  deriving DecidableEq, Repr

structure TypeDecl where
  assembly : AssemblyId
  space : String
  name : String
  form : TypeForm
  base : Option Signature := none
  params : List TypeParam := []
  fields : List Field := []
  methods : List MethodId := []
  deriving DecidableEq, Repr

structure MethodDecl where
  type : TypeId
  name : String
  params : List TypeParam := []
  deriving DecidableEq, Repr

namespace TypeDecl

def fullName (d : TypeDecl) : String := Text.qualify d.space d.name

/-- The fields that every instance of a type holds, in the order of their declaration. -/
def instanceFields (d : TypeDecl) : List Field := d.fields.filter (!·.isStatic)

def hasKnownBase (d : TypeDecl) : Bool :=
  match d.base with
  | none => false
  | some (.unresolved _) => false
  | some _ => true

/-- Whether the instances of the type declared by `d` with handle `t` keep its parameter `position`
in their own layout. -/
def embeds (d : TypeDecl) (t : TypeId) (position : Nat) : Bool :=
  d.instanceFields.any fun field => field.type.embeds t position

end TypeDecl

/-! ## The catalog -/

/-- The assemblies, by name, and the types and methods of the source. -/
structure Catalog where
  assemblies : Table .sourceAssembly String := ∅
  types : Table .sourceType TypeDecl := ∅
  methods : Table .sourceMethod MethodDecl := ∅
  deriving Repr

namespace Catalog

def addAssembly (C : Catalog) (name : String) : AssemblyId × Catalog :=
  (C.assemblies.next, { C with assemblies := C.assemblies.push name })

def addType (C : Catalog) (d : TypeDecl) : TypeId × Catalog :=
  (C.types.next, { C with types := C.types.push d })

/-- Add a method and list it with the type that declares it, if there is such a type. -/
def addMethod (C : Catalog) (m : MethodDecl) : Option (MethodId × Catalog) := do
  let d ← C.types[m.type]?
  let h := C.methods.next
  return (h, { C with
    types := C.types.set m.type { d with methods := d.methods ++ [h] }
    methods := C.methods.push m })

/-- The first type of an assembly with a full name. -/
def findType (C : Catalog) (assembly : AssemblyId) (fullName : String) : Option TypeId :=
  (C.types.toList.find? fun (_, d) => d.assembly = assembly && d.fullName = fullName).map (·.1)

def params (C : Catalog) : Owner → Option (List TypeParam)
  | .type t => C.types[t]?.map (·.params)
  | .method m => C.methods[m]?.map (·.params)

/-! ## Dangling references -/

mutual

/-- Whether all types that a signature names or applies are declared. -/
def declares (C : Catalog) : Signature → Bool
  | .named t => C.types[t]?.isSome
  | .unresolved _ => true
  | .array element _ => C.declares element
  | .byRef target => C.declares target
  | .pointer target => C.declares target
  | .inst generic args => C.types[generic]?.isSome && C.declaresAll args
  | .param _ _ => true

def declaresAll (C : Catalog) : List Signature → Bool
  | [] => true
  | s :: rest => C.declares s && C.declaresAll rest

end

theorem declaresAll_iff {C : Catalog} {args : List Signature} :
    C.declaresAll args ↔ ∀ arg ∈ args, C.declares arg := by
  induction args with
  | nil => simp [declaresAll]
  | cons arg args ih => simp [declaresAll, ih]

/-- No field mentions a type that is not declared. -/
def FieldsDeclared (C : Catalog) : Prop :=
  ∀ (t : TypeId) (d : TypeDecl), C.types[t]? = some d → ∀ field ∈ d.fields, C.declares field.type

instance (C : Catalog) : Decidable C.FieldsDeclared := by
  unfold FieldsDeclared
  infer_instance

/-! ## Text of signatures -/

mutual

/-- The text of a signature, such as `List<System.Int32>[]`. -/
def display (C : Catalog) : Signature → Option String
  | .named t => do
      let d ← C.types[t]?
      return d.fullName
  | .unresolved name => some ("?" ++ name)
  | .array element rank => do
      let text ← C.display element
      return (text ++ "[").pushn ',' (rank - 1) ++ "]"
  | .byRef target => do
      let text ← C.display target
      return text ++ "&"
  | .pointer target => do
      let text ← C.display target
      return text ++ "*"
  | .inst generic args => do
      let d ← C.types[generic]?
      let texts ← C.displayAll args
      return d.fullName ++ "<" ++ ", ".intercalate texts ++ ">"
  | .param owner position => do
      let params ← C.params owner
      return match params[position]? with
        | some param => param.name
        | none => "!" ++ toString position

def displayAll (C : Catalog) : List Signature → Option (List String)
  | [] => some []
  | s :: rest => do
      let text ← C.display s
      let texts ← C.displayAll rest
      return text :: texts

end

end Catalog

end TypeProjection.Source
