/-!
# Corlib — types of the base class library that are known by name

Some full names have a meaning of their own wherever they occur. This module defines

- the names themselves;
- `Treatment` and `treatment` : what becomes of a reference to a type of a given full name.
-/

namespace TypeProjection.Corlib

/-! ## Names -/

def voidName : String := "System.Void"

def stringName : String := "System.String"

def objectName : String := "System.Object"

def attributeName : String := "System.Attribute"

/-- The type of references that carry their type. -/
def typedReferenceName : String := "System.TypedReference"

def valueTypeName : String := "System.ValueType"

def enumName : String := "System.Enum"

/-- The numeric and pointer-sized types, whose values have the same form everywhere. -/
def primitives : List String :=
  [ "System.Boolean",
    "System.Char",
    "System.SByte",
    "System.Byte",
    "System.Int16",
    "System.UInt16",
    "System.Int32",
    "System.UInt32",
    "System.Int64",
    "System.UInt64",
    "System.IntPtr",
    "System.UIntPtr",
    "System.Single",
    "System.Double" ]

/-! ## Treatment -/

def isPrimitive (name : String) : Bool := primitives.contains name

/-- Whether references to a type of this full name go to the type of the same name in the output's
base class library. -/
def isVerbatim (name : String) : Bool := isPrimitive name || name == typedReferenceName

/-- What becomes of a reference to a type, by its full name. -/
inductive Treatment
  /-- It goes to the value type of the same name in the output's base class library. -/
  | verbatim
  | void
  | string
  /-- It goes to the target type bound to this name in the source's base class library. -/
  | root
  /-- It goes to the target type bound to the source type. -/
  | bound
  deriving DecidableEq, Repr

def treatment (name : String) : Treatment :=
  if isVerbatim name then .verbatim
  else if name = voidName then .void
  else if name = stringName then .string
  else if name = objectName ∨ name = attributeName then .root
  else .bound

theorem treatment_eq_verbatim {name : String} (primitive : isPrimitive name) :
    treatment name = .verbatim := by
  simp [treatment, isVerbatim, primitive]

/-- Which names lead to the output's `System.Void`. -/
theorem eq_of_treatment_void {name : String} (treated : treatment name = .void) :
    name = voidName := by
  unfold treatment at treated
  split at treated
  · cases treated
  · split at treated
    · assumption
    · split at treated
      · cases treated
      · split at treated <;> cases treated

/-- Which names lead to the output's strings. -/
theorem eq_of_treatment_string {name : String} (treated : treatment name = .string) :
    name = stringName := by
  unfold treatment at treated
  split at treated
  · cases treated
  · split at treated
    · cases treated
    · split at treated
      · assumption
      · split at treated <;> cases treated

/-- Which names lead to a root of the type system. -/
theorem eq_of_treatment_root {name : String} (treated : treatment name = .root) :
    name = objectName ∨ name = attributeName := by
  unfold treatment at treated
  split at treated
  · cases treated
  · split at treated
    · cases treated
    · split at treated
      · cases treated
      · split at treated
        · assumption
        · cases treated

end TypeProjection.Corlib
