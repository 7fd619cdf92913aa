import TypeProjection.Corlib
import TypeProjection.Target.Signature

/-!
# Interop — the fixed surface of the output

Every output module relies on the same few library types: the base of wrapped objects and the array
wrappers of the support library, and the bases of value types, `System.Void` and `System.String` of
the base class library. This module defines the references to them.
-/

namespace TypeProjection.Interop

open Target (Signature)

/-- A reference to a type of the support library. -/
def support (fullName : String) : Signature := .external ⟨.support, fullName, false⟩

/-- A reference to a type of the base class library. -/
def corlib (fullName : String) (isValueType : Bool) : Signature :=
  .external ⟨.corlib, fullName, isValueType⟩

/-! ## Support library -/

def objectBaseName : String := "Il2CppInterop.Runtime.InteropTypes.Il2CppObjectBase"

def stringArrayName : String := "Il2CppInterop.Runtime.InteropTypes.Arrays.Il2CppStringArray"

def arrayBaseName : String := "Il2CppInterop.Runtime.InteropTypes.Arrays.Il2CppArrayBase`1"

def structArrayName : String := "Il2CppInterop.Runtime.InteropTypes.Arrays.Il2CppStructArray`1"

def referenceArrayName : String :=
  "Il2CppInterop.Runtime.InteropTypes.Arrays.Il2CppReferenceArray`1"

/-- The base of every wrapped object, and the stand-in for references that have no form in the
output. -/
def objectBase : Signature := support objectBaseName

def stringArray : Signature := support stringArrayName

/-- The generic array for elements that a generic parameter stands for. -/
def arrayBase : Signature := support arrayBaseName

def structArray : Signature := support structArrayName

def referenceArray : Signature := support referenceArrayName

/-! ## Base class library -/

def enumBase : Signature := corlib Corlib.enumName false

def valueTypeBase : Signature := corlib Corlib.valueTypeName false

def void : Signature := corlib Corlib.voidName true

def string : Signature := corlib Corlib.stringName false

end TypeProjection.Interop
