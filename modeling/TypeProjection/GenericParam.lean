/-!
# GenericParam — owners and flags of generic parameters

A generic parameter is named by the declaration that owns it, a type or a method, and its position
there. It carries a word of flags in the encoding that metadata uses; bits without a meaning are
carried along.
-/

namespace TypeProjection

/-- The declaration that owns a generic parameter. -/
inductive ParamOwner (τ μ : Type)
  | type (owner : τ)
  | method (owner : μ)
  deriving DecidableEq, Repr

/-- Variance and special constraints of a generic parameter, one bit each. -/
structure ParamFlags where
  bits : UInt16
  deriving DecidableEq, Repr

namespace ParamFlags

/-! ## Single flags -/

def none : ParamFlags := ⟨0⟩

/-- The parameter is an output, `out T`. -/
def covariant : ParamFlags := ⟨0x01⟩

/-- The parameter is an input, `in T`. -/
def contravariant : ParamFlags := ⟨0x02⟩

/-- Arguments are reference types, `where T : class`. -/
def referenceType : ParamFlags := ⟨0x04⟩

/-- Arguments are value types, `where T : struct`. -/
def valueType : ParamFlags := ⟨0x08⟩

/-- Arguments have a constructor without parameters, `where T : new()`. -/
def defaultConstructor : ParamFlags := ⟨0x10⟩

/-! ## Sets of flags -/

def union (a b : ParamFlags) : ParamFlags := ⟨a.bits ||| b.bits⟩

/-- The flags of the first word that are not set in the second. -/
def diff (a b : ParamFlags) : ParamFlags := ⟨a.bits &&& ~~~b.bits⟩

def meets (a b : ParamFlags) : Bool := a.bits &&& b.bits != 0

def variance : ParamFlags := covariant.union contravariant

/-- All flags that have a meaning. -/
def defined : ParamFlags :=
  ((variance.union referenceType).union valueType).union defaultConstructor

/-! ## Questions and changes -/

def isVariant (flags : ParamFlags) : Bool := flags.meets variance

def isDefined (flags : ParamFlags) : Bool := flags.diff defined == none

/-- The flags that remain when arguments are wrapped references: neither variance nor the value-type
constraint survives. -/
def stripped (flags : ParamFlags) : ParamFlags := flags.diff (valueType.union variance)

end ParamFlags

end TypeProjection
