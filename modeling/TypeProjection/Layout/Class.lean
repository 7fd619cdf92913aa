/-!
# Layout.Class — how the values of a type cross the boundary
-/

namespace TypeProjection

/-- How the values of a type cross between the source's and the output's side. -/
inductive LayoutClass
  /-- Wrapped as a reference: everything but structs, and structs whose shape is not known. -/
  | reference
  /-- As they are: a struct all of whose fields cross as they are. -/
  | blittable
  /-- As they are where the type arguments do: a generic struct all of whose fields do. -/
  | genericBlittable
  /-- Wrapped like a reference: a struct with a field that does not cross as it is. -/
  | nonBlittable
  deriving DecidableEq, Repr

namespace LayoutClass

/-- Whether values cross as they are, at least for some type arguments. -/
def isBlittable : LayoutClass → Bool
  | .reference => false
  | .blittable => true
  | .genericBlittable => true
  | .nonBlittable => false

def all : List LayoutClass := [.reference, .blittable, .genericBlittable, .nonBlittable]

theorem mem_all (k : LayoutClass) : k ∈ all := by cases k <;> decide

end LayoutClass

end TypeProjection
