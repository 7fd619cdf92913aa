/-!
# RangeTable — sets of characters given by ranges of code points

A property of characters is written down as the code points at which it starts or ends to hold, in
ascending order: it holds from the first to just before the second, from the third to just before
the fourth, and so on.
-/

namespace TypeProjection.Text

/-- The turning points of a property of code points, in ascending order. -/
structure RangeTable where
  turns : List Nat
  deriving Repr

namespace RangeTable

/-- Whether the property holds at code point `n`, if `turns` are the turning points that follow a
stretch where it does not hold. -/
def holdsAfter (n : Nat) : (turns : List Nat) → Bool
  | [] => false
  | turn :: turns => if n < turn then false else !holdsAfter n turns

def holds (t : RangeTable) (c : Char) : Bool := holdsAfter c.toNat t.turns

/-- Whether each number is below the one that follows it. -/
def isAscending : List Nat → Bool
  | [] => true
  | [_] => true
  | a :: b :: rest => a < b && isAscending (b :: rest)

/-- Before the first turning point the property does not hold. -/
theorem holdsAfter_of_lt {n turn : Nat} (turns : List Nat) (h : n < turn) :
    holdsAfter n (turn :: turns) = false := by
  simp [holdsAfter, h]

/-- From a turning point on the property is the opposite of what it is after the remaining ones. -/
theorem holdsAfter_of_le {n turn : Nat} (turns : List Nat) (h : turn ≤ n) :
    holdsAfter n (turn :: turns) = !holdsAfter n turns := by
  simp [holdsAfter, Nat.not_lt.2 h]

end RangeTable

end TypeProjection.Text
