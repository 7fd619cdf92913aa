/-!
# Identifier — names made fit for generated declarations

Names in metadata can hold any character. An identifier is a non-empty text of underscores and word
characters that does not start with an ASCII digit. This module defines

- `IsIdentifier` : the texts that are identifiers, for a given set of word characters;
- `toIdentifier` : the identifier made from a name, by replacing and adding underscores only.

The set of word characters is a parameter of both.
-/

namespace TypeProjection.Text

/-- Whether a character can stand in an identifier. -/
def isIdentifierChar (word : Char → Bool) (c : Char) : Bool := c == '_' || word c

/-- Whether a text starts with an ASCII digit. -/
def startsWithDigit : List Char → Bool
  | [] => false
  | c :: _ => c.isDigit

/-- The identifiers over a set of word characters. -/
structure IsIdentifier (word : Char → Bool) (name : String) : Prop where
  nonempty : name ≠ ""
  chars : ∀ c ∈ name.toList, c = '_' ∨ word c
  start : ∀ c ∈ name.toList.head?, ¬ c.isDigit

/-- Characters that cannot stand in an identifier become underscores, and an underscore comes in
front of a leading digit and in place of nothing. -/
def identifierChars (word : Char → Bool) (name : List Char) : List Char :=
  let kept := name.map fun c => if isIdentifierChar word c then c else '_'
  if name.isEmpty || startsWithDigit name then '_' :: kept else kept

def toIdentifier (word : Char → Bool) (name : String) : String :=
  String.ofList (identifierChars word name.toList)

end TypeProjection.Text
