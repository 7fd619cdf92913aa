import TypeProjection.Text.Alphanumeric
import TypeProjection.Text.Identifier

/-!
# Proofs.Text.Identifier — making identifiers is a projection

What is made of a name is an identifier whatever the name was, and a name that is one is left alone.
The set of word characters can be any, also one without the ASCII digits.

* `fit`                   : what becomes of a character;
* `identifierChars_cases` : the fitted characters of a name, after an underscore or alone;
* `toIdentifier_projects` : the identifiers are what is made of names, and the names that stay.
-/

namespace TypeProjection.Text

variable {word : Char → Bool} {c : Char} {cs : List Char} {name : String}

/-! ## One character -/

/-- What becomes of a character: itself if it can stand in an identifier, and an underscore
otherwise. -/
def fit (word : Char → Bool) (c : Char) : Char := if isIdentifierChar word c then c else '_'

theorem isIdentifierChar_iff : isIdentifierChar word c ↔ c = '_' ∨ word c := by
  simp [isIdentifierChar]

theorem fit_of_allowed (allowed : c = '_' ∨ word c) : fit word c = c :=
  if_pos (isIdentifierChar_iff.2 allowed)

theorem fit_of_not_allowed (refused : ¬ (c = '_' ∨ word c)) : fit word c = '_' :=
  if_neg fun allowed => refused (isIdentifierChar_iff.1 allowed)

theorem allowed_fit (word : Char → Bool) (c : Char) : fit word c = '_' ∨ word (fit word c) := by
  by_cases allowed : c = '_' ∨ word c
  · rw [fit_of_allowed allowed]
    exact allowed
  · exact .inl (fit_of_not_allowed allowed)

/-- Fitting makes no digits, because an underscore is none. -/
theorem isDigit_of_isDigit_fit (digit : (fit word c).isDigit) : c.isDigit := by
  by_cases allowed : c = '_' ∨ word c
  · rwa [fit_of_allowed allowed] at digit
  · rw [fit_of_not_allowed allowed] at digit
    exact absurd digit (by decide)

/-! ## All characters of a name -/

theorem startsWithDigit_iff : startsWithDigit cs ↔ ∃ c ∈ cs.head?, c.isDigit := by
  cases cs with
  | nil => simp [startsWithDigit]
  | cons c cs => simp [startsWithDigit]

/-- The fitted characters of a name come after an underscore if the name is empty or starts with a
digit, and are all there is otherwise. -/
theorem identifierChars_cases (word : Char → Bool) (cs : List Char) :
    (cs = [] ∨ startsWithDigit cs) ∧ identifierChars word cs = '_' :: cs.map (fit word) ∨
      cs ≠ [] ∧ ¬ startsWithDigit cs ∧ identifierChars word cs = cs.map (fit word) := by
  by_cases marked : cs = [] ∨ startsWithDigit cs
  · have test : (cs.isEmpty || startsWithDigit cs) = true := by simpa using marked
    exact .inl ⟨marked, if_pos test⟩
  · have test : ¬ (cs.isEmpty || startsWithDigit cs) = true := by simpa using marked
    rcases not_or.1 marked with ⟨nonempty, start⟩
    exact .inr ⟨nonempty, start, if_neg test⟩

theorem identifierChars_ne_nil (word : Char → Bool) (cs : List Char) :
    identifierChars word cs ≠ [] := by
  rcases identifierChars_cases word cs with ⟨-, made⟩ | ⟨nonempty, -, made⟩
  · simp [made]
  · simpa [made] using nonempty

theorem allowed_of_mem_identifierChars (mem : c ∈ identifierChars word cs) : c = '_' ∨ word c := by
  have fitted : c ∈ cs.map (fit word) → c = '_' ∨ word c := by
    intro mem
    rcases List.mem_map.1 mem with ⟨d, -, rfl⟩
    exact allowed_fit word d
  rcases identifierChars_cases word cs with ⟨-, made⟩ | ⟨-, -, made⟩
  · rw [made] at mem
    rcases List.mem_cons.1 mem with eq | mem
    · exact .inl eq
    · exact fitted mem
  · exact fitted (made ▸ mem)

theorem not_isDigit_of_mem_head (first : c ∈ (identifierChars word cs).head?) : ¬ c.isDigit := by
  rcases identifierChars_cases word cs with ⟨-, made⟩ | ⟨-, start, made⟩
  · have eq : '_' = c := by simpa [made] using first
    subst eq
    decide
  · intro digit
    have fitted : ∃ d, cs.head? = some d ∧ fit word d = c := by simpa [made] using first
    rcases fitted with ⟨d, head, rfl⟩
    exact start (startsWithDigit_iff.2 ⟨d, head, isDigit_of_isDigit_fit digit⟩)

theorem length_identifierChars_cases (word : Char → Bool) (cs : List Char) :
    (identifierChars word cs).length = cs.length ∨
      (identifierChars word cs).length = cs.length + 1 := by
  rcases identifierChars_cases word cs with ⟨-, made⟩ | ⟨-, -, made⟩
  · exact .inr (by simp [made])
  · exact .inl (by simp [made])

/-! ## Names -/

theorem toList_toIdentifier (word : Char → Bool) (name : String) :
    (toIdentifier word name).toList = identifierChars word name.toList :=
  String.toList_ofList

/-- What is made of a name is an identifier. -/
theorem isIdentifier_toIdentifier (word : Char → Bool) (name : String) :
    IsIdentifier word (toIdentifier word name) where
  nonempty empty := by
    have chars := toList_toIdentifier word name
    rw [empty] at chars
    exact identifierChars_ne_nil word name.toList chars.symm
  chars c mem := by
    rw [toList_toIdentifier] at mem
    exact allowed_of_mem_identifierChars mem
  start c first := by
    rw [toList_toIdentifier] at first
    exact not_isDigit_of_mem_head first

/-- A name that is an identifier is left alone. -/
theorem toIdentifier_of_isIdentifier (fits : IsIdentifier word name) :
    toIdentifier word name = name := by
  apply String.toList_injective
  rcases identifierChars_cases word name.toList with ⟨marked, -⟩ | ⟨-, -, made⟩
  · -- An identifier needs no underscore in front.
    rcases marked with empty | digit
    · exact absurd (String.toList_injective empty) fits.nonempty
    · rcases startsWithDigit_iff.1 digit with ⟨c, first, isDigit⟩
      exact absurd isDigit (fits.start c first)
  · calc (toIdentifier word name).toList
        = name.toList.map (fit word) := by rw [toList_toIdentifier, made]
      _ = name.toList.map id := List.map_congr_left fun c mem => fit_of_allowed (fits.chars c mem)
      _ = name.toList := List.map_id _

/-- Making identifiers is a projection: what is made of a name is an identifier, and exactly the
identifiers stay as they are. -/
theorem toIdentifier_projects (word : Char → Bool) (name : String) :
    IsIdentifier word (toIdentifier word name) ∧
      (toIdentifier word name = name ↔ IsIdentifier word name) ∧
      toIdentifier word (toIdentifier word name) = toIdentifier word name ∧
      ((toIdentifier word name).length = name.length ∨
        (toIdentifier word name).length = name.length + 1) := by
  have made := isIdentifier_toIdentifier word name
  have onlyIdentifiers : toIdentifier word name = name → IsIdentifier word name := by
    intro same
    rwa [same] at made
  have lengths := length_identifierChars_cases word name.toList
  rw [← toList_toIdentifier, String.length_toList, String.length_toList] at lengths
  exact ⟨made, ⟨onlyIdentifiers, toIdentifier_of_isIdentifier⟩,
    toIdentifier_of_isIdentifier made, lengths⟩

example : toIdentifier isAlphanumeric "1<T>" = "_1_T_" := by
  decide +kernel

end TypeProjection.Text
