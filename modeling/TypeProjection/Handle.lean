/-!
# Handle — numbered references into tables

Every declaration of a type system is held in a table and named by its position there. This module
defines

- `Handle` : a position, tagged with the kind of thing it names, so that kinds are never mixed up;
- `Table`  : the declarations of one kind, in the order in which they were added.

A handle can point outside its table; looking it up then gives `none`. Handles are ordered by
position, which makes them keys of ordered maps.
-/

namespace TypeProjection

/-- The kinds of things that handles name. -/
inductive Entity
  | sourceAssembly
  | sourceType
  | sourceMethod
  | module
  | targetType
  | targetMethod
  | assemblyBinding
  | typeBinding
  deriving DecidableEq, Repr

/-- The position of a declaration of kind `κ` in the table of that kind. -/
structure Handle (κ : Entity) where
  index : Nat
  deriving DecidableEq, Repr

namespace Handle

variable {κ : Entity}

theorem eq_of_le_of_le {h h' : Handle κ} (le : h.index ≤ h'.index)
    (ge : h'.index ≤ h.index) : h = h' := by
  cases h
  cases h'
  exact congrArg Handle.mk (Nat.le_antisymm le ge)

/-! ## Order -/

instance : Ord (Handle κ) := ⟨compareOn fun h => h.index⟩

instance : Std.TransOrd (Handle κ) :=
  inferInstanceAs (Std.TransCmp (compareOn fun h : Handle κ => h.index))

instance : Std.LawfulEqOrd (Handle κ) where
  eq_of_compare {a b} h := by
    cases a
    cases b
    exact congrArg Handle.mk (Std.LawfulEqOrd.eq_of_compare (α := Nat) h)

end Handle

/-- The declarations of kind `κ`, each named by its position. -/
structure Table (κ : Entity) (α : Type) where
  entries : Array α := #[]
  deriving Repr

namespace Table

variable {κ : Entity} {α : Type}

def size (t : Table κ α) : Nat := t.entries.size

instance : EmptyCollection (Table κ α) := ⟨⟨#[]⟩⟩

instance : GetElem? (Table κ α) (Handle κ) α (fun t h => h.index < t.size) where
  getElem t h valid := t.entries[Fin.mk h.index valid]
  getElem? t h := t.entries[h.index]?

/-- The handle that the next added declaration gets. -/
def next (t : Table κ α) : Handle κ := ⟨t.size⟩

def push (t : Table κ α) (a : α) : Table κ α := ⟨t.entries.push a⟩

/-- Replace the declaration at `h`; a handle outside the table changes nothing. -/
def set (t : Table κ α) (h : Handle κ) (a : α) : Table κ α := ⟨t.entries.setIfInBounds h.index a⟩

/-- All valid handles, in ascending order. -/
def handles (t : Table κ α) : List (Handle κ) := (List.range t.size).map Handle.mk

/-- All declarations with their handles, in the order in which they were added. -/
def toList (t : Table κ α) : List (Handle κ × α) := t.handles.zip t.entries.toList

/-! ## What each operation does to look-ups -/

theorem lt_size_of_getElem? {t : Table κ α} {h : Handle κ} {a : α} (found : t[h]? = some a) :
    h.index < t.size :=
  (Array.getElem?_eq_some_iff.1 found).1

theorem getElem?_eq_none_iff {t : Table κ α} {h : Handle κ} : t[h]? = none ↔ t.size ≤ h.index :=
  Array.getElem?_eq_none_iff

theorem exists_getElem? {t : Table κ α} {h : Handle κ} (valid : h.index < t.size) :
    ∃ a, t[h]? = some a := by
  refine Option.ne_none_iff_exists'.1 fun none => ?_
  exact absurd (getElem?_eq_none_iff.1 none) (Nat.not_le_of_lt valid)

theorem mem_handles {t : Table κ α} {h : Handle κ} : h ∈ t.handles ↔ h.index < t.size := by
  cases h
  simp [handles]

@[simp]
theorem size_empty : (∅ : Table κ α).size = 0 := rfl

@[simp]
theorem size_push (t : Table κ α) (a : α) : (t.push a).size = t.size + 1 := by
  simp [push, size]

@[simp]
theorem size_set (t : Table κ α) (h : Handle κ) (a : α) : (t.set h a).size = t.size := by
  simp [set, size]

theorem getElem?_push (t : Table κ α) (a : α) (h : Handle κ) :
    (t.push a)[h]? = if h = t.next then some a else t[h]? := by
  -- Handles of one kind are the same if their positions are.
  have same : h = t.next ↔ h.index = t.entries.size := by
    cases h
    simp [next, size]
  change (t.entries.push a)[h.index]? = if h = t.next then some a else t.entries[h.index]?
  simp [Array.getElem?_push, same]

/-- Replacing a declaration is seen at its own handle only, and there only if the handle is
valid. -/
theorem getElem?_set (t : Table κ α) (h k : Handle κ) (a : α) :
    (t.set h a)[k]? = if k = h ∧ h.index < t.size then some a else t[k]? := by
  have same : k = h ↔ h.index = k.index := by
    cases h
    cases k
    simp [eq_comm]
  change (t.entries.setIfInBounds h.index a)[k.index]?
    = if k = h ∧ h.index < t.entries.size then some a else t.entries[k.index]?
  rw [Array.getElem?_setIfInBounds]
  by_cases eq : h.index = k.index
  · by_cases lt : h.index < t.entries.size
    · simp [same, eq, eq ▸ lt]
    · simp [same, eq, eq ▸ lt]
  · simp [same, eq]

/-- Tables in which all look-ups find the same are the same. -/
theorem ext {t t' : Table κ α} (same : ∀ h : Handle κ, t[h]? = t'[h]?) : t = t' :=
  congrArg Table.mk (Array.ext_getElem? fun i => same ⟨i⟩)

theorem getElem?_next (t : Table κ α) : t[t.next]? = none := by
  simp [getElem?_eq_none_iff, next]

theorem getElem?_push_eq_some_iff {t : Table κ α} {a b : α} {h : Handle κ} :
    (t.push a)[h]? = some b ↔ t[h]? = some b ∨ h = t.next ∧ a = b := by
  rw [getElem?_push]
  by_cases new : h = t.next
  · simp [new, getElem?_next]
  · simp [new]

theorem getElem?_set_eq_some_iff {t : Table κ α} {h k : Handle κ} {a b old : α}
    (found : t[h]? = some old) :
    (t.set h a)[k]? = some b ↔ k = h ∧ a = b ∨ k ≠ h ∧ t[k]? = some b := by
  rw [getElem?_set]
  by_cases eq : k = h
  · simp [eq, lt_size_of_getElem? found]
  · simp [eq]

theorem exists_push {t : Table κ α} {h : Handle κ} {b : α} {P : α → Prop}
    (old : ∃ a, t[h]? = some a ∧ P a) :
    ∃ a, (t.push b)[h]? = some a ∧ P a := by
  rcases old with ⟨a, found, holds⟩
  exact ⟨a, getElem?_push_eq_some_iff.2 (.inl found), holds⟩

theorem exists_push_next {t : Table κ α} {b : α} {P : α → Prop} (holds : P b) :
    ∃ a, (t.push b)[t.next]? = some a ∧ P a :=
  ⟨b, getElem?_push_eq_some_iff.2 (.inr ⟨rfl, rfl⟩), holds⟩

/-- What is true of a declaration stays so when one is replaced by another of which it is true as
well. -/
theorem exists_set {t : Table κ α} {h k : Handle κ} {a b : α} {P : α → Prop}
    (found : t[h]? = some a) (kept : P a → P b) (old : ∃ a, t[k]? = some a ∧ P a) :
    ∃ a, (t.set h b)[k]? = some a ∧ P a := by
  rcases old with ⟨a', found', holds⟩
  by_cases same : k = h
  · subst same
    cases found.symm.trans found'
    exact ⟨b, (getElem?_set_eq_some_iff found).2 (.inl ⟨rfl, rfl⟩), kept holds⟩
  · exact ⟨a', (getElem?_set_eq_some_iff found).2 (.inr ⟨same, found'⟩), holds⟩

theorem set_set (t : Table κ α) (h : Handle κ) (a b : α) : (t.set h a).set h b = t.set h b := by
  simp [set]

/-- The list of all declarations has exactly what look-ups find. -/
theorem mem_toList {t : Table κ α} {h : Handle κ} {a : α} : (h, a) ∈ t.toList ↔ t[h]? = some a := by
  change (h, a) ∈ ((List.range t.entries.size).map Handle.mk).zip t.entries.toList ↔
    t.entries[h.index]? = some a
  rw [List.mem_iff_getElem?, ← Array.getElem?_toList]
  simp only [List.getElem?_zip_eq_some, List.getElem?_map, Option.map_eq_some_iff]
  constructor
  · rintro ⟨i, ⟨j, range, rfl⟩, entry⟩
    rcases List.getElem?_eq_some_iff.1 range with ⟨_, rfl⟩
    simpa using entry
  · intro entry
    have lt : h.index < t.entries.size := by simpa using (List.getElem?_eq_some_iff.1 entry).1
    exact ⟨h.index, ⟨h.index, by simp [lt], rfl⟩, entry⟩

/-- What is said of all declarations of a table can be checked one by one. -/
instance {P : Handle κ → α → Prop} [∀ h a, Decidable (P h a)] (t : Table κ α) :
    Decidable (∀ (h : Handle κ) (a : α), t[h]? = some a → P h a) :=
  decidable_of_iff (∀ entry ∈ t.toList, P entry.1 entry.2)
    ⟨fun all h a found => all (h, a) (mem_toList.2 found),
      fun all ⟨h, a⟩ mem => all h a (mem_toList.1 mem)⟩

end Table

end TypeProjection
