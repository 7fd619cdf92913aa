import TypeProjection.Layout.Class
import TypeProjection.Registry.Basic

/-!
# Layout.Classify — the layout class of a bound type

The class of a binding follows from the fields of its source type, and these from the classes of the
types they mention. This module defines

- `Memo`, `Classifier` : the classes found so far, and questions that read and extend them;
- `fieldBlittable`     : whether a field of a given type crosses the boundary as it is;
- `classify`           : the class of a binding.

A type that holds itself has no finite layout. The bindings whose fields are being looked at are
handed down as `active`; meeting one of them again gives `nonBlittable` for the moment, which is not
noted. Each step down makes `active` longer by a binding that was not in it, so the search ends.
-/

namespace TypeProjection.Layout

open Source (Signature TypeDecl)

/-- The classes found so far. -/
abbrev Memo := Std.TreeMap TypeBindingId LayoutClass

/-- A question about layouts: it may note classes, and has no answer if it meets a dangling
handle. -/
abbrev Classifier := StateT Memo Option

def note (c : TypeBindingId) (k : LayoutClass) : Classifier LayoutClass := do
  modify (·.insert c k)
  return k

/-! ## Fields -/

mutual

/-- Whether a field of this type lets its struct cross as it is, where `classOf` answers for
bindings. A generic parameter does: its arguments are looked at where the struct is used. -/
def fieldBlittable (R : Registry) (classOf : TypeBindingId → Classifier LayoutClass) :
    Signature → Classifier Bool
  | .named t => do
      let d ← R.source.types[t]?
      if d.form = .structType then
        match R.binding? t with
        | none => return false
        | some c => return (← classOf c) = .blittable
      else return false
  | .unresolved _ => return false
  | .array _ _ => return false
  | .byRef _ => return false
  | .pointer _ => return true
  | .inst generic args => do
      let d ← R.source.types[generic]?
      match R.binding? generic with
      | none => return false
      | some c =>
          if (← classOf c).isBlittable then argsBlittable R classOf generic d 0 args
          else return false
  | .param _ _ => return true

/-- Whether the arguments from `position` on let the application of a generic type cross as it is.
An argument that the type keeps only behind pointers has no part in its layout. -/
def argsBlittable (R : Registry) (classOf : TypeBindingId → Classifier LayoutClass)
    (generic : Source.TypeId) (d : TypeDecl) : (position : Nat) → List Signature → Classifier Bool
  | _, [] => return true
  | position, arg :: args => do
      -- An argument kept only behind pointers may even be the struct itself.
      if d.embeds generic position then
        if ← fieldBlittable R classOf arg then argsBlittable R classOf generic d (position + 1) args
        else return false
      else argsBlittable R classOf generic d (position + 1) args

end

/-- The class of a type with this declaration, where `classOf` answers for bindings. -/
def ofDecl (R : Registry) (classOf : TypeBindingId → Classifier LayoutClass) (d : TypeDecl) :
    Classifier LayoutClass := do
  if d.form ≠ .structType then return .reference
  else if Corlib.isPrimitive d.fullName then return .blittable
  -- Without a known base the shape of the struct is not established.
  else if !d.hasKnownBase then return .reference
  else if ← d.instanceFields.allM fun field => fieldBlittable R classOf field.type then
    return if d.params.isEmpty then .blittable else .genericBlittable
  else return .nonBlittable

/-! ## Bindings -/

def inactive (R : Registry) (active : List TypeBindingId) : Nat :=
  R.types.handles.countP fun c => c ∉ active

/-- A weaker property that holds of one more member has a greater count. -/
theorem countP_lt_countP {α : Type} {p q : α → Bool} {l : List α} {c : α} (weaker : ∀ x, p x → q x)
    (mem : c ∈ l) (not : p c = false) (holds : q c) : l.countP p < l.countP q := by
  induction l with
  | nil => cases mem
  | cons a l ih =>
      have rest : l.countP p ≤ l.countP q := List.countP_mono_left fun x _ => weaker x
      simp only [List.countP_cons]
      rcases List.mem_cons.1 mem with rfl | mem
      · -- The member counts for `q` only, and the rest of the list no less for `q`.
        simp [not, holds]
        omega
      · have less := ih mem
        have head : (if p a then 1 else 0) ≤ (if q a then 1 else 0 : Nat) := by
          by_cases h : p a <;> simp [h, weaker a]
        omega

/-- Taking up a binding leaves one fewer to take up. -/
theorem inactive_cons_lt {R : Registry} {active : List TypeBindingId} {c : TypeBindingId}
    {b : TypeBinding} (bound : R.types[c]? = some b) (fresh : c ∉ active) :
    inactive R (c :: active) < inactive R active := by
  apply countP_lt_countP (c := c)
  · intro x
    simp only [decide_eq_true_eq, List.mem_cons, not_or]
    exact And.right
  · exact Table.mem_handles.2 (Table.lt_size_of_getElem? bound)
  · simp
  · simpa using fresh

/-- The class of a binding while the fields of the `active` ones are being looked at. -/
def classify (R : Registry) (active : List TypeBindingId) (c : TypeBindingId) :
    Classifier LayoutClass := do
  match _bound : R.types[c]? with
  | none => failure
  | some b =>
      if b.standIn then return .reference
      else
        match (← get)[c]? with
        | some k => return k
        | none =>
            match b.source with
            | none => note c .reference
            | some t =>
                -- A type that holds itself has no finite layout.
                if _fresh : c ∈ active then return .nonBlittable
                else do
                  let d ← R.source.types[t]?
                  let k ← ofDecl R (fun c' => classify R (c :: active) c') d
                  note c k
termination_by inactive R active
decreasing_by exact inactive_cons_lt _bound _fresh

/-! ## What `classify` does, case by case -/

variable {R : Registry} {active : List TypeBindingId} {c : TypeBindingId} {b : TypeBinding}
  {notes : Memo}

theorem classify_unbound (unbound : R.types[c]? = none) :
    (classify R active c).run notes = none := by
  unfold classify
  split
  · rfl
  · simp_all

/-- A stand-in is a reference, whatever its source type is. -/
theorem classify_standIn (bound : R.types[c]? = some b) (standIn : b.standIn) :
    (classify R active c).run notes = some (.reference, notes) := by
  unfold classify
  split
  · simp_all
  · next b' h =>
      cases h.symm.trans bound
      simp [standIn]

theorem classify_noted {k : LayoutClass} (bound : R.types[c]? = some b) (plain : b.standIn = false)
    (noted : notes[c]? = some k) : (classify R active c).run notes = some (k, notes) := by
  unfold classify
  split
  · simp_all
  · next b' h =>
      cases h.symm.trans bound
      simp [plain, noted]

/-- A type that was made up for the output is a reference. -/
theorem classify_unsourced (bound : R.types[c]? = some b) (plain : b.standIn = false)
    (unnoted : notes[c]? = none) (unsourced : b.source = none) :
    (classify R active c).run notes = some (.reference, notes.insert c .reference) := by
  unfold classify
  split
  · simp_all
  · next b' h =>
      cases h.symm.trans bound
      simp [plain, unnoted, unsourced, note]

/-- A binding whose fields are being looked at is not blittable for the moment. -/
theorem classify_active {t : Source.TypeId} (bound : R.types[c]? = some b)
    (plain : b.standIn = false) (unnoted : notes[c]? = none) (sourced : b.source = some t)
    (mem : c ∈ active) :
    (classify R active c).run notes = some (.nonBlittable, notes) := by
  unfold classify
  split
  · simp_all
  · next b' h =>
      cases h.symm.trans bound
      simp [plain, unnoted, sourced, mem]

/-- The class of any other binding follows from the declaration of its source type, and is noted. -/
theorem classify_fresh {t : Source.TypeId} (bound : R.types[c]? = some b)
    (plain : b.standIn = false) (unnoted : notes[c]? = none) (sourced : b.source = some t)
    (fresh : c ∉ active) :
    (classify R active c).run notes =
      (R.source.types[t]?).bind fun d =>
        ((ofDecl R (classify R (c :: active)) d).run notes).map fun (k, found) =>
        (k, found.insert c k) := by
  rw [classify]
  split
  · simp_all
  · next b' h =>
      cases h.symm.trans bound
      cases declared : R.source.types[t]? with
      | none => simp [plain, unnoted, sourced, fresh, declared]
      | some d =>
          simp only [Option.map_eq_bind, Function.comp_def]
          simp [plain, unnoted, sourced, fresh, declared, note]

end TypeProjection.Layout
