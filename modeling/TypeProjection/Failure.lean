import TypeProjection.Handle

/-!
# Failure — why a look-up has no answer

A reference can lead to something that is not bound to the output: a `LookupError`, with a message
for the reader. A handle can also point outside its table, which is a `Failure` without a message.
-/

namespace TypeProjection

/-- A source reference that does not lead to a binding. -/
inductive LookupError
  /-- The assembly that declares the type is bound, but the type is not. -/
  | unregisteredType (name : String)
  /-- The assembly that declares the type is not bound. -/
  | unregisteredAssembly (name : String)
  /-- No bound assembly has this name. -/
  | unknownAssembly (name : String)
  /-- The assembly has no bound type of this name. -/
  | unknownTypeName (assembly typeName : String)
  /-- The type that declares the method is bound, but the method is not. -/
  | unregisteredMethod (declaringType method : String)
  /-- The type needs a reference-type counterpart and has none. -/
  | missingCounterpart (name : String)
  deriving DecidableEq, Repr

def LookupError.message : LookupError → String
  | .unregisteredType name => s!"no rewrite context registered for original type `{name}`"
  | .unregisteredAssembly name => s!"original assembly `{name}` has no output module"
  | .unknownAssembly name => s!"no assembly named `{name}`"
  | .unknownTypeName assembly typeName => s!"no type named `{typeName}` in assembly `{assembly}`"
  | .unregisteredMethod declaringType method =>
      s!"no rewritten method for `{declaringType}::{method}`"
  | .missingCounterpart name => s!"generic value type `{name}` has no boxed counterpart"

/-- What ends a question without an answer. -/
inductive Failure
  | lookup (error : LookupError)
  /-- A handle points outside its table. -/
  | danglingHandle
  deriving DecidableEq, Repr

instance decidableEqExcept {ε α : Type} [DecidableEq ε] [DecidableEq α] : DecidableEq (Except ε α)
  | .ok a, .ok b => decidable_of_iff (a = b) (by simp)
  | .error e, .error f => decidable_of_iff (e = f) (by simp)
  | .ok _, .error _ | .error _, .ok _ => .isFalse (by simp)

/-- What is said of an answer can be checked on it, and holds if there is none. -/
instance decidableForallOk {ε α : Type} {P : α → Prop} [DecidablePred P] :
    (e : Except ε α) → Decidable (∀ a, e = .ok a → P a)
  | .ok a => decidable_of_iff (P a) (by simp)
  | .error _ => .isTrue (by simp)

/-- What was looked up by handles, if none of them is dangling. -/
def orDangling {α : Type} : Option α → Except Failure α
  | some a => .ok a
  | none => .error .danglingHandle

@[simp]
theorem orDangling_eq_ok_iff {α : Type} {o : Option α} {a : α} :
    orDangling o = .ok a ↔ o = some a := by
  cases o <;> simp [orDangling]

def Table.fetch {κ : Entity} {α : Type} (t : Table κ α) (h : Handle κ) : Except Failure α :=
  orDangling t[h]?

theorem Table.fetch_eq_ok_iff {κ : Entity} {α : Type} {t : Table κ α} {h : Handle κ} {a : α} :
    t.fetch h = .ok a ↔ t[h]? = some a :=
  orDangling_eq_ok_iff

end TypeProjection
