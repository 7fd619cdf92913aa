import TypeProjection.Handle
import TypeProjection.GenericParam

/-!
# Target.Signature — references to output types

A signature is a reference to a type as it stands in the output. This module defines

- `External`        : types of the two libraries that the output relies on;
- `Signature`       : the references;
- `Signature.head?` : the declared type that a reference is an application of.
-/

namespace TypeProjection.Target

abbrev ModuleId := Handle .module

abbrev TypeId := Handle .targetType

abbrev MethodId := Handle .targetMethod

/-- The declaration that owns a generic parameter of the output. -/
abbrev Owner := ParamOwner TypeId MethodId

/-- The libraries that output modules can refer to. -/
inductive Library
  | corlib
  | support
  deriving DecidableEq, Repr

/-- A type that a library defines. -/
structure External where
  library : Library
  fullName : String
  isValueType : Bool
  deriving DecidableEq, Repr

/-- A reference to an output type. -/
inductive Signature
  | defined (type : TypeId)
  | external (type : External)
  | inst (generic : Signature) (args : List Signature)
  | byRef (target : Signature)
  | pointer (target : Signature)
  | param (owner : Owner) (position : Nat)
  deriving Repr

namespace Signature

/-- Induction over signatures: an application may assume the property for what is applied and for
each of its arguments. -/
@[elab_as_elim, induction_eliminator]
theorem induct {motive : Signature → Prop}
    (defined : ∀ type, motive (.defined type))
    (external : ∀ type, motive (.external type))
    (inst : ∀ generic args, motive generic → (∀ arg ∈ args, motive arg) →
      motive (.inst generic args))
    (byRef : ∀ target, motive target → motive (.byRef target))
    (pointer : ∀ target, motive target → motive (.pointer target))
    (param : ∀ owner position, motive (.param owner position)) (s : Signature) : motive s :=
  @Signature.rec motive (fun args => ∀ arg ∈ args, motive arg)
    defined external inst byRef pointer param
    (fun _ mem => absurd mem List.not_mem_nil)
    (fun _ _ head tail _ mem => (List.mem_cons.1 mem).elim (fun eq => eq ▸ head) (tail _))
    s

/-! ## Equality -/

mutual

def same : Signature → Signature → Bool
  | .defined a, .defined b => a = b
  | .external a, .external b => a = b
  | .inst g as, .inst h bs => same g h && sameAll as bs
  | .byRef a, .byRef b => same a b
  | .pointer a, .pointer b => same a b
  | .param o p, .param q r => o = q && p = r
  | _, _ => false

def sameAll : List Signature → List Signature → Bool
  | [], [] => true
  | a :: as, b :: bs => same a b && sameAll as bs
  | _, _ => false

end

theorem sameAll_iff {as bs : List Signature} (h : ∀ a ∈ as, ∀ b, same a b ↔ a = b) :
    sameAll as bs ↔ as = bs := by
  induction as generalizing bs with
  | nil => cases bs <;> simp [sameAll]
  | cons a as ih =>
      cases bs with
      | nil => simp [sameAll]
      | cons b bs =>
          have tail : sameAll as bs ↔ as = bs := ih fun a mem => h a (List.mem_cons_of_mem _ mem)
          simp [sameAll, h a List.mem_cons_self b, tail]

theorem same_iff (a b : Signature) : same a b ↔ a = b := by
  induction a generalizing b with
  | defined => cases b <;> simp [same]
  | external => cases b <;> simp [same]
  | inst _ _ head args => cases b <;> simp [same, head, sameAll_iff args]
  | byRef _ ih => cases b <;> simp [same, ih]
  | pointer _ ih => cases b <;> simp [same, ih]
  | param => cases b <;> simp [same]

instance : DecidableEq Signature := fun a b => decidable_of_iff _ (same_iff a b)

/-! ## Heads -/

/-- The declared type that a reference names or is an application of. -/
def head? : Signature → Option TypeId
  | .defined t => some t
  | .external _ => none
  | .inst generic _ => generic.head?
  | .byRef _ => none
  | .pointer _ => none
  | .param _ _ => none

end Signature

end TypeProjection.Target
