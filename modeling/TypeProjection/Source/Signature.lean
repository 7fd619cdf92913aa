import TypeProjection.Handle
import TypeProjection.GenericParam

/-!
# Source.Signature — references to source types

A signature is a reference to a type as it stands in a field, a base or a generic argument. This
module defines

- `Signature` : the references;
- `Signature.embeds` : whether a reference keeps a given generic parameter in its own layout, that
  is anywhere but behind a pointer.
-/

namespace TypeProjection.Source

abbrev AssemblyId := Handle .sourceAssembly

abbrev TypeId := Handle .sourceType

abbrev MethodId := Handle .sourceMethod

/-- The declaration that owns a generic parameter of the source. -/
abbrev Owner := ParamOwner TypeId MethodId

/-- A reference to a source type. -/
inductive Signature
  | named (type : TypeId)
  /-- A type whose declaration is not known. -/
  | unresolved (name : String)
  | array (element : Signature) (rank : Nat)
  /-- A managed reference to a variable, `ref T`. -/
  | byRef (target : Signature)
  | pointer (target : Signature)
  | inst (generic : TypeId) (args : List Signature)
  | param (owner : Owner) (position : Nat)
  deriving Repr

namespace Signature

/-- Induction over signatures: an application may assume the property for each of its arguments. -/
@[elab_as_elim, induction_eliminator]
theorem induct {motive : Signature → Prop}
    (named : ∀ type, motive (.named type))
    (unresolved : ∀ name, motive (.unresolved name))
    (array : ∀ element rank, motive element → motive (.array element rank))
    (byRef : ∀ target, motive target → motive (.byRef target))
    (pointer : ∀ target, motive target → motive (.pointer target))
    (inst : ∀ generic args, (∀ arg ∈ args, motive arg) → motive (.inst generic args))
    (param : ∀ owner position, motive (.param owner position)) (s : Signature) : motive s :=
  @Signature.rec motive (fun args => ∀ arg ∈ args, motive arg)
    named unresolved array byRef pointer inst param
    (fun _ mem => absurd mem List.not_mem_nil)
    (fun _ _ head tail _ mem => (List.mem_cons.1 mem).elim (fun eq => eq ▸ head) (tail _))
    s

/-! ## Equality -/

mutual

def same : Signature → Signature → Bool
  | .named a, .named b => a = b
  | .unresolved a, .unresolved b => a = b
  | .array a m, .array b n => m = n && same a b
  | .byRef a, .byRef b => same a b
  | .pointer a, .pointer b => same a b
  | .inst g as, .inst h bs => g = h && sameAll as bs
  | .param o p, .param q r => o = q && p = r
  | _, _ => false

def sameAll : List Signature → List Signature → Bool
  | [], [] => true
  | a :: as, b :: bs => same a b && sameAll as bs
  | _, _ => false

end

theorem sameAll_iff {as bs : List Signature} (h : ∀ a ∈ as, ∀ b, same a b ↔ a = b) :
    sameAll as bs ↔ as = bs := by
  induction as generalizing bs with
  | nil => cases bs <;> simp [sameAll]
  | cons a as ih =>
      cases bs with
      | nil => simp [sameAll]
      | cons b bs =>
          have tail : sameAll as bs ↔ as = bs := ih fun a mem => h a (List.mem_cons_of_mem _ mem)
          simp [sameAll, h a List.mem_cons_self b, tail]

theorem same_iff (a b : Signature) : same a b ↔ a = b := by
  induction a generalizing b with
  | named => cases b <;> simp [same]
  | unresolved => cases b <;> simp [same]
  | array _ _ ih => cases b <;> simp [same, ih, and_comm]
  | byRef _ ih => cases b <;> simp [same, ih]
  | pointer _ ih => cases b <;> simp [same, ih]
  | inst _ _ ih => cases b <;> simp [same, sameAll_iff ih]
  | param => cases b <;> simp [same]

instance : DecidableEq Signature := fun a b => decidable_of_iff _ (same_iff a b)

/-! ## Parameters in a layout -/

mutual

/-- Whether a reference keeps the type parameter `position` of `owner` in its own layout: the
parameter occurs in it other than behind a pointer. -/
def embeds (owner : TypeId) (position : Nat) : Signature → Bool
  | .named _ => false
  | .unresolved _ => false
  | .array element _ => element.embeds owner position
  | .byRef target => target.embeds owner position
  | .pointer _ => false
  | .inst _ args => anyEmbeds owner position args
  | .param o p => o = .type owner && p = position

def anyEmbeds (owner : TypeId) (position : Nat) : List Signature → Bool
  | [] => false
  | arg :: args => arg.embeds owner position || anyEmbeds owner position args

end

theorem anyEmbeds_iff {owner : TypeId} {position : Nat} {args : List Signature} :
    anyEmbeds owner position args ↔ ∃ arg ∈ args, arg.embeds owner position := by
  induction args with
  | nil => simp [anyEmbeds]
  | cons arg args ih => simp [anyEmbeds, ih]

end Signature

end TypeProjection.Source
