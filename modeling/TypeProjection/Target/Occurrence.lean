import TypeProjection.Target.Catalog

/-!
# Target.Occurrence — what an output signature is made of

A signature is made of smaller ones. This module defines

- `Signature.parts` : all signatures within a signature, itself included;
- `Signature.mentioned` : the declared types that a signature mentions, also as owners of
  parameters;
- `Catalog.isUnmanaged` : whether the values of a signature hold no references;
- `Catalog.HonorsMarks` : signatures that give unmanaged arguments to all parameters that are marked
  so.
-/

namespace TypeProjection.Target

namespace Signature

/-! ## Parts -/

mutual

/-- All signatures within a signature, itself first. -/
def parts : Signature → List Signature
  | .defined t => [.defined t]
  | .external e => [.external e]
  | .inst generic args => .inst generic args :: (generic.parts ++ partsOfAll args)
  | .byRef target => .byRef target :: target.parts
  | .pointer target => .pointer target :: target.parts
  | .param owner position => [.param owner position]

def partsOfAll : List Signature → List Signature
  | [] => []
  | s :: rest => s.parts ++ partsOfAll rest

end

theorem partsOfAll_eq_flatMap (args : List Signature) : partsOfAll args = args.flatMap parts := by
  induction args with
  | nil => rfl
  | cons s rest ih => simp [partsOfAll, ih]

theorem mem_parts_inst {generic part : Signature} {args : List Signature} :
    part ∈ (inst generic args).parts ↔
      part = .inst generic args ∨ part ∈ generic.parts ∨ ∃ arg ∈ args, part ∈ arg.parts := by
  rw [parts, List.mem_cons, List.mem_append, partsOfAll_eq_flatMap, List.mem_flatMap]

/-- The declared type that a signature itself mentions, apart from the signatures within it: the
type that it is, or the one that owns the parameter that it is. -/
def ownMention (C : Catalog) : Signature → Option TypeId
  | .defined t => some t
  | .param (.type t) _ => some t
  | .param (.method m) _ => C.methods[m]?.map (·.type)
  | _ => none

/-- The declared types that a signature mentions. -/
def mentioned (C : Catalog) (s : Signature) : List TypeId := s.parts.filterMap (ownMention C)

def libraries (s : Signature) : List Library :=
  s.parts.filterMap fun
    | .external e => some e.library
    | _ => none

end Signature

namespace Catalog

/-- Whether a signature is unmanaged in the output: a value type, a pointer, or a generic parameter
that is marked so. -/
def isUnmanaged (C : Catalog) : Signature → Bool
  | .defined t => C.isValueType (.defined t) = some true
  | .external e => e.isValueType
  | .inst generic args => C.isValueType (.inst generic args) = some true
  | .byRef _ => false
  | .pointer _ => true
  | .param owner position => C.isMarked owner position = some true

theorem isUnmanaged_of_isValueType {C : Catalog} {s : Signature}
    (isValueType : C.isValueType s = some true) :
    C.isUnmanaged s := by
  cases s with
  | defined t => simpa [isUnmanaged] using isValueType
  | inst generic args => simpa [isUnmanaged] using isValueType
  | external e => simpa [isUnmanaged, Catalog.isValueType] using isValueType
  | _ => simp [Catalog.isValueType] at isValueType

/-! ## Marks -/

/-- Wherever a declared type is applied within a signature, the parameters that are marked unmanaged
get unmanaged arguments. -/
def HonorsMarks (C : Catalog) (s : Signature) : Prop :=
  ∀ (generic : Signature) (args : List Signature) (t : TypeId), .inst generic args ∈ s.parts →
    generic.head? = some t → ∀ (position : Nat) (arg : Signature), args[position]? = some arg →
      C.isMarked (.type t) position = some true → C.isUnmanaged arg

namespace HonorsMarks

variable {C : Catalog}

theorem defined (t : TypeId) : C.HonorsMarks (.defined t) := by
  intro generic args t' mem
  simp [Signature.parts] at mem

theorem external (e : External) : C.HonorsMarks (.external e) := by
  intro generic args t mem
  simp [Signature.parts] at mem

theorem param (owner : Owner) (position : Nat) : C.HonorsMarks (.param owner position) := by
  intro generic args t mem
  simp [Signature.parts] at mem

theorem byRef {s : Signature} (honors : C.HonorsMarks s) : C.HonorsMarks (.byRef s) := by
  intro generic args t mem
  exact honors generic args t (by simpa [Signature.parts] using mem)

theorem pointer {s : Signature} (honors : C.HonorsMarks s) : C.HonorsMarks (.pointer s) := by
  intro generic args t mem
  exact honors generic args t (by simpa [Signature.parts] using mem)

theorem inst {generic : Signature} {args : List Signature} (head : C.HonorsMarks generic)
    (honors : ∀ arg ∈ args, C.HonorsMarks arg)
    (here : ∀ t, generic.head? = some t → ∀ (position : Nat) (arg : Signature),
      args[position]? = some arg → C.isMarked (.type t) position = some true → C.isUnmanaged arg) :
    C.HonorsMarks (.inst generic args) := by
  intro generic' args' t mem
  rcases Signature.mem_parts_inst.1 mem with eq | mem | ⟨arg, memArg, mem⟩
  · cases eq
    exact here t
  · exact head generic' args' t mem
  · exact honors arg memArg generic' args' t mem

end HonorsMarks

end Catalog

end TypeProjection.Target
