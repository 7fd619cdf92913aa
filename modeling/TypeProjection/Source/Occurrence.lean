import TypeProjection.Source.Catalog

/-!
# Source.Occurrence — what a reference is made of

A reference is made of smaller ones, and mentions the types that it names or applies and those whose
parameters it takes. This module defines

- `Signature.mentioned`  : the list of these types;
- `Signature.parts`      : the references within a reference that have a say in its form;
- `Signature.ownMention` : the type that a part mentions itself;
- `Catalog.covers`       : references whose parts have no dangling handles.
-/

namespace TypeProjection.Source

namespace Signature

/-! ## Mentioned types -/

mutual

/-- The types that a reference mentions, also as owners of parameters. -/
def mentioned : Signature → List TypeId
  | .named t => [t]
  | .unresolved _ => []
  | .array element _ => element.mentioned
  | .byRef target => target.mentioned
  | .pointer target => target.mentioned
  | .inst generic args => generic :: mentionedByAll args
  | .param (.type owner) _ => [owner]
  | .param (.method _) _ => []

def mentionedByAll : List Signature → List TypeId
  | [] => []
  | s :: rest => s.mentioned ++ mentionedByAll rest

end

theorem mem_mentionedByAll {args : List Signature} {t : TypeId} :
    t ∈ mentionedByAll args ↔ ∃ arg ∈ args, t ∈ arg.mentioned := by
  induction args with
  | nil => simp [mentionedByAll]
  | cons arg args ih => simp [mentionedByAll, ih]

/-! ## Parts -/

mutual

/-- The references within a reference, itself first, other than what is in the element of an array
that has not exactly one dimension. -/
def parts : Signature → List Signature
  | .named t => [.named t]
  | .unresolved name => [.unresolved name]
  | .array element rank => .array element rank :: if rank = 1 then element.parts else []
  | .byRef target => .byRef target :: target.parts
  | .pointer target => .pointer target :: target.parts
  | .inst generic args => .inst generic args :: partsOfAll args
  | .param owner position => [.param owner position]

def partsOfAll : List Signature → List Signature
  | [] => []
  | s :: rest => s.parts ++ partsOfAll rest

end

theorem mem_partsOfAll {args : List Signature} {part : Signature} :
    part ∈ partsOfAll args ↔ ∃ arg ∈ args, part ∈ arg.parts := by
  induction args with
  | nil => simp [partsOfAll]
  | cons arg args ih => simp [partsOfAll, ih]

theorem self_mem_parts (s : Signature) : s ∈ s.parts := by
  cases s <;> simp [parts]

theorem parts_arg {generic : TypeId} {args : List Signature} {arg part : Signature}
    (mem : arg ∈ args) (within : part ∈ arg.parts) : part ∈ (inst generic args).parts :=
  List.mem_cons_of_mem _ (mem_partsOfAll.2 ⟨arg, mem, within⟩)

/-- The type that a reference names or applies. -/
def head? : Signature → Option TypeId
  | .named t => some t
  | .inst generic _ => some generic
  | _ => none

/-- The type that a reference mentions itself, apart from the references within it. -/
def ownMention (C : Catalog) : Signature → Option TypeId
  | .param (.type t) _ => some t
  | .param (.method m) _ => C.methods[m]?.map (·.type)
  | s => s.head?

theorem ownMention_of_head {C : Catalog} {s : Signature} {t : TypeId} (head : s.head? = some t) :
    s.ownMention C = some t := by
  cases s <;> simp_all [ownMention, head?]

end Signature

namespace Catalog

/-- Whether the handle in a reference itself is in range, apart from the references within it. -/
def knows (C : Catalog) : Signature → Bool
  | .named t => C.types[t]?.isSome
  | .inst generic _ => C.types[generic]?.isSome
  | .param (.type t) _ => C.types[t]?.isSome
  | .param (.method m) _ => C.methods[m]?.isSome
  | _ => true

/-- Whether no part of a reference has a dangling handle. -/
def covers (C : Catalog) (s : Signature) : Bool := s.parts.all C.knows

theorem knows_of_covers {C : Catalog} {s : Signature} (covered : C.covers s) : C.knows s :=
  List.all_eq_true.1 covered s s.self_mem_parts

theorem covers_of_covers {C : Catalog} {s s' : Signature} (covered : C.covers s)
    (sub : ∀ part ∈ s'.parts, part ∈ s.parts) : C.covers s' :=
  List.all_eq_true.2 fun part mem => List.all_eq_true.1 covered part (sub part mem)

end Catalog

end TypeProjection.Source
