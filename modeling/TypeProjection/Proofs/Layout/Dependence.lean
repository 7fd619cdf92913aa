import TypeProjection.Layout.Derivation

/-!
# Proofs.Layout.Dependence — which classes a class hangs on

The class of a struct hangs on the classes of the bindings that its fields meet before they come to
a pointer or a parameter. This module shows that a blittable binding never hangs on itself:

* `NeededBy`                       : one binding is met by the fields of another;
* `BindingDerivable.acc`           : below a binding with a reason the relation is well-founded;
* `not_bindingDerivable_of_needed` : a binding that is needed by itself has no reason.

Since every reason is finite, a search that meets a binding again may give up on it for good.
-/

namespace TypeProjection.Layout

open Source (Signature TypeDecl)

variable {R : Registry} {notes : Memo}

/-- A binding whose class a field of this type asks for. -/
inductive FieldNeeds (R : Registry) : Signature → TypeBindingId → Prop
  | named {t : Source.TypeId} {c : TypeBindingId} (bound : R.binding? t = some c) :
      FieldNeeds R (.named t) c
  | head {generic : Source.TypeId} {args : List Signature} {c : TypeBindingId}
      (bound : R.binding? generic = some c) : FieldNeeds R (.inst generic args) c
  | argument {generic : Source.TypeId} {args : List Signature} {d : TypeDecl} {position : Nat}
      {arg : Signature} {c : TypeBindingId} (declared : R.source.types[generic]? = some d)
      (mem : args[position]? = some arg) (embedded : d.embeds generic position)
      (need : FieldNeeds R arg c) : FieldNeeds R (.inst generic args) c

/-- The class of the second binding is open, and its fields ask for the class of the first. -/
inductive NeededBy (R : Registry) (notes : Memo) (c' c : TypeBindingId) : Prop
  | field {t : Source.TypeId} {d : TypeDecl} {field : Source.Field}
      (undecided : Undecided R notes c t d) (isStruct : d.form = .structType)
      (notPrimitive : Corlib.isPrimitive d.fullName = false) (knownBase : d.hasKnownBase)
      (mem : field ∈ d.instanceFields) (need : FieldNeeds R field.type c')

namespace Undecided

theorem unique {c : TypeBindingId} {t t' : Source.TypeId} {d d' : TypeDecl}
    (undecided : Undecided R notes c t d) (other : Undecided R notes c t' d') :
    t = t' ∧ d = d' := by
  rcases undecided with ⟨⟨b, bound, -, source⟩, -, declared⟩
  rcases other with ⟨⟨b', bound', -, source'⟩, -, declared'⟩
  cases bound.symm.trans bound'
  cases source.symm.trans source'
  cases declared.symm.trans declared'
  exact ⟨rfl, rfl⟩

end Undecided

/-! ## Reasons are finite -/

/-- The bindings that a field with a reason asks for, and those with a reason, have nothing but
finite chains below them. -/
theorem derivable_acc :
    (∀ {s}, FieldDerivable R notes s → ∀ c, FieldNeeds R s c → Acc (NeededBy R notes) c) ∧
      (∀ {c k}, BindingDerivable R notes c k → Acc (NeededBy R notes) c) := by
  apply derivable_induct
  case param =>
    intro owner position c need
    cases need
  case pointer =>
    intro target c need
    cases need
  case named =>
    intro t d c declared isStruct bound acc c' need
    cases need with
    | named bound' =>
      cases bound.symm.trans bound'
      exact acc
  case inst =>
    intro generic args d c k declared bound acc accs c' need
    cases need with
    | head bound' =>
      cases bound.symm.trans bound'
      exact acc
    | argument declared' mem embedded need =>
      cases declared.symm.trans declared'
      exact accs _ _ mem embedded c' need
  case noted =>
    intro c b k bound plain noted isBlittable
    -- Nothing is needed by a binding whose class is noted.
    refine ⟨_, fun c' needed => ?_⟩
    rcases needed with ⟨undecided⟩
    simp [undecided.unnoted] at noted
  case primitive =>
    intro c t d undecided isStruct isPrimitive
    -- The fields of a primitive are not looked at.
    refine ⟨_, fun c' needed => ?_⟩
    rcases needed with ⟨undecided', -, notPrimitive⟩
    rcases undecided.unique undecided' with ⟨rfl, rfl⟩
    simp [isPrimitive] at notPrimitive
  case fields =>
    intro c t d undecided isStruct notPrimitive knownBase accs
    refine ⟨_, fun c' needed => ?_⟩
    rcases needed with ⟨undecided', -, -, -, mem, need⟩
    rcases undecided.unique undecided' with ⟨rfl, rfl⟩
    exact accs _ mem c' need

theorem BindingDerivable.acc {c : TypeBindingId} {k : LayoutClass}
    (reason : BindingDerivable R notes c k) :
    Acc (NeededBy R notes) c :=
  derivable_acc.2 reason

/-- A binding that is needed by itself has no reason to be blittable. -/
theorem not_bindingDerivable_of_needed {c : TypeBindingId} {k : LayoutClass}
    (cycle : Relation.TransGen (NeededBy R notes) c c) : ¬ BindingDerivable R notes c k := by
  intro reason
  -- Going round the cycle would be an endless chain below the binding.
  have acc : Acc (Relation.TransGen (NeededBy R notes)) c := reason.acc.transGen
  induction acc with
  | intro c _ ih => exact ih c cycle cycle reason

end TypeProjection.Layout
