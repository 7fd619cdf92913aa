import TypeProjection.Layout.Classify

/-!
# Layout.Derivation — why a type is blittable

A type is blittable if there is a finite reason for it: each of its fields is, because it is a
parameter or a pointer, or because the type of the field is blittable for a reason of its own. This
module gives these reasons as two inductive relations,

- `FieldDerivable`   : a reason why a field of a given type is blittable;
- `BindingDerivable` : a reason why a binding has a given blittable class;
- `HasClass`         : the class that follows for a binding if only what has a reason is blittable.

A type that holds itself has no finite reason. Where classes were noted before, a reason may end in
them; from empty notes a reason goes down to primitives, pointers and parameters.
-/

namespace TypeProjection.Layout

open Source (Signature TypeDecl)

/-- A binding that is no stand-in and has no class yet: its class follows from its source
declaration. -/
structure Undecided (R : Registry) (notes : Memo) (c : TypeBindingId) (t : Source.TypeId)
    (d : TypeDecl) :
    Prop where
  bound : ∃ b, R.types[c]? = some b ∧ b.standIn = false ∧ b.source = some t
  unnoted : notes[c]? = none
  declared : R.source.types[t]? = some d

mutual

/-- A finite reason why a field of this type lets its struct cross as it is. -/
inductive FieldDerivable (R : Registry) (notes : Memo) : Signature → Prop
  | param (owner : Source.Owner) (position : Nat) : FieldDerivable R notes (.param owner position)
  | pointer (target : Signature) : FieldDerivable R notes (.pointer target)
  | named {t : Source.TypeId} {d : TypeDecl} {c : TypeBindingId}
      (declared : R.source.types[t]? = some d) (isStruct : d.form = .structType)
      (bound : R.binding? t = some c) (reason : BindingDerivable R notes c .blittable) :
      FieldDerivable R notes (.named t)
  | inst {generic : Source.TypeId} {args : List Signature} {d : TypeDecl} {c : TypeBindingId}
      {k : LayoutClass} (declared : R.source.types[generic]? = some d)
      (bound : R.binding? generic = some c) (reason : BindingDerivable R notes c k)
      (reasons : ∀ (position : Nat) (arg : Signature), args[position]? = some arg →
        d.embeds generic position → FieldDerivable R notes arg) :
      FieldDerivable R notes (.inst generic args)

/-- A finite reason why a binding has this class, which is then one of the two blittable ones. -/
inductive BindingDerivable (R : Registry) (notes : Memo) : TypeBindingId → LayoutClass → Prop
  | noted {c : TypeBindingId} {b : TypeBinding} {k : LayoutClass} (bound : R.types[c]? = some b)
      (plain : b.standIn = false) (noted : notes[c]? = some k) (isBlittable : k.isBlittable) :
      BindingDerivable R notes c k
  | primitive {c : TypeBindingId} {t : Source.TypeId} {d : TypeDecl}
      (undecided : Undecided R notes c t d) (isStruct : d.form = .structType)
      (isPrimitive : Corlib.isPrimitive d.fullName) :
      BindingDerivable R notes c .blittable
  | fields {c : TypeBindingId} {t : Source.TypeId} {d : TypeDecl}
      (undecided : Undecided R notes c t d) (isStruct : d.form = .structType)
      (notPrimitive : Corlib.isPrimitive d.fullName = false) (knownBase : d.hasKnownBase)
      (reasons : ∀ field ∈ d.instanceFields, FieldDerivable R notes field.type) :
      BindingDerivable R notes c (if d.params.isEmpty then .blittable else .genericBlittable)

end

theorem derivable_induct {R : Registry} {notes : Memo} {onField : Signature → Prop}
    {onBinding : TypeBindingId → LayoutClass → Prop}
    (param : ∀ owner position, onField (.param owner position))
    (pointer : ∀ target, onField (.pointer target))
    (named : ∀ {t d c}, R.source.types[t]? = some d → d.form = .structType → R.binding? t = some c →
      onBinding c .blittable → onField (.named t))
    (inst : ∀ {generic args d c k}, R.source.types[generic]? = some d →
      R.binding? generic = some c → onBinding c k →
      (∀ (position : Nat) (arg : Signature), args[position]? = some arg →
        d.embeds generic position → onField arg) →
      onField (.inst generic args))
    (noted : ∀ {c b k}, R.types[c]? = some b → b.standIn = false → notes[c]? = some k →
      k.isBlittable → onBinding c k)
    (primitive : ∀ {c t d}, Undecided R notes c t d → d.form = .structType →
      Corlib.isPrimitive d.fullName → onBinding c .blittable)
    (fields : ∀ {c t d}, Undecided R notes c t d → d.form = .structType →
      Corlib.isPrimitive d.fullName = false → d.hasKnownBase →
      (∀ field ∈ d.instanceFields, onField field.type) →
      onBinding c (if d.params.isEmpty then .blittable else .genericBlittable)) :
    (∀ {s}, FieldDerivable R notes s → onField s) ∧
      (∀ {c k}, BindingDerivable R notes c k → onBinding c k) :=
  ⟨@FieldDerivable.rec R notes (fun s _ => onField s) (fun c k _ => onBinding c k) param pointer
      (fun declared isStruct bound _ ih => named declared isStruct bound ih)
      (fun declared bound _ _ head args => inst declared bound head args)
      noted primitive
      (fun undecided isStruct notPrimitive base _ ih =>
        fields undecided isStruct notPrimitive base ih),
    @BindingDerivable.rec R notes (fun s _ => onField s) (fun c k _ => onBinding c k) param pointer
      (fun declared isStruct bound _ ih => named declared isStruct bound ih)
      (fun declared bound _ _ head args => inst declared bound head args)
      noted primitive
      (fun undecided isStruct notPrimitive base _ ih =>
        fields undecided isStruct notPrimitive base ih)⟩

theorem BindingDerivable.isBlittable {R : Registry} {notes : Memo} {c : TypeBindingId}
    {k : LayoutClass} (reason : BindingDerivable R notes c k) : k.isBlittable := by
  cases reason with
  | noted _ _ _ isBlittable => exact isBlittable
  | primitive => rfl
  | fields => split <;> rfl

/-! ## The class that follows -/

/-- The class that follows from a declaration if only what has a reason is blittable. -/
def DeclHasClass (R : Registry) (notes : Memo) (d : TypeDecl) (k : LayoutClass) : Prop :=
  if d.form ≠ .structType then k = .reference
  else if Corlib.isPrimitive d.fullName then k = .blittable
  else if !d.hasKnownBase then k = .reference
  else
    (∀ field ∈ d.instanceFields, FieldDerivable R notes field.type) ∧
        k = (if d.params.isEmpty then .blittable else .genericBlittable) ∨
      (¬ ∀ field ∈ d.instanceFields, FieldDerivable R notes field.type) ∧ k = .nonBlittable

/-- The class of a binding: `reference` for stand-ins, else what is noted for it, else what follows
from its source declaration. -/
def HasClass (R : Registry) (notes : Memo) (c : TypeBindingId) (k : LayoutClass) : Prop :=
  ∃ b, R.types[c]? = some b ∧
    if b.standIn then k = .reference
    else
      match notes[c]? with
      | some noted => k = noted
      | none =>
          match b.source with
          | none => k = .reference
          | some t => ∃ d, R.source.types[t]? = some d ∧ DeclHasClass R notes d k

end TypeProjection.Layout
