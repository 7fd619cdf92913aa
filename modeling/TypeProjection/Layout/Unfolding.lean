import TypeProjection.Corlib
import TypeProjection.Source.Substitution

/-!
# Layout.Unfolding — layouts without references

Replacing a struct by its fields, and an application of a generic struct by its fields with the
arguments put in, again and again, unfolds a reference into the layout of its values. The unfolding
stops at pointers and at structs with the name of a primitive. This module defines

- `FlatLayout` : references for which the unfolding comes to an end everywhere and meets nothing
  else;
- `CountedFlat` : the same where also the arguments count that the applied structs embed.
-/

namespace TypeProjection.Layout

open Source (Catalog Signature TypeDecl TypeId)

/-- The unfolding of a reference is finite, ends in pointers and primitives only, and meets only
structs that `admits` holds of. -/
inductive FlatLayout (C : Catalog) (admits : TypeId → Prop) : Signature → Prop
  | pointer (target : Signature) : FlatLayout C admits (.pointer target)
  | primitive {t : TypeId} {d : TypeDecl} (declared : C.types[t]? = some d)
      (isStruct : d.form = .structType) (isPrimitive : Corlib.isPrimitive d.fullName)
      (admitted : admits t) : FlatLayout C admits (.named t)
  | primitiveInst {t : TypeId} {d : TypeDecl} {args : List Signature}
      (declared : C.types[t]? = some d) (isStruct : d.form = .structType)
      (isPrimitive : Corlib.isPrimitive d.fullName) (admitted : admits t) :
      FlatLayout C admits (.inst t args)
  | named {t : TypeId} {d : TypeDecl} (declared : C.types[t]? = some d)
      (isStruct : d.form = .structType) (notPrimitive : Corlib.isPrimitive d.fullName = false)
      (admitted : admits t) (fields : ∀ field ∈ d.instanceFields, FlatLayout C admits field.type) :
      FlatLayout C admits (.named t)
  | inst {t : TypeId} {d : TypeDecl} {args : List Signature} (declared : C.types[t]? = some d)
      (isStruct : d.form = .structType) (notPrimitive : Corlib.isPrimitive d.fullName = false)
      (admitted : admits t)
      (fields : ∀ field ∈ d.instanceFields, FlatLayout C admits (field.type.subst t args)) :
      FlatLayout C admits (.inst t args)

/-! ## Arguments that count -/

/-- The unfolding of a reference is as in a flat layout, and so is that of every argument which an
applied struct mentions other than behind a pointer, whether the unfolding comes to it or not. -/
inductive CountedFlat (C : Catalog) (admits : TypeId → Prop) : Signature → Prop
  | pointer (target : Signature) : CountedFlat C admits (.pointer target)
  | named {t : TypeId} {d : TypeDecl} (declared : C.types[t]? = some d)
      (isStruct : d.form = .structType) (admitted : admits t)
      (fields : Corlib.isPrimitive d.fullName = false →
        ∀ field ∈ d.instanceFields, CountedFlat C admits field.type) :
      CountedFlat C admits (.named t)
  | inst {t : TypeId} {d : TypeDecl} {args : List Signature} (declared : C.types[t]? = some d)
      (isStruct : d.form = .structType) (admitted : admits t)
      (fields : Corlib.isPrimitive d.fullName = false →
        ∀ field ∈ d.instanceFields, CountedFlat C admits (field.type.subst t args))
      (counted : ∀ (position : Nat) (arg : Signature), args[position]? = some arg →
        d.embeds t position → CountedFlat C admits arg) :
      CountedFlat C admits (.inst t args)

/-- Counting more arguments only asks for more. -/
theorem CountedFlat.flat {C : Catalog} {admits : TypeId → Prop} {s : Signature}
    (counted : CountedFlat C admits s) : FlatLayout C admits s := by
  induction counted with
  | pointer target => exact .pointer target
  | @named t d declared isStruct admitted _ ih =>
      cases isPrimitive : Corlib.isPrimitive d.fullName with
      | true => exact .primitive declared isStruct isPrimitive admitted
      | false => exact .named declared isStruct isPrimitive admitted (ih isPrimitive)
  | @inst t d args declared isStruct admitted _ _ ih _ =>
      cases isPrimitive : Corlib.isPrimitive d.fullName with
      | true => exact .primitiveInst declared isStruct isPrimitive admitted
      | false => exact .inst declared isStruct isPrimitive admitted (ih isPrimitive)

end TypeProjection.Layout
