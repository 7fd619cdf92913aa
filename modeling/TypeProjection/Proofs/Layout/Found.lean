import TypeProjection.Layout.Unfolding
import TypeProjection.Proofs.Layout.LeastClass
import TypeProjection.Proofs.Layout.Noted

/-!
# Proofs.Layout.Found — what is found blittable

A struct is found blittable exactly if its layout unfolds into pointers and primitives, where the
arguments that the applied structs embed count as part of the layout.

* `fieldDerivable_of_counted`      : a field that is flat as counted has a reason to be blittable;
* `countedFlat_of_derivable`       : a field with a reason is flat as counted;
* `Registry.classOf_blittable_iff` : structs that are flat as counted, and no others, are blittable;
* `Registry.classOf_ne_of_wrapped` : a flat layout alone does not suffice.

A reason for a field speaks of its open type, and the unfolding of the type with the arguments put
in. So both inductions go on to all open types that become the same.
-/

namespace TypeProjection

open Source (Catalog Signature TypeDecl TypeId)

/-! ## Well-scoped catalogs -/

namespace Source.Catalog

theorem declares_of_wellFormed {C : Catalog} {inScope : Owner → Nat → Bool} {s : Signature}
    (wellFormed : C.wellFormed inScope s) : C.declares s := by
  induction s with
  | named t =>
      rw [Catalog.wellFormed, Option.any_eq_true] at wellFormed
      rcases wellFormed with ⟨d, declared, -⟩
      simp [declares, declared]
  | unresolved name => rfl
  | array element rank ih => exact ih wellFormed
  | byRef target ih => exact ih wellFormed
  | pointer target ih => exact ih wellFormed
  | inst generic args ih =>
      rw [Catalog.wellFormed, Bool.and_eq_true, Option.any_eq_true, allWellFormed_iff] at wellFormed
      rcases wellFormed with ⟨⟨d, declared, -⟩, each⟩
      have all : C.declaresAll args := declaresAll_iff.2 fun arg mem => ih arg mem (each arg mem)
      simp [declares, declared, all]
  | param owner position => rfl

theorem WellScoped.fieldsDeclared {C : Catalog} (wellScoped : C.WellScoped) : C.FieldsDeclared :=
  fun t d declared field mem => declares_of_wellFormed (wellScoped t d declared field mem)

end Source.Catalog

/-! ## Bound structs -/

namespace Registry

/-- The binding of a source type is no stand-in, and the shape of the type is established: it has a
known base or the name of a primitive. -/
def PlainlyBound (R : Registry) (t : TypeId) : Prop :=
  ∃ c ∈ R.binding? t, ∃ b ∈ R.types[c]?, b.standIn = false ∧
    ∃ d ∈ R.source.types[t]?, d.hasKnownBase ∨ Corlib.isPrimitive d.fullName

instance (R : Registry) (t : TypeId) : Decidable (R.PlainlyBound t) := by
  unfold PlainlyBound
  infer_instance

end Registry

namespace Layout

variable {R : Registry} {c : TypeBindingId} {t : TypeId} {d : TypeDecl} {s whole : Signature}

/-! ## Flat fields have reasons -/

/-- A plainly bound struct has a reason to be blittable, if its fields have reasons or are not
looked at. -/
theorem bindingDerivable_of_plainlyBound (coherent : R.Coherent) (plainly : R.PlainlyBound t)
    (declared : R.source.types[t]? = some d) (isStruct : d.form = .structType)
    (reasons : Corlib.isPrimitive d.fullName = false →
      ∀ field ∈ d.instanceFields, FieldDerivable R ∅ field.type) :
    ∃ c k, R.binding? t = some c ∧ BindingDerivable R ∅ c k ∧
      (d.params.isEmpty → k = .blittable) := by
  rcases plainly with ⟨c, bound, b, found, plain, d', declared', shape⟩
  cases declared.symm.trans declared'
  rcases coherent.binding?_source bound with ⟨b', -, found', source, -⟩
  cases found.symm.trans found'
  have undecided : Undecided R ∅ c t d := ⟨⟨b, found, plain, source⟩, by simp, declared⟩
  cases isPrimitive : Corlib.isPrimitive d.fullName with
  | true => exact ⟨c, .blittable, bound, .primitive undecided isStruct isPrimitive, fun _ => rfl⟩
  | false =>
      have knownBase : d.hasKnownBase := shape.resolve_right (by simp [isPrimitive])
      exact ⟨c, _, bound, .fields undecided isStruct isPrimitive knownBase (reasons isPrimitive),
        fun plain => if_pos plain⟩

/-- A field has a reason to be blittable, if it is flat as counted once arguments are put in for the
parameters of some type. -/
theorem fieldDerivable_of_counted (coherent : R.Coherent) (wellScoped : R.source.WellScoped)
    (flat : CountedFlat R.source R.PlainlyBound whole) {generic : TypeId} {args : List Signature}
    {inScope : Source.Owner → Nat → Bool} (put : s.subst generic args = whole)
    (formed : R.source.wellFormed inScope s) : FieldDerivable R ∅ s := by
  induction flat generalizing s generic args inScope with
  | pointer target =>
      cases s with
      | param owner position => exact .param owner position
      | pointer target => exact .pointer target
      | _ => cases put
  | @named t d declared isStruct plainly _ ih =>
      cases s with
      | param owner position => exact .param owner position
      | named t' =>
          cases put
          have reasons (notPrimitive : Corlib.isPrimitive d.fullName = false) :
              ∀ field ∈ d.instanceFields, FieldDerivable R ∅ field.type := by
            intro field mem
            have put : field.type.subst t [] = field.type := Signature.subst_nil t field.type
            exact ih notPrimitive field mem put (wellScoped.instanceField declared mem)
          rcases bindingDerivable_of_plainlyBound coherent plainly declared isStruct reasons with
            ⟨c, k, bound, reason, isPlain⟩
          have notGeneric : d.params.isEmpty := by
            simpa [Catalog.wellFormed, declared] using formed
          exact .named declared isStruct bound (isPlain notGeneric ▸ reason)
      | _ => cases put
  | @inst t d outer declared isStruct plainly _ _ ih ihCounted =>
      cases s with
      | param owner position => exact .param owner position
      | inst t' inner =>
          have put : Signature.inst t' (inner.map (Signature.subst generic args)) =
              .inst t outer := by
            rwa [Signature.subst, Signature.substAll_eq_map] at put
          cases put
          rcases bindingDerivable_of_plainlyBound coherent plainly declared isStruct
            (fun notPrimitive field mem =>
              ih notPrimitive field mem rfl (wellScoped.instanceField declared mem)) with
            ⟨c, k, bound, reason, -⟩
          -- The arguments that the classifier looks at are those that count.
          refine .inst declared bound reason fun position arg found embedded => ?_
          have foundPut : (inner.map (Signature.subst generic args))[position]? =
              some (arg.subst generic args) := by
            rw [List.getElem?_map, found, Option.map_some]
          have argFormed : R.source.wellFormed inScope arg :=
            (Catalog.wellFormed_inst formed declared).2 arg (List.mem_of_getElem? found)
          exact ihCounted position _ foundPut embedded rfl argFormed
      | _ => cases put

/-! ## Fields with reasons are flat -/

/-- What is said of declarations with a blittable class: they are structs whose shape is known, and
whose fields are flat where they are looked at. -/
def HasCountedFields (R : Registry) : ClassProperty := fun _ _ d _ =>
  d.form = .structType ∧ (d.hasKnownBase ∨ Corlib.isPrimitive d.fullName) ∧
    (Corlib.isPrimitive d.fullName = false →
      ∀ field ∈ d.instanceFields,
        R.source.HoldsWhereFilled (CountedFlat R.source R.PlainlyBound) field.type)

theorem SourceHas.plainlyBound {k : LayoutClass} (coherent : R.Coherent)
    (has : SourceHas R (HasCountedFields R) c k) (bound : R.binding? t = some c) :
    R.PlainlyBound t := by
  rcases has with ⟨b, t', d, found, plain, source, declared, -, shape, -⟩
  rcases coherent.binding?_source bound with ⟨b', -, found', source', -⟩
  cases found.symm.trans found'
  cases source.symm.trans source'
  exact ⟨c, bound, b, found, plain, d, declared, shape⟩

/-- With flat arguments put in, a field with a reason is flat as counted. -/
theorem countedFlat_of_derivable (coherent : R.Coherent) (wellScoped : R.source.WellScoped) :
    (∀ {s}, FieldDerivable R ∅ s →
      R.source.HoldsWhereFilled (CountedFlat R.source R.PlainlyBound) s) ∧
    (∀ {c k}, BindingDerivable R ∅ c k → SourceHas R (HasCountedFields R) c k) := by
  apply derivable_induct
  case param => exact fun owner position => .param owner position
  case pointer =>
    intro target generic d args _ _ _
    exact .pointer _
  case named =>
    intro t d c declared isStruct bound has
    obtain ⟨-, -, fields⟩ := has.of_found coherent bound declared
    refine .named declared fun noParams => ?_
    refine .named declared isStruct (has.plainlyBound coherent bound) ?_
    intro notPrimitive field mem
    exact (fields notPrimitive field mem).instanceField_of_noParams wellScoped declared mem noParams
  case inst =>
    intro t inner d c k declared bound has ih
    obtain ⟨isStruct, -, fields⟩ := has.of_found coherent bound declared
    refine .inst declared (fun length counted => ?_) ih
    refine .inst declared isStruct (has.plainlyBound coherent bound) ?_ counted
    intro notPrimitive field mem
    exact (fields notPrimitive field mem).instanceField wellScoped declared mem length counted
  case noted =>
    intro c b k _ _ noted _
    simp at noted
  case primitive =>
    intro c t d undecided isStruct isPrimitive
    rcases undecided with ⟨⟨b, bound, plain, source⟩, -, declared⟩
    exact ⟨b, t, d, bound, plain, source, declared, isStruct, .inr isPrimitive,
      fun notPrimitive => by simp [isPrimitive] at notPrimitive⟩
  case fields =>
    intro c t d undecided isStruct _ knownBase ih
    rcases undecided with ⟨⟨b, bound, plain, source⟩, -, declared⟩
    exact ⟨b, t, d, bound, plain, source, declared, isStruct, .inl knownBase, fun _ => ih⟩

/-- A struct without parameters is blittable for a reason, if it has the name of a primitive or its
fields have reasons. -/
theorem bindingDerivable_blittable_iff (undecided : Undecided R ∅ c t d)
    (isStruct : d.form = .structType) (notGeneric : d.params = []) (knownBase : d.hasKnownBase) :
    BindingDerivable R ∅ c .blittable ↔
      Corlib.isPrimitive d.fullName ∨
        ∀ field ∈ d.instanceFields, FieldDerivable R ∅ field.type := by
  have class_iff : BindingDerivable R ∅ c .blittable ↔ DeclHasClass R ∅ d .blittable := by
    rw [← hasClass_iff_of_undecided undecided]
    exact ⟨BindingDerivable.hasClass, fun has => has.derivable rfl⟩
  rw [class_iff]
  by_cases isPrimitive : Corlib.isPrimitive d.fullName
  · simp [DeclHasClass, isStruct, isPrimitive]
  · simp [DeclHasClass, isStruct, isPrimitive, notGeneric, knownBase]

end Layout

namespace Registry

/-- In a registry that is built first and asked then, a plainly bound struct with a known base is
classified as blittable exactly if its fields are flat as counted. -/
theorem classOf_blittable_iff {corlib : String} {source : Catalog} {target : Target.Catalog}
    {rs : List Registration} {R : Registry}
    (built : (start corlib source target).registerAll rs = some R) (wellScoped : source.WellScoped)
    (qs : List Question) {c : TypeBindingId} {b : TypeBinding} {t : TypeId} {d : TypeDecl}
    (bound : R.types[c]? = some b) (plain : b.standIn = false) (sourced : b.source = some t)
    (declared : source.types[t]? = some d) (isStruct : d.form = .structType)
    (notGeneric : d.params = []) (knownBase : d.hasKnownBase) :
    (∃ notes, (R.classOf c).run (R.notesAfter {} qs) = (.ok .blittable, notes)) ↔
      Corlib.isPrimitive d.fullName ∨
        ∀ field ∈ d.instanceFields, Layout.CountedFlat source R.PlainlyBound field.type := by
  have coherent : R.Coherent := coherent_registerAll (.start corlib source target) built
  have sameSource : R.source = source := source_registerAll built
  subst sameSource
  have undecided : Layout.Undecided R ∅ c t d := ⟨⟨b, bound, plain, sourced⟩, by simp, declared⟩
  rcases exists_classOf_of_built built wellScoped.fieldsDeclared qs bound with
    ⟨k, after, answered, has⟩
  have answer_iff : (∃ notes, (R.classOf c).run (R.notesAfter {} qs) = (.ok .blittable, notes)) ↔
      k = .blittable := by
    rw [answered]
    constructor
    · rintro ⟨notes, same⟩
      cases same
      rfl
    · rintro rfl
      exact ⟨_, rfl⟩
  -- A field has a reason exactly if it is flat as counted.
  have field_iff : ∀ field ∈ d.instanceFields,
      (Layout.FieldDerivable R ∅ field.type ↔
        Layout.CountedFlat R.source R.PlainlyBound field.type) := by
    intro field mem
    have formed := wellScoped.instanceField declared mem
    constructor
    · intro reason
      have filled := (Layout.countedFlat_of_derivable coherent wellScoped).1 reason
      exact filled.instanceField_of_noParams wellScoped declared mem notGeneric
    · intro flat
      have put : field.type.subst t [] = field.type := Signature.subst_nil t field.type
      exact Layout.fieldDerivable_of_counted coherent wellScoped flat put formed
  rw [answer_iff, has.eq_iff_derivable rfl,
    Layout.bindingDerivable_blittable_iff undecided isStruct notGeneric knownBase]
  exact or_congr_right (forall₂_congr field_iff)

end Registry

/-! ## A program that hands parameters on -/

namespace Sample

/-- Lists keep what they are applied to behind a pointer, wrappers hand it on to lists, and cells
keep it in their layout. -/
def nestedSource : Catalog where
  assemblies := ⟨#["mscorlib"]⟩
  types := ⟨#[
    { assembly := ⟨0⟩, space := "System", name := "ValueType", form := .classType },
    { assembly := ⟨0⟩, space := "System", name := "Int32", form := .structType },
    { assembly := ⟨0⟩, space := "System", name := "String", form := .classType },
    structOf "List" ["T"] [.pointer (.param (.type ⟨3⟩) 0)],
    structOf "Wrapper" ["T"] [.inst ⟨3⟩ [.param (.type ⟨4⟩) 0]],
    structOf "Holder" [] [.inst ⟨4⟩ [.named ⟨2⟩]],
    structOf "Cell" ["T"] [.param (.type ⟨6⟩) 0],
    structOf "Pair" ["T"] [.inst ⟨6⟩ [.param (.type ⟨7⟩) 0], .inst ⟨3⟩ [.param (.type ⟨7⟩) 0]],
    structOf "Game" [] [.inst ⟨4⟩ [.named ⟨1⟩], .inst ⟨7⟩ [.named ⟨1⟩], .inst ⟨3⟩ [.named ⟨8⟩]]]⟩

def nestedTarget : Target.Catalog where
  modules := ⟨#["Output"]⟩
  types := ⟨(Array.range 9).map fun i =>
    { module := ⟨0⟩, space := "Output", name := "Type" ++ toString i, arity := 0 }⟩

def nestedRegistrations : List Registration :=
  .assembly ⟨0⟩ ⟨0⟩ :: (List.range 9).map fun i => .type ⟨0⟩ (some ⟨i⟩) ⟨i⟩

def nestedRegistry : Registry :=
  ((Registry.start "mscorlib" nestedSource nestedTarget).registerAll nestedRegistrations).getD {}

theorem nestedRegistry_built :
    (Registry.start "mscorlib" nestedSource nestedTarget).registerAll nestedRegistrations =
      some nestedRegistry :=
  rfl

theorem mem_instanceFields_structOf {name : String} {params : List String} {fields : List Signature}
    {field : Source.Field} :
    field ∈ (structOf name params fields).instanceFields ↔
      ∃ s ∈ fields, { name := "field", type := s } = field := by
  have isStatic : ∀ field ∈ (structOf name params fields).fields, (!field.isStatic) = true := by
    intro field mem
    rcases List.mem_map.1 mem with ⟨s, -, rfl⟩
    rfl
  rw [TypeDecl.instanceFields, List.filter_eq_self.2 isStatic]
  exact List.mem_map

/-- An application to one argument is flat as counted, if the fields are with the argument put in,
and the argument is flat as counted where it is embedded. -/
theorem counted_structOf {C : Catalog} {admits : TypeId → Prop} {t : TypeId} {name : String}
    {params : List String} {fields : List Signature}
    (declared : C.types[t]? = some (structOf name params fields)) (admitted : admits t)
    {arg : Signature} (flat : ∀ s ∈ fields, Layout.CountedFlat C admits (s.subst t [arg]))
    (counted : (structOf name params fields).embeds t 0 → Layout.CountedFlat C admits arg) :
    Layout.CountedFlat C admits (.inst t [arg]) := by
  refine .inst declared rfl admitted (fun _ field memField => ?_) fun position arg' found => ?_
  · rcases mem_instanceFields_structOf.1 memField with ⟨s, mem, rfl⟩
    exact flat s mem
  · obtain ⟨rfl, rfl⟩ : position = 0 ∧ arg = arg' := by
      simpa [List.getElem?_singleton] using found
    exact counted

/-- A list keeps its argument behind a pointer, whatever it is. -/
theorem counted_list (s : Signature) :
    Layout.CountedFlat nestedSource nestedRegistry.PlainlyBound (.inst ⟨3⟩ [s]) := by
  refine counted_structOf rfl (by decide +kernel) ?_ fun embedded => by cases embedded
  exact List.forall_mem_singleton.2 (.pointer _)

end Sample

/-- In the sample program, a game is blittable, also after the class of a holder was asked for: its
lists keep their arguments behind pointers, and what else its fields count are numbers. -/
theorem Registry.classOf_blittable_iff_game :
    ∃ notes, (Sample.nestedRegistry.classOf ⟨8⟩).run
      (Sample.nestedRegistry.notesAfter {} [.classOf ⟨5⟩]) = (.ok .blittable, notes) := by
  have number : Layout.CountedFlat Sample.nestedSource Sample.nestedRegistry.PlainlyBound
      (.named ⟨1⟩) :=
    .named rfl rfl (by decide +kernel) fun notPrimitive => by cases notPrimitive
  have wrapper : Layout.CountedFlat Sample.nestedSource Sample.nestedRegistry.PlainlyBound
      (.inst ⟨4⟩ [.named ⟨1⟩]) := by
    refine Sample.counted_structOf rfl (by decide +kernel) ?_ fun _ => number
    exact List.forall_mem_singleton.2 (Sample.counted_list (.named ⟨1⟩))
  have cell : Layout.CountedFlat Sample.nestedSource Sample.nestedRegistry.PlainlyBound
      (.inst ⟨6⟩ [.named ⟨1⟩]) := by
    refine Sample.counted_structOf rfl (by decide +kernel) ?_ fun _ => number
    exact List.forall_mem_singleton.2 number
  have pair : Layout.CountedFlat Sample.nestedSource Sample.nestedRegistry.PlainlyBound
      (.inst ⟨7⟩ [.named ⟨1⟩]) := by
    refine Sample.counted_structOf rfl (by decide +kernel) ?_ fun _ => number
    exact List.forall_mem_cons.2
      ⟨cell, List.forall_mem_singleton.2 (Sample.counted_list (.named ⟨1⟩))⟩
  refine (classOf_blittable_iff Sample.nestedRegistry_built (by decide) [.classOf ⟨5⟩]
    (show Sample.nestedRegistry.types[(⟨8⟩ : TypeBindingId)]? = some _ from rfl) rfl rfl rfl rfl
    rfl rfl).2 (.inr fun field memField => ?_)
  rcases Sample.mem_instanceFields_structOf.1 memField with ⟨s, mem, rfl⟩
  have rest := List.forall_mem_cons.2
    ⟨pair, List.forall_mem_singleton.2 (Sample.counted_list (.named ⟨8⟩))⟩
  exact List.forall_mem_cons.2 ⟨wrapper, rest⟩ s mem

/-- A flat layout does not suffice: a wrapper that hands its parameter on to a list embeds it, and
so the strings count to which no unfolding comes. -/
theorem Registry.classOf_ne_of_wrapped :
    (start "mscorlib" Sample.nestedSource Sample.nestedTarget).registerAll
      Sample.nestedRegistrations =
        some Sample.nestedRegistry ∧
      Sample.nestedSource.WellScoped ∧
      Sample.nestedRegistry.types[(⟨5⟩ : TypeBindingId)]?.map (fun b => (b.standIn, b.source)) =
        some (false, some ⟨5⟩) ∧
      Sample.nestedSource.types[(⟨5⟩ : TypeId)]? =
        some (Sample.structOf "Holder" [] [.inst ⟨4⟩ [.named ⟨2⟩]]) ∧
      Layout.FlatLayout Sample.nestedSource Sample.nestedRegistry.PlainlyBound
        (.inst ⟨4⟩ [.named ⟨2⟩]) ∧
      ((Sample.nestedRegistry.classOf ⟨5⟩).run {}).1 = .ok .nonBlittable := by
  have wrapper : Layout.FlatLayout Sample.nestedSource Sample.nestedRegistry.PlainlyBound
      (.inst ⟨4⟩ [.named ⟨2⟩]) := by
    refine .inst rfl rfl (by decide) (by decide +kernel) fun field memField => ?_
    rcases Sample.mem_instanceFields_structOf.1 memField with ⟨s, mem, rfl⟩
    rcases List.mem_singleton.1 mem with rfl
    exact (Sample.counted_list (.named ⟨2⟩)).flat
  exact ⟨Sample.nestedRegistry_built, by decide, rfl, rfl, wrapper, by decide +kernel⟩

end TypeProjection
