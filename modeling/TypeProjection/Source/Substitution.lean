import TypeProjection.Source.Catalog

/-!
# Source.Substitution — generic types applied to arguments

A field of a generic type mentions the parameters of the type; what the field is in an application
of the type follows by putting the arguments in their place. This module defines

- `Signature.subst` : arguments for the parameters of one generic type;
- `Catalog.WellFormed` : references that apply every generic type to the right number of arguments;
- `Catalog.WellScoped` : catalogs whose fields are well-formed and mention only parameters of their
  own type, which `Catalog.OwnsFieldParams` says alone;
- `Catalog.HoldsWhereFilled` : properties that a reference has after arguments were put in.
-/

namespace TypeProjection.Source

namespace Signature

/-! ## Arguments for parameters -/

mutual

/-- Put arguments in place of the parameters of `generic`. A parameter without an argument stays. -/
def subst (generic : TypeId) (args : List Signature) : Signature → Signature
  | .named t => .named t
  | .unresolved name => .unresolved name
  | .array element rank => .array (element.subst generic args) rank
  | .byRef target => .byRef (target.subst generic args)
  | .pointer target => .pointer (target.subst generic args)
  | .inst t inner => .inst t (substAll generic args inner)
  | .param owner position =>
      if owner = .type generic then args.getD position (.param owner position)
      else .param owner position

def substAll (generic : TypeId) (args : List Signature) : List Signature → List Signature
  | [] => []
  | s :: rest => s.subst generic args :: substAll generic args rest

end

theorem substAll_eq_map (generic : TypeId) (args inner : List Signature) :
    substAll generic args inner = inner.map (subst generic args) := by
  induction inner with
  | nil => rfl
  | cons s rest ih => simp [substAll, ih]

/-- A parameter of the type becomes its argument. -/
theorem subst_own {generic : TypeId} {args : List Signature} {position : Nat} {arg : Signature}
    (found : args[position]? = some arg) :
    (param (.type generic) position).subst generic args = arg := by
  simp [subst, List.getD_eq_getElem?_getD, found]

theorem subst_nil (generic : TypeId) (s : Signature) : s.subst generic [] = s := by
  induction s with
  | array element rank ih => simp only [subst, ih]
  | byRef target ih => simp only [subst, ih]
  | pointer target ih => simp only [subst, ih]
  | inst t inner ih =>
      rw [subst, substAll_eq_map, List.map_congr_left ih]
      simp
  | _ => simp [subst]

end Signature

namespace Signature

/-! ## Parameters in scope -/

mutual

/-- Whether a reference mentions only parameters that `inScope` admits. -/
def paramsWithin (inScope : Owner → Nat → Bool) : Signature → Bool
  | .named _ => true
  | .unresolved _ => true
  | .array element _ => element.paramsWithin inScope
  | .byRef target => target.paramsWithin inScope
  | .pointer target => target.paramsWithin inScope
  | .inst _ args => allParamsWithin inScope args
  | .param owner position => inScope owner position

def allParamsWithin (inScope : Owner → Nat → Bool) : List Signature → Bool
  | [] => true
  | s :: rest => s.paramsWithin inScope && allParamsWithin inScope rest

end

theorem allParamsWithin_iff {inScope : Owner → Nat → Bool} {args : List Signature} :
    allParamsWithin inScope args ↔ ∀ arg ∈ args, arg.paramsWithin inScope := by
  induction args with
  | nil => simp [allParamsWithin]
  | cons arg args ih => simp [allParamsWithin, ih]

end Signature

namespace Catalog

/-! ## Well-formed references -/

mutual

/-- Whether a reference applies every generic type that it mentions to as many arguments as the type
has parameters, and mentions only parameters that `inScope` admits. -/
def wellFormed (C : Catalog) (inScope : Owner → Nat → Bool) : Signature → Bool
  | .named t => C.types[t]?.any fun d => d.params.isEmpty
  | .unresolved _ => true
  | .array element _ => C.wellFormed inScope element
  | .byRef target => C.wellFormed inScope target
  | .pointer target => C.wellFormed inScope target
  | .inst t args => (C.types[t]?.any fun d => d.params.length = args.length) &&
      C.allWellFormed inScope args
  | .param owner position => inScope owner position

def allWellFormed (C : Catalog) (inScope : Owner → Nat → Bool) : List Signature → Bool
  | [] => true
  | s :: rest => C.wellFormed inScope s && C.allWellFormed inScope rest

end

/-- A reference that mentions no generic parameter and is well-formed. -/
def IsClosed (C : Catalog) (s : Signature) : Prop := C.wellFormed (fun _ _ => false) s

/-- The parameters of a type that its own fields can mention. -/
def ownParams (t : TypeId) (d : TypeDecl) (owner : Owner) (position : Nat) : Bool :=
  owner = .type t && position < d.params.length

/-- Every field mentions only parameters of its own type. -/
def OwnsFieldParams (C : Catalog) : Prop :=
  ∀ (t : TypeId) (d : TypeDecl), C.types[t]? = some d →
    ∀ field ∈ d.fields, field.type.paramsWithin (ownParams t d)

instance (C : Catalog) : Decidable C.OwnsFieldParams := by
  unfold OwnsFieldParams
  infer_instance

/-- Every field mentions only parameters of its own type and is well-formed. -/
def WellScoped (C : Catalog) : Prop :=
  ∀ (t : TypeId) (d : TypeDecl), C.types[t]? = some d →
    ∀ field ∈ d.fields, C.wellFormed (ownParams t d) field.type

instance (C : Catalog) : Decidable C.WellScoped := by
  unfold WellScoped
  infer_instance

theorem allWellFormed_iff {C : Catalog} {inScope : Owner → Nat → Bool} {args : List Signature} :
    C.allWellFormed inScope args ↔ ∀ arg ∈ args, C.wellFormed inScope arg := by
  induction args with
  | nil => simp [allWellFormed]
  | cons arg args ih => simp [allWellFormed, ih]

theorem WellScoped.instanceField {C : Catalog} (wellScoped : C.WellScoped) {t : TypeId}
    {d : TypeDecl} (declared : C.types[t]? = some d) {field : Field}
    (mem : field ∈ d.instanceFields) : C.wellFormed (ownParams t d) field.type :=
  wellScoped t d declared field (List.mem_filter.1 mem).1

/-- The arguments of a well-formed application are well-formed, one for each parameter. -/
theorem wellFormed_inst {C : Catalog} {inScope : Owner → Nat → Bool} {t : TypeId} {d : TypeDecl}
    {args : List Signature} (wellFormed : C.wellFormed inScope (.inst t args))
    (declared : C.types[t]? = some d) :
    args.length = d.params.length ∧ ∀ arg ∈ args, C.wellFormed inScope arg := by
  rw [Catalog.wellFormed, declared, Bool.and_eq_true, allWellFormed_iff] at wellFormed
  exact ⟨(of_decide_eq_true wellFormed.1).symm, wellFormed.2⟩

/-! ## Arguments put in -/

/-- A property holds of a reference wherever arguments are put in for its parameters, if it holds of
those arguments that the reference embeds. -/
def HoldsWhereFilled (C : Catalog) (P : Signature → Prop) (s : Signature) : Prop :=
  ∀ (generic : TypeId) (d : TypeDecl) (args : List Signature),
    C.wellFormed (ownParams generic d) s → args.length = d.params.length →
    (∀ (position : Nat) (arg : Signature), args[position]? = some arg →
      s.embeds generic position → P arg) → P (s.subst generic args)

namespace HoldsWhereFilled

variable {C : Catalog} {P : Signature → Prop} {t : TypeId} {d : TypeDecl}

theorem param (owner : Owner) (position : Nat) : C.HoldsWhereFilled P (.param owner position) := by
  intro generic d args formed length holds
  obtain ⟨rfl, lt⟩ : owner = .type generic ∧ position < d.params.length := by
    simpa [wellFormed, ownParams] using formed
  have found : args[position]? = some args[position] := List.getElem?_eq_getElem (length ▸ lt)
  rw [Signature.subst_own found]
  exact holds position _ found (by simp [Signature.embeds])

theorem named (declared : C.types[t]? = some d) (holds : d.params = [] → P (.named t)) :
    C.HoldsWhereFilled P (.named t) := by
  intro generic _ args formed _ _
  exact holds (by simpa [wellFormed, declared] using formed)

/-- An application embeds what those of its arguments embed that the applied type does. -/
theorem inst {inner : List Signature} (declared : C.types[t]? = some d)
    (holds : ∀ {args : List Signature}, args.length = d.params.length →
      (∀ (position : Nat) (arg : Signature), args[position]? = some arg → d.embeds t position →
        P arg) → P (.inst t args))
    (each : ∀ (position : Nat) (arg : Signature), inner[position]? = some arg →
      d.embeds t position → C.HoldsWhereFilled P arg) :
    C.HoldsWhereFilled P (.inst t inner) := by
  intro generic outer args formed length flat
  rcases wellFormed_inst formed declared with ⟨innerLength, innerFormed⟩
  rw [Signature.subst, Signature.substAll_eq_map]
  refine holds (by simp [innerLength]) fun position arg found embedded => ?_
  rw [List.getElem?_map] at found
  rcases Option.map_eq_some_iff.1 found with ⟨arg', found', rfl⟩
  have mem : arg' ∈ inner := List.mem_of_getElem? found'
  refine each position arg' found' embedded generic outer args (innerFormed arg' mem) length ?_
  intro i outerArg foundOuter embeddedOuter
  exact flat i outerArg foundOuter (Signature.anyEmbeds_iff.2 ⟨arg', mem, embeddedOuter⟩)

section Fields

variable {args : List Signature} {field : Field} (filled : C.HoldsWhereFilled P field.type)
  (wellScoped : C.WellScoped) (declared : C.types[t]? = some d) (mem : field ∈ d.instanceFields)

include filled wellScoped declared mem

/-- A parameter that a field embeds is one that the type embeds. -/
theorem instanceField (length : args.length = d.params.length)
    (holds : ∀ (position : Nat) (arg : Signature), args[position]? = some arg →
      d.embeds t position → P arg) : P (field.type.subst t args) := by
  refine filled t d args (wellScoped.instanceField declared mem) length ?_
  intro position arg found embedded
  exact holds position arg found (List.any_eq_true.2 ⟨field, mem, embedded⟩)

/-- Without parameters nothing is put in. -/
theorem instanceField_of_noParams (noParams : d.params = []) : P field.type := by
  have length : ([] : List Signature).length = d.params.length := by simp [noParams]
  have holds := instanceField filled wellScoped declared mem length (by simp)
  rwa [Signature.subst_nil] at holds

end Fields

end HoldsWhereFilled

end Catalog

end TypeProjection.Source
