import TypeProjection.Proofs.Completion.Shape
import TypeProjection.Proofs.Layout.Noted
import TypeProjection.Target.Occurrence

/-!
# Proofs.Completion.Filled — projecting over shaped output types

Once the output types have their shapes, what the source says about references can be compared with
what the output says about their forms:

* `Source.Catalog.RootsAreNoStructs` : the types whose names are special are what one expects;
* `Filled` : all output types are shaped, and generic value types have stand-ins;
* `Filled.isUnmanaged_of_proven` : what is known to be unmanaged has an unmanaged form;
* `Filled.honorsMarks` : the form of a reference gives unmanaged arguments to marked parameters.
-/

namespace TypeProjection

open Layout (Memo HasClass SourceHas Fits)

/-- The types with the names of strings, objects and attributes are no structs. -/
def Source.Catalog.RootsAreNoStructs (C : Source.Catalog) : Prop :=
  ∀ (t : Source.TypeId) (d : Source.TypeDecl), C.types[t]? = some d → d.form = .structType →
    d.fullName ≠ Corlib.stringName ∧ d.fullName ≠ Corlib.objectName ∧
    d.fullName ≠ Corlib.attributeName

instance (C : Source.Catalog) : Decidable C.RootsAreNoStructs := by
  unfold Source.Catalog.RootsAreNoStructs
  infer_instance

/-- Whether the counterpart of a binding is a stand-in. -/
def Registry.hasStandIn (R : Registry) (b : TypeBinding) : Bool :=
  (b.counterpart.bind fun d => R.types[d]?).any (·.standIn)

theorem Registry.hasStandIn_iff {R : Registry} {b : TypeBinding} :
    R.hasStandIn b ↔ ∃ d standIn, b.counterpart = some d ∧ R.types[d]? = some standIn ∧
      standIn.standIn := by
  simp only [hasStandIn, Option.any_eq_true, Option.bind_eq_some_iff]
  constructor
  · rintro ⟨standIn, ⟨d, counterpart, bound⟩, isStandIn⟩
    exact ⟨d, standIn, counterpart, bound, isStandIn⟩
  · rintro ⟨d, standIn, counterpart, bound, isStandIn⟩
    exact ⟨standIn, ⟨d, counterpart, bound⟩, isStandIn⟩

/-- Every binding that is generically blittable has a stand-in for its counterpart. -/
def Registry.GenericsLinked (R : Registry) (m : Memo) : Prop :=
  ∀ (c : TypeBindingId) (b : TypeBinding), R.types[c]? = some b → HasClass R m c .genericBlittable →
    R.hasStandIn b

/-- A counterpart is a stand-in, or the binding itself. -/
def Registry.CounterpartsStandIn (R : Registry) : Prop :=
  ∀ (c : TypeBindingId) (b : TypeBinding), R.types[c]? = some b →
    b.counterpart = none ∨ b.counterpart = some c ∨ R.hasStandIn b

instance (R : Registry) : Decidable R.CounterpartsStandIn := by
  unfold Registry.CounterpartsStandIn
  infer_instance

namespace Completion

/-- What the shapes of output types are compared against: the bindings are in order, and generic
value types have stand-ins. -/
structure Ready (R : Registry) (m : Memo) : Prop where
  coherent : R.Coherent
  once : R.TargetsBoundOnce
  rootless : R.source.RootsAreNoStructs
  fits : ∀ (c : TypeBindingId) (k : LayoutClass), HasClass R m c k → k.isBlittable →
    SourceHas R Fits c k
  linked : R.GenericsLinked m

theorem Ready.withTarget {R : Registry} {m : Memo} (ready : Ready R m) (target : Target.Catalog) :
    Ready { R with target } m where
  coherent := ready.coherent.withTarget target
  once := ready.once
  rootless := ready.rootless
  fits c k has isBlittable := ready.fits c k (Layout.hasClass_withTarget_iff.1 has) isBlittable
  linked c b bound has := ready.linked c b bound (Layout.hasClass_withTarget_iff.1 has)

/-- All output types are shaped. -/
structure Filled (R : Registry) (m : Memo) : Prop extends Ready R m where
  underway : Underway R m
  shaped : ∀ c, Shaped R m c

namespace Filled

open Source (Signature TypeDecl TypeId)

variable {R : Registry} {m : Memo} {into : Target.ModuleId} {boxed : Bool} {c : TypeBindingId}
  {b : TypeBinding} {k : LayoutClass} {t : TypeId} {d : TypeDecl} {u : Target.TypeId}
  {position : Nat} {s : Signature} {r : Target.Signature}

/-! ## Shapes and classes -/

/-- A blittable binding that is found for a source type says what sort of type that is. -/
theorem fits_of_binding (filled : Filled R m) (bound : R.binding? t = some c)
    (has : HasClass R m c k) (isBlittable : k.isBlittable)
    (declared : R.source.types[t]? = some d) : Fits R.source t d k :=
  (filled.fits c k has isBlittable).of_found filled.coherent bound declared

/-- Only generic types whose bindings are blittable have marked parameters. -/
theorem of_marked (filled : Filled R m)
    (marked : R.target.isMarked (.type u) position = some true) :
    ∃ c b t d k, R.types[c]? = some b ∧ b.target = u ∧ b.source = some t ∧
      R.source.types[t]? = some d ∧
      HasClass R m c k ∧ k.isBlittable ∧ Fits R.source t d k ∧ d.params ≠ [] := by
  obtain ⟨c, b, t, d, k, bound, target, source, declared, has, isBlittable, params⟩ :=
    filled.underway.of_marked marked
  have fits := (filled.fits c k has isBlittable).of_bound bound source declared
  exact ⟨c, b, t, d, k, bound, target, source, declared, has, isBlittable, fits, params⟩

/-- The output type of a binding has marked parameters only if the binding is generically blittable,
or has the name of a primitive. -/
theorem of_marked_target (filled : Filled R m) (bound : R.types[c]? = some b)
    (has : HasClass R m c k) (marked : R.target.isMarked (.type b.target) position = some true) :
    ∃ t d, b.source = some t ∧ R.source.types[t]? = some d ∧ d.form = .structType ∧
      (k = .genericBlittable ∨ Corlib.isPrimitive d.fullName) := by
  obtain ⟨c', b', t, d, k', bound', target, source, declared, has', isBlittable, fits, generic⟩ :=
    filled.of_marked marked
  cases filled.once c' b' bound' c b bound target
  cases bound.symm.trans bound'
  cases has.unique has'
  refine ⟨t, d, source, declared, fits.isStruct, ?_⟩
  cases k with
  | blittable => exact .inr ((fits.blittable rfl).resolve_right generic)
  | genericBlittable => exact .inl rfl
  | _ => simp [LayoutClass.isBlittable] at isBlittable

theorem not_marked_of_hasStandIn (filled : Filled R m) (hasStandIn : R.hasStandIn b)
    {e : TypeBindingId} {standIn : TypeBinding} (counterpart : b.counterpart = some e)
    (bound : R.types[e]? = some standIn) :
    R.target.isMarked (.type standIn.target) position ≠ some true := by
  rcases Registry.hasStandIn_iff.1 hasStandIn with ⟨e', standIn', counterpart', bound', isStandIn⟩
  cases counterpart.symm.trans counterpart'
  cases bound.symm.trans bound'
  exact filled.underway.not_marked_of_standIn filled.once bound isStandIn

/-! ## Unmanaged forms -/

/-- The output type of a blittable binding is a value type. -/
theorem isValueType_of_isBlittable (filled : Filled R m) (bound : R.types[c]? = some b)
    (has : HasClass R m c k) (isBlittable : k.isBlittable) :
    R.target.isValueType (.defined b.target) = some true := by
  rcases filled.fits c k has isBlittable with ⟨b', t, d, bound', -, source, declared, fits⟩
  cases bound.symm.trans bound'
  rcases filled.shaped c b t bound source with ⟨D, found, shaped⟩
  rcases shaped.shape bound source declared has with ⟨-, isValueType⟩
  have fixed : baseKind k.isBlittable d ≠ .projected := by
    simp [baseKind, fits.isStruct, isBlittable]
  simp [Target.Catalog.isValueType, found, isValueType.2 fixed]

theorem isValueType_of_projectNamed (filled : Filled R m) (bound : R.binding? t = some c)
    (has : HasClass R m c k) (isBlittable : k.isBlittable)
    (yields : R.Yields m (R.projectNamed into false t) r) : R.target.isValueType r = some true := by
  rcases yields.projectNamed with ⟨d, declared, form⟩
  have fits := filled.fits_of_binding bound has isBlittable declared
  rcases filled.rootless t d declared fits.isStruct with ⟨notString, notObject, notAttribute⟩
  cases form with
  | verbatim => rfl
  | void => rfl
  | string treated => exact absurd (Corlib.eq_of_treatment_string treated) notString
  | root treated =>
      exact absurd (Corlib.eq_of_treatment_root treated) (by simp [notObject, notAttribute])
  | bound _ bound' target =>
      cases bound.symm.trans bound'
      rcases filled.coherent.binding?_source bound with ⟨b, -, found, -⟩
      cases Registry.targetOf_false_eq_ok target found
      exact filled.isValueType_of_isBlittable found has isBlittable

/-- A reference that is known to be unmanaged has an unmanaged form. -/
theorem isUnmanaged_of_proven (filled : Filled R m)
    (proven : R.Yields m (R.provenUnmanaged into false s) true)
    (yields : R.Yields m (R.project into false s) r) :
    R.target.isUnmanaged r := by
  cases s with
  | named t =>
      rw [Registry.provenUnmanaged] at proven
      rcases proven.isBlittable with ⟨c, k, bound, has, isBlittable⟩
      exact Target.Catalog.isUnmanaged_of_isValueType
        (filled.isValueType_of_projectNamed bound has isBlittable yields.project_named)
  | inst generic args =>
      rcases yields.project_inst with ⟨head, projected, rfl, yieldsHead, -⟩
      rcases proven.provenUnmanaged_inst.2.isBlittable with ⟨c, k, bound, has, isBlittable⟩
      rcases yieldsHead.projectHead with ⟨c', k', bound', has', form⟩
      cases bound.symm.trans bound'
      cases has.unique has'
      have named : R.Yields m (R.projectNamed into false generic) head := by
        cases form with
        | plain _ named => exact named
        | proven _ _ named => exact named
        | lateBoxed _ unproven _ =>
            -- The same question was answered the other way before.
            cases proven.unique ((R.settled_undisturbed m).provenUnmanaged _) unproven
      refine Target.Catalog.isUnmanaged_of_isValueType ?_
      rw [Target.Catalog.isValueType]
      exact filled.isValueType_of_projectNamed bound has isBlittable named
  | pointer target =>
      rcases yields.project_pointer with ⟨projected, rfl, -⟩
      rfl
  | param owner position =>
      rcases proven.provenUnmanaged_param with ⟨target, yieldsOwner, marked⟩
      rcases yields.project_param with ⟨target', rfl, yieldsOwner'⟩
      cases yieldsOwner.unique ((R.settled_undisturbed m).projectOwner owner) yieldsOwner'
      simpa [Target.Catalog.isUnmanaged] using marked
  | _ =>
      rw [Registry.provenUnmanaged] at proven
      cases proven.pure

/-! ## Marked parameters -/

/-- The output type of the binding for objects, or for attributes, has no marked parameters. -/
theorem not_marked_of_corlib (filled : Filled R m) {name : String}
    (treated : Corlib.treatment name = .root) (corlib : R.corlibBinding name = .ok c)
    (target : R.targetOf false c = .ok u) :
    R.target.isMarked (.type u) position ≠ some true := by
  intro marked
  rcases filled.coherent.corlibBinding corlib with ⟨b, found, named⟩
  cases Registry.targetOf_false_eq_ok target found
  rcases filled.of_marked marked with
    ⟨c', b', t, d, k, found', target, source, declared, -, -, fits, -⟩
  cases filled.once c' b' found' c b found target
  cases found.symm.trans found'
  -- Only structs have marked parameters, and neither of the two types is one.
  rcases filled.rootless t d declared fits.isStruct with ⟨-, notObject, notAttribute⟩
  rw [named t d source declared] at notObject notAttribute
  exact absurd (Corlib.eq_of_treatment_root treated) (by simp [notObject, notAttribute])

/-- The output type of a counterpart has no marked parameters, if bindings with marked parameters
have stand-ins for their counterparts. -/
theorem not_marked_of_counterpart (filled : Filled R m) (counterparts : R.CounterpartsStandIn)
    (found : R.types[c]? = some b) {e : TypeBindingId} {standIn : TypeBinding}
    (counterpart : b.counterpart = some e) (bound : R.types[e]? = some standIn)
    (linked : R.target.isMarked (.type b.target) position = some true → R.hasStandIn b) :
    R.target.isMarked (.type standIn.target) position ≠ some true := by
  intro marked
  have hasStandIn : R.hasStandIn b := by
    rcases counterparts c b found with alone | self | hasStandIn
    · cases alone.symm.trans counterpart
    · cases self.symm.trans counterpart
      cases found.symm.trans bound
      exact linked marked
    · exact hasStandIn
  exact filled.not_marked_of_hasStandIn hasStandIn counterpart bound marked

/-- A declared type goes to an output type with marked parameters only if it is generically
blittable and the reference form is not asked for. -/
theorem generic_of_marked (filled : Filled R m) (counterparts : R.CounterpartsStandIn)
    (bound : R.binding? t = some c) (has : HasClass R m c k)
    (yields : R.Yields m (R.projectNamed into boxed t) (.defined u))
    (marked : R.target.isMarked (.type u) position = some true) :
    k = .genericBlittable ∧ boxed = false := by
  rcases yields.projectNamed with ⟨d, declared, form⟩
  rcases filled.coherent.binding?_source bound with ⟨b, d', found, source, declared'⟩
  cases declared.symm.trans declared'
  cases form with
  | root treated corlib target =>
      exact absurd marked (filled.not_marked_of_corlib treated corlib target)
  | bound treated bound' target =>
      cases bound.symm.trans bound'
      -- The binding's own output type only has marked parameters if the class says so.
      have isGeneric : R.target.isMarked (.type b.target) position = some true →
          k = .genericBlittable := by
        intro marked
        rcases filled.of_marked_target found has marked with
          ⟨t', d', source', declared', -, isGeneric | isPrimitive⟩
        · exact isGeneric
        · cases source.symm.trans source'
          cases declared.symm.trans declared'
          rw [Corlib.treatment_eq_verbatim isPrimitive] at treated
          cases treated
      have linked : R.target.isMarked (.type b.target) position = some true → R.hasStandIn b :=
        fun marked => filled.linked c b found (isGeneric marked ▸ has)
      obtain ⟨b', found', ⟨rfl, plain⟩ | ⟨isBoxed, e, standIn, counterpart, found'', rfl⟩⟩ :=
        Registry.targetOf_eq_ok target
      · cases found.symm.trans found'
        refine ⟨isGeneric marked, plain.resolve_right fun alone => ?_⟩
        rcases Registry.hasStandIn_iff.1 (linked marked) with ⟨_, _, counterpart, -⟩
        simp [alone] at counterpart
      · cases found.symm.trans found'
        exact absurd marked
          (filled.not_marked_of_counterpart counterparts found counterpart found'' linked)

/-- Where the type that an application goes to has a marked parameter, the reference form is not
asked for and all arguments are known to be unmanaged. -/
theorem proven_of_marked (filled : Filled R m) (counterparts : R.CounterpartsStandIn)
    {generic : TypeId} {args : List Signature}
    (yields : R.Yields m (R.projectHead into boxed generic args) (.defined u))
    (marked : R.target.isMarked (.type u) position = some true) :
    boxed = false ∧ ∀ arg ∈ args, R.Yields m (R.provenUnmanaged into boxed arg) true := by
  rcases yields.projectHead with ⟨c, k, bound, has, form⟩
  cases form with
  | plain notGeneric named =>
      exact absurd (filled.generic_of_marked counterparts bound has named marked).1 notGeneric
  | proven _ proven named =>
      exact ⟨(filled.generic_of_marked counterparts bound has named marked).2,
        proven.provenUnmanaged_inst.1⟩
  | lateBoxed isGeneric _ target =>
      rcases Registry.counterpartOf_eq_ok target with
        ⟨b, d, standIn, found, counterpart, found', rfl⟩
      have hasStandIn := filled.linked c b found (isGeneric ▸ has)
      exact absurd marked (filled.not_marked_of_hasStandIn hasStandIn counterpart found')

theorem head_cases {generic : TypeId} {args : List Signature}
    (yields : R.Yields m (R.projectHead into boxed generic args) r) :
    (∃ e, r = .external e) ∨ ∃ u, r = .defined u := by
  rcases yields.projectHead with ⟨c, k, -, -, form⟩
  have named : R.Yields m (R.projectNamed into boxed generic) r →
      (∃ e, r = .external e) ∨ ∃ u, r = .defined u := by
    intro yields
    rcases yields.projectNamed with ⟨d, -, form⟩
    cases form with
    | verbatim => exact .inl ⟨_, rfl⟩
    | void => exact .inl ⟨_, rfl⟩
    | string => exact .inl ⟨_, rfl⟩
    | root => exact .inr ⟨_, rfl⟩
    | bound => exact .inr ⟨_, rfl⟩
  cases form with
  | plain _ yields => exact named yields
  | proven _ _ yields => exact named yields
  | lateBoxed => exact .inr ⟨_, rfl⟩

/-- The form of a reference gives unmanaged arguments to all parameters that are marked so. -/
theorem honorsMarks (filled : Filled R m) (counterparts : R.CounterpartsStandIn)
    (yields : R.Yields m (R.project into boxed s) r) : R.target.HonorsMarks r := by
  induction s generalizing r with
  | named t =>
      cases yields.referenceForm with
      | named _ form =>
        cases form with
        | verbatim => exact .external _
        | void => exact .external _
        | string => exact .external _
        | root => exact .defined _
        | bound => exact .defined _
  | unresolved name =>
      cases yields.referenceForm
      exact .external _
  | array element rank ih =>
      cases yields.referenceForm with
      | otherRank => exact .external _
      | strings => exact .external _
      | @array _ e projected _ yieldsElement =>
          have honorsArgs : ∀ arg ∈ [projected], R.target.HonorsMarks arg := by
            intro arg mem
            cases List.mem_singleton.1 mem
            exact ih yieldsElement
          exact .inst (.external e) honorsArgs fun t head => by cases head
  | byRef target ih =>
      rcases yields.project_byRef with ⟨projected, rfl, yieldsTarget⟩
      exact .byRef (ih yieldsTarget)
  | pointer target ih =>
      rcases yields.project_pointer with ⟨projected, rfl, yieldsTarget⟩
      exact .pointer (ih yieldsTarget)
  | inst generic args ih =>
      rcases yields.project_inst with ⟨head, projected, rfl, yieldsHead, yieldsArgs⟩
      rcases yieldsArgs.projectAll with ⟨-, yieldsArg⟩
      have honorsArgs : ∀ arg ∈ projected, R.target.HonorsMarks arg := by
        intro arg mem
        rcases List.getElem?_of_mem mem with ⟨i, found⟩
        rcases yieldsArg i arg found with ⟨s, found', yields⟩
        exact ih s (List.mem_of_getElem? found') yields
      -- Only what applies a declared type can have marked parameters of its own.
      rcases head_cases yieldsHead with ⟨e, rfl⟩ | ⟨u, rfl⟩
      · exact .inst (.external e) honorsArgs fun t head => by cases head
      · refine .inst (.defined u) honorsArgs fun t head position arg found marked => ?_
        cases head
        rcases filled.proven_of_marked counterparts yieldsHead marked with ⟨rfl, proven⟩
        rcases yieldsArg position arg found with ⟨s, found', yields⟩
        exact filled.isUnmanaged_of_proven (proven s (List.mem_of_getElem? found')) yields
  | param owner position =>
      rcases yields.project_param with ⟨target, rfl, -⟩
      exact .param target position

end Filled

end Completion

end TypeProjection
