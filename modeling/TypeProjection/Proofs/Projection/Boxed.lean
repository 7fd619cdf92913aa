import TypeProjection.Proofs.Layout.Noted
import TypeProjection.Proofs.Projection.Constant
import TypeProjection.Proofs.Projection.Faithful
import TypeProjection.Source.Occurrence

/-!
# Proofs.Projection.Boxed — what asking for the reference form changes

Where the reference form of a reference is asked for, counterparts stand in the place of types. The
flag has a say in which parameters are looked at, and so in what is boxed late and in how arrays are
wrapped, but in nothing else:

* `Renders`, `Variant` : output types that stand for one source type, and forms that differ in them;
* `variant_of_project` : both forms of a reference are variants of each other;
* `StandsAlone` : types without a counterpart;
* `project_eq_of_standsAlone` : the flag has no say in forms that mention such types only;
* `Workspace.project_boxed` : both, in all reachable workspaces.
-/

namespace TypeProjection

open Layout (Memo HasClass)
open Source (TypeId TypeDecl)

/-- No struct with parameters has the name of a type that is neither a primitive nor found by its
binding. -/
def Source.Catalog.GenericStructsUnnamed (C : Source.Catalog) : Prop :=
  ∀ (t : TypeId) (d : TypeDecl), C.types[t]? = some d → d.form = .structType → d.params ≠ [] →
    d.fullName ∉ [Corlib.voidName, Corlib.stringName, Corlib.objectName, Corlib.attributeName,
      Corlib.typedReferenceName]

instance (C : Source.Catalog) : Decidable C.GenericStructsUnnamed := by
  unfold Source.Catalog.GenericStructsUnnamed
  infer_instance

theorem Corlib.treatment_eq_bound {name : String} (notPrimitive : isPrimitive name = false)
    (unnamed : name ∉ [voidName, stringName, objectName, attributeName, typedReferenceName]) :
    treatment name = .bound := by
  simp only [List.mem_cons, List.not_mem_nil, or_false, not_or] at unnamed
  simp [treatment, isVerbatim, notPrimitive, unnamed]

namespace Registry

variable {R : Registry} {m : Memo} {into : Target.ModuleId} {boxed : Bool} {t : TypeId}
  {c : TypeBindingId} {k : LayoutClass} {u v : Target.TypeId} {r r' : Target.Signature}

/-! ## Variants -/

/-- An output type stands for a source type: it is that of the type's binding, or that of the
counterpart. -/
def Renders (R : Registry) (t : TypeId) (u : Target.TypeId) : Prop :=
  ∃ c b, R.binding? t = some c ∧ R.types[c]? = some b ∧
    (b.target = u ∨ ∃ e standIn, b.counterpart = some e ∧ R.types[e]? = some standIn ∧
      standIn.target = u)

/-- Two forms are made in the same way, up to which output type stands for a source type, as itself
or as the owner of a parameter, and up to which of the two wrappers an array has. -/
inductive Variant (R : Registry) : Target.Signature → Target.Signature → Prop
  | same (r : Target.Signature) : Variant R r r
  | defined {t : TypeId} {u v : Target.TypeId} (first : R.Renders t u) (second : R.Renders t v) :
      Variant R (.defined u) (.defined v)
  | owner {t : TypeId} {u v : Target.TypeId} (first : R.Renders t u) (second : R.Renders t v)
      (position : Nat) :
      Variant R (.param (.type u) position) (.param (.type v) position)
  | ofReferences : Variant R Interop.structArray Interop.referenceArray
  | ofStructs : Variant R Interop.referenceArray Interop.structArray
  | inst {head head' : Target.Signature} {args args' : List Target.Signature}
      (heads : Variant R head head') (length : args.length = args'.length)
      (each : ∀ (i : Nat) (arg arg' : Target.Signature), args[i]? = some arg →
        args'[i]? = some arg' →
        Variant R arg arg') : Variant R (.inst head args) (.inst head' args')
  | byRef {target target' : Target.Signature} (targets : Variant R target target') :
      Variant R (.byRef target) (.byRef target')
  | pointer {target target' : Target.Signature} (targets : Variant R target target') :
      Variant R (.pointer target) (.pointer target')

theorem renders_of_targetOf (bound : R.binding? t = some c) (found : R.targetOf boxed c = .ok u) :
    R.Renders t u := by
  rcases targetOf_eq_ok found with
    ⟨b, listed, ⟨target, -⟩ | ⟨-, e, standIn, counterpart, listed', target⟩⟩
  · exact ⟨c, b, bound, listed, .inl target⟩
  · exact ⟨c, b, bound, listed, .inr ⟨e, standIn, counterpart, listed', target⟩⟩

theorem renders_of_counterpartOf (bound : R.binding? t = some c)
    (found : R.counterpartOf t c = .ok u) :
    R.Renders t u := by
  rcases counterpartOf_eq_ok found with ⟨b, e, standIn, listed, counterpart, listed', target⟩
  exact ⟨c, b, bound, listed, .inr ⟨e, standIn, counterpart, listed', target⟩⟩

/-! ## Declared types and owners -/

/-- A type that is found by its binding has an output type that stands for it for its form. -/
theorem renders_of_projectNamed {d : TypeDecl} (declared : R.source.types[t]? = some d)
    (treated : Corlib.treatment d.fullName = .bound)
    (yields : R.Yields m (R.projectNamed into boxed t) r) :
    ∃ u, r = .defined u ∧ R.Renders t u := by
  rcases yields.projectNamed with ⟨d', declared', form⟩
  cases declared.symm.trans declared'
  cases form with
  | verbatim other => cases treated.symm.trans other
  | void other => cases treated.symm.trans other
  | string other => cases treated.symm.trans other
  | root other => cases treated.symm.trans other
  | bound _ bound target => exact ⟨_, rfl, renders_of_targetOf bound target⟩

/-- A type whose name has a meaning of its own has the same form with and without the flag. -/
theorem projectNamed_eq_of_treatment {d : TypeDecl} (declared : R.source.types[t]? = some d)
    (treated : Corlib.treatment d.fullName ≠ .bound) :
    R.projectNamed into boxed t = R.projectNamed into false t := by
  refine Effect.lift_bind_congr fun name named => ?_
  rcases fullName_eq_ok named with ⟨d', declared', rfl⟩
  cases declared.symm.trans declared'
  cases treatment : Corlib.treatment d.fullName with
  | bound => exact absurd treatment treated
  | _ => rfl

theorem variant_of_projectNamed (yields : R.Yields m (R.projectNamed into false t) r)
    (yields' : R.Yields m (R.projectNamed into true t) r') : R.Variant r r' := by
  rcases yields.projectNamed with ⟨d, declared, -⟩
  by_cases treated : Corlib.treatment d.fullName = .bound
  · rcases renders_of_projectNamed declared treated yields with ⟨u, rfl, renders⟩
    rcases renders_of_projectNamed declared treated yields' with ⟨v, rfl, renders'⟩
    exact .defined renders renders'
  · rw [projectNamed_eq_of_treatment declared treated] at yields'
    have steady : Effect.Steady (fun notes => Layout.Settled R m notes.classes)
        (R.projectNamed into false t) :=
      ((settled_undisturbed R m).alike into).parallel.projectNamed t
    exact yields.unique steady yields' ▸ .same r

theorem variant_of_projectOwner {owner : Source.Owner} {target target' : Target.Owner}
    (position : Nat) (yields : R.Yields m (R.projectOwner into false owner) target)
    (yields' : R.Yields m (R.projectOwner into true owner) target') :
    R.Variant (.param target position) (.param target' position) := by
  cases owner with
  | type t =>
      rcases yields.projectOwner_type with ⟨c, u, bound, found, rfl⟩
      rcases yields'.projectOwner_type with ⟨c', v, bound', found', rfl⟩
      exact .owner (renders_of_targetOf bound found) (renders_of_targetOf bound' found') position
  | method method =>
      -- The parameters of a method do not hang on the flag.
      have yields' : R.Yields m (R.projectOwner into false (.method method)) target' := yields'
      exact yields.unique ((settled_undisturbed R m).projectOwner _) yields' ▸ .same _

/-! ## Heads and arrays -/

/-- Every generically blittable type is found by its binding. -/
def GenericsBound (R : Registry) (m : Memo) : Prop :=
  ∀ (t : TypeId) (d : TypeDecl) (c : TypeBindingId), R.source.types[t]? = some d →
    R.binding? t = some c → HasClass R m c .genericBlittable → Corlib.treatment d.fullName = .bound

/-- Whether an application of a generically blittable type is boxed late or not, it applies an
output type that stands for the generic type. -/
theorem renders_of_headForm {generic : TypeId} {args : List Source.Signature}
    (bounds : R.GenericsBound m) (bound : R.binding? generic = some c)
    (has : HasClass R m c .genericBlittable)
    (form : HeadForm R m into boxed generic args c .genericBlittable r) :
    ∃ u, r = .defined u ∧ R.Renders generic u := by
  cases form with
  | plain notGeneric => exact absurd rfl notGeneric
  | proven _ _ named =>
      rcases named.projectNamed with ⟨d, declared, -⟩
      exact renders_of_projectNamed declared (bounds generic d c declared bound has) named
  | lateBoxed _ _ counterpart => exact ⟨_, rfl, renders_of_counterpartOf bound counterpart⟩

/-- Types that are not generically blittable are applied in their own form. -/
theorem HeadForm.named_of_ne {generic : TypeId} {args : List Source.Signature}
    (form : HeadForm R m into boxed generic args c k r) (notGeneric : k ≠ .genericBlittable) :
    R.Yields m (R.projectNamed into boxed generic) r := by
  cases form with
  | plain _ named => exact named
  | proven isGeneric => exact absurd isGeneric notGeneric
  | lateBoxed isGeneric => exact absurd isGeneric notGeneric

theorem variant_of_projectHead {generic : TypeId} {args : List Source.Signature}
    (bounds : R.GenericsBound m) (yields : R.Yields m (R.projectHead into false generic args) r)
    (yields' : R.Yields m (R.projectHead into true generic args) r') : R.Variant r r' := by
  rcases yields.projectHead with ⟨c, k, bound, has, form⟩
  rcases yields'.projectHead with ⟨c', k', bound', has', form'⟩
  cases bound.symm.trans bound'
  cases has.unique has'
  by_cases isGeneric : k = .genericBlittable
  · -- One of the two can be boxed late and the other not.
    subst isGeneric
    rcases renders_of_headForm bounds bound has form with ⟨u, rfl, renders⟩
    rcases renders_of_headForm bounds bound has form' with ⟨v, rfl, renders'⟩
    exact .defined renders renders'
  · exact variant_of_projectNamed (form.named_of_ne isGeneric) (form'.named_of_ne isGeneric)

/-- The wrapper of an array is the one for parameters, or one of the two others if the element is no
parameter. -/
theorem arrayFor_cases {element : Source.Signature} {projected array : Target.Signature}
    (found : R.arrayFor element projected = .ok array) :
    (∃ owner position, element = .param owner position) ∧ array = Interop.arrayBase ∨
      (∀ owner position, element ≠ .param owner position) ∧
        (array = Interop.structArray ∨ array = Interop.referenceArray) := by
  unfold arrayFor at found
  split at found
  · exact .inl ⟨⟨_, _, rfl⟩, (Except.ok.inj found).symm⟩
  · next other =>
    rcases except_bind_eq_ok_iff.1 found with ⟨isValueType, -, found⟩
    refine .inr ⟨fun owner position eq => other owner position eq, ?_⟩
    cases isValueType with
    | true => exact .inl (Except.ok.inj found).symm
    | false => exact .inr (Except.ok.inj found).symm

theorem variant_of_arrayFor {element : Source.Signature}
    {projected projected' array array' : Target.Signature}
    (found : R.arrayFor element projected = .ok array)
    (found' : R.arrayFor element projected' = .ok array') :
    R.Variant array array' := by
  rcases arrayFor_cases found with ⟨⟨owner, position, rfl⟩, rfl⟩ | ⟨other, wrapper⟩
  · rcases arrayFor_cases found' with ⟨-, rfl⟩ | ⟨other', -⟩
    · exact .same _
    · exact absurd rfl (other' owner position)
  · rcases arrayFor_cases found' with ⟨⟨owner, position, rfl⟩, -⟩ | ⟨-, wrapper'⟩
    · exact absurd rfl (other owner position)
    · rcases wrapper with rfl | rfl
      · rcases wrapper' with rfl | rfl
        · exact .same _
        · exact .ofReferences
      · rcases wrapper' with rfl | rfl
        · exact .ofStructs
        · exact .same _

/-! ## References -/

/-- The two forms of a reference are variants of each other. Each is made by the rule for the
constructor of the reference. -/
theorem variant_of_project (bounds : R.GenericsBound m) {s : Source.Signature}
    (yields : R.Yields m (R.project into false s) r)
    (yields' : R.Yields m (R.project into true s) r') :
    R.Variant r r' := by
  induction s generalizing r r' with
  | named t => exact variant_of_projectNamed yields.project_named yields'.project_named
  | unresolved name =>
      rw [Registry.project] at yields yields'
      exact yields.pure ▸ yields'.pure ▸ .same _
  | array element rank ih =>
      rcases yields.project_array with
        ⟨other, rfl⟩ | ⟨one, isString, rfl⟩ | ⟨one, noString, elementForm⟩
      -- The rank and whether the element is a string do not hang on the flag, so both forms come by
      -- the same way.
      · rcases yields'.project_array with ⟨-, rfl⟩ | ⟨one, -⟩ | ⟨one, -⟩
        · exact .same _
        · exact absurd one other
        · exact absurd one other
      · rcases yields'.project_array with ⟨other, -⟩ | ⟨-, -, rfl⟩ | ⟨-, noString, -⟩
        · exact absurd one other
        · exact .same _
        · cases isString.symm.trans noString
      · rcases elementForm with ⟨projected, array, elem, wrapped, rfl⟩
        rcases yields'.project_array with ⟨other, -⟩ | ⟨-, isString, -⟩ | ⟨-, -, elementForm'⟩
        · exact absurd one other
        · cases isString.symm.trans noString
        · rcases elementForm' with ⟨projected', array', elem', wrapped', rfl⟩
          -- The wrappers are compared by the source form of the element, not by its output forms.
          refine .inst (variant_of_arrayFor wrapped wrapped') rfl ?_
          intro i arg arg' found found'
          rcases List.mem_singleton.1 (List.mem_of_getElem? found) with rfl
          rcases List.mem_singleton.1 (List.mem_of_getElem? found') with rfl
          exact ih elem elem'
  | byRef target ih =>
      rcases yields.project_byRef with ⟨projected, rfl, yieldsTarget⟩
      rcases yields'.project_byRef with ⟨projected', rfl, yieldsTarget'⟩
      exact .byRef (ih yieldsTarget yieldsTarget')
  | pointer target ih =>
      rcases yields.project_pointer with ⟨projected, rfl, yieldsTarget⟩
      rcases yields'.project_pointer with ⟨projected', rfl, yieldsTarget'⟩
      exact .pointer (ih yieldsTarget yieldsTarget')
  | inst generic args ih =>
      rcases yields.project_inst with ⟨head, projected, rfl, yieldsHead, yieldsArgs⟩
      rcases yields'.project_inst with ⟨head', projected', rfl, yieldsHead', yieldsArgs'⟩
      rcases yieldsArgs.projectAll with ⟨length, forms⟩
      rcases yieldsArgs'.projectAll with ⟨length', forms'⟩
      refine .inst (variant_of_projectHead bounds yieldsHead yieldsHead')
        (length.trans length'.symm) ?_
      intro i r r' found found'
      rcases forms i r found with ⟨arg, foundArg, yieldsArg⟩
      rcases forms' i r' found' with ⟨arg', foundArg', yieldsArg'⟩
      cases foundArg.symm.trans foundArg'
      exact ih arg (List.mem_of_getElem? foundArg) yieldsArg yieldsArg'
  | param owner position =>
      rcases yields.project_param with ⟨target, rfl, yieldsOwner⟩
      rcases yields'.project_param with ⟨target', rfl, yieldsOwner'⟩
      exact variant_of_projectOwner position yieldsOwner yieldsOwner'

/-! ## Types without a counterpart -/

/-- A type has no counterpart, or the counterpart of its binding is the binding itself. -/
def StandsAlone (R : Registry) (t : TypeId) : Prop :=
  ∀ c ∈ R.binding? t, ∀ b ∈ R.types[c]?, ∀ e ∈ b.counterpart, e = c

instance (R : Registry) (t : TypeId) : Decidable (R.StandsAlone t) := by
  unfold StandsAlone
  infer_instance

/-- A binding without a counterpart has one output type. -/
theorem targetOf_eq_of_standsAlone (alone : R.StandsAlone t) (bound : R.binding? t = some c) :
    R.targetOf boxed c = R.targetOf false c := by
  cases listed : R.types[c]? with
  | none =>
      have dangling : R.types.fetch c = .error .danglingHandle := by
        simp [Table.fetch, listed, orDangling]
      simp [targetOf, dangling, bind, Except.bind]
  | some b =>
      have found : R.types.fetch c = .ok b := Table.fetch_eq_ok_iff.2 listed
      cases counterpart : b.counterpart with
      | none => simp [targetOf, found, counterpart, bind, Except.bind]
      | some e =>
          have same : e = c := alone c bound b listed e counterpart
          cases boxed <;> simp [targetOf, found, counterpart, same, bind, Except.bind]

theorem projectNamed_eq_of_standsAlone (alone : R.StandsAlone t) :
    R.projectNamed into boxed t = R.projectNamed into false t := by
  refine Effect.lift_bind_congr fun name _ => ?_
  cases Corlib.treatment name with
  | bound =>
      refine Effect.lift_bind_congr fun c found => ?_
      rw [targetOf_eq_of_standsAlone alone (bindingFor_eq_ok_iff.1 found)]
  | _ => rfl

/-- The flag has no say in the owner of a parameter, if that stands alone or is a method. -/
theorem projectOwner_eq_of_standsAlone {owner : Source.Owner} {position : Nat}
    (alone : ∀ t ∈ (Source.Signature.param owner position).mentioned, R.StandsAlone t) :
    R.projectOwner into boxed owner = R.projectOwner into false owner := by
  cases owner with
  | method method => rfl
  | type t =>
      have alone : R.StandsAlone t := alone t (List.mem_singleton.2 rfl)
      refine Effect.lift_bind_congr fun c found => ?_
      rw [targetOf_eq_of_standsAlone alone (bindingFor_eq_ok_iff.1 found)]

theorem allProvenUnmanaged_congr {args : List Source.Signature}
    (same : ∀ arg ∈ args, R.provenUnmanaged into boxed arg = R.provenUnmanaged into false arg) :
    R.allProvenUnmanaged into boxed args = R.allProvenUnmanaged into false args := by
  induction args with
  | nil => rfl
  | cons arg args ih =>
      have rest := ih fun arg mem => same arg (List.mem_cons_of_mem _ mem)
      simp only [allProvenUnmanaged, same arg List.mem_cons_self, rest]

theorem projectAll_congr {args : List Source.Signature}
    (same : ∀ arg ∈ args, R.project into boxed arg = R.project into false arg) :
    R.projectAll into boxed args = R.projectAll into false args := by
  induction args with
  | nil => rfl
  | cons arg args ih =>
      have rest := ih fun arg mem => same arg (List.mem_cons_of_mem _ mem)
      simp only [projectAll, same arg List.mem_cons_self, rest]

/-- Where all types that an application mentions stand alone, so do those that one of its arguments
mentions. -/
theorem standsAlone_of_mem_args {generic : TypeId} {args : List Source.Signature}
    {arg : Source.Signature}
    (alone : ∀ t ∈ (Source.Signature.inst generic args).mentioned, R.StandsAlone t)
    (mem : arg ∈ args) :
    ∀ t ∈ arg.mentioned, R.StandsAlone t := by
  intro t mentioned
  have inArgs : t ∈ Source.Signature.mentionedByAll args :=
    Source.Signature.mem_mentionedByAll.2 ⟨arg, mem, mentioned⟩
  exact alone t (List.mem_cons_of_mem generic inArgs)

/-- The flag has no say in what is known to be unmanaged, if all types that are mentioned stand
alone. -/
theorem provenUnmanaged_eq_of_standsAlone {s : Source.Signature}
    (alone : ∀ t ∈ s.mentioned, R.StandsAlone t) :
    R.provenUnmanaged into boxed s = R.provenUnmanaged into false s := by
  induction s with
  | inst generic args ih =>
      have all : R.allProvenUnmanaged into boxed args = R.allProvenUnmanaged into false args := by
        apply allProvenUnmanaged_congr
        intro arg mem
        exact ih arg mem (standsAlone_of_mem_args alone mem)
      rw [provenUnmanaged, provenUnmanaged, all]
  | param owner position =>
      rw [provenUnmanaged, provenUnmanaged, projectOwner_eq_of_standsAlone alone]
  | _ => rw [provenUnmanaged, provenUnmanaged]

theorem projectHead_eq_of_standsAlone {generic : TypeId} {args : List Source.Signature}
    (alone : ∀ t ∈ (Source.Signature.inst generic args).mentioned, R.StandsAlone t) :
    R.projectHead into boxed generic args = R.projectHead into false generic args := by
  have named : R.projectNamed into boxed generic = R.projectNamed into false generic :=
    projectNamed_eq_of_standsAlone (alone generic List.mem_cons_self)
  unfold projectHead
  rw [provenUnmanaged_eq_of_standsAlone alone, named]

/-- The flag has no say in the form of a reference, if all types that are mentioned stand alone. -/
theorem project_eq_of_standsAlone {s : Source.Signature}
    (alone : ∀ t ∈ s.mentioned, R.StandsAlone t) :
    R.project into boxed s = R.project into false s := by
  induction s with
  | named t =>
      rw [project, project]
      exact projectNamed_eq_of_standsAlone (alone t (List.mem_singleton.2 rfl))
  | unresolved name => rw [project, project]
  | array element rank ih => rw [project, project, ih alone]
  | byRef target ih => rw [project, project, ih alone]
  | pointer target ih => rw [project, project, ih alone]
  | inst generic args ih =>
      have all : R.projectAll into boxed args = R.projectAll into false args := by
        apply projectAll_congr
        intro arg mem
        exact ih arg mem (standsAlone_of_mem_args alone mem)
      rw [project, project, all, projectHead_eq_of_standsAlone alone]
  | param owner position =>
      rw [project, project, projectOwner_eq_of_standsAlone alone]

end Registry

/-! ## Reachable workspaces -/

namespace Workspace

variable {W : Workspace}

/-- Generically blittable types are structs with parameters, so in a reachable workspace their names
have no meaning of their own. -/
theorem genericsBound_of_reachable (reachable : W.Reachable)
    (unnamed : W.registry.source.GenericStructsUnnamed) :
    W.registry.GenericsBound W.notes.classes := by
  intro t d c declared bound has
  have known := Layout.fits_sound.of_reachable reachable has rfl
  have fits : Layout.Fits W.registry.source t d .genericBlittable :=
    known.of_found reachable.coherent bound declared
  rcases fits.generic rfl with ⟨notPrimitive, params⟩
  exact Corlib.treatment_eq_bound notPrimitive (unnamed t d declared fits.isStruct params)

/-- The two forms of a reference are variants of each other, and where no mentioned type has a
counterpart of its own the flag has no say at all. -/
theorem project_boxed (reachable : W.Reachable) (unnamed : W.registry.source.GenericStructsUnnamed)
    (into : Target.ModuleId) (s : Source.Signature) (qs qs' : List Question) :
    (∀ (r r' : Target.Signature) (notes notes' : Ledger),
      (W.registry.project into false s).run (W.registry.notesAfter W.notes qs) = (.ok r, notes) →
      (W.registry.project into true s).run (W.registry.notesAfter W.notes qs') = (.ok r', notes') →
      W.registry.Variant r r') ∧
    ((∀ t ∈ s.mentioned, W.registry.StandsAlone t) →
      ((W.registry.project into true s).run (W.registry.notesAfter W.notes qs)).1 =
          ((W.registry.project into false s).run (W.registry.notesAfter W.notes qs')).1 ∧
        ((W.registry.provenUnmanaged into true s).run (W.registry.notesAfter W.notes qs)).1 =
          ((W.registry.provenUnmanaged into false s).run
            (W.registry.notesAfter W.notes qs')).1) := by
  constructor
  · intro r r' notes notes' run run'
    have settled := fun qs => Registry.settled_notesAfter (.refl W.registry W.notes.classes) qs
    have yields : W.registry.Yields W.notes.classes (W.registry.project into false s) r :=
      ⟨_, notes, settled qs, run⟩
    have yields' : W.registry.Yields W.notes.classes (W.registry.project into true s) r' :=
      ⟨_, notes', settled qs', run'⟩
    exact Registry.variant_of_project (genericsBound_of_reachable reachable unnamed) yields yields'
  · intro alone
    rw [Registry.project_eq_of_standsAlone alone, Registry.provenUnmanaged_eq_of_standsAlone alone]
    -- What is left are the same questions, asked after two histories.
    have traced := fun qs =>
      Registry.traced_notesAfter (.refl W.registry) (.refl W.registry W.notes.classes) qs
    have projected : Constant W.registry W.notes.classes (W.registry.project into false s) :=
      (constant_alike (.refl W.registry) into).project s
    have proven : Constant W.registry W.notes.classes (W.registry.provenUnmanaged into false s) :=
      (constant_alike (.refl W.registry) into).provenUnmanaged s
    exact ⟨projected.answer_eq (traced qs) (traced qs'), proven.answer_eq (traced qs) (traced qs')⟩

end Workspace

namespace Sample

/-- Bags of lists of numbers. -/
def bagOfNumbers : Source.Signature := .inst ⟨7⟩ [.inst ⟨5⟩ [.named ⟨2⟩]]

/-- The form of bags of lists of numbers, where the given type stands for lists. -/
def bagForm (lists : Target.TypeId) : Target.Signature :=
  .inst (.defined ⟨7⟩) [.inst (.defined lists) [.external ⟨.corlib, "System.Int32", true⟩]]

/-- Bags of colors, where nothing has a stand-in. -/
def bagOfColors : Source.Signature := .inst ⟨7⟩ [.named ⟨6⟩]

end Sample

/-- In the sample program the two forms of a bag of lists differ in what stands for lists, and a bag
of colors has one form. -/
theorem Workspace.project_boxed_bag :
    Sample.shop.registry.source.GenericStructsUnnamed ∧
      (Sample.shop.registry.project ⟨1⟩ false Sample.bagOfNumbers
        |>.run (Sample.shop.registry.notesAfter Sample.shop.notes [])).1 =
          .ok (Sample.bagForm ⟨5⟩) ∧
      (Sample.shop.registry.project ⟨1⟩ true Sample.bagOfNumbers
        |>.run (Sample.shop.registry.notesAfter Sample.shop.notes [.classOf ⟨5⟩])).1 =
          .ok (Sample.bagForm ⟨10⟩) ∧
      Sample.shop.registry.Variant (Sample.bagForm ⟨5⟩) (Sample.bagForm ⟨10⟩) ∧
      (∀ t ∈ Sample.bagOfColors.mentioned, Sample.shop.registry.StandsAlone t) ∧
      (Sample.shop.registry.project ⟨1⟩ true Sample.bagOfColors
          |>.run (Sample.shop.registry.notesAfter Sample.shop.notes [])).1 =
        (Sample.shop.registry.project ⟨1⟩ false Sample.bagOfColors
          |>.run (Sample.shop.registry.notesAfter Sample.shop.notes [.classOf ⟨5⟩])).1 := by
  have reachable : Sample.shop.Reachable := ⟨_, _, _, _, rfl⟩
  have unnamed : Sample.shop.registry.source.GenericStructsUnnamed := by decide +kernel
  have plain : (Sample.shop.registry.project ⟨1⟩ false Sample.bagOfNumbers
      |>.run (Sample.shop.registry.notesAfter Sample.shop.notes [])).1 =
        .ok (Sample.bagForm ⟨5⟩) := by
    decide +kernel
  have boxed : (Sample.shop.registry.project ⟨1⟩ true Sample.bagOfNumbers
      |>.run (Sample.shop.registry.notesAfter Sample.shop.notes [.classOf ⟨5⟩])).1 =
        .ok (Sample.bagForm ⟨10⟩) := by
    decide +kernel
  have alone : ∀ t ∈ Sample.bagOfColors.mentioned, Sample.shop.registry.StandsAlone t := by
    decide +kernel
  have numbers := project_boxed reachable unnamed ⟨1⟩ Sample.bagOfNumbers [] [.classOf ⟨5⟩]
  have colors := project_boxed reachable unnamed ⟨1⟩ Sample.bagOfColors [] [.classOf ⟨5⟩]
  have variant := numbers.1 _ _ _ _ (Effect.run_eq plain) (Effect.run_eq boxed)
  exact ⟨unnamed, plain, boxed, variant, alone, (colors.2 alone).1⟩

end TypeProjection
