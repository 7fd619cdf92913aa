import TypeProjection.Proofs.Completion.Shape
import TypeProjection.Proofs.Projection.Boxed
import TypeProjection.Target.Occurrence

/-!
# Proofs.Completion.WellKinded — forms apply types to as many arguments as they take

A reference that gives every generic type its arguments has a form that does so as well: an output
type takes as many arguments as the source type that it stands for, also where that is a
counterpart.

* `Source.Catalog.isWellKinded`       : references that respect the parameters that types declare;
* `Applies`, `ParamFor`, `WellKinded` : the same for the parts of a form;
* `wellKinded_of_project`             : the parts of a form, rule by rule;
* `wellKinded_of_complete`            : forms after a completion.
-/

namespace TypeProjection

open Layout (Memo)

/-! ## References that respect parameters -/

namespace Source.Catalog

/-- Whether a reference, apart from the references within it, gives a type as many arguments as it
has parameters, or is a parameter that its owner has. -/
def hasKind (C : Catalog) : Signature → Bool
  | .inst generic args => C.types[generic]?.all fun d =>
      d.params.length = args.length ∧ Corlib.treatment d.fullName = .bound
  | .param (.type t) position => C.types[t]?.all fun d => position < d.params.length
  | _ => true

/-- Whether all parts of a reference respect what types declare. -/
def isWellKinded (C : Catalog) (s : Signature) : Bool := s.parts.all C.hasKind

variable {C : Catalog} {s s' : Signature}

theorem isWellKinded_of_parts (kinded : C.isWellKinded s)
    (sub : ∀ part ∈ s'.parts, part ∈ s.parts) :
    C.isWellKinded s' :=
  List.all_eq_true.2 fun part mem => List.all_eq_true.1 kinded part (sub part mem)

theorem hasKind_of_isWellKinded (kinded : C.isWellKinded s) : C.hasKind s :=
  List.all_eq_true.1 kinded s s.self_mem_parts

end Source.Catalog

namespace Registry

/-- Every counterpart is a binding for the same source type. -/
def CounterpartsKeepSource (R : Registry) : Prop :=
  ∀ (c : TypeBindingId) (b : TypeBinding), R.types[c]? = some b → ∀ e ∈ b.counterpart,
    ∀ standIn ∈ R.types[e]?, standIn.source = b.source

instance (R : Registry) : Decidable R.CounterpartsKeepSource := by
  unfold CounterpartsKeepSource
  infer_instance

end Registry

/-! ## Forms that respect parameters -/

/-- What is applied takes this many arguments: it is an output type with as many parameters, or a
wrapper of arrays. -/
def Target.Catalog.Applies (C : Target.Catalog) (generic : Target.Signature)
    (args : List Target.Signature) : Prop :=
  (∃ u D, generic = .defined u ∧ C.types[u]? = some D ∧ D.params.length = args.length) ∨
    generic ∈ [Interop.arrayBase, Interop.structArray, Interop.referenceArray] ∧ args.length = 1

/-- A parameter of an output type is there, and has the name of the parameter of the source type at
that position, as far as that can be a name. -/
def Registry.ParamFor (R : Registry) (u : Target.TypeId) (t : Source.TypeId)
    (position : Nat) : Prop :=
  ∃ params ps q p, R.target.params (.type u) = some params ∧ R.source.params (.type t) = some ps ∧
    params[position]? = some q ∧ ps[position]? = some p ∧
    q.name = Text.toIdentifier Text.isAlphanumeric p.name

namespace Completion

open Registry (StandsFor)

variable {R : Registry} {m m' : Memo} {into : Target.ModuleId} {boxed : Bool} {t : Source.TypeId}
  {c : TypeBindingId} {u : Target.TypeId} {s s' : Source.Signature} {r part : Target.Signature}

/-- A part of the form of a reference respects what types declare; where it is a parameter, it
stands for one that is a part of the reference. -/
def WellKinded (R : Registry) (s : Source.Signature) : Target.Signature → Prop
  | .inst generic args => R.target.Applies generic args
  | .param (.type u) position => ∃ t, .param (.type t) position ∈ s.parts ∧ R.ParamFor u t position
  | _ => True

theorem WellKinded.of_part (kinded : WellKinded R s' part) (sub : ∀ p ∈ s'.parts, p ∈ s.parts) :
    WellKinded R s part := by
  cases part with
  | param owner position =>
      cases owner with
      | type u =>
          rcases kinded with ⟨t, mem, named⟩
          exact ⟨t, sub _ mem, named⟩
      | method _ => trivial
  | inst generic args => exact kinded
  | _ => trivial

/-! ## Output types that stand for source types -/

/-- What stands for a source type is shaped like it: there is one parameter for each, of the same
name. -/
theorem params_of_standsFor (shaped : ∀ c, Shaped R m c) (stands : R.StandsFor u t) :
    ∃ d D k, R.source.types[t]? = some d ∧ R.target.types[u]? = some D ∧
      D.params = d.params.map (completedParam k) := by
  rcases stands with ⟨c, b, bound, rfl, source⟩
  rcases shaped c b t bound source with
    ⟨D, found, b', t', d, k, bound', source', declared, -, params, -⟩
  cases bound.symm.trans bound'
  cases source.symm.trans source'
  exact ⟨d, D, k.isBlittable, declared, found, params⟩

theorem paramFor_of_standsFor (shaped : ∀ c, Shaped R m c) (stands : R.StandsFor u t)
    {position : Nat} (kinded : R.source.hasKind (.param (.type t) position)) :
    R.ParamFor u t position := by
  rcases params_of_standsFor shaped stands with ⟨d, D, k, declared, found, params⟩
  have inRange : position < d.params.length := by
    simpa [Source.Catalog.hasKind, declared] using kinded
  refine ⟨D.params, d.params, completedParam k d.params[position], d.params[position], ?_,
    ?_, ?_, ?_, ?_⟩
  · simp [Target.Catalog.params, found]
  · simp [Source.Catalog.params, declared]
  · simp [params, inRange]
  · exact List.getElem?_eq_getElem inRange
  · cases k <;> rfl

/-- What renders a source type stands for it, also where that is a counterpart. -/
theorem standsFor_of_renders (coherent : R.Coherent) (counterparts : R.CounterpartsKeepSource)
    (renders : R.Renders t u) : R.StandsFor u t := by
  rcases renders with ⟨c, b, leads, bound, target⟩
  rcases coherent.binding?_source leads with ⟨b', -, bound', source, -⟩
  cases bound.symm.trans bound'
  rcases target with rfl | ⟨e, standIn, counterpart, found, rfl⟩
  · exact ⟨c, b, bound, rfl, source⟩
  · exact ⟨e, standIn, found, rfl,
      (counterparts c b bound e counterpart standIn found).trans source⟩

/-- What an application applies renders the generic type, as itself or boxed late, if the type has
no name with a meaning of its own. -/
theorem exists_renders_of_headForm {d : Source.TypeDecl} {args : List Source.Signature}
    {k : LayoutClass} (declared : R.source.types[t]? = some d)
    (treated : Corlib.treatment d.fullName = .bound) (leads : R.binding? t = some c)
    (form : Registry.HeadForm R m into boxed t args c k r) :
    ∃ u, r = .defined u ∧ R.Renders t u := by
  cases form with
  | plain _ named => exact Registry.renders_of_projectNamed declared treated named
  | proven _ _ named => exact Registry.renders_of_projectNamed declared treated named
  | lateBoxed _ _ target => exact ⟨_, rfl, Registry.renders_of_counterpartOf leads target⟩

/-! ## The parts of a form -/

theorem wellKinded_external (e : Target.External) :
    ∀ part ∈ (Target.Signature.external e).parts, WellKinded R s part := by
  intro part mem
  cases List.mem_singleton.1 mem
  trivial

theorem wellKinded_defined (u : Target.TypeId) :
    ∀ part ∈ (Target.Signature.defined u).parts, WellKinded R s part := by
  intro part mem
  cases List.mem_singleton.1 mem
  trivial

theorem applies_of_arrayFor {element : Source.Signature} {projected array : Target.Signature}
    (found : R.arrayFor element projected = .ok array) : R.target.Applies array [projected] := by
  refine .inr ⟨?_, rfl⟩
  rcases Registry.arrayFor_cases found with ⟨-, rfl⟩ | ⟨-, rfl | rfl⟩ <;> simp

/-- The parts of the form of a well-kinded reference are well-kinded. -/
theorem wellKinded_of_project (coherent : R.Coherent) (counterparts : R.CounterpartsKeepSource)
    (shaped : ∀ c, Shaped R m' c) (kinded : R.source.isWellKinded s)
    (yields : R.Yields m (R.project into boxed s) r) : ∀ part ∈ r.parts, WellKinded R s part := by
  induction s generalizing r with
  | named t =>
      cases yields.referenceForm with
      | named _ form =>
        cases form with
        | verbatim => exact wellKinded_external _
        | void => exact wellKinded_external _
        | string => exact wellKinded_external _
        | root => exact wellKinded_defined _
        | bound => exact wellKinded_defined _
  | unresolved name =>
      cases yields.referenceForm
      exact wellKinded_external _
  | array element rank ih =>
      rcases yields.project_array with
        ⟨-, rfl⟩ | ⟨-, -, rfl⟩ | ⟨rfl, -, projected, array, yieldsElement, wrapped, rfl⟩
      · exact wellKinded_external _
      · exact wellKinded_external _
      · have sub : ∀ p ∈ element.parts, p ∈ (Source.Signature.array element 1).parts := fun p mem =>
          List.mem_cons_of_mem _ (by simpa using mem)
        have within := ih (Source.Catalog.isWellKinded_of_parts kinded sub) yieldsElement
        rcases Registry.arrayFor_eq_ok wrapped with ⟨e, rfl, -⟩
        intro part mem
        rcases Target.Signature.mem_parts_inst.1 mem with rfl | mem | ⟨arg, inArgs, mem⟩
        · exact applies_of_arrayFor wrapped
        · exact wellKinded_external e part mem
        · cases List.mem_singleton.1 inArgs
          exact (within part mem).of_part sub
  | byRef target ih =>
      cases yields.referenceForm with
      | byRef yieldsTarget =>
        have sub : ∀ p ∈ target.parts, p ∈ (Source.Signature.byRef target).parts :=
          fun p => List.mem_cons_of_mem _
        intro part mem
        rcases List.mem_cons.1 mem with rfl | mem
        · trivial
        · exact (ih (Source.Catalog.isWellKinded_of_parts kinded sub) yieldsTarget part mem).of_part
            sub
  | pointer target ih =>
      cases yields.referenceForm with
      | pointer yieldsTarget =>
        have sub : ∀ p ∈ target.parts, p ∈ (Source.Signature.pointer target).parts :=
          fun p => List.mem_cons_of_mem _
        intro part mem
        rcases List.mem_cons.1 mem with rfl | mem
        · trivial
        · exact (ih (Source.Catalog.isWellKinded_of_parts kinded sub) yieldsTarget part mem).of_part
            sub
  | inst generic args ih =>
      cases yields.referenceForm with
      | inst leads form yieldsArgs =>
        rcases coherent.binding?_source leads with ⟨b, d, -, -, declared⟩
        have here : d.params.length = args.length ∧ Corlib.treatment d.fullName = .bound := by
          simpa [Source.Catalog.hasKind, declared]
            using Source.Catalog.hasKind_of_isWellKinded kinded
        rcases exists_renders_of_headForm declared here.2 leads form with ⟨u, rfl, renders⟩
        rcases yieldsArgs.projectAll with ⟨length, each⟩
        intro part mem
        rcases Target.Signature.mem_parts_inst.1 mem with rfl | mem | ⟨arg, inArgs, mem⟩
        · have stands := standsFor_of_renders coherent counterparts renders
          rcases params_of_standsFor shaped stands with ⟨d', D, k, declared', found, params⟩
          cases declared.symm.trans declared'
          exact .inl ⟨u, D, rfl, found, by rw [params, List.length_map, here.1, length]⟩
        · exact wellKinded_defined u part mem
        · rcases List.mem_iff_getElem?.1 inArgs with ⟨i, at_⟩
          rcases each i arg at_ with ⟨arg', at', yieldsArg⟩
          have inArgs' := List.mem_of_getElem? at'
          have sub : ∀ p ∈ arg'.parts, p ∈ (Source.Signature.inst generic args).parts :=
            fun p => Source.Signature.parts_arg inArgs'
          exact (ih arg' inArgs' (Source.Catalog.isWellKinded_of_parts kinded sub)
            yieldsArg part mem).of_part sub
  | param owner position =>
      cases yields.referenceForm with
      | param yieldsOwner =>
        intro part mem
        cases List.mem_singleton.1 mem
        cases owner with
        | method method =>
            have undisturbed := Registry.settled_undisturbed R m
            rcases yieldsOwner.bind (undisturbed.projectMethod method) with ⟨_, -, yieldsOwner⟩
            cases yieldsOwner.pure
            trivial
        | type t =>
            rcases yieldsOwner.projectOwner_type with ⟨c, u, leads, target, rfl⟩
            have stands :=
              standsFor_of_renders coherent counterparts (Registry.renders_of_targetOf leads target)
            exact ⟨t, Source.Signature.self_mem_parts _,
              paramFor_of_standsFor shaped stands (Source.Catalog.hasKind_of_isWellKinded kinded)⟩

/-! ## After a completion -/

variable {W W' : Workspace} {counts : Summary}

/-- After a completion that succeeds, every form of a well-kinded reference is well-kinded, and each
parameter in it has the name of a source parameter. -/
theorem wellKinded_of_complete (reachable : W.Reachable) (once : W.registry.TargetsBoundOnce)
    (plain : W.registry.TargetsStartPlain) (counterparts : W.registry.CounterpartsKeepSource)
    (run : complete.run W = (.ok counts, W')) (kinded : W.registry.source.isWellKinded s)
    (qs : List Question) {notes : Ledger}
    (projected : (W'.registry.project into boxed s).run (W'.registry.notesAfter W'.notes qs) =
      (.ok r, notes)) :
    (∀ generic args, .inst generic args ∈ r.parts → W'.registry.target.Applies generic args) ∧
      ∀ u position, .param (.type u) position ∈ r.parts →
        ∃ t, .param (.type t) position ∈ s.parts ∧ W'.registry.ParamFor u t position := by
  rw [run_complete] at run
  rcases Outcome.of_completeIn once plain run with ⟨p, q, W₁, outcome, -⟩
  have shaped := outcome.shaped reachable.coherent once
  have coherent : W'.registry.Coherent := by
    rcases outcome.leads.registry with ⟨types, eq⟩
    exact eq ▸ reachable.coherent.withTarget _
  have counterparts' : W'.registry.CounterpartsKeepSource := by
    unfold Registry.CounterpartsKeepSource
    rwa [outcome.midway.types]
  have yields : W'.registry.Yields W'.notes.classes (W'.registry.project into boxed s) r :=
    ⟨_, notes, Registry.settled_notesAfter (.refl _ _) qs, projected⟩
  have within := wellKinded_of_project coherent counterparts' shaped
    (outcome.midway.source ▸ kinded) yields
  exact ⟨fun generic args mem => within _ mem, fun u position mem => within _ mem⟩

end Completion

namespace Sample

/-- Bags of arrays of lists of what lists hold, as a list may mention them. -/
def bagOfOwn : Source.Signature := .inst ⟨7⟩ [.array (.inst ⟨5⟩ [.param (.type ⟨5⟩) 0]) 1]

/-- In the reference form, the stand-in for lists is applied, and its parameter takes the place of
that of lists. -/
def bagOfOwnBoxed : Target.Signature :=
  .inst (.defined ⟨7⟩)
    [.inst Interop.referenceArray [.inst (.defined ⟨10⟩) [.param (.type ⟨10⟩) 0]]]

end Sample

/-- In the sample program, the stand-in for lists takes one argument, and its parameter has the name
of the one of lists. -/
theorem Completion.wellKinded_of_complete_bag :
    (complete.run Sample.shop).1 =
        .ok { params := 3, unmanagedParams := 1, enumBases := 1, valueTypeBases := 2,
              projectedBases := 8 } ∧
      Sample.shop.registry.CounterpartsKeepSource ∧
        Sample.shop.registry.source.isWellKinded Sample.bagOfOwn ∧
      (((complete.run Sample.shop).2.registry.project ⟨1⟩ true Sample.bagOfOwn).run
        ((complete.run Sample.shop).2.registry.notesAfter (complete.run Sample.shop).2.notes
          [.classOf ⟨5⟩])).1 =
          .ok Sample.bagOfOwnBoxed ∧
      (complete.run Sample.shop).2.registry.target.Applies (.defined ⟨10⟩) [.param (.type ⟨10⟩) 0] ∧
      ∃ t, .param (.type t) 0 ∈ Sample.bagOfOwn.parts ∧
        (complete.run Sample.shop).2.registry.ParamFor ⟨10⟩ t 0 := by
  have completed : (complete.run Sample.shop).1 =
      .ok { params := 3, unmanagedParams := 1, enumBases := 1, valueTypeBases := 2,
            projectedBases := 8 } := by
    decide +kernel
  have counterparts : Sample.shop.registry.CounterpartsKeepSource := by decide +kernel
  have kinded : Sample.shop.registry.source.isWellKinded Sample.bagOfOwn := by decide +kernel
  have projected : (((complete.run Sample.shop).2.registry.project ⟨1⟩ true Sample.bagOfOwn).run
      ((complete.run Sample.shop).2.registry.notesAfter (complete.run Sample.shop).2.notes
        [.classOf ⟨5⟩])).1 =
        .ok Sample.bagOfOwnBoxed := by
    decide +kernel
  have reachable : Sample.shop.Reachable := ⟨_, _, _, _, rfl⟩
  obtain ⟨applications, params⟩ :=
    wellKinded_of_complete reachable (by decide +kernel) (by decide +kernel)
      counterparts (Effect.run_eq completed) kinded [.classOf ⟨5⟩] (Effect.run_eq projected)
  have applied : .inst (.defined ⟨10⟩) [.param (.type ⟨10⟩) 0] ∈ Sample.bagOfOwnBoxed.parts := by
    simp [Sample.bagOfOwnBoxed, Target.Signature.parts, Target.Signature.partsOfAll]
  have param : .param (.type ⟨10⟩) 0 ∈ Sample.bagOfOwnBoxed.parts := by
    simp [Sample.bagOfOwnBoxed, Target.Signature.parts, Target.Signature.partsOfAll]
  exact ⟨completed, counterparts, kinded, projected, applications _ _ applied, params _ _ param⟩

end TypeProjection
