import TypeProjection.Proofs.Completion.Filled
import TypeProjection.Proofs.Completion.StandIns
import TypeProjection.Proofs.Completion.ValueTypes
import TypeProjection.Proofs.Completion.WellKinded

/-!
# Proofs.Completion.SelfReference — a generic type's reference to itself

The fields of a generic type refer to the type over its own parameters. What is applied there hangs
on the class of the binding, on what is known of the parameters and on the flag, and whose
parameters are meant on the flag alone. After a completion both come to the same output type:

* `Source.Signature.overOwn`, `Target.Signature.overOwn` : a generic type over its own parameters;
* `Registry.GoesTo` : the output type to which a source type goes at a position;
* `GoesTo.project_overOwn` : where what is applied is that type, a reference to itself is one;
* `Completion.isMarked_of_shaped` : which parameters a completion has marked;
* `project_overOwn_of_complete` : self-references after a completion.
-/

namespace TypeProjection

open Effect (Gives)
open Layout (Memo Traced HasClass)

/-- A generic type over so many parameters of its own. -/
def Source.Signature.overOwn (t : TypeId) (arity : Nat) : Signature :=
  .inst t ((List.range arity).map (.param (.type t)))

/-- A generic type of the output over so many parameters of its own. -/
def Target.Signature.overOwn (u : TypeId) (arity : Nat) : Signature :=
  .inst (.defined u) ((List.range arity).map (.param (.type u)))

namespace Registry

/-! ## Where a source type goes -/

/-- In a module that is there, a source type whose name has no meaning of its own goes to an output
type: that of its binding, or of the counterpart if the reference form is asked for. -/
structure GoesTo (R : Registry) (into : Target.ModuleId) (boxed : Bool) (t : Source.TypeId)
    (c : TypeBindingId) (u : Target.TypeId) : Prop where
  there : into.index < R.target.modules.size
  declared : ∃ d, R.source.types[t]? = some d ∧ Corlib.treatment d.fullName = .bound
  leads : R.binding? t = some c
  target : R.targetOf boxed c = .ok u
  output : ∃ D, R.target.types[u]? = some D

/-- Over all notes that are traced with respect to a registry with the same bindings, a question has
this answer. -/
def Offers {α : Type} (R₀ : Registry) (m : Memo) (q : Query α) (a : α) : Prop :=
  Gives (fun notes => Traced R₀ m notes.classes) q a

variable {R₀ R : Registry} {m : Memo} {into : Target.ModuleId} {boxed : Bool} {t : Source.TypeId}
  {c : TypeBindingId} {u : Target.TypeId} {k : LayoutClass} {positions : List Nat} {position : Nat}

theorem offers_importType (there : into.index < R.target.modules.size)
    (output : ∃ D, R.target.types[u]? = some D) :
    Offers R₀ m (R.target.importType into u) (.defined u) := by
  rcases output with ⟨D, found⟩
  exact .of_keeps (constant_importType R.target u).keeps fun notes _ =>
    exists_importType found there notes

namespace GoesTo

theorem projectNamed (goes : GoesTo R into boxed t c u) :
    Offers R₀ m (R.projectNamed into boxed t) (.defined u) := by
  rcases goes.declared with ⟨d, declared, treated⟩
  refine .bind (.lift (fullName_of_declared declared)) ?_
  simp only [treated]
  exact .bind (.lift (bindingFor_eq_ok_iff.2 goes.leads)) (.bind (.lift goes.target)
    (offers_importType goes.there goes.output))

/-- The parameters of the source type are those of the output type. -/
theorem projectOwner (goes : GoesTo R into boxed t c u) :
    Offers R₀ m (R.projectOwner into boxed (.type t)) (.type u) :=
  .bind (.lift (bindingFor_eq_ok_iff.2 goes.leads)) (.bind (.lift goes.target)
    (.bind (offers_importType goes.there goes.output) (.pure _)))

theorem projectAll (goes : GoesTo R into boxed t c u) (positions : List Nat) :
    Offers R₀ m (R.projectAll into boxed (positions.map (.param (.type t))))
      (positions.map (.param (.type u))) := by
  induction positions with
  | nil =>
      rw [List.map_nil, Registry.projectAll]
      exact .pure []
  | cons position positions ih =>
      have first : Offers R₀ m (R.project into boxed (.param (.type t) position))
          (.param (.type u) position) := by
        rw [Registry.project]
        exact .bind goes.projectOwner (.pure _)
      rw [List.map_cons, Registry.projectAll]
      exact .bind first (.bind ih (.pure _))

/-! ## What is known of own parameters -/

theorem provenUnmanaged_param {marked : Bool} (goes : GoesTo R into boxed t c u)
    (isMarked : R.target.isMarked (.type u) position = some marked) :
    Offers R₀ m (R.provenUnmanaged into boxed (.param (.type t) position)) marked := by
  rw [Registry.provenUnmanaged]
  exact .bind goes.projectOwner (.lift (orDangling_eq_ok_iff.2 isMarked))

/-- Where all own parameters are marked, all are known to be unmanaged. -/
theorem allProvenUnmanaged (goes : GoesTo R into boxed t c u)
    (isMarked : ∀ position ∈ positions, R.target.isMarked (.type u) position = some true) :
    Offers R₀ m (R.allProvenUnmanaged into boxed (positions.map (.param (.type t)))) true := by
  induction positions with
  | nil =>
      rw [List.map_nil, Registry.allProvenUnmanaged]
      exact .pure true
  | cons position positions ih =>
      rw [List.map_cons, Registry.allProvenUnmanaged]
      exact .bind (goes.provenUnmanaged_param (isMarked position List.mem_cons_self))
        (ih fun position mem => isMarked position (List.mem_cons_of_mem _ mem))

/-- Where the first own parameter is not marked, the search ends there. -/
theorem not_allProvenUnmanaged (goes : GoesTo R into boxed t c u)
    (isMarked : R.target.isMarked (.type u) position = some false) :
    Offers R₀ m (R.allProvenUnmanaged into boxed ((position :: positions).map (.param (.type t))))
      false := by
  rw [List.map_cons, Registry.allProvenUnmanaged]
  exact .bind (goes.provenUnmanaged_param isMarked) (.pure false)

/-! ## What is applied -/

theorem isBlittable (goes : GoesTo R into boxed t c u) (isClass : Offers R₀ m (R.classOf c) k) :
    Offers R₀ m (R.isBlittable t) k.isBlittable :=
  .bind (.lift (bindingFor_eq_ok_iff.2 goes.leads)) (.bind isClass (.pure _))

theorem projectHead_of_ne (goes : GoesTo R into boxed t c u) (isClass : Offers R₀ m (R.classOf c) k)
    (notGeneric : k ≠ .genericBlittable) (args : List Source.Signature) :
    Offers R₀ m (R.projectHead into boxed t args) (.defined u) := by
  refine .bind (.lift (bindingFor_eq_ok_iff.2 goes.leads)) (.bind isClass ?_)
  rw [if_neg notGeneric]
  exact goes.projectNamed

/-- A generic value type over its own marked parameters is not boxed late. -/
theorem projectHead_of_marked (goes : GoesTo R into boxed t c u)
    (isClass : Offers R₀ m (R.classOf c) .genericBlittable)
    (isMarked : ∀ position ∈ positions, R.target.isMarked (.type u) position = some true) :
    Offers R₀ m (R.projectHead into boxed t (positions.map (.param (.type t)))) (.defined u) := by
  have proven : Offers R₀ m
      (R.provenUnmanaged into boxed (.inst t (positions.map (.param (.type t))))) true := by
    rw [Registry.provenUnmanaged]
    exact .bind (goes.allProvenUnmanaged isMarked) (goes.isBlittable isClass)
  refine .bind (.lift (bindingFor_eq_ok_iff.2 goes.leads)) (.bind isClass ?_)
  rw [if_pos rfl]
  exact .bind proven goes.projectNamed

/-- Over a parameter that is not marked it is, and then goes to its counterpart. -/
theorem projectHead_of_unmarked (goes : GoesTo R into boxed t c u)
    (isClass : Offers R₀ m (R.classOf c) .genericBlittable)
    (isMarked : R.target.isMarked (.type u) position = some false)
    (counterpart : R.counterpartOf t c = .ok u) :
    Offers R₀ m (R.projectHead into boxed t ((position :: positions).map (.param (.type t))))
      (.defined u) := by
  have unproven : Offers R₀ m
      (R.provenUnmanaged into boxed (.inst t ((position :: positions).map (.param (.type t)))))
        false := by
    rw [Registry.provenUnmanaged]
    exact .bind (goes.not_allProvenUnmanaged isMarked) (.pure false)
  refine .bind (.lift (bindingFor_eq_ok_iff.2 goes.leads)) (.bind isClass ?_)
  rw [if_pos rfl]
  exact .bind unproven (.bind (.lift counterpart) (offers_importType goes.there goes.output))

/-- Where the type to which a source type goes is what is applied, the reference of the source type
to itself is one of that type to itself. -/
theorem project_overOwn (goes : GoesTo R into boxed t c u) {arity : Nat}
    (head : Offers R₀ m (R.projectHead into boxed t ((List.range arity).map (.param (.type t))))
      (.defined u)) :
    Offers R₀ m (R.project into boxed (.overOwn t arity)) (.overOwn u arity) := by
  rw [Source.Signature.overOwn, Registry.project]
  exact .bind (goes.projectAll (List.range arity)) (.bind head (.pure _))

end GoesTo

/-! ## Counterparts -/

theorem counterpartOf_eq {b standIn : TypeBinding} {e : TypeBindingId}
    (bound : R.types[c]? = some b) (counterpart : b.counterpart = some e)
    (found : R.types[e]? = some standIn) (t : Source.TypeId) :
    R.counterpartOf t c = .ok standIn.target := by
  refine except_bind_eq_ok_iff.2 ⟨b, Table.fetch_eq_ok_iff.2 bound, ?_⟩
  simp only [counterpart]
  exact except_bind_eq_ok_iff.2 ⟨standIn, Table.fetch_eq_ok_iff.2 found, rfl⟩

/-- The output type that the flag asks for: that of the counterpart where there is one, else that of
the binding. -/
inductive TargetFor (R : Registry) (boxed : Bool) (b : TypeBinding) : Target.TypeId → Prop
  | own (alone : boxed = false ∨ b.counterpart = none) : TargetFor R boxed b b.target
  | counterpart {e : TypeBindingId} {standIn : TypeBinding} (isBoxed : boxed)
      (counterpart : b.counterpart = some e) (found : R.types[e]? = some standIn) :
      TargetFor R boxed b standIn.target

/-- The output catalog has no part in which output type the flag asks for. -/
theorem TargetFor.withTarget {b : TypeBinding} (target : TargetFor R boxed b u)
    (C : Target.Catalog) :
    TargetFor { R with target := C } boxed b u := by
  cases target with
  | own alone => exact .own alone
  | counterpart isBoxed counterpart found => exact .counterpart isBoxed counterpart found

theorem targetOf_eq_ok_iff {b : TypeBinding} (bound : R.types[c]? = some b) :
    R.targetOf boxed c = .ok u ↔ TargetFor R boxed b u := by
  constructor
  · intro target
    rcases targetOf_eq_ok target with
      ⟨b', bound', ⟨rfl, alone⟩ | ⟨isBoxed, e, standIn, counterpart, found, rfl⟩⟩
    · cases bound.symm.trans bound'
      exact .own alone
    · cases bound.symm.trans bound'
      exact .counterpart isBoxed counterpart found
  · intro target
    refine except_bind_eq_ok_iff.2 ⟨b, Table.fetch_eq_ok_iff.2 bound, ?_⟩
    cases target with
    | own alone =>
        rcases alone with unboxed | alone
        · cases b.counterpart with
          | none => rfl
          | some e => rw [unboxed]; rfl
        · rw [alone]; rfl
    | counterpart isBoxed counterpart found =>
        simp only [counterpart, isBoxed, if_true]
        exact except_bind_eq_ok_iff.2 ⟨_, Table.fetch_eq_ok_iff.2 found, rfl⟩

/-- Where counterparts are stand-ins, the flag always has an output type to ask for. -/
theorem exists_targetFor (counterparts : R.CounterpartsStandIn) {b : TypeBinding}
    (bound : R.types[c]? = some b) (boxed : Bool) : ∃ u, TargetFor R boxed b u := by
  cases boxed with
  | false => exact ⟨_, .own (.inl rfl)⟩
  | true =>
      rcases counterparts c b bound with alone | self | hasStandIn
      · exact ⟨_, .own (.inr alone)⟩
      · exact ⟨_, .counterpart rfl self bound⟩
      · rcases hasStandIn_iff.1 hasStandIn with ⟨e, standIn, counterpart, found, -⟩
        exact ⟨_, .counterpart rfl counterpart found⟩

end Registry

namespace Completion

variable {R₀ R : Registry} {m : Memo} {into : Target.ModuleId} {boxed : Bool} {t : Source.TypeId}
  {d : Source.TypeDecl} {c : TypeBindingId} {b : TypeBinding} {u : Target.TypeId} {k : LayoutClass}

/-- The parameters of an output type that is shaped by a binding are marked just if the binding is
blittable. -/
theorem isMarked_of_shaped (shaped : Shaped R m c) (bound : R.types[c]? = some b)
    (source : b.source = some t) (declared : R.source.types[t]? = some d) (has : HasClass R m c k)
    {position : Nat} (inRange : position < d.params.length) :
    R.target.isMarked (.type b.target) position = some k.isBlittable := by
  rcases shaped b t bound source with ⟨D, found, shapedBy⟩
  have params := (shapedBy.shape bound source declared has).1
  have marked : (completedParam k.isBlittable d.params[position]).unmanaged = k.isBlittable := by
    cases k.isBlittable <;> rfl
  simp [Target.Catalog.isMarked, Target.Catalog.params, found, params, inRange, marked]

/-- Over shaped output types, the output type that the flag asks for is there, and has as many
parameters as the source type. -/
theorem params_of_targetFor (shaped : ∀ c, Shaped R m c) (sources : R.CounterpartsKeepSource)
    (bound : R.types[c]? = some b) (source : b.source = some t)
    (declared : R.source.types[t]? = some d) (target : R.TargetFor boxed b u) :
    ∃ D, R.target.types[u]? = some D ∧ D.params.length = d.params.length := by
  have stands : R.StandsFor u t := by
    cases target with
    | own => exact ⟨c, b, bound, rfl, source⟩
    | @counterpart e standIn _ counterpart found =>
        exact ⟨e, standIn, found, rfl, (sources c b bound e counterpart standIn found).trans source⟩
  rcases params_of_standsFor shaped stands with ⟨d', D, blittable, declared', output, params⟩
  cases declared.symm.trans declared'
  exact ⟨D, output, by simp [params]⟩

/-- Over shaped output types, a generic type over its own parameters applies the output type that
the flag asks for, whatever the class of its binding. -/
theorem projectHead_overOwn (shaped : ∀ c, Shaped R m c) (counterparts : R.CounterpartsStandIn)
    (sources : R.CounterpartsKeepSource) (goes : R.GoesTo into boxed t c u)
    (bound : R.types[c]? = some b) (source : b.source = some t)
    (declared : R.source.types[t]? = some d) (has : HasClass R m c k)
    (isClass : Registry.Offers R₀ m (R.classOf c) k)
    (generic : k = .genericBlittable → d.params ≠ []) :
    Registry.Offers R₀ m
      (R.projectHead into boxed t ((List.range d.params.length).map (.param (.type t))))
      (.defined u) := by
  by_cases isGeneric : k = .genericBlittable
  · subst isGeneric
    have ownMarked : ∀ position ∈ List.range d.params.length,
        R.target.isMarked (.type b.target) position = some true := fun position mem =>
      isMarked_of_shaped (shaped c) bound source declared has (List.mem_range.1 mem)
    cases (Registry.targetOf_eq_ok_iff bound).1 goes.target with
    | own => exact goes.projectHead_of_marked isClass ownMarked
    | @counterpart e standIn _ counterpart found =>
        rcases counterparts c b bound with alone | self | hasStandIn
        · cases alone.symm.trans counterpart
        · -- The binding is its own counterpart.
          cases self.symm.trans counterpart
          cases bound.symm.trans found
          exact goes.projectHead_of_marked isClass ownMarked
        · -- The parameters of a stand-in are not marked, so the type is boxed late, to that one.
          rcases Registry.hasStandIn_iff.1 hasStandIn with
            ⟨e', standIn', counterpart', found', isStandIn⟩
          cases counterpart.symm.trans counterpart'
          cases found.symm.trans found'
          have sourceStandIn := (sources c b bound e counterpart standIn found).trans source
          have positive : 0 < d.params.length := List.length_pos_iff.2 (generic rfl)
          have unmarked : R.target.isMarked (.type standIn.target) 0 = some false :=
            isMarked_of_shaped (shaped e) found sourceStandIn declared
              (hasClass_of_standIn found isStandIn) positive
          obtain ⟨arity, length⟩ := Nat.exists_eq_succ_of_ne_zero (Nat.ne_of_gt positive)
          rw [length, List.range_succ_eq_map]
          exact goes.projectHead_of_unmarked isClass unmarked
            (Registry.counterpartOf_eq bound counterpart found t)
  · exact goes.projectHead_of_ne isClass isGeneric _

/-! ## After a completion -/

variable {W W' : Workspace} {counts : Summary}

/-- After a completion that succeeds, the form of a source type over its own parameters is an output
type over as many parameters of its own. -/
theorem project_overOwn_of_complete (reachable : W.Reachable) (once : W.registry.TargetsBoundOnce)
    (plain : W.registry.TargetsStartPlain) (counterparts : W.registry.CounterpartsStandIn)
    (sources : W.registry.CounterpartsKeepSource) (run : complete.run W = (.ok counts, W'))
    (declared : W.registry.source.types[t]? = some d)
    (treated : Corlib.treatment d.fullName = .bound) (leads : W.registry.binding? t = some c)
    (bound : W.registry.types[c]? = some b) (boxed : Bool) {i : AssemblyBindingId}
    {A : AssemblyBinding} (listed : W'.registry.assemblies[i]? = some A) (qs : List Question) :
    ∃ u D, W.registry.TargetFor boxed b u ∧ W'.registry.target.types[u]? = some D ∧
      D.params.length = d.params.length ∧
      ((W'.registry.project A.module boxed (.overOwn t d.params.length)).run
        (W'.registry.notesAfter W'.notes qs)).1 = .ok (.overOwn u d.params.length) := by
  have there : W'.registry.HasModules :=
    Registry.HasModules.survives.complete.after reachable.hasModules run
  rw [run_complete] at run
  rcases Outcome.of_completeIn once plain run with ⟨p, q, W₁, outcome, -⟩
  have shaped := outcome.shaped reachable.coherent once
  rcases outcome.leads.registry with ⟨types, eq⟩
  have source : b.source = some t := by
    rcases reachable.coherent.binding?_source leads with ⟨b', -, bound', source, -⟩
    cases bound.symm.trans bound'
    exact source
  obtain ⟨d', k, D₀, sourced, -, -⟩ := outcome.types_shaped once bound source
    (reachable.coherent.mem_bindings bound fun c' b' bound' same =>
      once c' b' bound' c b bound same)
  cases declared.symm.trans sourced.declared
  have generic : k = .genericBlittable → d.params ≠ [] := by
    rintro rfl
    have fits := (Layout.fits_sound.of_reachable reachable sourced.hasClass rfl).of_bound bound
      source declared
    exact (fits.generic rfl).2
  -- Bindings and classes are as they were before.
  have isClass : Registry.Offers W.registry W.notes.classes (W'.registry.classOf c) k :=
    .of_keeps (Registry.constant_classOf outcome.midway.sameBindings c).keeps fun notes traced => by
      have classified :=
        ((Registry.constant_classOf outcome.midway.sameBindings c).outcome notes traced).1
      rw [Registry.classOf_congr outcome.midway.sameBindings] at classified
      exact ⟨_, Registry.classOf_congr outcome.midway.sameBindings c ▸ Effect.run_eq
        (classified.trans sourced.starts)⟩
  have counterparts' : W'.registry.CounterpartsStandIn := eq ▸ counterparts
  have sources' : W'.registry.CounterpartsKeepSource := eq ▸ sources
  have bound' : W'.registry.types[c]? = some b := outcome.midway.types ▸ bound
  have declared' : W'.registry.source.types[t]? = some d := outcome.midway.source ▸ declared
  have has : HasClass W'.registry W.notes.classes c k :=
    eq ▸ Layout.hasClass_withTarget_iff.2 sourced.hasClass
  rcases Registry.exists_targetFor counterparts bound boxed with ⟨u, target⟩
  have target' : W'.registry.TargetFor boxed b u := eq ▸ target.withTarget _
  rcases params_of_targetFor shaped sources' bound' source declared' target' with ⟨D, output, arity⟩
  have goes : W'.registry.GoesTo A.module boxed t c u :=
    ⟨there i A listed, ⟨d, declared', treated⟩, (outcome.midway.sameBindings.binding t).trans leads,
      (Registry.targetOf_eq_ok_iff bound').2 target', ⟨D, output⟩⟩
  have head := projectHead_overOwn shaped counterparts' sources' goes bound' source declared' has
    isClass generic
  rcases goes.project_overOwn head
    _ (Registry.traced_notesAfter outcome.midway.sameBindings outcome.midway.traced qs)
    with ⟨notes, projected, -⟩
  exact ⟨u, D, target, output, arity, congrArg Prod.fst projected⟩

/-- In the sample program, lists over their own parameter stay lists where they stand for
themselves, and are boxed where the reference form is asked for. -/
theorem project_overOwn_of_complete_list :
    (complete.run Sample.shop).1 =
        .ok { params := 3, unmanagedParams := 1, enumBases := 1, valueTypeBases := 2,
              projectedBases := 8 } ∧
      ∀ qs, (((complete.run Sample.shop).2.registry.project ⟨1⟩ false (.overOwn ⟨5⟩ 1)).run
          ((complete.run Sample.shop).2.registry.notesAfter
            (complete.run Sample.shop).2.notes qs)).1 =
        .ok (.overOwn ⟨5⟩ 1) ∧
      (((complete.run Sample.shop).2.registry.project ⟨1⟩ true (.overOwn ⟨5⟩ 1)).run
          ((complete.run Sample.shop).2.registry.notesAfter
            (complete.run Sample.shop).2.notes qs)).1 =
        .ok (.overOwn ⟨10⟩ 1) := by
  have completed : (complete.run Sample.shop).1 =
      .ok { params := 3, unmanagedParams := 1, enumBases := 1, valueTypeBases := 2,
            projectedBases := 8 } := by
    decide +kernel
  have list : Sample.shop.registry.types[(⟨5⟩ : TypeBindingId)]?.map
    (fun b => (b.target, b.counterpart)) =
      some (⟨5⟩, some ⟨10⟩) := by
    decide +kernel
  have standIn : Sample.shop.registry.types[(⟨10⟩ : TypeBindingId)]?.map (·.target) =
      some ⟨10⟩ := by
    decide +kernel
  have declaration : Sample.shop.registry.source.types[(⟨5⟩ : Source.TypeId)]?.map
      (fun d => (d.params.length, Corlib.treatment d.fullName)) = some (1, .bound) := by
    decide +kernel
  have leads : Sample.shop.registry.binding? ⟨5⟩ = some ⟨5⟩ := by decide +kernel
  have home : (complete.run Sample.shop).2.registry.assemblies[(⟨1⟩ : AssemblyBindingId)]?.map
    (·.module) =
      some ⟨1⟩ := by
    decide +kernel
  have reachable : Sample.shop.Reachable := ⟨_, _, _, _, rfl⟩
  rcases Option.map_eq_some_iff.1 list with ⟨b, bound, eq⟩
  rcases Option.map_eq_some_iff.1 standIn with ⟨e, found, target⟩
  rcases Option.map_eq_some_iff.1 declaration with ⟨d, declared, shape⟩
  rcases Option.map_eq_some_iff.1 home with ⟨A, listed, module⟩
  simp only [Prod.mk.injEq] at eq shape
  have answers := fun boxed qs =>
    project_overOwn_of_complete reachable (by decide +kernel) (by decide +kernel)
      (by decide +kernel) (by decide +kernel) (Effect.run_eq completed)
        declared shape.2 leads bound boxed listed qs
  simp only [shape.1, module] at answers
  refine ⟨completed, fun qs => ⟨?_, ?_⟩⟩
  · obtain ⟨u, D, asked, -, -, answer⟩ := answers false qs
    cases asked with
    | own => rwa [eq.1] at answer
    | counterpart isBoxed => cases isBoxed
  · obtain ⟨u, D, asked, -, -, answer⟩ := answers true qs
    cases asked with
    | own alone => simp [eq.2] at alone
    | counterpart _ counterpart found' =>
        rw [← Option.some.inj (eq.2.symm.trans counterpart)] at found'
        rwa [← Option.some.inj (found.symm.trans found'), target] at answer

end Completion

end TypeProjection
