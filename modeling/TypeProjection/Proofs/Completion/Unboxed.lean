import TypeProjection.Proofs.Completion.Filled
import TypeProjection.Proofs.Projection.Constant
import TypeProjection.Proofs.Projection.Faithful

/-!
# Proofs.Completion.Unboxed — the reference form is never better known to be unmanaged

The flag that asks for the reference form goes along with a reference down to its parameters, and
there it decides whether the marks of a type are read or those of its counterpart. Counterparts are
stand-ins, which a completion leaves without marks, so that the flag can only take knowledge away:

* `Registry.CounterpartsUnmarked` : no counterpart has marks, unless a binding is its own;
* `Registry.provenUnmanaged_unboxed` : what is known to be unmanaged with the flag is known to be so
  without it;
* `Registry.boxesLate` : whether an application goes to the counterpart without being asked to;
* `Completion.unboxed_of_complete` : marks and late boxing after a completion.
-/

namespace TypeProjection

open Effect (bind_eq_ok_iff lift_bind_eq_ok_iff lift_eq_ok_iff)
open Layout (Memo)

namespace Registry

open Source (TypeId Signature)

variable {R : Registry} {m : Memo} {into : Target.ModuleId} {boxed : Bool} {notes notes' : Ledger}
  {s : Signature}

/-- No parameter of a counterpart is marked unmanaged, except where a binding is its own
counterpart. -/
def CounterpartsUnmarked (R : Registry) : Prop :=
  ∀ (c e : TypeBindingId) (b standIn : TypeBinding), R.types[c]? = some b → b.counterpart = some e →
    R.types[e]? = some standIn →
    e = c ∨ ∀ position, R.target.isMarked (.type standIn.target) position ≠ some true

/-! ## Marks -/

/-- A marked parameter belongs to the binding's own output type, also where the reference form is
asked for. -/
theorem targetOf_unboxed (unmarked : R.CounterpartsUnmarked) {c : TypeBindingId} {u : Target.TypeId}
    {position : Nat} (target : R.targetOf true c = .ok u)
    (marked : R.target.isMarked (.type u) position = some true) :
    R.targetOf false c = .ok u := by
  obtain ⟨b, bound, ⟨rfl, -⟩ | ⟨-, e, standIn, counterpart, bound', rfl⟩⟩ := targetOf_eq_ok target
  · exact targetOf_false bound
  · rcases unmarked c e b standIn bound counterpart bound' with rfl | unmarked
    · exact targetOf_false bound'
    · exact absurd marked (unmarked position)

/-- So the owner of a marked parameter is found in the same way without the flag. -/
theorem projectOwner_unboxed (unmarked : R.CounterpartsUnmarked) {owner : Source.Owner}
    {target : Target.Owner} {position : Nat}
    (run : (R.projectOwner into true owner).run notes = (.ok target, notes'))
    (marked : R.target.isMarked target position = some true) :
    (R.projectOwner into false owner).run notes = (.ok target, notes') := by
  cases owner with
  | method method => exact run
  | type t =>
      rcases lift_bind_eq_ok_iff.1 run with ⟨c, bound, run⟩
      rcases lift_bind_eq_ok_iff.1 run with ⟨u, found, run⟩
      -- Mentioning the type comes last and says what the owner is.
      have imported := run
      rcases bind_eq_ok_iff.1 run with ⟨_, _, -, run⟩
      cases (Effect.pure_eq_ok_iff.1 run).1
      have found := targetOf_unboxed unmarked found marked
      exact lift_bind_eq_ok_iff.2 ⟨c, bound, lift_bind_eq_ok_iff.2 ⟨u, found, imported⟩⟩

/-! ## Unmanaged references -/

theorem allProvenUnmanaged_unboxed {args : List Signature}
    (each : ∀ arg ∈ args, ∀ notes notes', (R.provenUnmanaged into true arg).run notes =
      (.ok true, notes') → (R.provenUnmanaged into false arg).run notes = (.ok true, notes'))
    (run : (R.allProvenUnmanaged into true args).run notes = (.ok true, notes')) :
    (R.allProvenUnmanaged into false args).run notes = (.ok true, notes') := by
  induction args generalizing notes with
  | nil => exact run
  | cons arg args ih =>
      rw [allProvenUnmanaged] at run ⊢
      rcases bind_eq_ok_iff.1 run with ⟨first, between, runFirst, run⟩
      cases first with
      | false => cases (Effect.pure_eq_ok_iff.1 run).1
      | true =>
          have runFirst := each arg List.mem_cons_self _ _ runFirst
          have rest := ih (fun arg mem => each arg (List.mem_cons_of_mem _ mem)) run
          exact bind_eq_ok_iff.2 ⟨true, between, runFirst, rest⟩

/-- What is known to be unmanaged where the reference form is asked for is known to be so without
the flag, by the very same way of finding out. -/
theorem provenUnmanaged_unboxed (unmarked : R.CounterpartsUnmarked)
    (run : (R.provenUnmanaged into true s).run notes = (.ok true, notes')) :
    (R.provenUnmanaged into false s).run notes = (.ok true, notes') := by
  induction s generalizing notes notes' with
  | inst generic args ih =>
      rw [provenUnmanaged] at run ⊢
      rcases bind_eq_ok_iff.1 run with ⟨all, between, runAll, run⟩
      cases all with
      | false => cases (Effect.pure_eq_ok_iff.1 run).1
      | true =>
          have runAll := allProvenUnmanaged_unboxed (fun arg mem _ _ run => ih arg mem run) runAll
          -- Whether the generic type is blittable is asked without the flag.
          exact bind_eq_ok_iff.2 ⟨true, between, runAll, run⟩
  | param owner position =>
      rw [provenUnmanaged] at run ⊢
      rcases bind_eq_ok_iff.1 run with ⟨target, between, runOwner, run⟩
      have marked := orDangling_eq_ok_iff.1 (lift_eq_ok_iff.1 run).1
      exact bind_eq_ok_iff.2 ⟨target, between, projectOwner_unboxed unmarked runOwner marked, run⟩
  | _ =>
      rw [provenUnmanaged] at run ⊢
      exact run

theorem Yields.provenUnmanaged_unboxed (unmarked : R.CounterpartsUnmarked)
    (yields : R.Yields m (R.provenUnmanaged into true s) true) :
    R.Yields m (R.provenUnmanaged into false s) true := by
  rcases yields with ⟨notes, notes', settled, run⟩
  exact ⟨notes, notes', settled, Registry.provenUnmanaged_unboxed unmarked run⟩

/-! ## Late boxing -/

/-- Whether an application goes to the counterpart of the generic type because its arguments are not
known to be unmanaged. -/
def boxesLate (R : Registry) (into : Target.ModuleId) (boxed : Bool) (generic : TypeId)
    (args : List Signature) :
    Query Bool := do
  let c ← R.bindingFor generic
  if (← R.classOf c) = .genericBlittable then
    let proven ← R.provenUnmanaged into boxed (.inst generic args)
    return !proven
  else return false

/-- Boxing late is what an application does in place of applying the form of the generic type. -/
theorem projectHead_eq (generic : TypeId) (args : List Signature) :
    R.projectHead into boxed generic args = (do
      if ← R.boxesLate into boxed generic args then
        let target ← R.counterpartOf generic (← R.bindingFor generic)
        R.target.importType into target
      else R.projectNamed into boxed generic) := by
  unfold projectHead boxesLate
  cases R.bindingFor generic with
  | error e => rfl
  | ok c =>
    -- Both ask for the class of the type first, and for its arguments if it is generically
    -- blittable.
    change (R.classOf c >>= _) = ((R.classOf c >>= _) >>= _)
    rw [bind_assoc]
    congr 1
    funext k
    split
    · rw [bind_assoc]
      congr 1
      funext proven
      cases proven <;> rfl
    · rfl

/-- An application that is boxed late has a generically blittable type and is not known to be
unmanaged. -/
theorem Yields.boxesLate {generic : TypeId} {args : List Signature}
    (yields : R.Yields m (R.boxesLate into boxed generic args) true) :
    ∃ c, R.binding? generic = some c ∧ Layout.HasClass R m c .genericBlittable ∧
      R.Yields m (R.provenUnmanaged into boxed (.inst generic args)) false := by
  have undisturbed := settled_undisturbed R m
  rcases yields.bind_lift with ⟨c, bound, yields⟩
  rcases yields.bind (undisturbed.classOf c) with ⟨k, yieldsClass, yields⟩
  split at yields
  · next isGeneric =>
    rcases yields.bind (undisturbed.provenUnmanaged _) with ⟨proven, yieldsProven, yields⟩
    cases proven with
    | true => cases yields.pure
    | false =>
        exact ⟨c, bindingFor_eq_ok_iff.1 bound, isGeneric ▸ yieldsClass.classOf, yieldsProven⟩
  · cases yields.pure

/-- What is boxed late without the flag is boxed late with it. -/
theorem Yields.projectHead_of_boxesLate (unmarked : R.CounterpartsUnmarked) {generic : TypeId}
    {args : List Signature} {head : Target.Signature}
    (late : R.Yields m (R.boxesLate into false generic args) true)
    (yields : R.Yields m (R.projectHead into true generic args) head) :
    ∃ c b e standIn, R.binding? generic = some c ∧ R.types[c]? = some b ∧ b.counterpart = some e ∧
      R.types[e]? = some standIn ∧ head = .defined standIn.target := by
  rcases late.boxesLate with ⟨c, bound, has, unproven⟩
  rcases yields.projectHead with ⟨c', k, bound', has', form⟩
  cases bound.symm.trans bound'
  cases has.unique has'
  -- With the flag, its own form is applied only if the arguments are known to be unmanaged.
  cases form with
  | plain notGeneric => exact absurd rfl notGeneric
  | proven _ proven =>
      have proven := proven.provenUnmanaged_unboxed unmarked
      cases proven.unique ((settled_undisturbed R m).provenUnmanaged _) unproven
  | lateBoxed _ _ target =>
      rcases counterpartOf_eq_ok target with ⟨b, e, standIn, found, counterpart, found', rfl⟩
      exact ⟨c, b, e, standIn, bound, found, counterpart, found', rfl⟩

end Registry

/-! ## After a completion -/

namespace Completion

variable {W W' : Workspace} {counts : Summary}

/-- Stand-ins have no marks, so counterparts have none. -/
theorem Underway.counterpartsUnmarked {R : Registry} {m : Memo} (underway : Underway R m)
    (once : R.TargetsBoundOnce) (counterparts : R.CounterpartsStandIn) :
    R.CounterpartsUnmarked := by
  intro c e b standIn bound counterpart bound'
  rcases counterparts c b bound with alone | self | hasStandIn
  · cases alone.symm.trans counterpart
  · exact .inl (Option.some.inj (counterpart.symm.trans self))
  · rcases Registry.hasStandIn_iff.1 hasStandIn with ⟨e', standIn', counterpart', found, isStandIn⟩
    cases counterpart.symm.trans counterpart'
    cases bound'.symm.trans found
    exact .inr fun _ => underway.not_marked_of_standIn once bound' isStandIn

/-- After a completion that succeeds, what is known to be unmanaged with the flag is so without it.
What is boxed late without the flag has the same head with it. -/
theorem unboxed_of_complete (reachable : W.Reachable) (once : W.registry.TargetsBoundOnce)
    (skeleton : W.registry.target.IsSkeleton) (counterparts : W.registry.CounterpartsStandIn)
    (run : complete.run W = (.ok counts, W')) (into : Target.ModuleId) (qs qs' : List Question) :
    (∀ s, ((W'.registry.provenUnmanaged into true s).run (W'.registry.notesAfter W'.notes qs)).1 =
      .ok true →
      ((W'.registry.provenUnmanaged into false s).run (W'.registry.notesAfter W'.notes qs')).1 =
        .ok true) ∧
    ∀ (generic : Source.TypeId) (args : List Source.Signature) (r : Target.Signature),
      ((W'.registry.boxesLate into false generic args).run (W'.registry.notesAfter W'.notes qs)).1 =
        .ok true →
      ((W'.registry.project into true (.inst generic args)).run
        (W'.registry.notesAfter W'.notes qs')).1 = .ok r →
      ∃ c b e standIn projected, W'.registry.binding? generic = some c ∧
        W'.registry.types[c]? = some b ∧
        b.counterpart = some e ∧ W'.registry.types[e]? = some standIn ∧
        r = .inst (.defined standIn.target) projected := by
  rw [run_complete] at run
  rcases Outcome.of_completeIn once (startPlain_of_isSkeleton skeleton) run with
    ⟨p, q, W₁, outcome, -⟩
  have unmarked : W'.registry.CounterpartsUnmarked := by
    have underway := outcome.underway reachable.coherent once skeleton
    rcases outcome.midway.registry with ⟨target, eq, -⟩
    exact underway.counterpartsUnmarked (eq ▸ once) (eq ▸ counterparts)
  refine ⟨fun s proven => ?_, fun generic args r late answered => ?_⟩
  · have unboxed := Registry.provenUnmanaged_unboxed unmarked (Effect.run_eq proven)
    -- The same question is asked after two histories.
    have constant : Constant W'.registry W'.notes.classes
        (W'.registry.provenUnmanaged into false s) :=
      (constant_alike (.refl W'.registry) into).provenUnmanaged s
    have traced : ∀ qs, Layout.Traced W'.registry W'.notes.classes
        (W'.registry.notesAfter W'.notes qs).classes :=
      Registry.traced_notesAfter (.refl W'.registry) (.refl W'.registry W'.notes.classes)
    calc ((W'.registry.provenUnmanaged into false s).run (W'.registry.notesAfter W'.notes qs')).1
        = ((W'.registry.provenUnmanaged into false s).run (W'.registry.notesAfter W'.notes qs)).1 :=
          constant.answer_eq (traced qs') (traced qs)
      _ = .ok true := congrArg Prod.fst unboxed
  · have settled : ∀ qs, Layout.Settled W'.registry W'.notes.classes
        (W'.registry.notesAfter W'.notes qs).classes :=
      Registry.settled_notesAfter (.refl W'.registry W'.notes.classes)
    have yieldsLate : W'.registry.Yields W'.notes.classes
        (W'.registry.boxesLate into false generic args) true :=
      ⟨_, _, settled qs, Effect.run_eq late⟩
    have yields : W'.registry.Yields W'.notes.classes
        (W'.registry.project into true (.inst generic args)) r :=
      ⟨_, _, settled qs', Effect.run_eq answered⟩
    rcases yields.project_inst with ⟨head, projected, rfl, yieldsHead, -⟩
    rcases yieldsLate.projectHead_of_boxesLate unmarked yieldsHead with
      ⟨c, b, e, standIn, bound, found, counterpart, found', rfl⟩
    exact ⟨c, b, e, standIn, projected, bound, found, counterpart, found', rfl⟩

end Completion

namespace Sample

/-- The sample program after its completion. -/
def shopCompleted : Workspace := (Completion.complete.run shop).2

/-- Lists of objects, which have to be boxed. -/
def listOfObjects : Source.Signature := .inst ⟨5⟩ [.named ⟨0⟩]

end Sample

/-- Lists of numbers are known to be unmanaged with the flag and without it, and lists of objects
have a counterpart for their head. -/
theorem Completion.unboxed_of_complete_list :
    ((Sample.shopCompleted.registry.provenUnmanaged ⟨1⟩ false (.inst ⟨5⟩ [.named ⟨2⟩])).run
        (Sample.shopCompleted.registry.notesAfter Sample.shopCompleted.notes [.classOf ⟨6⟩])).1 =
          .ok true ∧
      (∃ c b e standIn projected, Sample.shopCompleted.registry.binding? ⟨5⟩ = some c ∧
        Sample.shopCompleted.registry.types[c]? = some b ∧ b.counterpart = some e ∧
        Sample.shopCompleted.registry.types[e]? = some standIn ∧
        ((Sample.shopCompleted.registry.project ⟨1⟩ true Sample.listOfObjects).run
          (Sample.shopCompleted.registry.notesAfter Sample.shopCompleted.notes [.classOf ⟨6⟩])).1 =
          .ok (.inst (.defined standIn.target) projected)) ∧
      ((Sample.shopCompleted.registry.provenUnmanaged ⟨1⟩ false (.param (.type ⟨5⟩) 0)).run
        Sample.shopCompleted.notes).1 = .ok true ∧
      ((Sample.shopCompleted.registry.provenUnmanaged ⟨1⟩ true (.param (.type ⟨5⟩) 0)).run
        Sample.shopCompleted.notes).1 = .ok false := by
  have succeeded : (complete.run Sample.shop).1 =
      .ok { params := 3, unmanagedParams := 1, enumBases := 1, valueTypeBases := 2,
            projectedBases := 8 } := by
    decide +kernel
  have run : complete.run Sample.shop = (_, Sample.shopCompleted) := Effect.run_eq succeeded
  have numbers :
    ((Sample.shopCompleted.registry.provenUnmanaged ⟨1⟩ true (.inst ⟨5⟩ [.named ⟨2⟩])).run
      (Sample.shopCompleted.registry.notesAfter Sample.shopCompleted.notes [])).1 = .ok true := by
    decide +kernel
  have late : ((Sample.shopCompleted.registry.boxesLate ⟨1⟩ false ⟨5⟩ [.named ⟨0⟩]).run
      (Sample.shopCompleted.registry.notesAfter Sample.shopCompleted.notes [])).1 = .ok true := by
    decide +kernel
  have objects : ((Sample.shopCompleted.registry.project ⟨1⟩ true Sample.listOfObjects).run
      (Sample.shopCompleted.registry.notesAfter Sample.shopCompleted.notes [.classOf ⟨6⟩])).1 =
        .ok (.inst (.defined ⟨10⟩) [.defined ⟨0⟩]) := by
    decide +kernel
  have reachable : Sample.shop.Reachable := ⟨_, _, _, _, rfl⟩
  obtain ⟨unboxed, head⟩ := unboxed_of_complete reachable (by decide +kernel) (by decide +kernel)
    (by decide +kernel) run ⟨1⟩ [] [.classOf ⟨6⟩]
  rcases head _ _ _ late objects with
    ⟨c, b, e, standIn, projected, bound, found, counterpart, found', eq⟩
  refine ⟨unboxed _ numbers, ⟨c, b, e, standIn, projected, bound, found, counterpart, found', ?_⟩,
    ?_, ?_⟩
  · exact eq ▸ objects
  · decide +kernel
  · decide +kernel

end TypeProjection
