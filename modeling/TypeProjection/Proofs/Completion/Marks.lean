import TypeProjection.Proofs.Completion.Filled
import TypeProjection.Proofs.Layout.Flat

/-!
# Proofs.Completion.Marks — the output keeps the constraints that completion puts into it

A completion marks the parameters of generically blittable types as unmanaged. This module shows
that no signature that the output gets afterwards, and no base that it got on the way, breaks such a
mark:

* `Basing`, `basing_complete` : the state after a completion;
* `honorsMarks_of_complete`   : all forms and bases give unmanaged arguments to marked parameters.

A base that was added on the way is still the form of the source's base in the end. So it is enough
to look at the forms that are asked for after the completion.
-/

namespace TypeProjection

open Layout (Memo Settled)

namespace Completion

variable {R : Registry} {m : Memo} {W W' : Workspace} {counts : Summary}

/-! ## Projected bases -/

theorem Filled.honorsMarks_projectOption (filled : Filled R m)
    (counterparts : R.CounterpartsStandIn) {into : Target.ModuleId} {boxed : Bool}
    {s : Option Source.Signature} {r : Target.Signature}
    (yields : R.Yields m (R.projectOption into boxed s) r) : R.target.HonorsMarks r := by
  rcases yields.projectOption with rfl | ⟨s, -, yields⟩
  · exact .external _
  · exact filled.honorsMarks counterparts yields

/-! ## A whole completion -/

/-- The state after a completion: only the output catalog has changed, all types in it are shaped,
and no base breaks a mark, as long as counterparts are stand-ins. -/
structure Basing (R : Registry) (m : Memo) (W : Workspace) : Prop where
  registry : ∃ target, W.registry = { R with target }
  settled : Settled W.registry m W.notes.classes
  filled : Filled W.registry m
  bases : R.CounterpartsStandIn →
    ∀ (u : Target.TypeId) (D : Target.TypeDecl) (base : Target.Signature),
    W.registry.target.types[u]? = some D → D.base = some base → W.registry.target.HonorsMarks base

/-- A completion that succeeds shapes all output types, and adds no base that breaks a mark. -/
theorem basing_complete (ready : Ready W.registry W.notes.classes)
    (skeleton : W.registry.target.IsSkeleton) (run : complete.run W = (.ok counts, W')) :
    Basing W.registry W.notes.classes W' := by
  rw [run_complete] at run
  rcases Outcome.of_completeIn ready.once (startPlain_of_isSkeleton skeleton) run with
    ⟨p, q, W₁, outcome, -⟩
  rcases outcome.midway.registry with ⟨target, eq, -⟩
  have filled : Filled W'.registry W.notes.classes :=
    { toReady := eq ▸ ready.withTarget target
      underway := outcome.underway ready.coherent ready.once skeleton
      shaped := outcome.shaped ready.coherent ready.once }
  refine ⟨⟨target, eq⟩, ?_, filled, fun counterparts u D base found some => ?_⟩
  · rw [eq]
    exact Layout.settled_withTarget_iff.2 outcome.midway.traced.toSettled
  · rcases outcome.types_cases found with before | ⟨c, b, t, bound, source, rfl⟩
    · simp [(skeleton u D before).2] at some
    · rcases outcome.completed ready.coherent ready.once bound source with
        ⟨D', base', found', -, some', kind⟩
      cases found.symm.trans found'
      cases some.symm.trans some'
      rcases kind with ⟨e, rfl⟩ | ⟨into, s, yields⟩
      · exact .external e
      · have counterparts' : W'.registry.CounterpartsStandIn := eq ▸ counterparts
        exact filled.honorsMarks_projectOption counterparts' yields

/-- The bindings of a reachable workspace are ready for completion, if they are in order. -/
theorem ready_of_reachable (reachable : W.Reachable) (once : W.registry.TargetsBoundOnce)
    (rootless : W.registry.source.RootsAreNoStructs)
    (linked : W.registry.GenericsLinked W.notes.classes) :
    Ready W.registry W.notes.classes where
  coherent := reachable.coherent
  once := once
  rootless := rootless
  fits _ _ has isBlittable := Layout.fits_sound.of_reachable reachable has isBlittable
  linked := linked

/-- After a completion that succeeds, the form of every reference gives unmanaged arguments to all
parameters that are marked so, whatever is asked in between, and so does every base. -/
theorem honorsMarks_of_complete (reachable : W.Reachable) (once : W.registry.TargetsBoundOnce)
    (skeleton : W.registry.target.IsSkeleton) (counterparts : W.registry.CounterpartsStandIn)
    (linked : W.registry.GenericsLinked W.notes.classes)
    (rootless : W.registry.source.RootsAreNoStructs) (run : complete.run W = (.ok counts, W')) :
    (∀ (qs : List Question) (into : Target.ModuleId) (boxed : Bool) (s : Option Source.Signature)
      (r : Target.Signature) (notes : Ledger),
      (W'.registry.projectOption into boxed s).run
      (W'.registry.notesAfter W'.notes qs) = (.ok r, notes) → W'.registry.target.HonorsMarks r) ∧
    (∀ (u : Target.TypeId) (D : Target.TypeDecl) (base : Target.Signature),
      W'.registry.target.types[u]? = some D → D.base = some base →
        W'.registry.target.HonorsMarks base) := by
  have basing := basing_complete (ready_of_reachable reachable once rootless linked) skeleton run
  rcases basing.registry with ⟨target, eq⟩
  have counterparts' : W'.registry.CounterpartsStandIn := eq ▸ counterparts
  refine ⟨fun qs into boxed s r notes answered => ?_, basing.bases counterparts⟩
  have settled := Registry.settled_notesAfter basing.settled qs
  exact basing.filled.honorsMarks_projectOption counterparts' ⟨_, notes, settled, answered⟩

/-- It is enough to give a stand-in to every binding for a generic type that is none itself. -/
theorem genericsLinked_of_generic (reachable : W.Reachable)
    (linked : ∀ (c : TypeBindingId) (b : TypeBinding), W.registry.types[c]? = some b →
      b.standIn ∨ (b.source.bind fun t => W.registry.source.types[t]?).all (·.params.isEmpty) ∨
        W.registry.hasStandIn b) :
    W.registry.GenericsLinked W.notes.classes := by
  intro c b bound has
  rcases Layout.fits_sound.of_reachable reachable has rfl with
    ⟨b', t, d, bound', plain, source, declared, fits⟩
  cases bound.symm.trans bound'
  rcases linked c b bound with standIn | simple | hasStandIn
  · simp [plain] at standIn
  · exact absurd (by simpa [source, declared] using simple) (fits.generic rfl).2
  · exact hasStandIn

/-- In the sample program, lists of integers have a form with an unmanaged argument. -/
theorem honorsMarks_of_complete_list :
    (complete.run Sample.workspace).1 =
        .ok { params := 2, unmanagedParams := 1, valueTypeBases := 4, projectedBases := 4 } ∧
      (complete.run Sample.workspace).2.registry.target.HonorsMarks
        (.inst (.defined ⟨3⟩) [.external ⟨.corlib, "System.Int32", true⟩]) := by
  have completed : (complete.run Sample.workspace).1 =
      .ok { params := 2, unmanagedParams := 1, valueTypeBases := 4, projectedBases := 4 } := by
    decide +kernel
  have projected : ((complete.run Sample.workspace).2.registry.projectOption ⟨0⟩ false
      (some (.inst ⟨3⟩ [.named ⟨1⟩])) |>.run (complete.run Sample.workspace).2.notes).1 =
        .ok (.inst (.defined ⟨3⟩) [.external ⟨.corlib, "System.Int32", true⟩]) := by
    decide +kernel
  have reachable : Sample.workspace.Reachable := ⟨_, _, _, _, rfl⟩
  have linked := genericsLinked_of_generic reachable (by decide +kernel)
  obtain ⟨forms, -⟩ := honorsMarks_of_complete reachable (by decide +kernel) (by decide +kernel)
    (by decide +kernel) linked (by decide +kernel) (Prod.ext completed rfl)
  exact ⟨completed, forms [] ⟨0⟩ false (some (.inst ⟨3⟩ [.named ⟨1⟩])) _ _ (Prod.ext projected rfl)⟩

end Completion

end TypeProjection
