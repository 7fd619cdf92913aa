import TypeProjection.Proofs.Completion.Shape
import TypeProjection.Proofs.Projection.Faithful
import TypeProjection.Proofs.Run.Stable

/-!
# Proofs.Completion.StandIns — what becomes of stand-ins

A stand-in is a reference type that replaces a value type, and its layout class says so. A
completion goes by the class where it marks parameters, but it asks for the form of the source type
where it writes the bases of enumerations, and so makes value types of stand-ins for these:

* `hasClass_of_standIn`       : the class of a stand-in;
* `standIns_of_complete`      : stand-ins after a completion;
* `isValueType_of_boxedColor` : a stand-in for an enumeration, which ends up as a value type.
-/

namespace TypeProjection

open Layout (Memo HasClass)

namespace Completion

variable {R : Registry} {m : Memo} {W W' : Workspace} {c : TypeBindingId} {b : TypeBinding}
  {counts : Summary}

theorem hasClass_of_standIn (bound : R.types[c]? = some b) (standIn : b.standIn) :
    HasClass R m c .reference :=
  ⟨b, bound, by simp [standIn]⟩

/-- After a completion that succeeds, a stand-in has no marked parameter, and it is a value type
just if it stands for an enumeration. -/
theorem standIns_of_complete (reachable : W.Reachable) (once : W.registry.TargetsBoundOnce)
    (skeleton : W.registry.target.IsSkeleton) (run : complete.run W = (.ok counts, W'))
    (bound : W.registry.types[c]? = some b) (standIn : b.standIn) :
    (∀ t, b.source = some t → ∃ d D, W'.registry.source.types[t]? = some d ∧
      W'.registry.target.types[b.target]? = some D ∧ (∀ p ∈ D.params, p.unmanaged = false) ∧
        (D.isValueType ↔ d.form = .enumType)) ∧
    (b.source = none → ∀ D, W'.registry.target.types[b.target]? = some D → D.params = [] ∧
      D.base = none) := by
  rw [run_complete] at run
  rcases Outcome.of_completeIn once (startPlain_of_isSkeleton skeleton) run with
    ⟨p, q, W₁, outcome, -⟩
  constructor
  · intro t source
    rcases reachable.coherent.declared bound source with ⟨d, declared⟩
    rcases outcome.completed reachable.coherent once bound source with ⟨D, base, found, shaped, -⟩
    have shape := shaped.shape bound source declared (hasClass_of_standIn bound standIn)
    refine ⟨d, D, outcome.midway.source ▸ declared, found, fun p mem => ?_, ?_⟩
    · rw [shape.1, List.mem_map] at mem
      rcases mem with ⟨p, -, rfl⟩
      rfl
    · -- The class lets the base be projected, but the form of the source type comes first.
      simpa only [ne_eq, baseKind, LayoutClass.isBlittable, Bool.false_eq_true, if_false,
        ite_eq_right_iff, reduceCtorEq, imp_false, Classical.not_not] using shape.2
  · intro unsourced D found
    refine skeleton b.target D ?_
    rwa [outcome.types_other fun c' b' bound' source target => ?_] at found
    -- No other binding has the output type.
    cases once c' b' bound' c b bound target
    cases bound.symm.trans bound'
    exact source unsourced

end Completion

namespace Sample

/-- The sample program with another skeleton, which stands in for colors. -/
def boxedColor : Workspace :=
  (Workspace.start "mscorlib" shopSource shopTarget).after (shopSteps ++
    [.edit (.addType { module := ⟨2⟩, space := "Output", name := "ColorBox", arity := 0 }),
      .register (.standIn ⟨1⟩ (some ⟨6⟩) ⟨11⟩), .register (.counterpart ⟨6⟩ ⟨11⟩)])

end Sample

/-- The stand-in for lists is no value type, though lists are. -/
theorem Completion.standIns_of_complete_list :
    (complete.run Sample.boxedColor).1 =
        .ok { params := 3, unmanagedParams := 1, enumBases := 2, valueTypeBases := 2,
              projectedBases := 8 } ∧
      ∃ D, (complete.run Sample.boxedColor).2.registry.target.types[(⟨10⟩ : Target.TypeId)]? =
        some D ∧ D.isValueType = false ∧ ∀ p ∈ D.params, p.unmanaged = false := by
  have completed : (complete.run Sample.boxedColor).1 =
      .ok { params := 3, unmanagedParams := 1, enumBases := 2, valueTypeBases := 2,
            projectedBases := 8 } := by
    decide +kernel
  have lists : Sample.boxedColor.registry.types[(⟨10⟩ : TypeBindingId)]?.map
        (fun b => (b.source, b.target, b.standIn)) = some (some ⟨5⟩, ⟨10⟩, true) ∧
      (complete.run Sample.boxedColor).2.registry.source.types[(⟨5⟩ : Source.TypeId)]?.map
        (·.form) =
        some .structType := by
    decide +kernel
  have reachable : Sample.boxedColor.Reachable := ⟨_, _, _, _, rfl⟩
  rcases Option.map_eq_some_iff.1 lists.1 with ⟨b, bound, eq⟩
  simp only [Prod.mk.injEq] at eq
  obtain ⟨sourced, -⟩ := standIns_of_complete reachable (by decide +kernel) (by decide +kernel)
    (Effect.run_eq completed) bound eq.2.2
  obtain ⟨d, D, declared, found, unmarked, isValueType⟩ := sourced ⟨5⟩ eq.1
  rw [declared] at lists
  have form : d.form = .structType := Option.some.inj lists.2
  refine ⟨completed, D, eq.2.1 ▸ found, ?_, unmarked⟩
  simpa [form] using isValueType

/-- A stand-in for an enumeration is classified as a reference type and ends up as a value type. -/
theorem Completion.isValueType_of_boxedColor :
    Sample.boxedColor.Reachable ∧ Sample.boxedColor.registry.TargetsBoundOnce ∧
      Sample.boxedColor.registry.target.IsSkeleton ∧
      (complete.run Sample.boxedColor).1 =
        .ok { params := 3, unmanagedParams := 1, enumBases := 2, valueTypeBases := 2,
              projectedBases := 8 } ∧
      Sample.boxedColor.registry.types[(⟨11⟩ : TypeBindingId)]?.map
        (fun b => (b.source, b.target, b.standIn)) =
        some (some ⟨6⟩, ⟨11⟩, true) ∧
      (((complete.run Sample.boxedColor).2.registry.classOf ⟨11⟩).run
        (complete.run Sample.boxedColor).2.notes).1 =
        .ok .reference ∧
      (complete.run Sample.boxedColor).2.registry.target.isValueType (.defined ⟨11⟩) = some true :=
  ⟨⟨_, _, _, _, rfl⟩, by
    decide +kernel, by decide +kernel, by decide +kernel, by decide +kernel, by decide +kernel,
    by decide +kernel⟩

end TypeProjection
