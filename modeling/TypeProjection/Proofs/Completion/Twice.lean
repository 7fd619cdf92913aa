import TypeProjection.Proofs.Completion.Course
import TypeProjection.Proofs.Projection.Faithful

/-!
# Proofs.Completion.Twice — a second completion changes nothing

A second completion starts from a catalog in which the bases are filled in already. Its first sweep
restores the outlines that the first completion had between its sweeps, since a base that was filled
in then makes no value type; so its second sweep goes along as that of the first completion did, and
both sweeps overwrite what is there with the same.

* `outline_again`       : an output type between the sweeps of the second completion;
* `exists_shaped_again` : the first sweep of the second completion;
* `complete_twice`      : the second completion.
-/

namespace TypeProjection

namespace Completion

open Layout (Memo)
open Target (TypeId TypeDecl)

variable {R : Registry} {m : Memo} {W W' W₁ W₂ : Workspace} {counts : Summary}
  {cs : List TypeBindingId} {p q : Plan} {u : TypeId} {D : TypeDecl}

/-- What was rebased has the outline that it had before once it is shaped again, if it started as no
value type. -/
theorem outline_again (shapes : p.Overwrites) (rebases : q.Rebases R m cs)
    (plain : ∀ c, Deferred R m c u → D.isValueType = false) :
    (p.fill u (q.fill u (p.fill u D))).outline = (p.fill u D).outline := by
  rcases shapes u with ⟨params, fixed, shape⟩
  rcases rebases u with ⟨base, rebase, made⟩
  rw [shape, rebase, TypeDecl.overwrite_overwrite, TypeDecl.overwrite_overwrite, Option.or_none,
    Option.or_self]
  simp only [TypeDecl.outline_overwrite]
  cases fixed with
  | some _ => rfl
  | none =>
      cases base with
      | none => rfl
      | some s =>
          -- Neither the new base nor that from the start makes a value type.
          rcases made s rfl with ⟨isValueBase, c, -, deferred⟩
          have start : D.outline.2 = false := plain c deferred
          simp [isValueBase, start]

/-- The first sweep of a second completion does what that of the first one did, and restores the
outlines that there were after it. -/
theorem exists_shaped_again (plain : W.registry.TargetsStartPlain) {shaped : List TypeBindingId}
    (shapes : Total (ShapePlan W.registry m) shaped p) (leads : p.Leads W W₁)
    (midway : Midway W.registry m (SameTypes W.registry.target) W₁)
    (rebases : q.Rebases W.registry m cs) (leads' : q.Leads W₁ W₂)
    (midway' : Midway W.registry m (Target.Catalog.SameView W₂.registry.target) W₂) :
    ∃ W₃, (sweep fillShape shaped).run W₂ = (.ok p.counts, W₃) ∧ p.Leads W₂ W₃ ∧
      Abreast W.registry m W₁ W₃ := by
  have types : SameTypes W.registry.target W₂.registry.target := midway.view.leads leads'
  rcases planned_fillShape.sweep.follows (midway'.imp fun _ => types) shapes with
    ⟨W₃, run, midway₃, again⟩
  have outlines : Target.Catalog.SameOutlines W₁.registry.target W₃.registry.target :=
    (leads'.trans again).sameOutlines fun u D₁ found => by
      rw [leads.types] at found
      rcases Option.map_eq_some_iff.1 found with ⟨D, declared, rfl⟩
      refine outline_again (overwrites_of_shapes shapes) rebases fun c deferred => ?_
      rcases deferred with ⟨b, t, d, k, sourced, -, rfl⟩
      have start := plain c b sourced.bound
      rw [Target.Catalog.isValueType, declared, Option.map_some] at start
      simpa using start
  exact ⟨W₃, run, again, ⟨(Abreast.self midway).first, midway₃.imp fun _ => outlines⟩⟩

/-- A completion that succeeds can be repeated at once: the second one counts the same and changes
nothing. -/
theorem complete_twice (plain : W.registry.TargetsStartPlain)
    (run : complete.run W = (.ok counts, W')) :
    ∃ W'', complete.run W' = (.ok counts, W'') ∧ W''.registry = W'.registry ∧
      (∀ n, W''.notes.references.listed n = W'.notes.references.listed n) ∧
      ∀ c, ((W''.registry.classOf c).run W''.notes).1 =
        ((W'.registry.classOf c).run W'.notes).1 := by
  rw [run_complete] at run
  rcases Effect.bind_eq_ok_iff.1 run with ⟨first, W₁, runShapes, run⟩
  rcases Effect.bind_eq_ok_iff.1 run with ⟨second, W₂, runBases, run⟩
  rcases Effect.pure_eq_ok_iff.1 run with ⟨rfl, rfl⟩
  rcases planned_fillShape.sweep.leads (Outcome.midway_start W) runShapes with
    ⟨p, shapes, rfl, midway, leads⟩
  rcases midway.sweep_fillBase runBases with ⟨q₀, rebases₀, leads₀, midway₂⟩
  rcases exists_shaped_again plain shapes leads midway rebases₀ leads₀ midway₂ with
    ⟨W₃, runShapes', leads', abreast⟩
  -- The second sweep of the second completion goes along with that of the first one.
  rcases abreast.sweep runBases with
    ⟨q, W₄, rebases, runBases', leadsBases, leadsBases', ⟨-, midway₄⟩⟩
  have bindings : W₂.registry.bindings = W.registry.bindings := by
    rcases midway₂.registry with ⟨C, eq, -⟩
    rw [eq]
    rfl
  have run' : complete.run W₂ = (.ok (p.counts + second), W₄) := by
    rw [run_complete, bindings]
    exact Effect.bind_eq_ok_iff.2
      ⟨_, W₃, runShapes', Effect.bind_eq_ok_iff.2 ⟨_, W₄, runBases', rfl⟩⟩
  have overwrites : (p.andThen q).Overwrites :=
    .andThen (overwrites_of_shapes shapes) rebases.overwrites
  rcases overwrites.again (leads.trans leadsBases) (leads'.trans leadsBases') with
    ⟨registry, references⟩
  refine ⟨W₄, run', registry, Target.References.listed_congr references, fun c => ?_⟩
  rw [registry]
  exact (Registry.constant_classOf midway₂.sameBindings c).answer_eq midway₄.traced midway₂.traced

end Completion

namespace Sample

/-- The sample program where the output type for palettes also stands for colors, in the other
assembly. -/
def doubled : Workspace :=
  (Workspace.start "mscorlib" shopSource shopTarget).after
    (shopSteps ++ [.register (.type ⟨0⟩ (some ⟨6⟩) ⟨8⟩)])

end Sample

/-- In the second sweep the output type for palettes loses the base that it has from colors in the
first one, and a second completion does the same again. -/
theorem Completion.complete_twice_doubled :
    ¬ Sample.doubled.registry.TargetsBoundOnce ∧ Sample.doubled.registry.TargetsStartPlain ∧
      ∃ counts W'', complete.run (complete.run Sample.doubled).2 = (.ok counts, W'') ∧
        W''.registry = (complete.run Sample.doubled).2.registry ∧
        ((complete.run Sample.doubled).2.registry.target.types[(⟨8⟩ : Target.TypeId)]?.map
          (·.base)) =
          some (some (.inst (.defined ⟨7⟩) [.inst Interop.structArray [.defined ⟨6⟩]])) := by
  have plain : Sample.doubled.registry.TargetsStartPlain := by decide +kernel
  have completed : (complete.run Sample.doubled).1 =
      .ok { params := 3, unmanagedParams := 1, enumBases := 2, valueTypeBases := 2,
            projectedBases := 8 } := by
    decide +kernel
  obtain ⟨W'', run, same, -⟩ := complete_twice plain (Effect.run_eq completed)
  exact ⟨by decide +kernel, plain, _, W'', run, same, by decide +kernel⟩

end TypeProjection
