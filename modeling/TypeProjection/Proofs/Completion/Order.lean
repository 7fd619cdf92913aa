import TypeProjection.Proofs.Completion.Outcome
import TypeProjection.Proofs.Projection.Faithful

/-!
# Proofs.Completion.Order — the order within the sweeps does not matter

A completion visits the bindings assembly by assembly and in the order of the output types, but any
other order would do as well, if no output type is bound twice and none starts as a value type:

* `completeIn_perm` : from one order to another;
* `completeIn_order_irrelevant` : two completions of the same bindings succeed alike, and with the
  same outcome.
-/

namespace TypeProjection.Completion

variable {W W₁ : Workspace} {shapes shapes' bases bases' : List TypeBindingId} {counts : Summary}

/-- Where a completion in one order succeeds, so does one in another order, with the same
outcome. -/
theorem completeIn_perm (once : W.registry.TargetsBoundOnce) (plain : W.registry.TargetsStartPlain)
    (permShapes : shapes.Perm shapes') (permBases : bases.Perm bases')
    (run : (completeIn shapes bases).run W = (.ok counts, W₁)) :
    ∃ W₂, (completeIn shapes' bases').run W = (.ok counts, W₂) ∧ W₁.registry = W₂.registry ∧
      (∀ n, W₁.notes.references.listed n = W₂.notes.references.listed n) ∧
      ∀ c, ((W₁.registry.classOf c).run W₁.notes).1 = ((W₂.registry.classOf c).run W₂.notes).1 := by
  rcases Outcome.of_completeIn once plain run with ⟨p, q, W₀, outcome, rfl⟩
  rcases outcome.perm once plain permShapes permBases with ⟨W₀', W₂, outcome', run'⟩
  have same := outcome.leads.registry_eq outcome'.leads
  refine ⟨W₂, run', same, fun n => ?_, fun c => ?_⟩
  · exact Target.References.listed_congr
      (fun n x => (outcome.leads.references n x).trans (outcome'.leads.references n x).symm) n
  · -- Both completions leave traced notes, which have no say in classes.
    rw [same]
    exact (Registry.constant_classOf outcome'.midway.sameBindings c).answer_eq outcome.midway.traced
      outcome'.midway.traced

/-- Completions that visit all bindings, in each sweep in some order, succeed alike: they have the
same counts, and leave the same output types, references and classes behind. -/
theorem completeIn_order_irrelevant (once : W.registry.TargetsBoundOnce)
    (plain : W.registry.TargetsStartPlain) (permShapes : shapes.Perm W.registry.bindings)
    (permShapes' : shapes'.Perm W.registry.bindings) (permBases : bases.Perm W.registry.bindings)
    (permBases' : bases'.Perm W.registry.bindings) :
    (∀ counts, ((completeIn shapes bases).run W).1 = .ok counts ↔
      ((completeIn shapes' bases').run W).1 = .ok counts) ∧
    ∀ counts counts' W₁ W₂, (completeIn shapes bases).run W = (.ok counts, W₁) →
      (completeIn shapes' bases').run W = (.ok counts', W₂) →
        counts = counts' ∧ W₁.registry = W₂.registry ∧
          (∀ n, W₁.notes.references.listed n = W₂.notes.references.listed n) ∧
          ∀ c, ((W₁.registry.classOf c).run W₁.notes).1 =
            ((W₂.registry.classOf c).run W₂.notes).1 := by
  have permShapes := permShapes.trans permShapes'.symm
  have permBases := permBases.trans permBases'.symm
  refine ⟨fun counts => ⟨fun ok => ?_, fun ok => ?_⟩, fun counts counts' W₁ W₂ run run' => ?_⟩
  · rcases completeIn_perm once plain permShapes permBases (Effect.run_eq ok) with ⟨W₂, run', -⟩
    exact congrArg Prod.fst run'
  · rcases completeIn_perm once plain permShapes.symm permBases.symm (Effect.run_eq ok) with
      ⟨W₂, run', -⟩
    exact congrArg Prod.fst run'
  · rcases completeIn_perm once plain permShapes permBases run with ⟨W₂', run'', same⟩
    cases run'.symm.trans run''
    exact ⟨rfl, same⟩

/-- The sample program can be completed from behind in both sweeps. -/
theorem completeIn_order_irrelevant_reverse :
    ((completeIn Sample.shop.registry.bindings.reverse Sample.shop.registry.bindings.reverse).run
      Sample.shop).1 =
        .ok { params := 3, unmanagedParams := 1, enumBases := 1, valueTypeBases := 2,
              projectedBases := 8 } ∧
      (complete.run Sample.shop).2.registry =
        ((completeIn Sample.shop.registry.bindings.reverse
          Sample.shop.registry.bindings.reverse).run
          Sample.shop).2.registry := by
  have completed :
    ((completeIn Sample.shop.registry.bindings Sample.shop.registry.bindings).run Sample.shop).1 =
      .ok { params := 3, unmanagedParams := 1, enumBases := 1, valueTypeBases := 2,
            projectedBases := 8 } := by
    decide +kernel
  obtain ⟨succeeds, outcome⟩ :=
    completeIn_order_irrelevant (W := Sample.shop) (by decide +kernel) (by decide +kernel)
      (.refl _) (List.reverse_perm _) (.refl _) (List.reverse_perm _)
  have completed' := (succeeds _).1 completed
  obtain ⟨-, registry, -⟩ := outcome _ _ _ _ (Effect.run_eq completed) (Effect.run_eq completed')
  refine ⟨completed', ?_⟩
  rw [run_complete]
  exact registry

end TypeProjection.Completion
