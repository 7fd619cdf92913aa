import TypeProjection.Completion
import TypeProjection.Proofs.Effect
import TypeProjection.Proofs.Registry.Coherent

/-!
# Proofs.Completion.InStep — two completions that go the same way

The two sweeps of a completion look at bindings, ask for their classes and for forms of bases, and
edit the output catalog. Of a binding, only the types that it pairs have a part in this. So what
relates these few steps, where one binding stands in for another, relates whole completions:

* `InStep` : a relation between updates that holds of the few steps;
* `InStep.fillShape`, `InStep.fillBase` : it holds of the steps of a sweep;
* `InStep.sweep`, `InStep.completeIn` : and of sweeps over some bindings and over those in their
  place.

A property of single updates is such a relation as well, where each binding stands in its own place.
-/

namespace TypeProjection.Completion

/-- A relation between updates that holds of the few steps of which completions are made, where the
first one looks at a binding and the second one at the binding in its place. -/
structure InStep (Q : ∀ {α : Type}, Update α → Update α → Prop)
    (inPlace : TypeBindingId → TypeBindingId) : Prop
    extends Composable (Except Failure) Update Q where
  binding : ∀ (c : TypeBindingId) {f f' : TypeBinding → Update Summary},
    (∀ b b' : TypeBinding, b'.SamePair b → Q (f b) (f' b')) →
      Q (Update.look (fun R => R.types.fetch c) >>= f)
        (Update.look (fun R => R.types.fetch (inPlace c)) >>= f')
  declaration : ∀ t : Source.TypeId,
    Q (Update.look fun R => R.source.types.fetch t) (Update.look fun R => R.source.types.fetch t)
  assembly : ∀ (i : AssemblyBindingId) {f f' : AssemblyBinding → Update Summary},
    (∀ A A' : AssemblyBinding, A'.module = A.module → Q (f A) (f' A')) →
      Q (Update.look (fun R => R.assemblies.fetch i) >>= f)
        (Update.look (fun R => R.assemblies.fetch i) >>= f')
  classOf : ∀ c : TypeBindingId,
    Q (Update.ask fun R => R.classOf c) (Update.ask fun R => R.classOf (inPlace c))
  projectOption : ∀ (into : Target.ModuleId) (s : Option Source.Signature),
    Q (Update.ask fun R => R.projectOption into false s)
      (Update.ask fun R => R.projectOption into false s)
  setParams : ∀ (owner : Target.Owner) (params : List Target.TypeParam),
    Q (Update.setParams owner params) (Update.setParams owner params)
  setBase : ∀ (u : Target.TypeId) (base : Option Target.Signature),
    Q (Update.setBase u base) (Update.setBase u base)

namespace InStep

variable {Q : ∀ {α : Type}, Update α → Update α → Prop} {inPlace : TypeBindingId → TypeBindingId}

theorem fillShape (inStep : InStep Q inPlace) (c : TypeBindingId) :
    Q (fillShape c) (fillShape (inPlace c)) := by
  refine inStep.binding c fun b b' same => ?_
  rw [same.source, same.target]
  cases b.source with
  | none => exact inStep.pure _
  | some t =>
      refine inStep.bind (inStep.declaration t) fun d => inStep.bind (inStep.classOf c) fun k => ?_
      refine inStep.bind (inStep.setParams _ _) fun _ => ?_
      cases (baseKind k.isBlittable d).fixed? with
      | none => exact inStep.pure _
      | some base => exact inStep.bind (inStep.setBase _ _) fun _ => inStep.pure _

theorem fillBase (inStep : InStep Q inPlace) (c : TypeBindingId) :
    Q (fillBase c) (fillBase (inPlace c)) := by
  refine inStep.binding c fun b b' same => ?_
  rw [same.source, same.target, same.assembly]
  cases b.source with
  | none => exact inStep.pure _
  | some t =>
      refine inStep.bind (inStep.declaration t) fun d => inStep.bind (inStep.classOf c) fun k => ?_
      cases baseKind k.isBlittable d with
      | enum => exact inStep.pure _
      | valueType => exact inStep.pure _
      | projected =>
          refine inStep.assembly b.assembly fun A A' module => ?_
          rw [module]
          exact inStep.bind (inStep.projectOption _ _) fun base =>
            inStep.bind (inStep.setBase _ _) fun _ => inStep.pure _

theorem sweep (inStep : InStep Q inPlace) {step : TypeBindingId → Update Summary}
    (each : ∀ c, Q (step c) (step (inPlace c))) (cs : List TypeBindingId) :
    Q (sweep step cs) (sweep step (cs.map inPlace)) := by
  induction cs with
  | nil => exact inStep.pure _
  | cons c cs ih => exact inStep.bind (each c) fun _ => inStep.bind ih fun _ => inStep.pure _

theorem completeIn (inStep : InStep Q inPlace) (shapes bases : List TypeBindingId) :
    Q (completeIn shapes bases) (completeIn (shapes.map inPlace) (bases.map inPlace)) :=
  inStep.bind (inStep.sweep inStep.fillShape shapes) fun _ =>
    inStep.bind (inStep.sweep inStep.fillBase bases) fun _ => inStep.pure _

/-- Where each binding stands in its own place, the same completion is meant on both sides. -/
theorem completeIn_self (inStep : InStep Q id) (shapes bases : List TypeBindingId) :
    Q (Completion.completeIn shapes bases) (Completion.completeIn shapes bases) := by
  have related := inStep.completeIn shapes bases
  rwa [List.map_id, List.map_id] at related

end InStep

end TypeProjection.Completion
