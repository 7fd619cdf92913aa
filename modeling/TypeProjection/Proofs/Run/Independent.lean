import TypeProjection.Proofs.Completion.InStep
import TypeProjection.Proofs.Completion.Outcome
import TypeProjection.Proofs.Projection.Constant

/-!
# Proofs.Run.Independent — earlier questions have no say in later answers and completions

The notes that questions leave behind differ with the questions, and a question that fails leaves
some as well. All of them are traced, and what looks at traced notes comes to the same end over all
of them:

* `SameButNotes` : workspaces over one registry, each with traced notes of its own;
* `Indifferent` : a step that has one answer in all of these, and makes the same of their
  registries;
* `Indifferent.complete` : completions are such steps, also those that fail;
* `Registry.history_irrelevant` : so the questions before a question or a completion have no say in
  it.
-/

namespace TypeProjection

open Layout (Memo Traced SameBindings)

/-- Two workspaces have one registry, with the bindings of `R`, and notes that are traced from `m`
on. -/
structure SameButNotes (R : Registry) (m : Memo) (W W' : Workspace) : Prop where
  registry : W'.registry = W.registry
  bindings : SameBindings R W.registry
  traced : Traced R m W.notes.classes
  traced' : Traced R m W'.notes.classes

/-- A step has the same answer in all workspaces that are the same but for their notes, and leaves
such workspaces behind. -/
def Indifferent {α : Type} (R : Registry) (m : Memo) (u : Update α) : Prop :=
  ∀ W W' : Workspace, SameButNotes R m W W' →
    (u.run W').1 = (u.run W).1 ∧ SameButNotes R m (u.run W).2 (u.run W').2

namespace Indifferent

variable {R : Registry} {m : Memo} {α β : Type}

/-! ## Basic steps -/

theorem pure (a : α) : Indifferent R m (pure a) := fun _ _ same => ⟨rfl, same⟩

theorem lift (e : Except Failure α) : Indifferent R m (liftM e : Update α) :=
  fun _ _ same => ⟨rfl, same⟩

theorem bind {u : Update α} {f : α → Update β} (first : Indifferent R m u)
    (rest : ∀ a, Indifferent R m (f a)) :
    Indifferent R m (u >>= f) := by
  intro W W' same
  rcases first W W' same with ⟨answers, between⟩
  exact Effect.bind_same (motive := fun x x' => x'.1 = x.1 ∧ SameButNotes R m x.2 x'.2) answers
    (fun e => ⟨rfl, between⟩) fun a => rest a _ _ between

theorem look (q : Registry → Except Failure α) : Indifferent R m (Update.look q) := fun _ _ same =>
  ⟨congrArg q same.registry, same⟩

/-- What is asked has to have one outcome over all traced notes. -/
theorem ask {q : Registry → Query α} (constant : ∀ R', SameBindings R R' → Constant R m (q R')) :
    Indifferent R m (Update.ask q) := by
  intro W W' same
  have here := constant W.registry same.bindings
  rw [Update.run_ask, Update.run_ask, same.registry]
  have kept := here.keeps W.notes same.traced
  have kept' := here.keeps W'.notes same.traced'
  exact ⟨here.answer_eq same.traced' same.traced, rfl, same.bindings, kept, kept'⟩

theorem classOf (c : TypeBindingId) : Indifferent R m (Update.ask fun R => R.classOf c) :=
  ask fun _ bindings => Registry.constant_classOf bindings c

theorem projectOption (into : Target.ModuleId) (boxed : Bool) (s : Option Source.Signature) :
    Indifferent R m (Update.ask fun R => R.projectOption into boxed s) :=
  ask fun _ bindings => (constant_alike bindings into).projectOption s

/-- Changes of the output catalog leave the bindings as they are. -/
theorem editTarget (f : Target.Catalog → Option (α × Target.Catalog)) :
    Indifferent R m (Update.editTarget f) := by
  intro W W' same
  simp only [Update.editTarget, Update.edit, ExceptT.run, same.registry]
  cases f W.registry.target with
  | none => exact ⟨rfl, same⟩
  | some result =>
      exact ⟨rfl, rfl, ⟨same.bindings.source, same.bindings.types, same.bindings.binding⟩,
        same.traced, same.traced'⟩

/-! ## Completion -/

/-- All steps of which completions are made are indifferent. -/
theorem inStep : Completion.InStep (fun u _ => Indifferent R m u) id where
  pure := pure
  lift := lift
  bind := bind
  binding _ _ _ rest := bind (look _) fun b => rest b b ⟨rfl, rfl, rfl, rfl⟩
  declaration _ := look _
  assembly _ _ _ rest := bind (look _) fun A => rest A A rfl
  classOf := classOf
  projectOption into s := projectOption into false s
  setParams _ _ := editTarget _
  setBase _ _ := editTarget _

theorem completeIn (shapes bases : List TypeBindingId) :
    Indifferent R m (Completion.completeIn shapes bases) :=
  inStep.completeIn_self shapes bases

/-- A completion goes the same way, and ends the same way, over all traced notes. -/
theorem complete : Indifferent R m Completion.complete := by
  intro W W' same
  rw [Completion.run_complete, Completion.run_complete, same.registry]
  exact completeIn _ _ W W' same

end Indifferent

/-! ## Histories -/

/-- Workspaces that come from one by different questions are the same but for their notes. -/
theorem sameButNotes_notesAfter (R : Registry) (notes : Ledger) (qs qs' : List Question) :
    SameButNotes R notes.classes { registry := R, notes := R.notesAfter notes qs }
      { registry := R, notes := R.notesAfter notes qs' } where
  registry := rfl
  bindings := .refl R
  traced := Registry.traced_notesAfter (.refl R) (.refl R notes.classes) qs
  traced' := Registry.traced_notesAfter (.refl R) (.refl R notes.classes) qs'

/-- What was asked before has no say in the answer to a question, in the outcome of a completion, or
in what it makes of the output catalog. -/
theorem Registry.history_irrelevant (R : Registry) (notes : Ledger) (qs qs' : List Question) :
    (∀ q, ((R.answer q).run (R.notesAfter notes qs)).1 =
      ((R.answer q).run (R.notesAfter notes qs')).1) ∧
      (Completion.complete.run { registry := R, notes := R.notesAfter notes qs }).1 =
        (Completion.complete.run { registry := R, notes := R.notesAfter notes qs' }).1 ∧
      (Completion.complete.run { registry := R, notes := R.notesAfter notes qs }).2.registry =
        (Completion.complete.run
          { registry := R, notes := R.notesAfter notes qs' }).2.registry := by
  have same := sameButNotes_notesAfter R notes qs qs'
  rcases Indifferent.complete _ _ same with ⟨outcomes, after⟩
  refine ⟨fun q => ?_, outcomes.symm, after.registry.symm⟩
  have constant : Constant R notes.classes (R.answer q) :=
    Alike.answer (constant_alike same.bindings) q
  exact constant.answer_eq same.traced same.traced'

end TypeProjection
