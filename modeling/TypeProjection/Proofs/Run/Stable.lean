import TypeProjection.Proofs.Completion.InStep
import TypeProjection.Proofs.Projection.Steady
import TypeProjection.Proofs.Registry.Coherent
import TypeProjection.Proofs.Update

/-!
# Proofs.Run.Stable — what every run keeps

All that a run does is to ask questions, to add bindings and to change the output catalog. What
survives each of these holds in every workspace that a run leads to:

* `Endures` : a predicate on workspaces that endures questions and changes of the output catalog;
* `Endures.after` : such a predicate is kept by runs that bind nothing;
* `Survives` : a predicate on workspaces that survives registrations as well;
* `Survives.take` : such a predicate is kept by every step;
* `Survives.reachable` : if it holds at the start, it holds in every reachable workspace;
* `Stable` : the same for predicates on registries and noted classes, to which a question only adds
  classes that follow.
-/

namespace TypeProjection

open Effect (Keeps)
open Layout (Memo Settled)

/-- A predicate on workspaces endures questions and changes of the output catalog. A change takes no
module away. -/
structure Endures (P : Workspace → Prop) : Prop where
  asked : ∀ {W : Workspace} (q : Question), P W →
    P { W with notes := ((W.registry.answer q).run W.notes).2 }
  edited : ∀ {W : Workspace} {target : Target.Catalog},
    W.registry.target.modules.size ≤ target.modules.size → P W →
    P { W with registry := { W.registry with target } }

namespace Endures

variable {P : Workspace → Prop} {α : Type}

/-! ## Basic steps -/

/-- Handing on an answer has no part in the notes. -/
theorem notes_map {q : Query α} {f : α → Answer} (notes : Ledger) :
    ((do return f (← q) : Query Answer).run notes).2 = (q.run notes).2 := by
  rcases run : q.run notes with ⟨answer, notes'⟩
  cases answer with
  | error e => rw [Effect.run_bind_of_error run]
  | ok a =>
      rw [Effect.run_bind_of_ok run]
      rfl

theorem look (q : Registry → Except Failure α) : Keeps P (Update.look q) := fun _ holds => holds

theorem ask (endures : Endures P) (q : Question) : Keeps P (Update.ask fun R => R.answer q) :=
  fun _ holds => endures.asked q holds

theorem classOf (endures : Endures P) (c : TypeBindingId) :
    Keeps P (Update.ask fun R => R.classOf c) := by
  intro W holds
  have asked := endures.asked (.classOf c) holds
  rwa [Registry.answer, notes_map] at asked

theorem projectOption (endures : Endures P) (into : Target.ModuleId) (boxed : Bool)
    (s : Option Source.Signature) : Keeps P (Update.ask fun R => R.projectOption into boxed s) := by
  intro W holds
  have asked := endures.asked (.project into boxed s) holds
  rwa [Registry.answer, notes_map] at asked

theorem editTarget (endures : Endures P) {f : Target.Catalog → Option (α × Target.Catalog)}
    (grows : ∀ C result, f C = some result → C.modules.size ≤ result.2.modules.size) :
    Keeps P (Update.editTarget f) := by
  intro W holds
  simp only [Update.editTarget, Update.edit, ExceptT.run]
  cases run : f W.registry.target with
  | none => exact holds
  | some result => exact endures.edited (grows _ _ run) holds

theorem setParams (endures : Endures P) (owner : Target.Owner) (params : List Target.TypeParam) :
    Keeps P (Update.setParams owner params) := by
  refine endures.editTarget fun C result changed => ?_
  rcases Option.map_eq_some_iff.1 changed with ⟨C', set, rfl⟩
  exact Nat.le_of_eq (congrArg Table.size (Target.Catalog.modules_setParams set).symm)

theorem setBase (endures : Endures P) (u : Target.TypeId) (base : Option Target.Signature) :
    Keeps P (Update.setBase u base) := by
  refine endures.editTarget fun C result changed => ?_
  rcases Option.map_eq_some_iff.1 changed with ⟨C', set, rfl⟩
  exact Nat.le_of_eq (congrArg Table.size (Target.Catalog.modules_setBase set).symm)

theorem edit (endures : Endures P) (e : Target.Edit) :
    Keeps P (Update.editTarget fun C => (C.edit e).map ((), ·)) := by
  refine endures.editTarget fun C result changed => ?_
  rcases Option.map_eq_some_iff.1 changed with ⟨C', edited, rfl⟩
  exact Target.Catalog.size_modules_edit edited

/-! ## Completion -/

/-- All steps of which completions are made keep what endures. -/
theorem inStep (endures : Endures P) : Completion.InStep (fun u _ => Keeps P u) id where
  pure := .pure
  lift := .lift
  bind := .bind
  binding _ _ _ rest := .bind (look _) fun b => rest b b ⟨rfl, rfl, rfl, rfl⟩
  declaration _ := look _
  assembly _ _ _ rest := .bind (look _) fun A => rest A A rfl
  classOf := endures.classOf
  projectOption into s := endures.projectOption into false s
  setParams := endures.setParams
  setBase := endures.setBase

theorem complete (endures : Endures P) : Keeps P Completion.complete :=
  .bind (fun _ holds => holds) fun W =>
    endures.inStep.completeIn_self W.registry.bindings W.registry.bindings

/-! ## Runs that bind nothing -/

/-- What endures is kept by every step but a registration, also by one that fails. -/
theorem take (endures : Endures P) {step : Step} (other : ∀ r, step ≠ .register r) :
    Keeps P step.take := by
  cases step with
  | register r => exact absurd rfl (other r)
  | ask q => exact .bind (endures.ask q) fun _ => .pure _
  | edit e => exact endures.edit e
  | complete => exact .bind endures.complete fun _ => .pure _

theorem after (endures : Endures P) {W : Workspace} (holds : P W) {steps : List Step}
    (other : ∀ step ∈ steps, ∀ r, step ≠ .register r) : P (W.after steps) := by
  induction steps generalizing W with
  | nil => exact holds
  | cons step steps ih =>
      exact ih (endures.take (other step List.mem_cons_self) W holds)
        fun step mem => other step (List.mem_cons_of_mem _ mem)

end Endures

/-- A predicate on workspaces survives questions, changes of the output catalog and registrations.
When an assembly is bound, its module has mentioned the fixed surface just before. -/
structure Survives (P : Workspace → Prop) : Prop extends Endures P where
  registered : ∀ {W : Workspace} {r : Registration} {R : Registry},
    (∀ source module, r ≠ .assembly source module) →
    P W → W.registry.register r = some R → P { W with registry := R }
  bound : ∀ {W : Workspace} {source : Source.AssemblyId} {module : Target.ModuleId} {notes : Ledger}
    {R : Registry}, P W → (W.registry.target.importSurface module).run W.notes = (.ok (), notes) →
      W.registry.register (.assembly source module) = some R → P { registry := R, notes }

namespace Survives

variable {P : Workspace → Prop}

/-! ## Registrations -/

theorem register (survives : Survives P) {r : Registration}
    (other : ∀ source module, r ≠ .assembly source module) :
    Keeps P (Update.edit fun R => (R.register r).map ((), ·)) := by
  intro W holds
  simp only [Update.edit, ExceptT.run]
  cases run : W.registry.register r with
  | none => exact holds
  | some R => exact survives.registered other holds run

theorem bindAssembly (survives : Survives P) (source : Source.AssemblyId)
    (module : Target.ModuleId) :
    Keeps P (Update.bindAssembly source module) := by
  intro W holds
  have asked := survives.asked (.importSurface module) holds
  rw [Registry.answer, Endures.notes_map] at asked
  have ask := Update.run_ask (fun R => R.target.importSurface module) W
  rcases run : (W.registry.target.importSurface module).run W.notes with ⟨answer, notes⟩
  rw [run] at asked ask
  unfold Update.bindAssembly
  cases answer with
  | error e =>
      -- Where the module does not exist, the binding is not tried.
      rwa [Effect.run_bind_of_error ask]
  | ok done =>
      rw [Effect.run_bind_of_ok ask]
      simp only [Update.edit, ExceptT.run]
      cases added : W.registry.addAssembly source module with
      | none => exact asked
      | some result =>
          exact survives.bound holds run (by rw [Registry.register, added, Option.map_some])

/-! ## Runs -/

/-- What survives is kept by every step, also by one that fails. -/
theorem take (survives : Survives P) (step : Step) : Keeps P step.take := by
  cases step with
  | register r =>
      -- Binding an assembly also mentions the fixed surface; the others only register.
      cases r with
      | assembly source module => exact .bind (survives.bindAssembly source module) fun _ => .pure _
      | _ => exact survives.register (by simp)
  | _ => exact survives.toEndures.take (by simp)

theorem after (survives : Survives P) {W : Workspace} (holds : P W) (steps : List Step) :
    P (W.after steps) := by
  induction steps generalizing W with
  | nil => exact holds
  | cons step steps ih => exact ih (survives.take step W holds)

/-- What survives and holds at the start holds in every reachable workspace. -/
theorem reachable (survives : Survives P)
    (start : ∀ corlib source target, P (Workspace.start corlib source target)) {W : Workspace}
    (reachable : W.Reachable) : P W := by
  rcases reachable with ⟨corlib, source, target, steps, rfl⟩
  exact survives.after (start corlib source target) steps

end Survives

/-! ## Registries and noted classes -/

/-- A predicate on registries and on the classes noted for them survives questions, registrations
and changes of the output catalog. -/
structure Stable (P : Registry → Memo → Prop) : Prop where
  asked : ∀ {R : Registry} {notes found : Memo}, P R notes → Settled R notes found → P R found
  registered : ∀ {R R' : Registry} {notes : Memo}, P R notes → R.Extended R' → P R' notes
  edited : ∀ {R : Registry} {notes : Memo} (target : Target.Catalog), P R notes →
    P { R with target } notes

namespace Stable

variable {P : Registry → Memo → Prop}

theorem survives (stable : Stable P) : Survives fun W => P W.registry W.notes.classes where
  asked {W} q holds := by
    have keeps := ((Registry.settled_undisturbed W.registry W.notes.classes).answer q).keeps
    exact stable.asked holds (keeps W.notes (.refl _ _))
  edited _ holds := stable.edited _ holds
  registered _ holds run := stable.registered holds (Registry.extended_of_register run)
  bound {W source module notes R} holds run registered := by
    have settled : Settled W.registry W.notes.classes notes.classes :=
      (W.registry.settled_undisturbed W.notes.classes).importSurface.keeps.after (.refl _ _) run
    exact stable.registered (stable.asked holds settled) (Registry.extended_of_register registered)

/-- What is stable and holds at the start holds in every reachable workspace. -/
theorem reachable (stable : Stable P)
    (start : ∀ corlib source target, P (Registry.start corlib source target) ∅) {W : Workspace}
    (reachable : W.Reachable) : P W.registry W.notes.classes :=
  stable.survives.reachable start reachable

end Stable

/-- The tables of every reachable workspace are coherent. -/
theorem Workspace.Reachable.coherent {W : Workspace} (reachable : W.Reachable) :
    W.registry.Coherent := by
  have stable : Stable fun R _ => R.Coherent :=
    { asked := fun coherent _ => coherent
      registered := fun coherent extended => coherent.extended extended
      edited := fun target coherent => coherent.withTarget target }
  exact stable.reachable (fun corlib source target => .start corlib source target) reachable

end TypeProjection
