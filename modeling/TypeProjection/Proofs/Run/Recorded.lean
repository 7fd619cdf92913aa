import TypeProjection.Proofs.Projection.Faithful
import TypeProjection.Proofs.Projection.References
import TypeProjection.Proofs.Run.Stable

/-!
# Proofs.Run.Recorded — which references a run records

The modules of bound assemblies refer to both libraries from the start, and no module ever refers to
itself. Both hold in every workspace that a run leads to, so that asking for a form there records
exactly what the form needs:

* `Recorded`                       : what holds of the recorded references throughout a run;
* `Workspace.Reachable.recorded`   : it does;
* `Workspace.Reachable.hasModules` : the modules of bound assemblies are there;
* `references_of_projectOption`    : the references after a form was asked for.
-/

namespace TypeProjection

open Effect (Keeps)
open Target (Reference References)

/-- The modules of bound assemblies refer to both libraries, and no module refers to itself. -/
structure Recorded (R : Registry) (refs : References) : Prop where
  libraries : ∀ {i : AssemblyBindingId} {A : AssemblyBinding}, R.assemblies[i]? = some A →
    ∀ library, refs.has A.module (.library library)
  notSelf : ∀ n : Target.ModuleId, ¬ refs.has n (.module n)

/-! ## Questions -/

/-- What modules refer to is kept, and no module comes to refer to itself. -/
structure Kept (refs refs' : References) : Prop where
  keeps : ∀ n x, refs.has n x → refs'.has n x
  notSelf : (∀ n, ¬ refs.has n (.module n)) → ∀ n, ¬ refs'.has n (.module n)

theorem Kept.refl (refs : References) : Kept refs refs := ⟨fun _ _ had => had, id⟩

theorem Kept.record {refs refs' : References} (kept : Kept refs refs') {into : Target.ModuleId}
    {x : Reference} (other : x ≠ .module into) : Kept refs (refs'.record into x) where
  keeps n x had := References.has_record.2 (.inr (kept.keeps n x had))
  notSelf not n has := by
    rcases References.has_record.1 has with ⟨rfl, self⟩ | has
    · exact other self.symm
    · exact kept.notSelf not n has

namespace Registry

variable {R : Registry} {refs : References} {into : Target.ModuleId}

theorem keeps_record {x : Reference} (other : x ≠ .module into) :
    Keeps (fun notes => Kept refs notes.references) (R.target.record into x) :=
  .bind (.lift _) fun _ _ kept => kept.record other

theorem keeps_importType (u : Target.TypeId) :
    Keeps (fun notes => Kept refs notes.references) (R.target.importType into u) := by
  refine .bind (.lift _) fun D => ?_
  dsimp only
  split
  · next other =>
    exact .bind (keeps_record fun self => other (Reference.module.inj self)) fun _ => .pure _
  · exact .pure _

theorem kept_alike (R : Registry) (refs : References) (into : Target.ModuleId) :
    Alike R R.target into fun q _ => Keeps (fun notes => Kept refs notes.references) q where
  pure := .pure
  lift := .lift
  bind := .bind
  classOf c notes kept := by
    change Kept refs ((R.classOf c).run notes).2.references
    rwa [references_classOf]
  recordLibrary _ := keeps_record (by simp)
  importType := keeps_importType
  methods := rfl
  isMarked _ _ := rfl
  isValueType _ := rfl

/-- Whatever is asked, references are kept and no module comes to refer to itself. -/
theorem kept_answer (q : Question) (notes : Ledger) :
    Kept notes.references ((R.answer q).run notes).2.references :=
  Alike.answer (R.kept_alike notes.references) q notes (.refl _)

/-- The fixed surface brings in both libraries. -/
theorem has_of_importSurface {notes notes' : Ledger} {done : Unit}
    (run : (R.target.importSurface into).run notes = (.ok done, notes'))
    (library : Target.Library) :
    notes'.references.has into (.library library) := by
  rcases Effect.bind_eq_ok_iff.1 run with ⟨_, between, first, second⟩
  cases record_eq_ok first
  cases record_eq_ok second
  cases library with
  | corlib => exact References.has_record.2 (.inl ⟨rfl, rfl⟩)
  | support => exact References.has_record.2 (.inr (References.has_record.2 (.inl ⟨rfl, rfl⟩)))

/-! ## Registrations -/

/-- Only the registration of an assembly binds a module. -/
theorem module_of_register {R' : Registry} {r : Registration}
    (other : ∀ source module, r ≠ .assembly source module) (run : R.register r = some R')
    {i : AssemblyBindingId} {A : AssemblyBinding} (listed : R'.assemblies[i]? = some A) :
    ∃ A', R.assemblies[i]? = some A' ∧ A'.module = A.module := by
  have added : ∀ {b : TypeBinding} {result : TypeBindingId × Registry},
    R.addBinding b = some result →
      result.2 = R' → ∃ A', R.assemblies[i]? = some A' ∧ A'.module = A.module := by
    intro b result add eq
    simp only [addBinding, Option.bind_eq_bind, Option.bind_eq_some_iff] at add
    rcases add with ⟨fullName, -, A₀, owned, add⟩
    cases add
    subst eq
    rcases (Table.getElem?_set_eq_some_iff owned).1 listed with ⟨rfl, rfl⟩ | ⟨-, listed⟩
    · exact ⟨A₀, owned, rfl⟩
    · exact ⟨A, listed, rfl⟩
  cases r with
  | assembly source module => exact absurd rfl (other source module)
  | type assembly source target =>
    rcases Option.map_eq_some_iff.1 run with ⟨result, add, eq⟩
    exact added add eq
  | standIn assembly source target =>
    rcases Option.map_eq_some_iff.1 run with ⟨result, add, eq⟩
    exact added add eq
  | counterpart c counterpart =>
    simp only [register, setCounterpart, Option.bind_eq_bind, Option.bind_eq_some_iff] at run
    rcases run with ⟨b, -, eq⟩
    cases eq
    exact ⟨A, listed, rfl⟩
  | method c source target =>
    simp only [register, addMethod, Option.bind_eq_bind, Option.bind_eq_some_iff] at run
    rcases run with ⟨b, -, eq⟩
    cases eq
    exact ⟨A, listed, rfl⟩

end Registry

namespace Recorded

variable {R R' : Registry} {refs refs' : References}

theorem kept (recorded : Recorded R refs) (kept : Kept refs refs') : Recorded R refs' where
  libraries listed library := kept.keeps _ _ (recorded.libraries listed library)
  notSelf := kept.notSelf recorded.notSelf

/-- The module of a newly bound assembly refers to both libraries, if the fixed surface was
mentioned there. -/
theorem register (recorded : Recorded R refs) {source : Source.AssemblyId}
    {module : Target.ModuleId} (run : R.register (.assembly source module) = some R')
    (surface : ∀ library, refs.has module (.library library)) : Recorded R' refs where
  libraries {i A} listed library := by
    rcases Option.map_eq_some_iff.1 run with ⟨added, add, rfl⟩
    simp only [Registry.addAssembly, Option.bind_eq_bind, Option.bind_eq_some_iff] at add
    rcases add with ⟨name, -, eq⟩
    cases eq
    rcases Table.getElem?_push_eq_some_iff.1 listed with listed | ⟨-, rfl⟩
    · exact recorded.libraries listed library
    · exact surface library
  notSelf := recorded.notSelf

theorem start (corlib : String) (source : Source.Catalog) (target : Target.Catalog) :
    Recorded (Registry.start corlib source target) {} where
  libraries listed := nomatch listed
  notSelf _ := References.not_has_empty

theorem survives : Survives fun W => Recorded W.registry W.notes.references where
  asked {W} q recorded := recorded.kept (W.registry.kept_answer q W.notes)
  edited _ recorded := ⟨recorded.libraries, recorded.notSelf⟩
  registered other recorded run := by
    refine ⟨fun {i A} listed library => ?_, recorded.notSelf⟩
    rcases Registry.module_of_register other run listed with ⟨A', listed', eq⟩
    exact eq ▸ recorded.libraries listed' library
  bound {W source module notes R} recorded run registered := by
    have kept : Kept W.notes.references notes.references :=
      (W.registry.kept_alike W.notes.references module).parallel.importSurface.after (.refl _) run
    exact (recorded.kept kept).register registered (Registry.has_of_importSurface run)

end Recorded

/-- In a reachable workspace the modules of bound assemblies refer to both libraries, and no module
to itself. -/
theorem Workspace.Reachable.recorded {W : Workspace} (reachable : W.Reachable) :
    Recorded W.registry W.notes.references :=
  Recorded.survives.reachable Recorded.start reachable

/-! ## Modules -/

/-- The module of every bound assembly is there. -/
def Registry.HasModules (R : Registry) : Prop :=
  ∀ (i : AssemblyBindingId) (A : AssemblyBinding), R.assemblies[i]? = some A →
    A.module.index < R.target.modules.size

/-- The fixed surface is mentioned only in a module that is there. -/
theorem Registry.lt_size_of_importSurface {R : Registry} {into : Target.ModuleId}
    {notes notes' : Ledger} {done : Unit}
    (run : (R.target.importSurface into).run notes = (.ok done, notes')) :
    into.index < R.target.modules.size := by
  rcases Effect.bind_eq_ok_iff.1 run with ⟨_, between, first, -⟩
  rcases Effect.lift_bind_eq_ok_iff.1 first with ⟨name, fetched, -⟩
  exact Table.lt_size_of_getElem? (Table.fetch_eq_ok_iff.1 fetched)

theorem Registry.HasModules.survives : Survives fun W => W.registry.HasModules where
  asked _ has := has
  edited grows has i A listed := Nat.lt_of_lt_of_le (has i A listed) grows
  registered {W r R} other has run i A listed := by
    rcases Registry.module_of_register other run listed with ⟨A', listed', eq⟩
    rw [(Registry.extended_of_register run).target, ← eq]
    exact has i A' listed'
  bound {W source module notes R} has run registered i A listed := by
    rcases Option.map_eq_some_iff.1 registered with ⟨added, add, rfl⟩
    simp only [Registry.addAssembly, Option.bind_eq_bind, Option.bind_eq_some_iff] at add
    rcases add with ⟨name, -, eq⟩
    cases eq
    rcases Table.getElem?_push_eq_some_iff.1 listed with listed | ⟨-, rfl⟩
    · exact has i A listed
    · exact Registry.lt_size_of_importSurface run

/-- In a reachable workspace the modules of bound assemblies are there, whatever became of the
output catalog. -/
theorem Workspace.Reachable.hasModules {W : Workspace} (reachable : W.Reachable) :
    W.registry.HasModules :=
  Registry.HasModules.survives.reachable (fun _ _ _ _ _ listed => nomatch listed) reachable

/-! ## References after a form was asked for -/

/-- Asking for a form records references to the modules of all types that the form mentions, and no
others. -/
theorem references_of_projectOption {W : Workspace} (reachable : W.Reachable)
    {i : AssemblyBindingId} {A : AssemblyBinding} (listed : W.registry.assemblies[i]? = some A)
    (boxed : Bool) (s : Option Source.Signature) {r : Target.Signature} {notes : Ledger}
    (run : (W.registry.projectOption A.module boxed s).run W.notes = (.ok r, notes)) :
    (∀ x, notes.references.has A.module x ↔ W.notes.references.has A.module x ∨
      ∃ u ∈ r.mentioned W.registry.target, ∃ D, W.registry.target.types[u]? = some D ∧
        D.module ≠ A.module ∧ x = .module D.module) ∧
    (∀ library ∈ r.libraries, notes.references.has A.module (.library library)) ∧
    (∀ n ≠ A.module, ∀ x, notes.references.has n x ↔ W.notes.references.has n x) ∧
    ¬ notes.references.has A.module (.module A.module) := by
  have recorded := reachable.recorded
  have had := recorded.libraries listed .corlib
  have added := Registry.added_projectOption had (.refl W.registry W.notes.classes) run
  have kept : Kept W.notes.references notes.references :=
    (W.registry.kept_alike W.notes.references A.module).projectOption s |>.after (.refl _) run
  have after := recorded.kept kept
  refine ⟨fun x => ?_, fun library _ => after.libraries listed library, fun n other x => ?_,
    after.notSelf A.module⟩
  · rw [added.has_iff]
    simp only [true_and]
    exact Iff.rfl
  · rw [added.has_iff]
    simp [other]

/-- In the sample program, bags of boxed lists bring in the module of the boxes and that of objects,
and nothing else. -/
theorem references_of_projectOption_bag :
    (Sample.shop.registry.projectOption ⟨1⟩ false (some Sample.bagOfLists)
      |>.run Sample.shop.notes).1 =
        .ok Sample.bagOfBoxes ∧
      ∀ x, (Sample.shop.registry.projectOption ⟨1⟩ false (some Sample.bagOfLists)
          |>.run Sample.shop.notes).2.references.has ⟨1⟩ x ↔
        Sample.shop.notes.references.has ⟨1⟩ x ∨ x = .module ⟨0⟩ ∨ x = .module ⟨2⟩ := by
  have projected : (Sample.shop.registry.projectOption ⟨1⟩ false (some Sample.bagOfLists)
      |>.run Sample.shop.notes).1 = .ok Sample.bagOfBoxes := by
    decide +kernel
  have module : Sample.shop.registry.assemblies[(⟨1⟩ : AssemblyBindingId)]?.map (·.module) =
      some ⟨1⟩ := by
    decide +kernel
  have mentioned : Sample.bagOfBoxes.mentioned Sample.shop.registry.target = [⟨7⟩, ⟨10⟩, ⟨0⟩] := by
    decide +kernel
  have reachable : Sample.shop.Reachable := ⟨_, _, _, _, rfl⟩
  rcases Option.map_eq_some_iff.1 module with ⟨A, listed, eq⟩
  -- Of the three mentioned types, one is declared in the module itself.
  have home {i n : Nat}
      (found : Sample.shop.registry.target.types[(⟨i⟩ : Target.TypeId)]?.map
        (·.module.index) = some n) :
      ∃ D, Sample.shop.registry.target.types[(⟨i⟩ : Target.TypeId)]? = some D ∧ D.module = ⟨n⟩ := by
    rcases Option.map_eq_some_iff.1 found with ⟨D, declared, rfl⟩
    exact ⟨D, declared, rfl⟩
  obtain ⟨bag, declaredBag, homeBag⟩ := home (i := 7) (n := 1) (by decide +kernel)
  obtain ⟨box, declaredBox, homeBox⟩ := home (i := 10) (n := 2) (by decide +kernel)
  obtain ⟨object, declaredObject, homeObject⟩ := home (i := 0) (n := 0) (by decide +kernel)
  refine ⟨projected, fun x => ?_⟩
  have recorded := (references_of_projectOption reachable listed false (some Sample.bagOfLists)
    (eq ▸ Effect.run_eq projected)).1 x
  simpa [eq, mentioned, declaredBag, homeBag, declaredBox, homeBox, declaredObject, homeObject,
    or_comm] using recorded

end TypeProjection
