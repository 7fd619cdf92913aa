import TypeProjection.Proofs.Projection.Constant
import TypeProjection.Proofs.Projection.Form
import TypeProjection.Target.Occurrence

/-!
# Proofs.Projection.References — the module references that a form needs

The form of a reference mentions output types, and the module in which it stands has to refer to the
modules of these types. This module shows that asking for the form records these references and no
others:

* `Target.Catalog.Needs` : the references that the mention of some types needs;
* `Within`, `Added` : at most these, or all of these, were recorded;
* `within_provenUnmanaged` : whether a reference is unmanaged is found out without further
  references;
* `added_projectOption` : what asking for a form records.

A reference to a library is recorded just where the module has it from the start.
-/

namespace TypeProjection

open Layout (Memo Settled)
open Target (Reference References)

/-! ## Types that a signature mentions -/

namespace Target.Signature

variable {C : Catalog} {generic s : Signature} {args : List Signature}

theorem mentioned_external (e : External) : mentioned C (.external e) = [] := rfl

theorem mentioned_byRef : mentioned C (.byRef s) = mentioned C s := by
  rw [mentioned, parts, List.filterMap_cons_none rfl, mentioned]

theorem mentioned_pointer : mentioned C (.pointer s) = mentioned C s := by
  rw [mentioned, parts, List.filterMap_cons_none rfl, mentioned]

theorem mentioned_inst : mentioned C (.inst generic args) = mentioned C generic ++
    args.flatMap (mentioned C) := by
  rw [mentioned, parts, List.filterMap_cons_none rfl, List.filterMap_append, partsOfAll_eq_flatMap,
    List.filterMap_flatMap]
  rfl

theorem mentioned_param (owner : Owner) (position : Nat) :
    mentioned C (.param owner position) = (ownMention C (.param owner position)).toList := by
  cases h : ownMention C (.param owner position) <;> simp [mentioned, parts, h]

end Target.Signature

/-! ## References that mentions need -/

/-- A module that mentions types refers to the modules of these types, itself apart. -/
def Target.Catalog.Needs (C : Target.Catalog) (into : Target.ModuleId) (us : List Target.TypeId)
    (x : Reference) :
    Prop :=
  ∃ u ∈ us, ∃ D, C.types[u]? = some D ∧ D.module ≠ into ∧ x = .module D.module

/-- No more was recorded than what the mention of types in a module needs. -/
structure Within (C : Target.Catalog) (into : Target.ModuleId) (us : List Target.TypeId)
    (refs refs' : References) :
    Prop where
  keeps : ∀ n x, refs.has n x → refs'.has n x
  adds : ∀ n x, refs'.has n x → refs.has n x ∨ n = into ∧ C.Needs into us x

/-- What the mention of types in a module needs was recorded, and no more. -/
structure Added (C : Target.Catalog) (into : Target.ModuleId) (us : List Target.TypeId)
    (refs refs' : References) :
    Prop extends Within C into us refs refs' where
  records : ∀ x, C.Needs into us x → refs'.has into x

variable {C : Target.Catalog} {into : Target.ModuleId} {us vs : List Target.TypeId}
  {refs refs₁ refs' : References} {x : Reference}

theorem Target.Catalog.Needs.mono (needs : C.Needs into us x) (subset : us ⊆ vs) :
    C.Needs into vs x :=
  needs.imp fun _ found => found.imp_left fun mem => subset mem

theorem Target.Catalog.needs_append_iff : C.Needs into (us ++ vs) x ↔ C.Needs into us x ∨
    C.Needs into vs x := by
  simp only [Needs, List.mem_append, or_and_right, exists_or]

namespace Within

theorem refl (us : List Target.TypeId) (refs : References) : Within C into us refs refs :=
  ⟨fun _ _ had => had, fun _ _ had => .inl had⟩

theorem trans (first : Within C into us refs refs₁) (second : Within C into us refs₁ refs') :
    Within C into us refs refs' where
  keeps n x had := second.keeps n x (first.keeps n x had)
  adds n x has := (second.adds n x has).elim (first.adds n x) .inr

theorem mono (within : Within C into us refs refs') (subset : us ⊆ vs) :
    Within C into vs refs refs' where
  keeps := within.keeps
  adds n x has := (within.adds n x has).imp_right fun ⟨here, needs⟩ => ⟨here, needs.mono subset⟩

end Within

namespace Added

theorem refl (refs : References) : Added C into [] refs refs where
  toWithin := .refl [] refs
  records _ needs := by
    rcases needs with ⟨_, mem, -⟩
    cases mem

theorem trans (first : Added C into us refs refs₁) (second : Added C into vs refs₁ refs') :
    Added C into (us ++ vs) refs refs' where
  toWithin := (first.toWithin.mono (List.subset_append_left us vs)).trans
    (second.toWithin.mono (List.subset_append_right us vs))
  records x needs := (Target.Catalog.needs_append_iff.1 needs).elim
    (fun needs => second.keeps into x (first.records x needs)) (second.records x)

/-- What does not go beyond the needs of the same types leaves them exactly recorded. -/
theorem absorb (added : Added C into us refs refs₁) (within : Within C into us refs₁ refs') :
    Added C into us refs refs' where
  toWithin := added.toWithin.trans within
  records x needs := within.keeps into x (added.records x needs)

theorem congr (added : Added C into us refs refs') (same : ∀ u, u ∈ us ↔ u ∈ vs) :
    Added C into vs refs refs' where
  toWithin := added.toWithin.mono fun u => (same u).1
  records x needs := added.records x (needs.mono fun u => (same u).2)

theorem has_iff (added : Added C into us refs refs') {n : Target.ModuleId} :
    refs'.has n x ↔ refs.has n x ∨ n = into ∧ C.Needs into us x := by
  refine ⟨added.adds n x, ?_⟩
  rintro (had | ⟨rfl, needs⟩)
  · exact added.keeps n x had
  · exact added.records x needs

end Added

/-! ## Mentioning types and methods -/

namespace Registry

variable {R : Registry} {m : Memo} {boxed : Bool} {notes notes' : Ledger} {u : Target.TypeId}
  {r : Target.Signature}

theorem record_eq_ok {a : Unit} (run : (R.target.record into x).run notes = (.ok a, notes')) :
    { notes with references := notes.references.record into x } = notes' := by
  rcases Effect.lift_bind_eq_ok_iff.1 run with ⟨name, -, run⟩
  exact congrArg Prod.snd run

/-- A reference that the module has from the start adds nothing. -/
theorem added_record_of_has (had : notes.references.has into x) :
    Added C into [] notes.references (notes.references.record into x) where
  keeps _ _ had := References.has_record.2 (.inr had)
  adds n x' has := by
    rcases References.has_record.1 has with ⟨rfl, rfl⟩ | has
    · exact .inl had
    · exact .inl has
  records _ needs := by
    rcases needs with ⟨_, mem, -⟩
    cases mem

theorem added_importType (run : (R.target.importType into u).run notes = (.ok r, notes')) :
    r = .defined u ∧ Added R.target into [u] notes.references notes'.references := by
  rcases Effect.lift_bind_eq_ok_iff.1 run with ⟨D, found, run⟩
  have declared := Table.fetch_eq_ok_iff.1 found
  have needs_iff : ∀ x, R.target.Needs into [u] x ↔ D.module ≠ into ∧ x = .module D.module := by
    intro x
    simp [Target.Catalog.Needs, declared]
  dsimp only at run
  split at run
  · next other =>
    rcases Effect.bind_eq_ok_iff.1 run with ⟨_, between, recorded, run⟩
    rcases Effect.pure_eq_ok_iff.1 run with ⟨rfl, rfl⟩
    cases record_eq_ok recorded
    refine ⟨rfl, ⟨fun n x had => References.has_record.2 (.inr had), fun n x has => ?_⟩,
      fun x needs => ?_⟩
    · rcases References.has_record.1 has with ⟨rfl, rfl⟩ | had
      · exact .inr ⟨rfl, (needs_iff _).2 ⟨other, rfl⟩⟩
      · exact .inl had
    · exact References.has_record.2 (.inl ⟨rfl, ((needs_iff x).1 needs).2⟩)
  · next here =>
    rcases Effect.pure_eq_ok_iff.1 run with ⟨rfl, rfl⟩
    exact ⟨rfl, .refl _ _, fun x needs => absurd ((needs_iff x).1 needs).1 here⟩

theorem added_importExternal {e : Target.External}
    (had : notes.references.has into (.library e.library))
    (run : (R.target.importExternal into e).run notes = (.ok r, notes')) :
    r = .external e ∧ Added R.target into [] notes.references notes'.references := by
  rcases Effect.bind_eq_ok_iff.1 run with ⟨_, between, recorded, run⟩
  rcases Effect.pure_eq_ok_iff.1 run with ⟨rfl, rfl⟩
  cases record_eq_ok recorded
  exact ⟨rfl, added_record_of_has had⟩

/-! ## Declared types, owners and methods -/

theorem added_projectNamed {t : Source.TypeId} (had : notes.references.has into (.library .corlib))
    (run : (R.projectNamed into boxed t).run notes = (.ok r, notes')) :
    Added R.target into (r.mentioned R.target) notes.references notes'.references := by
  rcases Effect.lift_bind_eq_ok_iff.1 run with ⟨name, -, run⟩
  split at run
  · rcases added_importExternal had run with ⟨rfl, added⟩
    exact added
  · rcases Effect.pure_eq_ok_iff.1 run with ⟨rfl, rfl⟩
    exact .refl _
  · rcases Effect.pure_eq_ok_iff.1 run with ⟨rfl, rfl⟩
    exact .refl _
  · rcases Effect.lift_bind_eq_ok_iff.1 run with ⟨c, -, run⟩
    rcases Effect.lift_bind_eq_ok_iff.1 run with ⟨u, -, run⟩
    rcases added_importType run with ⟨rfl, added⟩
    exact added
  · rcases Effect.lift_bind_eq_ok_iff.1 run with ⟨c, -, run⟩
    rcases Effect.lift_bind_eq_ok_iff.1 run with ⟨u, -, run⟩
    rcases added_importType run with ⟨rfl, added⟩
    exact added

/-- The owner of a parameter is mentioned, a method by the type that declares it. -/
theorem added_projectOwner {owner : Source.Owner} {target : Target.Owner} (position : Nat)
    (run : (R.projectOwner into boxed owner).run notes = (.ok target, notes')) :
    Added R.target into (Target.Signature.mentioned R.target (.param target position))
      notes.references
      notes'.references := by
  rw [Target.Signature.mentioned_param]
  cases owner with
  | type t =>
      rcases Effect.lift_bind_eq_ok_iff.1 run with ⟨c, -, run⟩
      rcases Effect.lift_bind_eq_ok_iff.1 run with ⟨u, -, run⟩
      rcases Effect.bind_eq_ok_iff.1 run with ⟨r, between, imported, run⟩
      rcases Effect.pure_eq_ok_iff.1 run with ⟨rfl, rfl⟩
      exact (added_importType imported).2
  | method method =>
      rcases Effect.bind_eq_ok_iff.1 run with ⟨found, between, projected, run⟩
      rcases Effect.pure_eq_ok_iff.1 run with ⟨rfl, rfl⟩
      rcases Effect.lift_bind_eq_ok_iff.1 projected with ⟨d, -, projected⟩
      rcases Effect.lift_bind_eq_ok_iff.1 projected with ⟨c, -, projected⟩
      rcases Effect.lift_bind_eq_ok_iff.1 projected with ⟨b, -, projected⟩
      split at projected
      · next target known =>
        rcases Effect.lift_bind_eq_ok_iff.1 projected with ⟨D, fetched, projected⟩
        rcases Effect.bind_eq_ok_iff.1 projected with ⟨r, between, imported, projected⟩
        rcases Effect.pure_eq_ok_iff.1 projected with ⟨rfl, rfl⟩
        have declared := Table.fetch_eq_ok_iff.1 fetched
        simpa [Target.Signature.ownMention, declared] using (added_importType imported).2
      · rcases Effect.lift_bind_eq_ok_iff.1 projected with ⟨name, -, projected⟩
        cases congrArg Prod.fst projected

/-! ## Unmanaged references -/

/-- An answer that is given over settled notes leaves them settled, and records no more than what
the mention of some types needs. -/
def RecordsWithin {α : Type} (R : Registry) (m : Memo) (into : Target.ModuleId)
    (us : List Target.TypeId) (q : Query α) : Prop :=
  ∀ (notes notes' : Ledger) (a : α), Settled R m notes.classes → q.run notes = (.ok a, notes') →
    Settled R m notes'.classes ∧ Within R.target into us notes.references notes'.references

namespace RecordsWithin

variable {α β : Type}

theorem pure (a : α) : R.RecordsWithin m into us (pure a) := by
  intro notes notes' a settled run
  rcases Effect.pure_eq_ok_iff.1 run with ⟨-, rfl⟩
  exact ⟨settled, .refl us _⟩

theorem lift (e : Except Failure α) : R.RecordsWithin m into us (liftM e : Query α) := by
  intro notes notes' a settled run
  rcases Effect.lift_eq_ok_iff.1 run with ⟨-, rfl⟩
  exact ⟨settled, .refl us _⟩

theorem bind {q : Query α} {f : α → Query β} (first : R.RecordsWithin m into us q)
    (rest : ∀ a, R.RecordsWithin m into us (f a)) : R.RecordsWithin m into us (q >>= f) := by
  intro notes notes' b settled run
  rcases Effect.bind_eq_ok_iff.1 run with ⟨a, between, runFirst, run⟩
  rcases first notes between a settled runFirst with ⟨settled, within⟩
  rcases rest a between notes' b settled run with ⟨settled, within'⟩
  exact ⟨settled, within.trans within'⟩

theorem mono {q : Query α} (records : R.RecordsWithin m into us q) (subset : us ⊆ vs) :
    R.RecordsWithin m into vs q := by
  intro notes notes' a settled run
  rcases records notes notes' a settled run with ⟨settled, within⟩
  exact ⟨settled, within.mono subset⟩

theorem classOf (c : TypeBindingId) : R.RecordsWithin m into us (R.classOf c) := by
  intro notes notes' k settled run
  refine ⟨((settled_undisturbed R m).classOf c).keeps.after settled run, ?_⟩
  exact references_eq_of_classOf run ▸ .refl us _

theorem isBlittable (t : Source.TypeId) : R.RecordsWithin m into us (R.isBlittable t) :=
  .bind (.lift _) fun c => .bind (.classOf c) fun _ => .pure _

theorem allProvenUnmanaged {args : List Source.Signature}
    (each : ∀ arg ∈ args, R.RecordsWithin m into us (R.provenUnmanaged into boxed arg)) :
    R.RecordsWithin m into us (R.allProvenUnmanaged into boxed args) := by
  induction args with
  | nil =>
      rw [Registry.allProvenUnmanaged]
      exact .pure true
  | cons arg args ih =>
      rw [Registry.allProvenUnmanaged]
      refine .bind (each arg List.mem_cons_self) fun proven => ?_
      cases proven with
      | true => exact ih fun arg mem => each arg (List.mem_cons_of_mem _ mem)
      | false => exact .pure false

theorem provenUnmanaged_inst {generic : Source.TypeId} {args : List Source.Signature}
    (each : ∀ arg ∈ args, R.RecordsWithin m into us (R.provenUnmanaged into boxed arg)) :
    R.RecordsWithin m into us (R.provenUnmanaged into boxed (.inst generic args)) := by
  rw [Registry.provenUnmanaged]
  refine .bind (.allProvenUnmanaged each) fun proven => ?_
  cases proven with
  | true => exact .isBlittable generic
  | false => exact .pure false

end RecordsWithin

/-- To find out whether a reference is unmanaged needs no references beyond those that its form
needs. -/
theorem within_provenUnmanaged {s : Source.Signature}
    (yields : R.Yields m (R.project into boxed s) r) :
    R.RecordsWithin m into (r.mentioned R.target) (R.provenUnmanaged into boxed s) := by
  induction s generalizing r with
  | named t =>
      rw [Registry.provenUnmanaged]
      exact .isBlittable t
  | inst generic args ih =>
      rcases yields.project_inst with ⟨head, projected, rfl, -, yieldsArgs⟩
      refine .provenUnmanaged_inst fun arg mem => ?_
      rcases yieldsArgs.mem_projectAll mem with ⟨r, memArg, yieldsArg⟩
      refine (ih arg mem yieldsArg).mono fun u memArg' => ?_
      rw [Target.Signature.mentioned_inst]
      exact List.mem_append_right _ (List.mem_flatMap.2 ⟨r, memArg, memArg'⟩)
  | param owner position =>
      -- The owner is the same as in the form, so that it is mentioned there.
      rcases yields.project_param with ⟨target, rfl, yieldsOwner⟩
      rw [Registry.provenUnmanaged]
      intro notes notes' answer settled run
      rcases Effect.bind_eq_ok_iff.1 run with ⟨target', between, runOwner, run⟩
      rcases Effect.lift_eq_ok_iff.1 run with ⟨-, rfl⟩
      have steady : Effect.Steady (fun notes => Settled R m notes.classes)
          (R.projectOwner into boxed owner) :=
        (settled_undisturbed R m).projectOwner owner
      cases yieldsOwner.unique steady ⟨notes, between, settled, runOwner⟩
      exact ⟨steady.keeps.after settled runOwner, (added_projectOwner position runOwner).toWithin⟩
  | _ =>
      rw [Registry.provenUnmanaged]
      exact .pure _

/-! ## References -/

theorem added_projectHead {generic : Source.TypeId} {args : List Source.Signature}
    {projected : List Target.Signature} (had : notes.references.has into (.library .corlib))
    (settled : Settled R m notes.classes)
    (yieldsArgs : R.Yields m (R.projectAll into boxed args) projected)
    (run : (R.projectHead into boxed generic args).run notes = (.ok r, notes')) :
    ∃ refs, Within R.target into (projected.flatMap (·.mentioned R.target)) notes.references refs ∧
      Added R.target into (r.mentioned R.target) refs notes'.references := by
  rcases Effect.lift_bind_eq_ok_iff.1 run with ⟨c, -, run⟩
  rcases Effect.bind_eq_ok_iff.1 run with ⟨k, between, classified, run⟩
  obtain ⟨settled, within⟩ : Settled R m between.classes ∧
      Within R.target into (projected.flatMap (·.mentioned R.target))
        notes.references between.references :=
    RecordsWithin.classOf c notes between k settled classified
  have had := within.keeps _ _ had
  split at run
  · rcases Effect.bind_eq_ok_iff.1 run with ⟨answer, between', proven, run⟩
    have records : R.RecordsWithin m into (projected.flatMap (·.mentioned R.target))
        (R.provenUnmanaged into boxed (.inst generic args)) := by
      refine .provenUnmanaged_inst fun arg mem => ?_
      rcases yieldsArgs.mem_projectAll mem with ⟨r, memArg, yieldsArg⟩
      exact (within_provenUnmanaged yieldsArg).mono fun u mem => List.mem_flatMap.2 ⟨r, memArg, mem⟩
    rcases records between between' answer settled proven with ⟨-, within'⟩
    refine ⟨between'.references, within.trans within', ?_⟩
    cases answer with
    | true => exact added_projectNamed (within'.keeps _ _ had) run
    | false =>
        rcases Effect.lift_bind_eq_ok_iff.1 run with ⟨u, -, run⟩
        rcases added_importType run with ⟨rfl, added⟩
        exact added
  · exact ⟨between.references, within, added_projectNamed had run⟩

theorem added_projectAll {args : List Source.Signature} {projected : List Target.Signature}
    (each : ∀ arg ∈ args, ∀ {notes notes' : Ledger} {r : Target.Signature},
      notes.references.has into (.library .corlib) → Settled R m notes.classes →
        (R.project into boxed arg).run notes = (.ok r, notes') →
          Added R.target into (r.mentioned R.target) notes.references notes'.references)
    (had : notes.references.has into (.library .corlib)) (settled : Settled R m notes.classes)
    (run : (R.projectAll into boxed args).run notes = (.ok projected, notes')) :
    Added R.target into (projected.flatMap (·.mentioned R.target))
      notes.references notes'.references := by
  induction args generalizing projected notes with
  | nil =>
      rw [Registry.projectAll] at run
      rcases Effect.pure_eq_ok_iff.1 run with ⟨rfl, rfl⟩
      exact .refl _
  | cons arg args ih =>
      rw [Registry.projectAll] at run
      rcases Effect.bind_eq_ok_iff.1 run with ⟨r, between, runFirst, run⟩
      rcases Effect.bind_eq_ok_iff.1 run with ⟨rest, between', runRest, run⟩
      rcases Effect.pure_eq_ok_iff.1 run with ⟨rfl, rfl⟩
      have first := each arg List.mem_cons_self had settled runFirst
      have settled := ((settled_undisturbed R m).project arg).keeps.after settled runFirst
      have rest := ih (fun arg mem => each arg (List.mem_cons_of_mem _ mem)) (first.keeps _ _ had)
        settled runRest
      exact first.trans rest

/-- Asking for the form of a reference records what the form needs, and no more. -/
theorem added_project {s : Source.Signature} (had : notes.references.has into (.library .corlib))
    (settled : Settled R m notes.classes)
    (run : (R.project into boxed s).run notes = (.ok r, notes')) :
    Added R.target into (r.mentioned R.target) notes.references notes'.references := by
  induction s generalizing r notes notes' with
  | named t =>
      rw [Registry.project] at run
      exact added_projectNamed had run
  | unresolved name =>
      rw [Registry.project] at run
      rcases Effect.pure_eq_ok_iff.1 run with ⟨rfl, rfl⟩
      exact .refl _
  | array element rank ih =>
      rw [Registry.project] at run
      split at run
      · rcases Effect.pure_eq_ok_iff.1 run with ⟨rfl, rfl⟩
        exact .refl _
      · rcases Effect.lift_bind_eq_ok_iff.1 run with ⟨isString, -, run⟩
        split at run
        · rcases Effect.pure_eq_ok_iff.1 run with ⟨rfl, rfl⟩
          exact .refl _
        · rcases Effect.bind_eq_ok_iff.1 run with ⟨projected, between, runElement, run⟩
          rcases Effect.lift_bind_eq_ok_iff.1 run with ⟨array, found, run⟩
          rcases Effect.pure_eq_ok_iff.1 run with ⟨rfl, rfl⟩
          -- The wrapper is a library type, so that only the element mentions types.
          rcases arrayFor_eq_ok found with ⟨e, rfl, -⟩
          simpa [Target.Signature.mentioned_inst, Target.Signature.mentioned_external]
            using ih had settled runElement
  | byRef target ih =>
      rw [Registry.project] at run
      rcases Effect.bind_eq_ok_iff.1 run with ⟨projected, between, runTarget, run⟩
      rcases Effect.pure_eq_ok_iff.1 run with ⟨rfl, rfl⟩
      rw [Target.Signature.mentioned_byRef]
      exact ih had settled runTarget
  | pointer target ih =>
      rw [Registry.project] at run
      rcases Effect.bind_eq_ok_iff.1 run with ⟨projected, between, runTarget, run⟩
      rcases Effect.pure_eq_ok_iff.1 run with ⟨rfl, rfl⟩
      rw [Target.Signature.mentioned_pointer]
      exact ih had settled runTarget
  | inst generic args ih =>
      rw [Registry.project] at run
      rcases Effect.bind_eq_ok_iff.1 run with ⟨projected, between, runArgs, run⟩
      rcases Effect.bind_eq_ok_iff.1 run with ⟨head, between', runHead, run⟩
      rcases Effect.pure_eq_ok_iff.1 run with ⟨rfl, rfl⟩
      have added := added_projectAll ih had settled runArgs
      have settled' := ((settled_undisturbed R m).projectAll args).keeps.after settled runArgs
      -- The head is found with a look at the arguments, which have recorded what they need before.
      obtain ⟨refs, within, addedHead⟩ :=
        added_projectHead (added.keeps _ _ had) settled' ⟨notes, between, settled, runArgs⟩ runHead
      rw [Target.Signature.mentioned_inst]
      exact ((added.absorb within).trans addedHead).congr fun u => by
        rw [List.mem_append, List.mem_append, or_comm]
  | param owner position =>
      rw [Registry.project] at run
      rcases Effect.bind_eq_ok_iff.1 run with ⟨target, between, runOwner, run⟩
      rcases Effect.pure_eq_ok_iff.1 run with ⟨rfl, rfl⟩
      exact added_projectOwner position runOwner

theorem added_projectOption {s : Option Source.Signature}
    (had : notes.references.has into (.library .corlib)) (settled : Settled R m notes.classes)
    (run : (R.projectOption into boxed s).run notes = (.ok r, notes')) :
    Added R.target into (r.mentioned R.target) notes.references notes'.references := by
  cases s with
  | none =>
      rcases Effect.pure_eq_ok_iff.1 run with ⟨rfl, rfl⟩
      exact .refl _
  | some s => exact added_project had settled run

end Registry

end TypeProjection
