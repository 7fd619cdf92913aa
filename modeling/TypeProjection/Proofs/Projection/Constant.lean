import TypeProjection.Proofs.Layout.Traced
import TypeProjection.Proofs.Projection.Steady

/-!
# Proofs.Projection.Constant — the notes have no say in answers and references

What a question notes can make later questions quicker, and nothing else. Over traced notes every
question has one outcome, an answer or a failure, and records the same references each time:

* `Constant`          : a question has the same outcome over all traced notes;
* `constant_alike`    : so have all questions about a registry;
* `traced_notesAfter` : the notes that questions leave behind are traced.

Notes that hold nothing but the classes from the beginning are traced, so that the outcome can be
read off there.
-/

namespace TypeProjection

open Effect (Keeps)
open Layout (Memo Traced SameBindings)

variable {R R' : Registry} {m : Memo} {α β : Type} {into : Target.ModuleId} {boxed : Bool}

/-- Over all traced notes, a question has the answer that it has over the notes from the beginning,
and records the same references as there; and the notes stay traced. -/
structure Constant (R : Registry) (m : Memo) (q : Query α) : Prop where
  keeps : Keeps (fun notes => Traced R m notes.classes) q
  outcome : ∀ notes : Ledger, Traced R m notes.classes →
    (q.run notes).1 = (q.run { classes := m }).1 ∧
      ∀ (n : Target.ModuleId) (x : Target.Reference), (q.run notes).2.references.has n x ↔
        notes.references.has n x ∨ (q.run { classes := m }).2.references.has n x

theorem Target.References.not_has_empty {n : ModuleId} {x : Reference} :
    ¬ ({} : References).has n x := by
  simp [has]

namespace Constant

variable {q : Query α} {a : α} {notes notes' : Ledger}

theorem pure (a : α) : Constant R m (pure a) where
  keeps := .pure a
  outcome notes _ := ⟨rfl, by simp [Effect.run_pure, Target.References.not_has_empty]⟩

theorem lift (e : Except Failure α) : Constant R m (liftM e : Query α) where
  keeps := .lift e
  outcome notes _ := ⟨rfl, by simp [Effect.run_lift, Target.References.not_has_empty]⟩

theorem bind {f : α → Query β} (first : Constant R m q) (rest : ∀ a, Constant R m (f a)) :
    Constant R m (q >>= f) where
  keeps := .bind first.keeps fun a => (rest a).keeps
  outcome notes traced := by
    have kept := first.keeps notes traced
    have kept₀ := first.keeps { classes := m } (.refl R m)
    rcases first.outcome notes traced with ⟨same, recorded⟩
    -- Both runs come to the same point in between, or fail alike.
    refine Effect.bind_same (motive := fun (x x₀ : Except Failure β × Ledger) => x.1 = x₀.1 ∧
      ∀ (n : Target.ModuleId) (r : Target.Reference),
        x.2.references.has n r ↔ notes.references.has n r ∨ x₀.2.references.has n r)
      same.symm (fun e => ⟨rfl, recorded⟩) fun a => ?_
    rcases (rest a).outcome _ kept with ⟨sameRest, recordedRest⟩
    rcases (rest a).outcome _ kept₀ with ⟨sameRest₀, recordedRest₀⟩
    exact ⟨sameRest.trans sameRest₀.symm,
      fun n x => by rw [recordedRest, recordedRest₀, recorded, or_assoc]⟩

/-- The answer over some traced notes is the one over all others. -/
theorem answer_eq (constant : Constant R m q) (traced : Traced R m notes.classes)
    (traced' : Traced R m notes'.classes) : (q.run notes).1 = (q.run notes').1 :=
  (constant.outcome notes traced).1.trans (constant.outcome notes' traced').1.symm

end Constant

/-! ## All questions -/

namespace Registry

theorem answer_classOf (c : TypeBindingId) (notes : Ledger) :
    ((R.classOf c).run notes).1 =
      orDangling (((Layout.classify R [] c).run notes.classes).map (·.1)) := by
  cases run : (Layout.classify R [] c).run notes.classes with
  | none => rw [classOf_of_none run, Option.map_none, orDangling]
  | some found => rw [classOf_of_some run, Option.map_some, orDangling]

theorem references_classOf (c : TypeBindingId) (notes : Ledger) :
    ((R.classOf c).run notes).2.references = notes.references := by
  cases run : (Layout.classify R [] c).run notes.classes with
  | none => rw [classOf_of_none run]
  | some found => rw [classOf_of_some run]

/-- Asking for a class records nothing. -/
theorem references_eq_of_classOf {c : TypeBindingId} {k : LayoutClass} {notes notes' : Ledger}
    (run : (R.classOf c).run notes = (.ok k, notes')) : notes'.references = notes.references := by
  rw [← references_classOf (R := R) c notes, run]

theorem constant_classOf (same : SameBindings R R') (c : TypeBindingId) :
    Constant R m (R'.classOf c) := by
  rw [classOf_congr same]
  refine ⟨fun notes traced => ?_, fun notes traced => ⟨?_, fun n x => ?_⟩⟩
  · cases run : (Layout.classify R [] c).run notes.classes with
    | none => rwa [classOf_of_none run]
    | some found =>
        rw [classOf_of_some run]
        exact traced.searched run
  · rw [answer_classOf, answer_classOf, Layout.classify_constant traced (.refl R m)]
  · simp [references_classOf, Target.References.not_has_empty]

end Registry

theorem constant_record (C : Target.Catalog) (imported : Target.Reference) :
    Constant R m (C.record into imported) := by
  refine .bind (.lift _) fun _ => ⟨fun _ traced => traced, fun notes _ => ⟨rfl, fun n x => ?_⟩⟩
  change (notes.references.record into imported).has n x ↔ _ ∨
    (({} : Target.References).record into imported).has n x
  rw [Target.References.has_record, Target.References.has_record, or_comm]
  simp [Target.References.not_has_empty]

theorem constant_importType (C : Target.Catalog) (u : Target.TypeId) :
    Constant R m (C.importType into u) := by
  refine .bind (.lift _) fun d => ?_
  dsimp only
  split
  · exact .bind (constant_record C _) fun _ => .pure _
  · exact .pure _

/-- All basic questions about a registry are constant. -/
theorem constant_alike (same : SameBindings R R') (into : Target.ModuleId) :
    Alike R' R'.target into fun q _ => Constant R m q where
  pure := .pure
  lift := .lift
  bind := .bind
  classOf c := Registry.constant_classOf same c
  recordLibrary _ := constant_record R'.target _
  importType u := constant_importType R'.target u
  methods := rfl
  isMarked _ _ := rfl
  isValueType _ := rfl

/-- Whatever is asked, the notes stay traced. -/
theorem Registry.traced_notesAfter (same : SameBindings R R') {notes : Ledger}
    (traced : Traced R m notes.classes) (qs : List Question) :
    Traced R m (R'.notesAfter notes qs).classes := by
  induction qs generalizing notes with
  | nil => exact traced
  | cons q qs ih =>
      have constant : Constant R m (R'.answer q) := Alike.answer (constant_alike same) q
      exact ih (constant.keeps notes traced)

end TypeProjection
