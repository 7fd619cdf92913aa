import TypeProjection.Proofs.Layout.Settled
import TypeProjection.Proofs.Projection.Alike

/-!
# Proofs.Projection.Steady — what questions about a registry cannot disturb

All questions take notes in two ways only: by asking for the class of a binding, and by recording a
module reference. What these two keep, every question keeps, and what they do not let have a say in
their answers has none in any answer:

* `Undisturbed` : a predicate on notes that both keep;
* `Undisturbed.answer` : the same for every question;
* `settled_undisturbed` : settled notes are undisturbed, so the answers given over them are always
  the same.
-/

namespace TypeProjection

open Effect (Steady Keeps)

/-- A predicate on notes that questions for classes keep, that lets the notes have no say in the
classes, and that says nothing about references. -/
structure Undisturbed (R : Registry) (P : Ledger → Prop) : Prop where
  classOf : ∀ c, Steady P (R.classOf c)
  references : ∀ (notes : Ledger) (references : Target.References), P notes →
    P { notes with references }

namespace Undisturbed

variable {R : Registry} {P : Ledger → Prop} {into : Target.ModuleId} {boxed : Bool}

theorem record (undisturbed : Undisturbed R P) (imported : Target.Reference) :
    Steady P (R.target.record into imported) :=
  .bind (.lift _) fun _ => .modify fun notes holds => undisturbed.references notes _ holds

theorem importType (undisturbed : Undisturbed R P) (t : Target.TypeId) :
    Steady P (R.target.importType into t) := by
  refine .bind (.lift _) fun d => ?_
  dsimp only
  split
  · exact .bind (undisturbed.record _) fun _ => .pure _
  · exact .pure _

/-- To be steady is a relation between a question and any other, that all basic questions are in. -/
theorem alike (undisturbed : Undisturbed R P) (into : Target.ModuleId) :
    Alike R R.target into fun q _ => Steady P q where
  pure := .pure
  lift := .lift
  bind := .bind
  classOf := undisturbed.classOf
  recordLibrary _ := undisturbed.record _
  importType := undisturbed.importType
  methods := rfl
  isMarked _ _ := rfl
  isValueType _ := rfl

theorem importSurface (undisturbed : Undisturbed R P) : Steady P (R.target.importSurface into) :=
  (undisturbed.alike into).parallel.importSurface

theorem projectMethod (undisturbed : Undisturbed R P) (m : Source.MethodId) :
    Steady P (R.projectMethod into m) :=
  (undisturbed.alike into).parallel.projectMethod m

theorem projectOwner (undisturbed : Undisturbed R P) (owner : Source.Owner) :
    Steady P (R.projectOwner into boxed owner) :=
  (undisturbed.alike into).parallel.projectOwner owner

theorem provenUnmanaged (undisturbed : Undisturbed R P) (s : Source.Signature) :
    Steady P (R.provenUnmanaged into boxed s) :=
  (undisturbed.alike into).provenUnmanaged s

theorem allProvenUnmanaged (undisturbed : Undisturbed R P) (args : List Source.Signature) :
    Steady P (R.allProvenUnmanaged into boxed args) :=
  (undisturbed.alike into).parallel.allProvenUnmanaged fun arg _ => undisturbed.provenUnmanaged arg

theorem projectHead (undisturbed : Undisturbed R P) (generic : Source.TypeId)
    (args : List Source.Signature) :
    Steady P (R.projectHead into boxed generic args) :=
  (undisturbed.alike into).parallel.projectHead generic args

theorem project (undisturbed : Undisturbed R P) (s : Source.Signature) :
    Steady P (R.project into boxed s) :=
  (undisturbed.alike into).project s

theorem projectAll (undisturbed : Undisturbed R P) (args : List Source.Signature) :
    Steady P (R.projectAll into boxed args) :=
  (undisturbed.alike into).parallel.projectAll fun arg _ => undisturbed.project arg

/-- No question disturbs the predicate, and the notes have no say in its answer. -/
theorem answer (undisturbed : Undisturbed R P) (q : Question) : Steady P (R.answer q) :=
  Alike.answer undisturbed.alike q

theorem notesAfter (undisturbed : Undisturbed R P) {notes : Ledger} (holds : P notes)
    (qs : List Question) :
    P (R.notesAfter notes qs) := by
  induction qs generalizing notes with
  | nil => exact holds
  | cons q qs ih => exact ih ((undisturbed.answer q).keeps notes holds)

end Undisturbed

/-! ## Settled notes are undisturbed -/

namespace Registry

variable {R : Registry} {m : Layout.Memo} {c : TypeBindingId} {k : LayoutClass}
  {notes notes' : Ledger}

theorem classOf_of_none (run : (Layout.classify R [] c).run notes.classes = none) :
    (R.classOf c).run notes = (.error .danglingHandle, notes) := by
  simp [classOf, ExceptT.run, run]

theorem classOf_of_some {classes : Layout.Memo}
    (run : (Layout.classify R [] c).run notes.classes = some (k, classes)) :
    (R.classOf c).run notes = (.ok k, { notes with classes }) := by
  simp [classOf, ExceptT.run, run]

theorem classOf_eq_ok_iff :
    (R.classOf c).run notes = (.ok k, notes') ↔
      ∃ classes, (Layout.classify R [] c).run notes.classes = some (k, classes) ∧
        { notes with classes } = notes' := by
  cases run : (Layout.classify R [] c).run notes.classes with
  | none =>
      rw [classOf_of_none run]
      constructor
      · intro same
        cases same
      · rintro ⟨_, same, -⟩
        cases same
  | some found =>
      rw [classOf_of_some run]
      constructor
      · intro same
        cases same
        exact ⟨_, rfl, rfl⟩
      · rintro ⟨_, same, rfl⟩
        cases same
        rfl

/-- The class that is answered over settled notes is the one that the binding has. -/
theorem hasClass_of_classOf (settled : Layout.Settled R m notes.classes)
    (run : (R.classOf c).run notes = (.ok k, notes')) : Layout.HasClass R m c k := by
  rcases classOf_eq_ok_iff.1 run with ⟨classes, run, -⟩
  exact (Layout.classify_hasClass [] c (fun _ mem => absurd mem List.not_mem_nil)
    _ _ _ settled run).1

theorem settled_undisturbed (R : Registry) (m : Layout.Memo) :
    Undisturbed R fun notes => Layout.Settled R m notes.classes where
  classOf c := by
    -- The answer is the class that the binding has, and that does not hang on the notes.
    have found : ∀ notes, Layout.Settled R m notes.classes →
        (R.classOf c).run notes = (.error .danglingHandle, notes) ∨
          ∃ k notes', (R.classOf c).run notes = (.ok k, notes') ∧ Layout.HasClass R m c k ∧
            Layout.Settled R m notes'.classes := by
      intro notes settled
      cases run : (Layout.classify R [] c).run notes.classes with
      | none => exact .inl (classOf_of_none run)
      | some found =>
        obtain ⟨has, settled⟩ :=
          Layout.classify_hasClass [] c (fun _ mem => absurd mem List.not_mem_nil)
            _ _ _ settled run
        exact .inr ⟨found.1, _, classOf_eq_ok_iff.2 ⟨found.2, run, rfl⟩, has, settled⟩
    constructor
    · intro notes settled
      rcases found notes settled with run | ⟨k, notes', run, -, settled⟩
      · rwa [run]
      · rwa [run]
    · intro notes notes' settled settled' valid valid'
      rcases found notes settled with run | ⟨k, _, run, has, -⟩
      · simp [run] at valid
      · rcases found notes' settled' with run' | ⟨k', _, run', has', -⟩
        · simp [run'] at valid'
        · rw [run, run', has.unique has']
  references _ _ settled := settled

/-- Settled notes stay settled under all questions. -/
theorem settled_notesAfter (settled : Layout.Settled R m notes.classes) (qs : List Question) :
    Layout.Settled R m (R.notesAfter notes qs).classes :=
  (settled_undisturbed R m).notesAfter settled qs

end Registry

end TypeProjection
