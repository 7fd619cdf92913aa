import Mathlib.Logic.Relation
import TypeProjection.Proofs.Layout.Search
import TypeProjection.Proofs.Run.Stable

/-!
# Proofs.Run.Searches — between the steps of a run, no search is under way

All that a run does about classes is to search for them, one binding after the other. This module
shows that the set that a search keeps is empty whenever one of them begins:

* `Layout.Searches` : one search after the other, with one set and one collection of noted classes;
* `searches_undisturbed` : what a question notes is found by searches that begin with the empty set;
* `classes_register` : registrations look for no class;
* `Workspace.searches_take` : so every step of a run is a chain of searches that begins with the
  empty set;
* `Workspace.search_restores` : every search ends, and ends with the set that it began with.
-/

namespace TypeProjection

open Effect (Keeps)
open Layout (Search Finds Memo Settled SameBindings classify inactive)

/-- One search after the other, for any bindings. -/
def Layout.Searches (R : Registry) : Search → Search → Prop :=
  Relation.ReflTransGen fun S S' => ∃ c k looked, Finds R c S looked k S'

namespace Layout.Searches

variable {R R' : Registry} {S S' : Search} {c : TypeBindingId} {k : LayoutClass}
  {m found found' : Memo}

theorem refl (R : Registry) (S : Search) : Searches R S S := Relation.ReflTransGen.refl

/-- One more search, which begins with the empty set. -/
theorem tail (searches : Searches R { notes := m } { notes := found })
    (run : (classify R [] c).run found = some (k, found')) :
    Searches R { notes := m } { notes := found' } :=
  Relation.ReflTransGen.tail searches ⟨c, k, Layout.exists_finds run⟩

/-- However many searches leave the set as they found it. -/
theorem active_eq (searches : Searches R S S') : S'.active = S.active := by
  induction searches with
  | refl => rfl
  | tail _ last restored =>
      rcases last with ⟨c, k, looked, finds⟩
      exact finds.excursion.active.trans restored

/-- Searches that begin with the empty set note the classes that bindings have. -/
theorem settled {searched : Search} (searches : Searches R { notes := found } searched)
    (before : Settled R m found) :
    Settled R m searched.notes := by
  induction searches with
  | refl => exact before
  | @tail S S' searches last after =>
      rcases last with ⟨c, k, looked, finds⟩
      -- The last search begins with the empty set, because the ones before it have restored it.
      have run := Layout.search_runs.1 finds
      rw [active_eq searches] at run
      exact (Layout.classify_hasClass [] c (fun _ mem => absurd mem List.not_mem_nil)
        _ _ _ after run).2

/-- They are the same in registries with the same bindings. -/
theorem congr (same : SameBindings R R') : Searches R' S S' ↔ Searches R S S' := by
  have steps : (fun S S' => ∃ c k looked, Finds R' c S looked k S') =
      fun S S' => ∃ c k looked, Finds R c S looked k S' := by
    funext S S'
    simp only [Layout.exists_finds_iff, Layout.classify_congr same]
  rw [Searches, Searches, steps]

end Layout.Searches

open Layout (Searches)

namespace Registry

/-- Questions note classes by searches only, which have the same outcome whatever was noted by other
searches. -/
theorem searches_undisturbed (R : Registry) (m : Memo) :
    Undisturbed R fun notes => Searches R { notes := m } { notes := notes.classes } where
  classOf c := by
    have steady := (R.settled_undisturbed m).classOf c
    refine ⟨fun notes searches => ?_, fun notes notes' searches searches' =>
      steady.agrees notes notes' (searches.settled (.refl R m)) (searches'.settled (.refl R m))⟩
    -- A dangling handle leaves the notes alone, and a class that is found is found by one more
    -- search.
    cases run : (classify R [] c).run notes.classes with
    | none => rwa [classOf_of_none run]
    | some found =>
        rw [classOf_of_some run]
        exact searches.tail run
  references _ _ holds := holds

end Registry

/-- A workspace has come from an earlier one without registrations: it has the same bindings, and
the classes that it notes in addition were found by searches that began with the empty set. -/
structure Searched (R : Registry) (m : Memo) (W : Workspace) : Prop where
  registry : ∃ target, W.registry = { R with target }
  searches : Searches W.registry { notes := m } { notes := W.notes.classes }

theorem Searched.refl (W : Workspace) : Searched W.registry W.notes.classes W :=
  ⟨⟨_, rfl⟩, .refl _ _⟩

theorem endures_searched (R : Registry) (m : Memo) : Endures (Searched R m) where
  asked {W} q searched :=
    ⟨searched.registry, ((W.registry.searches_undisturbed m).answer q).keeps W.notes
      searched.searches⟩
  edited {W target} _ searched := by
    refine ⟨?_, (Searches.congr (.withTarget W.registry target)).2 searched.searches⟩
    rcases searched.registry with ⟨target', eq⟩
    exact ⟨target, by rw [eq]⟩

/-! ## Registrations -/

theorem classes_record (m : Memo) (C : Target.Catalog) (into : Target.ModuleId)
    (x : Target.Reference) :
    Keeps (fun notes => notes.classes = m) (C.record into x) :=
  .bind (.lift _) fun _ _ same => same

theorem classes_edit {α : Type} (m : Memo) (f : Registry → Option (α × Registry)) :
    Keeps (fun W => W.notes.classes = m) (Update.edit f) := by
  intro W same
  simp only [Update.edit, ExceptT.run]
  cases f W.registry with
  | none => exact same
  | some result => exact same

/-- Registrations look for no class. -/
theorem classes_register (m : Memo) (r : Registration) :
    Keeps (fun W => W.notes.classes = m) (Step.register r).take := by
  cases r with
  | assembly source module =>
      -- That the module comes to refer to both libraries takes no search.
      have surface : ∀ C : Target.Catalog,
        Keeps (fun notes => notes.classes = m) (C.importSurface module) := fun C =>
        .bind (classes_record m C module _) fun _ => classes_record m C module _
      have ask : Keeps (fun W => W.notes.classes = m)
          (Update.ask fun R => R.target.importSurface module) :=
        fun W same => surface W.registry.target W.notes same
      exact .bind (.bind ask fun _ => classes_edit m _) fun _ => .pure _
  | _ => exact classes_edit m _

/-! ## Steps -/

namespace Workspace

variable {W : Workspace}

/-- All classes that a step notes are found by searches that begin with the empty set. -/
theorem searches_take (W : Workspace) (step : Step) :
    Searches W.registry { notes := W.notes.classes }
      { notes := (step.take.run W).2.notes.classes } := by
  -- All other steps than registrations keep the bindings, and change the output catalog at most.
  have others : (∀ r, step ≠ .register r) →
      Searches W.registry { notes := W.notes.classes }
        { notes := (step.take.run W).2.notes.classes } := by
    intro other
    have searched := (endures_searched W.registry W.notes.classes).take other W (.refl W)
    rcases searched.registry with ⟨target, eq⟩
    have searches := searched.searches
    rw [eq] at searches
    exact (Searches.congr (.withTarget W.registry target)).1 searches
  cases step with
  | register r =>
      rw [classes_register W.notes.classes r W rfl]
      exact .refl _ _
  | _ => exact others (by simp)

/-- A search that keeps the bindings it is looking at in a set comes to an end, restores the set,
and finds what `classify` finds. Between the steps of a run the set is empty. -/
theorem search_restores (reachable : W.Reachable) (valid : W.registry.source.FieldsDeclared) :
    (∀ (c : TypeBindingId) (b : TypeBinding), W.registry.types[c]? = some b → ∀ S : Search,
      (∃ looked k S', Finds W.registry c S looked k S') ∧
        ∀ looked k S', Finds W.registry c S looked k S' →
          S'.active = S.active ∧
          (∀ (c' : TypeBindingId) (k' : LayoutClass), S.notes[c']? = some k' →
            S'.notes[c']? = some k') ∧
          (∀ c' ∈ looked, c' ∉ S.active) ∧ looked.Nodup ∧
            looked.length ≤ inactive W.registry S.active ∧
          (classify W.registry S.active c).run S.notes = some (k, S'.notes)) ∧
    (∀ step : Step,
      Searches W.registry { notes := W.notes.classes }
        { notes := (step.take.run W).2.notes.classes }) ∧
    ∀ S : Search, Searches W.registry { notes := W.notes.classes } S → S.active = [] := by
  refine ⟨fun c b bound S => ⟨?_, fun looked k S' finds => ?_⟩, searches_take W,
    fun S searches => ?_⟩
  · have total : Layout.Total (classify W.registry S.active c) :=
      Layout.classify_total reachable.coherent valid bound
    rcases total S.notes with ⟨k, found, run⟩
    rcases Layout.exists_finds run with ⟨looked, finds⟩
    exact ⟨looked, k, _, finds⟩
  · have excursion := finds.excursion
    exact ⟨excursion.active, excursion.keeps, fun c' mem => (excursion.looked c' mem).2.1,
      excursion.nodup, excursion.length_le, Layout.search_runs.1 finds⟩
  · exact searches.active_eq

end Workspace

namespace Sample

/-- A loop holds itself, two types hold each other, and a spiral holds itself applied to itself. -/
def knots : Source.Catalog where
  assemblies := ⟨#["mscorlib"]⟩
  types := ⟨#[
    { assembly := ⟨0⟩, space := "System", name := "ValueType", form := .classType },
    { assembly := ⟨0⟩, space := "System", name := "Int32", form := .structType },
    structOf "Loop" [] [.named ⟨2⟩],
    structOf "Ping" [] [.named ⟨1⟩, .named ⟨4⟩],
    structOf "Pong" [] [.named ⟨3⟩],
    structOf "Spiral" ["T"] [.param (.type ⟨5⟩) 0, .inst ⟨5⟩ [.inst ⟨5⟩ [.param (.type ⟨5⟩) 0]]]]⟩

/-- Loops and spirals are bound twice. -/
def knotRegistrations : List Registration :=
  .assembly ⟨0⟩ ⟨0⟩ :: (List.range 6).map (fun i => .type ⟨0⟩ (some ⟨i⟩) ⟨i⟩)
    ++ [.type ⟨0⟩ (some ⟨2⟩) ⟨6⟩, .type ⟨0⟩ (some ⟨5⟩) ⟨7⟩]

def knotted : Workspace :=
  (Workspace.start "mscorlib" knots target).after (knotRegistrations.map Step.register)

end Sample

/-- Searches that begin in the midst of others, for types that hold each other, end with the set
that they began with. -/
theorem Workspace.search_restores_knotted :
    Sample.knotted.registry.source.FieldsDeclared ∧
      ∀ c ∈ [(⟨3⟩ : TypeBindingId), ⟨5⟩], ∃ looked k S',
        Finds Sample.knotted.registry c { active := [⟨4⟩, ⟨7⟩] } looked k S' ∧
          S'.active = [⟨4⟩, ⟨7⟩] ∧
          (∀ c' ∈ looked, c' ∉ [(⟨4⟩ : TypeBindingId), ⟨7⟩]) ∧ looked.Nodup := by
  have reachable : Sample.knotted.Reachable := ⟨_, _, _, _, rfl⟩
  have valid : Sample.knotted.registry.source.FieldsDeclared := by decide +kernel
  have bound : ∀ c ∈ [(⟨3⟩ : TypeBindingId), ⟨5⟩], (Sample.knotted.registry.types[c]?).isSome := by
    decide +kernel
  refine ⟨valid, fun c mem => ?_⟩
  rcases Option.isSome_iff_exists.1 (bound c mem) with ⟨b, bound⟩
  obtain ⟨⟨looked, k, S', finds⟩, all⟩ :=
    (search_restores reachable valid).1 c b bound { active := [⟨4⟩, ⟨7⟩] }
  obtain ⟨active, -, fresh, nodup, -⟩ := all looked k S' finds
  exact ⟨looked, k, S', finds, active, fresh, nodup⟩

/-- None of the types that hold themselves has a finite layout. -/
example :
    ([⟨2⟩, ⟨3⟩, ⟨4⟩, ⟨5⟩].map fun c => ((classify Sample.knotted.registry [] c).run ∅).map (·.1))
      = List.replicate 4 (some .nonBlittable) := by
  decide +kernel

end TypeProjection
