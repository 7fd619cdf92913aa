import Mathlib.Data.List.Perm.Subperm
import TypeProjection.Layout.Search
import TypeProjection.Proofs.Layout.LeastClass

/-!
# Proofs.Layout.Search — the search ends, and ends as it began

A search that keeps the bindings whose fields are being looked at in one set takes out what it
enters, by whichever way it comes to its end. So it is the search that hands these bindings down,
and it ends wherever that one does:

* `fieldBlittable_eq` : whether a field is blittable is whether it gets what it asks for;
* `Excursion` : what a part of a search does to the set and to the classes that are noted;
* `search_excursion` : every search does no more than that, and `Excursion.length_le` : so it looks
  at the fields of each binding outside the set once at most;
* `exists_finds_iff` : the search with a set and the search that hands its elements down are the
  same.
-/

namespace TypeProjection.Layout

open Source (Signature TypeDecl)

variable {R : Registry} {classOf : TypeBindingId → Classifier LayoutClass}

/-! ## Fields and what they ask for -/

theorem allM_append {α : Type} (p : α → Classifier Bool) (xs ys : List α) :
    (xs ++ ys).allM p = (do if ← xs.allM p then ys.allM p else return false) := by
  induction xs with
  | nil => rfl
  | cons x xs ih =>
      simp only [List.cons_append, List.allM, bind_assoc]
      congr 1
      funext holds
      cases holds with
      | true => exact ih
      | false => rfl

/-- Where one thing is asked for, it decides. -/
theorem allM_singleton {α : Type} (p : α → Classifier Bool) (x : α) : [x].allM p = p x := by
  rw [List.allM]
  conv_rhs => rw [← bind_pure (p x)]
  congr 1
  funext holds
  cases holds <;> rfl

theorem lookup_some {α β : Type} (a : α) (f : α → Classifier β) :
    (liftM (some a) >>= f) = f a := rfl

theorem lookup_none {α β : Type} (f : α → Classifier β) :
    (liftM (none : Option α) >>= f) = failure := rfl

/-- The arguments of an application ask for what they are looked at for. -/
theorem argsBlittable_eq {generic : Source.TypeId} {d : TypeDecl} {args : List Signature}
    (position : Nat)
    (each : ∀ arg ∈ args, fieldBlittable R classOf arg =
      (demands R arg).allM (Demand.ask classOf)) :
    argsBlittable R classOf generic d position args =
      (argDemands R generic d position args).allM (Demand.ask classOf) := by
  induction args generalizing position with
  | nil => rfl
  | cons arg args ih =>
      have rest := ih (position + 1) fun arg mem => each arg (List.mem_cons_of_mem _ mem)
      rw [argsBlittable, argDemands]
      split
      · rw [allM_append, each arg List.mem_cons_self, rest]
      · exact rest

/-- Whether a field is blittable is whether it gets all that it asks for. -/
theorem fieldBlittable_eq (s : Signature) :
    fieldBlittable R classOf s = (demands R s).allM (Demand.ask classOf) := by
  induction s with
  | named t =>
      rw [fieldBlittable, demands]
      cases R.source.types[t]? with
      | none =>
          rw [lookup_none, allM_singleton]
          rfl
      | some d =>
          rw [lookup_some]
          dsimp only
          split
          · rw [allM_singleton, demandFor]
            cases R.binding? t with
            | none => rfl
            | some c => rfl
          · rfl
  | inst generic args ih =>
      rw [fieldBlittable, demands]
      cases R.source.types[generic]? with
      | none =>
          rw [lookup_none, allM_singleton]
          rfl
      | some d =>
          rw [lookup_some]
          dsimp only
          rw [demandFor, List.allM]
          cases R.binding? generic with
          | none => rfl
          | some c =>
              rw [argsBlittable_eq 0 ih]
              simp only [Demand.ask, accepts, if_true, bind_assoc, pure_bind]
              congr 1
              funext k
              cases k.isBlittable <;> rfl
  | _ => rw [fieldBlittable, demands]; rfl

theorem allBlittable_eq (fields : List Source.Field) :
    (fields.allM fun field => fieldBlittable R classOf field.type) =
      (fields.flatMap fun field => demands R field.type).allM (Demand.ask classOf) := by
  induction fields with
  | nil => rfl
  | cons field fields ih =>
      rw [List.flatMap_cons, allM_append, ← fieldBlittable_eq, ← ih, List.allM]
      congr 1
      funext blittable
      cases blittable <;> rfl

/-- The class of a declaration, by what its fields ask for. -/
theorem ofDecl_eq (d : TypeDecl) :
    ofDecl R classOf d =
      match fieldlessClass? d with
      | some k => return k
      | none => do return classByFields d (← (fieldDemands R d).allM (Demand.ask classOf)) := by
  unfold ofDecl fieldlessClass?
  split
  · rfl
  · split
    · rfl
    · split
      · rfl
      · rw [allBlittable_eq]
        change _ = (do return classByFields d (← (fieldDemands R d).allM (Demand.ask classOf)))
        congr 1
        funext met
        cases met <;> rfl

/-! ## What a search leaves behind -/

/-- A part of a search, which looks at the fields of the listed bindings: it leaves the set as it
was, and these bindings were new to it and are noted after. -/
structure Excursion (R : Registry) (S : Search) (looked : List TypeBindingId)
    (S' : Search) : Prop where
  active : S'.active = S.active
  keeps : ∀ (c : TypeBindingId) (k : LayoutClass), S.notes[c]? = some k → S'.notes[c]? = some k
  /-- The class of a binding whose fields are being looked at further up is not noted by anyone
  else. -/
  pending : ∀ (c : TypeBindingId) (b : TypeBinding), R.types[c]? = some b → b.source ≠ none →
    c ∈ S.active → S.notes[c]? = none → S'.notes[c]? = none
  nodup : looked.Nodup
  looked : ∀ c ∈ looked, (∃ b, R.types[c]? = some b) ∧ c ∉ S.active ∧ S.notes[c]? = none ∧
    ∃ k, S'.notes[c]? = some k

theorem Search.settle_of_unnoted {S : Search} {c : TypeBindingId} (unnoted : S.notes[c]? = none)
    (k : LayoutClass) :
    S.settle c k = (k, { S with notes := S.notes.insert c k }) := by
  rw [settle, unnoted]

namespace Excursion

variable {S S₁ S' : Search} {looked looked' : List TypeBindingId} {c : TypeBindingId}
  {b : TypeBinding} {k : LayoutClass}

theorem refl (R : Registry) (S : Search) : Excursion R S [] S where
  active := rfl
  keeps _ _ noted := noted
  pending _ _ _ _ _ unnoted := unnoted
  nodup := .nil
  looked _ mem := absurd mem List.not_mem_nil

/-- What is looked at first is noted, and so not looked at later. -/
theorem trans (first : Excursion R S looked S₁) (second : Excursion R S₁ looked' S') :
    Excursion R S (looked ++ looked') S' where
  active := second.active.trans first.active
  keeps c k noted := second.keeps c k (first.keeps c k noted)
  pending c b bound source mem unnoted :=
    second.pending c b bound source (first.active ▸ mem)
      (first.pending c b bound source mem unnoted)
  nodup := by
    refine List.nodup_append.2 ⟨first.nodup, second.nodup, fun c mem c' mem' same => ?_⟩
    rcases first.looked c mem with ⟨-, -, -, k, noted⟩
    rcases second.looked c' mem' with ⟨-, -, unnoted, -⟩
    rw [← same, noted] at unnoted
    cases unnoted
  looked c mem := by
    rcases List.mem_append.1 mem with mem | mem
    · rcases first.looked c mem with ⟨bound, fresh, unnoted, k, noted⟩
      exact ⟨bound, fresh, unnoted, k, second.keeps c k noted⟩
    · rcases second.looked c mem with ⟨bound, fresh, unnoted, noted⟩
      refine ⟨bound, first.active ▸ fresh, ?_, noted⟩
      -- What was noted before would still be.
      cases before : S.notes[c]? with
      | none => rfl
      | some k => simp [first.keeps c k before] at unnoted

/-- To look at the fields of one more binding, which is noted in the end. -/
theorem cons (excursion : Excursion R S looked S') (new : c ∉ looked) (bound : R.types[c]? = some b)
    (fresh : c ∉ S.active) (unnoted : S.notes[c]? = none) (noted : S'.notes[c]? = some k) :
    Excursion R S (c :: looked) S' where
  active := excursion.active
  keeps := excursion.keeps
  pending := excursion.pending
  nodup := List.nodup_cons.2 ⟨new, excursion.nodup⟩
  looked c' mem := by
    rcases List.mem_cons.1 mem with rfl | mem
    · exact ⟨⟨b, bound⟩, fresh, unnoted, k, noted⟩
    · exact excursion.looked c' mem

/-- A class is noted that no one is looking for. -/
theorem note (unnoted : S.notes[c]? = none)
    (other : ∀ b, R.types[c]? = some b → b.source ≠ none → c ∉ S.active) (k : LayoutClass) :
    Excursion R S [] { S with notes := S.notes.insert c k } where
  active := rfl
  keeps c' k' noted := by
    have differ : c ≠ c' := by
      rintro rfl
      simp [unnoted] at noted
    rw [← noted]
    exact Registry.getElem?_insert_of_ne differ
  pending c' b bound source mem unnoted' := by
    have differ : c ≠ c' := by
      rintro rfl
      exact other b bound source mem
    rw [← unnoted']
    exact Registry.getElem?_insert_of_ne differ
  nodup := .nil
  looked _ mem := absurd mem List.not_mem_nil

/-- There are as many bindings to look at as are outside the set. -/
theorem length_le (excursion : Excursion R S looked S') : looked.length ≤ inactive R S.active := by
  have within : looked ⊆ R.types.handles.filter fun c => c ∉ S.active := by
    intro c mem
    rcases excursion.looked c mem with ⟨⟨b, bound⟩, fresh, -⟩
    exact List.mem_filter.2
      ⟨Table.mem_handles.2 (Table.lt_size_of_getElem? bound), by simpa using fresh⟩
  calc looked.length
      ≤ (R.types.handles.filter fun c => c ∉ S.active).length :=
        (excursion.nodup.subperm within).length_le
    _ = inactive R S.active := by rw [inactive, List.countP_eq_length_filter]

/-- To take out of the set what was entered before. -/
theorem leave_eq (inner : Excursion R (S.enter c) looked S₁) :
    S₁.leave c = { active := S.active, notes := S₁.notes } := by
  rw [Search.leave, inner.active, Search.enter, List.erase_cons_head]

theorem leave (inner : Excursion R (S.enter c) looked S₁) :
    Excursion R S looked { active := S.active, notes := S₁.notes } where
  active := rfl
  keeps := inner.keeps
  pending c' b bound source mem unnoted :=
    inner.pending c' b bound source (List.mem_cons_of_mem _ mem) unnoted
  nodup := inner.nodup
  looked c' mem := by
    rcases inner.looked c' mem with ⟨bound, fresh, unnoted, noted⟩
    exact ⟨bound, fun mem => fresh (List.mem_cons_of_mem _ mem), unnoted, noted⟩

section Around

variable (inner : Excursion R (S.enter c) looked S₁) (bound : R.types[c]? = some b)
  (source : b.source ≠ none) (unnoted : S.notes[c]? = none)
include inner bound source unnoted

/-- A binding that is taken out of the set has not been noted in the meantime. -/
theorem unnoted_leave : S₁.notes[c]? = none :=
  inner.pending c b bound source List.mem_cons_self unnoted

theorem settle_leave (k : LayoutClass) :
    (S₁.leave c).settle c k = (k, { active := S.active, notes := S₁.notes.insert c k }) := by
  rw [inner.leave_eq]
  exact Search.settle_of_unnoted (S := { active := S.active, notes := S₁.notes })
    (inner.unnoted_leave bound source unnoted) k

/-- To enter a binding, to look for what decides its class, and to take it out again and note the
class. -/
theorem around (fresh : c ∉ S.active) (k : LayoutClass) :
    Excursion R S looked { active := S.active, notes := S₁.notes.insert c k } := by
  have noting : Excursion R { active := S.active, notes := S₁.notes } []
      { active := S.active, notes := S₁.notes.insert c k } :=
    .note (S := { active := S.active, notes := S₁.notes })
      (inner.unnoted_leave bound source unnoted)
      (fun _ _ _ => fresh) k
  simpa only [List.append_nil] using inner.leave.trans noting

/-- The same, if the fields of the binding were looked at for it. -/
theorem looked_around (fresh : c ∉ S.active) (k : LayoutClass) :
    Excursion R S (c :: looked) { active := S.active, notes := S₁.notes.insert c k } := by
  -- While its fields were looked at, the binding was in the set.
  have new : c ∉ looked := fun mem => (inner.looked c mem).2.1 List.mem_cons_self
  exact (inner.around bound source unnoted fresh k).cons new bound fresh unnoted
    Std.TreeMap.getElem?_insert_self

end Around

end Excursion

/-- Every search is an excursion. -/
theorem search_excursion :
    (∀ {c : TypeBindingId} {S : Search} {looked : List TypeBindingId} {k : LayoutClass}
      {S' : Search}, Finds R c S looked k S' → Excursion R S looked S') ∧
    ∀ {ds : List Demand} {S : Search} {looked : List TypeBindingId} {met : Bool} {S' : Search},
      Meets R ds S looked met S' → Excursion R S looked S' := by
  apply search_induct
  -- Without looking at fields, a search leaves all as it is, or notes the class of the binding
  -- itself.
  case standIn => exact fun _ _ => .refl R _
  case noted => exact fun _ _ _ => .refl R _
  case active => exact fun _ _ _ _ _ => .refl R _
  case unsourced =>
    intro c b S S' k bound plain unnoted unsourced settled
    rw [Search.settle_of_unnoted unnoted] at settled
    cases settled
    refine .note unnoted (fun b' bound' source => ?_) _
    cases bound.symm.trans bound'
    exact absurd unsourced source
  case fieldless =>
    intro c b t d S S' k k' bound plain unnoted source fresh declared fieldless settled
    have inner : Excursion R (S.enter c) [] (S.enter c) := .refl R _
    have sourced := Option.ne_none_iff_exists'.2 ⟨_, source⟩
    rw [inner.settle_leave bound sourced unnoted] at settled
    cases settled
    exact inner.around bound sourced unnoted fresh _
  -- Here the fields are looked at between entering the binding and taking it out.
  case fields =>
    intro c b t d S S₁ S' looked met k bound plain unnoted source fresh declared fielded
      _ inner settled
    have sourced := Option.ne_none_iff_exists'.2 ⟨_, source⟩
    rw [inner.settle_leave bound sourced unnoted] at settled
    cases settled
    exact inner.looked_around bound sourced unnoted fresh _
  case nil => exact fun S => .refl R S
  case impossible => exact fun _ S => .refl R S
  case unmet => exact fun _ _ first _ => first
  case met => exact fun _ first _ _ rest => first.trans rest

theorem Finds.excursion {c : TypeBindingId} {S S' : Search} {looked : List TypeBindingId}
    {k : LayoutClass} (finds : Finds R c S looked k S') : Excursion R S looked S' :=
  search_excursion.1 finds

theorem Meets.excursion {ds : List Demand} {S S' : Search}
    {looked : List TypeBindingId} {met : Bool} (meets : Meets R ds S looked met S') :
    Excursion R S looked S' := search_excursion.2 meets

/-! ## The search and its set -/

/-- A class is asked for first; if it is accepted, the other demands decide. -/
theorem allM_binding_eq_some_iff {c : TypeBindingId} {applied met : Bool} {rest : List Demand}
    {found found' : Memo} :
    ((Demand.binding c applied :: rest).allM (Demand.ask classOf)).run found = some (met, found') ↔
      ∃ k between, (classOf c).run found = some (k, between) ∧
        (accepts applied k = false ∧ met = false ∧ between = found' ∨
          accepts applied k ∧ (rest.allM (Demand.ask classOf)).run between =
            some (met, found')) := by
  rw [List.allM, Demand.ask, bind_assoc, run_bind_eq_some_iff]
  refine exists_congr fun k => exists_congr fun between => and_congr_right fun _ => ?_
  rw [pure_bind]
  cases accepts applied k with
  | true => simp
  | false => simp [eq_comm]

/-- A search with a set is a search that hands the set down. -/
theorem search_runs :
    (∀ {c : TypeBindingId} {S : Search} {looked : List TypeBindingId} {k : LayoutClass}
      {S' : Search},
      Finds R c S looked k S' → (classify R S.active c).run S.notes = some (k, S'.notes)) ∧
    ∀ {ds : List Demand} {S : Search} {looked : List TypeBindingId} {met : Bool} {S' : Search},
      Meets R ds S looked met S' →
        (ds.allM (Demand.ask (classify R S.active))).run S.notes = some (met, S'.notes) := by
  apply search_induct
  case standIn => exact fun bound standIn => classify_standIn bound standIn
  case noted => exact fun bound plain noted => classify_noted bound plain noted
  case active => exact fun bound plain unnoted source mem =>
    classify_active bound plain unnoted source mem
  case unsourced =>
    intro c b S S' k bound plain unnoted unsourced settled
    rw [Search.settle_of_unnoted unnoted] at settled
    cases settled
    exact classify_unsourced bound plain unnoted unsourced
  case fieldless =>
    intro c b t d S S' k k' bound plain unnoted source fresh declared fieldless settled
    have inner : Excursion R (S.enter c) [] (S.enter c) := .refl R _
    rw [inner.settle_leave bound (Option.ne_none_iff_exists'.2 ⟨_, source⟩) unnoted] at settled
    cases settled
    rw [classify_fresh bound plain unnoted source fresh, declared, Option.bind_some,
      ofDecl_eq, fieldless]
    rfl
  case fields =>
    intro c b t d S S₁ S' looked met k bound plain unnoted source fresh declared fielded
      meets run settled
    rw [meets.excursion.settle_leave bound (Option.ne_none_iff_exists'.2 ⟨_, source⟩) unnoted]
      at settled
    cases settled
    have found : (ofDecl R (classify R (c :: S.active)) d).run S.notes =
        some (classByFields d met, S₁.notes) := by
      rw [ofDecl_eq, fielded]
      exact run_bind_eq_some_iff.2 ⟨met, S₁.notes, run, rfl⟩
    rw [classify_fresh bound plain unnoted source fresh, declared, Option.bind_some, found,
      Option.map_some]
  case nil => exact fun S => rfl
  case impossible => exact fun rest S => rfl
  case unmet =>
    intro c applied S S' looked k rest finds run refused
    exact allM_binding_eq_some_iff.2 ⟨k, S'.notes, run, .inl ⟨refused, rfl, rfl⟩⟩
  case met =>
    intro c applied S S₁ S' looked looked' k rest met finds run accepted meets runRest
    -- The other demands are gone through with the same set, because the first search has restored
    -- it.
    rw [finds.excursion.active] at runRest
    exact allM_binding_eq_some_iff.2 ⟨k, S₁.notes, run, .inr ⟨accepted, runRest⟩⟩

theorem exists_meets {active : List TypeBindingId} {ds : List Demand} {met : Bool}
    {found found' : Memo}
    (finds : ∀ c k found found', (classify R active c).run found = some (k, found') →
      ∃ looked, Finds R c ⟨active, found⟩ looked k ⟨active, found'⟩)
    (run : (ds.allM (Demand.ask (classify R active))).run found = some (met, found')) :
    ∃ looked, Meets R ds ⟨active, found⟩ looked met ⟨active, found'⟩ := by
  induction ds generalizing found with
  | nil =>
      cases run
      exact ⟨[], .nil _⟩
  | cons demand rest ih =>
      cases demand with
      | dangling => cases run
      | impossible =>
          cases run
          exact ⟨[], .impossible rest _⟩
      | binding c applied =>
          obtain ⟨k, between, answered, ⟨refused, rfl, rfl⟩ | ⟨accepted, runRest⟩⟩ :=
            allM_binding_eq_some_iff.1 run
          · rcases finds c k _ _ answered with ⟨looked, finds⟩
            exact ⟨looked, .unmet rest finds refused⟩
          · rcases finds c k _ _ answered with ⟨looked, finds⟩
            rcases ih runRest with ⟨looked', meets⟩
            exact ⟨looked ++ looked', .met finds accepted meets⟩

/-- To decide the class of a binding without looking at fields. -/
theorem finds_of_fieldless {S : Search} {c : TypeBindingId} {b : TypeBinding} {t : Source.TypeId}
    {d : TypeDecl} {k : LayoutClass} (bound : R.types[c]? = some b) (plain : b.standIn = false)
    (unnoted : S.notes[c]? = none) (source : b.source = some t) (fresh : c ∉ S.active)
    (declared : R.source.types[t]? = some d) (fieldless : fieldlessClass? d = some k) :
    Finds R c S [] k { active := S.active, notes := S.notes.insert c k } := by
  have inner : Excursion R (S.enter c) [] (S.enter c) := .refl R _
  have sourced : b.source ≠ none := Option.ne_none_iff_exists'.2 ⟨t, source⟩
  exact .fieldless bound plain unnoted source fresh declared fieldless
    (inner.settle_leave bound sourced unnoted k)

/-- To decide it by looking at them. -/
theorem finds_of_fields {S S₁ : Search} {c : TypeBindingId} {b : TypeBinding} {t : Source.TypeId}
    {d : TypeDecl} {looked : List TypeBindingId} {met : Bool} (bound : R.types[c]? = some b)
    (plain : b.standIn = false) (unnoted : S.notes[c]? = none) (source : b.source = some t)
    (fresh : c ∉ S.active) (declared : R.source.types[t]? = some d)
    (fielded : fieldlessClass? d = none)
    (meets : Meets R (fieldDemands R d) (S.enter c) looked met S₁) :
    Finds R c S (c :: looked) (classByFields d met)
      { active := S.active, notes := S₁.notes.insert c (classByFields d met) } := by
  have sourced : b.source ≠ none := Option.ne_none_iff_exists'.2 ⟨t, source⟩
  exact .fields bound plain unnoted source fresh declared fielded meets
    (meets.excursion.settle_leave bound sourced unnoted _)

/-- A search that hands the set down is a search with a set. Before it looks at the fields of a
binding it enters one that was not in the set, so that there is one fewer to enter. -/
theorem exists_finds {active : List TypeBindingId} {c : TypeBindingId} {k : LayoutClass}
    {found found' : Memo} (run : (classify R active c).run found = some (k, found')) :
    ∃ looked, Finds R c ⟨active, found⟩ looked k ⟨active, found'⟩ := by
  cases bound : R.types[c]? with
  | none =>
      rw [classify_unbound bound] at run
      cases run
  | some b =>
    cases plain : b.standIn with
    | true =>
        cases (classify_standIn bound plain).symm.trans run
        exact ⟨[], .standIn bound plain⟩
    | false =>
      cases noted : found[c]? with
      | some k' =>
          cases (classify_noted bound plain noted).symm.trans run
          exact ⟨[], .noted bound plain noted⟩
      | none =>
        cases source : b.source with
        | none =>
            cases (classify_unsourced bound plain noted source).symm.trans run
            exact ⟨[], .unsourced bound plain noted source (Search.settle_of_unnoted noted _)⟩
        | some t =>
          by_cases mem : c ∈ active
          · cases (classify_active bound plain noted source mem).symm.trans run
            exact ⟨[], .active bound plain noted source mem⟩
          · -- What comes next is looked for with one more binding in the set.
            rw [classify_fresh bound plain noted source mem, Option.bind_eq_some_iff] at run
            rcases run with ⟨d, declared, run⟩
            rcases Option.map_eq_some_iff.1 run with ⟨⟨k', between⟩, decided, eq⟩
            rw [ofDecl_eq] at decided
            cases kind : fieldlessClass? d with
            | some k'' =>
                rw [kind] at decided
                cases decided
                cases eq
                exact ⟨[], finds_of_fieldless bound plain noted source mem declared kind⟩
            | none =>
                rw [kind] at decided
                rcases run_bind_eq_some_iff.1 decided with ⟨met, _, asked, eq'⟩
                cases eq'
                cases eq
                rcases exists_meets (fun _ _ _ _ run => exists_finds run) asked with ⟨looked, meets⟩
                exact ⟨c :: looked,
                  finds_of_fields (S := ⟨active, found⟩) bound plain noted source mem
                    declared kind meets⟩
termination_by inactive R active
decreasing_by exact inactive_cons_lt bound mem

/-- The search with a set is the search that hands its elements down. -/
theorem exists_finds_iff {c : TypeBindingId} {S S' : Search} {k : LayoutClass} :
    (∃ looked, Finds R c S looked k S') ↔
      S'.active = S.active ∧ (classify R S.active c).run S.notes = some (k, S'.notes) := by
  constructor
  · rintro ⟨looked, finds⟩
    exact ⟨finds.excursion.active, search_runs.1 finds⟩
  · rcases S with ⟨active, found⟩
    rcases S' with ⟨active', found'⟩
    rintro ⟨rfl, run⟩
    exact exists_finds run

end TypeProjection.Layout
