import TypeProjection.Proofs.Layout.Alike

/-!
# Proofs.Layout.Traced — a search that came to an end does so again

A search stops at the first field that is not blittable, so that it need not meet a dangling handle
that lies behind. Which fields it looks at hangs on the classes alone, and not on the order in which
they were found. Hence a search that once came to an end does so from any other notes:

* `Surveyed`          : the fields of a binding were looked at once, and all that this met is known;
* `classify_surveys`  : what a search adds to the notes is surveyed;
* `classify_again`    : what is known is found again, from any settled notes;
* `Traced`            : settled notes all of whose additions are surveyed by the notes themselves;
* `classify_constant` : from all traced notes, the search for a class ends alike.
-/

namespace TypeProjection.Layout

open Source (Signature TypeDecl)

variable {R : Registry} {m found found' later : Memo} {known : TypeBindingId → Prop}
  {active : List TypeBindingId} {c : TypeBindingId} {b : TypeBinding} {k : LayoutClass}

/-! ## What a search leaves behind -/

/-- The fields of a binding were looked at once, if it stands for a source type, and all that was
noted or being looked at by then is known. -/
inductive Surveyed (R : Registry) (m : Memo) (known : TypeBindingId → Prop)
    (c : TypeBindingId) : Prop
  | unsourced {b : TypeBinding} (bound : R.types[c]? = some b) (source : b.source = none)
  | decl {t : Source.TypeId} {d : TypeDecl} {active : List TypeBindingId} {found found' : Memo}
      {k : LayoutClass} (undecided : Undecided R m c t d)
      (chain : ∀ a ∈ active, Relation.TransGen (NeededBy R m) c a) (settled : Settled R m found)
      (run : (ofDecl R (classify R (c :: active)) d).run found = some (k, found'))
      (looking : ∀ a ∈ c :: active, known a) (met : ∀ c' ∈ found', known c')

theorem Surveyed.mono {more : TypeBindingId → Prop} (weaker : ∀ c, known c → more c)
    (surveyed : Surveyed R m known c) : Surveyed R m more c := by
  cases surveyed with
  | unsourced bound source => exact .unsourced bound source
  | decl undecided chain settled run looking met =>
      exact .decl undecided chain settled run (fun a mem => weaker a (looking a mem))
        (fun c' mem => weaker c' (met c' mem))

/-- The notes after a search hold those before it, are settled like them, and what was added is
surveyed by them together with what is being looked at. -/
structure Survey (R : Registry) (m : Memo) (active : List TypeBindingId)
    (found found' : Memo) : Prop where
  settled : Settled R m found'
  keeps : ∀ c ∈ found, c ∈ found'
  added : ∀ known : TypeBindingId → Prop, (∀ a ∈ active, known a) → (∀ c ∈ found', known c) →
    ∀ c ∈ found', c ∉ found → Surveyed R m known c

namespace Survey

theorem refl (active : List TypeBindingId) (settled : Settled R m found) :
    Survey R m active found found where
  settled := settled
  keeps _ mem := mem
  added _ _ _ _ mem fresh := absurd mem fresh

theorem trans {between : Memo} (first : Survey R m active found between)
    (second : Survey R m active between found') : Survey R m active found found' where
  settled := second.settled
  keeps c mem := second.keeps c (first.keeps c mem)
  added known looking met c mem fresh := by
    by_cases early : c ∈ between
    · exact first.added known looking (fun c' mem => met c' (second.keeps c' mem)) c early fresh
    · exact second.added known looking met c mem early

/-- A binding that is surveyed by what was met while it was looked at may be noted in the end. -/
theorem insert {between : Memo} (survey : Survey R m (c :: active) found between)
    (settled : Settled R m (between.insert c k))
    (surveyed : ∀ known : TypeBindingId → Prop, (∀ a ∈ c :: active, known a) →
      (∀ c' ∈ between, known c') →
      Surveyed R m known c) : Survey R m active found (between.insert c k) where
  settled := settled
  keeps c' mem := Std.TreeMap.mem_insert.2 (.inr (survey.keeps c' mem))
  added known looking met c' mem fresh := by
    have here : known c := met c Std.TreeMap.mem_insert_self
    have looking : ∀ a ∈ c :: active, known a := List.forall_mem_cons.2 ⟨here, looking⟩
    have met : ∀ c' ∈ between, known c' := fun c' mem =>
      met c' (Std.TreeMap.mem_insert.2 (.inr mem))
    rcases Std.TreeMap.mem_insert.1 mem with same | mem
    · exact Std.LawfulEqOrd.eq_of_compare same ▸ surveyed known looking met
    · exact survey.added known looking met c' mem fresh

end Survey

/-- Over settled notes, all that a question adds is surveyed. -/
def Surveys {α : Type} (R : Registry) (m : Memo) (active : List TypeBindingId)
    (q : Classifier α) : Prop :=
  ∀ (found found' : Memo) (a : α), Settled R m found → q.run found = some (a, found') →
    Survey R m active found found'

namespace Surveys

variable {α β : Type}

theorem pure (a : α) : Surveys R m active (pure a) := by
  intro found found' b settled run
  rcases run_pure_eq_some_iff.1 run with ⟨-, rfl⟩
  exact .refl active settled

theorem lift (o : Option α) : Surveys R m active (liftM o) := by
  intro found found' b settled run
  rcases run_lift_eq_some_iff.1 run with ⟨-, rfl⟩
  exact .refl active settled

theorem bind {q : Classifier α} {f : α → Classifier β} (first : Surveys R m active q)
    (rest : ∀ a, Surveys R m active (f a)) : Surveys R m active (q >>= f) := by
  intro found found' b settled run
  rcases run_bind_eq_some_iff.1 run with ⟨a, between, runFirst, run⟩
  have survey := first found between a settled runFirst
  exact survey.trans (rest a between found' b survey.settled run)

theorem composable (R : Registry) (m : Memo) (active : List TypeBindingId) :
    Composable Option Classifier fun q _ => Surveys R m active q :=
  ⟨.pure, .lift, .bind⟩

end Surveys

/-- What the search for a class adds to settled notes is surveyed. -/
theorem classify_surveys (active : List TypeBindingId) (c : TypeBindingId)
    (chain : ∀ a ∈ active, Relation.TransGen (NeededBy R m) c a) :
    Surveys R m active (classify R active c) := by
  intro found found' k settled run
  have settled' := (classify_hasClass active c chain found found' k settled run).2
  rcases classify_outcome run with ⟨b, bound, outcome⟩
  cases outcome with
  | standIn => exact .refl active settled
  | noted => exact .refl active settled
  | unsourced _ _ source =>
      exact .insert (.refl _ settled) settled' fun _ _ _ => .unsourced bound source
  | active => exact .refl active settled
  | @fresh t d _ between plain unnoted source fresh declared runDecl =>
      have undecided : Undecided R m c t d :=
        ⟨⟨b, bound, plain, source⟩, settled.unnoted unnoted, declared⟩
      -- While its fields are looked at, the binding is one of the active ones.
      have surveys : Surveys R m (c :: active) (ofDecl R (classify R (c :: active)) d) :=
        @ofDecl_alike _ R R (classify R (c :: active)) (classify R (c :: active))
          (Surveys.composable R m _)
          (.refl R) d fun isStruct notPrimitive knownBase memField need =>
            classify_surveys (c :: active) _
              (needed_cons ⟨undecided, isStruct, notPrimitive, knownBase, memField, need⟩ chain)
      exact .insert (surveys found between k settled runDecl) settled' fun _ looking met =>
        .decl undecided chain settled runDecl looking met
termination_by inactive R active
decreasing_by exact inactive_cons_lt bound fresh

/-! ## Searching again -/

/-- Whatever is known, and undecided in the beginning, is surveyed by what is known. -/
def Closed (R : Registry) (m : Memo) (known : TypeBindingId → Prop) : Prop :=
  ∀ (c : TypeBindingId) (b : TypeBinding), R.types[c]? = some b → b.standIn = false →
    m[c]? = none → known c → Surveyed R m known c

/-- Where the first question has an answer and meets nothing but what is known, the second one has
the same answer from all settled notes. -/
def Repeats {α : Type} (R : Registry) (m : Memo) (known : TypeBindingId → Prop)
    (q q' : Classifier α) : Prop :=
  ∀ (found found' : Memo) (a : α), Settled R m found → q.run found = some (a, found') →
    (∀ c ∈ found', known c) → ∀ later, Settled R m later →
      ∃ later', q'.run later = some (a, later') ∧ Settled R m later'

theorem composable_repeats (R : Registry) (m : Memo) (known : TypeBindingId → Prop)
    (active : List TypeBindingId) :
    Composable Option Classifier fun q q' => Surveys R m active q ∧ Repeats R m known q q' where
  pure a := by
    refine ⟨.pure a, fun found found' b _ run _ later settled => ?_⟩
    rcases run_pure_eq_some_iff.1 run with ⟨rfl, -⟩
    exact ⟨later, rfl, settled⟩
  lift o := by
    refine ⟨.lift o, fun found found' b _ run _ later settled => ?_⟩
    rcases run_lift_eq_some_iff.1 run with ⟨found, -⟩
    exact ⟨later, run_lift_eq_some_iff.2 ⟨found, rfl⟩, settled⟩
  bind first rest := by
    rcases first with ⟨surveys, repeats⟩
    refine ⟨.bind surveys fun a => (rest a).1, ?_⟩
    intro found found' b settled run met later settled'
    rcases run_bind_eq_some_iff.1 run with ⟨a, between, runFirst, run⟩
    have survey := surveys found between a settled runFirst
    -- What was met on the way is still among the notes in the end.
    have keeps := ((rest a).1 between found' b survey.settled run).keeps
    obtain ⟨later₁, runAgain, settled'⟩ := repeats found between a settled runFirst
      (fun c mem => met c (keeps c mem)) later settled'
    obtain ⟨later₂, runRest, settled'⟩ :=
      (rest a).2 between found' b survey.settled run met later₁ settled'
    exact ⟨later₂, run_bind_eq_some_iff.2 ⟨a, later₁, runAgain, runRest⟩, settled'⟩

/-- A binding whose class is searched for with success is a stand-in, or being looked at, or noted
afterwards. -/
theorem Outcome.met (outcome : Outcome R active c b found k found') :
    b.standIn ∨ c ∈ active ∨ c ∈ found' := by
  cases outcome with
  | standIn standIn => exact .inl standIn
  | noted _ noted => exact .inr (.inr (Std.TreeMap.mem_iff_isSome_getElem?.2 (by simp [noted])))
  | unsourced => exact .inr (.inr Std.TreeMap.mem_insert_self)
  | active _ _ _ mem => exact .inr (.inl mem)
  | fresh => exact .inr (.inr Std.TreeMap.mem_insert_self)

/-- The fields of a surveyed binding can be looked at again, if what they ask for is found again. It
need not be for the same binding that they are. -/
theorem Surveyed.ofDecl_again {t : Source.TypeId} (surveyed : Surveyed R m known c)
    (bound : R.types[c]? = some b) (source : b.source = some t)
    (chain : ∀ {c' : TypeBindingId}, NeededBy R m c' c →
      ∀ a ∈ active, Relation.TransGen (NeededBy R m) c' a)
    (finds : ∀ {c' : TypeBindingId} {b' : TypeBinding} {later : Memo}, NeededBy R m c' c →
      R.types[c']? = some b' → b'.standIn ∨ known c' → Settled R m later →
        ∃ k later', (classify R active c').run later = some (k, later'))
    (settled : Settled R m later) :
    ∃ d k later', R.source.types[t]? = some d ∧
      (ofDecl R (classify R active) d).run later = some (k, later') := by
  cases surveyed with
  | unsourced bound' source' =>
      cases bound.symm.trans bound'
      cases source.symm.trans source'
  | @decl t' d active₀ found found' k undecided chain₀ settled₀ run looking met =>
      rcases undecided.bound with ⟨b', bound', -, source'⟩
      cases bound.symm.trans bound'
      cases source.symm.trans source'
      -- Each binding that the fields asked for is found again, and with the class that it has.
      have repeats := @ofDecl_alike _ R R (classify R (c :: active₀)) (classify R active)
        (composable_repeats R m known (c :: active₀)) (.refl R) d
        fun {field c'} isStruct notPrimitive knownBase memField need => by
          have needed : NeededBy R m c' c :=
            ⟨undecided, isStruct, notPrimitive, knownBase, memField, need⟩
          have chain₀ := needed_cons needed chain₀
          refine ⟨classify_surveys (c :: active₀) c' chain₀, ?_⟩
          intro found found' k settled run met later settled'
          have has := (classify_hasClass (c :: active₀) c' chain₀ found found' k settled run).1
          rcases classify_outcome run with ⟨b', bound', outcome⟩
          have within : b'.standIn ∨ known c' := outcome.met.imp_right fun mem =>
            mem.elim (looking c') (met c')
          obtain ⟨k', later', runAgain⟩ := finds needed bound' within settled'
          obtain ⟨has', settled'⟩ :=
            classify_hasClass active c' (chain needed) later later' k' settled' runAgain
          exact ⟨later', has.unique has' ▸ runAgain, settled'⟩
      obtain ⟨later', runAgain, -⟩ := repeats.2 found found' k settled₀ run met later settled
      exact ⟨d, k, later', undecided.declared, runAgain⟩

/-- The class of what is known is found again from all settled notes. -/
theorem classify_again (closed : Closed R m known) (active : List TypeBindingId) (c : TypeBindingId)
    {b : TypeBinding} {later : Memo} (bound : R.types[c]? = some b) (within : b.standIn ∨ known c)
    (chain : ∀ a ∈ active, Relation.TransGen (NeededBy R m) c a) (settled : Settled R m later) :
    ∃ k later', (classify R active c).run later = some (k, later') := by
  cases plain : b.standIn with
  | true => exact ⟨_, _, classify_standIn bound plain⟩
  | false =>
      cases unnoted : later[c]? with
      | some k => exact ⟨_, _, classify_noted bound plain unnoted⟩
      | none =>
          cases source : b.source with
          | none => exact ⟨_, _, classify_unsourced bound plain unnoted source⟩
          | some t =>
              by_cases fresh : c ∈ active
              · exact ⟨_, _, classify_active bound plain unnoted source fresh⟩
              · have isKnown : known c := within.resolve_left (by simp [plain])
                have surveyed := closed c b bound plain (settled.unnoted unnoted) isKnown
                obtain ⟨d, k, later', declared, run⟩ := surveyed.ofDecl_again bound source
                  (fun needed => needed_cons needed chain) (fun needed bound' within settled =>
                    classify_again closed (c :: active) _ bound' within (needed_cons needed chain)
                      settled) settled
                refine ⟨k, later'.insert c k, ?_⟩
                rw [classify_fresh bound plain unnoted source fresh, declared, Option.bind_some,
                  run, Option.map_some]
termination_by inactive R active
decreasing_by exact inactive_cons_lt bound fresh

/-! ## Traced notes -/

/-- Notes that are settled, and that survey all they add to those taken at first. -/
structure Traced (R : Registry) (m found : Memo) : Prop extends Settled R m found where
  closed : Closed R m (· ∈ found)

theorem Traced.refl (R : Registry) (m : Memo) : Traced R m m where
  toSettled := .refl R m
  closed c b _ _ unnoted mem := by
    have noted : m[c]?.isSome := Std.TreeMap.mem_iff_isSome_getElem?.1 mem
    simp [unnoted] at noted

/-- A search leaves traced notes behind. -/
theorem Traced.searched (traced : Traced R m found)
    (run : (classify R [] c).run found = some (k, found')) :
    Traced R m found' := by
  have survey := classify_surveys [] c (fun _ mem => absurd mem List.not_mem_nil)
    found found' k traced.toSettled run
  refine ⟨survey.settled, fun c' b bound plain unnoted mem => ?_⟩
  by_cases early : c' ∈ found
  · exact (traced.closed c' b bound plain unnoted early).mono survey.keeps
  · exact survey.added _ (fun _ mem => absurd mem List.not_mem_nil) (fun _ mem => mem) c' mem early

/-- What the search finds from some traced notes it finds from all others. -/
theorem Traced.finds (traced : Traced R m found) (traced' : Traced R m later)
    (run : (classify R [] c).run found = some (k, found')) :
    ∃ later', (classify R [] c).run later = some (k, later') := by
  have chain : ∀ a ∈ ([] : List TypeBindingId), Relation.TransGen (NeededBy R m) c a :=
    fun _ mem => absurd mem List.not_mem_nil
  have has := (classify_hasClass [] c chain found found' k traced.toSettled run).1
  rcases classify_outcome run with ⟨b, bound, outcome⟩
  have within : b.standIn ∨ c ∈ found' := outcome.met.imp_right fun mem =>
    mem.resolve_left List.not_mem_nil
  obtain ⟨k', later', runAgain⟩ :=
    classify_again (traced.searched run).closed [] c bound within chain traced'.toSettled
  have has' := (classify_hasClass [] c chain later later' k' traced'.toSettled runAgain).1
  exact ⟨later', has.unique has' ▸ runAgain⟩

/-- Two searches come to the same end if each finds what the other one finds. -/
theorem map_fst_eq {search search' : Option (LayoutClass × Memo)}
    (finds : ∀ {k : LayoutClass} {found : Memo}, search = some (k, found) →
      ∃ found', search' = some (k, found'))
    (finds' : ∀ {k : LayoutClass} {found : Memo}, search' = some (k, found) →
      ∃ found', search = some (k, found')) :
    search.map (·.1) = search'.map (·.1) := by
  refine Option.ext fun k => ?_
  simp only [Option.map_eq_some_iff, Prod.exists, exists_and_right, exists_eq_right]
  exact ⟨fun ⟨_, ends⟩ => finds ends, fun ⟨_, ends⟩ => finds' ends⟩

/-- From all traced notes, the search for a class comes to the same end. -/
theorem classify_constant (traced : Traced R m found) (traced' : Traced R m later) :
    ((classify R [] c).run found).map (·.1) = ((classify R [] c).run later).map (·.1) :=
  map_fst_eq (traced.finds traced') (traced'.finds traced)

end TypeProjection.Layout
