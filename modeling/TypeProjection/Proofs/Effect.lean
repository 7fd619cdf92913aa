import TypeProjection.Failure

/-!
# Proofs.Effect — questions and steps as functions of the state

A question about a registry and a step of a run have the same form: they can fail, and they keep
what they did to the state before. This module has what is true of all of them:

* `run_bind`, `bind_eq_ok_iff` : one after the other;
* `Composable` : a relation that survives doing one thing after the other;
* `Keeps` : a predicate on states that is kept, also by a failure;
* `Steady` : a predicate that is kept and lets the state have no say in the answer;
* `Gives` : a predicate that is kept and under which there is one certain answer;
* `Refines` : a question that does what another one does, unless that meets a dangling handle.
-/

namespace TypeProjection

theorem except_bind_eq_ok_iff {α β : Type} {e : Except Failure α}
    {f : α → Except Failure β} {b : β} :
    (e >>= f) = .ok b ↔ ∃ a, e = .ok a ∧ f a = .ok b := by
  cases e with
  | error e => simp [bind, Except.bind]
  | ok a => simp [bind, Except.bind]

/-- A relation between computations that holds of fixed answers and of look-ups, and survives doing
one after the other. -/
structure Composable (ε m : Type → Type) [Monad m] [MonadLiftT ε m]
    (Q : ∀ {α : Type}, m α → m α → Prop) : Prop where
  pure : ∀ {α : Type} (a : α), Q (pure a) (pure a)
  lift : ∀ {α : Type} (e : ε α), Q (liftM e) (liftM e)
  bind : ∀ {α β : Type} {q q' : m α} {f f' : α → m β}, Q q q' → (∀ a, Q (f a) (f' a)) →
    Q (q >>= f) (q' >>= f')

theorem composable_eq {ε m : Type → Type} [Monad m] [MonadLiftT ε m] : Composable ε m Eq where
  pure _ := rfl
  lift _ := rfl
  bind first rest := by rw [first, funext rest]

/-- What reads and changes a state and can fail. -/
abbrev Effect (σ α : Type) := ExceptT Failure (StateM σ) α

namespace Effect

variable {σ α β : Type} {s s' : σ} {P : σ → Prop}

/-! ## Running -/

theorem run_pure (a : α) (s : σ) : (pure a : Effect σ α).run s = (.ok a, s) := rfl

theorem run_lift (e : Except Failure α) (s : σ) : (liftM e : Effect σ α).run s = (e, s) := rfl

theorem run_bind (q : Effect σ α) (f : α → Effect σ β) (s : σ) :
    (q >>= f).run s =
      match q.run s with
      | (.ok a, s') => (f a).run s'
      | (.error e, s') => (.error e, s') := by
  simp only [ExceptT.run, bind, ExceptT.bind, ExceptT.mk, StateT.bind]
  rcases q s with ⟨_ | a, s'⟩ <;> rfl

theorem run_bind_of_ok {q : Effect σ α} {a : α} (run : q.run s = (.ok a, s')) (f : α → Effect σ β) :
    (q >>= f).run s = (f a).run s' := by
  rw [run_bind, run]

theorem run_bind_of_error {q : Effect σ α} {e : Failure} (run : q.run s = (.error e, s'))
    (f : α → Effect σ β) : (q >>= f).run s = (.error e, s') := by
  rw [run_bind, run]

theorem pure_eq_ok_iff {a b : α} : (pure a : Effect σ α).run s = (.ok b, s') ↔ a = b ∧ s = s' := by
  rw [run_pure]
  exact Prod.ext_iff.trans (and_congr_left' (Except.ok.injEq a b ▸ Iff.rfl))

theorem lift_eq_ok_iff {e : Except Failure α} {b : α} :
    (liftM e : Effect σ α).run s = (.ok b, s') ↔ e = .ok b ∧ s = s' := by
  rw [run_lift]
  exact Prod.ext_iff

/-- An answer comes with the state that it leaves behind. -/
theorem run_eq {q : Effect σ α} {answer : Except Failure α} (answered : (q.run s).1 = answer) :
    q.run s = (answer, (q.run s).2) :=
  Prod.ext answered rfl

/-- What succeeds as a whole succeeds in its first and in its second part. -/
theorem bind_eq_ok_iff {q : Effect σ α} {f : α → Effect σ β} {b : β} :
    (q >>= f).run s = (.ok b, s') ↔
      ∃ a between, q.run s = (.ok a, between) ∧ (f a).run between = (.ok b, s') := by
  rw [run_bind]
  rcases q.run s with ⟨_ | a, between⟩
  · refine ⟨fun eq => ?_, fun ⟨a, between, run, _⟩ => ?_⟩
    · cases congrArg Prod.fst eq
    · cases congrArg Prod.fst run
  · refine ⟨fun eq => ⟨a, between, rfl, eq⟩, fun ⟨a', between', run, rest⟩ => ?_⟩
    cases run
    exact rest

/-- What fails as a whole fails in its first part, or in its second part after the first has
succeeded. -/
theorem bind_eq_error_iff {q : Effect σ α} {f : α → Effect σ β} {e : Failure} :
    (q >>= f).run s = (.error e, s') ↔
      q.run s = (.error e, s') ∨ ∃ a between, q.run s = (.ok a, between) ∧
        (f a).run between = (.error e, s') := by
  rcases run : q.run s with ⟨_ | a, between⟩
  · rw [run_bind_of_error run]
    constructor
    · intro failed
      cases failed
      exact .inl rfl
    · rintro (failed | ⟨a, _, found, -⟩)
      · cases failed
        rfl
      · cases congrArg Prod.fst found
  · rw [run_bind_of_ok run]
    constructor
    · exact fun failed => .inr ⟨a, between, rfl, failed⟩
    · rintro (found | ⟨a', between', found, failed⟩)
      · cases congrArg Prod.fst found
      · cases found
        exact failed

/-- What starts with a look-up succeeds where the look-up finds something. -/
theorem lift_bind_eq_ok_iff {e : Except Failure α} {f : α → Effect σ β} {b : β} :
    ((liftM e : Effect σ α) >>= f).run s = (.ok b, s') ↔ ∃ a, e = .ok a ∧
      (f a).run s = (.ok b, s') := by
  rw [bind_eq_ok_iff]
  constructor
  · rintro ⟨a, between, lifted, run⟩
    rcases lift_eq_ok_iff.1 lifted with ⟨found, rfl⟩
    exact ⟨a, found, run⟩
  · rintro ⟨a, found, run⟩
    exact ⟨a, s, lift_eq_ok_iff.2 ⟨found, rfl⟩, run⟩

/-- What comes after a look-up matters for what it finds only. -/
theorem lift_bind_congr {e : Except Failure α} {f f' : α → Effect σ β}
    (same : ∀ a, e = .ok a → f a = f' a) :
    ((liftM e : Effect σ α) >>= f) = ((liftM e : Effect σ α) >>= f') := by
  cases e with
  | error failure => rfl
  | ok a =>
      funext s
      exact congrFun (same a rfl) s

/-- Two sequences whose first parts have the same answer fail both there, or go both on. -/
theorem bind_same {τ : Type} {q : Effect σ α} {q' : Effect τ α} {f : α → Effect σ β}
    {f' : α → Effect τ β} {t : τ} {motive : Except Failure β × σ → Except Failure β × τ → Prop}
    (same : (q'.run t).1 = (q.run s).1)
    (fail : ∀ e, motive (.error e, (q.run s).2) (.error e, (q'.run t).2))
    (goOn : ∀ a, motive ((f a).run (q.run s).2) ((f' a).run (q'.run t).2)) :
    motive ((q >>= f).run s) ((q' >>= f').run t) := by
  rcases run : q.run s with ⟨answer, s₁⟩
  rcases run' : q'.run t with ⟨answer', t₁⟩
  simp only [run, run'] at same fail goOn
  subst same
  cases answer' with
  | error e =>
      rw [run_bind_of_error run, run_bind_of_error run']
      exact fail e
  | ok a =>
      rw [run_bind_of_ok run, run_bind_of_ok run']
      exact goOn a

/-! ## Predicates that are kept -/

/-- A predicate holds of the state afterwards if it did before, whether there is an answer or
not. -/
def Keeps (P : σ → Prop) (q : Effect σ α) : Prop := ∀ s, P s → P (q.run s).2

namespace Keeps

/-- What is kept holds of the state that is left behind. -/
theorem after {q : Effect σ α} (keeps : Keeps P q) (holds : P s) {answer : Except Failure α}
    (run : q.run s = (answer, s')) : P s' := by
  have kept := keeps s holds
  rwa [run] at kept

theorem pure (a : α) : Keeps P (pure a : Effect σ α) := fun _ holds => holds

theorem lift (e : Except Failure α) : Keeps P (liftM e : Effect σ α) := fun _ holds => holds

theorem bind {q : Effect σ α} {f : α → Effect σ β} (first : Keeps P q) (rest : ∀ a, Keeps P (f a)) :
    Keeps P (q >>= f) := by
  intro s holds
  have between := first s holds
  rw [run_bind]
  split
  · next a s' run => exact rest a s' (by rwa [run] at between)
  · next e s' run => rwa [run] at between

end Keeps

/-- A predicate on states is kept, and the answer is the same from all states of which it holds, as
far as no dangling handle is met. -/
structure Steady (P : σ → Prop) (q : Effect σ α) : Prop where
  keeps : Keeps P q
  agrees : ∀ s s', P s → P s' → (q.run s).1 ≠ .error .danglingHandle →
    (q.run s').1 ≠ .error .danglingHandle → (q.run s).1 = (q.run s').1

namespace Steady

theorem pure (a : α) : Steady P (pure a : Effect σ α) := ⟨.pure a, fun _ _ _ _ _ _ => rfl⟩

theorem lift (e : Except Failure α) : Steady P (liftM e : Effect σ α) :=
  ⟨.lift e, fun _ _ _ _ _ _ => rfl⟩

theorem modify {f : σ → σ} (keeps : ∀ s, P s → P (f s)) : Steady P (modify f : Effect σ PUnit) :=
  ⟨keeps, fun _ _ _ _ _ _ => rfl⟩

theorem bind {q : Effect σ α} {f : α → Effect σ β} (first : Steady P q)
    (rest : ∀ a, Steady P (f a)) :
    Steady P (q >>= f) := by
  refine ⟨.bind first.keeps fun a => (rest a).keeps, fun s s' holds holds' valid valid' => ?_⟩
  have same := first.agrees s s' holds holds'
  have between := first.keeps s holds
  have between' := first.keeps s' holds'
  rw [run_bind] at valid valid' ⊢
  rw [run_bind]
  rcases run : q.run s with ⟨_ | a, t⟩
  · rcases run' : q.run s' with ⟨_ | a', t'⟩
    · simp_all
    · simp_all
  · rcases run' : q.run s' with ⟨_ | a', t'⟩
    · simp_all
    · -- The first answers are the same, so the second questions are.
      simp only [run, run', ne_eq, reduceCtorEq, not_false_eq_true, Except.ok.injEq, forall_const]
        at *
      subst same
      exact (rest a).agrees t t' between between' valid valid'

theorem answer_eq {q : Effect σ α} (steady : Steady P q) {t t' : σ} {a a' : α} (holds : P s)
    (run : q.run s = (.ok a, s')) (holds' : P t) (run' : q.run t = (.ok a', t')) : a = a' := by
  have same := steady.agrees s t holds holds'
  rw [run, run'] at same
  exact Except.ok.inj (same (by simp) (by simp))

end Steady

/-! ## Answers that are certain -/

/-- From all states of which a predicate holds there is this answer, and the predicate is kept. -/
def Gives (P : σ → Prop) (q : Effect σ α) (a : α) : Prop :=
  ∀ s, P s → ∃ s', q.run s = (.ok a, s') ∧ P s'

namespace Gives

theorem of_keeps {q : Effect σ α} {a : α} (keeps : Keeps P q)
    (answered : ∀ s, P s → ∃ s', q.run s = (.ok a, s')) :
    Gives P q a := by
  intro s holds
  rcases answered s holds with ⟨s', run⟩
  exact ⟨s', run, keeps.after holds run⟩

theorem pure (a : α) : Gives P (pure a : Effect σ α) a := fun s holds => ⟨s, rfl, holds⟩

theorem lift {e : Except Failure α} {a : α} (found : e = .ok a) :
    Gives P (liftM e : Effect σ α) a :=
  fun s holds => ⟨s, lift_eq_ok_iff.2 ⟨found, rfl⟩, holds⟩

theorem bind {q : Effect σ α} {f : α → Effect σ β} {a : α} {b : β} (first : Gives P q a)
    (rest : Gives P (f a) b) :
    Gives P (q >>= f) b := by
  intro s holds
  rcases first s holds with ⟨between, run, kept⟩
  rcases rest between kept with ⟨s', runRest, kept⟩
  exact ⟨s', bind_eq_ok_iff.2 ⟨a, between, run, runRest⟩, kept⟩

end Gives

/-! ## Refinement -/

/-- From states that are related, the second question is answered like the first and leaves states
behind that are related again, unless the first one meets a dangling handle. -/
def Refines {τ : Type} (P : σ → τ → Prop) (q : Effect σ α) (q' : Effect τ α) : Prop :=
  ∀ s s', P s s' → (q.run s).1 = .error .danglingHandle ∨
    (q'.run s').1 = (q.run s).1 ∧ P (q.run s).2 (q'.run s').2

theorem Refines.refl (q : Effect σ α) : Refines Eq q q := by
  intro s s' same
  exact .inr ⟨by rw [same], by rw [same]⟩

theorem composable_refines (P : σ → σ → Prop) :
    Composable (Except Failure) (ExceptT Failure (StateM σ)) (Refines P) where
  pure _ _ _ related := .inr ⟨rfl, related⟩
  lift _ _ _ related := .inr ⟨rfl, related⟩
  bind {α β q q' f f'} first rest := by
    intro s s' related
    rcases first s s' related with dangling | ⟨answers, between⟩
    · exact .inl (by rw [run_bind_of_error (run_eq dangling)])
    · exact bind_same (motive := fun x x' => x.1 = .error .danglingHandle ∨ x'.1 = x.1 ∧ P x.2 x'.2)
        answers
        (fun e => .inr ⟨rfl, between⟩) fun a => rest a _ _ between

end Effect

end TypeProjection
