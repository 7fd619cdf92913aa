import TypeProjection.Completion
import TypeProjection.Proofs.Registry.Coherent
import TypeProjection.Proofs.Update

/-!
# Proofs.Completion.Plan — sweeps whose order does not matter

A step of a sweep does the same wherever it starts: it counts something, fills in an output
declaration and records references. So a whole sweep does what its steps do together:

* `Plan`          : what a step does, and what several do one after the other;
* `Plan.Leads`    : a workspace is what a plan makes of another one;
* `Planned`       : steps that succeed just where there is a plan for them, and then follow it;
* `Planned.sweep` : a sweep of planned steps is planned;
* `Total.perm`    : its plan is the same in every order, if the plans of its steps can be exchanged.
-/

namespace TypeProjection.Completion

open Target (TypeId TypeDecl ModuleId Reference)

theorem Summary.mk_add_mk (p u e v b p' u' e' v' b' : Nat) :
    (⟨p, u, e, v, b⟩ + ⟨p', u', e', v', b'⟩ : Summary) = ⟨p + p', u + u', e + e', v + v', b + b'⟩ :=
  rfl

theorem Summary.add_comm (a b : Summary) : a + b = b + a := by
  cases a
  cases b
  simp only [mk_add_mk, Nat.add_comm]

theorem Summary.add_assoc (a b c : Summary) : a + b + c = a + (b + c) := by
  cases a
  cases b
  cases c
  simp only [mk_add_mk, Nat.add_assoc]

/-! ## Plans -/

/-- What a step does: what it counts, what it makes of each output declaration, and what it
records. -/
@[ext]
structure Plan where
  counts : Summary := {}
  fill : TypeId → TypeDecl → TypeDecl := fun _ D => D
  records : ModuleId → Reference → Prop := fun _ _ => False

namespace Plan

variable {p q : Plan} {W W₁ W' : Workspace}

/-- One plan after the other. -/
def andThen (p q : Plan) : Plan where
  counts := p.counts + q.counts
  fill u D := q.fill u (p.fill u D)
  records n x := p.records n x ∨ q.records n x

theorem andThen_assoc (p q r : Plan) : (p.andThen q).andThen r = p.andThen (q.andThen r) :=
  Plan.ext (Summary.add_assoc ..) rfl (funext fun _ => funext fun _ => propext or_assoc)

/-- Two plans can be exchanged if what they make of each declaration can. -/
theorem andThen_comm (fills : ∀ u D, q.fill u (p.fill u D) = p.fill u (q.fill u D)) :
    p.andThen q = q.andThen p :=
  Plan.ext (Summary.add_comm ..) (funext fun u => funext (fills u))
    (funext fun _ => funext fun _ => propext or_comm)

/-- A workspace is what a plan makes of another one, whatever was noted about classes. -/
structure Leads (p : Plan) (W W' : Workspace) : Prop where
  registry : ∃ types, W'.registry = { W.registry with target := { W.registry.target with types } }
  types : ∀ u : TypeId, W'.registry.target.types[u]? = W.registry.target.types[u]?.map (p.fill u)
  references : ∀ n x, W'.notes.references.has n x ↔ W.notes.references.has n x ∨ p.records n x

theorem Leads.refl (W : Workspace) : Leads {} W W where
  registry := ⟨_, rfl⟩
  types u := by simp
  references n x := by simp

theorem Leads.trans (first : p.Leads W W₁) (second : q.Leads W₁ W') : (p.andThen q).Leads W W' where
  registry := by
    rcases first.registry with ⟨types₁, eq₁⟩
    rcases second.registry with ⟨types, eq⟩
    exact ⟨types, by rw [eq, eq₁]⟩
  types u := calc W'.registry.target.types[u]?
      = W₁.registry.target.types[u]?.map (q.fill u) := second.types u
    _ = (W.registry.target.types[u]?.map (p.fill u)).map (q.fill u) := by rw [first.types]
    _ = W.registry.target.types[u]?.map ((p.andThen q).fill u) := Option.map_map ..
  references n x := by rw [second.references, first.references, or_assoc, andThen]

theorem Leads.modules (leads : p.Leads W W') :
    W'.registry.target.modules = W.registry.target.modules := by
  rcases leads.registry with ⟨types, eq⟩
  rw [eq]

theorem Leads.methods (leads : p.Leads W W') :
    W'.registry.target.methods = W.registry.target.methods := by
  rcases leads.registry with ⟨types, eq⟩
  rw [eq]

/-- A plan leads to one registry only. -/
theorem Leads.registry_eq {W'' : Workspace} (leads : p.Leads W W') (other : p.Leads W W'') :
    W'.registry = W''.registry := by
  rcases leads.registry with ⟨types, eq⟩
  rcases other.registry with ⟨types', eq'⟩
  have same : types = types' := by
    refine Table.ext fun u => ?_
    have first := leads.types u
    have second := other.types u
    rw [eq] at first
    rw [eq'] at second
    exact first.trans second.symm
  rw [eq, eq', same]

/-! ## Plans for one type -/

/-- To fill in the declaration of one type. -/
def onlyAt (u : TypeId) (f : TypeDecl → TypeDecl) (v : TypeId) (D : TypeDecl) : TypeDecl :=
  if v = u then f D else D

variable {u v : TypeId} {f g : TypeDecl → TypeDecl} {D : TypeDecl}

theorem onlyAt_self (u : TypeId) (f : TypeDecl → TypeDecl) : onlyAt u f u = f :=
  funext fun _ => if_pos rfl

theorem onlyAt_of_ne (other : v ≠ u) : onlyAt u f v = id :=
  funext fun _ => if_neg other

theorem onlyAt_id (u : TypeId) : onlyAt u id = fun _ D => D :=
  funext fun _ => funext fun _ => ite_self _

theorem onlyAt_comm (other : u ≠ v) (w : TypeId) (D : TypeDecl) :
    onlyAt v g w (onlyAt u f w D) = onlyAt u f w (onlyAt v g w D) := by
  by_cases here : w = u
  · rw [onlyAt_of_ne (here ▸ other), id, id]
  · rw [onlyAt_of_ne here, id, id]

/-- A replaced declaration is what a plan for one type leads to. -/
theorem leads_replaceType {notes : Ledger} (fill : p.fill = onlyAt u f)
    (declared : W.registry.target.types[u]? = some D)
    (recorded : ∀ n x, notes.references.has n x ↔ W.notes.references.has n x ∨ p.records n x) :
    p.Leads W { registry := W.registry.replaceType u (f D), notes } where
  registry := ⟨_, rfl⟩
  types v := by
    rw [fill]
    by_cases here : v = u
    · subst here
      rw [Registry.getElem?_replaceType_self declared, declared, Option.map_some, onlyAt_self]
    · rw [onlyAt_of_ne here, Option.map_id]
      exact Option.ext fun E => (Registry.getElem?_replaceType_iff declared).trans (by simp [here])
  references := recorded

end Plan

/-! ## Planned steps -/

/-- From every workspace with a property, a step succeeds just where there is a plan for it, and
then follows the plan and keeps the property. -/
structure Planned {ι : Type} (P : Workspace → Prop) (step : ι → Update Summary)
    (plan : ι → Plan → Prop) :
    Prop where
  follows : ∀ {i : ι} {p : Plan} {W : Workspace}, P W → plan i p →
    ∃ W', (step i).run W = (.ok p.counts, W') ∧ P W' ∧ p.Leads W W'
  planned : ∀ {i : ι} {W W' : Workspace} {counts : Summary}, P W →
    (step i).run W = (.ok counts, W') → ∃ p, plan i p

/-- What several steps do together. -/
inductive Total {ι : Type} (plan : ι → Plan → Prop) : List ι → Plan → Prop
  | nil : Total plan [] {}
  | cons {i : ι} {rest : List ι} {p q : Plan} (first : plan i p) (others : Total plan rest q) :
      Total plan (i :: rest) (p.andThen q)

namespace Planned

variable {ι : Type} {P : Workspace → Prop} {step : ι → Update Summary} {plan : ι → Plan → Prop}
  {W W' : Workspace} {counts : Summary} {i : ι}

/-- A step that succeeds did what was planned. -/
theorem leads (planned : Planned P step plan) (holds : P W)
    (run : (step i).run W = (.ok counts, W')) :
    ∃ p, plan i p ∧ p.counts = counts ∧ P W' ∧ p.Leads W W' := by
  rcases planned.planned holds run with ⟨p, plan⟩
  rcases planned.follows holds plan with ⟨W'', run', holds', leads⟩
  cases run.symm.trans run'
  exact ⟨p, plan, rfl, holds', leads⟩

theorem sweep {step : TypeBindingId → Update Summary} {plan : TypeBindingId → Plan → Prop}
    (planned : Planned P step plan) : Planned P (sweep step) (Total plan) where
  follows {cs p W} holds total := by
    induction total generalizing W with
    | nil => exact ⟨W, rfl, holds, .refl W⟩
    | cons first _ ih =>
        rcases planned.follows holds first with ⟨W₁, runFirst, holds, leads⟩
        rcases ih holds with ⟨W', runRest, holds, leads'⟩
        exact ⟨W', Effect.bind_eq_ok_iff.2
          ⟨_, W₁, runFirst, Effect.bind_eq_ok_iff.2 ⟨_, W', runRest, rfl⟩⟩, holds,
          leads.trans leads'⟩
  planned {cs W W' counts} holds run := by
    induction cs generalizing W counts with
    | nil => exact ⟨{}, .nil⟩
    | cons c cs ih =>
        rcases Effect.bind_eq_ok_iff.1 run with ⟨first, W₁, runFirst, run⟩
        rcases Effect.bind_eq_ok_iff.1 run with ⟨others, W₂, runRest, run⟩
        rcases Effect.pure_eq_ok_iff.1 run with ⟨-, rfl⟩
        rcases planned.leads holds runFirst with ⟨p, plan, -, holds, -⟩
        rcases ih holds runRest with ⟨q, total⟩
        exact ⟨p.andThen q, .cons plan total⟩

end Planned

namespace Total

variable {ι : Type} {plan : ι → Plan → Prop} {is js : List ι} {p : Plan} {u : TypeId}

/-- The order of steps whose plans can be exchanged does not matter. -/
theorem perm (commutes : ∀ {i j : ι} {p q : Plan}, plan i p → plan j q → p.andThen q = q.andThen p)
    (total : Total plan is p) (same : is.Perm js) : Total plan js p := by
  induction same generalizing p with
  | nil => exact total
  | cons i _ ih =>
      cases total with
      | cons first others => exact .cons first (ih others)
  | swap i j rest =>
      cases total with
      | @cons _ _ p _ first others =>
          cases others with
          | @cons _ _ q r second others =>
              rw [← Plan.andThen_assoc, commutes first second, Plan.andThen_assoc]
              exact .cons second (.cons first others)
  | trans _ _ ih ih' => exact ih' (ih total)

theorem exists_of_mem {i : ι} (total : Total plan is p) (mem : i ∈ is) : ∃ p, plan i p := by
  induction total with
  | nil => cases mem
  | cons first _ ih =>
      rcases List.mem_cons.1 mem with rfl | mem
      · exact ⟨_, first⟩
      · exact ih mem

/-- What every step keeps of a declaration, all steps together keep. -/
theorem fill_keeps {Q : TypeDecl → Prop}
    (keeps : ∀ i ∈ is, ∀ p, plan i p → ∀ D, Q D → Q (p.fill u D)) (total : Total plan is p)
    {D : TypeDecl} (holds : Q D) : Q (p.fill u D) := by
  induction total generalizing D with
  | nil => exact holds
  | cons first _ ih =>
      exact ih (fun i mem => keeps i (List.mem_cons_of_mem _ mem))
        (keeps _ List.mem_cons_self _ first D holds)

/-- A declaration that one step fills in, for good, and no other step changes, is filled in if that
step is taken. -/
theorem fill_of_mem {i₀ : ι} {f : TypeDecl → TypeDecl} (stays : ∀ D, f (f D) = f D)
    (here : ∀ p, plan i₀ p → p.fill u = f) (others : ∀ i ≠ i₀, ∀ p, plan i p → ∀ D, p.fill u D = D)
    (total : Total plan is p) (mem : i₀ ∈ is) (D : TypeDecl) : p.fill u D = f D := by
  -- Once the step is taken, the rest of the sweep changes nothing any more.
  have done : ∀ {is : List ι} {p : Plan}, Total plan is p → ∀ D, p.fill u (f D) = f D := by
    intro is p total
    induction total with
    | nil => exact fun D => rfl
    | @cons i rest p q first _ ih =>
        intro D
        change q.fill u (p.fill u (f D)) = f D
        by_cases same : i = i₀
        · subst same
          rw [here p first, stays, ih]
        · rw [others i same p first, ih]
  induction total with
  | nil => cases mem
  | @cons i rest p q first total ih =>
      change q.fill u (p.fill u D) = f D
      by_cases same : i = i₀
      · subst same
        rw [here p first, done total]
      · rw [others i same p first, ih ((List.mem_cons.1 mem).resolve_left (Ne.symm same))]

end Total

/-! ## Plans for the output types of bindings -/

/-- The plan for a binding is a plan for its output type, which is left alone if the binding has no
source. -/
structure OwnPlans (R : Registry) (plan : TypeBindingId → Plan → Prop) : Prop where
  unique : ∀ {c : TypeBindingId} {p q : Plan}, plan c p → plan c q → p = q
  own : ∀ {c : TypeBindingId} {p : Plan}, plan c p →
    ∃ b f, R.types[c]? = some b ∧ p.fill = Plan.onlyAt b.target f ∧ (b.source = none → f = id)

namespace OwnPlans

variable {R : Registry} {plan : TypeBindingId → Plan → Prop} {c c' : TypeBindingId}
  {cs : List TypeBindingId} {b : TypeBinding} {p p₀ q : Plan} {u : TypeId}

/-- No two bindings get in each other's way, since no output type is bound twice. -/
theorem commutes (own : OwnPlans R plan) (once : R.TargetsBoundOnce) (first : plan c p)
    (second : plan c' q) :
    p.andThen q = q.andThen p := by
  rcases own.own first with ⟨b, f, bound, fill, -⟩
  rcases own.own second with ⟨b', g, bound', fill', -⟩
  by_cases same : b.target = b'.target
  · cases once c b bound c' b' bound' same
    rw [own.unique first second]
  · refine Plan.andThen_comm fun u D => ?_
    rw [fill, fill', Plan.onlyAt_comm same]

theorem fill_of_ne (own : OwnPlans R plan) (first : plan c p) (bound : R.types[c]? = some b)
    (other : b.target ≠ u) (D : TypeDecl) : p.fill u D = D := by
  rcases own.own first with ⟨b', f, bound', fill, -⟩
  cases bound.symm.trans bound'
  rw [fill, Plan.onlyAt_of_ne other.symm, id]

/-- The output type of a binding is filled in as is planned for the binding. -/
theorem fill_target (own : OwnPlans R plan) (once : R.TargetsBoundOnce)
    (bound : R.types[c]? = some b) (here : plan c p₀)
    (stays : ∀ D, p₀.fill b.target (p₀.fill b.target D) = p₀.fill b.target D)
    (total : Total plan cs p) (mem : c ∈ cs) (D : TypeDecl) :
    p.fill b.target D = p₀.fill b.target D := by
  refine total.fill_of_mem stays (fun p first => by rw [own.unique first here])
    (fun c' other p first D => ?_) mem D
  rcases own.own first with ⟨b', f, bound', -⟩
  exact own.fill_of_ne first bound' (fun same => other (once c' b' bound' c b bound same)) D

/-- An output type that stands for no source type is left alone. -/
theorem fill_other (own : OwnPlans R plan)
    (other : ∀ (c : TypeBindingId) (b : TypeBinding), R.types[c]? = some b →
      b.source ≠ none → b.target ≠ u)
    (total : Total plan cs p) (D : TypeDecl) : p.fill u D = D := by
  refine total.fill_keeps (Q := (· = D)) (fun c _ p first E eq => ?_) rfl
  rcases own.own first with ⟨b, f, bound, fill, unsourced⟩
  by_cases here : u = b.target
  · have source : b.source = none := Classical.not_not.1 fun source =>
      other c b bound source here.symm
    rw [fill, here, Plan.onlyAt_self, unsourced source, id, eq]
  · rw [own.fill_of_ne first bound (Ne.symm here), eq]

end OwnPlans

end TypeProjection.Completion
