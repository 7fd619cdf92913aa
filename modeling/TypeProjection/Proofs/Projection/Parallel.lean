import TypeProjection.Proofs.Effect
import TypeProjection.Run

/-!
# Proofs.Projection.Parallel — one question put to two registries, in two modules

A question about a reference walks over its parts and asks a few basic questions on the way. Put to
two registries over one source catalog that find bindings in the same way, and for two modules, it
walks the same way in both, so that what relates the basic questions relates the whole ones:

* `Parallel` : a relation between questions that holds of the basic ones;
* `Parallel.fetch_bind` : what is read off a binding need be related only for the bindings of one of
  them;
* `Parallel.provenUnmanaged`, `Parallel.project`, `Parallel.answer` : it holds of all others.
-/

namespace TypeProjection

theorem query_lift_bind {α β : Type} (e : Except Failure α) (f : α → Except Failure β) :
    (liftM (e >>= f) : Query β) = liftM e >>= fun a => liftM (f a) := by
  cases e <;> rfl

/-- A relation between questions that holds of the basic questions about a registry in one module,
and the same ones about another registry in another module. Both registries find the same bindings
for source types and for names. -/
structure Parallel (R R' : Registry) (into into' : Target.ModuleId)
    (Q : ∀ {α : Type}, Query α → Query α → Prop) :
    Prop extends Composable (Except Failure) Query Q where
  source : R'.source = R.source
  bindingFor : ∀ t, R'.bindingFor t = R.bindingFor t
  corlibBinding : ∀ fullName, R'.corlibBinding fullName = R.corlibBinding fullName
  binding : ∀ c, Q (liftM (R.types.fetch c)) (liftM (R'.types.fetch c))
  classOf : ∀ c, Q (R.classOf c) (R'.classOf c)
  recordLibrary : ∀ library,
    Q (R.target.record into (.library library)) (R'.target.record into' (.library library))
  importType : ∀ u, Q (R.target.importType into u) (R'.target.importType into' u)
  methods : R'.target.methods = R.target.methods
  isMarked : ∀ owner position, R'.target.isMarked owner position = R.target.isMarked owner position
  isValueType : ∀ s, R'.target.isValueType s = R.target.isValueType s

namespace Parallel

variable {R R' : Registry} {into into' : Target.ModuleId} {boxed : Bool}
  {Q : ∀ {α : Type}, Query α → Query α → Prop}

/-! ## Bindings and names -/

theorem fullName_eq (parallel : Parallel R R' into into' Q) (t : Source.TypeId) :
    R'.fullName t = R.fullName t := by
  rw [Registry.fullName, Registry.fullName, parallel.source]

theorem isString_eq (parallel : Parallel R R' into into' Q) (s : Source.Signature) :
    R'.isString s = R.isString s := by
  cases s <;> simp only [Registry.isString, parallel.fullName_eq]

theorem fetch_bind (parallel : Parallel R R' into into' Q) {α : Type} {c : TypeBindingId}
    {f f' : TypeBinding → Except Failure α} (rest : ∀ b, Q (liftM (f b)) (liftM (f' b))) :
    Q (liftM (R.types.fetch c >>= f)) (liftM (R'.types.fetch c >>= f')) := by
  rw [query_lift_bind, query_lift_bind]
  exact parallel.bind (parallel.binding c) rest

theorem targetOf (parallel : Parallel R R' into into' Q) (c : TypeBindingId) :
    Q (liftM (R.targetOf boxed c)) (liftM (R'.targetOf boxed c)) := by
  refine parallel.fetch_bind fun b => ?_
  cases b.counterpart with
  | none => exact parallel.lift _
  | some d =>
      cases boxed with
      | true => exact parallel.fetch_bind fun standIn => parallel.lift _
      | false => exact parallel.lift _

theorem counterpartOf (parallel : Parallel R R' into into' Q) (generic : Source.TypeId)
    (c : TypeBindingId) :
    Q (liftM (R.counterpartOf generic c)) (liftM (R'.counterpartOf generic c)) := by
  refine parallel.fetch_bind fun b => ?_
  cases b.counterpart with
  | none =>
      rw [parallel.fullName_eq]
      exact parallel.lift _
  | some d => exact parallel.fetch_bind fun standIn => parallel.lift _

/-! ## Mentioning types and methods of the output -/

theorem importExternal (parallel : Parallel R R' into into' Q) (e : Target.External) :
    Q (R.target.importExternal into e) (R'.target.importExternal into' e) :=
  parallel.bind (parallel.recordLibrary _) fun _ => parallel.pure _

theorem importMethod (parallel : Parallel R R' into into' Q) (m : Target.MethodId) :
    Q (R.target.importMethod into m) (R'.target.importMethod into' m) := by
  rw [Target.Catalog.importMethod, Target.Catalog.importMethod, parallel.methods]
  exact parallel.bind (parallel.lift _) fun _ => parallel.bind (parallel.importType _) fun _ =>
    parallel.pure _

theorem importSurface (parallel : Parallel R R' into into' Q) :
    Q (R.target.importSurface into) (R'.target.importSurface into') :=
  parallel.bind (parallel.recordLibrary _) fun _ => parallel.recordLibrary _

/-! ## Declared types, owners and methods -/

theorem projectNamed (parallel : Parallel R R' into into' Q) (t : Source.TypeId) :
    Q (R.projectNamed into boxed t) (R'.projectNamed into' boxed t) := by
  unfold Registry.projectNamed
  simp only [parallel.fullName_eq, parallel.bindingFor, parallel.corlibBinding]
  refine parallel.bind (parallel.lift _) fun fullName => ?_
  cases Corlib.treatment fullName with
  | verbatim => exact parallel.importExternal _
  | void => exact parallel.pure _
  | string => exact parallel.pure _
  | root =>
      exact parallel.bind (parallel.lift _) fun c => parallel.bind (parallel.targetOf c) fun u =>
        parallel.importType u
  | bound =>
      exact parallel.bind (parallel.lift _) fun c => parallel.bind (parallel.targetOf c) fun u =>
        parallel.importType u

theorem projectMethod (parallel : Parallel R R' into into' Q) (m : Source.MethodId) :
    Q (R.projectMethod into m) (R'.projectMethod into' m) := by
  unfold Registry.projectMethod
  simp only [parallel.source, parallel.fullName_eq, parallel.bindingFor]
  refine parallel.bind (parallel.lift _) fun method => ?_
  refine parallel.bind (parallel.lift _) fun c => parallel.bind (parallel.binding c) fun b => ?_
  cases b.methods[m]? with
  | some target => exact parallel.importMethod target
  | none => exact parallel.bind (parallel.lift _) fun _ => parallel.lift (.error _)

theorem projectOwner (parallel : Parallel R R' into into' Q) (owner : Source.Owner) :
    Q (R.projectOwner into boxed owner) (R'.projectOwner into' boxed owner) := by
  cases owner with
  | type t =>
      rw [Registry.projectOwner, Registry.projectOwner, parallel.bindingFor]
      exact parallel.bind (parallel.lift _) fun c => parallel.bind (parallel.targetOf c) fun u =>
        parallel.bind (parallel.importType u) fun _ => parallel.pure _
  | method m => exact parallel.bind (parallel.projectMethod m) fun _ => parallel.pure _

/-! ## Unmanaged references -/

theorem isBlittable (parallel : Parallel R R' into into' Q) (t : Source.TypeId) :
    Q (R.isBlittable t) (R'.isBlittable t) := by
  rw [Registry.isBlittable, Registry.isBlittable, parallel.bindingFor]
  exact parallel.bind (parallel.lift _) fun c => parallel.bind (parallel.classOf c) fun _ =>
    parallel.pure _

theorem allProvenUnmanaged (parallel : Parallel R R' into into' Q) {args : List Source.Signature}
    (each : ∀ arg ∈ args, Q (R.provenUnmanaged into boxed arg)
      (R'.provenUnmanaged into' boxed arg)) :
    Q (R.allProvenUnmanaged into boxed args) (R'.allProvenUnmanaged into' boxed args) := by
  induction args with
  | nil =>
      rw [Registry.allProvenUnmanaged, Registry.allProvenUnmanaged]
      exact parallel.pure true
  | cons arg args ih =>
      rw [Registry.allProvenUnmanaged, Registry.allProvenUnmanaged]
      refine parallel.bind (each arg List.mem_cons_self) fun proven => ?_
      cases proven with
      | true => exact ih fun arg mem => each arg (List.mem_cons_of_mem _ mem)
      | false => exact parallel.pure false

theorem provenUnmanaged (parallel : Parallel R R' into into' Q) (s : Source.Signature) :
    Q (R.provenUnmanaged into boxed s) (R'.provenUnmanaged into' boxed s) := by
  induction s with
  | named t =>
      rw [Registry.provenUnmanaged, Registry.provenUnmanaged]
      exact parallel.isBlittable t
  | inst generic args ih =>
      rw [Registry.provenUnmanaged, Registry.provenUnmanaged]
      refine parallel.bind (parallel.allProvenUnmanaged ih) fun proven => ?_
      cases proven with
      | true => exact parallel.isBlittable generic
      | false => exact parallel.pure false
  | param owner position =>
      rw [Registry.provenUnmanaged, Registry.provenUnmanaged]
      refine parallel.bind (parallel.projectOwner owner) fun target => ?_
      rw [parallel.isMarked]
      exact parallel.lift _
  | _ =>
      rw [Registry.provenUnmanaged, Registry.provenUnmanaged]
      exact parallel.pure _

/-! ## References -/

theorem projectHead (parallel : Parallel R R' into into' Q) (generic : Source.TypeId)
    (args : List Source.Signature) :
    Q (R.projectHead into boxed generic args) (R'.projectHead into' boxed generic args) := by
  rw [Registry.projectHead, Registry.projectHead, parallel.bindingFor]
  refine parallel.bind (parallel.lift _) fun c => parallel.bind (parallel.classOf c) fun k => ?_
  split
  · refine parallel.bind (parallel.provenUnmanaged _) fun proven => ?_
    cases proven with
    | true => exact parallel.projectNamed generic
    | false => exact parallel.bind (parallel.counterpartOf generic c) fun u => parallel.importType u
  · exact parallel.projectNamed generic

theorem arrayFor_eq (parallel : Parallel R R' into into' Q) (element : Source.Signature)
    (projected : Target.Signature) :
    R'.arrayFor element projected = R.arrayFor element projected := by
  unfold Registry.arrayFor
  cases element <;> simp only [parallel.isValueType]

theorem projectAll (parallel : Parallel R R' into into' Q) {args : List Source.Signature}
    (each : ∀ arg ∈ args, Q (R.project into boxed arg) (R'.project into' boxed arg)) :
    Q (R.projectAll into boxed args) (R'.projectAll into' boxed args) := by
  induction args with
  | nil =>
      rw [Registry.projectAll, Registry.projectAll]
      exact parallel.pure []
  | cons arg args ih =>
      rw [Registry.projectAll, Registry.projectAll]
      exact parallel.bind (each arg List.mem_cons_self) fun _ =>
        parallel.bind (ih fun arg mem => each arg (List.mem_cons_of_mem _ mem)) fun _ =>
          parallel.pure _

theorem project (parallel : Parallel R R' into into' Q) (s : Source.Signature) :
    Q (R.project into boxed s) (R'.project into' boxed s) := by
  induction s with
  | named t =>
      rw [Registry.project, Registry.project]
      exact parallel.projectNamed t
  | unresolved name =>
      rw [Registry.project, Registry.project]
      exact parallel.pure _
  | array element rank ih =>
      rw [Registry.project, Registry.project, parallel.isString_eq]
      split
      · exact parallel.pure _
      · -- The element is only looked at where it is no string.
        refine parallel.bind (parallel.lift _) fun isString => ?_
        cases isString with
        | true => exact parallel.pure _
        | false =>
            refine parallel.bind ih fun projected => ?_
            rw [parallel.arrayFor_eq]
            exact parallel.bind (parallel.lift _) fun _ => parallel.pure _
  | byRef target ih =>
      rw [Registry.project, Registry.project]
      exact parallel.bind ih fun _ => parallel.pure _
  | pointer target ih =>
      rw [Registry.project, Registry.project]
      exact parallel.bind ih fun _ => parallel.pure _
  | inst generic args ih =>
      rw [Registry.project, Registry.project]
      exact parallel.bind (parallel.projectAll ih) fun _ =>
        parallel.bind (parallel.projectHead generic args) fun _ => parallel.pure _
  | param owner position =>
      rw [Registry.project, Registry.project]
      exact parallel.bind (parallel.projectOwner owner) fun _ => parallel.pure _

theorem projectOption (parallel : Parallel R R' into into' Q) (s : Option Source.Signature) :
    Q (R.projectOption into boxed s) (R'.projectOption into' boxed s) := by
  cases s with
  | none => exact parallel.pure _
  | some s => exact parallel.project s

/-- What relates the basic questions relates all of them. -/
theorem answer (parallel : ∀ into, Parallel R R' into into Q) (q : Question) :
    Q (R.answer q) (R'.answer q) := by
  cases q with
  | classOf c => exact (parallel ⟨0⟩).bind ((parallel ⟨0⟩).classOf c) fun _ => (parallel ⟨0⟩).pure _
  | provenUnmanaged into boxed s =>
      exact (parallel into).bind ((parallel into).provenUnmanaged s) fun _ => (parallel into).pure _
  | project into boxed s =>
      exact (parallel into).bind ((parallel into).projectOption s) fun _ => (parallel into).pure _
  | projectMethod into m =>
      exact (parallel into).bind ((parallel into).projectMethod m) fun _ => (parallel into).pure _
  | importType into t =>
      exact (parallel into).bind ((parallel into).importType t) fun _ => (parallel into).pure _
  | importExternal into e =>
      exact (parallel into).bind ((parallel into).importExternal e) fun _ => (parallel into).pure _
  | importMethod into m =>
      exact (parallel into).bind ((parallel into).importMethod m) fun _ => (parallel into).pure _
  | importSurface into =>
      exact (parallel into).bind (parallel into).importSurface fun _ => (parallel into).pure _

end Parallel

end TypeProjection
