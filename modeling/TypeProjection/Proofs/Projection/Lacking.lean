import TypeProjection.Projection.Lacking
import TypeProjection.Proofs.Completion.ValueTypes
import TypeProjection.Proofs.Layout.LeastClass

/-!
# Proofs.Projection.Lacking — a reference fails for what is lacking for one of its parts

Where no handle dangles, a question about a reference fails only if the registry lacks something for
a part of the reference, and then the error says what:

* `FailsOnly` : over settled notes a question fails with look-up errors of one kind only;
* `Serves` : registries with coherent tables in which no handle dangles;
* `Serves.provenUnmanaged` : whether a reference is known to be unmanaged fails for what is lacking;
* `Serves.project` : and so does its form;
* `Workspace.lacks_of_error` : in every reachable workspace, an error names what is lacking, and
  where nothing is lacking both questions are answered.
-/

namespace TypeProjection

open Effect (Keeps Steady)
open Layout (Memo Settled HasClass)

namespace Registry

open Source (TypeId TypeDecl Signature)

variable {R : Registry} {m : Memo} {notes : Ledger} {into : Target.ModuleId} {boxed : Bool}
  {s : Signature} {t : TypeId} {d : TypeDecl} {c : TypeBindingId} {b : TypeBinding}

/-! ## Questions that fail for a reason -/

/-- Over notes that are settled with respect to `m`, a question fails only with look-up errors of a
kind. -/
def FailsOnly {α : Type} (R : Registry) (m : Memo) (E : LookupError → Prop) (q : Query α) : Prop :=
  ∀ (notes : Ledger) (failure : Failure), Settled R m notes.classes →
    (q.run notes).1 = .error failure → ∃ e, failure = .lookup e ∧ E e

namespace FailsOnly

variable {α β : Type} {E E' : LookupError → Prop}

theorem pure (a : α) : FailsOnly R m E (pure a) := by
  intro notes failure _ failed
  cases failed

/-- A question that is always answered never fails. -/
theorem of_answered {q : Query α} (answered : ∀ notes, ∃ a notes', q.run notes = (.ok a, notes')) :
    FailsOnly R m E q := by
  intro notes failure _ failed
  obtain ⟨a, notes', run⟩ := answered notes
  rw [run] at failed
  cases failed

theorem lift {q : Except Failure α}
    (only : ∀ failure, q = .error failure → ∃ e, failure = .lookup e ∧ E e) :
    FailsOnly R m E (liftM q) := by
  intro notes failure _ failed
  exact only failure failed

theorem bind {q : Query α} {f : α → Query β} (first : FailsOnly R m E q)
    (steady : Steady (fun notes => Settled R m notes.classes) q)
    (rest : ∀ a, R.Yields m q a → FailsOnly R m E (f a)) : FailsOnly R m E (q >>= f) := by
  intro notes failure settled failed
  -- The second question may meet notes of the first, which are settled as well.
  have kept := steady.keeps notes settled
  rw [Effect.run_bind] at failed
  rcases run : q.run notes with ⟨_ | a, between⟩
  · rw [run] at failed
    cases failed
    exact first notes _ settled (congrArg Prod.fst run)
  · rw [run] at failed kept
    exact rest a ⟨notes, between, settled, run⟩ between failure kept failed

theorem bind_lift {q : Except Failure α} {f : α → Query β}
    (first : ∀ failure, q = .error failure → ∃ e, failure = .lookup e ∧ E e)
    (rest : ∀ a, q = .ok a → FailsOnly R m E (f a)) : FailsOnly R m E ((liftM q : Query α) >>= f) :=
  .bind (.lift first) (.lift q) fun a yields => rest a yields.lift

/-- What is found needs no reason. -/
theorem bind_found {q : Except Failure α} {f : α → Query β} {a : α} (found : q = .ok a)
    (rest : FailsOnly R m E (f a)) : FailsOnly R m E ((liftM q : Query α) >>= f) := by
  subst found
  exact .bind_lift (fun _ failed => nomatch failed) fun a' eq => by cases eq; exact rest

theorem mono {q : Query α} (only : FailsOnly R m E q) (weaker : ∀ e, E e → E' e) :
    FailsOnly R m E' q := by
  intro notes failure settled failed
  obtain ⟨e, eq, holds⟩ := only notes failure settled failed
  exact ⟨e, eq, weaker e holds⟩

end FailsOnly

/-! ## Parts of references -/

theorem Lacks.within {e : LookupError} (lacks : R.Lacks notes s e) : R.LacksWithin notes s e :=
  ⟨s, s.self_mem_parts, lacks⟩

theorem LacksWithin.mono {s' : Signature} {e : LookupError} (lacks : R.LacksWithin notes s e)
    (sub : ∀ part ∈ s.parts, part ∈ s'.parts) : R.LacksWithin notes s' e := by
  obtain ⟨part, mem, lacks⟩ := lacks
  exact ⟨part, sub part mem, lacks⟩

theorem FailsOnly.within {α : Type} {q : Query α} (only : FailsOnly R m (R.Lacks notes s) q) :
    FailsOnly R m (R.LacksWithin notes s) q :=
  only.mono fun _ lacks => lacks.within

theorem FailsOnly.of_part {α : Type} {s' : Signature} {q : Query α}
    (only : FailsOnly R m (R.LacksWithin notes s) q) (sub : ∀ part ∈ s.parts, part ∈ s'.parts) :
    FailsOnly R m (R.LacksWithin notes s') q :=
  only.mono fun _ lacks => lacks.mono sub

/-- The type that a reference without dangling handles names or applies is there. -/
theorem declared_of_covers (covered : R.source.covers s) (head : s.head? = some t) :
    ∃ d, R.source.types[t]? = some d := by
  have known := Source.Catalog.knows_of_covers covered
  cases s <;> cases head <;> exact Option.isSome_iff_exists.1 known

/-! ## Registries without dangling handles -/

/-- The tables of a registry are coherent, names lead to assemblies that are there, and neither its
handles nor that of a module are dangling. -/
structure Serves (R : Registry) (into : Target.ModuleId) : Prop where
  coherent : R.Coherent
  names : ∀ {name : String} {i : AssemblyBindingId}, R.assemblyByName[name]? = some i →
    ∃ A, R.assemblies[i]? = some A
  inRange : R.InRange
  module : into.index < R.target.modules.size

namespace Serves

theorem binding (serves : R.Serves into) (bound : R.binding? t = some c) :
    ∃ b, R.types[c]? = some b := by
  obtain ⟨b, -, found, -⟩ := serves.coherent.binding?_source bound
  exact ⟨b, found⟩

theorem declared_of_targetOf (serves : R.Serves into) {u : Target.TypeId}
    (target : R.targetOf boxed c = .ok u) :
    ∃ D, R.target.types[u]? = some D := by
  obtain ⟨b, found, ⟨rfl, -⟩ | ⟨-, e, standIn, -, found', rfl⟩⟩ := targetOf_eq_ok target
  · exact Table.exists_getElem? (serves.inRange.targets c b found)
  · exact Table.exists_getElem? (serves.inRange.targets e standIn found')

theorem declared_of_counterpartOf (serves : R.Serves into) {generic : TypeId} {u : Target.TypeId}
    (target : R.counterpartOf generic c = .ok u) : ∃ D, R.target.types[u]? = some D := by
  obtain ⟨-, e, standIn, -, -, found, rfl⟩ := counterpartOf_eq_ok target
  exact Table.exists_getElem? (serves.inRange.targets e standIn found)

theorem declared_of_methods (serves : R.Serves into) {method : Source.MethodId}
    {target : Target.MethodId} (found : R.types[c]? = some b)
    (registered : b.methods[method]? = some target) :
    ∃ D, R.target.methods[target]? = some D :=
  Table.exists_getElem?
    (serves.inRange.targetMethods c b found target (mem_values_iff.2 ⟨method, registered⟩))

/-- A binding has an output type, and so has its counterpart. -/
theorem exists_targetOf (serves : R.Serves into) (boxed : Bool) (found : R.types[c]? = some b) :
    ∃ u, R.targetOf boxed c = .ok u := by
  cases counterpart : b.counterpart with
  | none =>
      exact ⟨b.target, except_bind_eq_ok_iff.2
        ⟨b, Table.fetch_eq_ok_iff.2 found, by rw [counterpart]; rfl⟩⟩
  | some e =>
      obtain ⟨standIn, found'⟩ :=
        Table.exists_getElem? (serves.inRange.counterparts c b found e counterpart)
      cases boxed with
      | false => exact ⟨b.target, targetOf_false found⟩
      | true =>
          refine ⟨standIn.target, except_bind_eq_ok_iff.2 ⟨b, Table.fetch_eq_ok_iff.2 found, ?_⟩⟩
          simp only [counterpart, if_true]
          exact except_bind_eq_ok_iff.2 ⟨standIn, Table.fetch_eq_ok_iff.2 found', rfl⟩

theorem importType (serves : R.Serves into) {u : Target.TypeId} {D : Target.TypeDecl}
    {E : LookupError → Prop} (declared : R.target.types[u]? = some D) :
    FailsOnly R m E (R.target.importType into u) :=
  .of_answered fun notes => ⟨_, exists_importType declared serves.module notes⟩

/-- The output type of a binding can be mentioned. -/
theorem importTarget (serves : R.Serves into) {E : LookupError → Prop}
    (found : R.types[c]? = some b) :
    FailsOnly R m E ((liftM (R.targetOf boxed c) : Query _) >>= R.target.importType into) := by
  obtain ⟨u, target⟩ := serves.exists_targetOf boxed found
  obtain ⟨D, there⟩ := serves.declared_of_targetOf target
  exact .bind_found target (serves.importType there)

theorem importExternal (serves : R.Serves into) {e : Target.External} {E : LookupError → Prop} :
    FailsOnly R m E (R.target.importExternal into e) := by
  refine .of_answered fun notes => ?_
  obtain ⟨name, there⟩ := Table.exists_getElem? serves.module
  exact ⟨_, _, Effect.bind_eq_ok_iff.2 ⟨(), _,
    Effect.lift_bind_eq_ok_iff.2 ⟨name, Table.fetch_eq_ok_iff.2 there, rfl⟩, rfl⟩⟩

/-- Every binding is given a class. -/
theorem exists_classOf (serves : R.Serves into) (found : R.types[c]? = some b) (notes : Ledger) :
    ∃ k notes', (R.classOf c).run notes = (.ok k, notes') := by
  have total : Layout.Total (Layout.classify R [] c) :=
    Layout.classify_total serves.coherent serves.inRange.fields found
  obtain ⟨k, classes, run⟩ := total notes.classes
  exact ⟨k, _, classOf_eq_ok_iff.2 ⟨classes, run, rfl⟩⟩

theorem classOf (serves : R.Serves into) {E : LookupError → Prop} (found : R.types[c]? = some b) :
    FailsOnly R m E (R.classOf c) :=
  .of_answered (serves.exists_classOf found)

/-! ## Look-ups that fail -/

/-- Where a type that a part mentions has no binding, the error says whether that or its assembly is
missing. -/
theorem bindingFor (serves : R.Serves into) (mentions : s.ownMention R.source = some t)
    (declared : R.source.types[t]? = some d) (failure : Failure)
    (failed : R.bindingFor t = .error failure) :
    ∃ e, failure = .lookup e ∧ R.Lacks notes s e := by
  have unbound : R.binding? t = none := by
    refine Option.eq_none_iff_forall_ne_some.2 fun c bound => ?_
    simp [bindingFor_eq_ok_iff.2 bound] at failed
  cases owner : R.assemblyBySource[d.assembly]? with
  | none =>
      obtain ⟨name, named⟩ := Table.exists_getElem? (serves.inRange.assemblies t d declared)
      have error : R.bindingFor t = .error (.lookup (.unregisteredAssembly name)) := by
        simp [Registry.bindingFor, assemblyFor, Table.fetch, declared, owner, named, orDangling,
          Bind.bind, Except.bind, throw, throwThe, MonadExceptOf.throw]
      cases error.symm.trans failed
      exact ⟨_, rfl, .assembly mentions declared owner unbound named⟩
  | some i =>
      obtain ⟨A, listed, -⟩ := serves.coherent.owner owner
      have unknown : A.bySource[t]? = none := by
        simpa [binding?, declared, owner, listed] using unbound
      have error : R.bindingFor t = .error (.lookup (.unregisteredType d.fullName)) := by
        simp [Registry.bindingFor, assemblyFor, AssemblyBinding.bindingFor, Table.fetch, declared,
          owner, listed, unknown, orDangling, Bind.bind, Except.bind]
      cases error.symm.trans failed
      exact ⟨_, rfl, .type mentions declared owner unbound⟩

/-- Where a root of the type system has no binding, the error says whether that or the base class
library is missing. -/
theorem corlibBinding (serves : R.Serves into) (head : s.head? = some t)
    (declared : R.source.types[t]? = some d)
    (isRoot : d.fullName = Corlib.objectName ∨ d.fullName = Corlib.attributeName)
    (failure : Failure) (failed : R.corlibBinding d.fullName = .error failure) :
    ∃ e, failure = .lookup e ∧ R.Lacks notes s e := by
  cases known : R.assemblyByName[R.corlib]? with
  | none =>
      have error : R.corlibBinding d.fullName = .error (.lookup (.unknownAssembly R.corlib)) := by
        simp [Registry.corlibBinding, assemblyNamed, known, Bind.bind, Except.bind]
      cases error.symm.trans failed
      exact ⟨_, rfl, .corlib head declared isRoot known⟩
  | some i =>
      obtain ⟨A, listed⟩ := serves.names known
      have unknown : A.byName[d.fullName]? = none := by
        refine Option.eq_none_iff_forall_ne_some.2 fun c found => ?_
        simp [corlibBinding_eq_ok_iff.2 ⟨i, A, known, listed, found⟩] at failed
      have error : R.corlibBinding d.fullName =
          .error (.lookup (.unknownTypeName A.name d.fullName)) := by
        simp [Registry.corlibBinding, assemblyNamed, AssemblyBinding.bindingNamed, Table.fetch,
          known, listed, unknown, orDangling, Bind.bind, Except.bind]
      cases error.symm.trans failed
      exact ⟨_, rfl, .root head declared isRoot known listed unknown⟩

/-! ## Types, methods and owners -/

theorem projectNamed (serves : R.Serves into) (head : s.head? = some t)
    (declared : R.source.types[t]? = some d) :
    FailsOnly R m (R.Lacks notes s) (R.projectNamed into boxed t) := by
  refine .bind_found (fullName_of_declared declared) ?_
  cases treated : Corlib.treatment d.fullName with
  | verbatim => exact serves.importExternal
  | void => exact .pure _
  | string => exact .pure _
  | root =>
      refine .bind_lift (serves.corlibBinding head declared (Corlib.eq_of_treatment_root treated))
        fun c found => ?_
      obtain ⟨b, bound, -⟩ := serves.coherent.corlibBinding found
      exact serves.importTarget bound
  | bound =>
      refine .bind_lift (serves.bindingFor (Signature.ownMention_of_head head) declared)
        fun c found => ?_
      obtain ⟨b, bound⟩ := serves.binding (bindingFor_eq_ok_iff.1 found)
      exact serves.importTarget bound

theorem projectMethod (serves : R.Serves into) {method : Source.MethodId} {position : Nat}
    (known : (R.source.methods[method]?).isSome) :
    FailsOnly R m (R.Lacks notes (.param (.method method) position))
      (R.projectMethod into method) := by
  obtain ⟨declaration, declared⟩ := Option.isSome_iff_exists.1 known
  obtain ⟨d, declaring⟩ :=
    Table.exists_getElem? (serves.inRange.methods method declaration declared)
  have mentions : (Signature.param (.method method) position).ownMention R.source =
      some declaration.type := by
    simp [Signature.ownMention, declared]
  refine .bind_found (Table.fetch_eq_ok_iff.2 declared) ?_
  refine .bind_lift (serves.bindingFor mentions declaring) fun c found => ?_
  obtain ⟨b, bound⟩ := serves.binding (bindingFor_eq_ok_iff.1 found)
  refine .bind_found (Table.fetch_eq_ok_iff.2 bound) ?_
  cases registered : b.methods[method]? with
  | some target =>
      obtain ⟨D, there⟩ := serves.declared_of_methods bound registered
      obtain ⟨owner, declaredOwner⟩ :=
        Table.exists_getElem? (serves.inRange.targetOwners target D there)
      refine .bind_found (Table.fetch_eq_ok_iff.2 there) ?_
      exact .bind (serves.importType declaredOwner) ((settled_undisturbed R m).importType _)
        fun _ _ => .pure _
  | none =>
      refine .bind_found (fullName_of_declared declaring) (.lift ?_)
      intro failure failed
      cases failed
      exact ⟨_, rfl, .method declared declaring (bindingFor_eq_ok_iff.1 found) bound registered⟩

theorem projectOwner (serves : R.Serves into) {owner : Source.Owner} {position : Nat}
    (known : R.source.knows (.param owner position)) :
    FailsOnly R m (R.Lacks notes (.param owner position)) (R.projectOwner into boxed owner) := by
  cases owner with
  | type t =>
      obtain ⟨d, declared⟩ := Option.isSome_iff_exists.1 known
      refine .bind_lift (serves.bindingFor rfl declared) fun c found => ?_
      obtain ⟨b, bound⟩ := serves.binding (bindingFor_eq_ok_iff.1 found)
      obtain ⟨u, target⟩ := serves.exists_targetOf boxed bound
      obtain ⟨D, there⟩ := serves.declared_of_targetOf target
      refine .bind_found target ?_
      exact .bind (serves.importType there) ((settled_undisturbed R m).importType u) fun _ _ =>
        .pure _
  | method method =>
      exact .bind (serves.projectMethod known) ((settled_undisturbed R m).projectMethod method)
        fun _ _ => .pure _

/-- Whether a parameter of the output is marked can be told for all owners that are found. -/
theorem isMarked (serves : R.Serves into) {owner : Source.Owner} {target : Target.Owner}
    (position : Nat) (yields : R.Yields m (R.projectOwner into boxed owner) target) :
    ∃ marked, R.target.isMarked target position = some marked := by
  cases owner with
  | type t =>
      obtain ⟨c, u, -, found, rfl⟩ := yields.projectOwner_type
      obtain ⟨D, there⟩ := serves.declared_of_targetOf found
      exact ⟨_, by simp only [Target.Catalog.isMarked, Target.Catalog.params, there,
        Option.map_some]; rfl⟩
  | method method =>
      obtain ⟨⟨u, target⟩, yieldsMethod, yields⟩ :=
        yields.bind ((settled_undisturbed R m).projectMethod method)
      cases yields.pure
      obtain ⟨c, b, bound, registered⟩ := yieldsMethod.projectMethod
      obtain ⟨D, there⟩ := serves.declared_of_methods bound registered
      exact ⟨_, by simp only [Target.Catalog.isMarked, Target.Catalog.params, there,
        Option.map_some]; rfl⟩

/-! ## Unmanaged references -/

theorem isBlittable (serves : R.Serves into) (head : s.head? = some t)
    (declared : R.source.types[t]? = some d) :
    FailsOnly R m (R.Lacks notes s) (R.isBlittable t) := by
  refine .bind_lift (serves.bindingFor (Signature.ownMention_of_head head) declared) fun c found =>
    ?_
  obtain ⟨b, bound⟩ := serves.binding (bindingFor_eq_ok_iff.1 found)
  exact .bind (serves.classOf bound) ((settled_undisturbed R m).classOf c) fun _ _ => .pure _

theorem allProvenUnmanaged {args : List Signature} {E : LookupError → Prop}
    (only : ∀ arg ∈ args, FailsOnly R m E (R.provenUnmanaged into boxed arg)) :
    FailsOnly R m E (R.allProvenUnmanaged into boxed args) := by
  induction args with
  | nil =>
      rw [Registry.allProvenUnmanaged]
      exact .pure true
  | cons arg args ih =>
      rw [Registry.allProvenUnmanaged]
      refine .bind (only arg List.mem_cons_self) ((settled_undisturbed R m).provenUnmanaged arg)
        fun proven _ => ?_
      -- The first that is not proven to be unmanaged ends the search.
      cases proven with
      | true => exact ih fun arg' mem => only arg' (List.mem_cons_of_mem _ mem)
      | false => exact .pure false

/-- Whether a reference is known to be unmanaged fails for what is lacking for a part of it. -/
theorem provenUnmanaged (serves : R.Serves into) (covered : R.source.covers s) :
    FailsOnly R m (R.LacksWithin notes s) (R.provenUnmanaged into boxed s) := by
  induction s with
  | named t =>
      obtain ⟨d, declared⟩ := declared_of_covers covered rfl
      rw [Registry.provenUnmanaged]
      exact (serves.isBlittable rfl declared).within
  | inst generic args ih =>
      obtain ⟨d, declared⟩ := declared_of_covers covered rfl
      have all : FailsOnly R m (R.LacksWithin notes (.inst generic args))
          (R.allProvenUnmanaged into boxed args) := by
        refine allProvenUnmanaged fun arg mem => ?_
        have sub : ∀ part ∈ arg.parts, part ∈ (Signature.inst generic args).parts :=
          fun _ => Signature.parts_arg mem
        exact (ih arg mem (Source.Catalog.covers_of_covers covered sub)).of_part sub
      rw [Registry.provenUnmanaged]
      refine .bind all ((settled_undisturbed R m).allProvenUnmanaged args) fun proven _ => ?_
      cases proven with
      | true => exact (serves.isBlittable rfl declared).within
      | false => exact .pure false
  | param owner position =>
      rw [Registry.provenUnmanaged]
      have known := Source.Catalog.knows_of_covers covered
      refine .bind (serves.projectOwner known).within
        ((settled_undisturbed R m).projectOwner owner) ?_
      intro target yields
      obtain ⟨marked, eq⟩ := serves.isMarked position yields
      exact .lift fun failure failed => by simp [eq, orDangling] at failed
  | _ =>
      rw [Registry.provenUnmanaged]
      exact .pure _

/-! ## References -/

/-- A class that is answered at some time over settled notes is answered at once. -/
theorem classOf_answered (serves : R.Serves into) {k : LayoutClass} (found : R.types[c]? = some b)
    (yields : R.Yields notes.classes (R.classOf c) k) : ((R.classOf c).run notes).1 = .ok k := by
  obtain ⟨k', notes', answered⟩ := serves.exists_classOf found notes
  have has : HasClass R notes.classes c k' := hasClass_of_classOf (.refl R notes.classes) answered
  rw [answered, has.unique yields.classOf]

/-- Where the values of a generic type have to be wrapped, a counterpart can be lacking. -/
theorem counterpartOf (serves : R.Serves into) {generic : TypeId} {args : List Signature}
    (declared : R.source.types[generic]? = some d) (bound : R.binding? generic = some c)
    (found : R.types[c]? = some b) (isGeneric : ((R.classOf c).run notes).1 = .ok .genericBlittable)
    (failure : Failure) (failed : R.counterpartOf generic c = .error failure) :
    ∃ e, failure = .lookup e ∧ R.Lacks notes (.inst generic args) e := by
  have fetched : R.types.fetch c = .ok b := Table.fetch_eq_ok_iff.2 found
  cases counterpart : b.counterpart with
  | some e =>
      obtain ⟨standIn, found'⟩ :=
        Table.exists_getElem? (serves.inRange.counterparts c b found e counterpart)
      have fetched' : R.types.fetch e = .ok standIn := Table.fetch_eq_ok_iff.2 found'
      simp [Registry.counterpartOf, fetched, fetched', counterpart, Bind.bind,
        Except.bind, Pure.pure, Except.pure] at failed
  | none =>
      have error : R.counterpartOf generic c =
          .error (.lookup (.missingCounterpart d.fullName)) := by
        simp [Registry.counterpartOf, fetched, counterpart, fullName_of_declared declared,
          Bind.bind, Except.bind, throw, throwThe, MonadExceptOf.throw]
      cases error.symm.trans failed
      exact ⟨_, rfl, .counterpart declared bound isGeneric found counterpart⟩

theorem projectHead (serves : R.Serves into) {generic : TypeId} {args : List Signature}
    (covered : R.source.covers (.inst generic args)) :
    FailsOnly R notes.classes (R.LacksWithin notes (.inst generic args))
      (R.projectHead into boxed generic args) := by
  obtain ⟨d, declared⟩ := declared_of_covers covered rfl
  have undisturbed := settled_undisturbed R notes.classes
  have named : FailsOnly R notes.classes (R.LacksWithin notes (.inst generic args))
      (R.projectNamed into boxed generic) :=
    (serves.projectNamed rfl declared).within
  refine .bind (FailsOnly.lift (serves.bindingFor rfl declared)).within (.lift _) fun c yields => ?_
  have bound : R.binding? generic = some c := bindingFor_eq_ok_iff.1 yields.lift
  obtain ⟨b, found⟩ := serves.binding bound
  refine .bind (serves.classOf found) (undisturbed.classOf c) fun k yieldsClass => ?_
  split
  · next isGeneric =>
    have answered := serves.classOf_answered found (isGeneric ▸ yieldsClass)
    refine .bind (serves.provenUnmanaged covered) (undisturbed.provenUnmanaged _) fun proven _ => ?_
    cases proven with
    | true => exact named
    | false =>
        -- Late boxing needs the counterpart.
        refine .bind (FailsOnly.lift (serves.counterpartOf declared bound found answered)).within
          (.lift _) ?_
        intro u yields
        obtain ⟨D, there⟩ := serves.declared_of_counterpartOf yields.lift
        exact serves.importType there
  · exact named

theorem isValueType_of_namedForm (serves : R.Serves into) {r : Target.Signature}
    (form : NamedForm R boxed t d r) :
    ∃ isValueType, R.target.isValueType r = some isValueType := by
  cases form with
  | root _ _ target =>
      obtain ⟨D, there⟩ := serves.declared_of_targetOf target
      exact ⟨D.isValueType, by simp [Target.Catalog.isValueType, there]⟩
  | bound _ _ target =>
      obtain ⟨D, there⟩ := serves.declared_of_targetOf target
      exact ⟨D.isValueType, by simp [Target.Catalog.isValueType, there]⟩
  | _ => exact ⟨_, rfl⟩

/-- Whether the form of a reference is a value type can be told for all forms that are found. -/
theorem isValueType (serves : R.Serves into) {r : Target.Signature}
    (yields : R.Yields m (R.project into boxed s) r) :
    ∃ isValueType, R.target.isValueType r = some isValueType := by
  cases yields.referenceForm with
  | named _ form => exact serves.isValueType_of_namedForm form
  | @inst _ _ head _ _ _ _ form _ =>
      -- The arguments have no say in it.
      change ∃ isValueType, R.target.isValueType head = some isValueType
      cases form with
      | plain _ named =>
          obtain ⟨d, -, form⟩ := named.projectNamed
          exact serves.isValueType_of_namedForm form
      | proven _ _ named =>
          obtain ⟨d, -, form⟩ := named.projectNamed
          exact serves.isValueType_of_namedForm form
      | lateBoxed _ _ counterpart =>
          obtain ⟨D, there⟩ := serves.declared_of_counterpartOf counterpart
          exact ⟨D.isValueType, by simp [Target.Catalog.isValueType, there]⟩
  | _ => exact ⟨_, rfl⟩

theorem isString (covered : R.source.covers s) : ∃ answer, R.isString s = .ok answer := by
  cases s with
  | named t =>
      obtain ⟨d, declared⟩ := declared_of_covers covered rfl
      exact ⟨_, except_bind_eq_ok_iff.2 ⟨_, fullName_of_declared declared, rfl⟩⟩
  | _ => exact ⟨false, rfl⟩

theorem arrayFor (serves : R.Serves into) {r : Target.Signature}
    (yields : R.Yields m (R.project into boxed s) r) :
    ∃ array, R.arrayFor s r = .ok array := by
  obtain ⟨isValueType, eq⟩ := serves.isValueType yields
  cases s with
  | param => exact ⟨_, rfl⟩
  | _ => exact ⟨_, except_bind_eq_ok_iff.2 ⟨isValueType, orDangling_eq_ok_iff.2 eq, rfl⟩⟩

theorem projectAll {args : List Signature} {E : LookupError → Prop}
    (only : ∀ arg ∈ args, FailsOnly R m E (R.project into boxed arg)) :
    FailsOnly R m E (R.projectAll into boxed args) := by
  have undisturbed := settled_undisturbed R m
  induction args with
  | nil =>
      rw [Registry.projectAll]
      exact .pure []
  | cons arg args ih =>
      have rest := ih fun arg' mem => only arg' (List.mem_cons_of_mem _ mem)
      rw [Registry.projectAll]
      exact .bind (only arg List.mem_cons_self) (undisturbed.project arg) fun _ _ =>
        .bind rest (undisturbed.projectAll args) fun _ _ => .pure _

/-- The form of a reference fails for what is lacking for a part of it. -/
theorem project (serves : R.Serves into) (covered : R.source.covers s) :
    FailsOnly R notes.classes (R.LacksWithin notes s) (R.project into boxed s) := by
  have undisturbed := settled_undisturbed R notes.classes
  induction s with
  | named t =>
      obtain ⟨d, declared⟩ := declared_of_covers covered rfl
      rw [Registry.project]
      exact (serves.projectNamed rfl declared).within
  | unresolved name =>
      rw [Registry.project]
      exact .pure _
  | array element rank ih =>
      rw [Registry.project]
      split
      · exact .pure _
      · next one =>
        have sub : ∀ part ∈ element.parts, part ∈ (Signature.array element rank).parts := by
          intro part mem
          simpa [Signature.parts, Classical.not_not.1 one] using .inr mem
        have coveredElement := Source.Catalog.covers_of_covers covered sub
        obtain ⟨answer, found⟩ := isString coveredElement
        refine .bind_found found ?_
        split
        · exact .pure _
        · refine .bind ((ih coveredElement).of_part sub) (undisturbed.project element) ?_
          intro projected yields
          obtain ⟨array, found⟩ := serves.arrayFor yields
          exact .bind_found found (.pure _)
  | byRef target ih =>
      have sub : ∀ part ∈ target.parts, part ∈ (Signature.byRef target).parts :=
        fun _ => List.mem_cons_of_mem _
      have only := (ih (Source.Catalog.covers_of_covers covered sub)).of_part sub
      rw [Registry.project]
      exact .bind only (undisturbed.project target) fun _ _ => .pure _
  | pointer target ih =>
      have sub : ∀ part ∈ target.parts, part ∈ (Signature.pointer target).parts :=
        fun _ => List.mem_cons_of_mem _
      have only := (ih (Source.Catalog.covers_of_covers covered sub)).of_part sub
      rw [Registry.project]
      exact .bind only (undisturbed.project target) fun _ _ => .pure _
  | inst generic args ih =>
      -- All arguments are projected before the type that is applied to them.
      have all : FailsOnly R notes.classes (R.LacksWithin notes (.inst generic args))
          (R.projectAll into boxed args) := by
        refine projectAll fun arg mem => ?_
        have sub : ∀ part ∈ arg.parts, part ∈ (Signature.inst generic args).parts :=
          fun _ => Signature.parts_arg mem
        exact (ih arg mem (Source.Catalog.covers_of_covers covered sub)).of_part sub
      rw [Registry.project]
      exact .bind all (undisturbed.projectAll args) fun _ _ =>
        .bind (serves.projectHead covered) (undisturbed.projectHead generic args) fun _ _ => .pure _
  | param owner position =>
      have known := Source.Catalog.knows_of_covers covered
      rw [Registry.project]
      exact .bind (serves.projectOwner known).within (undisturbed.projectOwner owner) fun _ _ =>
        .pure _

end Serves

/-! ## Reachable workspaces -/

/-- The name of an assembly leads to an assembly that is there. -/
theorem stable_names : Stable fun R _ => ∀ (name : String) (i : AssemblyBindingId),
    R.assemblyByName[name]? = some i → ∃ A, R.assemblies[i]? = some A where
  asked holds _ := holds
  registered {R R' notes} holds extended := by
    intro name i known
    -- Only a new assembly is given a name, and assemblies stay where they are.
    have kept : R.assemblyByName[name]? = some i → ∃ A, R'.assemblies[i]? = some A := fun known =>
      (holds name i known).elim fun _ => extended.assemblies
    cases extended with
    | assembly module _ =>
        rw [Std.TreeMap.getElem?_insert] at known
        split at known
        · cases known
          exact ⟨_, Table.getElem?_push_eq_some_iff.2 (.inr ⟨rfl, rfl⟩)⟩
        · exact kept known
    | binding => exact kept known
    | change => exact kept known
  edited _ holds := holds

end Registry

namespace Workspace

variable {W : Workspace} {i : AssemblyBindingId} {A : AssemblyBinding} {s : Source.Signature}

theorem Reachable.serves (reachable : W.Reachable) (inRange : W.registry.InRange)
    (listed : W.registry.assemblies[i]? = some A) : W.registry.Serves A.module where
  coherent := reachable.coherent
  names {name i} known :=
    Registry.stable_names.reachable (fun corlib source target => by simp [Registry.start])
      reachable name i known
  inRange := inRange
  module := reachable.hasModules i A listed

/-- Where a question about a reference has no answer, the error says what the registry lacks for a
part of it; where nothing is lacking, there is an answer. -/
theorem lacks_of_error (reachable : W.Reachable) (inRange : W.registry.InRange)
    (listed : W.registry.assemblies[i]? = some A) (covered : W.registry.source.covers s)
    (boxed : Bool) :
    (∀ failure, ((W.registry.project A.module boxed s).run W.notes).1 = .error failure →
      ∃ e, failure = .lookup e ∧ ∃ part ∈ s.parts, W.registry.Lacks W.notes part e) ∧
    (∀ failure, ((W.registry.provenUnmanaged A.module boxed s).run W.notes).1 = .error failure →
      ∃ e, failure = .lookup e ∧ ∃ part ∈ s.parts, W.registry.Lacks W.notes part e) ∧
    ((∀ part ∈ s.parts, ∀ e, ¬ W.registry.Lacks W.notes part e) →
      (∃ r, ((W.registry.project A.module boxed s).run W.notes).1 = .ok r) ∧
        ∃ proven, ((W.registry.provenUnmanaged A.module boxed s).run W.notes).1 = .ok proven) := by
  have serves := reachable.serves inRange listed
  have formFails : Registry.FailsOnly W.registry W.notes.classes (W.registry.LacksWithin W.notes s)
      (W.registry.project A.module boxed s) := serves.project covered
  have provenFails : Registry.FailsOnly W.registry W.notes.classes
    (W.registry.LacksWithin W.notes s)
      (W.registry.provenUnmanaged A.module boxed s) := serves.provenUnmanaged covered
  have settled : Layout.Settled W.registry W.notes.classes W.notes.classes := .refl _ _
  refine ⟨fun failure => formFails W.notes failure settled,
    fun failure => provenFails W.notes failure settled, fun nothing => ?_⟩
  -- Both questions fail for a reason, so without any they are answered.
  have none : ∀ e, ¬ W.registry.LacksWithin W.notes s e :=
    fun e ⟨part, mem, lacks⟩ => nothing part mem e lacks
  constructor
  · rcases answer : ((W.registry.project A.module boxed s).run W.notes).1 with failure | r
    · obtain ⟨e, -, lacks⟩ := formFails W.notes failure settled answer
      exact absurd lacks (none e)
    · exact ⟨r, rfl⟩
  · rcases answer : ((W.registry.provenUnmanaged A.module boxed s).run W.notes).1 with
      failure | proven
    · obtain ⟨e, -, lacks⟩ := provenFails W.notes failure settled answer
      exact absurd lacks (none e)
    · exact ⟨proven, rfl⟩

end Workspace

/-! ## A shop without stand-ins -/

/-- The sample program before lists get their stand-in and the method of bags is bound. -/
def Sample.bareShop : Workspace :=
  (Workspace.start "mscorlib" Sample.shopSource Sample.shopTarget).after (Sample.shopSteps.take 12)

/-- Bags of lists of objects lack the counterpart of lists, whereas nothing is lacking for
colors. -/
theorem Workspace.lacks_of_error_bag :
    (∃ part ∈ Sample.bagOfLists.parts,
      Sample.bareShop.registry.Lacks Sample.bareShop.notes part (.missingCounterpart "Shop.List")) ∧
    ∃ r, ((Sample.bareShop.registry.project ⟨1⟩ true (.named ⟨6⟩)).run Sample.bareShop.notes).1 =
      .ok r := by
  have reachable : Sample.bareShop.Reachable := ⟨_, _, _, _, rfl⟩
  have inRange : Sample.bareShop.registry.InRange :=
    { fields := by decide +kernel
      assemblies := by decide +kernel
      methods := by decide +kernel
      targetOwners := by decide +kernel
      targets := by decide +kernel
      counterparts := by decide +kernel
      targetMethods := by decide +kernel }
  have home : Sample.bareShop.registry.assemblies[(⟨1⟩ : AssemblyBindingId)]?.map (·.module) =
      some ⟨1⟩ := by
    decide +kernel
  obtain ⟨A, listed, module⟩ := Option.map_eq_some_iff.1 home
  constructor
  · have failed :
      ((Sample.bareShop.registry.project ⟨1⟩ false Sample.bagOfLists).run Sample.bareShop.notes).1 =
        .error (.lookup (.missingCounterpart "Shop.List")) := by decide +kernel
    obtain ⟨fails, -, -⟩ :=
      Workspace.lacks_of_error (s := Sample.bagOfLists) reachable inRange listed
        (by decide +kernel) false
    obtain ⟨e, eq, lacks⟩ := fails _ (module ▸ failed)
    cases eq
    exact lacks
  · obtain ⟨-, -, answers⟩ := Workspace.lacks_of_error (s := .named ⟨6⟩) reachable inRange listed
      (by decide +kernel) true
    rw [module] at answers
    refine (answers fun part mem e lacks => ?_).1
    obtain rfl : part = .named ⟨6⟩ := by simpa [Source.Signature.parts] using mem
    have bound : Sample.bareShop.registry.binding? ⟨6⟩ = some ⟨6⟩ := by decide +kernel
    have name : ∀ d, Sample.bareShop.registry.source.types[(⟨6⟩ : Source.TypeId)]? = some d →
        d.fullName ≠ Corlib.objectName ∧ d.fullName ≠ Corlib.attributeName := by decide +kernel
    cases lacks with
    | type mentions _ _ unbound =>
        cases mentions
        simp [bound] at unbound
    | assembly mentions _ _ unbound _ =>
        cases mentions
        simp [bound] at unbound
    | corlib head declared isRoot _ =>
        cases head
        exact isRoot.elim (name _ declared).1 (name _ declared).2
    | root head declared isRoot _ _ _ =>
        cases head
        exact isRoot.elim (name _ declared).1 (name _ declared).2

end TypeProjection
