import TypeProjection.Proofs.Projection.Steady
import TypeProjection.Proofs.Registry.Coherent

/-!
# Proofs.Projection.Form — what answers about references say

Each lemma of this module reads an answer of one of the questions about references back into what it
is made of. The notes taken before the question are settled, and are not mentioned otherwise:

* `Registry.Yields` : over settled notes a question has this answer;
* `NamedForm` : the form of a declared type;
* `HeadForm` : what an application of a generic type applies;
* `Yields.project_byRef`, `project_inst` and so on : the form of a reference, constructor by
  constructor;
* `ReferenceForm` : all of them as one relation, rule by rule.
-/

namespace TypeProjection

open Effect (Keeps Steady)
open Layout (Memo Settled HasClass)

namespace Registry

open Source (TypeId TypeDecl Signature)

variable {R : Registry} {m : Memo} {into : Target.ModuleId} {boxed : Bool} {c : TypeBindingId}
  {k : LayoutClass} {t : TypeId} {name : String} {u : Target.TypeId} {r : Target.Signature}

/-- Over notes that are settled with respect to `m`, a question has this answer. -/
def Yields {α : Type} (R : Registry) (m : Memo) (q : Query α) (a : α) : Prop :=
  ∃ notes notes', Settled R m notes.classes ∧ q.run notes = (.ok a, notes')

namespace Yields

variable {α β : Type}

theorem pure {a b : α} (yields : R.Yields m (pure a) b) : a = b := by
  rcases yields with ⟨notes, notes', -, run⟩
  exact (Effect.pure_eq_ok_iff.1 run).1

theorem lift {e : Except Failure α} {b : α} (yields : R.Yields m (liftM e) b) : e = .ok b := by
  rcases yields with ⟨notes, notes', -, run⟩
  exact (Effect.lift_eq_ok_iff.1 run).1

theorem bind {q : Query α} {f : α → Query β} {b : β} (yields : R.Yields m (q >>= f) b)
    (steady : Steady (fun notes => Settled R m notes.classes) q) :
    ∃ a, R.Yields m q a ∧ R.Yields m (f a) b := by
  rcases yields with ⟨notes, notes', settled, run⟩
  rcases Effect.bind_eq_ok_iff.1 run with ⟨a, between, first, rest⟩
  have kept := steady.keeps notes settled
  rw [first] at kept
  exact ⟨a, ⟨notes, between, settled, first⟩, ⟨between, notes', kept, rest⟩⟩

theorem bind_lift {e : Except Failure α} {f : α → Query β} {b : β}
    (yields : R.Yields m ((liftM e : Query α) >>= f) b) : ∃ a, e = .ok a ∧ R.Yields m (f a) b := by
  rcases yields.bind (.lift e) with ⟨a, first, rest⟩
  exact ⟨a, first.lift, rest⟩

/-- A question has one answer at most. -/
theorem unique {q : Query α} {a a' : α} (yields : R.Yields m q a)
    (steady : Steady (fun notes => Settled R m notes.classes) q)
    (other : R.Yields m q a') : a = a' := by
  rcases yields with ⟨notes, notes', settled, run⟩
  rcases other with ⟨others, others', settled', run'⟩
  exact steady.answer_eq settled run settled' run'

end Yields

/-! ## Look-ups -/

theorem fullName_eq_ok (found : R.fullName t = .ok name) :
    ∃ d, R.source.types[t]? = some d ∧ d.fullName = name := by
  rcases except_bind_eq_ok_iff.1 found with ⟨d, declared, found⟩
  exact ⟨d, Table.fetch_eq_ok_iff.1 declared, Except.ok.inj found⟩

/-- The output type of a binding is its own, or that of its counterpart if the reference form is
asked for. -/
theorem targetOf_eq_ok (found : R.targetOf boxed c = .ok u) :
    ∃ b, R.types[c]? = some b ∧
      (b.target = u ∧ (boxed = false ∨ b.counterpart = none) ∨
        boxed ∧ ∃ d standIn, b.counterpart = some d ∧ R.types[d]? = some standIn ∧
          standIn.target = u) := by
  rcases except_bind_eq_ok_iff.1 found with ⟨b, bound, found⟩
  refine ⟨b, Table.fetch_eq_ok_iff.1 bound, ?_⟩
  -- With a counterpart the flag decides, without one it has no say.
  split at found
  · next d counterpart =>
    split at found
    · next isBoxed =>
      rcases except_bind_eq_ok_iff.1 found with ⟨standIn, bound, found⟩
      exact .inr ⟨isBoxed, d, standIn, counterpart, Table.fetch_eq_ok_iff.1 bound,
        Except.ok.inj found⟩
    · next plain => exact .inl ⟨Except.ok.inj found, .inl (by simpa using plain)⟩
  · next alone => exact .inl ⟨Except.ok.inj found, .inr alone⟩

/-- Where the reference form is not asked for, the output type of a binding is its own. -/
theorem targetOf_false_eq_ok {b : TypeBinding} (found : R.targetOf false c = .ok u)
    (bound : R.types[c]? = some b) : b.target = u := by
  rcases targetOf_eq_ok found with ⟨b', bound', ⟨target, -⟩ | ⟨boxed, -⟩⟩
  · cases bound.symm.trans bound'
    exact target
  · cases boxed

/-- Where the reference form is not asked for, every binding has an output type. -/
theorem targetOf_false {b : TypeBinding} (bound : R.types[c]? = some b) :
    R.targetOf false c = .ok b.target := by
  refine except_bind_eq_ok_iff.2 ⟨b, Table.fetch_eq_ok_iff.2 bound, ?_⟩
  cases b.counterpart with
  | none => rfl
  | some e => rfl

theorem counterpartOf_eq_ok (found : R.counterpartOf t c = .ok u) :
    ∃ b d standIn, R.types[c]? = some b ∧ b.counterpart = some d ∧ R.types[d]? = some standIn ∧
      standIn.target = u := by
  rcases except_bind_eq_ok_iff.1 found with ⟨b, bound, found⟩
  split at found
  · next d counterpart =>
    rcases except_bind_eq_ok_iff.1 found with ⟨standIn, bound', found⟩
    exact ⟨b, d, standIn, Table.fetch_eq_ok_iff.1 bound, counterpart,
      Table.fetch_eq_ok_iff.1 bound', Except.ok.inj found⟩
  · rcases except_bind_eq_ok_iff.1 found with ⟨name, -, found⟩
    cases found

/-- The binding of a base class library type of a given name is a binding for a type of that name,
if it is one for a source type. -/
theorem Coherent.corlibBinding (coherent : R.Coherent) (found : R.corlibBinding name = .ok c) :
    ∃ b, R.types[c]? = some b ∧
      ∀ t d, b.source = some t → R.source.types[t]? = some d → d.fullName = name := by
  obtain ⟨i, A, -, listed, known⟩ := Registry.corlibBinding_eq_ok_iff.1 found
  exact coherent.byName listed known

/-! ## Mentioned types -/

theorem Yields.importType (yields : R.Yields m (R.target.importType into u) r) :
    r = .defined u ∧ ∃ D, R.target.types[u]? = some D := by
  rcases yields.bind_lift with ⟨D, declared, yields⟩
  refine ⟨?_, D, Table.fetch_eq_ok_iff.1 declared⟩
  dsimp only at yields
  split at yields
  · rcases yields.bind ((settled_undisturbed R m).record _) with ⟨_, -, yields⟩
    exact yields.pure.symm
  · exact yields.pure.symm

theorem Yields.importExternal {e : Target.External}
    (yields : R.Yields m (R.target.importExternal into e) r) :
    r = .external e := by
  rcases yields.bind ((settled_undisturbed R m).record _) with ⟨_, -, yields⟩
  exact yields.pure.symm

/-! ## Declared types -/

/-- The form of a declared type: a library type, or the output type of a binding. -/
inductive NamedForm (R : Registry) (boxed : Bool) (t : TypeId) (d : TypeDecl) :
    Target.Signature → Prop
  | verbatim (treated : Corlib.treatment d.fullName = .verbatim) :
      NamedForm R boxed t d (.external ⟨.corlib, d.fullName, true⟩)
  | void (treated : Corlib.treatment d.fullName = .void) : NamedForm R boxed t d Interop.void
  | string (treated : Corlib.treatment d.fullName = .string) : NamedForm R boxed t d Interop.string
  | root {c : TypeBindingId} {u : Target.TypeId} (treated : Corlib.treatment d.fullName = .root)
      (bound : R.corlibBinding d.fullName = .ok c) (target : R.targetOf false c = .ok u) :
      NamedForm R boxed t d (.defined u)
  | bound {c : TypeBindingId} {u : Target.TypeId} (treated : Corlib.treatment d.fullName = .bound)
      (bound : R.binding? t = some c) (target : R.targetOf boxed c = .ok u) :
      NamedForm R boxed t d (.defined u)

theorem Yields.projectNamed (yields : R.Yields m (R.projectNamed into boxed t) r) :
    ∃ d, R.source.types[t]? = some d ∧ NamedForm R boxed t d r := by
  rcases yields.bind_lift with ⟨name, named, yields⟩
  rcases fullName_eq_ok named with ⟨d, declared, rfl⟩
  refine ⟨d, declared, ?_⟩
  split at yields
  · next treated => exact yields.importExternal ▸ .verbatim treated
  · next treated => exact yields.pure ▸ .void treated
  · next treated => exact yields.pure ▸ .string treated
  · next treated =>
    rcases yields.bind_lift with ⟨c, bound, yields⟩
    rcases yields.bind_lift with ⟨u, target, yields⟩
    exact yields.importType.1 ▸ .root treated bound target
  · next treated =>
    rcases yields.bind_lift with ⟨c, bound, yields⟩
    rcases yields.bind_lift with ⟨u, target, yields⟩
    exact yields.importType.1 ▸ .bound treated (bindingFor_eq_ok_iff.1 bound) target

/-- The parameters of a source type go to those of the output type of its binding. -/
theorem Yields.projectOwner_type {owner : Target.Owner}
    (yields : R.Yields m (R.projectOwner into boxed (.type t)) owner) :
    ∃ c u, R.binding? t = some c ∧ R.targetOf boxed c = .ok u ∧ owner = .type u := by
  rcases yields.bind_lift with ⟨c, bound, yields⟩
  rcases yields.bind_lift with ⟨u, target, yields⟩
  rcases yields.bind ((settled_undisturbed R m).importType u) with ⟨_, -, yields⟩
  exact ⟨c, u, bindingFor_eq_ok_iff.1 bound, target, yields.pure.symm⟩

/-- A source method goes to what is registered for it on the binding of its type. -/
theorem Yields.projectMethod {method : Source.MethodId} {found : Target.TypeId × Target.MethodId}
    (yields : R.Yields m (R.projectMethod into method) found) :
    ∃ (c : TypeBindingId) (b : TypeBinding), R.types[c]? = some b ∧
      b.methods[method]? = some found.2 := by
  rcases yields.bind_lift with ⟨d, -, yields⟩
  rcases yields.bind_lift with ⟨c, -, yields⟩
  rcases yields.bind_lift with ⟨b, bound, yields⟩
  refine ⟨c, b, Table.fetch_eq_ok_iff.1 bound, ?_⟩
  split at yields
  · next target known =>
    rcases yields.bind_lift with ⟨d', -, yields⟩
    rcases yields.bind ((settled_undisturbed R m).importType _) with ⟨_, -, yields⟩
    cases yields.pure
    exact known
  · rcases yields.bind_lift with ⟨_, -, yields⟩
    cases yields.lift

/-! ## Unmanaged references -/

theorem Yields.classOf (yields : R.Yields m (R.classOf c) k) : HasClass R m c k := by
  rcases yields with ⟨notes, notes', settled, run⟩
  exact hasClass_of_classOf settled run

theorem Yields.isBlittable {answer : Bool} (yields : R.Yields m (R.isBlittable t) answer) :
    ∃ c k, R.binding? t = some c ∧ HasClass R m c k ∧ k.isBlittable = answer := by
  rcases yields.bind_lift with ⟨c, bound, yields⟩
  rcases yields.bind ((settled_undisturbed R m).classOf c) with ⟨k, yieldsClass, yields⟩
  exact ⟨c, k, bindingFor_eq_ok_iff.1 bound, yieldsClass.classOf, yields.pure⟩

theorem Yields.allProvenUnmanaged {args : List Signature}
    (yields : R.Yields m (R.allProvenUnmanaged into boxed args) true) :
    ∀ arg ∈ args, R.Yields m (R.provenUnmanaged into boxed arg) true := by
  induction args with
  | nil => exact fun arg mem => absurd mem List.not_mem_nil
  | cons arg args ih =>
      rw [Registry.allProvenUnmanaged] at yields
      obtain ⟨first, yieldsFirst, yields⟩ :=
        yields.bind ((settled_undisturbed R m).provenUnmanaged arg)
      cases first with
      | true => exact List.forall_mem_cons.2 ⟨yieldsFirst, ih yields⟩
      | false => exact absurd yields.pure Bool.false_ne_true

/-- An application is known to be unmanaged if all its arguments are and the generic type is
blittable. -/
theorem Yields.provenUnmanaged_inst {generic : TypeId} {args : List Signature}
    (yields : R.Yields m (R.provenUnmanaged into boxed (.inst generic args)) true) :
    (∀ arg ∈ args, R.Yields m (R.provenUnmanaged into boxed arg) true) ∧
      R.Yields m (R.isBlittable generic) true := by
  have undisturbed := settled_undisturbed R m
  rw [Registry.provenUnmanaged] at yields
  obtain ⟨all, yieldsAll, yields⟩ := yields.bind
    (undisturbed.allProvenUnmanaged args)
  cases all with
  | true => exact ⟨yieldsAll.allProvenUnmanaged, yields⟩
  | false => exact absurd yields.pure Bool.false_ne_true

theorem Yields.not_allProvenUnmanaged {args : List Signature}
    (yields : R.Yields m (R.allProvenUnmanaged into boxed args) false) :
    ∃ arg ∈ args, R.Yields m (R.provenUnmanaged into boxed arg) false := by
  induction args with
  | nil =>
      rw [Registry.allProvenUnmanaged] at yields
      cases yields.pure
  | cons arg args ih =>
      rw [Registry.allProvenUnmanaged] at yields
      obtain ⟨first, yieldsFirst, yields⟩ :=
        yields.bind ((settled_undisturbed R m).provenUnmanaged arg)
      cases first with
      | true =>
          rcases ih yields with ⟨arg', mem, unproven⟩
          exact ⟨arg', List.mem_cons_of_mem _ mem, unproven⟩
      | false => exact ⟨arg, List.mem_cons_self, yieldsFirst⟩

/-- An application that is not known to be unmanaged has an argument that is not, or its generic
type is not blittable. -/
theorem Yields.not_provenUnmanaged_inst {generic : TypeId} {args : List Signature}
    (yields : R.Yields m (R.provenUnmanaged into boxed (.inst generic args)) false) :
    (∃ arg ∈ args, R.Yields m (R.provenUnmanaged into boxed arg) false) ∨
      R.Yields m (R.isBlittable generic) false := by
  rw [Registry.provenUnmanaged] at yields
  obtain ⟨all, yieldsAll, yields⟩ :=
    yields.bind ((settled_undisturbed R m).allProvenUnmanaged args)
  cases all with
  | true => exact .inr yields
  | false => exact .inl yieldsAll.not_allProvenUnmanaged

theorem Yields.provenUnmanaged_param {owner : Source.Owner} {position : Nat} {answer : Bool}
    (yields : R.Yields m (R.provenUnmanaged into boxed (.param owner position)) answer) :
    ∃ target, R.Yields m (R.projectOwner into boxed owner) target ∧
      R.target.isMarked target position = some answer := by
  rw [Registry.provenUnmanaged] at yields
  obtain ⟨target, yieldsOwner, yields⟩ :=
    yields.bind ((settled_undisturbed R m).projectOwner owner)
  exact ⟨target, yieldsOwner, orDangling_eq_ok_iff.1 yields.lift⟩

/-! ## References -/

/-- What an application of a generic type applies: the form of the type, or its counterpart where
some argument may hold references. -/
inductive HeadForm (R : Registry) (m : Memo) (into : Target.ModuleId) (boxed : Bool)
    (generic : TypeId) (args : List Signature) (c : TypeBindingId) (k : LayoutClass) :
    Target.Signature → Prop
  | plain {r : Target.Signature} (notGeneric : k ≠ .genericBlittable)
      (named : R.Yields m (R.projectNamed into boxed generic) r) :
      HeadForm R m into boxed generic args c k r
  | proven {r : Target.Signature} (isGeneric : k = .genericBlittable)
      (proven : R.Yields m (R.provenUnmanaged into boxed (.inst generic args)) true)
      (named : R.Yields m (R.projectNamed into boxed generic) r) :
      HeadForm R m into boxed generic args c k r
  | lateBoxed {u : Target.TypeId} (isGeneric : k = .genericBlittable)
      (unproven : R.Yields m (R.provenUnmanaged into boxed (.inst generic args)) false)
      (counterpart : R.counterpartOf generic c = .ok u) :
      HeadForm R m into boxed generic args c k (.defined u)

theorem Yields.projectHead {generic : TypeId} {args : List Signature}
    (yields : R.Yields m (R.projectHead into boxed generic args) r) :
    ∃ c k, R.binding? generic = some c ∧ HasClass R m c k ∧
      HeadForm R m into boxed generic args c k r := by
  have undisturbed := settled_undisturbed R m
  rcases yields.bind_lift with ⟨c, bound, yields⟩
  rcases yields.bind (undisturbed.classOf c) with ⟨k, yieldsClass, yields⟩
  refine ⟨c, k, bindingFor_eq_ok_iff.1 bound, yieldsClass.classOf, ?_⟩
  split at yields
  · next isGeneric =>
    rcases yields.bind (undisturbed.provenUnmanaged _) with ⟨answer, yieldsAnswer, yields⟩
    cases answer with
    | true => exact .proven isGeneric yieldsAnswer yields
    | false =>
        -- Late boxing: the counterpart is mentioned in place of the type.
        rcases yields.bind_lift with ⟨u, counterpart, yields⟩
        exact yields.importType.1 ▸ .lateBoxed isGeneric yieldsAnswer counterpart
  · next notGeneric => exact .plain notGeneric yields

theorem Yields.projectAll {args : List Signature} {rs : List Target.Signature}
    (yields : R.Yields m (R.projectAll into boxed args) rs) :
    rs.length = args.length ∧ ∀ (i : Nat) (r : Target.Signature), rs[i]? = some r →
      ∃ arg, args[i]? = some arg ∧ R.Yields m (R.project into boxed arg) r := by
  have undisturbed := settled_undisturbed R m
  induction args generalizing rs with
  | nil =>
      rw [Registry.projectAll] at yields
      cases yields.pure
      exact ⟨rfl, fun i r found => by simp at found⟩
  | cons arg args ih =>
      rw [Registry.projectAll] at yields
      rcases yields.bind (undisturbed.project arg) with ⟨first, yieldsFirst, yields⟩
      obtain ⟨others, yieldsOthers, yields⟩ :=
        yields.bind (undisturbed.projectAll args)
      cases yields.pure
      rcases ih yieldsOthers with ⟨length, rest⟩
      refine ⟨by simp [length], fun i r found => ?_⟩
      cases i with
      | zero =>
          cases found
          exact ⟨arg, rfl, yieldsFirst⟩
      | succ i => exact rest i r found

/-- Each of several references has its form among the forms. -/
theorem Yields.mem_projectAll {args : List Signature} {rs : List Target.Signature} {arg : Signature}
    (yields : R.Yields m (R.projectAll into boxed args) rs) (mem : arg ∈ args) :
    ∃ r ∈ rs, R.Yields m (R.project into boxed arg) r := by
  rcases yields.projectAll with ⟨length, forms⟩
  rcases List.mem_iff_getElem.1 mem with ⟨i, lt, rfl⟩
  have lt' : i < rs.length := length ▸ lt
  rcases forms i rs[i] (List.getElem?_eq_getElem lt') with ⟨arg', found, yieldsArg⟩
  rw [List.getElem?_eq_getElem lt] at found
  cases found
  exact ⟨rs[i], List.getElem_mem lt', yieldsArg⟩

theorem Yields.project_named (yields : R.Yields m (R.project into boxed (.named t)) r) :
    R.Yields m (R.projectNamed into boxed t) r := by
  rwa [Registry.project] at yields

theorem arrayFor_eq_ok {element : Signature} {projected array : Target.Signature}
    (found : R.arrayFor element projected = .ok array) :
    ∃ e, array = .external e ∧ e.library = .support := by
  unfold arrayFor at found
  split at found
  · cases found
    exact ⟨_, rfl, rfl⟩
  · rcases except_bind_eq_ok_iff.1 found with ⟨isValueType, -, found⟩
    cases isValueType with
    | true =>
        cases found
        exact ⟨_, rfl, rfl⟩
    | false =>
        cases found
        exact ⟨_, rfl, rfl⟩

theorem Yields.project_byRef {target : Signature}
    (yields : R.Yields m (R.project into boxed (.byRef target)) r) :
    ∃ projected, r = .byRef projected ∧ R.Yields m (R.project into boxed target) projected := by
  rw [Registry.project] at yields
  rcases yields.bind ((settled_undisturbed R m).project target) with
    ⟨projected, yieldsTarget, yields⟩
  exact ⟨projected, yields.pure.symm, yieldsTarget⟩

theorem Yields.project_pointer {target : Signature}
    (yields : R.Yields m (R.project into boxed (.pointer target)) r) :
    ∃ projected, r = .pointer projected ∧ R.Yields m (R.project into boxed target) projected := by
  rw [Registry.project] at yields
  rcases yields.bind ((settled_undisturbed R m).project target) with
    ⟨projected, yieldsTarget, yields⟩
  exact ⟨projected, yields.pure.symm, yieldsTarget⟩

theorem Yields.project_inst {generic : TypeId} {args : List Signature}
    (yields : R.Yields m (R.project into boxed (.inst generic args)) r) :
    ∃ head projected, r = .inst head projected ∧
      R.Yields m (R.projectHead into boxed generic args) head ∧
      R.Yields m (R.projectAll into boxed args) projected := by
  have undisturbed := settled_undisturbed R m
  rw [Registry.project] at yields
  obtain ⟨projected, yieldsArgs, yields⟩ :=
    yields.bind (undisturbed.projectAll args)
  rcases yields.bind (undisturbed.projectHead generic args) with ⟨head, yieldsHead, yields⟩
  exact ⟨head, projected, yields.pure.symm, yieldsHead, yieldsArgs⟩

theorem Yields.project_param {owner : Source.Owner} {position : Nat}
    (yields : R.Yields m (R.project into boxed (.param owner position)) r) :
    ∃ target, r = .param target position ∧ R.Yields m (R.projectOwner into boxed owner) target := by
  rw [Registry.project] at yields
  rcases yields.bind ((settled_undisturbed R m).projectOwner owner) with
    ⟨target, yieldsOwner, yields⟩
  exact ⟨target, yields.pure.symm, yieldsOwner⟩

/-- The form of a reference, by the rule that gives it. -/
inductive ReferenceForm (R : Registry) (m : Memo) (into : Target.ModuleId) (boxed : Bool) :
    Signature → Target.Signature → Prop
  | named {t : TypeId} {d : TypeDecl} {r : Target.Signature}
      (declared : R.source.types[t]? = some d) (form : NamedForm R boxed t d r) :
      ReferenceForm R m into boxed (.named t) r
  | unresolved (name : String) : ReferenceForm R m into boxed (.unresolved name) Interop.objectBase
  | otherRank {element : Signature} {rank : Nat} (other : rank ≠ 1) :
      ReferenceForm R m into boxed (.array element rank) Interop.objectBase
  | strings {t : TypeId} {d : TypeDecl} (declared : R.source.types[t]? = some d)
      (named : d.fullName = Corlib.stringName) :
      ReferenceForm R m into boxed (.array (.named t) 1) Interop.stringArray
  | array {element : Signature} {e : Target.External} {projected : Target.Signature}
      (library : e.library = .support)
      (yields : R.Yields m (R.project into boxed element) projected) :
      ReferenceForm R m into boxed (.array element 1) (.inst (.external e) [projected])
  | byRef {target : Signature} {projected : Target.Signature}
      (yields : R.Yields m (R.project into boxed target) projected) :
      ReferenceForm R m into boxed (.byRef target) (.byRef projected)
  | pointer {target : Signature} {projected : Target.Signature}
      (yields : R.Yields m (R.project into boxed target) projected) :
      ReferenceForm R m into boxed (.pointer target) (.pointer projected)
  | inst {generic : TypeId} {args : List Signature} {head : Target.Signature}
      {projected : List Target.Signature} {c : TypeBindingId} {k : LayoutClass}
      (bound : R.binding? generic = some c) (form : HeadForm R m into boxed generic args c k head)
      (yields : R.Yields m (R.projectAll into boxed args) projected) :
      ReferenceForm R m into boxed (.inst generic args) (.inst head projected)
  | param {owner : Source.Owner} {target : Target.Owner} {position : Nat}
      (yields : R.Yields m (R.projectOwner into boxed owner) target) :
      ReferenceForm R m into boxed (.param owner position) (.param target position)

theorem isString_eq_ok {s : Signature} (found : R.isString s = .ok true) :
    ∃ t d, s = .named t ∧ R.source.types[t]? = some d ∧ d.fullName = Corlib.stringName := by
  cases s with
  | named t =>
      rcases except_bind_eq_ok_iff.1 found with ⟨name, named, isString⟩
      rcases fullName_eq_ok named with ⟨d, declared, rfl⟩
      exact ⟨t, d, rfl, declared, of_decide_eq_true (Except.ok.inj isString)⟩
  | _ => cases found

/-- An array of one dimension that is none of strings is wrapped around the form of its element. -/
theorem Yields.project_array {element : Signature} {rank : Nat}
    (yields : R.Yields m (R.project into boxed (.array element rank)) r) :
    rank ≠ 1 ∧ r = Interop.objectBase ∨
      rank = 1 ∧ R.isString element = .ok true ∧ r = Interop.stringArray ∨
      rank = 1 ∧ R.isString element = .ok false ∧ ∃ projected array,
        R.Yields m (R.project into boxed element) projected ∧
          R.arrayFor element projected = .ok array ∧ r = .inst array [projected] := by
  rw [Registry.project] at yields
  split at yields
  · next other => exact .inl ⟨other, yields.pure.symm⟩
  · next one =>
    have one : rank = 1 := by simpa using one
    rcases yields.bind_lift with ⟨isString, found, yields⟩
    cases isString with
    | true => exact .inr (.inl ⟨one, found, yields.pure.symm⟩)
    | false =>
        rcases yields.bind ((settled_undisturbed R m).project element) with
          ⟨projected, yieldsElement, yields⟩
        rcases yields.bind_lift with ⟨array, wrapped, yields⟩
        exact .inr (.inr ⟨one, found, projected, array, yieldsElement, wrapped, yields.pure.symm⟩)

/-- Every form that a reference has comes from one of the rules. -/
theorem Yields.referenceForm {s : Signature} (yields : R.Yields m (R.project into boxed s) r) :
    ReferenceForm R m into boxed s r := by
  cases s with
  | named t =>
      rcases yields.project_named.projectNamed with ⟨d, declared, form⟩
      exact .named declared form
  | unresolved name =>
      rw [Registry.project] at yields
      exact yields.pure ▸ .unresolved name
  | array element rank =>
      rcases yields.project_array with ⟨other, rfl⟩ | ⟨rfl, isString, rfl⟩ |
        ⟨rfl, -, projected, array, yieldsElement, wrapped, rfl⟩
      · exact .otherRank other
      · rcases isString_eq_ok isString with ⟨t, d, rfl, declared, named⟩
        exact .strings declared named
      · rcases arrayFor_eq_ok wrapped with ⟨e, rfl, library⟩
        exact .array library yieldsElement
  | byRef target =>
      rcases yields.project_byRef with ⟨projected, rfl, yieldsTarget⟩
      exact .byRef yieldsTarget
  | pointer target =>
      rcases yields.project_pointer with ⟨projected, rfl, yieldsTarget⟩
      exact .pointer yieldsTarget
  | inst generic args =>
      rcases yields.project_inst with ⟨head, projected, rfl, yieldsHead, yieldsArgs⟩
      rcases yieldsHead.projectHead with ⟨c, k, bound, -, form⟩
      exact .inst bound form yieldsArgs
  | param owner position =>
      rcases yields.project_param with ⟨target, rfl, yieldsOwner⟩
      exact .param yieldsOwner

theorem Yields.projectOption {s : Option Signature}
    (yields : R.Yields m (R.projectOption into boxed s) r) :
    r = Interop.objectBase ∨ ∃ s', s = some s' ∧ R.Yields m (R.project into boxed s') r := by
  cases s with
  | none => exact .inl yields.pure.symm
  | some s => exact .inr ⟨s, rfl, yields⟩

end Registry

end TypeProjection
