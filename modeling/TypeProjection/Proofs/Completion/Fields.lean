import TypeProjection.Proofs.Completion.Marks
import TypeProjection.Proofs.Layout.Backed

/-!
# Proofs.Completion.Fields — the fields of blittable structs keep an unmanaged form

The classifier skips arguments that a generic type keeps behind pointers only, and late boxing asks
for all of them. This module says where the two agree about a field of a blittable struct, and where
they do not:

* `Obstructed`             : an argument that the classifier skips is not known to be unmanaged;
* `obstructed_of_unproven` : nothing else keeps a field from being known to be unmanaged;
* `LateBoxed`              : the form of an application that had to be boxed;
* `fields_of_complete`     : after a completion, only obstructed fields have forms that are boxed.
-/

namespace TypeProjection

namespace Completion

open Layout (Memo Settled HasClass FieldDerivable Backed)
open Source (Signature TypeDecl TypeId)

variable {R : Registry} {m : Memo} {into : Target.ModuleId} {W W' : Workspace} {counts : Summary}
  {t : TypeId} {d : TypeDecl} {position : Nat} {s : Signature} {r : Target.Signature}

/-! ## Obstructed fields -/

/-- Down the arguments that the classifier looks at there is one that it skips and that is not known
to be unmanaged, or a parameter of a type that was bound to something else first. -/
inductive Obstructed (R : Registry) (m : Memo) (into : Target.ModuleId) : Signature → Prop
  | param {t : TypeId} {position : Nat} {c : TypeBindingId} {k : LayoutClass}
      (bound : R.binding? t = some c) (has : HasClass R m c k)
      (notBlittable : k.isBlittable = false) : Obstructed R m into (.param (.type t) position)
  | skipped {generic : TypeId} {args : List Signature} {d : TypeDecl} {position : Nat}
      {arg : Signature} (declared : R.source.types[generic]? = some d)
      (found : args[position]? = some arg) (notEmbedded : d.embeds generic position = false)
      (unproven : R.Yields m (R.provenUnmanaged into false arg) false) :
      Obstructed R m into (.inst generic args)
  | embedded {generic : TypeId} {args : List Signature} {d : TypeDecl} {position : Nat}
      {arg : Signature} (declared : R.source.types[generic]? = some d)
      (found : args[position]? = some arg) (embedded : d.embeds generic position)
      (obstructed : Obstructed R m into arg) : Obstructed R m into (.inst generic args)

/-- A parameter goes to one that is marked exactly if its owner is blittable. -/
theorem Filled.isMarked_of_param (filled : Filled R m) (declared : R.source.types[t]? = some d)
    (inRange : position < d.params.length) {owner : Target.Owner}
    (yields : R.Yields m (R.projectOwner into false (.type t)) owner) :
    ∃ c k, R.binding? t = some c ∧ HasClass R m c k ∧
      R.target.isMarked owner position = some k.isBlittable := by
  rcases yields.projectOwner_type with ⟨c, u, bound, target, rfl⟩
  rcases filled.coherent.binding?_source bound with ⟨b, d', found, source, declared'⟩
  cases declared.symm.trans declared'
  obtain ⟨D, foundTarget, b', t', d', k, found', source', declared', has, params, -⟩ :=
    filled.shaped c b t found source
  cases found.symm.trans found'
  cases source.symm.trans source'
  cases declared.symm.trans declared'
  refine ⟨c, k, bound, has, ?_⟩
  cases Registry.targetOf_false_eq_ok target found
  -- The completed parameters are marked as the class asks, and this one is among them.
  have marked (p : Source.TypeParam) : (completedParam k.isBlittable p).unmanaged =
      k.isBlittable := by
    cases blittable : k.isBlittable with
    | true => rfl
    | false => rfl
  simp [Target.Catalog.isMarked, Target.Catalog.params, foundTarget, params, inRange, marked]

/-- A field with a reason to be blittable that is not known to be unmanaged is obstructed. -/
theorem Filled.obstructed_of_unproven (filled : Filled R m)
    (declared : R.source.types[t]? = some d)
    (within : s.paramsWithin (Source.Catalog.ownParams t d)) (reason : FieldDerivable R m s)
    (unproven : R.Yields m (R.provenUnmanaged into false s) false) : Obstructed R m into s := by
  -- A type with a blittable class answers otherwise.
  have isBlittable {t : TypeId} {c : TypeBindingId} {k : LayoutClass}
      (bound : R.binding? t = some c) (reason : Layout.BindingDerivable R m c k) :
      ¬ R.Yields m (R.isBlittable t) false := by
    intro unproven
    rcases unproven.isBlittable with ⟨c', k', bound', has, notBlittable⟩
    cases bound.symm.trans bound'
    cases has.unique reason.hasClass
    simp [reason.isBlittable] at notBlittable
  induction s with
  | param owner position =>
      obtain ⟨rfl, inRange⟩ : owner = .type t ∧ position < d.params.length := by
        simpa [Signature.paramsWithin, Source.Catalog.ownParams] using within
      rcases unproven.provenUnmanaged_param with ⟨target, yieldsOwner, unmarked⟩
      rcases filled.isMarked_of_param declared inRange yieldsOwner with ⟨c, k, bound, has, marked⟩
      have notBlittable : k.isBlittable = false := Option.some.inj (marked.symm.trans unmarked)
      exact .param bound has notBlittable
  | pointer target =>
      rw [Registry.provenUnmanaged] at unproven
      cases unproven.pure
  | named t' =>
      rw [Registry.provenUnmanaged] at unproven
      cases reason with
      | named _ _ bound reason => exact absurd unproven (isBlittable bound reason)
  | inst generic args ih =>
      cases reason with
      | @inst _ _ d' _ _ declaredHead bound reason reasons =>
          have unprovenArg := unproven.not_provenUnmanaged_inst.resolve_right
            (isBlittable bound reason)
          rcases unprovenArg with ⟨arg, mem, unprovenArg⟩
          rcases List.getElem?_of_mem mem with ⟨position, found⟩
          have withinArg := Signature.allParamsWithin_iff.1 within arg mem
          -- Of the arguments that are looked at, it is one with a reason.
          by_cases embedded : d'.embeds generic position
          · have reasonArg := reasons position arg found embedded
            exact .embedded declaredHead found embedded (ih arg mem withinArg reasonArg unprovenArg)
          · exact .skipped declaredHead found (by simpa using embedded) unprovenArg
  | _ => cases reason

/-! ## Forms of fields -/

/-- A reference applies a generically blittable type to arguments that are not all known to be
unmanaged, so that its form applies the type of the counterpart. -/
def LateBoxed (R : Registry) (m : Memo) (into : Target.ModuleId) (s : Signature)
    (r : Target.Signature) : Prop :=
  ∃ generic args c u projected, s = .inst generic args ∧ R.binding? generic = some c ∧
    HasClass R m c .genericBlittable ∧ R.Yields m (R.provenUnmanaged into false s) false ∧
    R.counterpartOf generic c = .ok u ∧ r = .inst (.defined u) projected

/-- A field with a reason to be blittable has an unmanaged form, unless it is obstructed: then it is
boxed late, or a parameter. -/
theorem Filled.isUnmanaged_or_obstructed (filled : Filled R m)
    (declared : R.source.types[t]? = some d)
    (within : s.paramsWithin (Source.Catalog.ownParams t d)) (reason : FieldDerivable R m s)
    (yields : R.Yields m (R.project into false s) r) :
    R.target.isUnmanaged r ∨
      Obstructed R m into s ∧
        (LateBoxed R m into s r ∨ ∃ position, s = .param (.type t) position) := by
  cases reason with
  | param owner position =>
      obtain ⟨rfl, inRange⟩ : owner = .type t ∧ position < d.params.length := by
        simpa [Signature.paramsWithin, Source.Catalog.ownParams] using within
      rcases yields.project_param with ⟨target, rfl, yieldsOwner⟩
      rcases filled.isMarked_of_param declared inRange yieldsOwner with ⟨c, k, bound, has, marked⟩
      cases blittable : k.isBlittable with
      | true =>
          rw [blittable] at marked
          exact .inl (by simpa [Target.Catalog.isUnmanaged] using marked)
      | false => exact .inr ⟨.param bound has blittable, .inr ⟨position, rfl⟩⟩
  | pointer target =>
      rcases yields.project_pointer with ⟨projected, rfl, -⟩
      exact .inl rfl
  | named _ _ bound reason =>
      have isValueType :=
        filled.isValueType_of_projectNamed bound reason.hasClass rfl yields.project_named
      exact .inl (Target.Catalog.isUnmanaged_of_isValueType isValueType)
  | @inst generic args _ _ _ declaredHead bound reason reasons =>
      rcases yields.project_inst with ⟨head, projected, rfl, yieldsHead, -⟩
      rcases yieldsHead.projectHead with ⟨c, k, bound', has, form⟩
      cases bound.symm.trans bound'
      cases reason.hasClass.unique has
      -- Where the type itself is applied, the application is a value type like it.
      have plain : ∀ {head}, R.Yields m (R.projectNamed into false generic) head →
          R.target.isUnmanaged (.inst head projected) := by
        intro head named
        refine Target.Catalog.isUnmanaged_of_isValueType ?_
        rw [Target.Catalog.isValueType]
        exact filled.isValueType_of_projectNamed bound has reason.isBlittable named
      cases form with
      | plain _ named => exact .inl (plain named)
      | proven _ _ named => exact .inl (plain named)
      | lateBoxed isGeneric unproven target =>
          have obstructed := filled.obstructed_of_unproven declared within
            (.inst declaredHead bound reason reasons) unproven
          exact .inr ⟨obstructed, .inl
            ⟨_, _, _, _, projected, rfl, bound, isGeneric ▸ has, unproven, target, rfl⟩⟩

/-- After a completion that succeeds, the fields of a blittable struct have unmanaged forms, except
for obstructed ones, which are boxed late or are parameters. -/
theorem fields_of_complete (reachable : W.Reachable) (once : W.registry.TargetsBoundOnce)
    (skeleton : W.registry.target.IsSkeleton) (linked : W.registry.GenericsLinked W.notes.classes)
    (rootless : W.registry.source.RootsAreNoStructs) (owns : W.registry.source.OwnsFieldParams)
    (assemblies : W.registry.AssembliesBoundOnce) (run : complete.run W = (.ok counts, W'))
    (qs : List Question) {c : TypeBindingId} {b : TypeBinding} {k : LayoutClass}
    {notes notes' : Ledger} {field : Source.Field} (bound : W'.registry.types[c]? = some b)
    (source : b.source = some t) (declared : W'.registry.source.types[t]? = some d)
    (classified :
      (W'.registry.classOf c).run (W'.registry.notesAfter W'.notes qs) = (.ok k, notes))
    (isBlittable : k.isBlittable) (notPrimitive : Corlib.isPrimitive d.fullName = false)
    (mem : field ∈ d.instanceFields)
    (answered : (W'.registry.project into false field.type).run
      (W'.registry.notesAfter W'.notes qs) = (.ok r, notes')) :
    W'.registry.target.isUnmanaged r ∨
      Obstructed W'.registry W.notes.classes into field.type ∧
        (LateBoxed W'.registry W.notes.classes into field.type r ∨
          ∃ position, field.type = .param (.type t) position) := by
  have ready := ready_of_reachable reachable once rootless linked
  have basing := basing_complete ready skeleton run
  have settled := Registry.settled_notesAfter basing.settled qs
  have has := Registry.hasClass_of_classOf settled classified
  rcases basing.registry with ⟨target, eq⟩
  -- The reasons are those from before the completion, which changes the output catalog only.
  have backed : Backed W'.registry W.notes.classes c := by
    rw [eq] at has ⊢
    have has := Layout.hasClass_withTarget_iff.1 has
    have before := Layout.backed_of_reachable reachable assemblies has isBlittable
    exact before.grows (.withTarget _ _)
  rcases backed with ⟨b', t', d', bound', -, source', declared', reasons⟩
  cases bound.symm.trans bound'
  cases source.symm.trans source'
  cases declared.symm.trans declared'
  have owns' : W'.registry.source.OwnsFieldParams := eq ▸ owns
  have within := owns' t d declared field (List.mem_filter.1 mem).1
  exact basing.filled.isUnmanaged_or_obstructed declared within (reasons notPrimitive field mem)
    ⟨_, notes', settled, answered⟩

/-- In the sample program, the list that a node holds has an unmanaged form, for nodes are
blittable. -/
theorem fields_of_complete_node :
    ((complete.run Sample.workspace).2.registry.project ⟨0⟩ false (.inst ⟨3⟩ [.named ⟨4⟩])
        |>.run (complete.run Sample.workspace).2.notes).1 =
          .ok (.inst (.defined ⟨3⟩) [.defined ⟨4⟩]) ∧
      (complete.run Sample.workspace).2.registry.target.isUnmanaged
        (.inst (.defined ⟨3⟩) [.defined ⟨4⟩]) := by
  have completed : (complete.run Sample.workspace).1 =
      .ok { params := 2, unmanagedParams := 1, valueTypeBases := 4, projectedBases := 4 } := by
    decide +kernel
  have projected : ((complete.run Sample.workspace).2.registry.project ⟨0⟩ false
      (.inst ⟨3⟩ [.named ⟨4⟩]) |>.run (complete.run Sample.workspace).2.notes).1 =
        .ok (.inst (.defined ⟨3⟩) [.defined ⟨4⟩]) := by
    decide +kernel
  have classified : ((complete.run Sample.workspace).2.registry.classOf ⟨4⟩
      |>.run (complete.run Sample.workspace).2.notes).1 = .ok .blittable := by
    decide +kernel
  have bound : (complete.run Sample.workspace).2.registry.types[(⟨4⟩ : TypeBindingId)]?.map
      (·.source) = some (some ⟨4⟩) := by
    decide +kernel
  have declared : (complete.run Sample.workspace).2.registry.source.types[(⟨4⟩ : TypeId)]?
      = some (Sample.structOf "Node" [] [.inst ⟨3⟩ [.named ⟨4⟩], .named ⟨1⟩]) := by
    decide +kernel
  rcases Option.map_eq_some_iff.1 bound with ⟨b, bound, source⟩
  have reachable : Sample.workspace.Reachable := ⟨_, _, _, _, rfl⟩
  have linked := genericsLinked_of_generic reachable (by decide +kernel)
  have mem : { name := "field", type := .inst ⟨3⟩ [.named ⟨4⟩] } ∈
      (Sample.structOf "Node" [] [.inst ⟨3⟩ [.named ⟨4⟩], .named ⟨1⟩]).instanceFields := by
    decide
  have agrees := fields_of_complete reachable (by decide +kernel) (by decide +kernel) linked
    (by decide +kernel) (by decide +kernel) (by decide +kernel) (Prod.ext completed rfl) [] bound
    source declared (Prod.ext classified rfl) rfl (by decide) mem (Prod.ext projected rfl)
  refine ⟨projected, agrees.resolve_right ?_⟩
  -- Boxed late, the field would have the form of the stand-in for lists; and it is no parameter.
  rintro ⟨-, ⟨generic, args, c, u, projected, eq, bound, -, -, counterpart, form⟩ | ⟨_, eq⟩⟩
  · cases eq
    cases form
    have list : (complete.run Sample.workspace).2.registry.binding? ⟨3⟩ = some ⟨3⟩ := by
      decide +kernel
    cases list.symm.trans bound
    have standIn : (complete.run Sample.workspace).2.registry.counterpartOf ⟨3⟩ ⟨3⟩ = .ok ⟨7⟩ := by
      decide +kernel
    cases standIn.symm.trans counterpart
  · cases eq

/-! ## Where class and form disagree -/

/-- A binding has a blittable class `k`, and an instance field of type `s` whose form `r` is not
unmanaged. -/
def Disagrees (W : Workspace) (c : TypeBindingId) (k : LayoutClass) (s : Signature)
    (r : Target.Signature) : Prop :=
  (W.registry.types[c]?.any fun b => !b.standIn &&
    (b.source.bind fun t => W.registry.source.types[t]?).any fun d =>
      d.instanceFields.any (·.type = s)) ∧
  (W.registry.classOf c |>.run W.notes).1 = .ok k ∧ k.isBlittable ∧
  (W.registry.project ⟨0⟩ false s |>.run W.notes).1 = .ok r ∧
  W.registry.target.isUnmanaged r = false

instance (W : Workspace) (c : TypeBindingId) (k : LayoutClass) (s : Signature)
    (r : Target.Signature) :
    Decidable (Disagrees W c k s r) := by
  unfold Disagrees
  infer_instance

end Completion

namespace Sample

open Source (Signature)

/-- Boxes keep what they are applied to behind a pointer, cells hold it as it is and in a box, and a
primitive holds a string. -/
def oddSource : Source.Catalog where
  assemblies := ⟨#["mscorlib", "Game"]⟩
  types := ⟨#[
    { assembly := ⟨0⟩, space := "System", name := "ValueType", form := .classType },
    { assembly := ⟨0⟩, space := "System", name := "String", form := .classType },
    { assembly := ⟨0⟩, space := "System", name := "Int32", form := .structType
      fields := [{ name := "field", type := .named ⟨1⟩ }] },
    structOf "List" ["T"] [.pointer (.param (.type ⟨3⟩) 0)],
    structOf "Names" [] [.inst ⟨3⟩ [.named ⟨1⟩]],
    structOf "Cell" ["T"] [.param (.type ⟨5⟩) 0, .inst ⟨8⟩ [.param (.type ⟨5⟩) 0]],
    { structOf "Small" [] [] with assembly := ⟨1⟩ },
    structOf "Holder" [] [.named ⟨6⟩],
    structOf "Box" ["T"] [.param (.type ⟨8⟩) 0],
    structOf "Nest" [] [.inst ⟨8⟩ [.inst ⟨3⟩ [.named ⟨1⟩]]]]⟩

def oddTarget : Target.Catalog where
  modules := ⟨#["Output"]⟩
  types := ⟨(Array.range 14).map fun i =>
    { module := ⟨0⟩, space := "Output", name := "Type" ++ toString i, arity := 0 }⟩

/-- The stand-in for cells is bound before them, and the other assembly is bound again after the
class of the holder was asked for. -/
def oddSteps : List Step :=
  [ .register (.assembly ⟨0⟩ ⟨0⟩),
    .register (.assembly ⟨1⟩ ⟨0⟩),
    .register (.type ⟨0⟩ (some ⟨0⟩) ⟨0⟩),
    .register (.type ⟨0⟩ (some ⟨1⟩) ⟨1⟩),
    .register (.type ⟨0⟩ (some ⟨2⟩) ⟨2⟩),
    .register (.type ⟨0⟩ (some ⟨3⟩) ⟨3⟩),
    .register (.standIn ⟨0⟩ (some ⟨3⟩) ⟨4⟩),
    .register (.counterpart ⟨3⟩ ⟨4⟩),
    .register (.type ⟨0⟩ (some ⟨4⟩) ⟨5⟩),
    .register (.standIn ⟨0⟩ (some ⟨5⟩) ⟨6⟩),
    .register (.type ⟨0⟩ (some ⟨5⟩) ⟨7⟩),
    .register (.counterpart ⟨7⟩ ⟨6⟩),
    .register (.type ⟨1⟩ (some ⟨6⟩) ⟨8⟩),
    .register (.type ⟨0⟩ (some ⟨7⟩) ⟨9⟩),
    .register (.type ⟨0⟩ (some ⟨8⟩) ⟨10⟩),
    .register (.standIn ⟨0⟩ (some ⟨8⟩) ⟨11⟩),
    .register (.counterpart ⟨10⟩ ⟨11⟩),
    .register (.type ⟨0⟩ (some ⟨9⟩) ⟨12⟩),
    .ask (.classOf ⟨9⟩),
    .register (.assembly ⟨1⟩ ⟨0⟩),
    .register (.standIn ⟨2⟩ (some ⟨6⟩) ⟨13⟩) ]

def oddWorkspace : Workspace := (Workspace.start "mscorlib" oddSource oddTarget).after oddSteps

end Sample

/-- Fields of blittable structs can have forms that are not unmanaged: both exceptions come up, also
down an argument that is looked at, and so do the cases that the assumptions leave out. -/
theorem Completion.fields_disagree :
    Sample.oddWorkspace.Reachable ∧ Sample.oddWorkspace.registry.TargetsBoundOnce ∧
      Sample.oddWorkspace.registry.target.IsSkeleton ∧
      Sample.oddWorkspace.registry.GenericsLinked Sample.oddWorkspace.notes.classes ∧
      Sample.oddWorkspace.registry.source.RootsAreNoStructs ∧
      Sample.oddWorkspace.registry.source.OwnsFieldParams ∧
      (complete.run Sample.oddWorkspace).1 =
        .ok { params := 6, unmanagedParams := 3, valueTypeBases := 8, projectedBases := 6 } ∧
      Disagrees (complete.run Sample.oddWorkspace).2 ⟨5⟩ .blittable (.inst ⟨3⟩ [.named ⟨1⟩])
        (.inst (.defined ⟨4⟩) [Interop.string]) ∧
      Disagrees (complete.run Sample.oddWorkspace).2 ⟨12⟩ .blittable
        (.inst ⟨8⟩ [.inst ⟨3⟩ [.named ⟨1⟩]])
        (.inst (.defined ⟨11⟩) [.inst (.defined ⟨4⟩) [Interop.string]]) ∧
      Disagrees (complete.run Sample.oddWorkspace).2 ⟨7⟩ .genericBlittable (.param (.type ⟨5⟩) 0)
        (.param (.type ⟨6⟩) 0) ∧
      Disagrees (complete.run Sample.oddWorkspace).2 ⟨7⟩ .genericBlittable
        (.inst ⟨8⟩ [.param (.type ⟨5⟩) 0])
        (.inst (.defined ⟨11⟩) [.param (.type ⟨6⟩) 0]) ∧
      Disagrees (complete.run Sample.oddWorkspace).2 ⟨2⟩ .blittable (.named ⟨1⟩) Interop.string ∧
      Disagrees (complete.run Sample.oddWorkspace).2 ⟨9⟩ .blittable (.named ⟨6⟩)
        (.defined ⟨13⟩) := by
  have reachable : Sample.oddWorkspace.Reachable := ⟨_, _, _, _, rfl⟩
  refine ⟨reachable, ?_, ?_, genericsLinked_of_generic reachable ?_, ?_, ?_, ?_, ?_, ?_, ?_, ?_, ?_,
    ?_⟩
  all_goals decide +kernel

end TypeProjection
