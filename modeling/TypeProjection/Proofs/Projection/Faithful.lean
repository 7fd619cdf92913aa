import TypeProjection.Proofs.Run.Stable
import TypeProjection.Proofs.Projection.Form

/-!
# Proofs.Projection.Faithful — different references have different forms

Projecting keeps the identity of types: where the reference form is not asked for, a form in the
output can be read back into the one reference that has it. This module shows

* `Signature.isRepresentable` : references that have a form of their own;
* `Denotes` : the source type that a form of a declared type stands for, which is unique;
* `project_faithful` : two representable references with the same form are the same.
-/

namespace TypeProjection

open Layout (Memo HasClass)
open Source (TypeId TypeDecl)

/-! ## References with a form of their own -/

namespace Source.Signature

mutual

/-- Whether a reference has a form of its own: nothing in it is unresolved, and all arrays in it
have one dimension. -/
def isRepresentable : Signature → Bool
  | .named _ => true
  | .unresolved _ => false
  | .array element rank => rank = 1 && element.isRepresentable
  | .byRef target => target.isRepresentable
  | .pointer target => target.isRepresentable
  | .inst _ args => allRepresentable args
  | .param _ _ => true

def allRepresentable : List Signature → Bool
  | [] => true
  | s :: rest => s.isRepresentable && allRepresentable rest

end

theorem allRepresentable_iff {args : List Signature} :
    allRepresentable args ↔ ∀ arg ∈ args, arg.isRepresentable := by
  induction args with
  | nil => simp [allRepresentable]
  | cons arg args ih => simp [allRepresentable, ih]

end Source.Signature

/-! ## Registries that keep types apart -/

/-- No two source types have the same full name, if that is one with a meaning of its own. -/
def Source.Catalog.SpecialNamesOnce (C : Source.Catalog) : Prop :=
  ∀ (t : TypeId) (d : TypeDecl), C.types[t]? = some d →
    ∀ (t' : TypeId) (d' : TypeDecl), C.types[t']? = some d' →
    d.fullName = d'.fullName → Corlib.treatment d.fullName ≠ .bound → t = t'

instance (C : Source.Catalog) : Decidable C.SpecialNamesOnce := by
  unfold Source.Catalog.SpecialNamesOnce
  infer_instance

namespace Registry

/-- No output method stands for two source methods. -/
def MethodsBoundOnce (R : Registry) : Prop :=
  ∀ (c : TypeBindingId) (b : TypeBinding), R.types[c]? = some b →
    ∀ (c' : TypeBindingId) (b' : TypeBinding), R.types[c']? = some b' →
      ∀ (m m' : Source.MethodId) (u : Target.MethodId),
        b.methods[m]? = some u → b'.methods[m']? = some u → m = m'

/-- A counterpart is the binding itself, or a stand-in for the same source type. -/
def CounterpartsShareSource (R : Registry) : Prop :=
  ∀ (c : TypeBindingId) (b : TypeBinding), R.types[c]? = some b → ∀ e ∈ b.counterpart,
    e = c ∨ ∃ standIn ∈ R.types[e]?, standIn.standIn ∧ standIn.source = b.source

/-- What is found for objects, or for attributes, is a binding for a source type of that name. -/
def RootsBound (R : Registry) : Prop :=
  ∀ name ∈ [Corlib.objectName, Corlib.attributeName], ∀ c, R.corlibBinding name = .ok c →
    ∃ b ∈ R.types[c]?, ∃ t ∈ b.source, ∃ d ∈ R.source.types[t]?, d.fullName = name

instance (R : Registry) : Decidable R.MethodsBoundOnce :=
  decidable_of_iff (∀ (c : TypeBindingId) (b : TypeBinding), R.types[c]? = some b →
      ∀ (c' : TypeBindingId) (b' : TypeBinding), R.types[c']? = some b' →
        ∀ entry ∈ b.methods.toList, ∀ entry' ∈ b'.methods.toList, entry.2 = entry'.2 →
          entry.1 = entry'.1) <| by
    simp only [MethodsBoundOnce, Prod.forall, Std.TreeMap.mem_toList_iff_getElem?_eq_some]
    constructor
    · intro once c b bound c' b' bound' m m' u known known'
      exact once c b bound c' b' bound' m u known m' u known' rfl
    · intro once c b bound c' b' bound' m u known m' u' known' same
      subst same
      exact once c b bound c' b' bound' m m' u known known'

instance (R : Registry) : Decidable R.CounterpartsShareSource := by
  unfold CounterpartsShareSource
  infer_instance

instance (R : Registry) : Decidable R.RootsBound := by
  unfold RootsBound
  infer_instance

/-- The bindings tell source types and source methods apart by what stands for them. -/
structure KeepsApart (R : Registry) : Prop where
  once : R.TargetsBoundOnce
  methods : R.MethodsBoundOnce
  counterparts : R.CounterpartsShareSource
  names : R.source.SpecialNamesOnce
  roots : R.RootsBound

instance (R : Registry) : Decidable R.KeepsApart :=
  decidable_of_iff (R.TargetsBoundOnce ∧ R.MethodsBoundOnce ∧ R.CounterpartsShareSource ∧
      R.source.SpecialNamesOnce ∧ R.RootsBound)
    ⟨fun ⟨once, methods, counterparts, names, roots⟩ => ⟨once, methods, counterparts, names, roots⟩,
      fun apart => ⟨apart.once, apart.methods, apart.counterparts, apart.names, apart.roots⟩⟩

variable {R : Registry} {m : Memo} {into : Target.ModuleId} {boxed : Bool} {t t' : TypeId}
  {r : Target.Signature} {u : Target.TypeId}

/-! ## What a form stands for -/

/-- An output type is bound to a source type. -/
def StandsFor (R : Registry) (u : Target.TypeId) (t : TypeId) : Prop :=
  ∃ (c : TypeBindingId) (b : TypeBinding), R.types[c]? = some b ∧ b.target = u ∧ b.source = some t

/-- A form of a declared type stands for a source type: it is an output type that is bound to it, or
the library type of its name, which then has a meaning of its own. -/
inductive Denotes (R : Registry) : Target.Signature → TypeId → Prop
  | defined {u : Target.TypeId} {t : TypeId} (stands : R.StandsFor u t) : Denotes R (.defined u) t
  | external {e : Target.External} {t : TypeId} {d : TypeDecl} (library : e.library = .corlib)
      (declared : R.source.types[t]? = some d) (named : e.fullName = d.fullName)
      (special : Corlib.treatment d.fullName ≠ .bound) : Denotes R (.external e) t

theorem StandsFor.unique (once : R.TargetsBoundOnce) (stands : R.StandsFor u t)
    (other : R.StandsFor u t') :
    t = t' := by
  rcases stands with ⟨c, b, bound, target, source⟩
  rcases other with ⟨c', b', bound', target', source'⟩
  have same : c = c' := once c b bound c' b' bound' (target.trans target'.symm)
  subst same
  cases bound.symm.trans bound'
  exact Option.some.inj (source.symm.trans source')

theorem Denotes.unique (apart : R.KeepsApart) (denotes : R.Denotes r t)
    (other : R.Denotes r t') : t = t' := by
  cases denotes with
  | defined stands =>
      cases other with
      | defined stands' => exact stands.unique apart.once stands'
  | external _ declared named special =>
      cases other with
      | external _ declared' named' _ =>
          exact apart.names t _ declared t' _ declared' (named.symm.trans named') special

theorem standsFor_of_binding (coherent : R.Coherent) {c : TypeBindingId}
    (bound : R.binding? t = some c) (target : R.targetOf false c = .ok u) : R.StandsFor u t := by
  rcases coherent.binding?_source bound with ⟨b, -, found, source, -⟩
  exact ⟨c, b, found, targetOf_false_eq_ok target found, source⟩

/-- The form of a declared type stands for that type. -/
theorem NamedForm.denotes {d : TypeDecl} (coherent : R.Coherent) (apart : R.KeepsApart)
    (declared : R.source.types[t]? = some d) (form : NamedForm R false t d r) : R.Denotes r t := by
  cases form with
  | verbatim treated => exact .external rfl declared rfl (by simp [treated])
  | void treated =>
      exact .external rfl declared (Corlib.eq_of_treatment_void treated).symm (by simp [treated])
  | string treated =>
      exact .external rfl declared (Corlib.eq_of_treatment_string treated).symm (by simp [treated])
  | root treated bound target =>
      have root : d.fullName ∈ [Corlib.objectName, Corlib.attributeName] := by
        simpa using Corlib.eq_of_treatment_root treated
      rcases apart.roots d.fullName root _ bound with ⟨b, found, t', source, d', declared', named⟩
      -- Only one source type has the name.
      have same : t' = t :=
        apart.names t' d' declared' t d declared named (by simp [named, treated])
      exact .defined ⟨_, b, found, targetOf_false_eq_ok target found, same ▸ source⟩
  | bound _ bound target => exact .defined (standsFor_of_binding coherent bound target)

/-- What an application applies stands for the generic type, also where it is boxed late. -/
theorem HeadForm.denotes {generic : TypeId} {args : List Source.Signature} {c : TypeBindingId}
    {k : LayoutClass} (coherent : R.Coherent) (apart : R.KeepsApart)
    (bound : R.binding? generic = some c) (form : HeadForm R m into false generic args c k r) :
    R.Denotes r generic := by
  have ofNamed : R.Yields m (R.projectNamed into false generic) r → R.Denotes r generic := by
    intro yields
    rcases yields.projectNamed with ⟨d, declared, form⟩
    exact form.denotes coherent apart declared
  cases form with
  | plain _ named => exact ofNamed named
  | proven _ _ named => exact ofNamed named
  | lateBoxed _ _ target =>
      rcases counterpartOf_eq_ok target with ⟨b, e, standIn, found, counterpart, found', rfl⟩
      rcases coherent.binding?_source bound with ⟨b', -, found'', source, -⟩
      cases found.symm.trans found''
      have shared : standIn.source = b.source := by
        rcases apart.counterparts c b found e counterpart with rfl | ⟨standIn', bound', -, shared⟩
        · cases found.symm.trans found'
          rfl
        · cases found'.symm.trans bound'
          exact shared
      exact .defined ⟨e, standIn, found', rfl, shared.trans source⟩

/-- An owner in the output is the form of one owner in the source. -/
theorem Yields.projectOwner_unique (coherent : R.Coherent) (apart : R.KeepsApart)
    {owner owner' : Source.Owner} {target : Target.Owner}
    (yields : R.Yields m (R.projectOwner into false owner) target)
    (other : R.Yields m (R.projectOwner into false owner') target) : owner = owner' := by
  have undisturbed := settled_undisturbed R m
  cases owner with
  | type t =>
      rcases yields.projectOwner_type with ⟨c, u, bound, found, rfl⟩
      cases owner' with
      | type t' =>
          rcases other.projectOwner_type with ⟨c', u', bound', found', eq⟩
          cases eq
          have stands := standsFor_of_binding coherent bound found
          exact congrArg _ (stands.unique apart.once (standsFor_of_binding coherent bound' found'))
      | method method' =>
          rcases other.bind (undisturbed.projectMethod method') with ⟨_, -, other⟩
          cases other.pure
  | method method =>
      rcases yields.bind (undisturbed.projectMethod method) with ⟨found, yieldsMethod, yields⟩
      cases yields.pure
      cases owner' with
      | type t' =>
          rcases other.projectOwner_type with ⟨_, _, -, -, eq⟩
          cases eq
      | method method' =>
          rcases other.bind (undisturbed.projectMethod method') with ⟨found', yieldsMethod', other⟩
          have same : found'.2 = found.2 := by simpa using other.pure
          rcases yieldsMethod.projectMethod with ⟨c, b, bound, known⟩
          rcases yieldsMethod'.projectMethod with ⟨c', b', bound', known'⟩
          exact congrArg _
            (apart.methods c b bound c' b' bound' method method' _ known (same ▸ known'))

/-! ## Reading a form back -/

/-- Arguments are the same if their forms are and each of the first ones is told from all others by
its form. -/
theorem eq_of_projectAll {args args' : List Source.Signature} {projected : List Target.Signature}
    (injective : ∀ arg ∈ args, ∀ (arg' : Source.Signature) (r : Target.Signature), arg' ∈ args' →
      R.Yields m (R.project into false arg) r →
        R.Yields m (R.project into false arg') r → arg = arg')
    (yields : R.Yields m (R.projectAll into false args) projected)
    (other : R.Yields m (R.projectAll into false args') projected) : args = args' := by
  rcases yields.projectAll with ⟨length, each⟩
  rcases other.projectAll with ⟨length', each'⟩
  apply List.ext_getElem (length.symm.trans length')
  intro i inRange inRange'
  have found : projected[i]? = some projected[i] := List.getElem?_eq_getElem (length ▸ inRange)
  rcases each i _ found with ⟨arg, at_, yieldsArg⟩
  rcases each' i _ found with ⟨arg', at', yieldsArg'⟩
  have same : arg = arg' :=
    injective arg (List.mem_of_getElem? at_) arg' _ (List.mem_of_getElem? at') yieldsArg yieldsArg'
  rw [List.getElem_of_getElem? at_ |>.2, List.getElem_of_getElem? at' |>.2, same]

/-- A representable reference that goes to a library type is a declared type or an array of
strings. -/
theorem ReferenceForm.of_external {s : Source.Signature} {e : Target.External}
    (form : ReferenceForm R m into boxed s (.external e)) (representable : s.isRepresentable) :
    (∃ t d, s = .named t ∧ R.source.types[t]? = some d ∧ NamedForm R boxed t d (.external e)) ∨
      ∃ t d, s = .array (.named t) 1 ∧ R.source.types[t]? = some d ∧
        d.fullName = Corlib.stringName ∧ e.library = .support := by
  cases form with
  | named declared form => exact .inl ⟨_, _, rfl, declared, form⟩
  | unresolved name => cases representable
  | otherRank different => simp [Source.Signature.isRepresentable, different] at representable
  | strings declared named => exact .inr ⟨_, _, rfl, declared, named, rfl⟩

/-- Two references with a form of their own are the same if they have the same one. -/
theorem Yields.project_unique (coherent : R.Coherent) (apart : R.KeepsApart)
    {s s' : Source.Signature} (representable : s.isRepresentable)
    (representable' : s'.isRepresentable) (yields : R.Yields m (R.project into false s) r)
    (other : R.Yields m (R.project into false s') r) : s = s' := by
  -- The rule for the first reference fixes the shape of the form, and that leaves few rules for the
  -- second.
  induction s generalizing s' r with
  | named t =>
      cases yields.referenceForm with
      | named declared form =>
        have denotes : R.Denotes r t := form.denotes coherent apart declared
        have named : ∀ {t' d'}, R.source.types[t']? = some d' → NamedForm R false t' d' r →
            Source.Signature.named t = .named t' := fun declared' form' =>
          congrArg _ (denotes.unique apart (form'.denotes coherent apart declared'))
        cases denotes with
        | defined stands =>
            cases other.referenceForm with
            | named declared' form' => exact named declared' form'
        | external library =>
            rcases other.referenceForm.of_external representable' with
              ⟨t', d', rfl, declared', form'⟩ | ⟨t', d', -, -, -, library'⟩
            · exact named declared' form'
            · cases library.symm.trans library'
  | unresolved name => cases representable
  | array element rank ih =>
      cases yields.referenceForm with
      | otherRank different => simp [Source.Signature.isRepresentable, different] at representable
      | strings declared named =>
          rcases other.referenceForm.of_external representable' with
            ⟨t', d', rfl, declared', form'⟩ | ⟨t', d', rfl, declared', named', -⟩
          · nomatch form'.denotes coherent apart declared'
          · -- Strings have a name of their own, so that there is only one type of it.
            have special : Corlib.treatment Corlib.stringName ≠ .bound := by decide
            rw [apart.names _ _ declared t' d' declared' (named.trans named'.symm)
              (named ▸ special)]
      | array library yieldsElement =>
        cases other.referenceForm with
        | named declared' form' => nomatch form'.denotes coherent apart declared'
        | array library' yieldsElement' =>
            simp only [Source.Signature.isRepresentable, decide_true, Bool.true_and]
              at representable representable'
            rw [ih representable representable' yieldsElement yieldsElement']
        | inst bound form _ =>
            cases form.denotes coherent apart bound with
            | external library' => cases library.symm.trans library'
  | byRef target ih =>
      cases yields.referenceForm with
      | byRef yieldsTarget =>
        cases other.referenceForm with
        | named declared' form' => nomatch form'.denotes coherent apart declared'
        | byRef yieldsTarget' =>
            exact congrArg _ (ih representable representable' yieldsTarget yieldsTarget')
  | pointer target ih =>
      cases yields.referenceForm with
      | pointer yieldsTarget =>
        cases other.referenceForm with
        | named declared' form' => nomatch form'.denotes coherent apart declared'
        | pointer yieldsTarget' =>
            exact congrArg _ (ih representable representable' yieldsTarget yieldsTarget')
  | inst generic args ih =>
      cases yields.referenceForm with
      | inst bound form yieldsArgs =>
        have denotes := form.denotes coherent apart bound
        cases other.referenceForm with
        | named declared' form' => nomatch form'.denotes coherent apart declared'
        | array library' _ =>
            cases denotes with
            | external library => cases library.symm.trans library'
        | inst bound' form' yieldsArgs' =>
            rw [Source.Signature.isRepresentable, Source.Signature.allRepresentable_iff]
              at representable representable'
            have sameArgs := eq_of_projectAll (fun arg mem arg' r mem' first second =>
              ih arg mem (representable arg mem) (representable' arg' mem') first second)
                yieldsArgs yieldsArgs'
            rw [denotes.unique apart (form'.denotes coherent apart bound'), sameArgs]
  | param owner position =>
      cases yields.referenceForm with
      | param yieldsOwner =>
        cases other.referenceForm with
        | named declared' form' => nomatch form'.denotes coherent apart declared'
        | param yieldsOwner' => rw [yieldsOwner.projectOwner_unique coherent apart yieldsOwner']

end Registry

/-- In a reachable workspace whose bindings keep types apart, two references with a form of their
own that have the same one are the same, whatever was asked before. -/
theorem Workspace.project_faithful {W : Workspace} (reachable : W.Reachable)
    (apart : W.registry.KeepsApart) {s s' : Source.Signature} (representable : s.isRepresentable)
    (representable' : s'.isRepresentable) (qs qs' : List Question) {into : Target.ModuleId}
    {r : Target.Signature} {notes notes' : Ledger}
    (run : (W.registry.project into false s).run (W.registry.notesAfter W.notes qs) =
      (.ok r, notes))
    (run' : (W.registry.project into false s').run (W.registry.notesAfter W.notes qs') =
      (.ok r, notes')) :
    s = s' := by
  have settled := fun qs => Registry.settled_notesAfter (.refl W.registry W.notes.classes) qs
  have yields : W.registry.Yields W.notes.classes (W.registry.project into false s) r :=
    ⟨_, notes, settled qs, run⟩
  have yields' : W.registry.Yields W.notes.classes (W.registry.project into false s') r :=
    ⟨_, notes', settled qs', run'⟩
  exact yields.project_unique reachable.coherent apart representable representable' yields'

/-! ## A program of two assemblies -/

namespace Sample

/-- Lists hold what they point to, bags are classes, and a palette and a register of names extend
bags. -/
def shopSource : Source.Catalog where
  assemblies := ⟨#["mscorlib", "Shop"]⟩
  types := ⟨#[
    { assembly := ⟨0⟩, space := "System", name := "Object", form := .classType },
    { assembly := ⟨0⟩, space := "System", name := "ValueType", form := .classType,
      base := some (.named ⟨0⟩) },
    { assembly := ⟨0⟩, space := "System", name := "Int32", form := .structType,
      base := some (.named ⟨1⟩) },
    { assembly := ⟨0⟩, space := "System", name := "String", form := .classType,
      base := some (.named ⟨0⟩) },
    { assembly := ⟨0⟩, space := "System", name := "Enum", form := .classType,
      base := some (.named ⟨1⟩) },
    { assembly := ⟨1⟩, space := "Shop", name := "List", form := .structType,
      base := some (.named ⟨1⟩)
      params := [{ name := "T" }]
      fields := [{ name := "first", type := .pointer (.param (.type ⟨5⟩) 0) },
        { name := "size", type := .named ⟨2⟩ }] },
    { assembly := ⟨1⟩, space := "Shop", name := "Color", form := .enumType,
      base := some (.named ⟨4⟩) },
    { assembly := ⟨1⟩, space := "Shop", name := "Bag", form := .classType, base := some (.named ⟨0⟩)
      params := [{ name := "T" }]
      methods := [⟨0⟩] },
    { assembly := ⟨1⟩, space := "Shop", name := "Palette", form := .classType
      base := some (.inst ⟨7⟩ [.array (.named ⟨6⟩) 1]) },
    { assembly := ⟨1⟩, space := "Shop", name := "Register", form := .classType
      base := some (.inst ⟨7⟩ [.inst ⟨5⟩ [.named ⟨3⟩]]) }]⟩
  methods := ⟨#[{ type := ⟨7⟩, name := "Fill", params := [{ name := "U" }] }]⟩

/-- One output type for each source type, in the module of its assembly, and a last one in a module
of its own that stands in for lists. -/
def shopTarget : Target.Catalog where
  modules := ⟨#["Core", "Shop", "Boxes"]⟩
  types := ⟨(Array.range 11).map fun i =>
    { module := if i < 5 then ⟨0⟩ else if i < 10 then ⟨1⟩ else ⟨2⟩
      space := "Output"
      name := "Type" ++ toString i
      arity := 0 }⟩
  methods := ⟨#[{ type := ⟨7⟩, name := "Fill" }]⟩

def shopSteps : List Step :=
  [.register (.assembly ⟨0⟩ ⟨0⟩), .register (.assembly ⟨1⟩ ⟨1⟩)]
    ++ (List.range 10).map (fun i => .register (.type (if i < 5 then ⟨0⟩ else ⟨1⟩) (some ⟨i⟩) ⟨i⟩))
    ++ [.register (.standIn ⟨1⟩ (some ⟨5⟩) ⟨10⟩), .register (.counterpart ⟨5⟩ ⟨10⟩),
      .register (.method ⟨7⟩ ⟨0⟩ ⟨0⟩)]

def shop : Workspace := (Workspace.start "mscorlib" shopSource shopTarget).after shopSteps

/-- Bags of arrays of lists of objects. -/
def bagOfLists : Source.Signature := .inst ⟨7⟩ [.array (.inst ⟨5⟩ [.named ⟨0⟩]) 1]

/-- Lists of objects are boxed late, so that the stand-in for lists is applied. -/
def bagOfBoxes : Target.Signature :=
  .inst (.defined ⟨7⟩) [.inst Interop.referenceArray [.inst (.defined ⟨10⟩) [.defined ⟨0⟩]]]

end Sample

/-- In the sample program, a form with a list that is boxed late is read back. -/
theorem Workspace.project_faithful_bag :
    Sample.shop.registry.KeepsApart ∧ Sample.bagOfLists.isRepresentable ∧
      (Sample.shop.registry.project ⟨1⟩ false Sample.bagOfLists
        |>.run (Sample.shop.registry.notesAfter Sample.shop.notes [.classOf ⟨5⟩])).1 =
          .ok Sample.bagOfBoxes ∧
      (Sample.shop.registry.project ⟨1⟩ false (.inst ⟨7⟩ [.array (.inst ⟨5⟩ [.named ⟨0⟩]) 1])
        |>.run (Sample.shop.registry.notesAfter Sample.shop.notes [.classOf ⟨6⟩])).1 =
          .ok Sample.bagOfBoxes ∧
      Sample.bagOfLists = .inst ⟨7⟩ [.array (.inst ⟨5⟩ [.named ⟨0⟩]) 1] := by
  have apart : Sample.shop.registry.KeepsApart := by decide +kernel
  have representable : Sample.bagOfLists.isRepresentable := by decide +kernel
  have representable' :
      (Source.Signature.inst ⟨7⟩ [.array (.inst ⟨5⟩ [.named ⟨0⟩]) 1]).isRepresentable := by
    decide +kernel
  have projected : (Sample.shop.registry.project ⟨1⟩ false Sample.bagOfLists
      |>.run (Sample.shop.registry.notesAfter Sample.shop.notes [.classOf ⟨5⟩])).1 =
        .ok Sample.bagOfBoxes := by
    decide +kernel
  have projected' :
    (Sample.shop.registry.project ⟨1⟩ false (.inst ⟨7⟩ [.array (.inst ⟨5⟩ [.named ⟨0⟩]) 1])
      |>.run (Sample.shop.registry.notesAfter Sample.shop.notes [.classOf ⟨6⟩])).1 =
        .ok Sample.bagOfBoxes := by
    decide +kernel
  have reachable : Sample.shop.Reachable := ⟨_, _, _, _, rfl⟩
  have same := project_faithful reachable apart representable representable' [.classOf ⟨5⟩]
    [.classOf ⟨6⟩]
    (Effect.run_eq projected) (Effect.run_eq projected')
  exact ⟨apart, representable, projected, projected', same⟩

end TypeProjection
