import TypeProjection.Proofs.Run.Stable

/-!
# Proofs.Layout.Noted — what the classes noted in a run say about declarations

Notes taken earlier in a run were taken when there were fewer bindings. What they say about the
source declaration of a binding is true all the same, as long as it can be read off a reason:

* `SourceHas` : the source declaration of a binding has a property;
* `Sound` : a property that every declaration with a blittable class has, if the noted ones do;
* `Sound.of_reachable` : such a property holds of every blittable binding of a reachable workspace;
* `Fits` : the plain facts about declarations with a blittable class.
-/

namespace TypeProjection.Layout

open Source (Signature TypeDecl)

/-- What can be said of a source declaration and its class. -/
abbrev ClassProperty := Source.Catalog → Source.TypeId → TypeDecl → LayoutClass → Prop

variable {R R' : Registry} {notes found : Memo} {Q : ClassProperty} {c : TypeBindingId}
  {k : LayoutClass}

/-- A binding is no stand-in, and its source declaration has a property. -/
def SourceHas (R : Registry) (Q : ClassProperty) (c : TypeBindingId) (k : LayoutClass) : Prop :=
  ∃ b t d, R.types[c]? = some b ∧ b.standIn = false ∧ b.source = some t ∧
    R.source.types[t]? = some d ∧ Q R.source t d k

/-- Every declaration whose class is noted and blittable has a property. -/
def Noted (Q : ClassProperty) (R : Registry) (notes : Memo) : Prop :=
  ∀ {c : TypeBindingId} {k : LayoutClass}, notes[c]? = some k → k.isBlittable → SourceHas R Q c k

/-- A property holds of every declaration that has a blittable class for a reason, if it holds of
those whose class is noted. -/
def Sound (Q : ClassProperty) : Prop :=
  ∀ {R : Registry} {notes : Memo}, R.Coherent → Noted Q R notes →
    ∀ {c : TypeBindingId} {k : LayoutClass}, BindingDerivable R notes c k → SourceHas R Q c k

theorem SourceHas.extended (has : SourceHas R Q c k) (extended : R.Extended R') :
    SourceHas R' Q c k := by
  rcases has with ⟨b, t, d, bound, plain, source, declared, holds⟩
  rcases extended.types bound with ⟨b', bound', same⟩
  refine ⟨b', t, d, bound', same.standIn.trans plain, same.source.trans source, ?_, ?_⟩
  · rwa [extended.source]
  · rwa [extended.source]

/-- The property is one of the declaration that the binding stands for. -/
theorem SourceHas.of_bound (has : SourceHas R Q c k) {b : TypeBinding} {t : Source.TypeId}
    {d : TypeDecl} (bound : R.types[c]? = some b) (source : b.source = some t)
    (declared : R.source.types[t]? = some d) :
    Q R.source t d k := by
  rcases has with ⟨b', t', d', bound', -, source', declared', holds⟩
  cases bound.symm.trans bound'
  cases source.symm.trans source'
  cases declared.symm.trans declared'
  exact holds

theorem SourceHas.of_found (has : SourceHas R Q c k) (coherent : R.Coherent) {t : Source.TypeId}
    {d : TypeDecl} (found : R.binding? t = some c) (declared : R.source.types[t]? = some d) :
    Q R.source t d k := by
  rcases coherent.binding?_source found with ⟨b, -, bound, source, -⟩
  exact has.of_bound bound source declared

namespace Sound

theorem stable (sound : Sound Q) : Stable fun R notes => R.Coherent ∧ Noted Q R notes where
  asked {R notes found} holds settled := by
    rcases holds with ⟨coherent, noted⟩
    refine ⟨coherent, fun {c k} found isBlittable => ?_⟩
    cases first : notes[c]? with
    | some k' =>
      cases (settled.keeps first).symm.trans found
      exact noted first isBlittable
    | none =>
      -- A class that is new has a reason over the notes before.
      rcases settled.added first found with ⟨-, -, -, has⟩
      exact sound coherent noted (has.derivable isBlittable)
  registered holds extended :=
    ⟨holds.1.extended extended, fun found isBlittable =>
      (holds.2 found isBlittable).extended extended⟩
  edited target holds := ⟨holds.1.withTarget target, holds.2⟩

theorem noted (sound : Sound Q) {W : Workspace} (reachable : W.Reachable) :
    Noted Q W.registry W.notes.classes :=
  have start : ∀ corlib source target, (Registry.start corlib source target).Coherent ∧
      Noted Q (Registry.start corlib source target) ∅ :=
    fun corlib source target => ⟨.start corlib source target, fun found _ => by simp at found⟩
  (sound.stable.reachable start reachable).2

/-- A sound property holds of every blittable binding of a reachable workspace. -/
theorem of_reachable (sound : Sound Q) {W : Workspace} (reachable : W.Reachable)
    (has : HasClass W.registry W.notes.classes c k) (isBlittable : k.isBlittable) :
    SourceHas W.registry Q c k :=
  sound reachable.coherent (sound.noted reachable) (has.derivable isBlittable)

end Sound

/-! ## Plain facts -/

/-- A declaration fits a blittable class: it is a struct, and generic without the name of a
primitive just if the class is the generic one. -/
structure Fits (C : Source.Catalog) (t : Source.TypeId) (d : TypeDecl)
    (k : LayoutClass) : Prop where
  isStruct : d.form = .structType
  blittable : k = .blittable → Corlib.isPrimitive d.fullName ∨ d.params = []
  generic : k = .genericBlittable → Corlib.isPrimitive d.fullName = false ∧ d.params ≠ []

theorem fits_sound : Sound Fits := by
  intro R notes coherent noted c k reason
  cases reason with
  | noted bound plain found isBlittable => exact noted found isBlittable
  | primitive undecided isStruct isPrimitive =>
    rcases undecided with ⟨⟨b, bound, plain, source⟩, -, declared⟩
    exact ⟨b, _, _, bound, plain, source, declared, isStruct, fun _ => .inl isPrimitive,
      fun eq => nomatch eq⟩
  | fields undecided isStruct notPrimitive knownBase reasons =>
    rcases undecided with ⟨⟨b, bound, plain, source⟩, -, declared⟩
    refine ⟨b, _, _, bound, plain, source, declared, isStruct, fun eq => .inr ?_,
      fun eq => ⟨notPrimitive, ?_⟩⟩
    · simpa using eq
    · intro plain
      simp [plain] at eq

end TypeProjection.Layout
