import TypeProjection.Proofs.Layout.Settled
import TypeProjection.Proofs.Registry.Coherent

/-!
# Proofs.Layout.Growth — reasons outlive what happens to a registry

A reason why a type is blittable stays one while the registry and the notes grow:

* `Grows`                   : all that the classifier found in one registry it finds in another;
* `BindingDerivable.grows`  : reasons stay when the registry grows;
* `FieldDerivable.settled`  : reasons stay when notes are taken;
* `hasClass_withTarget_iff` : the output catalog has no say in any class.
-/

namespace TypeProjection.Layout

open Source (Signature TypeDecl)

variable {R R' : Registry} {notes found : Memo} {s : Signature} {c : TypeBindingId}
  {k : LayoutClass}

/-! ## Growing registries -/

/-- All that the classifier finds in one registry it finds in another as well. -/
structure Grows (R R' : Registry) : Prop where
  source : R'.source = R.source
  types : ∀ {c : TypeBindingId} {b : TypeBinding}, R.types[c]? = some b →
    ∃ b', R'.types[c]? = some b' ∧ b'.SamePair b
  binding : ∀ {t : Source.TypeId} {c : TypeBindingId}, R.binding? t = some c →
    R'.binding? t = some c

theorem Grows.withTarget (R : Registry) (target : Target.Catalog) : Grows R { R with target } where
  source := rfl
  types bound := ⟨_, bound, rfl, rfl, rfl, rfl⟩
  binding bound := bound

theorem Undecided.grows (grows : Grows R R') {t : Source.TypeId} {d : TypeDecl}
    (undecided : Undecided R notes c t d) : Undecided R' notes c t d := by
  rcases undecided with ⟨⟨b, bound, plain, source⟩, unnoted, declared⟩
  rcases grows.types bound with ⟨b', bound', same⟩
  exact ⟨⟨b', bound', same.standIn.trans plain, same.source.trans source⟩,
    unnoted, by rwa [grows.source]⟩

theorem derivable_grows (grows : Grows R R') :
    (∀ {s}, FieldDerivable R notes s → FieldDerivable R' notes s) ∧
      (∀ {c k}, BindingDerivable R notes c k → BindingDerivable R' notes c k) := by
  apply derivable_induct
  case param => exact fun owner position => .param owner position
  case pointer => exact fun target => .pointer target
  case named =>
    intro t d c declared isStruct bound reason
    exact .named (by rwa [grows.source]) isStruct (grows.binding bound) reason
  case inst =>
    intro generic args d c k declared bound reason reasons
    exact .inst (by rwa [grows.source]) (grows.binding bound) reason reasons
  case noted =>
    intro c b k bound plain noted isBlittable
    rcases grows.types bound with ⟨b', bound', same⟩
    exact .noted bound' (same.standIn.trans plain) noted isBlittable
  case primitive =>
    intro c t d undecided isStruct isPrimitive
    exact .primitive (undecided.grows grows) isStruct isPrimitive
  case fields =>
    intro c t d undecided isStruct notPrimitive knownBase reasons
    exact .fields (undecided.grows grows) isStruct notPrimitive knownBase reasons

theorem FieldDerivable.grows (reason : FieldDerivable R notes s) (grows : Grows R R') :
    FieldDerivable R' notes s :=
  (derivable_grows grows).1 reason

theorem BindingDerivable.grows (reason : BindingDerivable R notes c k) (grows : Grows R R') :
    BindingDerivable R' notes c k :=
  (derivable_grows grows).2 reason

/-! ## Growing notes -/

/-- What was undecided is so still, or the class that it has is noted by now. -/
theorem Settled.noted_or_undecided (settled : Settled R notes found) {t : Source.TypeId}
    {d : TypeDecl} (undecided : Undecided R notes c t d) (has : HasClass R notes c k) :
    found[c]? = some k ∨ Undecided R found c t d := by
  cases noted : found[c]? with
  -- Without a note the binding is undecided for the same reasons as before.
  | none => exact .inr ⟨undecided.bound, noted, undecided.declared⟩
  | some k' =>
      rcases settled.added undecided.unnoted noted with ⟨-, -, -, has'⟩
      exact .inl (congrArg some (has'.unique has))

/-- Reasons stay when notes are taken. The old reason is carried along, for it says which class it
is that was noted meanwhile. -/
theorem derivable_settled (settled : Settled R notes found) :
    (∀ {s}, FieldDerivable R notes s → FieldDerivable R notes s ∧ FieldDerivable R found s) ∧
      (∀ {c k}, BindingDerivable R notes c k → BindingDerivable R notes c k ∧
        BindingDerivable R found c k) := by
  -- What is derived anew is derived from the notes as well, or noted with the class that it has.
  have renew : ∀ {c t d k}, Undecided R notes c t d → BindingDerivable R notes c k →
      (Undecided R found c t d → BindingDerivable R found c k) → BindingDerivable R found c k := by
    intro c t d k undecided reason anew
    rcases settled.noted_or_undecided undecided reason.hasClass with noted | undecided'
    · rcases undecided.bound with ⟨b, bound, plain, -⟩
      exact .noted bound plain noted reason.isBlittable
    · exact anew undecided'
  apply derivable_induct
  case param => exact fun owner position => ⟨.param owner position, .param owner position⟩
  case pointer => exact fun target => ⟨.pointer target, .pointer target⟩
  case named =>
    intro t d c declared isStruct bound reason
    exact ⟨.named declared isStruct bound reason.1, .named declared isStruct bound reason.2⟩
  case inst =>
    intro generic args d c k declared bound reason reasons
    have old := fun position arg found embedded => (reasons position arg found embedded).1
    have new := fun position arg found embedded => (reasons position arg found embedded).2
    exact ⟨.inst declared bound reason.1 old, .inst declared bound reason.2 new⟩
  case noted =>
    intro c b k bound plain noted isBlittable
    exact ⟨.noted bound plain noted isBlittable,
      .noted bound plain (settled.keeps noted) isBlittable⟩
  case primitive =>
    intro c t d undecided isStruct isPrimitive
    have reason : BindingDerivable R notes c .blittable := .primitive undecided isStruct isPrimitive
    exact ⟨reason, renew undecided reason fun undecided' =>
      .primitive undecided' isStruct isPrimitive⟩
  case fields =>
    intro c t d undecided isStruct notPrimitive knownBase reasons
    have reason := BindingDerivable.fields undecided isStruct notPrimitive knownBase
      fun field mem => (reasons field mem).1
    exact ⟨reason, renew undecided reason fun undecided' =>
      .fields undecided' isStruct notPrimitive knownBase fun field mem => (reasons field mem).2⟩

theorem FieldDerivable.settled (reason : FieldDerivable R notes s)
    (settled : Settled R notes found) :
    FieldDerivable R found s :=
  ((derivable_settled settled).1 reason).2

/-! ## The output catalog -/

theorem fieldDerivable_withTarget_iff {target : Target.Catalog} :
    FieldDerivable { R with target } notes s ↔ FieldDerivable R notes s :=
  ⟨fun reason => reason.grows (.withTarget { R with target } R.target),
    fun reason => reason.grows (.withTarget R target)⟩

/-- The output catalog has no say in any class. -/
theorem hasClass_withTarget_iff {target : Target.Catalog} :
    HasClass { R with target } notes c k ↔ HasClass R notes c k := by
  simp only [HasClass, DeclHasClass, fieldDerivable_withTarget_iff]

theorem settled_withTarget_iff {target : Target.Catalog} :
    Settled { R with target } notes found ↔ Settled R notes found := by
  constructor
  · rintro ⟨keeps, added⟩
    exact ⟨keeps, fun unnoted noted => by
      simpa only [hasClass_withTarget_iff] using added unnoted noted⟩
  · rintro ⟨keeps, added⟩
    exact ⟨keeps, fun unnoted noted => by
      simpa only [hasClass_withTarget_iff] using added unnoted noted⟩

end TypeProjection.Layout
