import TypeProjection.Proofs.Layout.Backed
import TypeProjection.Proofs.Layout.LeastClass

/-!
# Proofs.Layout.Lasting — which classes last

Classes are noted at different times, when there were more or fewer bindings, and a class that is
found later follows from notes of all these times. A note that some type does not cross as it is can
be out of date by then; every other note still says what would be found without any:

* `HasClass.fromScratch` : a class that follows from notes of this kind follows from none;
* `stable_fromScratch` : the notes of a run are of this kind;
* `HasClass.grows` : such a class is the same in a larger registry;
* `HasClass.total` : and it is found from scratch;
* `classOf_lasting` : a class other than `nonBlittable` that is found at some time is found from
  scratch at every later time.
-/

namespace TypeProjection

namespace Layout

open Source (Signature TypeDecl)

variable {R R' : Registry} {notes : Memo} {s : Signature} {c : TypeBindingId} {k : LayoutClass}

/-! ## Classes that follow without notes -/

/-- Whatever is noted, other than that a type does not cross as it is, follows from no notes at
all. -/
def FromScratch (R : Registry) (notes : Memo) : Prop :=
  ∀ (c : TypeBindingId) (k : LayoutClass), notes[c]? = some k → k ≠ .nonBlittable → HasClass R ∅ c k

theorem ne_nonBlittable_of_isBlittable (isBlittable : k.isBlittable) : k ≠ .nonBlittable := by
  rintro rfl
  cases isBlittable

theorem Undecided.fromScratch {t : Source.TypeId} {d : TypeDecl}
    (undecided : Undecided R notes c t d) :
    Undecided R ∅ c t d :=
  ⟨undecided.bound, by simp, undecided.declared⟩

/-- Reasons that end in such notes can be followed down to primitives, pointers and parameters. -/
theorem derivable_fromScratch (scratch : FromScratch R notes) :
    (∀ {s}, FieldDerivable R notes s → FieldDerivable R ∅ s) ∧
      (∀ {c k}, BindingDerivable R notes c k → BindingDerivable R ∅ c k) := by
  apply derivable_induct
  case param => exact fun owner position => .param owner position
  case pointer => exact fun target => .pointer target
  case named =>
    intro t d c declared isStruct bound reason
    exact .named declared isStruct bound reason
  case inst =>
    intro generic args d c k declared bound reason reasons
    exact .inst declared bound reason reasons
  -- The one kind of reason that rests on a note.
  case noted =>
    intro c b k bound plain noted isBlittable
    have has := scratch c k noted (ne_nonBlittable_of_isBlittable isBlittable)
    exact has.derivable isBlittable
  case primitive =>
    intro c t d undecided isStruct isPrimitive
    exact .primitive undecided.fromScratch isStruct isPrimitive
  case fields =>
    intro c t d undecided isStruct notPrimitive knownBase reasons
    exact .fields undecided.fromScratch isStruct notPrimitive knownBase reasons

/-- A class is one of a reference, for which no other class matters, or one with a reason. -/
theorem HasClass.cases (has : HasClass R notes c k) (lasting : k ≠ .nonBlittable) :
    k = .reference ∨ BindingDerivable R notes c k := by
  cases k with
  | reference => exact .inl rfl
  | blittable => exact .inr (has.derivable rfl)
  | genericBlittable => exact .inr (has.derivable rfl)
  | nonBlittable => exact absurd rfl lasting

theorem HasClass.fromScratch (scratch : FromScratch R notes) (has : HasClass R notes c k)
    (lasting : k ≠ .nonBlittable) : HasClass R ∅ c k := by
  rcases has.cases lasting with rfl | reason
  · obtain ⟨b, bound, has⟩ := has
    cases standIn : b.standIn with
    | true => exact ⟨b, bound, by simp [standIn]⟩
    | false =>
      cases noted : notes[c]? with
      | some k =>
        obtain rfl : .reference = k := by simpa [standIn, noted] using has
        exact scratch c .reference noted lasting
      | none => exact ⟨b, bound, by simpa [standIn, noted, declHasClass_reference_iff] using has⟩
  · exact ((derivable_fromScratch scratch).2 reason).hasClass

/-- What follows without notes in a registry follows in a larger one. -/
theorem HasClass.grows (has : HasClass R ∅ c k) (lasting : k ≠ .nonBlittable) (grows : Grows R R') :
    HasClass R' ∅ c k := by
  rcases has.cases lasting with rfl | reason
  · obtain ⟨b, bound, has⟩ := has
    obtain ⟨b', bound', same⟩ := grows.types bound
    exact ⟨b', bound', by simpa [same.standIn, same.source, grows.source,
      declHasClass_reference_iff] using has⟩
  · exact (reason.grows grows).hasClass

/-! ## Notes of a run -/

/-- While no assembly is bound twice, the notes of a run follow without notes in the registry of the
moment. -/
theorem stable_fromScratch : Stable fun R notes =>
    R.Coherent ∧ (R.AssembliesBoundOnce → FromScratch R notes) where
  asked {R notes found} holds settled := by
    refine ⟨holds.1, fun once c k noted lasting => ?_⟩
    have scratch := holds.2 once
    cases first : notes[c]? with
    | some k' =>
      cases (settled.keeps first).symm.trans noted
      exact scratch c k first lasting
    | none =>
      -- A new note follows from the old ones.
      obtain ⟨-, -, -, has⟩ := settled.added first noted
      exact has.fromScratch scratch lasting
  registered {R R' notes} holds extended := by
    refine ⟨holds.1.extended extended, fun once c k noted lasting => ?_⟩
    have has := holds.2 (assembliesBoundOnce_of_extended extended once) c k noted lasting
    exact has.grows lasting (grows_of_extended holds.1 extended once)
  edited {R notes} target holds :=
    ⟨holds.1.withTarget target, fun once c k noted lasting =>
      hasClass_withTarget_iff.2 (holds.2 once c k noted lasting)⟩

/-- If no assembly is bound twice in the end, then none was before. -/
theorem stable_boundOnce (R₀ : Registry) : Stable fun R _ =>
    R.AssembliesBoundOnce → R₀.AssembliesBoundOnce where
  asked holds _ := holds
  registered holds extended once := holds (assembliesBoundOnce_of_extended extended once)
  edited _ holds := holds

/-- A class that follows without notes keeps doing so while no assembly is bound twice. -/
theorem stable_hasClass (c : TypeBindingId) (lasting : k ≠ .nonBlittable) :
    Stable fun R _ => R.Coherent ∧ (R.AssembliesBoundOnce → HasClass R ∅ c k) where
  asked holds _ := holds
  registered {R R' notes} holds extended := by
    refine ⟨holds.1.extended extended, fun once => ?_⟩
    have has := holds.2 (assembliesBoundOnce_of_extended extended once)
    exact has.grows lasting (grows_of_extended holds.1 extended once)
  edited target holds :=
    ⟨holds.1.withTarget target, fun once => hasClass_withTarget_iff.2 (holds.2 once)⟩

/-! ## Classes that are found from scratch -/

/-- The search for a class with a reason meets nothing but what the reason mentions, so it ends in
an answer. -/
theorem derivable_total :
    (∀ {s}, FieldDerivable R ∅ s → ∀ active, Total (fieldBlittable R (classify R active) s)) ∧
      (∀ {c k}, BindingDerivable R ∅ c k → ∀ active, Total (classify R active c)) := by
  apply derivable_induct
  case param =>
    intro owner position active
    rw [fieldBlittable]
    exact .pure true
  case pointer =>
    intro target active
    rw [fieldBlittable]
    exact .pure true
  case named =>
    intro t d c declared isStruct bound total active
    rw [fieldBlittable]
    refine .bind_lift declared ?_
    simp only [isStruct, if_true, bound]
    exact .bind (total active) fun k => .pure _
  case inst =>
    intro generic args d c k declared bound total totals active
    rw [fieldBlittable]
    refine .bind_lift declared ?_
    simp only [bound]
    refine .bind (total active) fun k => ?_
    split
    · refine argsBlittable_total fun i arg found embedded => totals i arg found ?_ active
      rwa [Nat.zero_add] at embedded
    · exact .pure false
  case noted =>
    intro c b k bound plain noted
    simp at noted
  case primitive =>
    intro c t d undecided isStruct isPrimitive active
    obtain ⟨⟨b, bound, -, source⟩, -, declared⟩ := undecided
    refine classify_total_of_decl bound fun t' _ source' _ => ?_
    cases source.symm.trans source'
    refine ⟨d, declared, ?_⟩
    simp only [ofDecl, isStruct, ne_eq, not_true, if_false, isPrimitive, if_true]
    exact .pure _
  case fields =>
    intro c t d undecided isStruct notPrimitive knownBase totals active
    obtain ⟨⟨b, bound, -, source⟩, -, declared⟩ := undecided
    refine classify_total_of_decl bound fun t' _ source' _ => ?_
    cases source.symm.trans source'
    exact ⟨d, declared, ofDecl_total fun field mem => totals field mem (c :: active)⟩

theorem HasClass.total (has : HasClass R ∅ c k) (lasting : k ≠ .nonBlittable) :
    Total (classify R [] c) := by
  rcases has.cases lasting with rfl | reason
  · obtain ⟨b, bound, has⟩ := has
    refine classify_total_of_decl bound fun t plain source _ => ?_
    obtain ⟨d, declared, reference⟩ : ∃ d, R.source.types[t]? = some d ∧
        DeclHasClass R ∅ d .reference := by
      simpa [plain, source] using has
    -- The fields of a reference are not looked at.
    refine ⟨d, declared, ?_⟩
    rcases declHasClass_reference_iff.1 reference with other | ⟨notPrimitive, unknownBase⟩
    · simp only [ofDecl, if_pos other]
      exact .pure _
    · by_cases other : d.form ≠ .structType
      · simp only [ofDecl, if_pos other]
        exact .pure _
      · simp only [ofDecl, if_neg other, notPrimitive, unknownBase]
        exact .pure _
  · exact derivable_total.2 reason []

theorem classOf_fromScratch (has : HasClass R ∅ c k) (lasting : k ≠ .nonBlittable) :
    ((R.classOf c).run {}).1 = .ok k := by
  obtain ⟨k', classes, run⟩ := has.total lasting ∅
  have answered : (R.classOf c).run {} = (.ok k', { classes }) :=
    Registry.classOf_eq_ok_iff.2 ⟨classes, run, rfl⟩
  have found : HasClass R ∅ c k' := Registry.hasClass_of_classOf (.refl R ∅) answered
  rw [answered, found.unique has]

end Layout

namespace Workspace

/-- A class other than `nonBlittable` lasts: it is what the binding has at every later time if
nothing is noted, as long as no assembly is bound twice. -/
theorem classOf_lasting {W : Workspace} (reachable : W.Reachable) {c : TypeBindingId}
    {k : LayoutClass} (answered : ((W.registry.classOf c).run W.notes).1 = .ok k)
    (lasting : k ≠ .nonBlittable) (steps : List Step)
    (once : (W.after steps).registry.AssembliesBoundOnce) :
    (((W.after steps).registry.classOf c).run {}).1 = .ok k := by
  have onceBefore : W.registry.AssembliesBoundOnce :=
    (Layout.stable_boundOnce W.registry).survives.after (W := W) id steps once
  have scratch : Layout.FromScratch W.registry W.notes.classes := by
    refine (Layout.stable_fromScratch.reachable (fun corlib source target => ?_) reachable).2
      onceBefore
    exact ⟨.start corlib source target, fun _ c k noted => by simp at noted⟩
  -- The answer follows from the notes of the run, so it follows without them, now and with all that
  -- is bound later.
  have found : Layout.HasClass W.registry W.notes.classes c k :=
    Registry.hasClass_of_classOf (.refl _ _) (Effect.run_eq answered)
  have has : Layout.HasClass W.registry ∅ c k := found.fromScratch scratch lasting
  have later := (Layout.stable_hasClass c lasting).survives.after (W := W)
    ⟨reachable.coherent, fun _ => has⟩ steps
  exact Layout.classOf_fromScratch (later.2 once) lasting

end Workspace

/-! ## Types that are bound late -/

namespace Sample

/-- Nodes and lists are bound, and asked for before the numbers that they hold are bound. -/
def early : List Step := [
  .register (.assembly ⟨0⟩ ⟨0⟩),
  .register (.type ⟨0⟩ (some ⟨0⟩) ⟨0⟩),
  .register (.type ⟨0⟩ (some ⟨4⟩) ⟨4⟩),
  .register (.type ⟨0⟩ (some ⟨3⟩) ⟨3⟩),
  .ask (.classOf ⟨1⟩),
  .register (.type ⟨0⟩ (some ⟨1⟩) ⟨1⟩)]

def asked : Workspace := (Workspace.start "mscorlib" source target).after early

/-- What holds a list is asked for while the note on lists is out of date. -/
def late : List Step := [.register (.type ⟨0⟩ (some ⟨6⟩) ⟨6⟩), .ask (.classOf ⟨4⟩)]

end Sample

/-- The class of numbers lasts, whereas that of nodes was found before numbers were bound. -/
theorem Workspace.classOf_lasting_number :
    ((Sample.asked.registry.classOf ⟨1⟩).run Sample.asked.notes).1 = .ok .nonBlittable ∧
      (((Sample.asked.after Sample.late).registry.classOf ⟨1⟩).run {}).1 = .ok .blittable ∧
      ((Sample.asked.registry.classOf ⟨3⟩).run Sample.asked.notes).1 = .ok .blittable ∧
      (((Sample.asked.after Sample.late).registry.classOf ⟨3⟩).run {}).1 = .ok .blittable := by
  have reachable : Sample.asked.Reachable :=
    ⟨"mscorlib", Sample.source, Sample.target, Sample.early, rfl⟩
  have answered : ((Sample.asked.registry.classOf ⟨3⟩).run Sample.asked.notes).1 =
    .ok .blittable := by decide +kernel
  refine ⟨by decide +kernel, by decide +kernel, answered, ?_⟩
  exact Workspace.classOf_lasting reachable answered (by decide) Sample.late (by decide +kernel)

end TypeProjection
