import TypeProjection.Proofs.Layout.Dependence

/-!
# Proofs.Layout.Settled — the search finds the classes that have reasons

The search for a class notes what it finds, and gives up on bindings that it meets again. This
module shows that none of this can be seen in its answers:

* `HasClass.unique` : a binding has at most one class, given what was noted at first;
* `Settled` : notes that hold what was noted at first, and beyond it only classes that follow from
  it;
* `fieldBlittable_decides` : over settled notes, a field is found blittable exactly if it has a
  reason to be;
* `Outcome`, `classify_outcome` : how a search ends, case by case;
* `classify_hasClass` : over settled notes, the search finds the class that a binding has, and
  leaves settled notes behind.

The binding that is looked at is needed by every active one. Hence an active binding that is met
again is needed by itself, and giving up on it is right.
-/

namespace TypeProjection.Layout

open Source (Signature TypeDecl)

variable {R : Registry} {notes found found' : Memo} {c : TypeBindingId} {k : LayoutClass}

/-! ## The class of a binding -/

theorem DeclHasClass.unique {d : TypeDecl} {k' : LayoutClass} (has : DeclHasClass R notes d k)
    (other : DeclHasClass R notes d k') : k = k' := by
  unfold DeclHasClass at has other
  split at has
  · simp_all
  · split at has
    · simp_all
    · split at has
      · simp_all
      · -- Whether all fields have reasons decides between the last two cases on both sides.
        by_cases reasons : ∀ field ∈ d.instanceFields, FieldDerivable R notes field.type
        · simp_all
        · simp_all

theorem HasClass.unique {k' : LayoutClass} (has : HasClass R notes c k)
    (other : HasClass R notes c k') :
    k = k' := by
  rcases has with ⟨b, bound, has⟩
  rcases other with ⟨b', bound', other⟩
  cases bound.symm.trans bound'
  split at has
  · simp_all
  · split at has
    · simp_all
    · split at has
      · simp_all
      · simp_all only
        rcases has with ⟨d, declared, has⟩
        rcases other with ⟨d', declared', other⟩
        cases declared.symm.trans declared'
        exact has.unique other

theorem hasClass_iff_of_undecided {t : Source.TypeId} {d : TypeDecl}
    (undecided : Undecided R notes c t d) :
    HasClass R notes c k ↔ DeclHasClass R notes d k := by
  rcases undecided with ⟨⟨b, bound, plain, source⟩, unnoted, declared⟩
  simp [HasClass, bound, plain, unnoted, source, declared]

theorem BindingDerivable.hasClass (reason : BindingDerivable R notes c k) :
    HasClass R notes c k := by
  cases reason with
  | noted bound plain noted _ => exact ⟨_, bound, by simp [plain, noted]⟩
  | primitive undecided isStruct isPrimitive =>
    rw [hasClass_iff_of_undecided undecided]
    simp [DeclHasClass, isStruct, isPrimitive]
  | fields undecided isStruct notPrimitive knownBase reasons =>
    rw [hasClass_iff_of_undecided undecided]
    simp only [DeclHasClass, isStruct, notPrimitive, knownBase]
    exact .inl ⟨reasons, trivial⟩

/-- A blittable class that follows from a declaration has a reason. -/
theorem DeclHasClass.derivable {t : Source.TypeId} {d : TypeDecl} (has : DeclHasClass R notes d k)
    (undecided : Undecided R notes c t d) (isBlittable : k.isBlittable) :
    BindingDerivable R notes c k := by
  unfold DeclHasClass at has
  split at has
  · simp [has, LayoutClass.isBlittable] at isBlittable
  · next isStruct =>
    have isStruct : d.form = .structType := by simpa using isStruct
    split at has
    · next isPrimitive => exact has ▸ .primitive undecided isStruct isPrimitive
    · next notPrimitive =>
      have notPrimitive : Corlib.isPrimitive d.fullName = false := by simpa using notPrimitive
      split at has
      · simp [has, LayoutClass.isBlittable] at isBlittable
      · next knownBase =>
        rcases has with ⟨reasons, rfl⟩ | ⟨-, rfl⟩
        · exact .fields undecided isStruct notPrimitive (by simpa using knownBase) reasons
        · simp [LayoutClass.isBlittable] at isBlittable

theorem HasClass.derivable (has : HasClass R notes c k) (isBlittable : k.isBlittable) :
    BindingDerivable R notes c k := by
  rcases has with ⟨b, bound, has⟩
  split at has
  · simp [has, LayoutClass.isBlittable] at isBlittable
  · next plain =>
    have plain : b.standIn = false := by simpa using plain
    split at has
    · next noted => exact has ▸ .noted bound plain noted (has ▸ isBlittable)
    · next unnoted =>
      split at has
      · simp [has, LayoutClass.isBlittable] at isBlittable
      · next source =>
        rcases has with ⟨d, declared, has⟩
        exact has.derivable ⟨⟨b, bound, plain, source⟩, unnoted, declared⟩ isBlittable

/-- A binding whose class is found has a blittable one exactly if it has a reason for it. -/
theorem HasClass.eq_iff_derivable {k' : LayoutClass} (has : HasClass R notes c k)
    (isBlittable : k'.isBlittable) :
    k = k' ↔ BindingDerivable R notes c k' :=
  ⟨fun eq => eq ▸ has.derivable (eq ▸ isBlittable), fun reason => has.unique reason.hasClass⟩

theorem HasClass.isBlittable_iff (has : HasClass R notes c k) :
    k.isBlittable ↔ ∃ k', BindingDerivable R notes c k' :=
  ⟨fun isBlittable => ⟨k, has.derivable isBlittable⟩,
    fun ⟨_, reason⟩ => has.unique reason.hasClass ▸ reason.isBlittable⟩

/-! ## Settled notes -/

/-- Notes that hold what was noted at first, and beyond it only classes that follow from it. -/
structure Settled (R : Registry) (notes found : Memo) : Prop where
  keeps : ∀ {c : TypeBindingId} {k : LayoutClass}, notes[c]? = some k → found[c]? = some k
  added : ∀ {c : TypeBindingId} {k : LayoutClass}, notes[c]? = none → found[c]? = some k →
    ∃ b, R.types[c]? = some b ∧ b.standIn = false ∧ HasClass R notes c k

namespace Settled

theorem refl (R : Registry) (notes : Memo) : Settled R notes notes where
  keeps noted := noted
  added unnoted noted := by simp [unnoted] at noted

/-- A class that is noted for a binding is the class that the binding has. -/
theorem hasClass (settled : Settled R notes found) {b : TypeBinding} (bound : R.types[c]? = some b)
    (plain : b.standIn = false) (noted : found[c]? = some k) : HasClass R notes c k := by
  cases first : notes[c]? with
  | some k' =>
    cases (settled.keeps first).symm.trans noted
    exact ⟨b, bound, by simp [plain, first]⟩
  | none =>
    rcases settled.added first noted with ⟨_, _, _, has⟩
    exact has

theorem unnoted (settled : Settled R notes found) (unnoted : found[c]? = none) :
    notes[c]? = none := by
  cases noted : notes[c]? with
  | none => rfl
  | some k => simp [settled.keeps noted] at unnoted

/-- Noting a class that follows keeps notes settled. -/
theorem insert (settled : Settled R notes found) {b : TypeBinding} (bound : R.types[c]? = some b)
    (plain : b.standIn = false) (unnoted : notes[c]? = none) (has : HasClass R notes c k) :
    Settled R notes (found.insert c k) where
  keeps {c' k'} noted := by
    rw [Std.TreeMap.getElem?_insert]
    split
    · -- The class that is noted now was not noted at first.
      next same =>
      rw [Std.LawfulEqOrd.eq_of_compare same, noted] at unnoted
      cases unnoted
    · exact settled.keeps noted
  added {c' k'} unnoted' noted := by
    rw [Std.TreeMap.getElem?_insert] at noted
    split at noted
    · next same =>
      cases noted
      cases Std.LawfulEqOrd.eq_of_compare same
      exact ⟨b, bound, plain, has⟩
    · exact settled.added unnoted' noted

end Settled

/-! ## Running a classifier -/

theorem run_bind_eq_some_iff {α β : Type} {q : Classifier α} {f : α → Classifier β} {b : β} :
    (q >>= f).run found = some (b, found') ↔
      ∃ a between, q.run found = some (a, between) ∧ (f a).run between = some (b, found') := by
  simp only [StateT.run_bind, Option.bind_eq_bind, Option.bind_eq_some_iff, Prod.exists]

theorem run_pure_eq_some_iff {α : Type} {a b : α} :
    (pure a : Classifier α).run found = some (b, found') ↔ a = b ∧ found = found' := by
  simp

theorem run_lift_eq_some_iff {α : Type} {o : Option α} {b : α} :
    (liftM o : Classifier α).run found = some (b, found') ↔ o = some b ∧ found = found' := by
  cases o <;> simp

/-! ## Fields -/

/-- Over settled notes, a question for the class of a binding is answered by the class that the
binding has, and leaves settled notes behind. -/
def Answers (R : Registry) (notes : Memo) (c : TypeBindingId) (q : Classifier LayoutClass) : Prop :=
  ∀ (found found' : Memo) (k : LayoutClass), Settled R notes found →
    q.run found = some (k, found') → HasClass R notes c k ∧ Settled R notes found'

/-- Over settled notes, a question for the truth of a statement is answered rightly, and leaves
settled notes behind. -/
def Decides (R : Registry) (notes : Memo) (p : Prop) (q : Classifier Bool) : Prop :=
  ∀ (found found' : Memo) (answer : Bool), Settled R notes found →
    q.run found = some (answer, found') → (answer ↔ p) ∧ Settled R notes found'

namespace Decides

variable {p p' : Prop}

theorem yes (holds : p) : Decides R notes p (pure true) := by
  intro found found' answer settled run
  rcases run_pure_eq_some_iff.1 run with ⟨rfl, rfl⟩
  exact ⟨⟨fun _ => holds, fun _ => rfl⟩, settled⟩

theorem no (fails : ¬ p) : Decides R notes p (pure false) := by
  intro found found' answer settled run
  rcases run_pure_eq_some_iff.1 run with ⟨rfl, rfl⟩
  exact ⟨⟨fun h => absurd h Bool.false_ne_true, fun holds => absurd holds fails⟩, settled⟩

theorem congr {q : Classifier Bool} (decides : Decides R notes p q) (iff : p ↔ p') :
    Decides R notes p' q := by
  intro found found' answer settled run
  rcases decides found found' answer settled run with ⟨right, settled⟩
  exact ⟨right.trans iff, settled⟩

/-- A look-up before a question has no part in its answer. -/
theorem lookup {α : Type} {o : Option α} {rest : α → Classifier Bool}
    (decides : ∀ a, o = some a → Decides R notes p (rest a)) :
    Decides R notes p (liftM o >>= rest) := by
  intro found found' answer settled run
  rcases run_bind_eq_some_iff.1 run with ⟨a, between, runFirst, run⟩
  rcases run_lift_eq_some_iff.1 runFirst with ⟨eq, rfl⟩
  exact decides a eq found found' answer settled run

/-- A question that asks for a class first is right if it is for the class that the binding has. -/
theorem asking {q : Classifier LayoutClass} {rest : LayoutClass → Classifier Bool}
    (answers : Answers R notes c q)
    (decides : ∀ k, HasClass R notes c k → Decides R notes p (rest k)) :
    Decides R notes p (q >>= rest) := by
  intro found found' answer settled run
  rcases run_bind_eq_some_iff.1 run with ⟨k, between, runFirst, run⟩
  rcases answers found between k settled runFirst with ⟨has, settled⟩
  exact decides k has between found' answer settled run

/-- A question that goes on only after a yes is right if its parts are. -/
theorem and {q : Classifier Bool} {rest : Bool → Classifier Bool} (first : Decides R notes p q)
    (second : p → Decides R notes p' (rest true)) (stops : rest false = pure false) :
    Decides R notes (p ∧ p') (q >>= rest) := by
  intro found found' answer settled run
  rcases run_bind_eq_some_iff.1 run with ⟨early, between, runFirst, run⟩
  rcases first found between early settled runFirst with ⟨right, settled⟩
  cases early with
  | true =>
    -- The first part holds, so what is left to decide is the second.
    have holds : p := right.1 rfl
    exact (second holds).congr (by simp [holds]) between found' answer settled run
  | false =>
    have fails : ¬ p := fun holds => absurd (right.2 holds) Bool.false_ne_true
    rw [stops] at run
    exact Decides.no (fun both => fails both.1) between found' answer settled run

end Decides

/-- A named struct that is bound has a reason exactly if its binding has the class `blittable`. -/
theorem fieldDerivable_named_iff {t : Source.TypeId} {d : TypeDecl}
    (declared : R.source.types[t]? = some d) (isStruct : d.form = .structType)
    (bound : R.binding? t = some c) :
    FieldDerivable R notes (.named t) ↔ BindingDerivable R notes c .blittable := by
  constructor
  · intro reason
    cases reason with
    | named _ _ bound' reason =>
      cases bound.symm.trans bound'
      exact reason
  · exact .named declared isStruct bound

/-- An application of a bound type has a reason exactly if the binding has one, and all arguments
that are kept in the layout. -/
theorem fieldDerivable_inst_iff {generic : Source.TypeId} {args : List Signature} {d : TypeDecl}
    (declared : R.source.types[generic]? = some d) (bound : R.binding? generic = some c)
    (has : HasClass R notes c k) :
    FieldDerivable R notes (.inst generic args) ↔ k.isBlittable ∧
      ∀ (position : Nat) (arg : Signature), args[position]? = some arg → d.embeds generic position →
        FieldDerivable R notes arg := by
  constructor
  · intro reason
    cases reason with
    | inst declared' bound' reason reasons =>
      cases declared.symm.trans declared'
      cases bound.symm.trans bound'
      exact ⟨has.isBlittable_iff.2 ⟨_, reason⟩, reasons⟩
  · rintro ⟨isBlittable, reasons⟩
    exact .inst declared bound (has.derivable isBlittable) reasons

section Fields

variable {classOf : TypeBindingId → Classifier LayoutClass}

/-- The arguments of an application are found blittable exactly if each that is kept in the layout
has a reason to be. -/
theorem argsBlittable_decides {generic : Source.TypeId} {d : TypeDecl} {position : Nat}
    {args : List Signature}
    (fields : ∀ {i : Nat} {arg : Signature}, args[i]? = some arg → d.embeds generic (position + i) →
      Decides R notes (FieldDerivable R notes arg) (fieldBlittable R classOf arg)) :
    Decides R notes
      (∀ (i : Nat) (arg : Signature), args[i]? = some arg → d.embeds generic (position + i) →
        FieldDerivable R notes arg)
      (argsBlittable R classOf generic d position args) := by
  induction args generalizing position with
  | nil =>
    rw [argsBlittable]
    exact .yes (by simp)
  | cons arg args ih =>
    -- The positions of the remaining arguments are counted from the next one on.
    have shift : ∀ i, position + 1 + i = position + (i + 1) := fun i => by omega
    have rest := @ih (position + 1) fun {i _} mem embedded =>
      fields (i := i + 1) mem (shift i ▸ embedded)
    simp only [shift] at rest
    rw [argsBlittable]
    split
    · next embedded =>
      refine Decides.congr (.and (fields (i := 0) rfl embedded) (fun _ => rest) (by rfl))
        ⟨?_, fun all => ?_⟩
      · rintro ⟨first, others⟩ i
        cases i with
        | zero => exact fun arg mem _ => Option.some.inj mem ▸ first
        | succ i => exact others i
      · exact ⟨all 0 arg rfl embedded, fun i arg mem => all (i + 1) arg mem⟩
    · next skipped =>
      refine rest.congr ⟨fun others i => ?_, fun all i arg mem => all (i + 1) arg mem⟩
      cases i with
      | zero => exact fun arg _ embedded => absurd embedded skipped
      | succ i => exact others i

/-- A field is found blittable exactly if it has a reason to be, where the bindings that it asks for
get the classes that they have. -/
theorem fieldBlittable_decides {s : Signature}
    (answers : ∀ {c : TypeBindingId}, FieldNeeds R s c → Answers R notes c (classOf c)) :
    Decides R notes (FieldDerivable R notes s) (fieldBlittable R classOf s) := by
  induction s with
  | named t =>
    rw [fieldBlittable]
    refine .lookup fun d declared => ?_
    split
    · next isStruct =>
      split
      · next unbound =>
        refine .no fun reason => ?_
        cases reason with
        | named _ _ bound _ => simp [unbound] at bound
      · next c bound =>
        refine .asking (answers (.named bound)) fun k has => ?_
        -- The answer compares the class, and the class says whether there is a reason.
        rw [fieldDerivable_named_iff declared isStruct bound, ← has.eq_iff_derivable rfl]
        by_cases blittable : k = .blittable
        · simpa [blittable] using (Decides.yes trivial : Decides R notes True (pure true))
        · simpa [blittable] using (Decides.no id : Decides R notes False (pure false))
    · next notStruct =>
      refine .no fun reason => ?_
      cases reason with
      | named declared' isStruct _ _ =>
        cases declared.symm.trans declared'
        exact notStruct isStruct
  | inst generic args ih =>
    rw [fieldBlittable]
    refine .lookup fun d declared => ?_
    split
    · next unbound =>
      refine .no fun reason => ?_
      cases reason with
      | inst _ bound _ _ => simp [unbound] at bound
    · next c bound =>
      refine .asking (answers (.head bound)) fun k has => ?_
      rw [fieldDerivable_inst_iff declared bound has]
      split
      · next isBlittable =>
        have decides := @argsBlittable_decides R notes classOf generic d 0 args fun mem embedded =>
          ih _ (List.mem_of_getElem? mem) fun need =>
            answers (.argument declared mem (by simpa using embedded) need)
        simp only [Nat.zero_add] at decides
        exact decides.congr (by simp [isBlittable])
      · next notBlittable => exact .no fun both => notBlittable both.1
  | pointer target =>
    rw [fieldBlittable]
    exact .yes (.pointer target)
  | param owner position =>
    rw [fieldBlittable]
    exact .yes (.param owner position)
  | _ =>
    rw [fieldBlittable]
    refine .no fun reason => ?_
    cases reason

theorem allBlittable_decides {fields : List Source.Field}
    (answers : ∀ {field : Source.Field} {c : TypeBindingId}, field ∈ fields →
      FieldNeeds R field.type c → Answers R notes c (classOf c)) :
    Decides R notes (∀ field ∈ fields, FieldDerivable R notes field.type)
      (fields.allM fun field => fieldBlittable R classOf field.type) := by
  induction fields with
  | nil => exact .yes (by simp)
  | cons field fields ih =>
    have first := fieldBlittable_decides (answers List.mem_cons_self)
    have rest := ih fun mem => answers (List.mem_cons_of_mem _ mem)
    have all :
      (FieldDerivable R notes field.type ∧ ∀ other ∈ fields, FieldDerivable R notes other.type) ↔
        ∀ other ∈ field :: fields, FieldDerivable R notes other.type := by
      simp
    rw [List.allM]
    exact Decides.congr (.and first (fun _ => rest) (by rfl)) all

end Fields

/-! ## Bindings -/

/-- The class that is found for a declaration is the one that follows from it. -/
theorem ofDecl_hasClass {classOf : TypeBindingId → Classifier LayoutClass} {d : TypeDecl}
    (answers : ∀ {field : Source.Field} {c : TypeBindingId}, d.form = .structType →
      Corlib.isPrimitive d.fullName = false → d.hasKnownBase → field ∈ d.instanceFields →
      FieldNeeds R field.type c → Answers R notes c (classOf c))
    (settled : Settled R notes found) (run : (ofDecl R classOf d).run found = some (k, found')) :
    DeclHasClass R notes d k ∧ Settled R notes found' := by
  unfold ofDecl at run
  unfold DeclHasClass
  split at run
  · next notStruct =>
    rcases run_pure_eq_some_iff.1 run with ⟨rfl, rfl⟩
    exact ⟨by simp [notStruct], settled⟩
  · next isStruct =>
    rw [if_neg isStruct]
    split at run
    · next isPrimitive =>
      rcases run_pure_eq_some_iff.1 run with ⟨rfl, rfl⟩
      exact ⟨by simp [isPrimitive], settled⟩
    · next notPrimitive =>
      rw [if_neg notPrimitive]
      split at run
      · next unknownBase =>
        rcases run_pure_eq_some_iff.1 run with ⟨rfl, rfl⟩
        exact ⟨by simp [unknownBase], settled⟩
      · next knownBase =>
        rw [if_neg knownBase]
        rcases run_bind_eq_some_iff.1 run with ⟨all, between, runFields, run⟩
        obtain ⟨reasons, settled⟩ := allBlittable_decides (answers (by simpa using isStruct)
          (by simpa using notPrimitive) (by simpa using knownBase)) _ _ _ settled runFields
        cases all with
        | true =>
          rcases run_pure_eq_some_iff.1 run with ⟨rfl, rfl⟩
          exact ⟨.inl ⟨reasons.1 rfl, rfl⟩, settled⟩
        | false =>
          rcases run_pure_eq_some_iff.1 run with ⟨rfl, rfl⟩
          exact ⟨.inr ⟨fun all => absurd (reasons.2 all) Bool.false_ne_true, rfl⟩, settled⟩

/-- A binding that is needed by itself is not blittable. -/
theorem hasClass_of_needed (cycle : Relation.TransGen (NeededBy R notes) c c) :
    HasClass R notes c .nonBlittable := by
  -- The last link of the chain says that the fields of the binding are looked at.
  have needed : ∃ c', NeededBy R notes c' c := by
    cases cycle with
    | single needed => exact ⟨_, needed⟩
    | tail _ needed => exact ⟨_, needed⟩
  rcases needed with ⟨_, undecided, isStruct, notPrimitive, knownBase, -, -⟩
  rw [hasClass_iff_of_undecided undecided]
  simp only [DeclHasClass, isStruct, notPrimitive, knownBase]
  refine .inr ⟨fun reasons => ?_, trivial⟩
  exact not_bindingDerivable_of_needed cycle
    (.fields undecided isStruct notPrimitive knownBase reasons)

/-- How the search for the class of a bound type ends, by the case that it comes to. -/
inductive Outcome (R : Registry) (active : List TypeBindingId) (c : TypeBindingId) (b : TypeBinding)
    (found : Memo) : LayoutClass → Memo → Prop
  | standIn (standIn : b.standIn) : Outcome R active c b found .reference found
  | noted {k : LayoutClass} (plain : b.standIn = false) (noted : found[c]? = some k) :
      Outcome R active c b found k found
  | unsourced (plain : b.standIn = false) (unnoted : found[c]? = none) (source : b.source = none) :
      Outcome R active c b found .reference (found.insert c .reference)
  | active {t : Source.TypeId} (plain : b.standIn = false) (unnoted : found[c]? = none)
      (source : b.source = some t) (mem : c ∈ active) :
      Outcome R active c b found .nonBlittable found
  | fresh {t : Source.TypeId} {d : TypeDecl} {k : LayoutClass} {between : Memo}
      (plain : b.standIn = false) (unnoted : found[c]? = none) (source : b.source = some t)
      (fresh : c ∉ active) (declared : R.source.types[t]? = some d)
      (run : (ofDecl R (classify R (c :: active)) d).run found = some (k, between)) :
      Outcome R active c b found k (between.insert c k)

theorem classify_outcome {active : List TypeBindingId}
    (run : (classify R active c).run found = some (k, found')) :
    ∃ b, R.types[c]? = some b ∧ Outcome R active c b found k found' := by
  cases bound : R.types[c]? with
  | none =>
    rw [classify_unbound bound] at run
    cases run
  | some b =>
    refine ⟨b, rfl, ?_⟩
    cases plain : b.standIn with
    | true =>
      rw [classify_standIn bound plain] at run
      cases run
      exact .standIn plain
    | false =>
      cases unnoted : found[c]? with
      | some n =>
        rw [classify_noted bound plain unnoted] at run
        cases run
        exact .noted plain unnoted
      | none =>
        cases source : b.source with
        | none =>
          rw [classify_unsourced bound plain unnoted source] at run
          cases run
          exact .unsourced plain unnoted source
        | some t =>
          by_cases mem : c ∈ active
          · rw [classify_active bound plain unnoted source mem] at run
            cases run
            exact .active plain unnoted source mem
          · rw [classify_fresh bound plain unnoted source mem] at run
            rcases Option.bind_eq_some_iff.1 run with ⟨d, declared, run⟩
            rcases Option.map_eq_some_iff.1 run with ⟨⟨k', between⟩, runDecl, eq⟩
            cases eq
            exact .fresh plain unnoted source mem declared runDecl

/-- What the fields of an active binding ask for is needed by it, and by all that it is needed
by. -/
theorem needed_cons {active : List TypeBindingId} {c' : TypeBindingId}
    (needed : NeededBy R notes c' c)
    (chain : ∀ a ∈ active, Relation.TransGen (NeededBy R notes) c a) :
    ∀ a ∈ c :: active, Relation.TransGen (NeededBy R notes) c' a := by
  intro a mem
  rcases List.mem_cons.1 mem with rfl | mem
  · exact .single needed
  · exact .trans (.single needed) (chain a mem)

/-- Over settled notes, the search finds the class that a binding has. The binding is needed by all
that are being looked at, so that meeting one of them again means to be needed by itself. -/
theorem classify_hasClass (active : List TypeBindingId) (c : TypeBindingId)
    (chain : ∀ a ∈ active, Relation.TransGen (NeededBy R notes) c a) :
    Answers R notes c (classify R active c) := by
  intro found found' k settled run
  rcases classify_outcome run with ⟨b, bound, outcome⟩
  cases outcome with
  | standIn standIn => exact ⟨⟨b, bound, by simp [standIn]⟩, settled⟩
  | noted plain noted => exact ⟨settled.hasClass bound plain noted, settled⟩
  | unsourced plain unnoted source =>
    have unnoted := settled.unnoted unnoted
    have has : HasClass R notes c .reference := ⟨b, bound, by simp [plain, unnoted, source]⟩
    exact ⟨has, settled.insert bound plain unnoted has⟩
  | active plain unnoted source mem =>
    -- An active binding needs itself, so giving up on it is right.
    exact ⟨hasClass_of_needed (chain c mem), settled⟩
  | fresh plain unnoted source fresh declared runDecl =>
    have undecided : Undecided R notes c _ _ :=
      ⟨⟨b, bound, plain, source⟩, settled.unnoted unnoted, declared⟩
    -- The binding joins the active ones, and what its fields ask for is needed by it.
    have decides := ofDecl_hasClass (fun isStruct notPrimitive knownBase memField need =>
      classify_hasClass (c :: active) _ (needed_cons
        ⟨undecided, isStruct, notPrimitive, knownBase, memField, need⟩ chain)) settled runDecl
    rcases decides with ⟨has, settled⟩
    have has := (hasClass_iff_of_undecided undecided).2 has
    exact ⟨has, settled.insert bound plain undecided.unnoted has⟩
termination_by inactive R active
decreasing_by exact inactive_cons_lt bound fresh

end TypeProjection.Layout
