import TypeProjection.Proofs.Projection.Steady
import TypeProjection.Proofs.Registry.Coherent

/-!
# Proofs.Layout.LeastClass — every binding is given its least class

A type is blittable in the least sense if it has a finite reason to be. This module shows that the
search always comes to an end with an answer, and that the answer is the least class, whatever was
asked before:

* `Total`                  : a question that is answered over all notes;
* `classify_total`         : so is the question for a class, where no field has a dangling handle;
* `Registry.classOf_least` : the class of a binding, after any questions.
-/

namespace TypeProjection

namespace Layout

open Source (Signature TypeDecl)

variable {R : Registry} {c : TypeBindingId} {k : LayoutClass}

/-! ## Questions that are always answered -/

/-- A question is answered, whatever notes there are. -/
def Total {α : Type} (q : Classifier α) : Prop :=
  ∀ found, ∃ a found', q.run found = some (a, found')

namespace Total

theorem pure {α : Type} (a : α) : Total (pure a) := fun found => ⟨a, found, rfl⟩

theorem bind {α β : Type} {q : Classifier α} {f : α → Classifier β} (first : Total q)
    (rest : ∀ a, Total (f a)) : Total (q >>= f) := by
  intro found
  rcases first found with ⟨a, between, run⟩
  rcases rest a between with ⟨b, found', run'⟩
  exact ⟨b, found', run_bind_eq_some_iff.2 ⟨a, between, run, run'⟩⟩

theorem bind_lift {α β : Type} {o : Option α} {a : α} {f : α → Classifier β} (some : o = some a)
    (rest : Total (f a)) : Total ((liftM o : Classifier α) >>= f) := by
  subst some
  intro found
  rcases rest found with ⟨b, found', run⟩
  exact ⟨b, found', run_bind_eq_some_iff.2 ⟨a, found, rfl, run⟩⟩

end Total

section Fields

variable {classOf : TypeBindingId → Classifier LayoutClass}

/-- Only the arguments that the generic type embeds are asked for. -/
theorem argsBlittable_total {generic : Source.TypeId} {d : TypeDecl} {position : Nat}
    {args : List Signature}
    (total : ∀ (i : Nat) (arg : Signature), args[i]? = some arg → d.embeds generic (position + i) →
      Total (fieldBlittable R classOf arg)) :
    Total (argsBlittable R classOf generic d position args) := by
  induction args generalizing position with
  | nil =>
      rw [argsBlittable]
      exact .pure true
  | cons arg args ih =>
      have rest : Total (argsBlittable R classOf generic d (position + 1) args) := by
        refine ih fun i arg found embedded => total (i + 1) arg (by simpa using found) ?_
        rwa [Nat.add_right_comm] at embedded
      rw [argsBlittable]
      -- An argument behind pointers is skipped, any other is asked for first.
      split
      · next embedded =>
        refine .bind (total 0 arg rfl embedded) fun blittable => ?_
        split
        · exact rest
        · exact .pure false
      · exact rest

/-- Whether a field is blittable is always answered, if the classes of bindings are. -/
theorem fieldBlittable_total (coherent : R.Coherent)
    (total : ∀ {c : TypeBindingId} {b : TypeBinding}, R.types[c]? = some b → Total (classOf c))
    {s : Signature} (declared : R.source.declares s) : Total (fieldBlittable R classOf s) := by
  induction s with
  | named t =>
      rcases Option.isSome_iff_exists.1 (by simpa [Source.Catalog.declares] using declared) with
        ⟨d, found⟩
      rw [fieldBlittable]
      refine .bind_lift found ?_
      split
      · split
        · exact .pure false
        · next c bound =>
          rcases coherent.binding?_source bound with ⟨b, -, bound, -⟩
          exact .bind (total bound) fun _ => .pure _
      · exact .pure false
  | inst generic args ih =>
      simp only [Source.Catalog.declares, Bool.and_eq_true, Source.Catalog.declaresAll_iff]
        at declared
      rcases declared with ⟨head, declared⟩
      rcases Option.isSome_iff_exists.1 head with ⟨d, found⟩
      rw [fieldBlittable]
      refine .bind_lift found ?_
      split
      · exact .pure false
      · next c bound =>
        rcases coherent.binding?_source bound with ⟨b, -, bound, -⟩
        refine .bind (total bound) fun k => ?_
        split
        · exact argsBlittable_total fun i arg found _ =>
            ih arg (List.mem_of_getElem? found) (declared arg (List.mem_of_getElem? found))
        · exact .pure false
  | _ =>
      rw [fieldBlittable]
      exact .pure _

theorem allBlittable_total {fields : List Source.Field}
    (total : ∀ field ∈ fields, Total (fieldBlittable R classOf field.type)) :
    Total (fields.allM fun field => fieldBlittable R classOf field.type) := by
  induction fields with
  | nil => exact .pure true
  | cons field fields ih =>
      rw [List.allM]
      refine .bind (total field List.mem_cons_self) fun blittable => ?_
      cases blittable with
      | true => exact ih fun field mem => total field (List.mem_cons_of_mem _ mem)
      | false => exact .pure false

theorem ofDecl_total {d : TypeDecl}
    (total : ∀ field ∈ d.instanceFields, Total (fieldBlittable R classOf field.type)) :
    Total (ofDecl R classOf d) := by
  unfold ofDecl
  split
  · exact .pure _
  · split
    · exact .pure _
    · split
      · exact .pure _
      · refine .bind (allBlittable_total total) fun all => ?_
        split
        · exact .pure _
        · exact .pure _

end Fields

/-- The class of a binding is answered if its declaration is found and gives an answer. -/
theorem classify_total_of_decl {active : List TypeBindingId} {b : TypeBinding}
    (bound : R.types[c]? = some b)
    (total : ∀ t, b.standIn = false → b.source = some t → c ∉ active →
      ∃ d, R.source.types[t]? = some d ∧ Total (ofDecl R (classify R (c :: active)) d)) :
    Total (classify R active c) := by
  intro found
  cases standIn : b.standIn with
  | true => exact ⟨_, _, classify_standIn bound standIn⟩
  | false =>
      cases noted : found[c]? with
      | some k => exact ⟨_, _, classify_noted bound standIn noted⟩
      | none =>
          cases source : b.source with
          | none => exact ⟨_, _, classify_unsourced bound standIn noted source⟩
          | some t =>
              by_cases mem : c ∈ active
              · exact ⟨_, _, classify_active bound standIn noted source mem⟩
              · obtain ⟨d, declared, total⟩ := total t standIn source mem
                obtain ⟨k, between, run⟩ := total found
                refine ⟨k, between.insert c k, ?_⟩
                simp [classify_fresh bound standIn noted source mem, declared, run]

/-- The class of a binding is always answered, whichever bindings are being looked at. -/
theorem classify_total (coherent : R.Coherent) (valid : R.source.FieldsDeclared)
    {active : List TypeBindingId} {c : TypeBindingId} {b : TypeBinding}
    (bound : R.types[c]? = some b) : Total (classify R active c) := by
  refine classify_total_of_decl bound fun t _ source fresh => ?_
  rcases coherent.declared bound source with ⟨d, declared⟩
  -- The fields only ask for bindings that are found, and these exist.
  refine ⟨d, declared, ofDecl_total fun field mem => ?_⟩
  have inRange := valid t d declared field (List.mem_filter.1 mem).1
  exact fieldBlittable_total coherent (fun bound' => classify_total coherent valid bound') inRange
termination_by inactive R active
decreasing_by exact inactive_cons_lt bound fresh

/-! ## The least class -/

/-- The declarations of references: those whose class no field has a say in. -/
theorem declHasClass_reference_iff {notes : Memo} {d : TypeDecl} :
    DeclHasClass R notes d .reference ↔
      d.form ≠ .structType ∨ Corlib.isPrimitive d.fullName = false ∧ d.hasKnownBase = false := by
  -- The cases of the definition in turn: all but these two give a class of structs.
  unfold DeclHasClass
  split
  · next other => simp [other]
  · next isStruct =>
    split
    · next isPrimitive => simp_all
    · split
      · next unknownBase => simp_all
      · by_cases plain : d.params.isEmpty <;> simp_all

/-- The bindings that are references: those whose class no field has a say in. -/
theorem HasClass.eq_reference_iff (has : HasClass R ∅ c k) {b : TypeBinding}
    (bound : R.types[c]? = some b) :
    k = .reference ↔ b.standIn ∨ b.source = none ∨ ∃ t d, b.source = some t ∧
      R.source.types[t]? = some d ∧
        (d.form ≠ .structType ∨ Corlib.isPrimitive d.fullName = false ∧
          d.hasKnownBase = false) := by
  rcases has with ⟨b', bound', has⟩
  cases bound.symm.trans bound'
  cases standIn : b.standIn with
  | true => simpa [standIn] using has
  | false =>
      cases source : b.source with
      | none => simpa [standIn, source] using has
      | some t =>
          obtain ⟨d, declared, has⟩ : ∃ d, R.source.types[t]? = some d ∧ DeclHasClass R ∅ d k := by
            simpa [standIn, source] using has
          have iff : k = .reference ↔
              d.form ≠ .structType ∨ Corlib.isPrimitive d.fullName = false ∧
              d.hasKnownBase = false :=
            ⟨fun eq => declHasClass_reference_iff.1 (eq ▸ has),
              fun reference => has.unique (declHasClass_reference_iff.2 reference)⟩
          simp [iff, declared]

end Layout

namespace Registry

/-- In a registry that is built first and asked then, a binding is answered with the class that it
has over no notes, whatever was asked before. -/
theorem exists_classOf_of_built {corlib : String} {source : Source.Catalog}
    {target : Target.Catalog} {rs : List Registration} {R : Registry}
    (built : (start corlib source target).registerAll rs = some R) (valid : source.FieldsDeclared)
    (qs : List Question) {c : TypeBindingId} {b : TypeBinding} (bound : R.types[c]? = some b) :
    ∃ k notes, (R.classOf c).run (R.notesAfter {} qs) = (.ok k, notes) ∧
      Layout.HasClass R ∅ c k := by
  have coherent : R.Coherent := coherent_registerAll (.start corlib source target) built
  have sameSource : R.source = source := source_registerAll built
  have settled : Layout.Settled R ∅ (R.notesAfter {} qs).classes :=
    settled_notesAfter (.refl R ∅) qs
  have total : Layout.Total (Layout.classify R [] c) :=
    Layout.classify_total coherent (sameSource ▸ valid) bound
  rcases total (R.notesAfter {} qs).classes with ⟨k, classes, run⟩
  have answered : (R.classOf c).run (R.notesAfter {} qs) =
      (.ok k, { R.notesAfter {} qs with classes }) :=
    classOf_eq_ok_iff.2 ⟨classes, run, rfl⟩
  exact ⟨k, _, answered, hasClass_of_classOf settled answered⟩

/-- A binding of a registry that is built first and asked then has an answer, which is its least
class, whatever was asked before. -/
theorem classOf_least {corlib : String} {source : Source.Catalog} {target : Target.Catalog}
    {rs : List Registration} {R : Registry}
    (built : (start corlib source target).registerAll rs = some R) (valid : source.FieldsDeclared)
    (qs : List Question) {c : TypeBindingId} {b : TypeBinding} (bound : R.types[c]? = some b) :
    ∃ k notes, (R.classOf c).run (R.notesAfter {} qs) = (.ok k, notes) ∧
      (k = .reference ↔ b.standIn ∨ b.source = none ∨ ∃ t d, b.source = some t ∧
        source.types[t]? = some d ∧
          (d.form ≠ .structType ∨ Corlib.isPrimitive d.fullName = false ∧ d.hasKnownBase = false)) ∧
      (k = .blittable ↔ Layout.BindingDerivable R ∅ c .blittable) ∧
      (k = .genericBlittable ↔ Layout.BindingDerivable R ∅ c .genericBlittable) := by
  have sameSource : R.source = source := source_registerAll built
  rcases exists_classOf_of_built built valid qs bound with ⟨k, notes, answered, has⟩
  subst sameSource
  exact ⟨k, notes, answered, has.eq_reference_iff bound, has.eq_iff_derivable rfl,
    has.eq_iff_derivable rfl⟩

end Registry

/-! ## A program with types that hold themselves -/

namespace Sample

def structOf (name : String) (params : List String) (fields : List Source.Signature) :
    Source.TypeDecl :=
  { assembly := ⟨0⟩
    space := "Sample"
    name
    form := .structType
    base := some (.named ⟨0⟩)
    params := params.map fun name => { name }
    fields := fields.map fun type => { name := "field", type } }

/-- A node holds a list of nodes, which is behind a pointer, and a loop holds itself. -/
def source : Source.Catalog where
  assemblies := ⟨#["mscorlib"]⟩
  types := ⟨#[
    { assembly := ⟨0⟩, space := "System", name := "ValueType", form := .classType },
    { assembly := ⟨0⟩, space := "System", name := "Int32", form := .structType },
    { assembly := ⟨0⟩, space := "System", name := "String", form := .classType },
    structOf "List" ["T"] [.pointer (.param (.type ⟨3⟩) 0), .named ⟨1⟩],
    structOf "Node" [] [.inst ⟨3⟩ [.named ⟨4⟩], .named ⟨1⟩],
    structOf "Loop" [] [.named ⟨5⟩],
    structOf "Names" [] [.inst ⟨3⟩ [.named ⟨2⟩]]]⟩

/-- One output type for each source type, and a last one that stands in for lists. -/
def target : Target.Catalog where
  modules := ⟨#["Output"]⟩
  types := ⟨(Array.range 8).map fun i =>
    { module := ⟨0⟩, space := "Output", name := "Type" ++ toString i, arity := 0 }⟩

def registrations : List Registration :=
  .assembly ⟨0⟩ ⟨0⟩ :: (List.range 7).map (fun i => .type ⟨0⟩ (some ⟨i⟩) ⟨i⟩)
    ++ [.standIn ⟨0⟩ (some ⟨3⟩) ⟨7⟩, .counterpart ⟨3⟩ ⟨7⟩]

def registry : Registry :=
  ((Registry.start "mscorlib" source target).registerAll registrations).getD {}

theorem registry_built : (Registry.start "mscorlib" source target).registerAll registrations =
    some registry :=
  rfl

end Sample

/-- The class of a node after the class of a loop was asked for. -/
theorem Registry.classOf_least_node :
    ∃ k notes, (Sample.registry.classOf ⟨4⟩).run (Sample.registry.notesAfter {} [.classOf ⟨5⟩]) =
      (.ok k, notes) ∧
      (k = .blittable ↔ Layout.BindingDerivable Sample.registry ∅ ⟨4⟩ .blittable) := by
  obtain ⟨k, notes, run, -, derivable, -⟩ :=
    Registry.classOf_least Sample.registry_built (by decide)
      [.classOf ⟨5⟩] (show Sample.registry.types[(⟨4⟩ : TypeBindingId)]? = some _ from rfl)
  exact ⟨k, notes, run, derivable⟩

/-- Lists and nodes are blittable, for a node holds other nodes behind a pointer only; loops are
not. -/
example :
    ([⟨3⟩, ⟨4⟩, ⟨5⟩].map fun c => ((Layout.classify Sample.registry [] c).run ∅).map (·.1))
      = [some .genericBlittable, some .blittable, some .nonBlittable] := by
  decide +kernel

end TypeProjection
