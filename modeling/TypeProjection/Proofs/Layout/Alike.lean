import TypeProjection.Proofs.Effect
import TypeProjection.Proofs.Layout.Settled

/-!
# Proofs.Layout.Alike — classifiers that ask alike

A field asks for the classes of bindings, one after the other, and its answer is made of theirs. So
what relates the answers for bindings relates the answers for fields and declarations:

* `SameBindings`           : registries that are the same for the classifier;
* `SameLookups`            : registries that find the same bindings for the same types;
* `ofDecl_alike`           : the classes of a declaration are related where those of bindings are;
* `classify_eq_of_lookups` : the search goes the same way where the same bindings are found;
* `classify_congr`         : so it does in registries with the same bindings.
-/

namespace TypeProjection.Layout

open Source (Signature TypeDecl)

/-- Two registries have the same source catalog and the same bindings, and find them for the same
types. -/
structure SameBindings (R R' : Registry) : Prop where
  source : R'.source = R.source
  types : R'.types = R.types
  binding : ∀ t, R'.binding? t = R.binding? t

theorem SameBindings.refl (R : Registry) : SameBindings R R := ⟨rfl, rfl, fun _ => rfl⟩

theorem SameBindings.withTarget (R : Registry) (target : Target.Catalog) :
    SameBindings R { R with target } :=
  ⟨rfl, rfl, fun _ => rfl⟩

/-- Two registries have the same source catalog, and find the same bindings for the same types. -/
structure SameLookups (R R' : Registry) : Prop where
  source : R'.source = R.source
  binding : ∀ t, R'.binding? t = R.binding? t

theorem SameLookups.refl (R : Registry) : SameLookups R R := ⟨rfl, fun _ => rfl⟩

theorem SameBindings.lookups {R R' : Registry} (same : SameBindings R R') : SameLookups R R' :=
  ⟨same.source, same.binding⟩

variable {Q : ∀ {α : Type}, Classifier α → Classifier α → Prop} {R R' : Registry}
  {classOf classOf' : TypeBindingId → Classifier LayoutClass}

/-- What comes after a look-up need only be related for what is found. -/
theorem composable_lookup {α β : Type} (composable : Composable Option Classifier Q) {o : Option α}
    {f f' : α → Classifier β} (rest : ∀ a, o = some a → Q (f a) (f' a)) :
    Q (liftM o >>= f) (liftM o >>= f') := by
  cases o with
  | none => exact composable.lift none
  | some a => exact rest a rfl

theorem argsBlittable_alike (composable : Composable Option Classifier Q) {generic : Source.TypeId}
    {d : TypeDecl} {position : Nat} {args : List Signature}
    (alike : ∀ {i : Nat} {arg : Signature}, args[i]? = some arg → d.embeds generic (position + i) →
      Q (fieldBlittable R classOf arg) (fieldBlittable R' classOf' arg)) :
    Q (argsBlittable R classOf generic d position args)
      (argsBlittable R' classOf' generic d position args) := by
  induction args generalizing position with
  | nil =>
      rw [argsBlittable, argsBlittable]
      exact composable.pure true
  | cons arg args ih =>
      have shift : ∀ i, position + 1 + i = position + (i + 1) := fun i => by omega
      have rest := @ih (position + 1) fun {i _} found embedded =>
        alike (i := i + 1) found (shift i ▸ embedded)
      rw [argsBlittable, argsBlittable]
      split
      · next embedded =>
        refine composable.bind (alike (i := 0) rfl embedded) fun blittable => ?_
        cases blittable with
        | true => exact rest
        | false => exact composable.pure false
      · exact rest

/-- The answers for a field are related, if those for the bindings that it asks for are. -/
theorem fieldBlittable_alike (composable : Composable Option Classifier Q) (same : SameLookups R R')
    {s : Signature} (alike : ∀ {c : TypeBindingId}, FieldNeeds R s c → Q (classOf c) (classOf' c)) :
    Q (fieldBlittable R classOf s) (fieldBlittable R' classOf' s) := by
  induction s with
  | named t =>
      rw [fieldBlittable, fieldBlittable, same.source, same.binding]
      refine composable_lookup composable fun d _ => ?_
      split
      · split
        · exact composable.pure false
        · next c bound => exact composable.bind (alike (.named bound)) fun k => composable.pure _
      · exact composable.pure false
  | inst generic args ih =>
      rw [fieldBlittable, fieldBlittable, same.source, same.binding]
      refine composable_lookup composable fun d declared => ?_
      split
      · exact composable.pure false
      · next c bound =>
        refine composable.bind (alike (.head bound)) fun k => ?_
        split
        · exact argsBlittable_alike composable fun found embedded =>
            ih _ (List.mem_of_getElem? found) fun need =>
              alike (.argument declared found (by simpa using embedded) need)
        · exact composable.pure false
  | _ =>
      rw [fieldBlittable, fieldBlittable]
      exact composable.pure _

theorem allBlittable_alike (composable : Composable Option Classifier Q)
    {fields : List Source.Field}
    (alike : ∀ field ∈ fields, Q (fieldBlittable R classOf field.type)
      (fieldBlittable R' classOf' field.type)) :
    Q (fields.allM fun field => fieldBlittable R classOf field.type)
      (fields.allM fun field => fieldBlittable R' classOf' field.type) := by
  induction fields with
  | nil => exact composable.pure true
  | cons field fields ih =>
      rw [List.allM, List.allM]
      refine composable.bind (alike field List.mem_cons_self) fun blittable => ?_
      cases blittable with
      | true => exact ih fun field mem => alike field (List.mem_cons_of_mem _ mem)
      | false => exact composable.pure false

/-- The classes of a declaration are related, if those of the bindings that its fields ask for
are. -/
theorem ofDecl_alike (composable : Composable Option Classifier Q) (same : SameLookups R R')
    {d : TypeDecl} (alike : ∀ {field : Source.Field} {c : TypeBindingId}, d.form = .structType →
      Corlib.isPrimitive d.fullName = false → d.hasKnownBase → field ∈ d.instanceFields →
      FieldNeeds R field.type c → Q (classOf c) (classOf' c)) :
    Q (ofDecl R classOf d) (ofDecl R' classOf' d) := by
  unfold ofDecl
  split
  · exact composable.pure _
  · next isStruct =>
    split
    · exact composable.pure _
    · next notPrimitive =>
      split
      · exact composable.pure _
      · next knownBase =>
        have all := allBlittable_alike composable fun field mem =>
          fieldBlittable_alike composable same
            fun need => alike (by simpa using isStruct) (by simpa using notPrimitive)
              (by simpa using knownBase) mem need
        refine composable.bind all fun blittable => ?_
        cases blittable with
        | true => exact composable.pure _
        | false => exact composable.pure _

/-! ## Bindings -/

theorem FieldNeeds.exists_binding {s : Signature} {c : TypeBindingId} (need : FieldNeeds R s c) :
    ∃ t, R.binding? t = some c := by
  induction need with
  | named bound => exact ⟨_, bound⟩
  | head bound => exact ⟨_, bound⟩
  | argument _ _ _ _ ih => exact ih

/-- The search goes the same way in registries that find the same bindings, from a binding that is
the same in both. -/
theorem classify_eq_of_lookups (same : SameLookups R R')
    (found : ∀ {t : Source.TypeId} {c : TypeBindingId}, R.binding? t = some c →
      R'.types[c]? = R.types[c]?)
    (active : List TypeBindingId) (c : TypeBindingId) (here : R'.types[c]? = R.types[c]?) :
    classify R' active c = classify R active c := by
  funext notes
  cases bound : R.types[c]? with
  | none => exact (classify_unbound (here.trans bound)).trans (classify_unbound bound).symm
  | some b =>
      have bound' : R'.types[c]? = some b := here.trans bound
      cases standIn : b.standIn with
      | true => exact (classify_standIn bound' standIn).trans (classify_standIn bound standIn).symm
      | false =>
          cases noted : notes[c]? with
          | some k =>
              exact (classify_noted bound' standIn noted).trans
                (classify_noted bound standIn noted).symm
          | none =>
              cases source : b.source with
              | none =>
                  exact (classify_unsourced bound' standIn noted source).trans
                    (classify_unsourced bound standIn noted source).symm
              | some t =>
                  by_cases mem : c ∈ active
                  · exact (classify_active bound' standIn noted source mem).trans
                      (classify_active bound standIn noted source mem).symm
                  · -- The bindings that the fields ask for are looked for in the same way.
                    have decl : ∀ d, ofDecl R (classify R (c :: active)) d =
                        ofDecl R' (classify R' (c :: active)) d := fun d =>
                      ofDecl_alike composable_eq same fun {_ c'} _ _ _ _ need => by
                        rcases need.exists_binding with ⟨t', leads⟩
                        exact (classify_eq_of_lookups same found (c :: active) c'
                          (found leads)).symm
                    refine (classify_fresh bound' standIn noted source mem).trans
                      (Eq.trans ?_ (classify_fresh bound standIn noted source mem).symm)
                    simp only [same.source, decl]
termination_by inactive R active
decreasing_by exact inactive_cons_lt bound mem

/-- The search goes the same way in registries with the same bindings. -/
theorem classify_congr (same : SameBindings R R') (active : List TypeBindingId)
    (c : TypeBindingId) :
    classify R' active c = classify R active c :=
  classify_eq_of_lookups same.lookups (fun _ => by rw [same.types]) active c (by rw [same.types])

end TypeProjection.Layout
