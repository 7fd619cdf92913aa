import TypeProjection.Proofs.Layout.Found
import TypeProjection.Proofs.Layout.Lasting
import TypeProjection.Proofs.Layout.Noted
import TypeProjection.Proofs.Projection.Form
import TypeProjection.Source.Occurrence

/-!
# Proofs.Projection.Proven — what is known to be unmanaged crosses as it is

Whether a reference is known to be unmanaged and whether a field of its type crosses as it is are
asked in different ways: the one looks at marks in the output and fails where a binding is lacking,
the other looks at forms in the source, leaves out arguments that are kept behind pointers only, and
cuts cycles. The first is the stricter one, as long as generic types are applied where they are
named:

* `Source.Catalog.appliesGenerics` : references that name no generic type without its arguments;
* `fieldDerivable_of_proven` : what is known to be unmanaged has a reason to cross as it is;
* `endures_sinceThen` : how a workspace relates to an earlier one when nothing was bound in between;
* `Workspace.isBlittable_of_proven` : so a struct all of whose fields are known to be unmanaged is
  blittable.
-/

namespace TypeProjection

open Layout (Memo Settled HasClass FieldDerivable BindingDerivable SourceHas Fits)

/-! ## Generic types and their arguments -/

namespace Source.Catalog

/-- Whether a reference itself, apart from the references within it, is no generic type without
arguments. -/
def appliesGeneric (C : Catalog) : Signature → Bool
  | .named t => C.types[t]?.all (·.params.isEmpty)
  | _ => true

/-- Whether no part of a reference names a generic type without its arguments. -/
def appliesGenerics (C : Catalog) (s : Signature) : Bool := s.parts.all C.appliesGeneric

variable {C : Catalog}

theorem params_of_appliesGenerics {t : TypeId} {d : TypeDecl}
    (applied : C.appliesGenerics (.named t)) (declared : C.types[t]? = some d) : d.params = [] := by
  have own : C.appliesGeneric (.named t) :=
    List.all_eq_true.1 applied _ (Signature.self_mem_parts _)
  simpa [appliesGeneric, declared] using own

theorem appliesGenerics_arg {generic : TypeId} {args : List Signature} {arg : Signature}
    (applied : C.appliesGenerics (.inst generic args)) (mem : arg ∈ args) : C.appliesGenerics arg :=
  List.all_eq_true.2 fun part within =>
    List.all_eq_true.1 applied part (Signature.parts_arg mem within)

end Source.Catalog

/-! ## Reasons -/

section Reasons

variable {R : Registry} {m : Memo} {into : Target.ModuleId} {boxed : Bool} {t : Source.TypeId}
  {s : Source.Signature}

/-- A type that is known to be blittable by name is bound, and there is a reason for the class of
its binding. -/
theorem exists_derivable_of_isBlittable (coherent : R.Coherent)
    (yields : R.Yields m (R.isBlittable t) true) :
    ∃ d c k, R.source.types[t]? = some d ∧ R.binding? t = some c ∧ HasClass R m c k ∧
      BindingDerivable R m c k := by
  rcases yields.isBlittable with ⟨c, k, bound, has, isBlittable⟩
  rcases coherent.binding?_source bound with ⟨b, d, -, -, declared⟩
  exact ⟨d, c, k, declared, bound, has, has.derivable isBlittable⟩

/-- What is known to be unmanaged has a reason to cross as it is: each mark, class and argument that
was looked at leads to a reason, and what was not looked at matters for neither. -/
theorem fieldDerivable_of_proven (coherent : R.Coherent)
    (fits : ∀ (c : TypeBindingId) (k : LayoutClass), HasClass R m c k → k.isBlittable →
      SourceHas R Fits c k)
    (applied : R.source.appliesGenerics s)
    (yields : R.Yields m (R.provenUnmanaged into boxed s) true) :
    FieldDerivable R m s := by
  induction s with
  | named t =>
      rw [Registry.provenUnmanaged] at yields
      obtain ⟨d, c, k, declared, bound, has, reason⟩ :=
        exists_derivable_of_isBlittable coherent yields
      have fit : Fits R.source t d k :=
        (fits c k has reason.isBlittable).of_found coherent bound declared
      -- A generic type cannot stand here alone, so that its class is the one that fields ask for.
      have isClass : k = .blittable := by
        cases k with
        | blittable => rfl
        | genericBlittable =>
            exact absurd (Source.Catalog.params_of_appliesGenerics applied declared)
              (fit.generic rfl).2
        | _ => cases reason.isBlittable
      exact .named declared fit.isStruct bound (isClass ▸ reason)
  | inst generic args ih =>
      obtain ⟨proven, head⟩ := yields.provenUnmanaged_inst
      obtain ⟨d, c, k, declared, bound, -, reason⟩ := exists_derivable_of_isBlittable coherent head
      refine .inst declared bound reason fun position arg found _ => ?_
      have mem : arg ∈ args := List.mem_of_getElem? found
      exact ih arg mem (Source.Catalog.appliesGenerics_arg applied mem) (proven arg mem)
  | pointer target => exact .pointer target
  | param owner position => exact .param owner position
  | _ =>
      rw [Registry.provenUnmanaged] at yields
      exact absurd yields.pure Bool.false_ne_true

/-- So a plain struct with a known base all of whose fields are known to be unmanaged is
blittable. -/
theorem exists_derivable_of_proven (coherent : R.Coherent)
    (fits : ∀ (c : TypeBindingId) (k : LayoutClass), HasClass R m c k → k.isBlittable →
      SourceHas R Fits c k)
    {c : TypeBindingId} {d : Source.TypeDecl} (undecided : Layout.Undecided R m c t d)
    (isStruct : d.form = .structType) (knownBase : d.hasKnownBase)
    (proven : ∀ field ∈ d.instanceFields, R.source.appliesGenerics field.type ∧
      ∃ into boxed, R.Yields m (R.provenUnmanaged into boxed field.type) true) :
    ∃ k, BindingDerivable R m c k := by
  cases isPrimitive : Corlib.isPrimitive d.fullName with
  | true => exact ⟨_, .primitive undecided isStruct isPrimitive⟩
  | false =>
      refine ⟨_, .fields undecided isStruct isPrimitive knownBase fun field mem => ?_⟩
      obtain ⟨applied, into, boxed, yields⟩ := proven field mem
      exact fieldDerivable_of_proven coherent fits applied yields

end Reasons

/-! ## Runs that bind nothing -/

/-- A workspace has come from an earlier one without registrations: it has the same bindings, and
its notes follow from those of that time. -/
structure SinceThen (R : Registry) (m : Memo) (W : Workspace) : Prop where
  registry : ∃ target, W.registry = { R with target }
  settled : Settled W.registry m W.notes.classes

theorem endures_sinceThen (R : Registry) (m : Memo) : Endures (SinceThen R m) where
  asked q since :=
    ⟨since.registry, ((Registry.settled_undisturbed _ m).answer q).keeps _ since.settled⟩
  edited _ since := by
    rcases since.registry with ⟨target, eq⟩
    exact ⟨⟨_, by rw [eq]⟩, Layout.settled_withTarget_iff.2 since.settled⟩

namespace Workspace

variable {W : Workspace} {c : TypeBindingId} {b : TypeBinding} {t : Source.TypeId}
  {d : Source.TypeDecl}

/-- If the fields of a struct are known to be unmanaged, each at this or a later time, then the
struct is classified as blittable or generically blittable for good. -/
theorem isBlittable_of_proven (reachable : W.Reachable) (unclassified : W.notes.classes.isEmpty)
    {later : List Step} (bindsNothing : ∀ step ∈ later, ∀ r, step ≠ .register r)
    (bound : W.registry.types[c]? = some b) (plain : b.standIn = false) (source : b.source = some t)
    (declared : W.registry.source.types[t]? = some d) (isStruct : d.form = .structType)
    (knownBase : d.hasKnownBase)
    (proven : ∀ field ∈ d.instanceFields, W.registry.source.appliesGenerics field.type ∧
      ∃ into boxed qs, (((W.after later).registry.provenUnmanaged into boxed field.type).run
        ((W.after later).registry.notesAfter (W.after later).notes qs)).1 = .ok true) :
    ∃ k, k.isBlittable ∧ ∀ qs, (((W.after later).registry.classOf c).run
      ((W.after later).registry.notesAfter (W.after later).notes qs)).1 = .ok k := by
  have since : SinceThen W.registry W.notes.classes (W.after later) :=
    (endures_sinceThen W.registry W.notes.classes).after ⟨⟨_, rfl⟩, .refl _ _⟩ bindsNothing
  generalize W.after later = W' at since proven ⊢
  rcases W' with ⟨R, notes⟩
  rcases since with ⟨⟨target, rfl⟩, settled⟩
  have settledAfter := Registry.settled_notesAfter settled
  have unnoted : ∀ c : TypeBindingId, W.notes.classes[c]? = none := fun c =>
    Std.TreeMap.getElem?_of_isEmpty unclassified
  have fits : ∀ (c : TypeBindingId) (k : LayoutClass),
    HasClass { W.registry with target } W.notes.classes c k →
      k.isBlittable → SourceHas { W.registry with target } Fits c k := fun c k has isBlittable =>
    Layout.fits_sound.of_reachable reachable (Layout.hasClass_withTarget_iff.1 has) isBlittable
  have reason := exists_derivable_of_proven (R := { W.registry with target })
    (reachable.coherent.withTarget target)
    fits ⟨⟨b, bound, plain, source⟩, unnoted c, declared⟩ isStruct knownBase fun field mem => by
      obtain ⟨applied, into, boxed, qs, answered⟩ := proven field mem
      exact ⟨applied, into, boxed, _, _, settledAfter qs, Effect.run_eq answered⟩
  rcases reason with ⟨k, reason⟩
  refine ⟨k, reason.isBlittable, fun qs => ?_⟩
  -- The search ends, because it meets nothing but what the reason mentions.
  have scratch : Layout.FromScratch { W.registry with target } W.notes.classes := by
    intro c k noted
    simp [unnoted] at noted
  have lasting := Layout.ne_nonBlittable_of_isBlittable reason.isBlittable
  rcases (reason.hasClass.fromScratch scratch lasting).total lasting
    (Registry.notesAfter _ notes qs).classes
    with ⟨k', classes, found⟩
  have run := Registry.classOf_eq_ok_iff.2 ⟨classes, found, rfl⟩
  rw [run, (Registry.hasClass_of_classOf (settledAfter qs) run).unique reason.hasClass]

end Workspace

namespace Sample

/-- The sample program after its registrations. -/
def unasked : Workspace :=
  (Workspace.start "mscorlib" source target).after (registrations.map Step.register)

/-- The class of loops is asked for, and the output is completed. -/
def answered : Workspace := unasked.after [.ask (.classOf ⟨5⟩), .complete]

end Sample

/-- In the sample program, whether the list of nodes in a node is known to be unmanaged hangs on the
class of nodes itself; it is, after a completion, and nodes are blittable. -/
theorem Workspace.isBlittable_of_proven_node :
    Sample.unasked.notes.classes.isEmpty ∧
      ((Sample.answered.registry.provenUnmanaged ⟨0⟩ false (.inst ⟨3⟩ [.named ⟨4⟩])).run
        Sample.answered.notes).1 =
        .ok true ∧
      ∃ k, k.isBlittable ∧ ∀ qs, ((Sample.answered.registry.classOf ⟨4⟩).run
        (Sample.answered.registry.notesAfter Sample.answered.notes qs)).1 = .ok k := by
  have unclassified : Sample.unasked.notes.classes.isEmpty := by decide +kernel
  have list : ((Sample.answered.registry.provenUnmanaged ⟨0⟩ false (.inst ⟨3⟩ [.named ⟨4⟩])).run
      Sample.answered.notes).1 = .ok true := by
    decide +kernel
  have number : ((Sample.answered.registry.provenUnmanaged ⟨0⟩ false (.named ⟨1⟩)).run
      Sample.answered.notes).1 = .ok true := by
    decide +kernel
  have node : Sample.unasked.registry.types[(⟨4⟩ : TypeBindingId)]?.map
    (fun b => (b.standIn, b.source)) =
      some (false, some ⟨4⟩) := by
    decide +kernel
  have declared : Sample.unasked.registry.source.types[(⟨4⟩ : Source.TypeId)]? =
      some (Sample.structOf "Node" [] [.inst ⟨3⟩ [.named ⟨4⟩], .named ⟨1⟩]) := by
    decide +kernel
  have reachable : Sample.unasked.Reachable := ⟨_, _, _, _, rfl⟩
  rcases Option.map_eq_some_iff.1 node with ⟨b, bound, eq⟩
  simp only [Prod.mk.injEq] at eq
  refine ⟨unclassified, list,
    isBlittable_of_proven reachable unclassified (by simp) bound eq.1 eq.2 declared rfl rfl ?_⟩
  intro field mem
  rcases Sample.mem_instanceFields_structOf.1 mem with ⟨s, memField, rfl⟩
  simp only [List.mem_cons, List.not_mem_nil, or_false] at memField
  rcases memField with rfl | rfl
  · exact ⟨by decide +kernel, ⟨0⟩, false, [], list⟩
  · exact ⟨by decide +kernel, ⟨0⟩, false, [], number⟩

end TypeProjection
