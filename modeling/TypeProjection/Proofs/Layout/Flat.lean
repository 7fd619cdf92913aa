import TypeProjection.Layout.Unfolding
import TypeProjection.Proofs.Layout.LeastClass
import TypeProjection.Proofs.Layout.Noted
import TypeProjection.Proofs.Projection.Form

/-!
# Proofs.Layout.Flat — blittable types have flat layouts

The classifier looks at the fields of a generic type once, with the parameters standing in them, and
skips arguments that are kept behind pointers only. This module shows that this is enough: in a
well-scoped catalog the layout of everything that is found blittable or unmanaged unfolds into
pointers and primitives.

* `FlatWhereApplied` : a struct whose layout is flat wherever those of the arguments that it embeds
  are;
* `flat_of_derivable` : every struct with a reason to be blittable is such a struct;
* `flat_of_reachable` : what is found blittable or unmanaged in a reachable workspace is flat.

A field with a reason is flat after any flat arguments have been put in; this is by induction on the
reason, for the fields of a struct may apply it to itself again.
-/

namespace TypeProjection

namespace Layout

open Source (Catalog Signature TypeDecl TypeId)

/-- A struct whose layout is flat wherever it is applied to arguments of which those that it embeds
are. -/
structure FlatWhereApplied (C : Catalog) (t : TypeId) (d : TypeDecl) : Prop where
  named : Corlib.isPrimitive d.fullName ∨ d.params = [] → FlatLayout C (fun _ => True) (.named t)
  inst : ∀ {args : List Signature}, args.length = d.params.length →
    (∀ (position : Nat) (arg : Signature), args[position]? = some arg → d.embeds t position →
      FlatLayout C (fun _ => True) arg) →
    FlatLayout C (fun _ => True) (.inst t args)

/-- What is said of declarations with a blittable class: in a well-scoped catalog they are flat. -/
def IsFlat : ClassProperty := fun C t d _ => C.WellScoped → FlatWhereApplied C t d

theorem FlatWhereApplied.of_primitive {C : Catalog} {t : TypeId} {d : TypeDecl}
    (declared : C.types[t]? = some d) (isStruct : d.form = .structType)
    (isPrimitive : Corlib.isPrimitive d.fullName) :
    FlatWhereApplied C t d where
  named _ := .primitive declared isStruct isPrimitive trivial
  inst _ _ := .primitiveInst declared isStruct isPrimitive trivial

variable {R : Registry} {notes : Memo}

/-! ## Reasons make layouts flat -/

/-- With flat arguments put in, a field with a reason is flat; and so is a struct with a reason. -/
theorem flat_of_derivable (coherent : R.Coherent) (noted : Noted IsFlat R notes) :
    (∀ {s}, FieldDerivable R notes s → R.source.WellScoped →
      R.source.HoldsWhereFilled (FlatLayout R.source fun _ => True) s) ∧
    (∀ {c k}, BindingDerivable R notes c k → SourceHas R IsFlat c k) := by
  apply derivable_induct
  case param => exact fun owner position _ => .param owner position
  case pointer =>
    intro target _ generic d args _ _ _
    exact .pointer _
  case named =>
    intro t d c declared isStruct bound has wellScoped
    have flat := has.of_found coherent bound declared wellScoped
    exact .named declared fun noParams => flat.named (.inr noParams)
  case inst =>
    intro t inner d c k declared bound has ih wellScoped
    have flat := has.of_found coherent bound declared wellScoped
    refine .inst declared flat.inst fun position arg found embedded => ?_
    exact ih position arg found embedded wellScoped
  case noted =>
    intro c b k bound plain found isBlittable
    exact noted found isBlittable
  case primitive =>
    intro c t d undecided isStruct isPrimitive
    rcases undecided with ⟨⟨b, bound, plain, source⟩, -, declared⟩
    exact ⟨b, t, d, bound, plain, source, declared,
      fun _ => .of_primitive declared isStruct isPrimitive⟩
  case fields =>
    intro c t d undecided isStruct notPrimitive knownBase ih
    rcases undecided with ⟨⟨b, bound, plain, source⟩, -, declared⟩
    refine ⟨b, t, d, bound, plain, source, declared, fun wellScoped => ⟨fun simple => ?_, ?_⟩⟩
    · have noParams : d.params = [] := simple.resolve_left (by simp [notPrimitive])
      refine .named declared isStruct notPrimitive trivial fun field mem => ?_
      exact (ih field mem wellScoped).instanceField_of_noParams wellScoped declared mem noParams
    · intro args length flat
      refine .inst declared isStruct notPrimitive trivial fun field mem => ?_
      exact (ih field mem wellScoped).instanceField wellScoped declared mem length flat

theorem isFlat_sound : Sound IsFlat := fun coherent noted => (flat_of_derivable coherent noted).2

/-! ## Reachable workspaces -/

variable {W : Workspace} {c : TypeBindingId} {k : LayoutClass}

/-- A binding of a reachable workspace whose class is blittable has a flat layout wherever it is
applied. -/
theorem flatWhereApplied_of_hasClass (reachable : W.Reachable)
    (wellScoped : W.registry.source.WellScoped) (has : HasClass W.registry W.notes.classes c k)
    (isBlittable : k.isBlittable) {b : TypeBinding} {t : TypeId} {d : TypeDecl}
    (bound : W.registry.types[c]? = some b) (source : b.source = some t)
    (declared : W.registry.source.types[t]? = some d) :
    FlatWhereApplied W.registry.source t d ∧ Fits W.registry.source t d k := by
  have isFlat := isFlat_sound.of_reachable reachable has isBlittable
  have fits := fits_sound.of_reachable reachable has isBlittable
  exact ⟨isFlat.of_bound bound source declared wellScoped, fits.of_bound bound source declared⟩

/-- A closed reference that is known to be unmanaged has a flat layout. -/
theorem flat_of_provenUnmanaged (reachable : W.Reachable)
    (wellScoped : W.registry.source.WellScoped) {into : Target.ModuleId} {boxed : Bool}
    {s : Signature} (closed : W.registry.source.IsClosed s)
    (proven : W.registry.Yields W.notes.classes (W.registry.provenUnmanaged into boxed s) true) :
    FlatLayout W.registry.source (fun _ => True) s := by
  -- The struct that a reference names or applies is flat wherever it is applied.
  have applied : ∀ {t : TypeId}, W.registry.Yields W.notes.classes (W.registry.isBlittable t) true →
      ∃ d, W.registry.source.types[t]? = some d ∧ FlatWhereApplied W.registry.source t d := by
    intro t yields
    rcases yields.isBlittable with ⟨c, k, bound, has, isBlittable⟩
    rcases reachable.coherent.binding?_source bound with ⟨b, d, found, source, declared⟩
    have applied :=
      flatWhereApplied_of_hasClass reachable wellScoped has isBlittable found source declared
    exact ⟨d, declared, applied.1⟩
  induction s with
  | named t =>
      rw [Registry.provenUnmanaged] at proven
      rcases applied proven with ⟨d, declared, flat⟩
      have plain : d.params = [] := by
        simpa [Catalog.IsClosed, Catalog.wellFormed, declared] using closed
      exact flat.named (.inr plain)
  | inst generic args ih =>
      rcases proven.provenUnmanaged_inst with ⟨provenArgs, provenHead⟩
      rcases applied provenHead with ⟨d, declared, flat⟩
      rcases Catalog.wellFormed_inst closed declared with ⟨length, closedArgs⟩
      -- Here all arguments are known to be unmanaged, also those behind pointers.
      refine flat.inst length fun position arg found _ => ?_
      have mem : arg ∈ args := List.mem_of_getElem? found
      exact ih arg mem (closedArgs arg mem) (provenArgs arg mem)
  | pointer target => exact .pointer target
  | param owner position => simp [Catalog.IsClosed, Catalog.wellFormed] at closed
  | _ =>
      rw [Registry.provenUnmanaged] at proven
      cases proven.pure

end Layout

/-! ## What is found blittable is flat -/

namespace Workspace

open Layout (FlatLayout)
open Source (Signature TypeDecl TypeId)

/-- In a reachable workspace over a well-scoped catalog, what is found blittable has a flat layout,
and so have closed references that are found unmanaged. -/
theorem flat_of_reachable {W : Workspace} (reachable : W.Reachable)
    (wellScoped : W.registry.source.WellScoped) :
    (∀ (c : TypeBindingId) (b : TypeBinding) (t : TypeId) (notes : Ledger),
      W.registry.types[c]? = some b →
      b.source = some t → (W.registry.classOf c).run W.notes = (.ok .blittable, notes) →
      FlatLayout W.registry.source (fun _ => True) (.named t)) ∧
    (∀ (c : TypeBindingId) (b : TypeBinding) (t : TypeId) (d : TypeDecl) (args : List Signature)
      (notes : Ledger), W.registry.types[c]? = some b → b.source = some t →
      W.registry.source.types[t]? = some d → args.length = d.params.length →
      (W.registry.classOf c).run W.notes = (.ok .genericBlittable, notes) →
      (∀ arg ∈ args, FlatLayout W.registry.source (fun _ => True) arg) →
      FlatLayout W.registry.source (fun _ => True) (.inst t args)) ∧
    (∀ (into : Target.ModuleId) (boxed : Bool) (s : Signature) (notes : Ledger),
      W.registry.source.IsClosed s →
      (W.registry.provenUnmanaged into boxed s).run W.notes = (.ok true, notes) →
      FlatLayout W.registry.source (fun _ => True) s) := by
  have settled : Layout.Settled W.registry W.notes.classes W.notes.classes := .refl _ _
  refine ⟨?_, ?_, ?_⟩
  · intro c b t notes bound source run
    rcases reachable.coherent.declared bound source with ⟨d, declared⟩
    obtain ⟨applied, fits⟩ := Layout.flatWhereApplied_of_hasClass reachable wellScoped
      (Registry.hasClass_of_classOf settled run) rfl bound source declared
    exact applied.named (fits.blittable rfl)
  · intro c b t d args notes bound source declared length run flat
    obtain ⟨applied, -⟩ := Layout.flatWhereApplied_of_hasClass reachable wellScoped
      (Registry.hasClass_of_classOf settled run) rfl bound source declared
    exact applied.inst length fun position arg found _ => flat arg (List.mem_of_getElem? found)
  · intro into boxed s notes closed run
    exact Layout.flat_of_provenUnmanaged reachable wellScoped closed ⟨W.notes, notes, settled, run⟩

end Workspace

/-- The sample program after its registrations and a question for the class of loops. -/
def Sample.workspace : Workspace :=
  (Workspace.start "mscorlib" source target).after
    (registrations.map Step.register ++ [.ask (.classOf ⟨5⟩)])

/-- Nodes are found blittable, so their layout is flat. -/
theorem Workspace.flat_of_reachable_node :
    (Sample.workspace.registry.classOf ⟨4⟩ |>.run Sample.workspace.notes).1 = .ok .blittable ∧
      Layout.FlatLayout Sample.workspace.registry.source (fun _ => True) (.named ⟨4⟩) := by
  have found : (Sample.workspace.registry.classOf ⟨4⟩ |>.run Sample.workspace.notes).1 =
      .ok .blittable := by
    decide +kernel
  have reachable : Sample.workspace.Reachable := ⟨_, _, _, _, rfl⟩
  have bound : Sample.workspace.registry.types[(⟨4⟩ : TypeBindingId)]?.map (·.source) =
      some (some ⟨4⟩) := by
    decide +kernel
  rcases Option.map_eq_some_iff.1 bound with ⟨b, bound, source⟩
  exact ⟨found, (flat_of_reachable reachable (by decide +kernel)).1 ⟨4⟩ b ⟨4⟩ _ bound source
    (Prod.ext found rfl)⟩

end TypeProjection
