import TypeProjection.Proofs.Run.Recorded

/-!
# Proofs.Projection.Elsewhere — a reference means the same in all modules

The module in which a reference stands takes part in one thing only: it comes to refer to the
modules and libraries of what is mentioned, unless that is declared in the module itself. Put in two
modules, a question walks the same way and comes to the same end:

* `Grown` : a module came to refer to some modules and libraries, itself apart;
* `Mention` : what the basic questions about the output do in any module that is there;
* `SameElsewhere` : a question has one outcome in two modules, which come to refer to the same;
* `Registry.parallel_elsewhere` : all questions about a reference are like this;
* `Workspace.module_irrelevant` : so in a reachable workspace no assembly has a say in forms.
-/

namespace TypeProjection

open Target (Catalog ModuleId Reference References)

/-! ## What a module comes to refer to -/

/-- A module came to refer to all that `S` holds of, itself apart, and nothing else changed. -/
def Grown (into : ModuleId) (S : Reference → Prop) (refs refs' : References) : Prop :=
  ∀ n x, refs'.has n x ↔ refs.has n x ∨ n = into ∧ x ≠ .module into ∧ S x

variable {into into' : ModuleId} {refs refs₁ refs' : References} {S S' : Reference → Prop}

namespace Grown

theorem refl (into : ModuleId) (refs : References) : Grown into (fun _ => False) refs refs := by
  intro n x
  simp

theorem trans (first : Grown into S refs refs₁) (second : Grown into S' refs₁ refs') :
    Grown into (fun x => S x ∨ S' x) refs refs' := by
  intro n x
  rw [second, first, or_assoc, ← and_or_left, ← and_or_left]

theorem record (refs : References) {x : Reference} (other : x ≠ .module into) :
    Grown into (· = x) refs (refs.record into x) := by
  intro n y
  rw [References.has_record, or_comm]
  refine or_congr_right (and_congr_right fun _ => ⟨?_, And.right⟩)
  rintro rfl
  exact ⟨other, rfl⟩

/-- A module does not come to refer to itself. -/
theorem self (refs : References) : Grown into (· = .module into) refs refs := by
  intro n x
  refine ⟨.inl, ?_⟩
  rintro (had | ⟨-, other, same⟩)
  · exact had
  · exact absurd same other

end Grown

/-- Asked in a module, a question has one outcome over all notes, notes no classes, and lets the
module refer to all that `S` holds of. -/
def Mention {α : Type} (into : ModuleId) (S : Reference → Prop) (outcome : Except Failure α)
    (q : Query α) : Prop :=
  ∀ notes : Ledger, (q.run notes).1 = outcome ∧ (q.run notes).2.classes = notes.classes ∧
    Grown into S notes.references (q.run notes).2.references

namespace Target.Catalog

variable {C : Catalog}

theorem mention_record (there : into.index < C.modules.size) {x : Reference}
    (other : x ≠ .module into) :
    Mention into (· = x) (.ok ()) (C.record into x) := by
  intro notes
  rcases Table.exists_getElem? there with ⟨name, found⟩
  have fetched : C.modules.fetch into = .ok name := Table.fetch_eq_ok_iff.2 found
  rw [record, fetched]
  exact ⟨rfl, rfl, .record notes.references other⟩

/-- Of an output type, a module comes to know the module that declares it. -/
theorem mention_importType (there : into.index < C.modules.size) {u : TypeId} {D : TypeDecl}
    (declared : C.types[u]? = some D) :
    Mention into (· = .module D.module) (.ok (.defined u)) (C.importType into u) := by
  intro notes
  have fetched : C.types.fetch u = .ok D := Table.fetch_eq_ok_iff.2 declared
  rw [importType, Effect.run_bind_of_ok (Effect.lift_eq_ok_iff.2 ⟨fetched, rfl⟩)]
  dsimp only
  split
  · next other =>
    have mention := C.mention_record there (x := .module D.module) (by simpa using other) notes
    rw [Effect.run_bind_of_ok (Effect.run_eq mention.1)]
    exact ⟨rfl, mention.2⟩
  · next here =>
    have home : D.module = into := by simpa using here
    exact ⟨rfl, rfl, home ▸ .self notes.references⟩

end Target.Catalog

/-! ## Two modules -/

/-- Asked in two modules over the same classes, two questions have one outcome and leave the same
classes noted, and both modules come to refer to the same modules and libraries, each itself
apart. -/
def SameElsewhere {α : Type} (into into' : ModuleId) (q q' : Query α) : Prop :=
  ∀ notes notes' : Ledger, notes.classes = notes'.classes →
    (q.run notes).1 = (q'.run notes').1 ∧ (q.run notes).2.classes = (q'.run notes').2.classes ∧
      ∃ S, Grown into S notes.references (q.run notes).2.references ∧
        Grown into' S notes'.references (q'.run notes').2.references

theorem Mention.sameElsewhere {α : Type} {outcome : Except Failure α} {q q' : Query α}
    (here : Mention into S outcome q) (there : Mention into' S outcome q') :
    SameElsewhere into into' q q' := by
  intro notes notes' same
  rcases here notes with ⟨outcomes, classes, grown⟩
  rcases there notes' with ⟨outcomes', classes', grown'⟩
  exact ⟨outcomes.trans outcomes'.symm, classes.trans (same.trans classes'.symm), S, grown, grown'⟩

theorem composable_sameElsewhere (into into' : ModuleId) :
    Composable (Except Failure) Query (SameElsewhere into into') where
  pure _ _ _ same := ⟨rfl, same, _, .refl into _, .refl into' _⟩
  lift _ _ _ same := ⟨rfl, same, _, .refl into _, .refl into' _⟩
  bind {α β q q' f f'} first rest := by
    intro notes notes' same
    rcases first notes notes' same with ⟨outcomes, classes, S, grown, grown'⟩
    refine Effect.bind_same (motive := fun (x x' : Except Failure β × Ledger) => x.1 = x'.1 ∧
      x.2.classes = x'.2.classes ∧ ∃ S, Grown into S notes.references x.2.references ∧
        Grown into' S notes'.references x'.2.references)
      outcomes.symm (fun e => ⟨rfl, classes, S, grown, grown'⟩) fun a => ?_
    rcases rest a _ _ classes with ⟨outcomes, classes, S', more, more'⟩
    exact ⟨outcomes, classes, _, grown.trans more, grown'.trans more'⟩

namespace Registry

variable (R : Registry)

/-- Asking for a class has nothing to do with modules. -/
theorem classOf_elsewhere (c : TypeBindingId) :
    SameElsewhere into into' (R.classOf c) (R.classOf c) := by
  intro notes notes' same
  refine ⟨by rw [answer_classOf, answer_classOf, same], ?_, fun _ => False, ?_, ?_⟩
  · cases run : (Layout.classify R [] c).run notes.classes with
    | none => rw [classOf_of_none run, classOf_of_none (same ▸ run), same]
    | some found => rw [classOf_of_some run, classOf_of_some (same ▸ run)]
  · exact references_classOf (R := R) c notes ▸ .refl into _
  · exact references_classOf (R := R) c notes' ▸ .refl into' _

/-- In two modules that are there, all basic questions have one outcome. -/
theorem parallel_elsewhere (here : into.index < R.target.modules.size)
    (there : into'.index < R.target.modules.size) :
    Parallel R R into into' (SameElsewhere into into') where
  toComposable := composable_sameElsewhere into into'
  source := rfl
  bindingFor _ := rfl
  corlibBinding _ := rfl
  binding _ := (composable_sameElsewhere into into').lift _
  classOf := R.classOf_elsewhere
  recordLibrary library :=
    (Catalog.mention_record here (by simp)).sameElsewhere (Catalog.mention_record there (by simp))
  importType u := by
    cases declared : R.target.types[u]? with
    | some D =>
        exact (Catalog.mention_importType here declared).sameElsewhere
          (Catalog.mention_importType there declared)
    | none =>
        -- Nothing is recorded for a type that is not there.
        have fetched : R.target.types.fetch u = .error .danglingHandle := by
          rw [Table.fetch, declared, orDangling]
        rw [Catalog.importType, Catalog.importType, fetched]
        exact (composable_sameElsewhere into into').lift (.error .danglingHandle)
  methods := rfl
  isMarked _ _ := rfl
  isValueType _ := rfl

end Registry

/-! ## Reachable workspaces -/

namespace Workspace

/-- In whichever of two bound assemblies a reference stands, it has the same form or fails in the
same way, and so for whether it is known to be unmanaged. -/
theorem module_irrelevant {W : Workspace} (reachable : W.Reachable) {i j : AssemblyBindingId}
    {A B : AssemblyBinding} (listed : W.registry.assemblies[i]? = some A)
    (listed' : W.registry.assemblies[j]? = some B) (boxed : Bool) (qs qs' : List Question) :
    (∀ s : Option Source.Signature,
      ((W.registry.projectOption A.module boxed s).run (W.registry.notesAfter W.notes qs)).1 =
        ((W.registry.projectOption B.module boxed s).run (W.registry.notesAfter W.notes qs')).1 ∧
      SameElsewhere A.module B.module (W.registry.projectOption A.module boxed s)
        (W.registry.projectOption B.module boxed s)) ∧
    ∀ s : Source.Signature,
      ((W.registry.provenUnmanaged A.module boxed s).run (W.registry.notesAfter W.notes qs)).1 =
        ((W.registry.provenUnmanaged B.module boxed s).run (W.registry.notesAfter W.notes qs')).1 ∧
      SameElsewhere A.module B.module (W.registry.provenUnmanaged A.module boxed s)
        (W.registry.provenUnmanaged B.module boxed s) := by
  have parallel := W.registry.parallel_elsewhere (reachable.hasModules i A listed)
    (reachable.hasModules j B listed')
  have traced := Registry.traced_notesAfter (.refl W.registry) (.refl W.registry W.notes.classes) qs
  have traced' := Registry.traced_notesAfter (.refl W.registry)
    (.refl W.registry W.notes.classes) qs'
  have constant := constant_alike (R := W.registry) (m := W.notes.classes)
    (.refl W.registry) B.module
  refine ⟨fun s => ?_, fun s => ?_⟩
  · have same : SameElsewhere A.module B.module (W.registry.projectOption A.module boxed s)
        (W.registry.projectOption B.module boxed s) := parallel.projectOption s
    exact ⟨(same _ _ rfl).1.trans ((constant.projectOption s).answer_eq traced traced'), same⟩
  · have same : SameElsewhere A.module B.module (W.registry.provenUnmanaged A.module boxed s)
        (W.registry.provenUnmanaged B.module boxed s) := parallel.provenUnmanaged s
    exact ⟨(same _ _ rfl).1.trans ((constant.provenUnmanaged s).answer_eq traced traced'), same⟩

/-- Bags of boxed lists are the same in the class library as in the shop, and lists of numbers are
known to be unmanaged in both. -/
theorem module_irrelevant_bag :
    (Sample.shop.registry.assemblies[(⟨0⟩ : AssemblyBindingId)]?.map (·.module) = some ⟨0⟩ ∧
      Sample.shop.registry.assemblies[(⟨1⟩ : AssemblyBindingId)]?.map (·.module) = some ⟨1⟩) ∧
    (((Sample.shop.registry.projectOption ⟨0⟩ false (some Sample.bagOfLists)).run
      Sample.shop.notes).1 =
        .ok Sample.bagOfBoxes ∧
      ((Sample.shop.registry.projectOption ⟨0⟩ false (some Sample.bagOfLists)).run
        Sample.shop.notes).2.references.has ⟨0⟩ (.module ⟨1⟩)) ∧
    ((Sample.shop.registry.projectOption ⟨1⟩ false (some Sample.bagOfLists)).run
      (Sample.shop.registry.notesAfter Sample.shop.notes [.classOf ⟨5⟩])).1 =
        .ok Sample.bagOfBoxes ∧
    ((Sample.shop.registry.provenUnmanaged ⟨0⟩ false (.inst ⟨5⟩ [.named ⟨2⟩])).run
      Sample.shop.notes).1 = .ok true ∧
    ((Sample.shop.registry.provenUnmanaged ⟨1⟩ false (.inst ⟨5⟩ [.named ⟨2⟩])).run
      (Sample.shop.registry.notesAfter Sample.shop.notes [.classOf ⟨5⟩])).1 = .ok true := by
  have module : Sample.shop.registry.assemblies[(⟨0⟩ : AssemblyBindingId)]?.map (·.module) =
      some ⟨0⟩ := by
    decide +kernel
  have module' : Sample.shop.registry.assemblies[(⟨1⟩ : AssemblyBindingId)]?.map (·.module) =
      some ⟨1⟩ := by
    decide +kernel
  have projected : ((Sample.shop.registry.projectOption ⟨0⟩ false (some Sample.bagOfLists)).run
      Sample.shop.notes).1 = .ok Sample.bagOfBoxes := by
    decide +kernel
  have refers : ((Sample.shop.registry.projectOption ⟨0⟩ false (some Sample.bagOfLists)).run
      Sample.shop.notes).2.references.has ⟨0⟩ (.module ⟨1⟩) := by
    decide +kernel
  have proven : ((Sample.shop.registry.provenUnmanaged ⟨0⟩ false (.inst ⟨5⟩ [.named ⟨2⟩])).run
      Sample.shop.notes).1 = .ok true := by
    decide +kernel
  have reachable : Sample.shop.Reachable := ⟨_, _, _, _, rfl⟩
  rcases Option.map_eq_some_iff.1 module with ⟨A, listed, home⟩
  rcases Option.map_eq_some_iff.1 module' with ⟨B, listed', home'⟩
  have same := module_irrelevant reachable listed listed' false [] [.classOf ⟨5⟩]
  rw [home, home'] at same
  exact ⟨⟨module, module'⟩, ⟨projected, refers⟩, (same.1 _).1.symm.trans projected, proven,
    (same.2 _).1.symm.trans proven⟩

end Workspace

end TypeProjection
