import TypeProjection.Proofs.Layout.Growth
import TypeProjection.Proofs.Layout.Noted

/-!
# Proofs.Layout.Backed — noted classes keep their reasons

A blittable class that was noted early in a run was found for a reason. While no source assembly is
bound a second time, what a source type is bound to never changes, so that the fields of the type
still have their reasons whenever the note is looked at:

* `Registry.AssembliesBoundOnce` : no source assembly is bound twice;
* `grows_of_extended`            : then a registration takes nothing away from the classifier;
* `Backed`                       : the fields of a bound struct have reasons;
* `backed_of_reachable`          : every blittable binding of a reachable workspace is backed.
-/

namespace TypeProjection

/-- No source assembly is bound twice. -/
def Registry.AssembliesBoundOnce (R : Registry) : Prop :=
  ∀ (i : AssemblyBindingId) (A : AssemblyBinding), R.assemblies[i]? = some A →
    ∀ (j : AssemblyBindingId) (A' : AssemblyBinding), R.assemblies[j]? = some A' →
    A.source = A'.source → i = j

instance (R : Registry) : Decidable R.AssembliesBoundOnce := by
  unfold Registry.AssembliesBoundOnce
  infer_instance

namespace Layout

open Source (Signature TypeDecl)

variable {R R' : Registry} {notes : Memo} {c : TypeBindingId} {k : LayoutClass}

/-! ## Registrations -/

/-- If a registration leaves no assembly bound twice, then there was none before. -/
theorem assembliesBoundOnce_of_extended (extended : R.Extended R') (once : R'.AssembliesBoundOnce) :
    R.AssembliesBoundOnce := by
  intro i A found j A' found' same
  cases extended with
  | assembly =>
      exact once i A (Table.getElem?_push_eq_some_iff.2 (.inl found)) j A'
        (Table.getElem?_push_eq_some_iff.2 (.inl found')) same
  | change => exact once i A found j A' found' same
  | @binding b B fullName named owned =>
      -- Entering a binding into an assembly does not change which source assembly that is for.
      have kept : ∀ {i : AssemblyBindingId} {A : AssemblyBinding}, R.assemblies[i]? = some A →
          ∃ A₁ : AssemblyBinding,
            (R.assemblies.set b.assembly (B.register R.types.next b.source b.target fullName))[i]? =
              some A₁ ∧ A₁.source = A.source :=
        fun found => Table.exists_set owned id ⟨_, found, rfl⟩
      rcases kept found with ⟨A₁, found₁, source₁⟩
      rcases kept found' with ⟨A₂, found₂, source₂⟩
      exact once i A₁ found₁ j A₂ found₂ (source₁.trans (same.trans source₂.symm))

/-- A registration that binds no assembly again takes nothing away from the classifier. -/
theorem grows_of_extended (coherent : R.Coherent) (extended : R.Extended R')
    (once : R'.AssembliesBoundOnce) :
    Grows R R' where
  source := extended.source
  types bound := extended.types bound
  binding {t c} bound := by
    have sourced := bound
    simp only [Registry.binding?, Option.bind_eq_bind, Option.bind_eq_some_iff] at sourced
    obtain ⟨d, declared, i, owner, -⟩ := sourced
    refine extended.binding? declared ?_ bound
    cases extended with
    | @assembly source name module _ =>
        obtain ⟨A, found, eq⟩ := coherent.owner owner
        -- The assembly of the type is bound already, so the one that is bound now is another.
        have other : source ≠ d.assembly := by
          intro same
          have clash := once i A (Table.getElem?_push_eq_some_iff.2 (.inl found)) R.assemblies.next
            { name, source, module } (Table.getElem?_push_eq_some_iff.2 (.inr ⟨rfl, rfl⟩))
              (eq.trans same.symm)
          exact absurd (clash ▸ Table.lt_size_of_getElem? found) (Nat.lt_irrefl _)
        exact Registry.getElem?_insert_of_ne other
    | change => exact rfl
    | binding => exact rfl

/-! ## Fields with reasons -/

/-- A binding is no stand-in, and all fields of its source type have reasons to be blittable, unless
the type has the name of a primitive. -/
def Backed (R : Registry) (notes : Memo) (c : TypeBindingId) : Prop :=
  ∃ b t d, R.types[c]? = some b ∧ b.standIn = false ∧ b.source = some t ∧
    R.source.types[t]? = some d ∧
    (Corlib.isPrimitive d.fullName = false → ∀ field ∈ d.instanceFields,
      FieldDerivable R notes field.type)

theorem Backed.grows (backed : Backed R notes c) (grows : Grows R R') : Backed R' notes c := by
  rcases backed with ⟨b, t, d, bound, plain, source, declared, reasons⟩
  rcases grows.types bound with ⟨b', bound', same⟩
  exact ⟨b', t, d, bound', same.standIn.trans plain,
    same.source.trans source, by rwa [grows.source],
    fun notPrimitive field mem => (reasons notPrimitive field mem).grows grows⟩

theorem Backed.settled {found : Memo} (backed : Backed R notes c)
    (settled : Settled R notes found) :
    Backed R found c := by
  rcases backed with ⟨b, t, d, bound, plain, source, declared, reasons⟩
  exact ⟨b, t, d, bound, plain, source, declared,
    fun notPrimitive field mem => (reasons notPrimitive field mem).settled settled⟩

theorem BindingDerivable.backed (reason : BindingDerivable R notes c k)
    (noted : notes[c]? = some k → Backed R notes c) : Backed R notes c := by
  cases reason with
  | noted _ _ found _ => exact noted found
  | primitive undecided _ isPrimitive =>
      rcases undecided with ⟨⟨b, bound, plain, source⟩, -, declared⟩
      exact ⟨b, _, _, bound, plain, source, declared,
        fun notPrimitive => by simp [isPrimitive] at notPrimitive⟩
  | fields undecided _ _ _ reasons =>
      rcases undecided with ⟨⟨b, bound, plain, source⟩, -, declared⟩
      exact ⟨b, _, _, bound, plain, source, declared, fun _ => reasons⟩

/-- Whatever is noted as blittable is backed, as long as no assembly has been bound twice. -/
theorem stable_backed :
    Stable fun R notes => R.Coherent ∧
      (R.AssembliesBoundOnce → ∀ (c : TypeBindingId) (k : LayoutClass),
      notes[c]? = some k → k.isBlittable → Backed R notes c) where
  asked {R notes found} holds settled := by
    refine ⟨holds.1, fun once c k noted isBlittable => ?_⟩
    cases first : notes[c]? with
    | some k' =>
        cases (settled.keeps first).symm.trans noted
        exact (holds.2 once c k first isBlittable).settled settled
    | none =>
        -- A class that is new follows from the notes before, so its reason is one over these.
        rcases settled.added first noted with ⟨-, -, -, has⟩
        have backed : Backed R notes c := (has.derivable isBlittable).backed fun noted => by
          simp [first] at noted
        exact backed.settled settled
  registered {R R' notes} holds extended := by
    refine ⟨holds.1.extended extended, fun once c k noted isBlittable => ?_⟩
    have backed := holds.2 (assembliesBoundOnce_of_extended extended once) c k noted isBlittable
    exact backed.grows (grows_of_extended holds.1 extended once)
  edited {R notes} target holds :=
    ⟨holds.1.withTarget target, fun once c k noted isBlittable =>
      (holds.2 once c k noted isBlittable).grows (.withTarget R target)⟩

/-- Every blittable binding of a reachable workspace is backed, if no assembly is bound twice. -/
theorem backed_of_reachable {W : Workspace} (reachable : W.Reachable)
    (once : W.registry.AssembliesBoundOnce) (has : HasClass W.registry W.notes.classes c k)
    (isBlittable : k.isBlittable) :
    Backed W.registry W.notes.classes c := by
  have noted := stable_backed.reachable
    (fun corlib source target => ⟨.start corlib source target, fun _ _ _ noted => by simp at noted⟩)
      reachable
  exact (has.derivable isBlittable).backed fun found => noted.2 once c k found isBlittable

end Layout

end TypeProjection
