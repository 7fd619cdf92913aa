import Mathlib.Logic.Function.Basic
import TypeProjection.Proofs.Registry.Coherent

/-!
# Proofs.Registry.Again — a pair that is bound again

A source type and an output type can be bound to each other a second time. The source type and its
name still lead to the first binding then, and only the output type leads to the second:

* `Leading` : a plain binding to which both its types lead;
* `Again` : a registry after the pair of a leading binding was bound again;
* `again_of_addType` : binding such a pair again has a result, which is like this;
* `Again.bindingFor`, `Again.corlibBinding` : nothing else is found for source types and names;
* `Again.bindings` : among all bindings the second takes the place of the first.
-/

namespace TypeProjection

/-- Where each entry of a table is replaced, so are its values. -/
theorem values_eq_map_of_getElem? {κ α : Type} [Ord κ] [Std.TransOrd κ] [Std.LawfulEqOrd κ]
    {map map' : Std.TreeMap κ α} {f : α → α} (entries : ∀ key : κ, map'[key]? = map[key]?.map f) :
    map'.values = map.values.map f := by
  have same : map'.Equiv (map.map fun _ => f) := by
    refine .of_forall_constGet?_eq fun key => ?_
    rw [entries, Std.TreeMap.getElem?_map]
  simp only [same.values_eq, Registry.values_eq_map_toList, Std.TreeMap.toList_map, List.map_map,
    Function.comp_def]

namespace AssemblyBinding

/-- An assembly is the same but for the bindings to which output types lead, which are replaced. -/
structure Redirected (f : TypeBindingId → TypeBindingId) (A A' : AssemblyBinding) : Prop where
  name : A'.name = A.name
  module : A'.module = A.module
  bySource : ∀ t : Source.TypeId, A'.bySource[t]? = A.bySource[t]?
  byTarget : ∀ u : Target.TypeId, A'.byTarget[u]? = A.byTarget[u]?.map f
  byName : A'.byName = A.byName

variable {f : TypeBindingId → TypeBindingId} {A A' : AssemblyBinding}

/-- An assembly is redirected to itself if nothing to which its output types lead is replaced. -/
theorem Redirected.of_fixed
    (fixed : ∀ (u : Target.TypeId) (c : TypeBindingId), A.byTarget[u]? = some c → f c = c) :
    A.Redirected f A where
  name := rfl
  module := rfl
  bySource _ := rfl
  byTarget u := by
    cases leads : A.byTarget[u]? with
    | none => rfl
    | some c => exact congrArg some (fixed u c leads).symm
  byName := rfl

namespace Redirected

theorem types (redirected : A.Redirected f A') : A'.types = A.types.map f :=
  values_eq_map_of_getElem? redirected.byTarget

theorem bindingFor (redirected : A.Redirected f A') (t : Source.TypeId) (d : Source.TypeDecl) :
    A'.bindingFor t d = A.bindingFor t d := by
  rw [AssemblyBinding.bindingFor, AssemblyBinding.bindingFor, redirected.bySource]

theorem bindingNamed (redirected : A.Redirected f A') (fullName : String) :
    A'.bindingNamed fullName = A.bindingNamed fullName := by
  rw [AssemblyBinding.bindingNamed, AssemblyBinding.bindingNamed, redirected.byName,
    redirected.name]

end Redirected

/-- Entering a further binding for a source type redirects the output type only. -/
theorem redirected_register {c c' first : TypeBindingId} {t : Source.TypeId} {u : Target.TypeId}
    {fullName : String} (known : A.bySource[t]? = some first)
    (leads : ∀ (v : Target.TypeId) (c₀ : TypeBindingId), A.byTarget[v]? = some c₀ →
      (c₀ = c ↔ v = u))
    (led : A.byTarget[u]? = some c) :
    A.Redirected (Function.update id c c') (A.register c' (some t) u fullName) where
  name := rfl
  module := rfl
  bySource t' := by
    have mem : t ∈ A.bySource := Std.TreeMap.mem_iff_isSome_getElem?.2 (by simp [known])
    simp only [register, Std.TreeMap.getElem?_insertIfNew, mem, not_true_eq_false,
      and_false, if_false]
  byTarget v := by
    rw [byTarget_register]
    split
    · next here =>
      rw [here, led, Option.map_some, Function.update_self]
    · next other =>
      cases found : A.byTarget[v]? with
      | none => rfl
      | some c₀ =>
          have differ : c₀ ≠ c := fun same => other ((leads v c₀ found).1 same)
          rw [Option.map_some, Function.update_of_ne differ]
          rfl
  byName := by
    have contained : A.bySource.contains t :=
      Std.TreeMap.mem_iff_isSome_getElem?.2 (by simp [known])
    simp only [register, Option.any_some, contained, if_true]

end AssemblyBinding

namespace Registry

variable {R R' : Registry} {c c' : TypeBindingId} {i : AssemblyBindingId} {t : Source.TypeId}
  {u : Target.TypeId}

/-- A plain binding for a source type and an output type is the one to which both lead in its
assembly. -/
structure Leading (R : Registry) (i : AssemblyBindingId) (t : Source.TypeId) (u : Target.TypeId)
    (c : TypeBindingId) :
    Prop where
  bound : ∃ b, R.types[c]? = some b ∧ b.standIn = false ∧ b.assembly = i ∧
    b.source = some t ∧ b.target = u
  owned : ∃ A, R.assemblies[i]? = some A ∧ A.bySource[t]? = some c ∧ A.byTarget[u]? = some c

/-- A registry after the pair of a binding was bound again. The second binding is for the same types
as the first, and takes its place where output types lead to it. -/
structure Again (R R' : Registry) (c c' : TypeBindingId) : Prop where
  corlib : R'.corlib = R.corlib
  source : R'.source = R.source
  target : R'.target = R.target
  assemblyBySource : R'.assemblyBySource = R.assemblyBySource
  assemblyByName : R'.assemblyByName = R.assemblyByName
  assemblies : ∀ i : AssemblyBindingId,
    Option.Rel (AssemblyBinding.Redirected (Function.update id c c'))
      R.assemblies[i]? R'.assemblies[i]?
  fresh : R.types[c']? = none
  types : ∀ c₀ : TypeBindingId, c₀ ≠ c' → R'.types[c₀]? = R.types[c₀]?
  pair : ∃ b b' t, R.types[c]? = some b ∧ b.standIn = false ∧ b.source = some t ∧
    R'.types[c']? = some b' ∧ b'.SamePair b

/-- The pair of a leading binding can be bound again. -/
theorem again_of_addType (coherent : R.Coherent) (leading : R.Leading i t u c) :
    ∃ R', R.addType i (some t) u = some (R.types.next, R') ∧ R.Again R' c R.types.next := by
  rcases leading with ⟨⟨b, bound, plain, rfl, source, rfl⟩, A, owned, bySource, byTarget⟩
  rcases coherent.declared bound source with ⟨d, declared⟩
  -- No other output type leads to the binding, in no assembly.
  have leads : ∀ {j : AssemblyBindingId} {B : AssemblyBinding} {v : Target.TypeId},
    R.assemblies[j]? = some B →
      B.byTarget[v]? = some c → b.assembly = j ∧ b.target = v := by
    intro j B v found led
    rcases coherent.byTarget found led with ⟨b', bound', assembly, target⟩
    cases bound.symm.trans bound'
    exact ⟨assembly, target⟩
  refine ⟨{ R with
    assemblies := R.assemblies.set b.assembly (A.register R.types.next (some t) b.target d.fullName)
    types := R.types.push { assembly := b.assembly, source := some t, target := b.target } }, ?_,
    ?_⟩
  · simp [addType, addBinding, registeredName, declared, owned]
  · refine ⟨rfl, rfl, rfl, rfl, rfl, fun j => ?_, Table.getElem?_next _, fun c₀ other => ?_, ?_⟩
    · rw [Table.getElem?_set]
      split
      · next here =>
        rw [here.1, owned]
        refine .some
          (AssemblyBinding.redirected_register bySource (fun v c₀ led => ⟨?_, ?_⟩) byTarget)
        · rintro rfl
          exact (leads owned led).2.symm
        · rintro rfl
          exact Option.some.inj (led.symm.trans byTarget)
      · next elsewhere =>
        cases found : R.assemblies[j]? with
        | none => exact .none
        | some B =>
            refine .some (.of_fixed fun v c₀ led => Function.update_of_ne ?_ ..)
            rintro rfl
            exact elsewhere ⟨(leads found led).1.symm, Table.lt_size_of_getElem? owned⟩
    · rw [Table.getElem?_push, if_neg other]
    · exact ⟨b, _, t, bound, plain, source, Table.getElem?_push_eq_some_iff.2 (.inr ⟨rfl, rfl⟩),
        ⟨rfl, source.symm, rfl, plain.symm⟩⟩

namespace Again

/-! ## Look-ups -/

theorem fetch_assembly_bind (again : R.Again R' c c') {α : Type}
    {f f' : AssemblyBinding → Except Failure α} (i : AssemblyBindingId)
    (rest : ∀ A A', A.Redirected (Function.update id c c') A' → f' A' = f A) :
    (R'.assemblies.fetch i >>= f') = (R.assemblies.fetch i >>= f) := by
  have related := again.assemblies i
  rw [Table.fetch, Table.fetch]
  generalize R.assemblies[i]? = found at related ⊢
  generalize R'.assemblies[i]? = found' at related ⊢
  cases related with
  | none => rfl
  | some redirected => exact rest _ _ redirected

theorem assemblyFor (again : R.Again R' c c') (a : Source.AssemblyId) :
    R'.assemblyFor a = R.assemblyFor a := by
  rw [Registry.assemblyFor, Registry.assemblyFor, again.assemblyBySource, again.source]

theorem bindingFor (again : R.Again R' c c') (t : Source.TypeId) :
    R'.bindingFor t = R.bindingFor t := by
  unfold Registry.bindingFor
  rw [again.source]
  refine bind_congr fun d => ?_
  rw [again.assemblyFor]
  exact bind_congr fun i => again.fetch_assembly_bind i fun A A' redirected =>
    redirected.bindingFor t d

theorem binding? (again : R.Again R' c c') (t : Source.TypeId) : R'.binding? t = R.binding? t := by
  refine Option.ext fun c₀ => ?_
  rw [← bindingFor_eq_ok_iff, ← bindingFor_eq_ok_iff, again.bindingFor]

theorem corlibBinding (again : R.Again R' c c') (fullName : String) :
    R'.corlibBinding fullName = R.corlibBinding fullName := by
  unfold Registry.corlibBinding assemblyNamed
  rw [again.assemblyByName, again.corlib]
  exact bind_congr fun i => again.fetch_assembly_bind i fun A A' redirected =>
    redirected.bindingNamed fullName

theorem map_assembly (again : R.Again R' c c') {β : Type} {f f' : AssemblyBinding → β}
    (i : AssemblyBindingId)
    (same : ∀ A A', A.Redirected (Function.update id c c') A' → f' A' = f A) :
    R'.assemblies[i]?.map f' = R.assemblies[i]?.map f := by
  have related := again.assemblies i
  generalize R.assemblies[i]? = found at related ⊢
  generalize R'.assemblies[i]? = found' at related ⊢
  cases related with
  | none => rfl
  | some redirected => exact congrArg some (same _ _ redirected)

/-- Each assembly is still for the same module, and a name leads to the same binding in it. -/
theorem bindingNamed (again : R.Again R' c c') (i : AssemblyBindingId) (fullName : String) :
    R'.assemblies[i]?.map (fun A => (A.module, A.bindingNamed fullName)) =
      R.assemblies[i]?.map fun A => (A.module, A.bindingNamed fullName) :=
  again.map_assembly i fun A A' redirected => by rw [redirected.module, redirected.bindingNamed]

/-! ## All bindings -/

/-- The second binding takes the place of the first one. -/
theorem bindings (again : R.Again R' c c') :
    R'.bindings = R.bindings.map (Function.update id c c') := by
  have each : R'.assemblies.entries.toList.map AssemblyBinding.types =
      R.assemblies.entries.toList.map fun A => A.types.map (Function.update id c c') := by
    refine List.ext_getElem? fun n => ?_
    simp only [List.getElem?_map, Array.getElem?_toList]
    exact again.map_assembly ⟨n⟩ fun A A' redirected => redirected.types
  rw [Registry.bindings, Registry.bindings, List.flatMap_def, each, List.map_flatMap,
    List.flatMap_def]

end Again

end Registry

end TypeProjection
