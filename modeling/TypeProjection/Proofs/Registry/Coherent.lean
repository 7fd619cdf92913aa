import TypeProjection.Registry.History

/-!
# Proofs.Registry.Coherent — the tables of a registry lead to what they say

A registration adds an assembly binding or a type binding, or it changes what hangs on a type
binding without moving it. This module shows what all registrations keep:

* `Registered` : what each registration does, and `Extended` : the three things that it can be;
* `Coherent` : every table leads to a binding that belongs there, and every binding is listed;
* `Coherent.extended` : one registration keeps the tables coherent, and `coherent_registerAll` : so
  do several, starting from none.
-/

namespace TypeProjection

namespace AssemblyBinding

variable {A : AssemblyBinding} {c c' : TypeBindingId} {source : Option Source.TypeId}
  {target : Target.TypeId} {fullName : String}

/-! ## The tables after a registration -/

theorem bySource_register {t : Source.TypeId}
    (found : (A.register c source target fullName).bySource[t]? = some c') :
    A.bySource[t]? = some c' ∨ source = some t ∧ c' = c := by
  cases source with
  | none => exact .inl found
  | some t' =>
    simp only [register, Std.TreeMap.getElem?_insertIfNew] at found
    split at found
    · next new =>
      cases found
      exact .inr ⟨congrArg some (Std.LawfulEqOrd.eq_of_compare new.1), rfl⟩
    · exact .inl found

theorem bySource_register_of_known {t : Source.TypeId} (known : A.bySource[t]? = some c') :
    (A.register c source target fullName).bySource[t]? = some c' := by
  cases source with
  | none => exact known
  | some t' =>
    simp only [register, Std.TreeMap.getElem?_insertIfNew]
    split
    · next new =>
      cases Std.LawfulEqOrd.eq_of_compare new.1
      exact absurd (Std.TreeMap.mem_iff_isSome_getElem?.2 (by simp [known])) new.2
    · exact known

theorem byTarget_register {u : Target.TypeId} :
    (A.register c source target fullName).byTarget[u]? =
      if u = target then some c else A.byTarget[u]? := by
  simp only [register, Std.TreeMap.getElem?_insert, Std.LawfulEqOrd.compare_eq_iff_eq,
    eq_comm (a := u)]

theorem byName_register {name : String}
    (found : (A.register c source target fullName).byName[name]? = some c') :
    A.byName[name]? = some c' ∨ name = fullName ∧ c' = c := by
  simp only [register] at found
  split at found
  · exact .inl found
  · rw [Std.TreeMap.getElem?_insert] at found
    split at found
    · next same =>
      cases found
      exact .inr ⟨(Std.LawfulEqOrd.eq_of_compare same).symm, rfl⟩
    · exact .inl found

end AssemblyBinding

/-- Two bindings pair the same types in the same way; they can differ in counterpart and methods. -/
structure TypeBinding.SamePair (b b' : TypeBinding) : Prop where
  assembly : b.assembly = b'.assembly
  source : b.source = b'.source
  target : b.target = b'.target
  standIn : b.standIn = b'.standIn

theorem TypeBinding.SamePair.trans {b₁ b₂ b₃ : TypeBinding} (first : b₁.SamePair b₂)
    (second : b₂.SamePair b₃) :
    b₁.SamePair b₃ :=
  ⟨first.assembly.trans second.assembly, first.source.trans second.source,
    first.target.trans second.target, first.standIn.trans second.standIn⟩

namespace Registry

variable {R R' : Registry}

/-! ## What a registration does -/

/-- A registry after an assembly binding or a type binding was added, or after a type binding was
changed in its counterpart or its methods. -/
inductive Extended (R : Registry) : Registry → Prop
  | assembly {source : Source.AssemblyId} {name : String} (module : Target.ModuleId)
      (declared : R.source.assemblies[source]? = some name) :
      Extended R { R with
        assemblies := R.assemblies.push { name, source, module }
        assemblyBySource := R.assemblyBySource.insert source R.assemblies.next
        assemblyByName := R.assemblyByName.insert name R.assemblies.next }
  | binding {b : TypeBinding} {A : AssemblyBinding} {fullName : String}
      (named : R.registeredName b.source b.target = some fullName)
      (owned : R.assemblies[b.assembly]? = some A) :
      Extended R { R with
        assemblies := R.assemblies.set b.assembly
          (A.register R.types.next b.source b.target fullName)
        types := R.types.push b }
  | change {c : TypeBindingId} {b b' : TypeBinding} (bound : R.types[c]? = some b)
      (same : b'.SamePair b) :
      Extended R { R with types := R.types.set c b' }

/-- What each registration does: it adds an assembly binding, or it adds to the record of type
bindings, or it does neither and changes a type binding. -/
inductive Registered (R : Registry) : Registration → Registry → Prop
  | assembly {source : Source.AssemblyId} {name : String} (module : Target.ModuleId)
      (declared : R.source.assemblies[source]? = some name) :
      Registered R (.assembly source module) { R with
        assemblies := R.assemblies.push { name, source, module }
        assemblyBySource := R.assemblyBySource.insert source R.assemblies.next
        assemblyByName := R.assemblyByName.insert name R.assemblies.next }
  | binding {r : Registration} {b : TypeBinding} {A : AssemblyBinding} {fullName : String}
      (adds : r.added? = some b) (named : R.registeredName b.source b.target = some fullName)
      (owned : R.assemblies[b.assembly]? = some A) :
      Registered R r { R with
        assemblies := R.assemblies.set b.assembly
          (A.register R.types.next b.source b.target fullName)
        types := R.types.push b }
  | change {r : Registration} {c : TypeBindingId} {b b' : TypeBinding} (adds : r.added? = none)
      (other : ∀ source module, r ≠ .assembly source module) (bound : R.types[c]? = some b)
      (same : b'.SamePair b) :
      Registered R r { R with types := R.types.set c b' }

theorem registered_of_addBinding {r : Registration} {b : TypeBinding}
    {added : TypeBindingId × Registry} (adds : r.added? = some b)
    (run : R.addBinding b = some added) : Registered R r added.2 := by
  simp only [addBinding, Option.bind_eq_bind, Option.bind_eq_some_iff] at run
  rcases run with ⟨fullName, named, A, owned, eq⟩
  cases eq
  exact .binding adds named owned

theorem registered_of_register {r : Registration} (run : R.register r = some R') :
    Registered R r R' := by
  cases r with
  | assembly source module =>
    rcases Option.map_eq_some_iff.1 run with ⟨added, add, rfl⟩
    simp only [addAssembly, Option.bind_eq_bind, Option.bind_eq_some_iff] at add
    rcases add with ⟨name, declared, eq⟩
    cases eq
    exact .assembly module declared
  | type assembly source target =>
    rcases Option.map_eq_some_iff.1 run with ⟨added, add, rfl⟩
    exact registered_of_addBinding rfl add
  | standIn assembly source target =>
    rcases Option.map_eq_some_iff.1 run with ⟨added, add, rfl⟩
    exact registered_of_addBinding rfl add
  | counterpart c counterpart =>
    simp only [register, setCounterpart, Option.bind_eq_bind, Option.bind_eq_some_iff] at run
    rcases run with ⟨b, bound, eq⟩
    cases eq
    exact .change rfl (by simp) bound ⟨rfl, rfl, rfl, rfl⟩
  | method c source target =>
    simp only [register, addMethod, Option.bind_eq_bind, Option.bind_eq_some_iff] at run
    rcases run with ⟨b, bound, eq⟩
    cases eq
    exact .change rfl (by simp) bound ⟨rfl, rfl, rfl, rfl⟩

theorem Registered.extended {r : Registration} (registered : Registered R r R') :
    Extended R R' := by
  cases registered with
  | assembly module declared => exact .assembly module declared
  | binding _ named owned => exact .binding named owned
  | change _ _ bound same => exact .change bound same

theorem extended_of_register {r : Registration} (run : R.register r = some R') : Extended R R' :=
  (registered_of_register run).extended

theorem Extended.types (extended : Extended R R') {c : TypeBindingId} {b : TypeBinding}
    (bound : R.types[c]? = some b) : ∃ b', R'.types[c]? = some b' ∧ b'.SamePair b := by
  cases extended with
  | assembly => exact ⟨b, bound, rfl, rfl, rfl, rfl⟩
  | binding => exact Table.exists_push ⟨b, bound, rfl, rfl, rfl, rfl⟩
  | change bound₀ same =>
    exact Table.exists_set bound₀ (fun old => same.trans old) ⟨b, bound, rfl, rfl, rfl, rfl⟩

/-- The binding of a source type stays as long as its assembly is found where it was. -/
theorem Extended.binding? (extended : Extended R R') {t : Source.TypeId} {d : Source.TypeDecl}
    {c : TypeBindingId} (declared : R.source.types[t]? = some d)
    (kept : R'.assemblyBySource[d.assembly]? = R.assemblyBySource[d.assembly]?)
    (bound : R.binding? t = some c) :
    R'.binding? t = some c := by
  simp only [Registry.binding?, Option.bind_eq_bind, Option.bind_eq_some_iff] at bound ⊢
  obtain ⟨d', declared', i, owner, A, found, known⟩ := bound
  cases declared.symm.trans declared'
  have owner' : R'.assemblyBySource[d.assembly]? = some i := kept.trans owner
  cases extended with
  | assembly =>
      exact ⟨d, declared, i, owner', A, Table.getElem?_push_eq_some_iff.2 (.inl found), known⟩
  | binding _ owned =>
    exact ⟨d, declared, i, owner',
      Table.exists_set owned AssemblyBinding.bySource_register_of_known ⟨A, found, known⟩⟩
  | change => exact ⟨d, declared, i, owner', A, found, known⟩

/-- Assemblies stay where they are. -/
theorem Extended.assemblies (extended : Extended R R') {i : AssemblyBindingId} {A : AssemblyBinding}
    (listed : R.assemblies[i]? = some A) : ∃ A', R'.assemblies[i]? = some A' := by
  cases extended with
  | assembly => exact ⟨A, Table.getElem?_push_eq_some_iff.2 (.inl listed)⟩
  | @binding b B fullName _ owned =>
    obtain ⟨A', listed', -⟩ := Table.exists_set (P := fun _ => True)
      (b := B.register R.types.next b.source b.target fullName) owned id ⟨A, listed, trivial⟩
    exact ⟨A', listed'⟩
  | change => exact ⟨A, listed⟩

theorem Extended.source (extended : Extended R R') : R'.source = R.source := by
  cases extended <;> rfl

theorem Extended.target (extended : Extended R R') : R'.target = R.target := by
  cases extended <;> rfl

/-! ## Coherence -/

theorem getElem?_insert_of_ne {κ α : Type} [Ord κ] [Std.TransOrd κ] [Std.LawfulEqOrd κ]
    {map : Std.TreeMap κ α} {key other : κ} {a : α} (differ : key ≠ other) :
    (map.insert key a)[other]? = map[other]? :=
  Std.TreeMap.getElem?_insert.trans (if_neg fun same => differ (Std.LawfulEqOrd.eq_of_compare same))

theorem values_eq_map_toList {κ α : Type} [Ord κ] (map : Std.TreeMap κ α) :
    map.values = map.toList.map (·.2) := by
  -- Entries and values are two views of the same tree, which the library does not relate.
  change Std.DTreeMap.Internal.Impl.values map.inner.inner =
    (Std.DTreeMap.Internal.Impl.Const.toList map.inner.inner).map (·.2)
  simp only [Std.DTreeMap.Internal.Impl.Const.toList_eq_toListModel_map,
    Std.DTreeMap.Internal.Impl.values_eq_map_snd, List.map_map, Function.comp_def]

theorem mem_values_iff {κ α : Type} [Ord κ] [Std.TransOrd κ] [Std.LawfulEqOrd κ]
    {map : Std.TreeMap κ α} {a : α} :
    a ∈ map.values ↔ ∃ key : κ, map[key]? = some a := by
  simp only [values_eq_map_toList, List.mem_map, Prod.exists,
    Std.TreeMap.mem_toList_iff_getElem?_eq_some, exists_eq_right]

/-- Every table leads to a binding that belongs there, and every binding is listed. -/
structure Coherent (R : Registry) : Prop where
  owner : ∀ {a : Source.AssemblyId} {i : AssemblyBindingId}, R.assemblyBySource[a]? = some i →
    ∃ A, R.assemblies[i]? = some A ∧ A.source = a
  owned : ∀ {i : AssemblyBindingId} {A : AssemblyBinding}, R.assemblies[i]? = some A →
    ∃ j, R.assemblyBySource[A.source]? = some j
  bySource : ∀ {i : AssemblyBindingId} {A : AssemblyBinding} {t : Source.TypeId}
    {c : TypeBindingId},
    R.assemblies[i]? = some A → A.bySource[t]? = some c → ∃ b, R.types[c]? = some b ∧
    b.source = some t
  byTarget : ∀ {i : AssemblyBindingId} {A : AssemblyBinding} {u : Target.TypeId}
    {c : TypeBindingId}, R.assemblies[i]? = some A → A.byTarget[u]? = some c →
      ∃ b, R.types[c]? = some b ∧ b.assembly = i ∧ b.target = u
  byName : ∀ {i : AssemblyBindingId} {A : AssemblyBinding} {name : String} {c : TypeBindingId},
    R.assemblies[i]? = some A → A.byName[name]? = some c →
      ∃ b, R.types[c]? = some b ∧
        ∀ t d, b.source = some t → R.source.types[t]? = some d → d.fullName = name
  declared : ∀ {c : TypeBindingId} {b : TypeBinding} {t : Source.TypeId}, R.types[c]? = some b →
    b.source = some t → ∃ d, R.source.types[t]? = some d
  listed : ∀ {c : TypeBindingId} {b : TypeBinding}, R.types[c]? = some b →
    ∃ A c', R.assemblies[b.assembly]? = some A ∧ A.byTarget[b.target]? = some c'

namespace Coherent

theorem start (corlib : String) (source : Source.Catalog) (target : Target.Catalog) :
    (Registry.start corlib source target).Coherent where
  owner found := by simp [Registry.start] at found
  owned found := nomatch found
  bySource found := nomatch found
  byTarget found := nomatch found
  byName found := nomatch found
  declared found := nomatch found
  listed found := nomatch found

theorem assembly (coherent : R.Coherent) {source : Source.AssemblyId} {name : String}
    (module : Target.ModuleId) :
    Coherent { R with
      assemblies := R.assemblies.push { name, source, module }
      assemblyBySource := R.assemblyBySource.insert source R.assemblies.next
      assemblyByName := R.assemblyByName.insert name R.assemblies.next } where
  owner {a i} found := by
    rw [Std.TreeMap.getElem?_insert] at found
    split at found
    · next same =>
      cases found
      exact ⟨_, Table.getElem?_push_eq_some_iff.2 (.inr ⟨rfl, rfl⟩),
        Std.LawfulEqOrd.eq_of_compare same⟩
    · rcases coherent.owner found with ⟨A, listed, eq⟩
      exact ⟨A, Table.getElem?_push_eq_some_iff.2 (.inl listed), eq⟩
  owned {i A} found := by
    rw [Std.TreeMap.getElem?_insert]
    split
    · exact ⟨_, rfl⟩
    · next different =>
      rcases Table.getElem?_push_eq_some_iff.1 found with found | ⟨-, rfl⟩
      · exact coherent.owned found
      · exact absurd Std.ReflCmp.compare_self different
  bySource {i A t c} found known := by
    rcases Table.getElem?_push_eq_some_iff.1 found with found | ⟨-, rfl⟩
    · exact coherent.bySource found known
    · simp at known
  byTarget {i A u c} found known := by
    rcases Table.getElem?_push_eq_some_iff.1 found with found | ⟨-, rfl⟩
    · exact coherent.byTarget found known
    · simp at known
  byName {i A n c} found known := by
    rcases Table.getElem?_push_eq_some_iff.1 found with found | ⟨-, rfl⟩
    · exact coherent.byName found known
    · simp at known
  declared := coherent.declared
  listed bound := by
    rcases coherent.listed bound with ⟨A, c', found, known⟩
    exact ⟨A, c', Table.getElem?_push_eq_some_iff.2 (.inl found), known⟩

theorem registeredName_of_source {source : Option Source.TypeId} {target : Target.TypeId}
    {fullName : String} (named : R.registeredName source target = some fullName) {t : Source.TypeId}
    (eq : source = some t) :
    ∃ d, R.source.types[t]? = some d ∧ d.fullName = fullName := by
  subst eq
  simpa [registeredName] using named

/-- Adding a type binding changes the tables of its own assembly only, and there only for its own
types. -/
theorem binding (coherent : R.Coherent) {b : TypeBinding} {A : AssemblyBinding} {fullName : String}
    (named : R.registeredName b.source b.target = some fullName)
    (owned : R.assemblies[b.assembly]? = some A) :
    Coherent { R with
      assemblies := R.assemblies.set b.assembly (A.register R.types.next b.source b.target fullName)
      types := R.types.push b } where
  owner {a i} found := by
    exact Table.exists_set owned id (coherent.owner found)
  owned {i A'} found := by
    rcases (Table.getElem?_set_eq_some_iff owned).1 found with ⟨-, rfl⟩ | ⟨-, found⟩
    · exact (coherent.owned owned : ∃ j, R.assemblyBySource[A.source]? = some j)
    · exact coherent.owned found
  bySource {i A' t c} found known := by
    rcases (Table.getElem?_set_eq_some_iff owned).1 found with ⟨rfl, rfl⟩ | ⟨-, found⟩
    · rcases AssemblyBinding.bySource_register known with known | ⟨eq, rfl⟩
      · exact Table.exists_push (coherent.bySource owned known)
      · exact Table.exists_push_next eq
    · exact Table.exists_push (coherent.bySource found known)
  byTarget {i A' u c} found known := by
    rcases (Table.getElem?_set_eq_some_iff owned).1 found with ⟨rfl, rfl⟩ | ⟨-, found⟩
    · rw [AssemblyBinding.byTarget_register] at known
      split at known
      · next eq =>
        cases known
        exact Table.exists_push_next ⟨rfl, eq.symm⟩
      · exact Table.exists_push (coherent.byTarget owned known)
    · exact Table.exists_push (coherent.byTarget found known)
  byName {i A' name c} found known := by
    rcases (Table.getElem?_set_eq_some_iff owned).1 found with ⟨rfl, rfl⟩ | ⟨-, found⟩
    · rcases AssemblyBinding.byName_register known with known | ⟨rfl, rfl⟩
      · exact Table.exists_push (coherent.byName owned known)
      · refine Table.exists_push_next fun t d source declared => ?_
        rcases registeredName_of_source named source with ⟨d', declared', eq⟩
        cases declared.symm.trans declared'
        exact eq
    · exact Table.exists_push (coherent.byName found known)
  declared {c b' t} bound source := by
    rcases Table.getElem?_push_eq_some_iff.1 bound with bound | ⟨-, rfl⟩
    · exact coherent.declared bound source
    · rcases registeredName_of_source named source with ⟨d, declared, -⟩
      exact ⟨d, declared⟩
  listed {c b'} bound := by
    -- The new binding takes the place of one with the same output type.
    have kept : ∀ {u : Target.TypeId}, (∃ c', A.byTarget[u]? = some c') →
        ∃ c', (A.register R.types.next b.source b.target fullName).byTarget[u]? = some c' := by
      rintro u ⟨c', known⟩
      by_cases eq : u = b.target
      · exact ⟨R.types.next, by simp [AssemblyBinding.byTarget_register, eq]⟩
      · exact ⟨c', by simp [AssemblyBinding.byTarget_register, eq, known]⟩
    rcases Table.getElem?_push_eq_some_iff.1 bound with bound | ⟨-, rfl⟩
    · rcases coherent.listed bound with ⟨A', c', found, known⟩
      have entered : ∃ A₁, (R.assemblies.set b.assembly
          (A.register R.types.next b.source b.target fullName))[b'.assembly]? = some A₁ ∧
            ∃ c₁, A₁.byTarget[b'.target]? = some c₁ :=
        Table.exists_set owned kept ⟨A', found, c', known⟩
      rcases entered with ⟨A₁, found₁, c₁, known₁⟩
      exact ⟨A₁, c₁, found₁, known₁⟩
    · exact ⟨_, R.types.next, (Table.getElem?_set_eq_some_iff owned).2 (.inl ⟨rfl, rfl⟩),
        by simp [AssemblyBinding.byTarget_register]⟩

theorem change (coherent : R.Coherent) {c : TypeBindingId} {b b' : TypeBinding}
    (bound : R.types[c]? = some b) (same : b'.SamePair b) :
    Coherent { R with types := R.types.set c b' } := by
  have forward : ∀ {c₀ : TypeBindingId} {b₀ : TypeBinding}, R.types[c₀]? = some b₀ →
      ∃ b₁, (R.types.set c b')[c₀]? = some b₁ ∧ b₁.SamePair b₀ := fun bound₀ =>
    Extended.types (.change bound same) bound₀
  have backward : ∀ {c₀ : TypeBindingId} {b₁ : TypeBinding}, (R.types.set c b')[c₀]? = some b₁ →
      ∃ b₀, R.types[c₀]? = some b₀ ∧ b₁.SamePair b₀ := by
    intro c₀ b₁ bound₁
    rcases (Table.getElem?_set_eq_some_iff bound).1 bound₁ with ⟨rfl, rfl⟩ | ⟨-, bound₁⟩
    · exact ⟨b, bound, same⟩
    · exact ⟨b₁, bound₁, rfl, rfl, rfl, rfl⟩
  refine ⟨coherent.owner, coherent.owned, ?_, ?_, ?_, ?_, ?_⟩
  · intro i A t c₀ found known
    rcases coherent.bySource found known with ⟨b₀, bound₀, eq⟩
    rcases forward bound₀ with ⟨b₁, bound₁, same₁⟩
    exact ⟨b₁, bound₁, same₁.source.trans eq⟩
  · intro i A u c₀ found known
    rcases coherent.byTarget found known with ⟨b₀, bound₀, assembly, target⟩
    rcases forward bound₀ with ⟨b₁, bound₁, same₁⟩
    exact ⟨b₁, bound₁, same₁.assembly.trans assembly, same₁.target.trans target⟩
  · intro i A name c₀ found known
    rcases coherent.byName found known with ⟨b₀, bound₀, named⟩
    rcases forward bound₀ with ⟨b₁, bound₁, same₁⟩
    exact ⟨b₁, bound₁, fun t d source => named t d (same₁.source ▸ source)⟩
  · intro c₀ b₁ t bound₁ source
    rcases backward bound₁ with ⟨b₀, bound₀, same₁⟩
    exact coherent.declared bound₀ (same₁.source ▸ source)
  · intro c₀ b₁ bound₁
    rcases backward bound₁ with ⟨b₀, bound₀, same₁⟩
    rw [same₁.assembly, same₁.target]
    exact coherent.listed bound₀

/-- A registration keeps the tables coherent. -/
theorem extended (coherent : R.Coherent) (extended : Extended R R') : R'.Coherent := by
  cases extended with
  | assembly module declared => exact coherent.assembly module
  | binding named owned => exact coherent.binding named owned
  | change bound same => exact coherent.change bound same

/-- The output catalog has no part in the coherence of the tables. -/
theorem withTarget (coherent : R.Coherent) (target : Target.Catalog) : Coherent { R with target } :=
  ⟨coherent.owner, coherent.owned, coherent.bySource, coherent.byTarget, coherent.byName,
    coherent.declared, coherent.listed⟩

/-- A binding whose output type has no other is among all bindings. -/
theorem mem_bindings (coherent : R.Coherent) {c : TypeBindingId} {b : TypeBinding}
    (bound : R.types[c]? = some b)
    (alone : ∀ c' b', R.types[c']? = some b' → b'.target = b.target → c' = c) : c ∈ R.bindings := by
  rcases coherent.listed bound with ⟨A, c', found, known⟩
  rcases coherent.byTarget found known with ⟨b', bound', -, target⟩
  cases alone c' b' bound' target
  have mem : A ∈ R.assemblies.entries.toList := Array.mem_toList_iff.2 (Array.mem_of_getElem? found)
  exact List.mem_flatMap.2 ⟨A, mem, mem_values_iff.2 ⟨_, known⟩⟩

/-- No listed binding is missing from the record. -/
theorem exists_of_mem_bindings (coherent : R.Coherent) {c : TypeBindingId} (mem : c ∈ R.bindings) :
    ∃ b, R.types[c]? = some b := by
  rcases List.mem_flatMap.1 mem with ⟨A, memA, mem⟩
  rcases Array.mem_iff_getElem?.1 (Array.mem_toList_iff.1 memA) with ⟨i, found⟩
  rcases mem_values_iff.1 mem with ⟨u, known⟩
  have found : R.assemblies[(⟨i⟩ : AssemblyBindingId)]? = some A := found
  rcases coherent.byTarget found known with ⟨b, bound, -⟩
  exact ⟨b, bound⟩

/-- A binding is in an assembly that is there already. -/
theorem assembly_ne_next (coherent : R.Coherent) {c : TypeBindingId} {b : TypeBinding}
    (bound : R.types[c]? = some b) : b.assembly ≠ R.assemblies.next := by
  intro eq
  obtain ⟨A, -, found, -⟩ := coherent.listed bound
  simp [eq, Table.getElem?_next] at found

/-- The binding of a source type is a binding for that type. -/
theorem binding?_source (coherent : R.Coherent) {t : Source.TypeId} {c : TypeBindingId}
    (bound : R.binding? t = some c) :
    ∃ b d, R.types[c]? = some b ∧ b.source = some t ∧ R.source.types[t]? = some d := by
  simp only [binding?, Option.bind_eq_bind, Option.bind_eq_some_iff] at bound
  rcases bound with ⟨d, declared, i, -, A, found, known⟩
  rcases coherent.bySource found known with ⟨b, bound, eq⟩
  exact ⟨b, d, bound, eq, declared⟩

end Coherent

/-! ## Registries that bind output types once -/

/-- No output type is bound twice. -/
def TargetsBoundOnce (R : Registry) : Prop :=
  ∀ (c : TypeBindingId) (b : TypeBinding), R.types[c]? = some b →
    ∀ (c' : TypeBindingId) (b' : TypeBinding), R.types[c']? = some b' →
    b.target = b'.target → c = c'

instance (R : Registry) : Decidable R.TargetsBoundOnce := by
  unfold TargetsBoundOnce
  infer_instance

/-! ## Several registrations -/

/-- What each of several registrations keeps all of them keep. -/
theorem keeps_registerAll {P : Registry → Prop} {rs : List Registration}
    (step : ∀ {R R' : Registry}, ∀ r ∈ rs, Registered R r R' → P R → P R') (holds : P R)
    (run : R.registerAll rs = some R') : P R' := by
  induction rs generalizing R with
  | nil =>
    cases run
    exact holds
  | cons r rs ih =>
    rcases Option.bind_eq_some_iff.1 run with ⟨between, first, rest⟩
    have kept : P between := step r List.mem_cons_self (registered_of_register first) holds
    exact ih (fun r mem => step r (List.mem_cons_of_mem _ mem)) kept rest

theorem coherent_registerAll {rs : List Registration} (coherent : R.Coherent)
    (run : R.registerAll rs = some R') : R'.Coherent :=
  keeps_registerAll (fun _ _ registered coherent => coherent.extended registered.extended)
    coherent run

theorem types_registerAll {rs : List Registration} {c : TypeBindingId} {b : TypeBinding}
    (bound : R.types[c]? = some b) (run : R.registerAll rs = some R') :
    ∃ b', R'.types[c]? = some b' ∧ b'.SamePair b := by
  refine keeps_registerAll (P := fun R => ∃ b', R.types[c]? = some b' ∧ b'.SamePair b) ?_
    ⟨b, bound, rfl, rfl, rfl, rfl⟩ run
  rintro R R' r - registered ⟨b₁, bound₁, same₁⟩
  obtain ⟨b₂, bound₂, same₂⟩ := registered.extended.types bound₁
  exact ⟨b₂, bound₂, same₂.trans same₁⟩

theorem source_registerAll {rs : List Registration} (run : R.registerAll rs = some R') :
    R'.source = R.source :=
  keeps_registerAll (P := fun R' => R'.source = R.source)
    (fun _ _ registered same => registered.extended.source.trans same) rfl run

theorem target_registerAll {rs : List Registration} (run : R.registerAll rs = some R') :
    R'.target = R.target :=
  keeps_registerAll (P := fun R' => R'.target = R.target)
    (fun _ _ registered same => registered.extended.target.trans same) rfl run

theorem assemblies_registerAll {rs : List Registration} {i : AssemblyBindingId}
    {A : AssemblyBinding} (listed : R.assemblies[i]? = some A) (run : R.registerAll rs = some R') :
    ∃ A', R'.assemblies[i]? = some A' := by
  refine keeps_registerAll (P := fun R => ∃ A, R.assemblies[i]? = some A) ?_ ⟨A, listed⟩ run
  rintro R R' r - registered ⟨A, listed⟩
  exact registered.extended.assemblies listed

end Registry

end TypeProjection
