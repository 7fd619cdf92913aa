import TypeProjection.Proofs.Registry.Coherent

/-!
# Proofs.Registry.Tables — what the tables of an assembly find

An assembly is entered by source type and by output type, and the two tables treat a type that comes
again in opposite ways. Both follow from the record of all bindings alone, whichever way they were
added and whatever was registered in between:

* `isFirst_push`, `isLast_push` : how the first and the last binding with a property change with the
  record;
* `Tabled` : the tables find the first binding of a source type and the last of an output type;
* `Tabled.extended` : a registration keeps it so;
* `Coherent.bindings_ascending` : the order in which a completion goes through the bindings;
* `binding?_registerAll` : the binding of a source type stays while its assembly is not bound again;
* `tables_of_registerAll` : the tables after any sequence of registrations.
-/

namespace TypeProjection

/-! ## Entering a binding into an assembly -/

/-- A binding is entered for its source type if there is none so far. -/
theorem AssemblyBinding.bySource_register_iff {A : AssemblyBinding} {c c' : TypeBindingId}
    {source : Option Source.TypeId} {target : Target.TypeId} {fullName : String}
    {t : Source.TypeId} :
    (A.register c source target fullName).bySource[t]? = some c' ↔
      A.bySource[t]? = some c' ∨ A.bySource[t]? = none ∧ source = some t ∧ c' = c := by
  cases known : A.bySource[t]? with
  | some c₀ => simp [bySource_register_of_known known]
  | none =>
      constructor
      · intro found
        exact .inr ⟨rfl, (bySource_register found).resolve_left (by simp [known])⟩
      · rintro (found | ⟨-, rfl, rfl⟩)
        · cases found
        · have unknown : t ∉ A.bySource := fun mem => by
            simp [Std.TreeMap.mem_iff_isSome_getElem?, known] at mem
          simp only [register, Std.TreeMap.getElem?_insertIfNew, Std.ReflCmp.compare_self, unknown,
            not_false_eq_true, and_self, if_true]

namespace Registry

variable {R R' : Registry} {p : TypeBinding → Prop} {b : TypeBinding} {c : TypeBindingId}

/-! ## First and last bindings of a growing record -/

theorem exists_isFirst (recorded : R.Records p) : ∃ c, R.IsFirst p c := by
  obtain ⟨c, b, found, holds⟩ := recorded
  -- Any earlier binding with the property is tried in its place; handles cannot become smaller for
  -- ever.
  induction index : c.index using Nat.strongRecOn generalizing c b with
  | ind n ih =>
    by_cases earlier : ∃ (c' : TypeBindingId) (b' : TypeBinding), R.types[c']? = some b' ∧ p b' ∧
      c'.index < c.index
    · obtain ⟨c', b', found', holds', less⟩ := earlier
      exact ih c'.index (index ▸ less) c' b' found' holds' rfl
    · refine ⟨c, ⟨b, found, holds⟩, fun c' b' found' holds' => ?_⟩
      exact Nat.le_of_not_lt fun less => earlier ⟨c', b', found', holds', less⟩

/-- Of several handles within the record there is a last one. -/
theorem exists_greatest {P : TypeBindingId → Prop} (inRange : ∀ c, P c → c.index < R.types.size)
    (holds : P c) :
    ∃ c, P c ∧ ∀ c', P c' → c'.index ≤ c.index := by
  -- There are only so many handles after a given one.
  induction left : R.types.size - c.index using Nat.strongRecOn generalizing c with
  | ind n ih =>
    by_cases later : ∃ c', P c' ∧ c.index < c'.index
    · obtain ⟨c', holds', more⟩ := later
      have bounded := inRange c' holds'
      exact ih (R.types.size - c'.index) (by omega) holds' rfl
    · exact ⟨c, holds, fun c' holds' => Nat.le_of_not_lt fun more => later ⟨c', holds', more⟩⟩

theorem exists_isLast (recorded : R.Records p) : ∃ c, R.IsLast p c := by
  obtain ⟨c, b, found, holds⟩ := recorded
  have inRange : ∀ c : TypeBindingId, (∃ b, R.types[c]? = some b ∧ p b) → c.index < R.types.size :=
    fun c ⟨b, found, _⟩ => Table.lt_size_of_getElem? found
  obtain ⟨c, recorded, greatest⟩ := exists_greatest inRange ⟨b, found, holds⟩
  exact ⟨c, recorded, fun c' b' found' holds' => greatest c' ⟨b', found', holds'⟩⟩

theorem exists_isFirst_iff : (∃ c, R.IsFirst p c) ↔ R.Records p :=
  ⟨fun ⟨c, recorded, _⟩ => ⟨c, recorded⟩, exists_isFirst⟩

theorem exists_isLast_iff : (∃ c, R.IsLast p c) ↔ R.Records p :=
  ⟨fun ⟨c, recorded, _⟩ => ⟨c, recorded⟩, exists_isLast⟩

/-- An entry of a table is empty if nothing is what the table has there. -/
theorem eq_none_iff_of_entries {entry : Option TypeBindingId} {P : TypeBindingId → Prop}
    (entries : ∀ c, entry = some c ↔ P c) : entry = none ↔ ¬ ∃ c, P c := by
  simp only [Option.eq_none_iff_forall_ne_some, ne_eq, entries, not_exists]

theorem isFirst_push (pushed : R'.types = R.types.push b) :
    R'.IsFirst p c ↔ R.IsFirst p c ∨ ¬ R.Records p ∧ p b ∧ c = R.types.next := by
  simp only [IsFirst, pushed, Table.getElem?_push_eq_some_iff]
  constructor
  · rintro ⟨⟨b', old | ⟨rfl, rfl⟩, holds⟩, least⟩
    · exact .inl ⟨⟨b', old, holds⟩, fun c' b'' found => least c' b'' (.inl found)⟩
    · refine .inr ⟨?_, holds, rfl⟩
      rintro ⟨c', b'', found, holds'⟩
      have before : c'.index < R.types.next.index := Table.lt_size_of_getElem? found
      exact absurd (least c' b'' (.inl found) holds') (Nat.not_le_of_lt before)
  · rintro (⟨⟨b', old, holds⟩, least⟩ | ⟨unrecorded, holds, rfl⟩)
    · refine ⟨⟨b', .inl old, holds⟩, ?_⟩
      rintro c' b'' (found | ⟨rfl, -⟩) holds'
      · exact least c' b'' found holds'
      · exact Nat.le_of_lt (Table.lt_size_of_getElem? old)
    · refine ⟨⟨b, .inr ⟨rfl, rfl⟩, holds⟩, ?_⟩
      rintro c' b'' (found | ⟨rfl, -⟩) holds'
      · exact absurd ⟨c', b'', found, holds'⟩ unrecorded
      · exact Nat.le_refl _

theorem isLast_push (pushed : R'.types = R.types.push b) :
    R'.IsLast p c ↔ p b ∧ c = R.types.next ∨ ¬ p b ∧ R.IsLast p c := by
  simp only [IsLast, pushed, Table.getElem?_push_eq_some_iff]
  constructor
  · rintro ⟨⟨b', old | ⟨rfl, rfl⟩, holds⟩, greatest⟩
    · refine .inr ⟨fun new => ?_, ⟨b', old, holds⟩,
        fun c' b'' found => greatest c' b'' (.inl found)⟩
      have before : c.index < R.types.next.index := Table.lt_size_of_getElem? old
      exact absurd (greatest R.types.next b (.inr ⟨rfl, rfl⟩) new) (Nat.not_le_of_lt before)
    · exact .inl ⟨holds, rfl⟩
  · rintro (⟨holds, rfl⟩ | ⟨other, ⟨b', old, holds⟩, greatest⟩)
    · refine ⟨⟨b, .inr ⟨rfl, rfl⟩, holds⟩, ?_⟩
      rintro c' b'' (found | ⟨rfl, -⟩) holds'
      · exact Nat.le_of_lt (Table.lt_size_of_getElem? found)
      · exact Nat.le_refl _
    · refine ⟨⟨b', .inl old, holds⟩, ?_⟩
      rintro c' b'' (found | ⟨-, rfl⟩) holds'
      · exact greatest c' b'' found holds'
      · exact absurd holds' other

/-- What is true of a binding before and after a change is true of the same handles before and
after. -/
theorem exists_types_set_iff {b' : TypeBinding} {c₀ : TypeBindingId} (bound : R.types[c₀]? = some b)
    (alike : p b' ↔ p b) (c : TypeBindingId) :
    (∃ b₁, (R.types.set c₀ b')[c]? = some b₁ ∧ p b₁) ↔ ∃ b₀, R.types[c]? = some b₀ ∧ p b₀ := by
  constructor
  · rintro ⟨b₁, found, holds⟩
    rcases (Table.getElem?_set_eq_some_iff bound).1 found with ⟨rfl, rfl⟩ | ⟨-, old⟩
    · exact ⟨b, bound, alike.1 holds⟩
    · exact ⟨b₁, old, holds⟩
  · intro old
    exact Table.exists_set bound alike.2 old

theorem isFirst_congr (alike : ∀ c : TypeBindingId,
    (∃ b, R'.types[c]? = some b ∧ p b) ↔ ∃ b, R.types[c]? = some b ∧ p b) :
    R'.IsFirst p c ↔ R.IsFirst p c := by
  have least : (∀ (c' : TypeBindingId) (b' : TypeBinding), R'.types[c']? = some b' → p b' →
    c.index ≤ c'.index) ↔
      ∀ (c' : TypeBindingId) (b' : TypeBinding), R.types[c']? = some b' → p b' →
      c.index ≤ c'.index := by
    simpa only [forall_exists_index, and_imp] using forall_congr' fun c' =>
      imp_congr_left (alike c')
  exact and_congr (alike c) least

theorem isLast_congr (alike : ∀ c : TypeBindingId,
    (∃ b, R'.types[c]? = some b ∧ p b) ↔ ∃ b, R.types[c]? = some b ∧ p b) :
    R'.IsLast p c ↔ R.IsLast p c := by
  have greatest : (∀ (c' : TypeBindingId) (b' : TypeBinding), R'.types[c']? = some b' → p b' →
    c'.index ≤ c.index) ↔
      ∀ (c' : TypeBindingId) (b' : TypeBinding), R.types[c']? = some b' → p b' →
      c'.index ≤ c.index := by
    simpa only [forall_exists_index, and_imp] using forall_congr' fun c' =>
      imp_congr_left (alike c')
  exact and_congr (alike c) greatest

/-! ## The tables and the record -/

/-- The tables of an assembly find the binding that was added first for a source type and the one
that was added last for an output type, and every name leads to a binding of the assembly. -/
structure Tabled (R : Registry) : Prop where
  bySource : ∀ {i : AssemblyBindingId} {A : AssemblyBinding} (t : Source.TypeId)
    (c : TypeBindingId),
    R.assemblies[i]? = some A → (A.bySource[t]? = some c ↔ R.IsFirst (TypeBinding.OfSource i t) c)
  byTarget : ∀ {i : AssemblyBindingId} {A : AssemblyBinding} (u : Target.TypeId)
    (c : TypeBindingId),
    R.assemblies[i]? = some A → (A.byTarget[u]? = some c ↔ R.IsLast (TypeBinding.OfTarget i u) c)
  byName : ∀ {i : AssemblyBindingId} {A : AssemblyBinding} {name : String} {c : TypeBindingId},
    R.assemblies[i]? = some A → A.byName[name]? = some c → ∃ b, R.types[c]? = some b ∧
    b.assembly = i

namespace Tabled

theorem start (corlib : String) (source : Source.Catalog) (target : Target.Catalog) :
    (Registry.start corlib source target).Tabled where
  bySource _ _ found := nomatch found
  byTarget _ _ found := nomatch found
  byName found := nomatch found

/-- Where no binding was added for a source type, the table has none. -/
theorem bySource_eq_none_iff (tabled : R.Tabled) {i : AssemblyBindingId} {A : AssemblyBinding}
    {t : Source.TypeId} (found : R.assemblies[i]? = some A) :
    A.bySource[t]? = none ↔ ¬ R.Records (TypeBinding.OfSource i t) :=
  (eq_none_iff_of_entries fun c => tabled.bySource t c found).trans (not_congr exists_isFirst_iff)

theorem byTarget_eq_none_iff (tabled : R.Tabled) {i : AssemblyBindingId} {A : AssemblyBinding}
    {u : Target.TypeId} (found : R.assemblies[i]? = some A) :
    A.byTarget[u]? = none ↔ ¬ R.Records (TypeBinding.OfTarget i u) :=
  (eq_none_iff_of_entries fun c => tabled.byTarget u c found).trans (not_congr exists_isLast_iff)

/-! ## One registration -/

/-- A new assembly has no bindings yet. -/
theorem assembly (tabled : R.Tabled) (coherent : R.Coherent) {source : Source.AssemblyId}
    {name : String} (module : Target.ModuleId) :
    Tabled { R with
      assemblies := R.assemblies.push { name, source, module }
      assemblyBySource := R.assemblyBySource.insert source R.assemblies.next
      assemblyByName := R.assemblyByName.insert name R.assemblies.next } := by
  refine ⟨?_, ?_, ?_⟩
  · intro i A t c found
    rcases Table.getElem?_push_eq_some_iff.1 found with found | ⟨rfl, rfl⟩
    · exact tabled.bySource t c found
    · refine ⟨fun known => by simp at known, ?_⟩
      rintro ⟨⟨b, bound, eq, -⟩, -⟩
      exact absurd eq (coherent.assembly_ne_next bound)
  · intro i A u c found
    rcases Table.getElem?_push_eq_some_iff.1 found with found | ⟨rfl, rfl⟩
    · exact tabled.byTarget u c found
    · refine ⟨fun known => by simp at known, ?_⟩
      rintro ⟨⟨b, bound, eq, -⟩, -⟩
      exact absurd eq (coherent.assembly_ne_next bound)
  · intro i A name c found known
    rcases Table.getElem?_push_eq_some_iff.1 found with found | ⟨rfl, rfl⟩
    · exact tabled.byName found known
    · simp at known

theorem binding (tabled : R.Tabled) {A : AssemblyBinding} {fullName : String}
    (owned : R.assemblies[b.assembly]? = some A) :
    Tabled { R with
      assemblies := R.assemblies.set b.assembly (A.register R.types.next b.source b.target fullName)
      types := R.types.push b } := by
  refine ⟨?_, ?_, ?_⟩
  -- By source type the assembly keeps the binding that it has, as the first of the record stays the
  -- first.
  · intro i A' t c found
    rcases (Table.getElem?_set_eq_some_iff owned).1 found with ⟨rfl, rfl⟩ | ⟨other, found⟩
    · calc (A.register R.types.next b.source b.target fullName).bySource[t]? = some c
          ↔ A.bySource[t]? = some c ∨ A.bySource[t]? = none ∧ b.source = some t ∧
          c = R.types.next :=
            AssemblyBinding.bySource_register_iff
        _ ↔ R.IsFirst (TypeBinding.OfSource b.assembly t) c ∨
              ¬ R.Records (TypeBinding.OfSource b.assembly t) ∧ b.OfSource b.assembly t ∧
              c = R.types.next := by
            simp only [tabled.bySource t c owned, tabled.bySource_eq_none_iff owned,
              TypeBinding.OfSource, true_and]
        _ ↔ _ := (isFirst_push rfl).symm
    · have elsewhere : ¬ b.OfSource i t := fun holds => other holds.1.symm
      calc A'.bySource[t]? = some c
          ↔ R.IsFirst (TypeBinding.OfSource i t) c := tabled.bySource t c found
        _ ↔ R.IsFirst (TypeBinding.OfSource i t) c ∨
              ¬ R.Records (TypeBinding.OfSource i t) ∧ b.OfSource i t ∧ c = R.types.next := by
            simp only [elsewhere, false_and, and_false, or_false]
        _ ↔ _ := (isFirst_push rfl).symm
  -- By output type the new binding takes over, and it is the last of the record.
  · intro i A' u c found
    rcases (Table.getElem?_set_eq_some_iff owned).1 found with ⟨rfl, rfl⟩ | ⟨other, found⟩
    · calc (A.register R.types.next b.source b.target fullName).byTarget[u]? = some c
          ↔ b.target = u ∧ c = R.types.next ∨ b.target ≠ u ∧ A.byTarget[u]? = some c := by
            rw [AssemblyBinding.byTarget_register]
            by_cases same : u = b.target
            · simp [same, eq_comm]
            · simp [same, Ne.symm same]
        _ ↔ b.OfTarget b.assembly u ∧ c = R.types.next ∨
              ¬ b.OfTarget b.assembly u ∧ R.IsLast (TypeBinding.OfTarget b.assembly u) c := by
            simp only [tabled.byTarget u c owned, TypeBinding.OfTarget, true_and, ne_eq]
        _ ↔ _ := (isLast_push rfl).symm
    · have elsewhere : ¬ b.OfTarget i u := fun holds => other holds.1.symm
      calc A'.byTarget[u]? = some c
          ↔ R.IsLast (TypeBinding.OfTarget i u) c := tabled.byTarget u c found
        _ ↔ b.OfTarget i u ∧ c = R.types.next ∨ ¬ b.OfTarget i u ∧
          R.IsLast (TypeBinding.OfTarget i u) c := by
            simp only [elsewhere, false_and, false_or, not_false_eq_true, true_and]
        _ ↔ _ := (isLast_push rfl).symm
  · intro i A' name c found known
    rcases (Table.getElem?_set_eq_some_iff owned).1 found with ⟨rfl, rfl⟩ | ⟨-, found⟩
    · rcases AssemblyBinding.byName_register known with known | ⟨-, rfl⟩
      · exact Table.exists_push (tabled.byName owned known)
      · exact Table.exists_push_next rfl
    · exact Table.exists_push (tabled.byName found known)

theorem change (tabled : R.Tabled) {c₀ : TypeBindingId} {b' : TypeBinding}
    (bound : R.types[c₀]? = some b) (same : b'.SamePair b) :
    Tabled { R with types := R.types.set c₀ b' } := by
  refine ⟨?_, ?_, ?_⟩
  · intro i A t c found
    have alike : b'.OfSource i t ↔ b.OfSource i t := by
      simp only [TypeBinding.OfSource, same.assembly, same.source]
    exact (tabled.bySource t c found).trans (isFirst_congr (exists_types_set_iff bound alike)).symm
  · intro i A u c found
    have alike : b'.OfTarget i u ↔ b.OfTarget i u := by
      simp only [TypeBinding.OfTarget, same.assembly, same.target]
    exact (tabled.byTarget u c found).trans (isLast_congr (exists_types_set_iff bound alike)).symm
  · intro i A name c found known
    exact Table.exists_set bound (fun eq => same.assembly.trans eq) (tabled.byName found known)

/-- A registration leaves the tables with what they are to find. -/
theorem extended (tabled : R.Tabled) (coherent : R.Coherent) (extended : R.Extended R') :
    R'.Tabled := by
  cases extended with
  | assembly module _ => exact tabled.assembly coherent module
  | binding _ owned => exact tabled.binding owned
  | change bound same => exact tabled.change bound same

end Tabled

/-! ## The listed bindings -/

/-- One binding comes before another by their output types. -/
def TargetBefore (R : Registry) (c c' : TypeBindingId) : Prop :=
  ∃ b b', R.types[c]? = some b ∧ R.types[c']? = some b' ∧ b.target.index < b'.target.index

/-- A table by output types lists its bindings in the order of these, if it leads to bindings for
them. -/
theorem types_pairwise {A : AssemblyBinding} (target : ∀ {u : Target.TypeId} {c : TypeBindingId},
    A.byTarget[u]? = some c → ∃ b, R.types[c]? = some b ∧ b.target = u) :
    A.types.Pairwise R.TargetBefore := by
  have ordered : A.byTarget.toList.Pairwise fun entry entry' => compare entry.1 entry'.1 = .lt :=
    Std.TreeMap.ordered_keys_toList
  have ascending : A.byTarget.toList.Pairwise fun entry entry' =>
      R.TargetBefore entry.2 entry'.2 := by
    refine ordered.imp_of_mem fun {entry entry'} mem mem' less => ?_
    obtain ⟨b, bound, eq⟩ := target (Std.TreeMap.mem_toList_iff_getElem?_eq_some.1 mem)
    obtain ⟨b', bound', eq'⟩ := target (Std.TreeMap.mem_toList_iff_getElem?_eq_some.1 mem')
    have before : entry.1.index < entry'.1.index := Nat.compare_eq_lt.1 less
    exact ⟨b, b', bound, bound', by rwa [eq, eq']⟩
  unfold AssemblyBinding.types
  rw [values_eq_map_toList]
  exact List.pairwise_map.2 ascending

/-- One binding comes before another in the order of all bindings: its assembly does, or its output
type in the same assembly. -/
def Precedes (R : Registry) (c c' : TypeBindingId) : Prop :=
  ∃ b b', R.types[c]? = some b ∧ R.types[c']? = some b' ∧
    (b.assembly.index < b'.assembly.index ∨ b.assembly = b'.assembly ∧
      b.target.index < b'.target.index)

theorem Precedes.asymm {c c' : TypeBindingId} (precedes : R.Precedes c c') : ¬ R.Precedes c' c := by
  rintro ⟨b₁', b₁, bound₁', bound₁, order₁⟩
  rcases precedes with ⟨b, b', bound, bound', order⟩
  cases bound.symm.trans bound₁
  cases bound'.symm.trans bound₁'
  rcases order with less | ⟨same, less⟩
  · rcases order₁ with less₁ | ⟨same₁, -⟩
    · omega
    · rw [same₁] at less
      omega
  · rcases order₁ with less₁ | ⟨-, less₁⟩
    · rw [same] at less₁
      omega
    · omega

/-- All bindings are listed in their order. -/
theorem Coherent.bindings_ascending (coherent : R.Coherent) : R.bindings.Pairwise R.Precedes := by
  have listed : ∀ {i : Nat} (lt : i < R.assemblies.entries.toList.length),
      R.assemblies[(⟨i⟩ : AssemblyBindingId)]? = some R.assemblies.entries.toList[i] := by
    intro i lt
    change R.assemblies.entries[i]? = _
    rw [← Array.getElem?_toList, List.getElem?_eq_getElem lt]
  have owner : ∀ {i : AssemblyBindingId} {A : AssemblyBinding} {c : TypeBindingId},
    R.assemblies[i]? = some A →
      c ∈ A.types → ∃ b, R.types[c]? = some b ∧ b.assembly = i := by
    intro i A c found mem
    obtain ⟨u, known⟩ := mem_values_iff.1 mem
    obtain ⟨b, bound, eq, -⟩ := coherent.byTarget found known
    exact ⟨b, bound, eq⟩
  refine List.pairwise_flatMap.2
    ⟨fun A mem => ?_, List.pairwise_iff_getElem.2 fun i j lt lt' less c mem c' mem' => ?_⟩
  · -- In one assembly the order is that of the output types.
    obtain ⟨i, lt, rfl⟩ := List.getElem_of_mem mem
    have ascending : (R.assemblies.entries.toList[i]).types.Pairwise R.TargetBefore := by
      refine types_pairwise fun {u c} known => ?_
      obtain ⟨b, bound, -, eq⟩ := coherent.byTarget (listed lt) known
      exact ⟨b, bound, eq⟩
    refine ascending.imp_of_mem fun {c c'} mem mem' before => ?_
    obtain ⟨b, b', bound, bound', less⟩ := before
    obtain ⟨b₁, bound₁, eq⟩ := owner (listed lt) mem
    obtain ⟨b₁', bound₁', eq'⟩ := owner (listed lt) mem'
    cases bound.symm.trans bound₁
    cases bound'.symm.trans bound₁'
    exact ⟨b, b', bound, bound', .inr ⟨eq.trans eq'.symm, less⟩⟩
  · obtain ⟨b, bound, eq⟩ := owner (listed lt) mem
    obtain ⟨b', bound', eq'⟩ := owner (listed lt') mem'
    exact ⟨b, b', bound, bound', .inl (by rw [eq, eq']; exact less)⟩

theorem Coherent.bindings_nodup (coherent : R.Coherent) : R.bindings.Nodup :=
  coherent.bindings_ascending.imp fun {c c'} precedes same => by
    subst same
    exact precedes.asymm precedes

/-- What precedes a binding is what is listed before it. -/
theorem Coherent.precedes_iff_mem (coherent : R.Coherent) {c c₀ : TypeBindingId}
    {before after : List TypeBindingId} (split : R.bindings = before ++ c₀ :: after)
    (mem : c ∈ R.bindings) : R.Precedes c c₀ ↔ c ∈ before := by
  have ascending := coherent.bindings_ascending
  rw [split] at ascending mem
  obtain ⟨-, ascending, apart⟩ := List.pairwise_append.1 ascending
  refine ⟨fun precedes => (List.mem_append.1 mem).resolve_right fun mem => ?_, fun mem =>
    apart c mem c₀ List.mem_cons_self⟩
  rcases List.mem_cons.1 mem with rfl | mem
  · exact precedes.asymm precedes
  · exact precedes.asymm ((List.pairwise_cons.1 ascending).1 c mem)

namespace Tabled

/-- The list of an assembly has the last binding for each output type and no other. -/
theorem mem_types_iff (tabled : R.Tabled) {i : AssemblyBindingId} {A : AssemblyBinding}
    (found : R.assemblies[i]? = some A) : c ∈ A.types ↔
      ∃ u, R.IsLast (TypeBinding.OfTarget i u) c :=
  mem_values_iff.trans (exists_congr fun u => tabled.byTarget u c found)

theorem types_ascending (tabled : R.Tabled) {i : AssemblyBindingId} {A : AssemblyBinding}
    (found : R.assemblies[i]? = some A) : A.types.Pairwise R.TargetBefore := by
  refine types_pairwise fun {u c} known => ?_
  obtain ⟨⟨b, bound, -, eq⟩, -⟩ := (tabled.byTarget u c found).1 known
  exact ⟨b, bound, eq⟩

end Tabled

/-! ## Several registrations -/

theorem tabled_registerAll {rs : List Registration} (coherent : R.Coherent) (tabled : R.Tabled)
    (run : R.registerAll rs = some R') : R'.Tabled := by
  have kept : R'.Coherent ∧ R'.Tabled := by
    refine keeps_registerAll (P := fun R => R.Coherent ∧ R.Tabled) ?_ ⟨coherent, tabled⟩ run
    rintro R R' r - registered ⟨coherent, tabled⟩
    exact ⟨coherent.extended registered.extended, tabled.extended coherent registered.extended⟩
  exact kept.2

/-- The first binding with a property stays the first, if the property is one of the pair alone. -/
theorem IsFirst.registerAll {rs : List Registration}
    (alike : ∀ {b b' : TypeBinding}, b'.SamePair b → (p b' ↔ p b)) (first : R.IsFirst p c)
    (run : R.registerAll rs = some R') : R'.IsFirst p c := by
  refine keeps_registerAll (P := fun R => R.IsFirst p c) ?_ first run
  intro R R' r _ registered first
  cases registered.extended with
  | assembly => exact first
  | binding => exact (isFirst_push rfl).2 (.inl first)
  | change bound same => exact (isFirst_congr (exists_types_set_iff bound (alike same))).2 first

/-- The record grows by what a registration adds; changes of a binding do not touch it. -/
theorem record_register {r : Registration} (run : R.register r = some R') :
    R'.record = R.record ++ r.added?.toList := by
  cases registered_of_register run with
  | assembly module _ => simp [record, Registration.added?]
  | @binding _ b _ _ adds _ _ =>
    have fresh : b.asAdded = b := by
      cases r <;> cases adds <;> rfl
    simp [record, Table.push, adds, fresh]
  | @change _ c b b' adds _ bound same =>
    -- A counterpart or a method is nothing that a binding is added with.
    have alike : b'.asAdded = b.asAdded := by
      obtain ⟨assembly, source, target, standIn⟩ := same
      simp [TypeBinding.asAdded, assembly, source, target, standIn]
    have entry : (R.types.entries.toList.map TypeBinding.asAdded)[c.index]? = some b.asAdded := by
      rw [List.getElem?_map, Array.getElem?_toList]
      exact congrArg (Option.map TypeBinding.asAdded) bound
    simp only [record, Table.set, Array.toList_setIfInBounds, List.map_set, alike, adds,
      Option.toList_none, List.append_nil]
    obtain ⟨inRange, eq⟩ := List.getElem?_eq_some_iff.1 entry
    exact eq ▸ List.set_getElem_self inRange

theorem record_registerAll {rs : List Registration} (run : R.registerAll rs = some R') :
    R'.record = R.record ++ rs.filterMap Registration.added? := by
  induction rs generalizing R with
  | nil =>
    cases run
    exact (List.append_nil _).symm
  | cons r rs ih =>
    obtain ⟨between, first, rest⟩ := Option.bind_eq_some_iff.1 run
    rw [ih rest, record_register first, List.append_assoc, List.filterMap_cons]
    cases r.added? <;> rfl

/-- The binding of a source type stays while its assembly is not bound again. -/
theorem binding?_registerAll {rs : List Registration} {t : Source.TypeId} {d : Source.TypeDecl}
    (declared : R.source.types[t]? = some d) (other : ∀ module, .assembly d.assembly module ∉ rs)
    (bound : R.binding? t = some c) (run : R.registerAll rs = some R') :
    R'.binding? t = some c := by
  have kept : R'.source.types[t]? = some d ∧ R'.binding? t = some c := by
    refine keeps_registerAll (P := fun R => R.source.types[t]? = some d ∧ R.binding? t = some c) ?_
      ⟨declared, bound⟩ run
    rintro R R' r mem registered ⟨declared, bound⟩
    -- Only an assembly that is bound again could hide the tables that have the type.
    have owner : R'.assemblyBySource[d.assembly]? = R.assemblyBySource[d.assembly]? := by
      cases registered with
      | @assembly source name module _ =>
        have differ : source ≠ d.assembly := fun same => other module (same ▸ mem)
        exact getElem?_insert_of_ne differ
      | binding => exact rfl
      | change => exact rfl
    exact ⟨by rwa [registered.extended.source], registered.extended.binding? declared owner bound⟩
  exact kept.2

/-- After any registrations, a source type leads to the first binding that was added for it, and an
output type to the last. -/
theorem tables_of_registerAll {corlib : String} {source : Source.Catalog} {target : Target.Catalog}
    {rs : List Registration} (run : (start corlib source target).registerAll rs = some R) :
    R.record = rs.filterMap Registration.added? ∧
      (∀ (i : AssemblyBindingId) (A : AssemblyBinding), R.assemblies[i]? = some A →
        (∀ t c, A.bySource[t]? = some c ↔ R.IsFirst (TypeBinding.OfSource i t) c) ∧
        (∀ t, A.bySource[t]? = none ↔ ¬ R.Records (TypeBinding.OfSource i t)) ∧
        (∀ u c, A.byTarget[u]? = some c ↔ R.IsLast (TypeBinding.OfTarget i u) c) ∧
        (∀ u, A.byTarget[u]? = none ↔ ¬ R.Records (TypeBinding.OfTarget i u)) ∧
        (∀ c, c ∈ A.types ↔ ∃ u, R.IsLast (TypeBinding.OfTarget i u) c) ∧
        A.types.Pairwise R.TargetBefore ∧
        ∀ (name : String) c, A.byName[name]? = some c → ∃ b, R.types[c]? = some b ∧
          b.assembly = i) ∧
      ∀ (t : Source.TypeId) (d : Source.TypeDecl) (c : TypeBindingId) (more : List Registration)
        (R' : Registry),
        R.source.types[t]? = some d → R.bindingFor t = .ok c → R.registerAll more = some R' →
          (∀ module, .assembly d.assembly module ∉ more) → R'.bindingFor t = .ok c := by
  have tabled : R.Tabled :=
    tabled_registerAll (.start corlib source target) (.start corlib source target) run
  refine ⟨record_registerAll run, fun i A found => ?_,
    fun t d c more R' declared bound further other => ?_⟩
  · exact ⟨fun t c => tabled.bySource t c found, fun t => tabled.bySource_eq_none_iff found,
      fun u c => tabled.byTarget u c found, fun u => tabled.byTarget_eq_none_iff found,
      fun c => tabled.mem_types_iff found, tabled.types_ascending found, fun name c =>
        tabled.byName found⟩
  · have bound := bindingFor_eq_ok_iff.1 bound
    exact bindingFor_eq_ok_iff.2 (binding?_registerAll declared other bound further)

end Registry

/-! ## Two types of one name -/

namespace Sample

/-- Two types of the library have the same full name, as types nested in different types can. -/
def twinSource : Source.Catalog where
  assemblies := ⟨#["Library"]⟩
  types := ⟨#[
    { assembly := ⟨0⟩, space := "", name := "Entry", form := .structType },
    { assembly := ⟨0⟩, space := "", name := "Entry", form := .classType }]⟩

def twinTarget : Target.Catalog where
  modules := ⟨#["Output"]⟩
  types := ⟨#[
    { module := ⟨0⟩, space := "", name := "BoxedEntry", arity := 0 },
    { module := ⟨0⟩, space := "", name := "Entry", arity := 0 },
    { module := ⟨0⟩, space := "", name := "Entry", arity := 0 }]⟩

/-- The second type goes to the output type of the first, and another output type stands for
nothing. -/
def twinRegistrations : List Registration := [
  .assembly ⟨0⟩ ⟨0⟩,
  .type ⟨0⟩ (some ⟨0⟩) ⟨1⟩,
  .standIn ⟨0⟩ (some ⟨0⟩) ⟨0⟩,
  .counterpart ⟨0⟩ ⟨1⟩,
  .type ⟨0⟩ (some ⟨1⟩) ⟨1⟩,
  .type ⟨0⟩ none ⟨2⟩]

def twins : Registry :=
  ((Registry.start "Library" twinSource twinTarget).registerAll twinRegistrations).getD {}

theorem twins_built :
    (Registry.start "Library" twinSource twinTarget).registerAll twinRegistrations = some twins :=
  rfl

end Sample

/-- The first type keeps the binding that it got first, and the output type of both has the binding
of the second. -/
theorem Registry.tables_of_registerAll_twins :
    Sample.twins.record.length = 4 ∧
      Sample.twins.IsFirst (TypeBinding.OfSource ⟨0⟩ ⟨0⟩) ⟨0⟩ ∧
        Sample.twins.IsLast (TypeBinding.OfTarget ⟨0⟩ ⟨1⟩) ⟨2⟩ ∧
      ∀ more R', Sample.twins.registerAll more = some R' → (∀ module, .assembly ⟨0⟩ module ∉ more) →
        R'.bindingFor ⟨0⟩ = .ok ⟨0⟩ := by
  obtain ⟨record, tables, stays⟩ := Registry.tables_of_registerAll Sample.twins_built
  obtain ⟨first, -, last, -⟩ := tables ⟨0⟩ _ rfl
  refine ⟨?_, (first ⟨0⟩ ⟨0⟩).1 rfl, (last ⟨1⟩ ⟨2⟩).1 rfl, ?_⟩
  · rw [record]
    rfl
  · intro more R' further other
    exact stays ⟨0⟩ _ ⟨0⟩ more R' rfl rfl further other

/-- The bindings are listed by output type: the stand-in, the second type, and the type without a
source. -/
example : (Sample.twins.assemblies[(⟨0⟩ : AssemblyBindingId)]?).map AssemblyBinding.types =
    some [⟨1⟩, ⟨2⟩, ⟨3⟩] := by
  rfl

end TypeProjection
