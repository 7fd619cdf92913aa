import TypeProjection.Proofs.Registry.Tables

/-!
# Proofs.Registry.Names — what a full name leads to

A binding is entered under its full name unless there is one for its source type already. Two types
can have one full name, and a binding without a source type is always entered; then the later one
takes the name over:

* `enters_push` : which bindings are entered, as the record grows;
* `Named` : a name leads to the binding that was entered under it last;
* `Named.first_iff` : it leads to the binding that was added under it first exactly if all bindings
  of the name are for one source type;
* `names_of_registerAll` : the names after any sequence of registrations.
-/

namespace TypeProjection

/-! ## Entering a binding into an assembly -/

theorem AssemblyBinding.getElem?_byName_register {A : AssemblyBinding} {c : TypeBindingId}
    {source : Option Source.TypeId} {target : Target.TypeId} {fullName name : String} :
    (A.register c source target fullName).byName[name]? =
      if name = fullName ∧ ∀ t, source = some t → A.bySource[t]? = none then some c else
        A.byName[name]? := by
  have known : source.any A.bySource.contains = true ↔ ¬ ∀ t, source = some t →
      A.bySource[t]? = none := by
    cases source with
    | none => simp
    | some t =>
        have contains : A.bySource.contains t = true ↔ A.bySource[t]? ≠ none := by
          rw [Std.TreeMap.contains_eq_isSome_getElem?, Option.isSome_iff_ne_none]
        simp [contains]
  by_cases unknown : ∀ t, source = some t → A.bySource[t]? = none
  · have entered : ¬ source.any A.bySource.contains = true := fun any => known.1 any unknown
    have both : (name = fullName ∧ ∀ t, source = some t → A.bySource[t]? = none) ↔
        fullName = name :=
      (and_iff_left unknown).trans eq_comm
    simp only [register, if_neg entered, both, Std.TreeMap.getElem?_insert,
      Std.LawfulEqOrd.compare_eq_iff_eq]
  · have hidden : source.any A.bySource.contains = true := known.2 unknown
    simp only [register, if_pos hidden, unknown, and_false, if_false]

namespace Registry

variable {R R' : Registry} {i : AssemblyBindingId} {A : AssemblyBinding} {name : String}
  {b : TypeBinding} {c : TypeBindingId}

/-! ## Names of bindings -/

theorem ofName_congr (source : R'.source = R.source) (target : R'.target = R.target) :
    R'.OfName i name b ↔ R.OfName i name b := by
  simp only [OfName, registeredName, source, target]

/-- Bindings that pair the same types have the same name. -/
theorem ofName_of_samePair {b' : TypeBinding} (same : b'.SamePair b) :
    R.OfName i name b' ↔ R.OfName i name b := by
  simp only [OfName, same.assembly, same.source, same.target]

/-- The name of a binding for a source type is that of the source type. -/
theorem OfName.of_source {b' : TypeBinding} {t : Source.TypeId} (ofName : R.OfName i name b)
    (source : b.source = some t) (other : b'.OfSource i t) : R.OfName i name b' := by
  obtain ⟨-, named⟩ := ofName
  simp only [registeredName, source] at named
  exact ⟨other.1, by simp only [registeredName, other.2, named]⟩

theorem Enters.ofName (enters : R.Enters i name c) :
    ∃ b, R.types[c]? = some b ∧ R.OfName i name b := by
  obtain ⟨b, bound, named, -⟩ := enters
  exact ⟨b, bound, named⟩

theorem Enters.inRange (enters : R.Enters i name c) : c.index < R.types.size := by
  obtain ⟨b, bound, -⟩ := enters
  exact Table.lt_size_of_getElem? bound

/-- For each binding of a name there is an entered one with the same source, itself if it has
none. -/
theorem exists_enters (bound : R.types[c]? = some b) (named : R.OfName i name b) :
    ∃ c₀ b₀, R.Enters i name c₀ ∧ R.types[c₀]? = some b₀ ∧ b₀.source = b.source ∧
      (b.source = none → c₀ = c) := by
  cases source : b.source with
  | none =>
      exact ⟨c, b, ⟨b, bound, named, fun t eq => by simp [source] at eq⟩, bound,
        source, fun _ => rfl⟩
  | some t =>
      have recorded : R.Records (TypeBinding.OfSource i t) := ⟨c, b, bound, named.1, source⟩
      obtain ⟨c₀, first⟩ := exists_isFirst recorded
      obtain ⟨b₀, bound₀, ofSource⟩ := first.1
      have entered : R.Enters i name c₀ := by
        refine ⟨b₀, bound₀, named.of_source source ofSource, fun t' eq => ?_⟩
        cases ofSource.2.symm.trans eq
        exact first
      exact ⟨c₀, b₀, entered, bound₀, ofSource.2, by simp⟩

/-- The first binding of a name is entered. -/
theorem enters_of_isFirst (first : R.IsFirst (R.OfName i name) c) : R.Enters i name c := by
  obtain ⟨⟨b, bound, named⟩, least⟩ := first
  -- An earlier binding of its source type would be an earlier one of the name.
  refine ⟨b, bound, named, fun t source =>
    ⟨⟨b, bound, named.1, source⟩, fun c' b' bound' ofSource => ?_⟩⟩
  exact least c' b' bound' (named.of_source source ofSource)

/-! ## Entries as the record grows -/

/-- What is entered is entered for good, and a new binding is entered if its source type had
none. -/
theorem enters_push {assemblies : Table .assemblyBinding AssemblyBinding} :
    Enters { R with assemblies, types := R.types.push b } i name c ↔ R.Enters i name c ∨
      c = R.types.next ∧ R.OfName i name b ∧ ∀ t, b.source = some t →
        ¬ R.Records (TypeBinding.OfSource i t) := by
  have first : ∀ t, IsFirst { R with assemblies, types := R.types.push b }
    (TypeBinding.OfSource i t) c ↔
      R.IsFirst (TypeBinding.OfSource i t) c ∨
        ¬ R.Records (TypeBinding.OfSource i t) ∧ b.OfSource i t ∧ c = R.types.next :=
          fun t => isFirst_push rfl
  simp only [Enters, Table.getElem?_push_eq_some_iff, first]
  change (∃ b', _ ∧ R.OfName i name b' ∧ _) ↔ _
  constructor
  · rintro ⟨b', old | ⟨rfl, rfl⟩, named, first⟩
    · refine .inl ⟨b', old, named, fun t eq => (first t eq).resolve_right ?_⟩
      rintro ⟨-, -, rfl⟩
      simp [Table.getElem?_next] at old
    · refine .inr ⟨rfl, named, fun t eq => ?_⟩
      rcases first t eq with ⟨⟨b', found, -⟩, -⟩ | ⟨unrecorded, -⟩
      · simp [Table.getElem?_next] at found
      · exact unrecorded
  · rintro (⟨b', old, named, first⟩ | ⟨rfl, named, unrecorded⟩)
    · exact ⟨b', .inl old, named, fun t eq => .inl (first t eq)⟩
    · exact ⟨b, .inr ⟨rfl, rfl⟩, named, fun t eq => .inr ⟨unrecorded t eq, ⟨named.1, eq⟩, rfl⟩⟩

theorem enters_set {b' : TypeBinding} {c₀ : TypeBindingId} (bound : R.types[c₀]? = some b)
    (same : b'.SamePair b) :
    Enters { R with types := R.types.set c₀ b' } i name c ↔ R.Enters i name c := by
  have first : ∀ t, IsFirst { R with types := R.types.set c₀ b' } (TypeBinding.OfSource i t) c ↔
      R.IsFirst (TypeBinding.OfSource i t) c := by
    intro t
    have alike : b'.OfSource i t ↔ b.OfSource i t := by
      simp only [TypeBinding.OfSource, same.assembly, same.source]
    exact isFirst_congr (exists_types_set_iff bound alike)
  have entered :
    (R.OfName i name b' ∧ ∀ t, b'.source = some t → R.IsFirst (TypeBinding.OfSource i t) c) ↔
      R.OfName i name b ∧ ∀ t, b.source = some t → R.IsFirst (TypeBinding.OfSource i t) c := by
    rw [ofName_of_samePair same, same.source]
  simp only [Enters, first]
  exact exists_types_set_iff bound entered c

theorem isLastEntry_congr (same : ∀ c, R'.Enters i name c ↔ R.Enters i name c) :
    R'.IsLastEntry i name c ↔ R.IsLastEntry i name c := by
  simp only [IsLastEntry, same]

theorem exists_isLastEntry_iff : (∃ c, R.IsLastEntry i name c) ↔ R.Records (R.OfName i name) := by
  constructor
  · rintro ⟨c, enters, -⟩
    exact ⟨c, enters.ofName⟩
  · rintro ⟨c, b, bound, named⟩
    obtain ⟨c₀, -, enters, -⟩ := exists_enters bound named
    exact exists_greatest (fun _ enters => enters.inRange) enters

/-- A binding that was just entered is the last one. -/
theorem isLastEntry_push {assemblies : Table .assemblyBinding AssemblyBinding}
    (named : R.OfName i name b)
    (unrecorded : ∀ t, b.source = some t → ¬ R.Records (TypeBinding.OfSource i t)) :
    IsLastEntry { R with assemblies, types := R.types.push b } i name c ↔ c = R.types.next := by
  have new : Enters { R with assemblies, types := R.types.push b } i name R.types.next :=
    enters_push.2 (.inr ⟨rfl, named, unrecorded⟩)
  have last : IsLastEntry { R with assemblies, types := R.types.push b } i name R.types.next := by
    refine ⟨new, fun c' enters => ?_⟩
    rcases enters_push.1 enters with old | ⟨rfl, -⟩
    · exact Nat.le_of_lt old.inRange
    · exact Nat.le_refl _
  constructor
  · intro other
    exact Handle.eq_of_le_of_le (last.2 c other.1) (other.2 R.types.next new)
  · rintro rfl
    exact last

/-! ## The table of names -/

/-- A name leads to the binding that was entered under it last. -/
def Named (R : Registry) : Prop :=
  ∀ (i : AssemblyBindingId) (A : AssemblyBinding) (name : String) (c : TypeBindingId),
    R.assemblies[i]? = some A → (A.byName[name]? = some c ↔ R.IsLastEntry i name c)

namespace Named

theorem start (corlib : String) (source : Source.Catalog) (target : Target.Catalog) :
    (Registry.start corlib source target).Named :=
  fun _ _ _ _ found => nomatch found

theorem assembly (named : R.Named) (coherent : R.Coherent) {source : Source.AssemblyId}
    {libraryName : String} (module : Target.ModuleId) :
    Named { R with
      assemblies := R.assemblies.push { name := libraryName, source, module }
      assemblyBySource := R.assemblyBySource.insert source R.assemblies.next
      assemblyByName := R.assemblyByName.insert libraryName R.assemblies.next } := by
  intro i A name c found
  rcases Table.getElem?_push_eq_some_iff.1 found with found | ⟨rfl, rfl⟩
  · exact named i A name c found
  · refine ⟨fun known => by simp at known, ?_⟩
    rintro ⟨⟨b, bound, ⟨eq, -⟩, -⟩, -⟩
    exact absurd eq (coherent.assembly_ne_next bound)

theorem binding (named : R.Named) (tabled : R.Tabled) {A : AssemblyBinding} {fullName : String}
    (registered : R.registeredName b.source b.target = some fullName)
    (owned : R.assemblies[b.assembly]? = some A) :
    Named { R with
      assemblies := R.assemblies.set b.assembly (A.register R.types.next b.source b.target fullName)
      types := R.types.push b } := by
  intro i A' name c found
  -- Either the new binding is entered under the name, or neither the entries nor the table change.
  by_cases entered : R.OfName i name b ∧ ∀ t, b.source = some t →
    ¬ R.Records (TypeBinding.OfSource i t)
  · obtain ⟨⟨rfl, ofName⟩, unrecorded⟩ := entered
    cases registered.symm.trans ofName
    rcases (Table.getElem?_set_eq_some_iff owned).1 found with ⟨-, rfl⟩ | ⟨other, -⟩
    · have unknown : ∀ t, b.source = some t → A.bySource[t]? = none :=
        fun t source => (tabled.bySource_eq_none_iff owned).2 (unrecorded t source)
      calc (A.register R.types.next b.source b.target fullName).byName[fullName]? = some c
          ↔ c = R.types.next := by
            rw [AssemblyBinding.getElem?_byName_register, if_pos ⟨rfl, unknown⟩,
              Option.some.injEq, eq_comm]
        _ ↔ _ := (isLastEntry_push ⟨rfl, registered⟩ unrecorded).symm
    · exact absurd rfl other
  · have kept : ∀ c, Enters { R with
        assemblies := R.assemblies.set b.assembly
          (A.register R.types.next b.source b.target fullName)
        types := R.types.push b } i name c ↔ R.Enters i name c :=
      fun c => enters_push.trans (or_iff_left fun new => entered new.2)
    refine Iff.trans ?_ (isLastEntry_congr kept).symm
    rcases (Table.getElem?_set_eq_some_iff owned).1 found with ⟨rfl, rfl⟩ | ⟨-, found⟩
    · have skipped : ¬ (name = fullName ∧ ∀ t, b.source = some t → A.bySource[t]? = none) := by
        rintro ⟨rfl, unknown⟩
        exact entered ⟨⟨rfl, registered⟩, fun t source =>
          (tabled.bySource_eq_none_iff owned).1 (unknown t source)⟩
      calc (A.register R.types.next b.source b.target fullName).byName[name]? = some c
          ↔ A.byName[name]? = some c := by
            rw [AssemblyBinding.getElem?_byName_register, if_neg skipped]
        _ ↔ _ := named b.assembly A name c owned
    · exact named i A' name c found

theorem change (named : R.Named) {c₀ : TypeBindingId} {b' : TypeBinding}
    (bound : R.types[c₀]? = some b) (same : b'.SamePair b) :
    Named { R with types := R.types.set c₀ b' } :=
  fun i A name c found =>
    (named i A name c found).trans (isLastEntry_congr fun _ => enters_set bound same).symm

/-- A registration leaves every name with the binding that was entered under it last. -/
theorem extended (named : R.Named) (tabled : R.Tabled) (coherent : R.Coherent)
    (extended : R.Extended R') :
    R'.Named := by
  cases extended with
  | assembly module _ => exact named.assembly coherent module
  | binding registered owned => exact named.binding tabled registered owned
  | change bound same => exact named.change bound same

/-- A name leads nowhere exactly if no binding was added under it. -/
theorem eq_none_iff (named : R.Named) (found : R.assemblies[i]? = some A) :
    A.byName[name]? = none ↔ ¬ R.Records (R.OfName i name) :=
  (eq_none_iff_of_entries fun c => named i A name c found).trans (not_congr exists_isLastEntry_iff)

/-! ## When the first binding of a name is found -/

/-- If all bindings of a name are for one source type, then only the first of them is entered. -/
theorem isFirst_of_enters (one : R.OneSource i name) (enters : R.Enters i name c) :
    R.IsFirst (R.OfName i name) c := by
  obtain ⟨b, bound, ofName, first⟩ := enters
  refine ⟨⟨b, bound, ofName⟩, fun c' b' bound' ofName' => ?_⟩
  rcases one c b bound c' b' bound' ofName ofName' with rfl | ⟨sourced, same⟩
  · exact Nat.le_refl _
  · obtain ⟨t, source⟩ := Option.ne_none_iff_exists'.1 sourced
    exact (first t source).2 c' b' bound' ⟨ofName'.1, same.symm.trans source⟩

theorem first_of_oneSource (named : R.Named) (found : R.assemblies[i]? = some A)
    (one : R.OneSource i name) (c : TypeBindingId) :
    A.byName[name]? = some c ↔ R.IsFirst (R.OfName i name) c := by
  refine (named i A name c found).trans ⟨fun last => isFirst_of_enters one last.1, fun first => ?_⟩
  refine ⟨enters_of_isFirst first, fun c' enters => ?_⟩
  exact Nat.le_of_eq (congrArg Handle.index ((isFirst_of_enters one enters).unique first))

/-- If a name leads to the first binding, then this is both the first and the last that is entered,
and all bindings of the name share its source type. -/
theorem oneSource_of_first (named : R.Named) (found : R.assemblies[i]? = some A)
    (first : ∀ c, A.byName[name]? = some c ↔ R.IsFirst (R.OfName i name) c) :
    R.OneSource i name := by
  intro c b bound c' b' bound' ofName ofName'
  obtain ⟨last, isLast⟩ := exists_isLastEntry_iff.2 ⟨c, b, bound, ofName⟩
  have isFirst := (first last).1 ((named i A name last found).2 isLast)
  -- So there is one entry, and each binding of the name shares its source with one.
  have only : ∀ {c₂}, R.Enters i name c₂ → c₂ = last := by
    intro c₂ enters
    obtain ⟨b₂, bound₂, ofName₂⟩ := enters.ofName
    exact Handle.eq_of_le_of_le (isLast.2 c₂ enters) (isFirst.2 c₂ b₂ bound₂ ofName₂)
  obtain ⟨c₀, b₀, enters, bound₀, source, itself⟩ := exists_enters bound ofName
  obtain ⟨c₁, b₁, enters', bound₁, source', itself'⟩ := exists_enters bound' ofName'
  obtain rfl : c₀ = last := only enters
  obtain rfl : c₁ = c₀ := only enters'
  cases bound₀.symm.trans bound₁
  by_cases sourceless : b.source = none
  · have sourceless' : b'.source = none := source'.symm.trans (source.trans sourceless)
    exact .inl ((itself sourceless).symm.trans (itself' sourceless'))
  · exact .inr ⟨sourceless, source.symm.trans source'⟩

/-- A name leads to the first binding that was added under it exactly if all bindings of the name
are for one source type. -/
theorem first_iff (named : R.Named) (found : R.assemblies[i]? = some A) :
    (∀ c, A.byName[name]? = some c ↔ R.IsFirst (R.OfName i name) c) ↔ R.OneSource i name :=
  ⟨named.oneSource_of_first found, named.first_of_oneSource found⟩

end Named

/-! ## Several registrations -/

theorem named_registerAll {rs : List Registration} (coherent : R.Coherent) (tabled : R.Tabled)
    (named : R.Named) (run : R.registerAll rs = some R') : R'.Named := by
  have kept : R'.Coherent ∧ R'.Tabled ∧ R'.Named := by
    refine keeps_registerAll (P := fun R => R.Coherent ∧ R.Tabled ∧ R.Named) ?_
      ⟨coherent, tabled, named⟩ run
    rintro R R' r - registered ⟨coherent, tabled, named⟩
    have extended := registered.extended
    exact ⟨coherent.extended extended, tabled.extended coherent extended,
      named.extended tabled coherent extended⟩
  exact kept.2.2

theorem ofName_registerAll {rs : List Registration} (run : R.registerAll rs = some R') :
    R'.OfName i name b ↔ R.OfName i name b :=
  ofName_congr (source_registerAll run) (target_registerAll run)

/-- If a name is for one source type in the end, then it was so before. -/
theorem OneSource.before {rs : List Registration} (one : R'.OneSource i name)
    (run : R.registerAll rs = some R') :
    R.OneSource i name := by
  intro c b bound c' b' bound' ofName ofName'
  obtain ⟨b₁, bound₁, same⟩ := types_registerAll bound run
  obtain ⟨b₂, bound₂, same'⟩ := types_registerAll bound' run
  have ofName₁ := (ofName_of_samePair same).2 ((ofName_registerAll run).2 ofName)
  have ofName₂ := (ofName_of_samePair same').2 ((ofName_registerAll run).2 ofName')
  have apart := one c b₁ bound₁ c' b₂ bound₂ ofName₁ ofName₂
  rwa [same.source, same'.source] at apart

/-- While all bindings of a name are for one source type, the name leads to the first of them. -/
theorem Named.stays {rs : List Registration} {A' : AssemblyBinding} (named : R.Named)
    (named' : R'.Named) (found : R.assemblies[i]? = some A) (run : R.registerAll rs = some R')
    (found' : R'.assemblies[i]? = some A') (one : R'.OneSource i name)
    (known : A.byName[name]? = some c) : A'.byName[name]? = some c := by
  -- What comes first in a record comes first in every longer one.
  have first : R.IsFirst (R.OfName i name) c :=
    ((named.first_iff found).2 (one.before run) c).1 known
  have still : R'.IsFirst (R.OfName i name) c := first.registerAll ofName_of_samePair run
  have same : R'.OfName i name = R.OfName i name := funext fun b => propext (ofName_registerAll run)
  exact ((named'.first_iff found').2 one c).2 (same ▸ still)

/-- The base class library is found by its name where it was, while no assembly of that name is
bound. -/
theorem corlib_registerAll {rs : List Registration}
    (other : ∀ a module, R.source.assemblies[a]? = some R.corlib → .assembly a module ∉ rs)
    (run : R.registerAll rs = some R') :
    R'.corlib = R.corlib ∧ R'.assemblyByName[R.corlib]? = R.assemblyByName[R.corlib]? := by
  have kept : R'.source = R.source ∧ R'.corlib = R.corlib ∧
      R'.assemblyByName[R.corlib]? = R.assemblyByName[R.corlib]? := by
    refine keeps_registerAll (P := fun R' => R'.source = R.source ∧ R'.corlib = R.corlib ∧
      R'.assemblyByName[R.corlib]? = R.assemblyByName[R.corlib]?) ?_ ⟨rfl, rfl, rfl⟩ run
    rintro R₁ R₂ r mem registered ⟨sameSource, sameCorlib, same⟩
    cases registered with
    | @assembly a libraryName module declared =>
      have differ : libraryName ≠ R.corlib := by
        rintro rfl
        exact other a module (sameSource ▸ declared) mem
      exact ⟨sameSource, sameCorlib, (getElem?_insert_of_ne differ).trans same⟩
    | binding => exact ⟨sameSource, sameCorlib, same⟩
    | change => exact ⟨sameSource, sameCorlib, same⟩
  exact kept.2

/-- After any registrations, a name leads to the binding that was entered last under it, which is
the first one exactly if all of them are for one source type. -/
theorem names_of_registerAll {corlib : String} {source : Source.Catalog} {target : Target.Catalog}
    {rs : List Registration} (run : (start corlib source target).registerAll rs = some R)
    (found : R.assemblies[i]? = some A) (name : String) :
    R.record = rs.filterMap Registration.added? ∧
      (A.byName[name]? = none ↔ ¬ R.Records (R.OfName i name)) ∧
      (∀ c, A.byName[name]? = some c ↔ R.IsLastEntry i name c) ∧
      ((∀ c, A.byName[name]? = some c ↔ R.IsFirst (R.OfName i name) c) ↔ R.OneSource i name) ∧
      ∀ (c : TypeBindingId) (more : List Registration) (R' : Registry),
        A.byName[name]? = some c → R.registerAll more = some R' → R'.OneSource i name →
          (∀ A', R'.assemblies[i]? = some A' → A'.byName[name]? = some c) ∧
          (R.assemblyByName[R.corlib]? = some i →
            (∀ a module, source.assemblies[a]? = some corlib → .assembly a module ∉ more) →
              R'.corlibBinding name = .ok c) := by
  have coherent : R.Coherent := coherent_registerAll (.start corlib source target) run
  have tabled : R.Tabled :=
    tabled_registerAll (.start corlib source target) (.start corlib source target) run
  have named : R.Named :=
    named_registerAll (.start corlib source target) (.start corlib source target)
      (Named.start corlib source target) run
  refine ⟨record_registerAll run, named.eq_none_iff found, fun c => named i A name c found,
    named.first_iff found, ?_⟩
  intro c more R' known further one
  have named' : R'.Named := named_registerAll coherent tabled named further
  have stays : ∀ A', R'.assemblies[i]? = some A' → A'.byName[name]? = some c :=
    fun A' found' => named.stays named' found further found' one known
  refine ⟨stays, fun owner other => ?_⟩
  have sameSource : R.source = source := source_registerAll run
  have sameCorlib : R.corlib = corlib := by
    refine keeps_registerAll (P := fun R => R.corlib = corlib)
      (fun r _ registered same => ?_) rfl run
    cases registered <;> exact same
  have kept := corlib_registerAll (by rwa [sameSource, sameCorlib]) further
  obtain ⟨A', found'⟩ := assemblies_registerAll found further
  exact corlibBinding_eq_ok_iff.2 ⟨i, A', by rw [kept.1, kept.2, owner], found', stays A' found'⟩

end Registry

namespace Sample

/-- The registry before the second type of the name is bound. -/
def twin : Registry :=
  ((Registry.start "Library" twinSource twinTarget).registerAll (twinRegistrations.take 4)).getD {}

theorem twin_built :
    (Registry.start "Library" twinSource twinTarget).registerAll
    (twinRegistrations.take 4) = some twin := rfl

end Sample

/-- A type and its stand-in are bound under one name, which leads to the first of the two. -/
theorem Registry.names_of_registerAll_twin :
    Sample.twin.OneSource ⟨0⟩ "Entry" ∧ Sample.twin.corlibBinding "Entry" = .ok ⟨0⟩ ∧
      Sample.twin.IsFirst (Sample.twin.OfName ⟨0⟩ "Entry") ⟨0⟩ := by
  have one : Sample.twin.OneSource ⟨0⟩ "Entry" := by decide
  obtain ⟨-, -, -, first, -⟩ :=
    Registry.names_of_registerAll Sample.twin_built (i := ⟨0⟩) rfl "Entry"
  exact ⟨one, rfl, (first.2 one ⟨0⟩).1 rfl⟩

/-- Two types of one name: the second takes the name over from the first, and what has no source
type takes it over from both. -/
theorem Registry.corlibBinding_taken_over :
    Sample.twins.IsFirst (Sample.twins.OfName ⟨0⟩ "Entry") ⟨0⟩ ∧
      Sample.twin.corlibBinding "Entry" = .ok ⟨0⟩ ∧
      Sample.twin.registerAll [.type ⟨0⟩ (some ⟨1⟩) ⟨1⟩, .type ⟨0⟩ none ⟨2⟩] = some Sample.twins ∧
      Sample.twins.corlibBinding "Entry" = .ok ⟨3⟩ := by
  exact ⟨⟨⟨_, rfl, rfl, rfl⟩, fun _ _ _ _ => Nat.zero_le _⟩, rfl, rfl, rfl⟩

end TypeProjection
