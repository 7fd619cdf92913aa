import TypeProjection.Proofs.Layout.Traced

/-!
# Proofs.Layout.Twins — two bindings for one source type

A source type can be bound more than once. While the fields of the one binding are looked at, the
other is not among those that are being looked at, so that the search for its class goes other ways
where a struct holds itself. It comes to the same end all the same:

* `Twins` : two plain bindings are for one source type, and neither has a class at first;
* `Twins.hasClass_iff` : they have the same class, because their fields ask for the same ones;
* `Traced.classify_twin` : from all traced notes, the searches for the two come to the same end.
-/

namespace TypeProjection.Layout

variable {R : Registry} {m found found' later : Memo} {c c' : TypeBindingId} {k : LayoutClass}

/-- Two plain bindings are for one source type, and no class was noted for either of them at
first. -/
def Twins (R : Registry) (m : Memo) (c c' : TypeBindingId) : Prop :=
  ∃ t d, Undecided R m c t d ∧ Undecided R m c' t d

namespace Twins

theorem symm (twins : Twins R m c c') : Twins R m c' c := by
  rcases twins with ⟨t, d, undecided, undecided'⟩
  exact ⟨t, d, undecided', undecided⟩

/-- What is needed by the one is needed by the other. -/
theorem neededBy (twins : Twins R m c c') {inner : TypeBindingId} (needed : NeededBy R m inner c) :
    NeededBy R m inner c' := by
  rcases twins with ⟨t, d, undecided, undecided'⟩
  rcases needed with ⟨same, isStruct, notPrimitive, knownBase, mem, need⟩
  rcases undecided.unique same with ⟨rfl, rfl⟩
  exact ⟨undecided', isStruct, notPrimitive, knownBase, mem, need⟩

theorem hasClass_iff (twins : Twins R m c c') : HasClass R m c k ↔ HasClass R m c' k := by
  rcases twins with ⟨t, d, undecided, undecided'⟩
  rw [hasClass_iff_of_undecided undecided, hasClass_iff_of_undecided undecided']

end Twins

/-! ## Searching for the other -/

/-- Where the class of one binding is found from some traced notes, that of its twin is found from
all others. -/
theorem Traced.finds_twin (traced : Traced R m found) (traced' : Traced R m later)
    (twins : Twins R m c c') (run : (classify R [] c).run found = some (k, found')) :
    ∃ later', (classify R [] c').run later = some (k, later') := by
  have chain : ∀ {c₀ : TypeBindingId}, ∀ a ∈ ([] : List TypeBindingId),
      Relation.TransGen (NeededBy R m) c₀ a :=
    fun _ mem => absurd mem List.not_mem_nil
  have has := (classify_hasClass [] c chain found found' k traced.toSettled run).1
  -- It is enough that the search for the twin comes to some end, because that end has to be the
  -- same.
  suffices ends : ∃ k' later', (classify R [] c').run later = some (k', later') by
    rcases ends with ⟨k', later', run'⟩
    have has' := (classify_hasClass [] c' chain later later' k' traced'.toSettled run').1
    exact ⟨later', has'.unique (twins.hasClass_iff.1 has) ▸ run'⟩
  rcases classify_outcome run with ⟨b, bound, outcome⟩
  rcases id twins with ⟨t, d, undecided, undecided'⟩
  rcases undecided.bound with ⟨b₀, bound₀, plain, source⟩
  cases bound.symm.trans bound₀
  rcases undecided'.bound with ⟨b', bound', plain', source'⟩
  cases unnoted : later[c']? with
  | some k' => exact ⟨k', later, classify_noted bound' plain' unnoted⟩
  | none =>
      -- The fields of the first binding are looked at again, this time for its twin.
      have closed := (traced.searched run).closed
      have known : c ∈ found' := by
        have met := outcome.met
        simpa [plain] using met
      have surveyed := closed c b bound plain undecided.unnoted known
      obtain ⟨d', k', later', declared, runDecl⟩ := surveyed.ofDecl_again bound source
        (fun needed => needed_cons (twins.neededBy needed) chain)
        (fun needed bound within settled => classify_again closed [c'] _ bound within
          (needed_cons (twins.neededBy needed) chain) settled) traced'.toSettled
      refine ⟨k', later'.insert c' k', ?_⟩
      rw [classify_fresh bound' plain' unnoted source' List.not_mem_nil, declared,
        Option.bind_some, runDecl, Option.map_some]

/-- From all traced notes, the searches for the classes of two twins come to the same end. -/
theorem Traced.classify_twin (traced : Traced R m found) (traced' : Traced R m later)
    (twins : Twins R m c c') :
    ((classify R [] c').run later).map (·.1) = ((classify R [] c).run found).map (·.1) :=
  map_fst_eq (traced'.finds_twin traced twins.symm) (traced.finds_twin traced' twins)

end TypeProjection.Layout
