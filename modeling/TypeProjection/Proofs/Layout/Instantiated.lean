import TypeProjection.Proofs.Layout.Found
import TypeProjection.Proofs.Layout.Lasting
import TypeProjection.Proofs.Run.Searches
import TypeProjection.Source.Substitution

/-!
# Proofs.Layout.Instantiated — blittable fields stay so where their type is applied

Whether a field of a generic type is blittable is asked without its arguments, which are looked at
where the type is applied. This module compares such a field with what it is in an application:

* `LooksAt` : the parameters that the classifier comes to, all of which the field embeds;
* `fieldDerivable_subst_iff` : the reasons for a field with arguments put in are those for the field
  and for the arguments of these parameters;
* `FoundBlittable` : what is found for a field while no search is under way;
* `Workspace.alwaysBlittable_subst` : a blittable field stays so, whatever blittable arguments are
  put in.
-/

namespace TypeProjection

namespace Layout

open Source (Catalog Signature TypeDecl TypeId)

variable {R : Registry} {m found : Memo} {generic : TypeId} {args : List Signature} {s : Signature}

/-! ## Arguments that matter -/

/-- The classifier comes to the parameter `position` of `generic` when it looks at a reference. -/
inductive LooksAt (C : Catalog) (generic : TypeId) (position : Nat) : Signature → Prop
  | param : LooksAt C generic position (.param (.type generic) position)
  | inst {t : TypeId} {d : TypeDecl} {i : Nat} {inner : List Signature} {arg : Signature}
      (declared : C.types[t]? = some d) (found : inner[i]? = some arg) (embedded : d.embeds t i)
      (inArg : LooksAt C generic position arg) : LooksAt C generic position (.inst t inner)

/-- It comes to embedded parameters only, though not to all of them: an argument can be embedded by
a type that ignores it. -/
theorem LooksAt.embeds {C : Catalog} {position : Nat} (looks : LooksAt C generic position s) :
    s.embeds generic position := by
  induction looks with
  | param => simp [Signature.embeds]
  | inst _ found _ _ ih =>
      rw [Signature.embeds]
      exact Signature.anyEmbeds_iff.2 ⟨_, List.mem_of_getElem? found, ih⟩

theorem looksAt_inst_iff {C : Catalog} {t : TypeId} {d : TypeDecl} {position : Nat}
    {inner : List Signature} (declared : C.types[t]? = some d) :
    LooksAt C generic position (.inst t inner) ↔
      ∃ i arg, inner[i]? = some arg ∧ d.embeds t i ∧ LooksAt C generic position arg := by
  constructor
  · intro looks
    cases looks with
    | inst declared' found embedded inArg =>
        cases declared.symm.trans declared'
        exact ⟨_, _, found, embedded, inArg⟩
  · rintro ⟨i, arg, found, embedded, inArg⟩
    exact .inst declared found embedded inArg

/-! ## Reasons -/

theorem fieldDerivable_applied_iff {t : TypeId} {inner : List Signature} :
    FieldDerivable R m (.inst t inner) ↔
      ∃ d c k, R.source.types[t]? = some d ∧ R.binding? t = some c ∧ BindingDerivable R m c k ∧
        ∀ (i : Nat) (arg : Signature), inner[i]? = some arg → d.embeds t i →
          FieldDerivable R m arg := by
  constructor
  · intro reason
    cases reason with
    | inst declared bound reason reasons => exact ⟨_, _, _, declared, bound, reason, reasons⟩
  · rintro ⟨d, c, k, declared, bound, reason, reasons⟩
    exact .inst declared bound reason reasons

/-- The arguments that are put in have reasons, as far as the classifier comes to them. -/
def Filled (R : Registry) (m : Memo) (generic : TypeId) (args : List Signature)
    (s : Signature) : Prop :=
  ∀ (i : Nat) (arg : Signature), args[i]? = some arg → LooksAt R.source generic i s →
    FieldDerivable R m arg

/-- A parameter has a reason, and what is put in for it may have none. -/
theorem fieldDerivable_subst_param {owner : Source.Owner} {position : Nat} :
    FieldDerivable R m ((Signature.param owner position).subst generic args) ↔
      Filled R m generic args (.param owner position) := by
  rw [Signature.subst]
  split
  · next own =>
    rw [own, List.getD_eq_getElem?_getD]
    constructor
    · rintro reason i arg found ⟨⟩
      rwa [found] at reason
    · intro filled
      cases found : args[position]? with
      -- A parameter without an argument stays what it is.
      | none => exact .param _ _
      | some arg => exact filled position arg found .param
  · next other =>
    refine ⟨fun _ i arg _ looks => ?_, fun _ => .param _ _⟩
    cases looks
    exact absurd rfl other

/-- There is a reason for a field with arguments put in, exactly if there is one for the field
itself and one for each argument that the classifier comes to. -/
theorem fieldDerivable_subst_iff :
    FieldDerivable R m (s.subst generic args) ↔ FieldDerivable R m s ∧
      Filled R m generic args s := by
  induction s with
  | param owner position =>
      rw [fieldDerivable_subst_param]
      exact ⟨fun filled => ⟨.param owner position, filled⟩, And.right⟩
  | inst t inner ih =>
      rw [Signature.subst, Signature.substAll_eq_map, fieldDerivable_applied_iff,
        fieldDerivable_applied_iff]
      constructor
      · rintro ⟨d, c, k, declared, bound, reason, reasons⟩
        -- The applied type stays the same, and each argument that it keeps is a field of its own.
        have each : ∀ (i : Nat) (arg : Signature), inner[i]? = some arg → d.embeds t i →
            FieldDerivable R m arg ∧ Filled R m generic args arg := fun i arg found embedded =>
          (ih arg (List.mem_of_getElem? found)).1
            (reasons i _ (by rw [List.getElem?_map, found, Option.map_some]) embedded)
        refine ⟨⟨d, c, k, declared, bound, reason,
          fun i arg found embedded => (each i arg found embedded).1⟩, ?_⟩
        intro position outer foundOuter looks
        rcases (looksAt_inst_iff declared).1 looks with ⟨i, arg, found, embedded, inArg⟩
        exact (each i arg found embedded).2 position outer foundOuter inArg
      · rintro ⟨⟨d, c, k, declared, bound, reason, reasons⟩, filled⟩
        refine ⟨d, c, k, declared, bound, reason, fun i put foundPut embedded => ?_⟩
        rw [List.getElem?_map] at foundPut
        rcases Option.map_eq_some_iff.1 foundPut with ⟨arg, found, rfl⟩
        -- What is looked at in an argument is looked at in the field.
        have inner : Filled R m generic args arg := fun position outer foundOuter inArg =>
          filled position outer foundOuter (.inst declared found embedded inArg)
        exact (ih arg (List.mem_of_getElem? found)).2 ⟨reasons i arg found embedded, inner⟩
  -- Nothing is put in for a named type, and behind pointers nothing is looked at.
  | named t =>
      refine ⟨fun reason => ⟨reason, fun i arg found looks => ?_⟩, And.left⟩
      cases looks
  | pointer target =>
      refine ⟨fun _ => ⟨.pointer target, fun i arg found looks => ?_⟩, fun _ => .pointer _⟩
      cases looks
  | _ =>
      rw [Signature.subst]
      constructor
      · intro reason
        cases reason
      · rintro ⟨reason, -⟩
        cases reason

/-! ## Questions -/

/-- It is found that a field of this type crosses as it is, where some classes are noted and no
search is under way. -/
def FoundBlittable (R : Registry) (found : Memo) (s : Signature) : Prop :=
  ∃ found', (fieldBlittable R (classify R []) s).run found = some (true, found')

/-- Over notes that follow from some from scratch, that is found for the fields that have
reasons. -/
theorem foundBlittable_iff (scratch : FromScratch R m) (settled : Settled R m found) :
    FoundBlittable R found s ↔ FieldDerivable R m s := by
  have decides : Decides R m (FieldDerivable R m s) (fieldBlittable R (classify R []) s) :=
    fieldBlittable_decides fun _ => classify_hasClass [] _ fun _ mem => absurd mem List.not_mem_nil
  constructor
  · rintro ⟨found', run⟩
    exact (decides _ _ _ settled run).1.1 rfl
  · intro reason
    -- The search comes to an end, because it meets only what the reason mentions.
    rcases derivable_total.1 ((derivable_fromScratch scratch).1 reason) [] found with
      ⟨answer, found', run⟩
    obtain rfl : answer = true := (decides _ _ _ settled run).1.2 reason
    exact ⟨found', run⟩

end Layout

open Layout (FoundBlittable LooksAt Searches Memo)
open Source (Signature TypeId)

namespace Workspace

variable {W : Workspace} {s : Signature}

/-- A field of this type is found to cross as it is after some searches more, at one time at
least. -/
def EverBlittable (W : Workspace) (s : Signature) : Prop :=
  ∃ found, Searches W.registry { notes := W.notes.classes } { notes := found } ∧
    FoundBlittable W.registry found s

/-- The same at all times, whatever is searched for. -/
def AlwaysBlittable (W : Workspace) (s : Signature) : Prop :=
  ∀ found, Searches W.registry { notes := W.notes.classes } { notes := found } →
    FoundBlittable W.registry found s

section Searched

variable {R : Registry} {m : Memo} (unclassified : m.isEmpty) (searched : Searched R m W)
include unclassified searched

/-- Where all that is noted was found by searches, the same is found at all times. -/
theorem foundBlittable_iff {found : Memo}
    (searches : Searches W.registry { notes := W.notes.classes } { notes := found }) :
    FoundBlittable W.registry found s ↔ Layout.FieldDerivable W.registry m s := by
  refine Layout.foundBlittable_iff (fun c k noted => ?_) ?_
  · simp [Std.TreeMap.getElem?_of_isEmpty unclassified] at noted
  · exact searches.settled (searched.searches.settled (.refl W.registry m))

theorem everBlittable_iff : W.EverBlittable s ↔ Layout.FieldDerivable W.registry m s := by
  constructor
  · rintro ⟨found, searches, blittable⟩
    exact (foundBlittable_iff unclassified searched searches).1 blittable
  · intro reason
    exact ⟨_, .refl _ _, (foundBlittable_iff unclassified searched (.refl _ _)).2 reason⟩

theorem alwaysBlittable_iff : W.AlwaysBlittable s ↔ Layout.FieldDerivable W.registry m s := by
  constructor
  · intro blittable
    exact (foundBlittable_iff unclassified searched (.refl _ _)).1 (blittable _ (.refl _ _))
  · intro reason found searches
    exact (foundBlittable_iff unclassified searched searches).2 reason

end Searched

/-- If a field is found blittable at some time, and so is each argument for a parameter that it
embeds, then the field with these arguments is found blittable at all times. -/
theorem alwaysBlittable_subst (unclassified : W.notes.classes.isEmpty) {later : List Step}
    (bindsNothing : ∀ step ∈ later, ∀ r, step ≠ .register r) (generic : TypeId)
    (args : List Signature) (s : Signature) :
    ((W.after later).EverBlittable s →
        (∀ (i : Nat) (arg : Signature), args[i]? = some arg → s.embeds generic i →
          (W.after later).EverBlittable arg) →
          (W.after later).AlwaysBlittable (s.subst generic args)) ∧
      ((W.after later).EverBlittable (s.subst generic args) →
        (W.after later).AlwaysBlittable s ∧ ∀ (i : Nat) (arg : Signature), args[i]? = some arg →
          LooksAt (W.after later).registry.source generic i s →
            (W.after later).AlwaysBlittable arg) := by
  have searched : Searched W.registry W.notes.classes (W.after later) :=
    (endures_searched W.registry W.notes.classes).after (.refl W) bindsNothing
  simp only [everBlittable_iff unclassified searched, alwaysBlittable_iff unclassified searched]
  constructor
  · intro field embedded
    exact Layout.fieldDerivable_subst_iff.2
      ⟨field, fun i arg found looks => embedded i arg found looks.embeds⟩
  · exact Layout.fieldDerivable_subst_iff.1

end Workspace

namespace Sample

/-- The nested program after its registrations. -/
def nested : Workspace :=
  (Workspace.start "mscorlib" nestedSource nestedTarget).after (nestedRegistrations.map .register)

/-- The class of a holder is asked for, and the output is completed. -/
def nestedAnswered : Workspace := nested.after [.ask (.classOf ⟨5⟩), .complete]

end Sample

/-- In the sample program, a pair of whatever a wrapper is applied to is blittable, and a game is.
So is a pair of games then, of which one is in a cell and others are behind a pointer. -/
theorem Workspace.alwaysBlittable_subst_game :
    Sample.nested.notes.classes.isEmpty ∧
      Sample.nestedAnswered.EverBlittable (.inst ⟨7⟩ [.param (.type ⟨4⟩) 0]) ∧
      Sample.nestedAnswered.EverBlittable (.named ⟨8⟩) ∧
      Sample.nestedAnswered.AlwaysBlittable (.inst ⟨7⟩ [.named ⟨8⟩]) := by
  have unclassified : Sample.nested.notes.classes.isEmpty := by decide +kernel
  -- It is found without further searches.
  have ever {s : Signature} (answered : ((Layout.fieldBlittable Sample.nestedAnswered.registry
      (Layout.classify Sample.nestedAnswered.registry []) s).run
        Sample.nestedAnswered.notes.classes).map (·.1) =
        some true) : Sample.nestedAnswered.EverBlittable s := by
    rcases Option.map_eq_some_iff.1 answered with ⟨⟨_, found'⟩, run, rfl⟩
    exact ⟨_, .refl _ _, found', run⟩
  have pair := ever (s := .inst ⟨7⟩ [.param (.type ⟨4⟩) 0]) (by decide +kernel)
  have game := ever (s := .named ⟨8⟩) (by decide +kernel)
  have bindsNothing : ∀ step ∈ [Step.ask (.classOf ⟨5⟩), .complete], ∀ r,
    step ≠ .register r := by simp
  have applied := alwaysBlittable_subst unclassified bindsNothing ⟨4⟩ [.named ⟨8⟩]
    (.inst ⟨7⟩ [.param (.type ⟨4⟩) 0])
  refine ⟨unclassified, pair, game, applied.1 pair fun i arg found _ => ?_⟩
  rcases List.mem_singleton.1 (List.mem_of_getElem? found) with rfl
  exact game

/-- A parameter can be embedded without being looked at. A list is applied to its parameter, but
keeps it behind a pointer; so a list of strings is blittable, though strings are not. -/
example :
    (Signature.inst ⟨3⟩ [.param (.type ⟨4⟩) 0]).embeds ⟨4⟩ 0 ∧
      ([.inst ⟨3⟩ [.named ⟨2⟩], .named ⟨2⟩].map fun s =>
        ((Layout.fieldBlittable Sample.nestedRegistry
        (Layout.classify Sample.nestedRegistry []) s).run ∅).map (·.1)) =
          [some true, some false] := by
  decide +kernel

end TypeProjection
