import Std.Data.TreeSet
import TypeProjection.Target.Signature

/-!
# Target.References — what output modules refer to outside themselves

An output module that mentions a type of another module or of a library refers to that module or
library. This module defines

- `Reference` : what a module can refer to;
- `References` : which module refers to what, a set that only grows;
- `References.listed` : the references of one module, in order: modules by number, then the base
  class library, then the support library.
-/

namespace TypeProjection.Target

inductive Reference
  | module (module : ModuleId)
  | library (library : Library)
  deriving DecidableEq, Repr

namespace Reference

/-- Modules come before the base class library, and that before the support library. -/
def group : Reference → Nat
  | .module _ => 0
  | .library .corlib => 1
  | .library .support => 2

def index : Reference → Nat
  | .module m => m.index
  | .library _ => 0

theorem eq_of_group_of_index {a b : Reference} (group : a.group = b.group)
    (index : a.index = b.index) :
    a = b := by
  match a, b with
  | .module ⟨_⟩, .module ⟨_⟩ => exact congrArg (fun n => Reference.module ⟨n⟩) index
  | .module _, .library .corlib => cases group
  | .module _, .library .support => cases group
  | .library .corlib, .module _ => cases group
  | .library .support, .module _ => cases group
  | .library .corlib, .library .corlib => rfl
  | .library .corlib, .library .support => cases group
  | .library .support, .library .corlib => cases group
  | .library .support, .library .support => rfl

end Reference

/-- One module's reference. -/
structure Edge where
  importer : ModuleId
  imported : Reference
  deriving DecidableEq, Repr

namespace Edge

/-- Edges are ordered by importing module, then by what is imported. -/
def order : Edge → Edge → Ordering :=
  compareLex (compareOn fun e => e.importer)
    (compareLex (compareOn fun e => e.imported.group) (compareOn fun e => e.imported.index))

instance : Ord Edge := ⟨order⟩

instance : Std.TransOrd Edge := inferInstanceAs (Std.TransCmp (compareLex _ (compareLex _ _)))

instance : Std.LawfulEqOrd Edge where
  eq_of_compare {a b} h := by
    -- The three keys together tell edges apart.
    rcases Ordering.then_eq_eq.1 h with ⟨importer, rest⟩
    rcases Ordering.then_eq_eq.1 rest with ⟨group, index⟩
    have imported : a.imported = b.imported :=
      Reference.eq_of_group_of_index (Std.LawfulEqOrd.eq_of_compare (α := Nat) group)
        (Std.LawfulEqOrd.eq_of_compare (α := Nat) index)
    have importers : a.importer = b.importer := Std.LawfulEqOrd.eq_of_compare importer
    cases a
    cases b
    cases imported
    cases importers
    rfl

end Edge

structure References where
  edges : Std.TreeSet Edge := ∅

namespace References

def has (R : References) (importer : ModuleId) (imported : Reference) : Bool :=
  R.edges.contains ⟨importer, imported⟩

def record (R : References) (importer : ModuleId) (imported : Reference) : References :=
  ⟨R.edges.insert ⟨importer, imported⟩⟩

/-- The references of one module, in order. -/
def listed (R : References) (importer : ModuleId) : List Reference :=
  (R.edges.toList.filter (·.importer = importer)).map (·.imported)

/-- Noting a reference adds that one and keeps all others. -/
theorem has_record {R : References} {m n : ModuleId} {r s : Reference} :
    (R.record m r).has n s ↔ (n = m ∧ s = r) ∨ R.has n s := by
  simp only [has, record, Std.TreeSet.contains_insert, Bool.or_eq_true, beq_iff_eq,
    Std.LawfulEqOrd.compare_eq_iff_eq, Edge.mk.injEq]
  rw [eq_comm (a := m), eq_comm (a := r)]

/-- The references that are listed for a module are those it has. -/
theorem mem_listed {R : References} {m : ModuleId} {r : Reference} :
    r ∈ R.listed m ↔ R.has m r := by
  simp only [listed, has, List.mem_map, List.mem_filter, Std.TreeSet.mem_toList,
    Std.TreeSet.contains_iff_mem, decide_eq_true_eq]
  constructor
  · rintro ⟨⟨n, s⟩, ⟨mem, rfl⟩, rfl⟩
    exact mem
  · exact fun mem => ⟨⟨m, r⟩, ⟨mem, rfl⟩, rfl⟩

/-- What modules refer to settles what is listed for them. -/
theorem listed_congr {R R' : References} (same : ∀ m r, R.has m r ↔ R'.has m r) (m : ModuleId) :
    R.listed m = R'.listed m := by
  have equiv : R.edges.Equiv R'.edges := by
    refine Std.TreeSet.Equiv.of_forall_mem_iff fun edge => ?_
    simpa only [has, Std.TreeSet.contains_iff_mem] using same edge.importer edge.imported
  rw [listed, listed, equiv.toList_eq]

end References

end TypeProjection.Target
