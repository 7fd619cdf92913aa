import TypeProjection.Text.Alphanumeric
import TypeProjection.Text.Identifier
import TypeProjection.Workspace

/-!
# Completion — filling in the output types

The output types that stand for source types get their generic parameters and bases in two sweeps
over all bindings. This module defines

- `fillShape` : the first sweep's step: the parameters, and the base where the layout class fixes
  it;
- `fillBase` : the second sweep's step: the base of every other type, which is the form of the
  source's base;
- `complete` : both sweeps, assembly by assembly and in the order of the output types;
- `Summary` : how much was filled in.

The second sweep starts after the first has ended, because the form of a base depends on the
classes, parameters and bases of the types that it mentions. The order within the sweeps is a
parameter of `completeIn`.
-/

namespace TypeProjection

/-- How much a completion filled in. -/
structure Completion.Summary where
  params : Nat := 0
  /-- Generic parameters that are marked unmanaged. -/
  unmanagedParams : Nat := 0
  enumBases : Nat := 0
  valueTypeBases : Nat := 0
  /-- Bases that are the form of the source's base. -/
  projectedBases : Nat := 0
  deriving DecidableEq, Repr

namespace Completion

instance : Add Summary where
  add a b :=
    { params := a.params + b.params
      unmanagedParams := a.unmanagedParams + b.unmanagedParams
      enumBases := a.enumBases + b.enumBases
      valueTypeBases := a.valueTypeBases + b.valueTypeBases
      projectedBases := a.projectedBases + b.projectedBases }

/-! ## The shape of a type -/

/-- The output's form of a generic parameter. The parameters of a blittable type have to be
unmanaged; those of any other type take wrapped references and lose the flags that do not fit
them. -/
def completedParam (blittable : Bool) (p : Source.TypeParam) : Target.TypeParam :=
  let name := Text.toIdentifier Text.isAlphanumeric p.name
  if blittable then
    { name, flags := p.flags, unmanaged := true, constraints := [Interop.valueTypeBase] }
  else { name, flags := p.flags.stripped }

/-- What fixes the base of an output type. -/
inductive BaseKind
  | enum
  | valueType
  /-- Nothing: the base is the form of the source's base. -/
  | projected
  deriving DecidableEq, Repr

/-- What fixes the base of the output type for a source type. -/
def baseKind (blittable : Bool) (d : Source.TypeDecl) : BaseKind :=
  if d.form = .enumType then .enum else if blittable then .valueType else .projected

def BaseKind.fixed? : BaseKind → Option Target.Signature
  | .enum => some Interop.enumBase
  | .valueType => some Interop.valueTypeBase
  | .projected => none

/-- What the first sweep counts for a type. -/
def shapeCounts (params : List Target.TypeParam) (kind : BaseKind) : Summary :=
  { params := params.length
    unmanagedParams := params.countP (·.unmanaged)
    enumBases := if kind = .enum then 1 else 0
    valueTypeBases := if kind = .valueType then 1 else 0 }

/-! ## The sweeps -/

/-- Give an output type its generic parameters, and its base if that is fixed. -/
def fillShape (c : TypeBindingId) : Update Summary := do
  let b ← Update.look fun R => R.types.fetch c
  match b.source with
  -- A type that was made up for the output keeps what its skeleton has.
  | none => return {}
  | some t =>
      let d ← Update.look fun R => R.source.types.fetch t
      let k ← Update.ask fun R => R.classOf c
      let params := d.params.map (completedParam k.isBlittable)
      let kind := baseKind k.isBlittable d
      Update.setParams (.type b.target) params
      match kind.fixed? with
      | some base => Update.setBase b.target base
      | none => pure ()
      return shapeCounts params kind

/-- Give an output type whose base is not fixed the form of the source's base. -/
def fillBase (c : TypeBindingId) : Update Summary := do
  let b ← Update.look fun R => R.types.fetch c
  match b.source with
  | none => return {}
  | some t =>
      let d ← Update.look fun R => R.source.types.fetch t
      let k ← Update.ask fun R => R.classOf c
      match baseKind k.isBlittable d with
      | .enum => return {}
      | .valueType => return {}
      | .projected =>
          -- The base is mentioned in the module of the binding's own assembly.
          let A ← Update.look fun R => R.assemblies.fetch b.assembly
          let base ← Update.ask fun R => R.projectOption A.module false d.base
          Update.setBase b.target base
          return { projectedBases := 1 }

/-- One step for each binding, and what the steps count together. -/
def sweep (step : TypeBindingId → Update Summary) : List TypeBindingId → Update Summary
  | [] => return {}
  | c :: rest => do
      let first ← step c
      let others ← sweep step rest
      return first + others

/-- Both sweeps, each in a given order. -/
def completeIn (shapes bases : List TypeBindingId) : Update Summary := do
  -- The form of a base depends on the shapes of all types, so these come first.
  let first ← sweep fillShape shapes
  let second ← sweep fillBase bases
  return first + second

/-- Fill in all output types that stand for source types. -/
def complete : Update Summary := do
  let order := (← get).registry.bindings
  completeIn order order

end Completion

end TypeProjection
