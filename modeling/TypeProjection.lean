import TypeProjection.Completion
import TypeProjection.Corlib
import TypeProjection.Failure
import TypeProjection.GenericParam
import TypeProjection.Handle
import TypeProjection.Interop
import TypeProjection.Layout.Class
import TypeProjection.Layout.Classify
import TypeProjection.Layout.Derivation
import TypeProjection.Layout.Search
import TypeProjection.Layout.Unfolding
import TypeProjection.Projection.Lacking
import TypeProjection.Projection.Query
import TypeProjection.Projection.Reference
import TypeProjection.Proofs.Completion.Census
import TypeProjection.Proofs.Completion.Consistent
import TypeProjection.Proofs.Completion.Course
import TypeProjection.Proofs.Completion.Fields
import TypeProjection.Proofs.Completion.Filled
import TypeProjection.Proofs.Completion.InStep
import TypeProjection.Proofs.Completion.Marks
import TypeProjection.Proofs.Completion.Order
import TypeProjection.Proofs.Completion.Outcome
import TypeProjection.Proofs.Completion.Plan
import TypeProjection.Proofs.Completion.SelfReference
import TypeProjection.Proofs.Completion.Shape
import TypeProjection.Proofs.Completion.StandIns
import TypeProjection.Proofs.Completion.Steps
import TypeProjection.Proofs.Completion.Stopped
import TypeProjection.Proofs.Completion.Twice
import TypeProjection.Proofs.Completion.Unboxed
import TypeProjection.Proofs.Completion.ValueTypes
import TypeProjection.Proofs.Completion.WellKinded
import TypeProjection.Proofs.Effect
import TypeProjection.Proofs.Layout.Alike
import TypeProjection.Proofs.Layout.Backed
import TypeProjection.Proofs.Layout.Dependence
import TypeProjection.Proofs.Layout.Flat
import TypeProjection.Proofs.Layout.Found
import TypeProjection.Proofs.Layout.Growth
import TypeProjection.Proofs.Layout.Instantiated
import TypeProjection.Proofs.Layout.Lasting
import TypeProjection.Proofs.Layout.LeastClass
import TypeProjection.Proofs.Layout.Noted
import TypeProjection.Proofs.Layout.Search
import TypeProjection.Proofs.Layout.Settled
import TypeProjection.Proofs.Layout.Traced
import TypeProjection.Proofs.Layout.Twins
import TypeProjection.Proofs.Projection.Alike
import TypeProjection.Proofs.Projection.Boxed
import TypeProjection.Proofs.Projection.Constant
import TypeProjection.Proofs.Projection.Elsewhere
import TypeProjection.Proofs.Projection.Faithful
import TypeProjection.Proofs.Projection.Form
import TypeProjection.Proofs.Projection.Lacking
import TypeProjection.Proofs.Projection.Parallel
import TypeProjection.Proofs.Projection.Proven
import TypeProjection.Proofs.Projection.References
import TypeProjection.Proofs.Projection.Steady
import TypeProjection.Proofs.Registry.Again
import TypeProjection.Proofs.Registry.Coherent
import TypeProjection.Proofs.Registry.Names
import TypeProjection.Proofs.Registry.Tables
import TypeProjection.Proofs.Run.Again
import TypeProjection.Proofs.Run.Independent
import TypeProjection.Proofs.Run.Recorded
import TypeProjection.Proofs.Run.Searches
import TypeProjection.Proofs.Run.Stable
import TypeProjection.Proofs.Text.Identifier
import TypeProjection.Proofs.Update
import TypeProjection.Registry.Basic
import TypeProjection.Registry.Description
import TypeProjection.Registry.History
import TypeProjection.Registry.Registration
import TypeProjection.Run
import TypeProjection.Source.Catalog
import TypeProjection.Source.Occurrence
import TypeProjection.Source.Signature
import TypeProjection.Source.Substitution
import TypeProjection.Target.Catalog
import TypeProjection.Target.Occurrence
import TypeProjection.Target.References
import TypeProjection.Target.Signature
import TypeProjection.Text.Alphanumeric
import TypeProjection.Text.Identifier
import TypeProjection.Text.Printable
import TypeProjection.Text.Qualified
import TypeProjection.Text.Quoted
import TypeProjection.Text.RangeTable
import TypeProjection.Workspace
