import TypeProjection.Registry.Basic
import TypeProjection.Text.Quoted

/-!
# Registry.Description — an assembly binding for the reader
-/

namespace TypeProjection.AssemblyBinding

/-- The text that describes an assembly binding with its handle. -/
def describe (A : AssemblyBinding) (b : AssemblyBindingId) : String :=
  "AssemblyContext \x7b id: AsmCtxId(" ++ toString b.index
    ++ "), name: " ++ Text.quote A.name
    ++ ", original: AssemblyId(" ++ toString A.source.index
    ++ "), module: ModuleId(" ++ toString A.module.index
    ++ "), types: " ++ toString A.byTarget.size
    ++ ", .. \x7d"

end TypeProjection.AssemblyBinding
