/-!
# Qualified — full names of declarations
-/

namespace TypeProjection.Text

/-- A name within a namespace: the two joined by a point, or the name alone in the nameless
namespace. -/
def qualify (space name : String) : String :=
  if space = "" then name else space ++ "." ++ name

end TypeProjection.Text
