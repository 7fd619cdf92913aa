import TypeProjection.Text.Printable

/-!
# Quoted — text between quotation marks

Quoted text stands on one line and shows every character: what has no visible form, and the
quotation mark and backslash, are written as escapes.
-/

namespace TypeProjection.Text

/-- How a character is written between quotation marks. -/
def escape (c : Char) : String :=
  match c with
  | '\x00' => "\\0"
  | '\t' => "\\t"
  | '\r' => "\\r"
  | '\n' => "\\n"
  | '"' => "\\\""
  | '\\' => "\\\\"
  | c =>
      if isPrintable c then String.singleton c
      else "\\u\x7b" ++ String.ofList (Nat.toDigits 16 c.toNat) ++ "\x7d"

def quote (s : String) : String :=
  "\"" ++ String.join (s.toList.map escape) ++ "\""

end TypeProjection.Text
