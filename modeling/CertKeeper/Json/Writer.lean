import CertKeeper.Value

/-!
# Writing JSON

JSON texts in ASCII: on one line, or with one member a line.  Code points outside ASCII are
written as the numbers of their UTF-16 units.
-/

namespace CertKeeper.Json

/-! ### Strings -/

def unitEscape (n : Nat) : Text := "\\u" ++ Text.padLeft 4 '0' (Text.hexLower n)

def escapePoint (c : CodePoint) : Text :=
  if c = CodePoint.ofChar '"' then "\\\""
  else if c = CodePoint.ofChar '\\' then "\\\\"
  else if c.val = 10 then "\\n"
  else if c.val = 13 then "\\r"
  else if c.val = 9 then "\\t"
  else if c.val = 8 then "\\b"
  else if c.val = 12 then "\\f"
  else if 32 ≤ c.val ∧ c.val < 127 then [c]
  else if c.val < 0x10000 then unitEscape c.val
  else
    unitEscape (0xD800 + (c.val - 0x10000) / 0x400) ++
      unitEscape (0xDC00 + (c.val - 0x10000) % 0x400)

def renderString (t : Text) : Text := "\"" ++ t.flatMap escapePoint ++ "\""

/-! ### Values -/

/-- The spelling of a number with a fraction; what is no number is a word. -/
def renderReal : Binary → Text
  | .undefined => "NaN"
  | .infinite negative => if negative then "-Infinity" else "Infinity"
  | r => r.spell

mutual

def render : Value → Text
  | .null => "null"
  | .bool b => if b then "true" else "false"
  | .int i => Text.integer i
  | .real r => renderReal r
  | .text t => renderString t
  | .bytes bs => renderString (Bytes.hex bs)
  | .list items => "[" ++ renderItems items ++ "]"
  | .object fields => "\x7b" ++ renderFields fields ++ "\x7d"

def renderItems : List Value → Text
  | [] => []
  | [v] => render v
  | v :: w :: rest => render v ++ "," ++ renderItems (w :: rest)

def renderFields : List (Text × Value) → Text
  | [] => []
  | [(name, v)] => renderString name ++ ":" ++ render v
  | (name, v) :: w :: rest =>
    renderString name ++ ":" ++ render v ++ "," ++ renderFields (w :: rest)

end

/-- Members one a line, indented by two; the values themselves stay on their line. -/
def renderRecord (fields : List (Text × Value)) : Text :=
  "\x7b\n" ++
    Text.join ",\n" (fields.map fun f => "  " ++ renderString f.1 ++ ": " ++ render f.2) ++
    "\n\x7d"

end CertKeeper.Json
