import CertKeeper.Text.Printable

/-!
# Quoted texts

The quoted spelling of a text: single quotes unless the text holds one and no double quote;
a backslash before the quote and before itself; unprintable code points by number.
-/

namespace CertKeeper.Text

def quoteFor (t : Text) : CodePoint :=
  if t.contains (CodePoint.ofChar '\'') && !t.contains (CodePoint.ofChar '"')
  then CodePoint.ofChar '"' else CodePoint.ofChar '\''

/-- A code point by number, in the shortest of the three forms. -/
def numbered (c : CodePoint) : Text :=
  if c.val < 0x100 then ofString "\\x" ++ padLeft 2 '0' (hexLower c.val)
  else if c.val < 0x10000 then ofString "\\u" ++ padLeft 4 '0' (hexLower c.val)
  else ofString "\\U" ++ padLeft 8 '0' (hexLower c.val)

def quotedPoint (quote c : CodePoint) : Text :=
  if c = quote ∨ c = CodePoint.ofChar '\\' then [CodePoint.ofChar '\\', c]
  else if c = CodePoint.ofChar '\n' then "\\n"
  else if c = CodePoint.ofChar '\r' then "\\r"
  else if c = CodePoint.ofChar '\t' then "\\t"
  else if isPrintable c then [c]
  else numbered c

def quoted (t : Text) : Text :=
  let quote := quoteFor t
  quote :: t.flatMap (quotedPoint quote) ++ [quote]

def asciiOnly (t : Text) : Text := t.flatMap fun c => if c.val < 128 then [c] else numbered c

/-- One byte inside quotes; a byte outside ASCII is spelled by number. -/
def quotedByte (quote : CodePoint) (b : Byte) : Text :=
  let c := CodePoint.ofNat b.toNat
  if b.toNat < 127 then quotedPoint quote c else numbered c

def quotedBytes (bs : Bytes) : Text :=
  let quote := quoteFor (bs.map fun b => CodePoint.ofNat b.toNat)
  CodePoint.ofChar 'b' :: quote :: bs.flatMap (quotedByte quote) ++ [quote]

end CertKeeper.Text
