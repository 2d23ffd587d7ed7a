import CertKeeper.Value.Binary

/-!
# Decimal places

How a fraction is spelled where its places are counted: with fixed places, with an exponent, or
with a count of digits in the shorter of these two ways.
-/

namespace CertKeeper

structure Places where
  letter : CodePoint
  count : Nat
  /-- A point is kept where nothing follows it, and so are zeros at the end. -/
  full : Bool

namespace Places

def pointed (keepPoint : Bool) (count : Nat) (ds : Text) : Text :=
  let ds := Text.padLeft (count + 1) '0' ds
  if count = 0 then if keepPoint then ds ++ "." else ds
  else ds.take (ds.length - count) ++ "." ++ ds.drop (ds.length - count)

def fixed (keepPoint : Bool) (count num den : Nat) : Text :=
  pointed keepPoint count (Text.decimal (Binary.roundDiv (num * Nat.pow 10 count) den))

/-- An exponent has a sign and at least two digits. -/
def exponent (capital : Bool) (e : Int) : Text :=
  CodePoint.ofChar (if capital then 'E' else 'e') ::
    CodePoint.ofChar (if e < 0 then '-' else '+') :: Text.padLeft 2 '0' (Text.decimal e.natAbs)

/-- Drops the zeros at the end of a fraction, and a point that nothing follows. -/
def trim (t : Text) : Text :=
  if Text.includes "." t then
    Text.trimRight (· = CodePoint.ofChar '.') (Text.trimRight (· = CodePoint.ofChar '0') t)
  else t

def isCapital (p : Places) : Bool := ("EFG" : Text).contains p.letter

def spell (p : Places) (num den : Nat) : Text :=
  let is := fun (t : Text) => t.contains p.letter
  if is "fF" then fixed p.full p.count num den
  else if is "eE" then
    let (m, e) := Binary.leading (p.count + 1) num den
    pointed p.full p.count (Text.decimal m) ++ exponent p.isCapital e
  else
    let count := max p.count 1
    let (m, e) := Binary.leading count num den
    let cut := fun (t : Text) => if p.full then t else trim t
    if -4 ≤ e ∧ e < count then cut (fixed p.full ((count : Int) - 1 - e).toNat num den)
    else cut (pointed p.full (count - 1) (Text.decimal m)) ++ exponent p.isCapital e

def spellBinary (p : Places) : Binary → Text
  | .finite _ significand scale =>
    let (num, den) := Binary.fraction significand scale
    p.spell num den
  | .infinite _ => if p.isCapital then "INF" else "inf"
  | .undefined => if p.isCapital then "NAN" else "nan"

end Places

end CertKeeper
