import CertKeeper.Text

/-!
# Binary fractions

Numbers with a fraction as readers of data formats keep them: the nearest number with 53
significant binary digits, written with the fewest decimal digits that read back.
-/

namespace CertKeeper

/-- A number `significand * 2 ^ scale`, or one of the values that are no number. -/
inductive Binary where
  | finite (negative : Bool) (significand : Nat) (scale : Int)
  | infinite (negative : Bool)
  | undefined
deriving DecidableEq, Repr

namespace Binary

def isNegative : Binary → Bool
  | finite negative _ _ | infinite negative => negative
  | undefined => false

/-! ### Rounding -/

/-- The quotient rounded to the nearest whole number, a half to the even neighbour. -/
def roundDiv (num den : Nat) : Nat :=
  let q := num / den
  let r := num % den
  if 2 * r < den then q else if den < 2 * r then q + 1 else if q % 2 = 0 then q else q + 1

theorem roundDiv_mul (q : Nat) {den : Nat} (h : 0 < den) : roundDiv (q * den) den = q := by
  simp [roundDiv, Nat.mul_div_cancel _ h, h]

def scaled (num den : Nat) (scale : Int) : Nat × Nat :=
  if 0 ≤ scale then (num, den * Nat.pow 2 scale.toNat) else (num * Nat.pow 2 (-scale).toNat, den)

def ofFraction (negative : Bool) (num den : Nat) : Binary :=
  if num = 0 then .finite negative 0 0
  else
    let guess : Int := (num.log2 : Int) - (den.log2 : Int) - 53
    let low := max guess (-1074)
    let (n, d) := scaled num den low
    let scale := if n / d < Nat.pow 2 53 then low else low + 1
    let (n, d) := scaled num den scale
    let (n, d, scale) := if n / d < Nat.pow 2 53 then (n, d, scale) else
      let (n, d) := scaled num den (scale + 1)
      (n, d, scale + 1)
    let m := roundDiv n d
    let (m, scale) := if m = Nat.pow 2 53 then (Nat.pow 2 52, scale + 1) else (m, scale)
    if m = 0 then .finite negative 0 0
    else if 971 < scale then .infinite negative
    else .finite negative m scale

/-- The nearest binary fraction of `mantissa * 10 ^ exponent`; far-off exponents are cut short. -/
def ofDecimal (negative : Bool) (mantissa : Nat) (exponent : Int) : Binary :=
  if mantissa = 0 then .finite negative 0 0
  else
    let magnitude := (Text.digits 10 mantissa).length + exponent
    if 320 < magnitude then .infinite negative
    else if magnitude < -340 then .finite negative 0 0
    else if 0 ≤ exponent then ofFraction negative (mantissa * Nat.pow 10 exponent.toNat) 1
    else ofFraction negative mantissa (Nat.pow 10 (-exponent).toNat)

/-- The first `count` digits of a fraction as one rounded number, with the exponent of the first of
them. -/
def leading (count num den : Nat) : Nat × Int :=
  if num = 0 then (0, 0)
  else
    let length := fun n => ((Text.digits 10 n).length : Int)
    let high : Int := length num - length den
    let power := fun (e : Int) => if 0 ≤ e then (num, den * Nat.pow 10 e.toNat) else
      (num * Nat.pow 10 (-e).toNat, den)
    let e := if (power high).2 ≤ (power high).1 then high else high - 1
    let (n, d) := power (e - count + 1)
    let m := roundDiv n d
    if m = Nat.pow 10 count then (Nat.pow 10 (count - 1), e + 1) else (m, e)

/-! ### Shortest decimal -/

def fraction (significand : Nat) (scale : Int) : Nat × Nat :=
  if 0 ≤ scale then (significand * Nat.pow 2 scale.toNat, 1)
  else (significand, Nat.pow 2 (-scale).toNat)

/-- The two neighbours of a fraction on the grid of multiples of `10 ^ exponent`, nearer first. -/
def neighbours (num den : Nat) (exponent : Int) : List Nat :=
  let (n, d) := if 0 ≤ exponent then (num, den * Nat.pow 10 exponent.toNat)
    else (num * Nat.pow 10 (-exponent).toNat, den)
  let q := n / d
  let r := n % d
  if 2 * r < d ∨ (2 * r = d ∧ q % 2 = 0) then [q, q + 1] else [q + 1, q]

/-- The first grid, from coarse to fine, with a point that reads back. -/
def shortestFrom (num den : Nat) (back : Binary) : Nat → Int → Nat × Int
  | 0, exponent => ((neighbours num den exponent).headD 0, exponent)
  | grids + 1, exponent =>
    match (neighbours num den exponent).find? fun m => ofDecimal false m exponent == back with
    | some m => (m, exponent)
    | none => shortestFrom num den back grids (exponent - 1)

def stripZeros : Nat → Nat → Int → Nat × Int
  | 0, m, e => (m, e)
  | fuel + 1, m, e => if m ≠ 0 ∧ m % 10 = 0 then stripZeros fuel (m / 10) (e + 1) else (m, e)

/-- The fewest decimal digits that read back, with their exponent. -/
def shortest (significand : Nat) (scale : Int) : Nat × Int :=
  if significand = 0 then (0, 0)
  else
    let (num, den) := fraction significand scale
    let estimate : Int := ((num.log2 : Int) - (den.log2 : Int)) * 30103 / 100000 + 1
    let (m, e) := shortestFrom num den (.finite false significand scale) 18 estimate
    stripZeros 20 m e

/-! ### Spelling -/

def whole? : Binary → Option Int
  | finite negative significand scale =>
    let magnitude : Option Nat :=
      if 0 ≤ scale then some (significand * Nat.pow 2 scale.toNat)
      else if significand % Nat.pow 2 (-scale).toNat = 0 then
        some (significand / Nat.pow 2 (-scale).toNat)
      else none
    magnitude.map fun n => if negative then -(n : Int) else n
  | infinite _ | undefined => none

/-- Positional between `1e-4` and `1e16`, else with an exponent of at least two digits. -/
def spell : Binary → Text
  | .undefined => "nan"
  | .infinite negative => if negative then "-inf" else "inf"
  | .finite negative significand scale =>
    let (m, e) := shortest significand scale
    let ds := Text.decimal m
    let point : Int := ds.length + e
    let dot := CodePoint.ofChar '.'
    let zero := CodePoint.ofChar '0'
    let body : Text :=
      if -4 < point ∧ point ≤ 16 then
        if point ≤ 0 then
          zero :: dot :: List.replicate (-point).toNat zero ++ (if m = 0 then [] else ds)
        else if ds.length ≤ point.toNat then
          ds ++ List.replicate (point.toNat - ds.length) zero ++ [dot, zero]
        else ds.take point.toNat ++ [dot] ++ ds.drop point.toNat
      else
        let exponent := point - 1
        ds.take 1 ++ (if ds.length ≤ 1 then [] else dot :: ds.drop 1) ++
          (CodePoint.ofChar 'e' :: CodePoint.ofChar (if exponent < 0 then '-' else '+') ::
            Text.padLeft 2 '0' (Text.decimal exponent.natAbs))
    if negative then CodePoint.ofChar '-' :: body else body

end Binary

end CertKeeper
