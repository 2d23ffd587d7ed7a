import CertKeeper.Base64
import CertKeeper.Text.Blank

/-!
# Text armour

Blocks of base 64 between a first and a last line that name what is inside.  Text around the
blocks is ignored; a block that is not closed is ignored with all that follows it; a block that
is closed must be sound.
-/

namespace CertKeeper

namespace Pem

structure Block where
  label : Text
  data : Bytes
deriving DecidableEq, Repr

/-! ### Writing -/

def wrap (width : Nat) : Nat → Text → List Text
  | 0, _ => []
  | fuel + 1, t => if t.isEmpty then [] else t.take width :: wrap width fuel (t.drop width)

def Block.spell (b : Block) : Text :=
  let letters := Base64.encode b.data
  "-----BEGIN " ++ b.label ++ "-----\n" ++
    (wrap 64 letters.length letters).flatMap (fun l => l ++ [CodePoint.ofChar '\n']) ++
    "-----END " ++ b.label ++ "-----\n"

theorem wrap_flatten (width fuel : Nat) (t : Text) (h : t.length ≤ fuel) (pos : 0 < width) :
    (wrap width fuel t).flatten = t := by
  induction fuel generalizing t with
  | zero =>
    have : t = [] := List.length_eq_zero_iff.mp (by omega)
    simp [wrap, this]
  | succ fuel ih =>
    rw [wrap]
    split
    · next empty => rw [List.isEmpty_iff.mp empty]; rfl
    · next filled =>
      have long : 0 < t.length :=
        List.length_pos_iff.mpr fun nil => filled (by rw [nil]; rfl)
      rw [List.flatten_cons, ih _ (by rw [List.length_drop]; omega), List.take_append_drop]

/-! ### Reading -/

def isGap (c : CodePoint) : Bool := c.val = 32 || c.val = 9 || c.val = 10 || c.val = 13

structure Raw where
  first : Text
  last : Text
  body : Text

def next? (t : Text) : Option (Raw × Text) := do
  let (_, t) ← Text.cut? "-----BEGIN " t
  let (first, t) ← Text.cut? "-----" t
  let (body, t) ← Text.cut? "-----END " (t.dropWhile isGap)
  let (last, t) ← Text.cut? "-----" t
  return (⟨first, last, body⟩, t)

/-- Header lines end at an empty line; they must have a colon each. -/
def splitHeaders (body : Text) : Text × Text :=
  match Text.cut? "\n\n" body with
  | some (headers, data) => (headers, data)
  | none =>
    match Text.cut? "\r\n\r\n" body with
    | some (headers, data) => (headers, data)
    | none => ([], body)

/-- Lines that a text has; an empty text has none. -/
def linesOf (t : Text) : List Text :=
  let ls := Text.lines t
  if ls.getLast? = some [] then ls.dropLast else ls

/-- A block whose labels agree, whose headers are headers and whose letters decode. -/
def Raw.check? (r : Raw) : Option Block :=
  let (headers, body) := splitHeaders r.body
  if r.first = r.last ∧ r.first ≠ [] ∧
      (linesOf headers).all (fun l => decide (CodePoint.ofChar ':' ∈ l)) then do
    let data ← Base64.decode? ((linesOf body).flatMap (Text.trimRight Text.isBlank))
    return ⟨r.first, data⟩
  else none

/-- All blocks, or nothing if one of them is unsound. -/
def readFrom? : Nat → Text → Option (List Block)
  | 0, _ => some []
  | fuel + 1, t =>
    match next? t with
    | none => some []
    | some (raw, rest) => do
      let block ← raw.check?
      let blocks ← readFrom? fuel rest
      return block :: blocks

def read? (t : Text) : Option (List Block) := readFrom? t.length t

end Pem

end CertKeeper
