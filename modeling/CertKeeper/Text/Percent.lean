import CertKeeper.Text.Shape
import CertKeeper.Fault
import CertKeeper.Value

/-!
# Templates with percent signs

Texts in which a percent sign and a letter stand for the next value, or for the value of a name
in parentheses.
-/

namespace CertKeeper.Percent

structure Supply where
  items : List Value
  names : Option Value

structure Directive where
  leftward : Bool
  plus : Bool
  blank : Bool
  alternate : Bool
  zero : Bool
  width : Option Nat
  precision : Option Nat
  letter : CodePoint

/-! ### Reading -/

def percent : CodePoint := CodePoint.ofChar '%'

/-- The name in parentheses, which may hold parentheses of its own. -/
def nameIn? (depth : Nat) : Text → Option (Text × Text)
  | [] => none
  | c :: rest =>
    if c = CodePoint.ofChar '(' then (nameIn? (depth + 1) rest).map fun (a, b) => (c :: a, b)
    else if c = CodePoint.ofChar ')' then
      match depth with
      | 0 => some ([], rest)
      | d + 1 => (nameIn? d rest).map fun (a, b) => (c :: a, b)
    else (nameIn? depth rest).map fun (a, b) => (c :: a, b)

def flags : Text := "-+ #0"

def incomplete : Fault := Fault.value "incomplete format"

def Supply.next (s : Supply) : Except Fault (Value × Supply) :=
  match s.items with
  | v :: items => .ok (v, { s with items := items })
  | [] => .error (Fault.type "not enough arguments for format string")

/-- What a name gives becomes the next value, and the only one. -/
def Supply.named (s : Supply) (name : Text) : Except Fault Supply :=
  match s.names.bind (Value.field? name) with
  | some v => .ok { s with items := [v] }
  | none => .error (Fault.plain .key name)

structure Measure where
  name : String
  holder : String
  bound : Nat

def widthMeasure : Measure := ⟨"width", "ssize_t", 0x8000000000000000⟩

def precisionMeasure : Measure := ⟨"precision", "int", 0x80000000⟩

def wholeOf? : Value → Option Int
  | .int i => some i
  | .bool b => some (if b then 1 else 0)
  | _ => none

/-- A measure that is written or, as a star, taken from the supply. -/
def measure (m : Measure) (s : Supply) (t : Text) : Except Fault (Option Int × Supply × Text) :=
  if t.head? = some (CodePoint.ofChar '*') then do
    let (v, s) ← s.next
    match wholeOf? v with
    | none => throw (Fault.type "* wants int")
    | some i =>
      if i < -m.bound ∨ m.bound ≤ i then
        throw (Fault.plain .overflow ("Python int too large to convert to C " ++ m.holder))
      return (some i, s, t.drop 1)
  else
    match Shape.number? t with
    | (none, rest) => .ok (none, s, rest)
    | (some n, rest) =>
      if n < m.bound then .ok (some n, s, rest)
      else .error (Fault.value (m.name ++ " too big"))

def directive (s : Supply) (t : Text) : Except Fault (Directive × Supply × Text) := do
  let (s, t) ←
    if t.head? = some (CodePoint.ofChar '(') then
      if s.names.isNone then throw (Fault.type "format requires a mapping")
      match nameIn? 0 (t.drop 1) with
      | some (name, after) => pure (← s.named name, after)
      | none => throw (Fault.value "incomplete format key")
    else pure (s, t)
  let marks := t.takeWhile flags.contains
  let has := fun (c : Char) => marks.contains (CodePoint.ofChar c)
  let (width, s, t) ← measure widthMeasure s (t.drop marks.length)
  let (precision, s, t) ←
    if t.head? = some (CodePoint.ofChar '.') then do
      let (p, s, rest) ← measure precisionMeasure s (t.drop 1)
      pure (some (p.getD 0), s, rest)
    else pure (none, s, t)
  let size : Text := "hlL"
  match if t.head?.any size.contains then t.drop 1 else t with
  | [] => throw incomplete
  | letter :: rest =>
    let negative : Bool := width.any (· < 0)
    return (⟨has '-' || negative, has '+', has ' ', has '#', has '0',
      width.map Int.natAbs, precision.map Int.toNat, letter⟩, s, rest)

/-! ### Values -/

def truncated? : Binary → Option Int
  | .finite negative significand scale =>
    let n : Int :=
      if 0 ≤ scale then significand * Int.pow 2 scale.toNat
      else (significand / Nat.pow 2 (-scale).toNat : Nat)
    some (if negative then -n else n)
  | _ => none

def layNumber (d : Directive) (negative : Bool) (start digits : Text) : Text :=
  let sign : Text :=
    if negative then "-" else if d.plus then "+" else if d.blank then " " else []
  let digits := Text.padLeft (d.precision.getD 0) '0' digits
  let side : Side := if d.leftward then .left else if d.zero then .afterSign else .right
  let fill : Char := if d.zero && !d.leftward then '0' else ' '
  { Shape.plain with fill := CodePoint.ofChar fill, width := d.width.getD 0 }.lay side
    (sign ++ start) digits

def layText (d : Directive) (t : Text) : Text :=
  let side : Side := if d.leftward then .left else .right
  { Shape.plain with width := d.width.getD 0 }.lay side [] (t.take (d.precision.getD t.length))

def spellWhole (d : Directive) (letter : Char) (i : Int) : Text :=
  let digits := (Shape.digits? (CodePoint.ofChar letter) i.natAbs).getD []
  let start : Text :=
    if !d.alternate then []
    else if letter = 'd' then [] else "0" ++ [CodePoint.ofChar letter]
  layNumber d (i < 0) start digits

def spellDecimal (d : Directive) (v : Value) : Except Fault Text :=
  let letter := [d.letter]
  match v with
  | .real r =>
    match truncated? r with
    | some i => .ok (spellWhole d 'd' i)
    | none =>
      if r = .undefined then .error (Fault.value "cannot convert float NaN to integer")
      else .error (Fault.plain .overflow "cannot convert float infinity to integer")
  | v =>
    match wholeOf? v with
    | some i => .ok (spellWhole d 'd' i)
    | none => .error (Fault.type ("%" ++ letter ++ " format: a real number is required, not " ++
        Text.ofString v.kindName))

def spellBased (d : Directive) (base : Char) (v : Value) : Except Fault Text :=
  match wholeOf? v with
  | some i => .ok (spellWhole d base i)
  | none => .error (Fault.type ("%" ++ [d.letter] ++ " format: an integer is required, not " ++
      Text.ofString v.kindName))

def spellPoint (d : Directive) (v : Value) : Except Fault Text :=
  let d := { d with precision := none }
  match v, wholeOf? v with
  | .text [c], _ => .ok (layText d [c])
  | _, some i =>
    if 0 ≤ i ∧ i < 0x110000 then .ok (layText d [CodePoint.ofNat i.toNat])
    else .error (Fault.plain .overflow "%c arg not in range(0x110000)")
  | _, none => .error (Fault.type "%c requires int or char")

/-! ### Reals -/

def realOf (v : Value) : Except Fault Binary :=
  match v, wholeOf? v with
  | .real r, _ => .ok r
  | _, some i =>
    match Binary.ofFraction (i < 0) i.natAbs 1 with
    | .infinite _ => .error (Fault.plain .overflow "int too large to convert to float")
    | r => .ok r
  | _, none => .error (Fault.type ("must be real number, not " ++ Text.ofString v.kindName))

def spellReal (d : Directive) (v : Value) : Except Fault Text := do
  let r ← realOf v
  let places : Places := ⟨d.letter, d.precision.getD 6, d.alternate⟩
  return layNumber { d with precision := none } r.isNegative [] (places.spellBinary r)

/-! ### Directives -/

/-- Whether a code point is shown as it is where it is no letter of a directive. -/
def isShown (c : CodePoint) : Bool := decide (31 ≤ c.val ∧ c.val < 127)

/-- A letter that asks for nothing; `position` is where it stands. -/
def unsupported (letter : CodePoint) (position : Nat) : Fault :=
  let shown := if isShown letter then letter else CodePoint.ofChar '?'
  Fault.value ("unsupported format character '" ++ [shown] ++ "' (0x" ++
    Text.hexLower letter.val ++ ") at index " ++ Text.decimal position)

def spellValue (d : Directive) (position : Nat) (v : Value) : Except Fault Text :=
  let is := fun (t : Text) => t.contains d.letter
  if is "s" then .ok (layText d v.spell)
  else if is "r" then .ok (layText d v.quoted)
  else if is "a" then .ok (layText d (Text.asciiOnly v.quoted))
  else if is "diu" then spellDecimal d v
  else if is "x" then spellBased d 'x' v
  else if is "X" then spellBased d 'X' v
  else if is "o" then spellBased d 'o' v
  else if is "c" then spellPoint d v
  else if is "eEfFgG" then spellReal d v
  else .error (unsupported d.letter position)

/-! ### Templates -/

/-- Fills in a template from a supply and gives what is left of it; `length` is that of the whole
template. -/
def fillFrom (length : Nat) : Nat → Supply → Text → Except Fault (Text × Supply)
  | 0, s, t => .ok (t, s)
  | fuel + 1, s, t => do
    let plain := t.takeWhile (· ≠ percent)
    match t.drop plain.length with
    | [] => return (plain, s)
    | _ :: rest =>
      if rest.head? = some percent then
        let (tail, s) ← fillFrom length fuel s (rest.drop 1)
        return (plain ++ [percent] ++ tail, s)
      else
        let (d, s, after) ← directive s rest
        let (v, s) ← s.next
        let shown ← spellValue d (length - after.length - 1) v
        let (tail, s) ← fillFrom length fuel s after
        return (plain ++ shown ++ tail, s)

/-- Fills in a template: a single object gives values by name, else all values must be used. -/
def fill (template : Text) (values : List Value) : Except Fault Text := do
  let supply : Supply :=
    match values with
    | [.object (f :: fields)] => ⟨values, some (.object (f :: fields))⟩
    | _ => ⟨values, none⟩
  let (t, left) ← fillFrom template.length (template.length + 1) supply template
  if left.names.isNone ∧ !left.items.isEmpty then
    throw (Fault.type "not all arguments converted during string formatting")
  return t

end CertKeeper.Percent
