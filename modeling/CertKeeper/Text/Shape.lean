import CertKeeper.Value.Places

/-!
# Shapes of fields

How a text or a number is laid out in a field: on which side it stands, what fills up the rest,
how wide the field is at least, how digits are grouped and how much of the value is shown at
most.
-/

namespace CertKeeper

inductive Side where
  | left
  | right
  | middle
  /-- Fills up between the sign and the digits. -/
  | afterSign
deriving DecidableEq, Repr

structure Shape where
  fill : CodePoint
  side : Option Side
  /-- What stands where a minus sign would: nothing, a plus sign or a blank. -/
  sign : Option CodePoint
  /-- Whether the base of a number is written before it, and its point kept. -/
  alternate : Bool
  /-- Whether numbers are filled up after the sign where no side is named. -/
  zero : Bool
  width : Nat
  group : Option CodePoint
  precision : Option Nat
  letter : Option CodePoint
deriving DecidableEq, Repr

namespace Shape

def plain : Shape := ⟨CodePoint.ofChar ' ', none, none, false, false, 0, none, none, none⟩

/-! ### Reading -/

def sideOf? (c : CodePoint) : Option Side :=
  if c = CodePoint.ofChar '<' then some .left
  else if c = CodePoint.ofChar '>' then some .right
  else if c = CodePoint.ofChar '^' then some .middle
  else if c = CodePoint.ofChar '=' then some .afterSign
  else none

def number? (t : Text) : Option Nat × Text :=
  let ds := t.takeWhile fun c => (Text.digit? c).isSome
  (if ds.isEmpty then none else some (Text.ofDigits 10 (ds.filterMap Text.digit?)),
    t.drop ds.length)

def mark? (marks : Text) (t : Text) : Option CodePoint × Text :=
  match t with
  | c :: rest => if marks.contains c then (some c, rest) else (none, t)
  | [] => (none, [])

/-- A fill and a side at the start of a text; the fill may be left out. -/
def side? (t : Text) : Option CodePoint × Option Side × Text :=
  match t with
  | c :: d :: rest =>
    match sideOf? d, sideOf? c with
    | some side, _ => (some c, some side, rest)
    | none, some side => (none, some side, d :: rest)
    | none, none => (none, none, t)
  | [c] =>
    match sideOf? c with
    | some side => (none, some side, [])
    | none => (none, none, t)
  | [] => (none, none, [])

/-- A number after a point at the start of a text; a point without a number makes it none. -/
def precision? (t : Text) : Option (Option Nat × Text) :=
  match mark? "." t with
  | (none, t) => some (none, t)
  | (some _, t) =>
    match number? t with
    | (some n, t) => some (some n, t)
    | (none, _) => none

/-- Reads a shape: fill and side, sign, base, zero, width, group, precision and letter, each of
which may be left out. -/
def read? (t : Text) : Option Shape := do
  let (fill, side, t) := side? t
  let (sign, t) := mark? "+- " t
  let (base, t) := mark? "#" t
  let (zero, t) := if fill.isSome then (none, t) else mark? "0" t
  let (width, t) := number? t
  let (group, t) := mark? ",_" t
  let (precision, t) ← precision? t
  let letter ←
    match t with
    | [] => some none
    | [c] => some (some c)
    | _ => none
  return ⟨(fill.or zero).getD (CodePoint.ofChar ' '), side, sign, base.isSome, zero.isSome,
    width.getD 0, group, precision, letter⟩

/-! ### Applying -/

def lay (s : Shape) (usual : Side) (sign body : Text) : Text :=
  let missing := s.width - (sign.length + body.length)
  let filling := fun n => List.replicate n s.fill
  match s.side.getD usual with
  | .left => sign ++ body ++ filling missing
  | .right => filling missing ++ sign ++ body
  | .middle => filling (missing / 2) ++ sign ++ body ++ filling (missing - missing / 2)
  | .afterSign => sign ++ filling missing ++ body

theorem length_lay (s : Shape) (usual : Side) (sign body : Text) :
    (s.lay usual sign body).length = max s.width (sign.length + body.length) := by
  unfold lay
  simp only
  split <;> simp <;> omega

/-- Lays out a text; what is for numbers only is refused. -/
def text? (s : Shape) (t : Text) : Option Text :=
  let allowed : Bool := s.letter.isNone || s.letter = some (CodePoint.ofChar 's')
  if !allowed || s.sign.isSome || s.alternate || s.group.isSome || s.side = some .afterSign then
    none
  else some (s.lay .left [] (t.take (s.precision.getD t.length)))

/-! ### Numbers -/

def digits? (letter : CodePoint) (n : Nat) : Option Text :=
  if ("dn" : Text).contains letter then some (Text.decimal n)
  else if letter = CodePoint.ofChar 'x' then some (Text.hexLower n)
  else if letter = CodePoint.ofChar 'X' then some (Text.hexUpper n)
  else if letter = CodePoint.ofChar 'o' then some (Text.octal n)
  else if letter = CodePoint.ofChar 'b' then
    some ((Text.digits 2 n).flatMap Text.decimal)
  else none

/-- Puts a mark between groups of `size` digits, counted from the end. -/
def grouped (mark : CodePoint) (size : Nat) (ds : Text) : Text :=
  if _h : ds.length ≤ size ∨ size = 0 then ds
  else grouped mark size (ds.take (ds.length - size)) ++ mark :: ds.drop (ds.length - size)
termination_by ds.length
decreasing_by simp; omega

/-- Fills up with zeros until the grouped digits are as long as `room`. -/
def groupedRoom (mark : CodePoint) (size room : Nat) (ds : Text) : Text :=
  let enough := fun n => ds.length ≤ n && decide (room ≤ n + (n - 1) / size)
  grouped mark size (Text.padLeft (((List.range (room + 1)).find? enough).getD 0) '0' ds)

/-- Lays out a number: the sign, the mark of its base, the whole part and what follows it. -/
def number (s : Shape) (negative : Bool) (base whole rest : Text) : Text :=
  let minus := CodePoint.ofChar '-'
  let start := (if negative then [minus] else (s.sign.filter (· ≠ minus)).toList) ++ base
  let usual : Side := if s.zero then .afterSign else .right
  let zeros : Bool := s.fill = CodePoint.ofChar '0' && s.side.getD usual = .afterSign
  let size := if s.letter.any ("boxX" : Text).contains then 4 else 3
  let whole :=
    match s.group with
    | none => whole
    | some mark =>
      groupedRoom mark size (if zeros then s.width - (start ++ rest).length else 0) whole
  s.lay usual start (whole ++ rest)

/-- Lays out a number with decimal places; a percentage is a hundred times the number. -/
def real? (s : Shape) (letter : CodePoint) (i : Int) : Option Text :=
  let percent : Bool := letter = CodePoint.ofChar '%'
  let places : Places := ⟨if percent then CodePoint.ofChar 'f' else letter, s.precision.getD 6,
    s.alternate⟩
  match Binary.ofFraction (i < 0) i.natAbs 1 with
  | .finite negative significand scale =>
    let (num, den) := Binary.fraction significand scale
    let t := places.spell (if percent then num * 100 else num) den
    let whole := t.takeWhile fun c => (Text.digit? c).isSome
    some (s.number negative [] whole (t.drop whole.length ++ if percent then [letter] else []))
  | _ => none

def canGroup (letter mark : CodePoint) : Bool :=
  ("deEfFgG%" : Text).contains letter ||
    (mark = CodePoint.ofChar '_' && ("boxX" : Text).contains letter)

def integer? (s : Shape) (i : Int) : Option Text :=
  let letter := s.letter.getD (CodePoint.ofChar 'd')
  let negative : Bool := i < 0
  if s.group.any fun mark => !canGroup letter mark then none
  else if ("eEfFgG%" : Text).contains letter then s.real? letter i
  else if s.precision.isSome then none
  else if letter = CodePoint.ofChar 'c' then
    if s.sign.isSome || s.alternate || negative || 0x110000 ≤ i then none
    else some (s.number false [] [CodePoint.ofNat i.toNat] [])
  else
    let base : Text :=
      if s.alternate && ("boxX" : Text).contains letter then "0" ++ [letter] else []
    (digits? letter i.natAbs).map fun ds => s.number negative base ds []

end Shape

end CertKeeper
