import CertKeeper.Text.Blank
import CertKeeper.Text.Utf8
import CertKeeper.Value

/-!
# Fields of settings

How a value from outside becomes a text, a flag or a whole number, and what is complained of
where it does not.
-/

namespace CertKeeper

/-! ### Complaints -/

inductive Complaint where
  | notText
  | notUnicode
  | notFlag
  | unclearFlag
  | notWhole
  | unreadableWhole
  | fraction
  | infinite
  | tooLarge
  | below (least : Int)
  | above (most : Int)
deriving DecidableEq, Repr

namespace Complaint

def code : Complaint → String
  | notText => "string_type"
  | notUnicode => "string_unicode"
  | notFlag => "bool_type"
  | unclearFlag => "bool_parsing"
  | notWhole => "int_type"
  | unreadableWhole => "int_parsing"
  | fraction => "int_from_float"
  | infinite => "finite_number"
  | tooLarge => "int_parsing_size"
  | below _ => "greater_than_equal"
  | above _ => "less_than_equal"

def message : Complaint → Text
  | notText => "Input should be a valid string"
  | notUnicode =>
    "Input should be a valid string, unable to parse raw data as a unicode string"
  | notFlag => "Input should be a valid boolean"
  | unclearFlag => "Input should be a valid boolean, unable to interpret input"
  | notWhole => "Input should be a valid integer"
  | unreadableWhole =>
    "Input should be a valid integer, unable to parse string as an integer"
  | fraction => "Input should be a valid integer, got a number with a fractional part"
  | infinite => "Input should be a finite number"
  | tooLarge => "Unable to parse input string as an integer, exceeded maximum size"
  | below least => "Input should be greater than or equal to " ++ Text.integer least
  | above most => "Input should be less than or equal to " ++ Text.integer most

end Complaint

namespace Field

/-! ### Texts -/

def text : Value → Except Complaint Text
  | .text t => .ok t
  | .bytes bs =>
    match Utf8.decode? bs with
    | some t => .ok t
    | none => .error .notUnicode
  | _ => .error .notText

/-! ### Whole numbers -/

def underscore : CodePoint := CodePoint.ofChar '_'

/-- Drops zeros before other digits; one zero stays where there is nothing else, and underscores
between zeros go with them. -/
def dropZeros (t : Text) : Option Text :=
  let zero := CodePoint.ofChar '0'
  match t with
  | [] => none
  | c :: rest =>
    if c = zero then
      let after := rest.dropWhile fun d => d = zero || d = underscore
      match after with
      | [] => some (t.drop (t.length - 1))
      | d :: _ =>
        if (Text.digit? d).isSome then some after
        else if d = CodePoint.ofChar '.' then
          some (t.drop (t.length - after.length - 1))
        else none
    else if (Text.digit? c).isSome ∨ c = CodePoint.ofChar '-' then some t
    else none

def dropPoint (t : Text) : Text :=
  match Text.cut? "." t with
  | some (whole, zeros) => if zeros.all (· = CodePoint.ofChar '0') then whole else t
  | none => t

def dropUnderscores (t : Text) : Text :=
  if t.head? = some underscore ∨ t.getLast? = some underscore ∨ Text.includes "__" t then t
  else t.filter (· ≠ underscore)

def digitLimit : Nat := 4300

/-- Digits without a zero before others, after a minus sign or not. -/
def plainWhole (t : Text) : Except Complaint Int :=
  let negative : Bool := t.head? = some (CodePoint.ofChar '-')
  let ds := if negative then t.drop 1 else t
  match ds.mapM Text.digit? with
  | none | some [] => .error .unreadableWhole
  | some (d :: more) =>
    if d = 0 ∧ more ≠ [] then .error .unreadableWhole
    else if digitLimit < more.length + 1 then .error .tooLarge
    else
      let n : Int := Text.ofDigits 10 (d :: more)
      .ok (if negative then -n else n)

/-- Reads a whole number from a text: blanks around it, a plus sign, zeros before it, zeros after
a point and single underscores are allowed. -/
def wholeOfText (t : Text) : Except Complaint Int :=
  let t := Text.trim Text.isBlank t
  let plus := CodePoint.ofChar '+'
  let unsigned := if t.head? = some plus then t.drop 1 else t
  if t.head? = some plus ∧ unsigned.head? = some (CodePoint.ofChar '-') then
    .error .unreadableWhole
  else
    match dropZeros unsigned with
    | none => .error .unreadableWhole
    | some t => plainWhole (dropUnderscores (dropPoint t))

/-- Reals that stand for whole numbers lie within this bound. -/
def realBound : Int := 0x8000000000000000

def wholeOfReal (r : Binary) : Except Complaint Int :=
  match r with
  | .undefined | .infinite _ => .error .infinite
  | r =>
    match r.whole? with
    | none => .error .fraction
    | some i => if -realBound < i ∧ i < realBound then .ok i else .error .tooLarge

def within (least most : Option Int) (i : Int) : Except Complaint Int :=
  match least, most with
  | some l, some m =>
    if i < l then .error (.below l) else if m < i then .error (.above m) else .ok i
  | some l, none => if i < l then .error (.below l) else .ok i
  | none, some m => if m < i then .error (.above m) else .ok i
  | none, none => .ok i

def whole (least most : Option Int) (v : Value) : Except Complaint Int := do
  let i ←
    match v with
    | .int i => .ok i
    | .bool b => .ok (if b then 1 else 0)
    | .real r => wholeOfReal r
    | .text t => wholeOfText t
    | .bytes bs =>
      match Utf8.decode? bs with
      | some t => wholeOfText t
      | none => .error .unreadableWhole
    | _ => .error .notWhole
  within least most i

/-! ### Flags -/

def yes : List Text := ["1", "t", "y", "on", "yes", "true"]

def no : List Text := ["0", "f", "n", "no", "off", "false"]

def flagOfText (t : Text) : Except Complaint Bool :=
  let word := t.map Text.lowerAscii
  if yes.contains word then .ok true
  else if no.contains word then .ok false
  else .error .unclearFlag

def flagOfWhole (i : Int) : Except Complaint Bool :=
  if i = 1 then .ok true else if i = 0 then .ok false else .error .unclearFlag

def flag : Value → Except Complaint Bool
  | .bool b => .ok b
  | .text t => flagOfText t
  | .bytes bs =>
    match Utf8.decode? bs with
    | some t => flagOfText t
    | none => .error .unclearFlag
  | .int i => if -realBound ≤ i ∧ i < realBound then flagOfWhole i else .error .notFlag
  | .real r =>
    match wholeOfReal r with
    | .ok i => flagOfWhole i
    | .error _ => .error .notFlag
  | _ => .error .notFlag

end Field

end CertKeeper
