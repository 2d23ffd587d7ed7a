import CertKeeper.Value

/-!
# Reading JSON

A strict reader of JSON texts that also takes the three words for values that are no number.
A failure names its reason and the place of the first code point that cannot go on.
-/

namespace CertKeeper.Json

/-! ### Failures -/

inductive Reason where
  | value
  | name
  | colon
  | comma
  | unterminated
  | control
  | escape
  | unicodeEscape
  | extra
  | byteOrderMark
deriving DecidableEq, Repr

def Reason.message : Reason → String
  | value => "Expecting value"
  | name => "Expecting property name enclosed in double quotes"
  | colon => "Expecting ':' delimiter"
  | comma => "Expecting ',' delimiter"
  | unterminated => "Unterminated string starting at"
  | control => "Invalid control character at"
  | escape => "Invalid \\escape"
  | unicodeEscape => "Invalid \\uXXXX escape"
  | extra => "Extra data"
  | byteOrderMark => "Unexpected UTF-8 BOM (decode using utf-8-sig)"

inductive ReadFault where
  | malformed (reason : Reason) (position : Nat)
  | tooManyDigits (count : Nat)
  | tooDeep (inObject : Bool)
deriving DecidableEq, Repr

/-- Line, column and offset of a place, the first two counted from one. -/
def place (doc : Text) (position : Nat) : Text :=
  let before := doc.take position
  let newline := CodePoint.ofChar '\n'
  let line := before.count newline + 1
  let column := (before.reverse.takeWhile (· != newline)).length + 1
  "line " ++ Text.decimal line ++ " column " ++ Text.decimal column ++ " (char " ++
    Text.decimal position ++ ")"

/-- A reader at a place: what is left of the text, and how much has been read. -/
structure Cursor where
  position : Nat
  rest : Text

def isBlank (c : CodePoint) : Bool := c.val = 32 || c.val = 9 || c.val = 10 || c.val = 13

namespace Cursor

def advance (k : Cursor) (n : Nat) : Cursor := ⟨k.position + n, k.rest.drop n⟩

def skipBlanks (k : Cursor) : Cursor := k.advance (k.rest.takeWhile isBlank).length

def at? (k : Cursor) (c : Char) : Bool :=
  match k.rest with
  | [] => false
  | d :: _ => d = CodePoint.ofChar c

def fail {α : Type} (k : Cursor) (reason : Reason) : Except ReadFault α :=
  .error (.malformed reason k.position)

end Cursor

/-! ### Strings -/

def fourDigits? (t : Text) : Option Nat :=
  match t with
  | [a, b, c, d] => do
    let a ← Text.hexDigit? a
    let b ← Text.hexDigit? b
    let c ← Text.hexDigit? c
    let d ← Text.hexDigit? d
    return ((a * 16 + b) * 16 + c) * 16 + d
  | _ => none

def simpleEscape? (c : CodePoint) : Option CodePoint :=
  match c.toChar with
  | '"' => some (.ofChar '"')
  | '\\' => some (.ofChar '\\')
  | '/' => some (.ofChar '/')
  | 'b' => some (.ofNat 8)
  | 'f' => some (.ofNat 12)
  | 'n' => some (.ofNat 10)
  | 'r' => some (.ofNat 13)
  | 't' => some (.ofNat 9)
  | _ => none

/-- The second half of a pair that starts with a given first half, if one follows.  Malformed
digits after the second mark are a fault of their own. -/
def secondHalf (first : Nat) (k : Cursor) : Except ReadFault (Option CodePoint) :=
  match k.rest with
  | a :: b :: digits =>
    if a = CodePoint.ofChar '\\' ∧ b = CodePoint.ofChar 'u' ∧ 5 ≤ digits.length then
      match fourDigits? (digits.take 4) with
      | none => .error (.malformed .unicodeEscape (k.position + 1))
      | some second =>
        if 0xDC00 ≤ second ∧ second < 0xE000 then
          .ok (some (.ofNat (0x10000 + (first - 0xD800) * 0x400 + (second - 0xDC00))))
        else .ok none
    else .ok none
  | _ => .ok none

/-- Reads up to the closing quote; `start` is the place of the opening one. -/
def readString (start : Nat) : Nat → Cursor → Except ReadFault (Text × Cursor)
  | 0, k => k.fail .unterminated
  | fuel + 1, k =>
    match k.rest with
    | [] => .error (.malformed .unterminated start)
    | c :: rest =>
      if c = CodePoint.ofChar '"' then .ok ([], k.advance 1)
      else if c.val < 32 then k.fail .control
      else if c ≠ CodePoint.ofChar '\\' then do
        let (t, k) ← readString start fuel (k.advance 1)
        return (c :: t, k)
      else
        match rest with
        | [] => .error (.malformed .unterminated start)
        | letter :: digits =>
          if letter ≠ CodePoint.ofChar 'u' then
            match simpleEscape? letter with
            | none => k.fail .escape
            | some point => do
              let (t, k) ← readString start fuel (k.advance 2)
              return (point :: t, k)
          else if digits.length < 5 then .error (.malformed .unicodeEscape (k.position + 1))
          else
            match fourDigits? (digits.take 4) with
            | none => .error (.malformed .unicodeEscape (k.position + 1))
            | some first => do
              let after := k.advance 6
              let second ← if 0xD800 ≤ first ∧ first < 0xDC00 then secondHalf first after
                else .ok none
              match second with
              | some point =>
                let (t, k) ← readString start fuel (after.advance 6)
                return (point :: t, k)
              | none =>
                let (t, k) ← readString start fuel after
                return (CodePoint.ofNat first :: t, k)

/-! ### Numbers -/

def takeDigits (t : Text) : Text := t.takeWhile fun c => (Text.digit? c).isSome

def digitsValue (t : Text) : Nat := t.foldl (fun n c => n * 10 + (c.val - 48)) 0

/-- More digits than this are not converted to a whole number. -/
def maxDigits : Nat := 4300

/-- An optional minus, digits without a leading zero, then a fraction and an exponent where their
digits follow; nothing is read where no digit starts. -/
def readNumber (k : Cursor) : Except ReadFault (Value × Cursor) :=
  let negative := k.at? '-'
  let k1 := if negative then k.advance 1 else k
  let run := takeDigits k1.rest
  if run.isEmpty then k.fail .value
  else
    let whole := if k1.at? '0' then run.take 1 else run
    let k2 := k1.advance whole.length
    let fraction := if k2.at? '.' then takeDigits (k2.rest.drop 1) else []
    let k3 := if fraction.isEmpty then k2 else k2.advance (fraction.length + 1)
    let marked := k3.at? 'e' || k3.at? 'E'
    let k4 := k3.advance 1
    let minus := k4.at? '-'
    let k5 := if minus || k4.at? '+' then k4.advance 1 else k4
    let power := if marked then takeDigits k5.rest else []
    let k6 := if power.isEmpty then k3 else k5.advance power.length
    if fraction.isEmpty && power.isEmpty then
      if maxDigits < whole.length then .error (.tooManyDigits whole.length)
      else
        let n : Int := digitsValue whole
        .ok (.int (if negative then -n else n), k6)
    else
      let exponent : Int := if minus then -(digitsValue power : Int) else digitsValue power
      .ok (.real (.ofDecimal negative (digitsValue (whole ++ fraction))
        (exponent - fraction.length)), k6)

/-! ### Values -/

def words : List (String × Value) := [
  ("null", .null), ("true", .bool true), ("false", .bool false),
  ("NaN", .real .undefined), ("Infinity", .real (.infinite false)),
  ("-Infinity", .real (.infinite true))]

/-- How deep values may nest: the interpreter's recursion limit of 1000, less the calls that are
under way where a store reads a document. -/
def maxDepth : Nat := 985

mutual

/-- Reads one value; every call is paid from the fuel. -/
def readValue (depth : Nat) : Nat → Cursor → Except ReadFault (Value × Cursor)
  | 0, k => k.fail .value
  | fuel + 1, k =>
    if k.at? '"' then do
      let (t, k) ← readString k.position (k.rest.length + 1) (k.advance 1)
      return (.text t, k)
    else if k.at? '\x7b' then
      if maxDepth ≤ depth then .error (.tooDeep true)
      else
        let k := (k.advance 1).skipBlanks
        if k.at? '\x7d' then .ok (.object [], k.advance 1) else do
          let (fields, k) ← readFields (depth + 1) fuel k
          return (Value.objectOf fields, k)
    else if k.at? '[' then
      if maxDepth ≤ depth then .error (.tooDeep false)
      else
        let k := (k.advance 1).skipBlanks
        if k.at? ']' then .ok (.list [], k.advance 1) else do
          let (items, k) ← readItems (depth + 1) fuel k
          return (.list items, k)
    else
      match words.find? fun w => Text.startsWith w.1 k.rest with
      | some (word, v) => .ok (v, k.advance word.length)
      | none => readNumber k

def readFields (depth : Nat) : Nat → Cursor → Except ReadFault (List (Text × Value) × Cursor)
  | 0, k => k.fail .value
  | fuel + 1, k =>
    if !k.at? '"' then k.fail .name
    else do
      let (name, k) ← readString k.position (k.rest.length + 1) (k.advance 1)
      let k := k.skipBlanks
      if !k.at? ':' then k.fail .colon
      else
        let (v, k) ← readValue depth fuel (k.advance 1).skipBlanks
        let k := k.skipBlanks
        if k.at? '\x7d' then return ([(name, v)], k.advance 1)
        else if !k.at? ',' then k.fail .comma
        else
          let (rest, k) ← readFields depth fuel (k.advance 1).skipBlanks
          return ((name, v) :: rest, k)

def readItems (depth : Nat) : Nat → Cursor → Except ReadFault (List Value × Cursor)
  | 0, k => k.fail .value
  | fuel + 1, k => do
    let (v, k) ← readValue depth fuel k
    let k := k.skipBlanks
    if k.at? ']' then return ([v], k.advance 1)
    else if !k.at? ',' then k.fail .comma
    else
      let (rest, k) ← readItems depth fuel (k.advance 1).skipBlanks
      return (v :: rest, k)

end

def read (doc : Text) : Except ReadFault Value :=
  if doc.head? = some (CodePoint.ofNat 0xFEFF) then .error (.malformed .byteOrderMark 0)
  else do
    let start : Cursor := ⟨0, doc⟩
    let (v, k) ← readValue 0 (2 * doc.length + 2) start.skipBlanks
    let k := k.skipBlanks
    if k.rest.isEmpty then return v else k.fail .extra

end CertKeeper.Json
