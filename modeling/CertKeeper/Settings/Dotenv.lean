import CertKeeper.Text.Blank

/-!
# Files of variables

Files with one assignment a line: names before an equals sign, values bare, in single quotes or
in double quotes, comments after a number sign.  A line that is none of these is passed over.
Later assignments win, and a value may refer to variables that are set already.
-/

namespace CertKeeper.Dotenv

/-- A name and its value; a name without an equals sign has none. -/
structure Binding where
  name : Text
  value : Option Text
deriving DecidableEq, Repr

/-! ### Characters -/

def isLineEnd (c : CodePoint) : Bool := c = CodePoint.ofChar '\n' || c = CodePoint.ofChar '\r'

def isSpace (c : CodePoint) : Bool := Text.isWideBlank c && !isLineEnd c

def hash : CodePoint := CodePoint.ofChar '#'

def equals : CodePoint := CodePoint.ofChar '='

def single : CodePoint := CodePoint.ofChar '\''

def double : CodePoint := CodePoint.ofChar '"'

def backslash : CodePoint := CodePoint.ofChar '\\'

/-! ### Values -/

/-- The text up to a quote that no backslash stands before, and what follows that quote. -/
def closeAt (quote : CodePoint) (escaped : Bool) : Text → Option (Text × Text)
  | [] => none
  | c :: rest =>
    if c = quote ∧ !escaped then some ([], rest)
    else (closeAt quote (c = backslash) rest).map fun (inside, after) => (c :: inside, after)

/-- The text up to the last quote, and what follows it. -/
def closeLast (quote : CodePoint) : Text → Option (Text × Text)
  | [] => none
  | c :: rest =>
    match closeLast quote rest with
    | some (inside, after) => some (c :: inside, after)
    | none => if c = quote then some ([], rest) else none

/-- What stands in quotes after an opening quote.  A quote with a backslash before it ends the
value only where there is no other end. -/
def quotedPart (quote : CodePoint) (t : Text) : Option (Text × Text) :=
  (closeAt quote false t).or (closeLast quote t)

def escapes : List (Char × Nat) :=
  [('\\', 92), ('\'', 39), ('"', 34), ('a', 7), ('b', 8), ('f', 12), ('n', 10), ('r', 13), ('t', 9),
    ('v', 11)]

/-- Resolves the backslashes before some characters; others stay. -/
def unescape (known : List (Char × Nat)) : Text → Text
  | [] => []
  | [c] => [c]
  | c :: d :: rest =>
    if c = backslash then
      match known.find? fun k => CodePoint.ofChar k.1 = d with
      | some k => CodePoint.ofNat k.2 :: unescape known rest
      | none => c :: unescape known (d :: rest)
    else c :: unescape known (d :: rest)

/-- A bare value ends at a number sign that has a blank before it. -/
def bare (blankBefore : Bool) : Text → Text
  | [] => []
  | c :: rest =>
    if c = hash ∧ blankBefore then [] else c :: bare (Text.isWideBlank c) rest

/-- Reads a value and gives what is left; a quote that is not closed is no value. -/
def value? (t : Text) : Option (Text × Text) :=
  match t with
  | [] => some ([], [])
  | c :: rest =>
    if c = single then
      (quotedPart single rest).map fun (v, after) => (unescape (escapes.take 2) v, after)
    else if c = double then
      (quotedPart double rest).map fun (v, after) => (unescape escapes v, after)
    else if isLineEnd c then some ([], t)
    else
      let line := t.takeWhile (!isLineEnd ·)
      some (Text.trimRight Text.isWideBlank (bare false line), t.drop line.length)

/-! ### Lines -/

def dropSpaces (t : Text) : Text := t.dropWhile isSpace

/-- What is left after a comment and the end of the line; `none` where something else is in
between. -/
def endLine? (t : Text) : Option Text :=
  let t :=
    match dropSpaces t with
    | c :: rest => if c = hash then rest.dropWhile (!isLineEnd ·) else t
    | [] => t
  match dropSpaces t with
  | [] => some []
  | c :: rest => if isLineEnd c then some rest else none

def skipLine (t : Text) : Text := (t.dropWhile (!isLineEnd ·)).drop 1

def dropExport (t : Text) : Text :=
  let word : Text := "export"
  if Text.startsWith word t ∧ ((t.drop word.length).head?.any isSpace) then
    dropSpaces (t.drop word.length)
  else t

def name? (t : Text) : Option (Option Text × Text) :=
  match t with
  | [] => none
  | c :: rest =>
    if c = hash then some (none, t)
    else if c = single then
      let name := rest.takeWhile (· ≠ single)
      let after := rest.drop name.length
      if name.isEmpty ∨ after.isEmpty then none else some (some name, after.drop 1)
    else
      let name := t.takeWhile fun c => c ≠ equals && c ≠ hash && !Text.isWideBlank c
      if name.isEmpty then none else some (some name, t.drop name.length)

def line (t : Text) : Option Binding × Text :=
  match name? (dropExport t) with
  | none => (none, skipLine (dropExport t))
  | some (name, rest) =>
    let rest := dropSpaces rest
    let found : Option (Option Text × Text) :=
      if rest.head? = some equals then
        (value? (dropSpaces (rest.drop 1))).map fun (v, after) => (some v, after)
      else some (none, rest)
    match found with
    | none => (none, skipLine rest)
    | some (value, rest) =>
      match endLine? rest with
      | none => (none, skipLine rest)
      | some after => (name.map fun n => ⟨n, value⟩, after)

def bindings : Nat → Text → List Binding
  | 0, _ => []
  | fuel + 1, t =>
    match t.dropWhile Text.isWideBlank with
    | [] => []
    | t =>
      match line t with
      | (some b, rest) => b :: bindings fuel rest
      | (none, rest) => bindings fuel rest

/-! ### References -/

abbrev Variables := List (Text × Option Text)

def lookup (vars : Variables) (name : Text) : Option (Option Text) :=
  (vars.reverse.find? fun v => v.1 = name).map Prod.snd

def resolve (vars : Variables) (reference : Text) : Text :=
  let name := reference.takeWhile (· ≠ CodePoint.ofChar ':')
  let fallback := reference.drop (name.length + 2)
  match lookup vars name with
  | some v => v.getD []
  | none => fallback

def reference? (t : Text) : Option (Text × Text) :=
  if Text.startsWith "$\x7b" t then
    let inside := (t.drop 2).takeWhile (· ≠ CodePoint.ofChar '\x7d')
    let after := (t.drop 2).drop inside.length
    let name := inside.takeWhile (· ≠ CodePoint.ofChar ':')
    let tail := inside.drop name.length
    if after.isEmpty then none
    else if tail.isEmpty ∨ Text.startsWith ":-" tail then some (inside, after.drop 1) else none
  else none

def expand (vars : Variables) : Nat → Text → Text
  | 0, t => t
  | fuel + 1, t =>
    match t with
    | [] => []
    | c :: rest =>
      match reference? (c :: rest) with
      | some (inside, after) => resolve vars inside ++ expand vars fuel after
      | none => c :: expand vars fuel rest

def resolveAll (vars : Variables) : List Binding → Variables
  | [] => []
  | b :: rest =>
    let value := b.value.map fun v => expand vars (v.length + 1) v
    (b.name, value) :: resolveAll (vars ++ [(b.name, value)]) rest

/-- The variables of a file in the order of their lines; `outside` are those set before. -/
def read (outside : List (Text × Text)) (content : Text) : Variables :=
  let t := Text.unifyLineEnds content
  resolveAll (outside.map fun v => (v.1, some v.2)) (bindings (t.length + 1) t)

end CertKeeper.Dotenv
