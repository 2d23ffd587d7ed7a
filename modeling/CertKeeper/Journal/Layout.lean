import CertKeeper.Fault
import CertKeeper.Journal
import CertKeeper.Text.Braces
import CertKeeper.Text.Shape
import CertKeeper.Value

/-!
# Layouts of journal lines

How lines are written to a stream: a template with braces over what a line holds, in which
markup for colours is left out because streams are no terminals.  A line that a template cannot
show is not written.
-/

namespace CertKeeper

/-! ### Grades -/

/-- The level of a line, which may be one that the journal itself does not know. -/
structure Grade where
  name : Text
  number : Int
  icon : Text
deriving DecidableEq, Repr

def Level.icon : Level → String
  | .trace => "✏️"
  | .debug => "🐞"
  | .info => "ℹ️"
  | .success => "✅"
  | .warning => "⚠️"
  | .error => "❌"
  | .critical => "☠️"

namespace Grade

def ofLevel (l : Level) : Grade := ⟨l.name, l.number, l.icon⟩

def ofNumber (n : Int) : Grade := ⟨"Level " ++ Text.integer n, n, " "⟩

def unknown (name : Text) : Fault :=
  Fault.value ("Level " ++ name.quoted ++ " does not exist")

def ofName (name : Text) : Except Fault Grade :=
  match Level.ofName? name with
  | some l => .ok (ofLevel l)
  | none => .error (unknown name)

end Grade

namespace Journal

def noOperation : Text := "N/A"

/-- The operation of a line as it is written; an empty id counts as none. -/
def operationText : Option Text → Text
  | none | some [] => noOperation
  | some id => id

def operationField : Text := "operation_id"

/-- The extra fields of a line, tagged with its operation; an older tag is replaced. -/
def tagged (operation : Option Text) (extra : List (Text × Value)) : List (Text × Value) :=
  Value.setField operationField (.text (operationText operation)) extra

structure Record where
  grade : Grade
  message : Text
  operation : Option Text

/-! ### Markup -/

namespace Markup

def styles : List Text := ["b", "d", "n", "h", "i", "l", "s", "u", "v", "bold", "dim", "normal",
  "hide", "italic", "blink", "strike", "underline", "reverse", "lvl", "level"]

def colours : List Text := ["k", "r", "g", "y", "e", "m", "c", "w", "black", "red", "green",
  "yellow", "blue", "magenta", "cyan", "white"]

def upperAscii (c : CodePoint) : CodePoint :=
  if 97 ≤ c.val ∧ c.val ≤ 122 then CodePoint.ofNat (c.val - 32) else c

def isColour (t : Text) : Bool :=
  colours.contains t ||
    (colours.take 8).any (fun c => t = "l" ++ c) ||
    (colours.drop 8).any (fun c => t = "light-" ++ c)

def isMixed (t : Text) : Bool :=
  let small := fun (p : Text) =>
    !p.isEmpty && p.all (fun c => (Text.digit? c).isSome) &&
      decide (Text.ofDigits 10 (p.filterMap Text.digit?) ≤ 255)
  let parts := Text.splitOn (CodePoint.ofChar ',') t
  (parts.length = 1 && small t) || (parts.length = 3 && parts.all small) ||
    (t.head? = some (CodePoint.ofChar '#') && (t.length = 4 || t.length = 7) &&
      (t.drop 1).all fun c => (Text.hexDigit? c).isSome)

def isKnown (tag : Text) : Bool :=
  let lower := tag.map Text.lowerAscii
  let named : Bool := isColour tag || (tag = tag.map upperAscii && isColour lower)
  let sided : Bool :=
    (Text.startsWith "fg " tag || Text.startsWith "bg " tag) &&
      (isColour (lower.drop 3) || isMixed (tag.drop 3))
  styles.contains tag || named || sided

/-- The inside of a tag at the start of a text, and what follows the tag. -/
def tag? (t : Text) : Option (Text × Text) :=
  match t with
  | c :: rest =>
    if c ≠ CodePoint.ofChar '<' then none
    else
      let slash : Text := if rest.head? = some (CodePoint.ofChar '/') then "/" else []
      let body := rest.drop slash.length
      let side : Text :=
        if Text.startsWith "fg " body then "fg " else if Text.startsWith "bg " body then "bg "
        else []
      let tail := (body.drop side.length).takeWhile fun c =>
        c ≠ CodePoint.ofChar '<' && c ≠ CodePoint.ofChar '>' && !(9 ≤ c.val && c.val ≤ 13) &&
          c ≠ CodePoint.ofChar ' '
      match body.drop (side.length + tail.length) with
      | d :: after =>
        if d = CodePoint.ofChar '>' then some (slash ++ side ++ tail, after) else none
      | [] => none
  | [] => none

/-- Opens or closes a tag; `none` where that is not possible. -/
def enter? (stack : List Text) (tag : Text) : Option (List Text) :=
  if tag.head? = some (CodePoint.ofChar '/') then
    match stack with
    | top :: rest => if tag.length = 1 ∨ tag.drop 1 = top then some rest else none
    | [] => none
  else if isKnown tag then some (tag :: stack)
  else none

/-- Leaves tags out of a text; a backslash before a tag makes it text. -/
def strip? : Nat → List Text → Text → Option (Text × List Text)
  | 0, stack, t => some (t, stack)
  | fuel + 1, stack, t =>
    let plain := t.takeWhile fun c => c ≠ CodePoint.ofChar '<' && c ≠ CodePoint.ofChar '\\'
    match t.drop plain.length with
    | [] => some (plain, stack)
    | c :: rest =>
      let slashes := (c :: rest).takeWhile (· = CodePoint.ofChar '\\')
      let more := fun (shown : Text) (stack : List Text) (after : Text) =>
        (strip? fuel stack after).map fun (tail, stack) => (plain ++ shown ++ tail, stack)
      match tag? ((c :: rest).drop slashes.length) with
      | some (tag, after) =>
        let kept := slashes.take (slashes.length / 2)
        if slashes.length % 2 = 1 then more (kept ++ "<" ++ tag ++ ">") stack after
        else (enter? stack tag).bind fun stack => more kept stack after
      | none =>
        let skipped := if slashes.isEmpty then [c] else slashes
        more skipped stack ((c :: rest).drop skipped.length)

end Markup

/-! ### Layouts -/

structure Layout where
  pieces : List Braces.Piece
deriving DecidableEq, Repr

namespace Layout

def stripPieces (stack : List Text) : List Braces.Piece → Option (List Braces.Piece × List Text)
  | [] => some ([], stack)
  | .field f :: rest => (stripPieces stack rest).map fun (ps, stack) => (.field f :: ps, stack)
  | .literal t :: rest => do
    let (t, stack) ← Markup.strip? (t.length + 1) stack t
    let (ps, stack) ← stripPieces stack rest
    return (.literal t :: ps, stack)

def invalid : Fault :=
  Fault.because (.plain .value "Invalid format, color markups could not be parsed correctly")
    (Fault.value "invalid markup")

def piecesOf? (t : Text) : Option (List Braces.Piece) := Braces.read? (t.length + 1) t

/-- Whether the shapes of fields can be read, whose own fields go at most `depth` deep. -/
def canShape : Nat → List Braces.Piece → Bool
  | 0, pieces => pieces.all fun p => (p matches .literal _)
  | depth + 1, pieces => pieces.all fun p =>
    match p with
    | .literal _ => true
    | .field f => (piecesOf? f.shape).any (canShape depth)

/-- Reads a layout; the shape of a field may have fields of its own, once. -/
def read (t : Text) : Except Fault Layout :=
  match (piecesOf? t).bind (stripPieces []) with
  | some (pieces, []) => if canShape 2 pieces then .ok ⟨pieces⟩ else .error invalid
  | _ => .error invalid

inductive Subject where
  | text (t : Text)
  | whole (i : Int)
  | grade (g : Grade)
  | extra (fields : Value)

def subject? (r : Record) (name : Text) : Option Subject :=
  let is := fun (s : String) => name = Text.ofString s
  if is "message" then some (.text r.message)
  else if is "level" then some (.grade r.grade)
  else if is "level.name" then some (.text r.grade.name)
  else if is "level.no" then some (.whole r.grade.number)
  else if is "level.icon" then some (.text r.grade.icon)
  else if is "exception" then some (.text [])
  else if is "extra" then some (.extra (.object (tagged r.operation [])))
  else if is "extra[operation_id]" then some (.text (operationText r.operation))
  else none

def gradeQuoted (g : Grade) : Text :=
  "(name=" ++ g.name.quoted ++ ", no=" ++ Text.integer g.number ++ ", icon=" ++ g.icon.quoted ++
    ")"

def spelled (quoted : Bool) : Subject → Text
  | .text t => if quoted then t.quoted else t
  | .whole i => Text.integer i
  | .grade g => gradeQuoted g
  | .extra v => v.quoted

def shaped? (shape : Text) : Subject → Option Text
  | .text t => (Shape.read? shape).bind fun s => s.text? t
  | .whole i => (Shape.read? shape).bind fun s => s.integer? i
  | .grade g => (Shape.read? shape).bind fun s => s.text? g.name
  | .extra v => if shape.isEmpty then some v.quoted else none

/-- Shows a field whose shape has no fields of its own. -/
def showPlain? (r : Record) (f : Braces.Field) : Option Text := do
  let s ← subject? r f.name
  match f.conversion with
  | none => shaped? f.shape s
  | some c =>
    if c = CodePoint.ofChar 'r' then shaped? f.shape (.text (spelled true s))
    else if c = CodePoint.ofChar 's' then shaped? f.shape (.text (spelled false s))
    else if c = CodePoint.ofChar 'a' then
      shaped? f.shape (.text (Text.asciiOnly (spelled true s)))
    else none

def showAll? (field : Braces.Field → Option Text) (pieces : List Braces.Piece) : Option Text := do
  let parts ← pieces.mapM fun p =>
    match p with
    | .literal t => some t
    | .field f => field f
  return parts.flatten

def showField? (r : Record) (f : Braces.Field) : Option Text := do
  let shape ← showAll? (showPlain? r) (← piecesOf? f.shape)
  showPlain? r { f with shape := shape }

/-- Writes a line; `none` where a field cannot be shown. -/
def write? (l : Layout) (r : Record) : Option Text := do
  return (← showAll? (showField? r) l.pieces) ++ "\n"

end Layout

/-! ### Sinks -/

/-- Where lines are written to: from which level on, and how. -/
structure Sink where
  least : Int
  layout : Layout
deriving DecidableEq, Repr

namespace Sink

/-- Capital letters, also of the common letters outside ASCII. -/
def upperPoint (c : CodePoint) : Text :=
  let n := c.val
  let shifted := fun (k : Nat) => [CodePoint.ofNat (n - k)]
  if 97 ≤ n ∧ n ≤ 122 then shifted 32
  else if n = 0xDF then "SS"
  else if n = 0xFF then [CodePoint.ofNat 0x178]
  else if 0xE0 ≤ n ∧ n ≤ 0xFE ∧ n ≠ 0xF7 then shifted 32
  else if n = 0x3C2 then [CodePoint.ofNat 0x3A3]
  else if 0x3B1 ≤ n ∧ n ≤ 0x3C9 then shifted 32
  else if 0x430 ≤ n ∧ n ≤ 0x44F then shifted 32
  else if 0x450 ≤ n ∧ n ≤ 0x45F then shifted 80
  else [c]

def ofSettings (level layout : Text) : Except Fault Sink := do
  let g ← Grade.ofName (level.flatMap upperPoint)
  return ⟨g.number, ← Layout.read layout⟩

def write (s : Sink) (r : Record) : Text :=
  if r.grade.number < s.least then [] else (s.layout.write? r).getD []

end Sink

end Journal

def Line.record (l : Line) : Journal.Record := ⟨Grade.ofLevel l.level, l.message, l.operation⟩

end CertKeeper
