import CertKeeper.Text

/-!
# Templates with braces

Texts with fields in braces: what is shown, how it is spelled and the shape it is given.  A brace
that is text is written twice.
-/

namespace CertKeeper.Braces

structure Field where
  name : Text
  conversion : Option CodePoint
  shape : Text
deriving DecidableEq, Repr

inductive Piece where
  | literal (t : Text)
  | field (f : Field)
deriving DecidableEq, Repr

def opening : CodePoint := CodePoint.ofChar '\x7b'

def closing : CodePoint := CodePoint.ofChar '\x7d'

/-- What stands before the brace that closes `depth` open ones, and what follows it. -/
def inside? (depth : Nat) : Text → Option (Text × Text)
  | [] => none
  | c :: rest =>
    if c = opening then (inside? (depth + 1) rest).map fun (a, b) => (c :: a, b)
    else if c = closing then
      match depth with
      | 0 => some ([], rest)
      | d + 1 => (inside? d rest).map fun (a, b) => (c :: a, b)
    else (inside? depth rest).map fun (a, b) => (c :: a, b)

/-- The name ends at an exclamation mark or a colon that stands in no bracket. -/
def splitName (bracketed : Bool) : Text → Text × Text
  | [] => ([], [])
  | c :: rest =>
    if !bracketed ∧ (c = CodePoint.ofChar '!' ∨ c = CodePoint.ofChar ':') then ([], c :: rest)
    else
      let bracketed := if bracketed then c ≠ CodePoint.ofChar ']' else c = CodePoint.ofChar '['
      let (name, after) := splitName bracketed rest
      (c :: name, after)

def fieldOf? (t : Text) : Option Field :=
  let (name, after) := splitName false t
  match after with
  | [] => some ⟨name, none, []⟩
  | mark :: rest =>
    if mark = CodePoint.ofChar ':' then some ⟨name, none, rest⟩
    else
      match rest with
      | [c] => some ⟨name, some c, []⟩
      | c :: colon :: shape =>
        if colon = CodePoint.ofChar ':' then some ⟨name, some c, shape⟩ else none
      | [] => none

/-- Reads a template; a brace without its partner makes it none. -/
def read? : Nat → Text → Option (List Piece)
  | 0, _ => none
  | fuel + 1, t =>
    let plain := t.takeWhile fun c => c ≠ opening && c ≠ closing
    match t.drop plain.length with
    | [] => some [.literal plain]
    | c :: rest =>
      if rest.head? = some c then
        (read? fuel (rest.drop 1)).map (.literal (plain ++ [c]) :: ·)
      else if c = closing then none
      else do
        let (content, after) ← inside? 0 rest
        let f ← fieldOf? content
        return .literal plain :: .field f :: (← read? fuel after)

end CertKeeper.Braces
