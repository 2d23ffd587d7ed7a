import CertKeeper.Text

/-!
# Paths

How places in the file system are written: an optional root, then the names to go through.
Empty names and single dots are dropped; two dots stay, because only the file system knows where
they lead.
-/

namespace CertKeeper

structure Path where
  /-- What is written before the first name, where the path does not start at the working
  directory. -/
  root : Option Text
  parts : List Text
deriving DecidableEq, Repr

namespace Path

def slash : CodePoint := CodePoint.ofChar '/'

def partsOf (t : Text) : List Text :=
  (Text.splitOn slash t).filter fun p => p ≠ [] ∧ p ≠ [CodePoint.ofChar '.']

/-- Reads a path; `mount` is how the tree's own root is written. -/
def parse (mount t : Text) : Path :=
  if t = mount ∨ Text.startsWith (mount ++ [slash]) t then
    ⟨some mount, partsOf (t.drop mount.length)⟩
  else if t.head? = some slash then ⟨some [], partsOf t⟩
  else ⟨none, partsOf t⟩

/-- Goes home: a first name that begins with a tilde stands for a home directory, and what follows
the tilde tells whose.  There is none where nobody is known by that name. -/
def goHome (home : Text → Option Path) (p : Path) : Option Path :=
  match p.root, p.parts with
  | none, first :: rest =>
    if first.head? = some (CodePoint.ofChar '~') then
      (home first.tail).map fun h => ⟨h.root, h.parts ++ rest⟩
    else some p
  | _, _ => some p

/-- Goes on from a path; what starts with a slash starts anew. -/
def join (p : Path) (t : Text) : Path :=
  if t.head? = some slash then ⟨some [], partsOf t⟩ else ⟨p.root, p.parts ++ partsOf t⟩

def parent (p : Path) : Path := ⟨p.root, p.parts.dropLast⟩

def name (p : Path) : Text := p.parts.getLastD []

def withName (p : Path) (n : Text) : Path := ⟨p.root, p.parts.dropLast ++ [n]⟩

def spell (p : Path) : Text :=
  let names := Text.join [slash] p.parts
  match p.root with
  | none => if p.parts.isEmpty then "." else names
  | some r => if p.parts.isEmpty ∧ r ≠ [] then r else r ++ [slash] ++ names

def isBarred (c : CodePoint) : Bool := c.val = 0 || c.isForeign

def isUnnameable (p : Path) : Bool := p.parts.any (List.any · isBarred)

/-- A name without its last ending; a leading dot begins no ending. -/
def stem (n : Text) : Text :=
  let dot := CodePoint.ofChar '.'
  let ending := (n.reverse.takeWhile (· ≠ dot)).length
  let before := n.length - ending - 1
  if before = 0 ∨ ending = 0 ∨ n.length ≤ ending then n else n.take before

end Path

end CertKeeper
