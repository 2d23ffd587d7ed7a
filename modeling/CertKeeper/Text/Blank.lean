import CertKeeper.Text

/-!
# Blank code points

The code points that count as white space, and the lines of a text.
-/

namespace CertKeeper.Text

/-- White space: the ASCII blanks and the separators of the other scripts. -/
def isBlank (c : CodePoint) : Bool :=
  let n := c.val
  (9 ≤ n && n ≤ 13) || n = 32 || n = 0x85 || n = 0xA0 || n = 0x1680 ||
    (0x2000 ≤ n && n ≤ 0x200A) || n = 0x2028 || n = 0x2029 || n = 0x202F || n = 0x205F || n = 0x3000

/-- White space and the four separators among the controls. -/
def isWideBlank (c : CodePoint) : Bool := isBlank c || (0x1C ≤ c.val && c.val ≤ 0x1F)

theorem isWideBlank_of_isBlank {c : CodePoint} (h : isBlank c = true) : isWideBlank c = true := by
  simp [isWideBlank, h]

/-- The lines of a text; a line end may have a carriage return before it. -/
def lines (t : Text) : List Text :=
  (splitOn (CodePoint.ofChar '\n') t).map fun l =>
    if l.getLast? = some (CodePoint.ofChar '\r') then l.dropLast else l

/-- Every line end becomes a single line feed: a carriage return is one, alone or before a line
feed. -/
def unifyLineEnds : Text → Text
  | [] => []
  | c :: rest =>
    if c = CodePoint.ofChar '\r' then
      if rest.head? = some (CodePoint.ofChar '\n') then unifyLineEnds rest
      else CodePoint.ofChar '\n' :: unifyLineEnds rest
    else c :: unifyLineEnds rest

theorem unifyLineEnds_eq_self {t : Text} (h : CodePoint.ofChar '\r' ∉ t) :
    unifyLineEnds t = t := by
  induction t with
  | nil => rfl
  | cons c rest ih =>
    simp only [List.mem_cons, not_or] at h
    rw [unifyLineEnds, if_neg (Ne.symm h.1), ih h.2]

end CertKeeper.Text
