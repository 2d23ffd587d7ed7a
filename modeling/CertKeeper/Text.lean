import CertKeeper.Bytes

/-!
# Text

A text is a list of code points.  Surrogates are code points like any other here: names come
from outside and may hold a surrogate that stands alone, and only the encoders refuse it.
Main statements: the code points of a literal are its characters, and a number is read back from
its decimal spelling.
-/

namespace CertKeeper

abbrev CodePoint := Fin 0x110000

abbrev Text := List CodePoint

namespace CodePoint

def ofChar (c : Char) : CodePoint :=
  ⟨c.toNat, by
    have h := c.valid
    simp only [UInt32.isValidChar, Nat.isValidChar] at h
    simp only [Char.toNat]
    omega⟩

/-- Code points that stand for half of a character and have no encoding of their own. -/
def isSurrogate (c : CodePoint) : Bool := 0xD800 ≤ c.val && c.val < 0xE000

/-- Code points that the names of files have no bytes for: the surrogates but those that stand for
one byte each. -/
def isForeign (c : CodePoint) : Bool := c.isSurrogate && !(0xDC80 ≤ c.val && c.val < 0xDD00)

/-- The code point of a number, or the replacement character where there is none. -/
def ofNat (n : Nat) : CodePoint := if h : n < 0x110000 then ⟨n, h⟩ else ⟨0xFFFD, by decide⟩

/-- The character of a code point; a surrogate has none. -/
def toChar (c : CodePoint) : Char := Char.ofNat c.val

theorem ofChar_val (c : Char) : (ofChar c).val = c.toNat := rfl

end CodePoint

namespace Text

def ofChars (cs : List Char) : Text := cs.map CodePoint.ofChar

def ofString (s : String) : Text := ofChars s.toList

instance : Coe String Text := ⟨ofString⟩

@[simp] theorem ofString_ofList (cs : List Char) : ofString (String.ofList cs) = ofChars cs := by
  simp [ofString]

/-- The string of a text; surrogates are lost. -/
def toString (t : Text) : String := String.ofList (t.map CodePoint.toChar)

/-! ### Numbers -/

def digits (base : Nat) (n : Nat) : List Nat :=
  if _h : base < 2 ∨ n < base then [n] else digits base (n / base) ++ [n % base]
termination_by n
decreasing_by exact Nat.div_lt_self (by omega) (by omega)

def ofDigits (base : Nat) (ds : List Nat) : Nat := ds.foldl (fun n d => n * base + d) 0

theorem ofDigits_digits (base n : Nat) : ofDigits base (digits base n) = n := by
  fun_induction digits base n with
  | case1 n h => simp [ofDigits]
  | case2 n h ih =>
    simp only [ofDigits] at ih
    have := Nat.div_add_mod n base
    simp only [ofDigits, List.foldl_append, List.foldl_cons, List.foldl_nil, ih]
    rw [Nat.mul_comm]
    exact this

def decimal (n : Nat) : Text := (digits 10 n).map fun d => CodePoint.ofChar (Bytes.hexDigit d)

def hexUpper (n : Nat) : Text :=
  (digits 16 n).map fun d => CodePoint.ofChar (Bytes.hexDigitUpper d)

def hexLower (n : Nat) : Text := (digits 16 n).map fun d => CodePoint.ofChar (Bytes.hexDigit d)

def octal (n : Nat) : Text := (digits 8 n).map fun d => CodePoint.ofChar (Bytes.hexDigit d)

def signed (spell : Nat → Text) (i : Int) : Text :=
  if i < 0 then CodePoint.ofChar '-' :: spell i.natAbs else spell i.natAbs

def integer (i : Int) : Text := signed decimal i

def padLeft (width : Nat) (fill : Char) (t : Text) : Text :=
  List.replicate (width - t.length) (CodePoint.ofChar fill) ++ t

theorem length_padLeft (width : Nat) (fill : Char) (t : Text) :
    (padLeft width fill t).length = max width t.length := by
  simp [padLeft]; omega

/-! ### Pieces -/

/-- The pieces between the occurrences of a code point; always at least one. -/
def splitOn (sep : CodePoint) : Text → List Text
  | [] => [[]]
  | c :: rest =>
    match splitOn sep rest with
    | [] => [[c]]
    | piece :: pieces => if c = sep then [] :: piece :: pieces else (c :: piece) :: pieces

def join (sep : Text) : List Text → Text
  | [] => []
  | [t] => t
  | t :: u :: rest => t ++ sep ++ join sep (u :: rest)

theorem splitOn_ne_nil (sep : CodePoint) (t : Text) : splitOn sep t ≠ [] := by
  cases t with
  | nil => simp [splitOn]
  | cons c rest =>
    rw [splitOn]
    split
    · simp
    · split <;> simp

theorem join_cons (sep t : Text) {rest : List Text} (h : rest ≠ []) :
    join sep (t :: rest) = t ++ sep ++ join sep rest := by
  cases rest with
  | nil => exact absurd rfl h
  | cons u rest => rfl

theorem join_splitOn (sep : CodePoint) (t : Text) : join [sep] (splitOn sep t) = t := by
  induction t with
  | nil => rfl
  | cons c rest ih =>
    rw [splitOn]
    split
    · next h => exact absurd h (splitOn_ne_nil sep rest)
    · next piece pieces h =>
      rw [h] at ih
      split
      · next hc => rw [join_cons _ _ (by simp), ih, hc]; simp
      · cases pieces with
        | nil => simpa [join] using ih
        | cons q qs =>
          rw [join_cons _ _ (by simp)] at ih ⊢
          simpa using ih

def startsWith (start t : Text) : Bool := start.isPrefixOf t

def endsWith (ending t : Text) : Bool := ending.isSuffixOf t

/-- Splits at the first occurrence of a text, which belongs to neither side. -/
def cut? (sep : Text) : Text → Option (Text × Text)
  | [] => if sep.isEmpty then some ([], []) else none
  | c :: rest =>
    if startsWith sep (c :: rest) then some ([], (c :: rest).drop sep.length)
    else (cut? sep rest).map fun (before, after) => (c :: before, after)

def includes (part t : Text) : Bool := (cut? part t).isSome

def trim (p : CodePoint → Bool) (t : Text) : Text :=
  ((t.dropWhile p).reverse.dropWhile p).reverse

def trimRight (p : CodePoint → Bool) (t : Text) : Text := (t.reverse.dropWhile p).reverse

/-! ### ASCII letters -/

def lowerAscii (c : CodePoint) : CodePoint :=
  if 65 ≤ c.val ∧ c.val ≤ 90 then CodePoint.ofNat (c.val + 32) else c

def digit? (c : CodePoint) : Option Nat :=
  if 48 ≤ c.val ∧ c.val ≤ 57 then some (c.val - 48) else none

def hexDigit? (c : CodePoint) : Option Nat :=
  if c.val < 128 then Bytes.hexValue? c.toChar else none

end Text

end CertKeeper
