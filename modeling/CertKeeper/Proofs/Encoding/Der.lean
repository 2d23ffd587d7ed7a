import CertKeeper.Der
import Mathlib.Algebra.Group.Int.Defs
import Mathlib.Algebra.Group.Nat.Defs

/-!
# Reading back what is written in the distinguished encoding

The readers are strict; the writers give them what they ask for.  Main statements: the elements
of a content are read back from their spellings one after the other, and so are numbers and bit
strings.  Lengths of more than four bytes are refused, hence the bound `Der.limit`.
-/

namespace CertKeeper

/-! ### Shortest numbers -/

namespace Bytes

theorem toNat_ofNat (width n : Nat) : toNat (ofNat width n) = n % 256 ^ width := by
  induction width generalizing n with
  | zero => simp [ofNat, Nat.mod_one]
  | succ width ih =>
    have split := Nat.mod_mul (x := n) (a := 256) (b := 256 ^ width)
    have byte : (UInt8.ofNat n).toNat = n % 256 := by simp
    rw [ofNat, toNat_concat, ih, byte, Nat.pow_succ, Nat.mul_comm (256 ^ width) 256, split]
    omega

theorem lt_two_pow_width (n : Nat) : n < 256 ^ width n := by
  unfold width
  split
  · next zero => simp [zero]
  · have upper : n < 2 ^ (n.log2 + 1) := Nat.lt_log2_self
    have wide : (2 : Nat) ^ (n.log2 + 1) ≤ 2 ^ (8 * (n.log2 / 8 + 1)) :=
      Nat.pow_le_pow_right (by decide) (by omega)
    have base : (256 : Nat) ^ (n.log2 / 8 + 1) = 2 ^ (8 * (n.log2 / 8 + 1)) := by
      rw [Nat.pow_mul]
    omega

theorem toNat_minimal (n : Nat) : toNat (minimal n) = n := by
  rw [minimal, toNat_ofNat]
  exact Nat.mod_eq_of_lt (lt_two_pow_width n)

theorem length_minimal (n : Nat) : (minimal n).length = width n := length_ofNat _ _

theorem width_le {n k : Nat} (h : n < 256 ^ k) : width n ≤ k := by
  unfold width
  split
  · omega
  · next pos =>
    have lower : 2 ^ n.log2 ≤ n := Nat.log2_self_le pos
    have small : (2 : Nat) ^ n.log2 < 2 ^ (8 * k) := by
      rw [Nat.pow_mul]
      exact Nat.lt_of_le_of_lt lower h
    have := (Nat.pow_lt_pow_iff_right (by decide : 1 < 2)).mp small
    omega

theorem ofNat_succ (w n : Nat) :
    ofNat (w + 1) n = UInt8.ofNat (n / 256 ^ w) :: ofNat w n := by
  induction w generalizing n with
  | zero => simp [ofNat]
  | succ w ih =>
    rw [ofNat, ih, List.cons_append, Nat.div_div_eq_div_mul, ← Nat.pow_succ']
    rfl

theorem minimal_cons {n : Nat} (h : n ≠ 0) : ∃ b rest, minimal n = b :: rest ∧ b ≠ 0 := by
  have lower : 2 ^ n.log2 ≤ n := Nat.log2_self_le h
  have least : 256 ^ (n.log2 / 8) ≤ n := by
    refine Nat.le_trans ?_ lower
    rw [show (256 : Nat) = 2 ^ 8 by decide, ← Nat.pow_mul]
    exact Nat.pow_le_pow_right (by decide) (by omega)
  have upper := lt_two_pow_width n
  simp only [width, h, if_false] at upper
  have high : n / 256 ^ (n.log2 / 8) < 256 := by
    rw [Nat.div_lt_iff_lt_mul (Nat.pow_pos (by decide)), Nat.mul_comm, ← Nat.pow_succ]
    exact upper
  have one : 1 ≤ n / 256 ^ (n.log2 / 8) :=
    (Nat.le_div_iff_mul_le (Nat.pow_pos (by decide))).mpr (by omega)
  refine ⟨_, _, by rw [minimal, width, if_neg h, ofNat_succ], ?_⟩
  intro zero
  have := congrArg UInt8.toNat zero
  simp only [UInt8.toNat_ofNat', UInt8.toNat_zero] at this
  omega

theorem toNat_cons_zero (bs : Bytes) : toNat (0 :: bs) = toNat bs := by simp [toNat]

end Bytes

namespace Der

/-! ### Elements -/

/-- Lengths below this are written with at most four bytes. -/
def limit : Nat := 2 ^ 32

theorem readLength?_lengthBytes {n : Nat} (h : n < limit) (rest : Bytes) :
    readLength? (lengthBytes n ++ rest) = some (n, rest) := by
  unfold lengthBytes
  split
  · next small =>
    have byte : (UInt8.ofNat n).toNat = n := by simp; omega
    have lt : UInt8.ofNat n < 128 := by rw [UInt8.lt_iff_toNat_lt, byte]; exact small
    simp only [List.cons_append, List.nil_append, readLength?, lt, if_true, byte]
  · next large =>
    have count : Bytes.width n ≤ 4 := Bytes.width_le (by unfold limit at h; omega)
    have some_ : 1 ≤ Bytes.width n := by unfold Bytes.width; split <;> omega
    have byte : (UInt8.ofNat (128 + (Bytes.minimal n).length)).toNat = 128 + Bytes.width n := by
      rw [Bytes.length_minimal]; simp; omega
    have notShort : ¬ UInt8.ofNat (128 + (Bytes.minimal n).length) < 128 := by
      rw [UInt8.lt_iff_toNat_lt, byte]; simp
    have counted : 128 + Bytes.width n - 128 = (Bytes.minimal n).length := by
      rw [Bytes.length_minimal]; omega
    have again : lengthBytes n
        = UInt8.ofNat (128 + (Bytes.minimal n).length) :: Bytes.minimal n := by
      rw [lengthBytes, if_neg large]
    simp only [List.cons_append, readLength?, notShort, if_false, byte, counted, List.take_left,
      List.drop_left, Bytes.toNat_minimal, again]
    rw [if_pos ⟨by rw [Bytes.length_minimal]; exact some_,
      by rw [Bytes.length_minimal]; exact count, trivial⟩]

/-- An element that the reader takes: a tag of one byte and a content that is not too long. -/
def Element.Fits (e : Element) : Prop := e.tag &&& 0x1f ≠ 0x1f ∧ e.content.length < limit

theorem Element.fits {tag : Byte} {content : Bytes} (single : tag &&& 0x1f ≠ 0x1f)
    (short : content.length < limit) : (Element.mk tag content).Fits := ⟨single, short⟩

theorem length_lengthBytes_le {n : Nat} (h : n < limit) : (lengthBytes n).length ≤ 5 := by
  have count : Bytes.width n ≤ 4 := Bytes.width_le (by unfold limit at h; omega)
  unfold lengthBytes
  split
  · exact Nat.le_add_left 1 4
  · rw [List.length_cons, Bytes.length_minimal]
    omega

theorem length_element_le {tag : Byte} {content : Bytes} (h : content.length < limit) :
    (element tag content).length ≤ content.length + 6 := by
  have prefix_ := length_lengthBytes_le h
  simp only [element, Element.bytes, List.length_append, List.length_cons]
  omega

theorem read?_bytes {e : Element} (h : e.Fits) (rest : Bytes) :
    read? (e.bytes ++ rest) = some (e, rest) := by
  obtain ⟨tag, short⟩ := h
  simp only [Element.bytes, List.cons_append, List.append_assoc, read?, tag, if_false,
    readLength?_lengthBytes short, Option.bind_eq_bind, Option.bind_some, List.take_left,
    List.drop_left, Option.pure_def]
  rw [if_pos (by simp)]

theorem readAll?_nil : readAll? [] = some [] := by
  rw [readAll?]
  split
  · rfl
  · next h => simp [read?] at h

theorem readAll?_bytes_append {e : Element} (h : e.Fits) (rest : Bytes) :
    readAll? (e.bytes ++ rest) = (readAll? rest).map (e :: ·) := by
  have first := read?_bytes h rest
  rw [readAll?]
  split
  · next none => rw [first] at none; cases none
  · next e' rest' some_ =>
    rw [first] at some_
    cases some_
    rfl

theorem readAll?_flatMap {es : List Element} (h : ∀ e ∈ es, e.Fits) :
    readAll? (es.flatMap Element.bytes) = some es := by
  induction es with
  | nil => exact readAll?_nil
  | cons e es ih =>
    rw [List.flatMap_cons, readAll?_bytes_append (h e List.mem_cons_self),
      ih fun x hx => h x (List.mem_cons_of_mem _ hx)]
    rfl

theorem single?_element {tag : Byte} {content : Bytes} (h : (Element.mk tag content).Fits) :
    single? tag (element tag content) = some content := by
  have first := read?_bytes h []
  rw [List.append_nil] at first
  simp only [single?, element, first, if_true]

/-! ### Numbers -/

theorem readInteger?_of_head {b : Byte} {rest : Bytes} (positive : b ≠ 0) (low : b < 128) :
    readInteger? (b :: rest) = some (Bytes.toNat (b :: rest) : Int) := by
  have notHigh : b ≠ 0xFF := by intro e; subst e; revert low; decide
  cases rest with
  | nil => simp [readInteger?, low]
  | cons c more => simp [readInteger?, low, positive, notHigh]

theorem readInteger?_natContent (n : Nat) : readInteger? (natContent n) = some (n : Int) := by
  by_cases zero : n = 0
  · subst zero
    decide
  obtain ⟨b, rest, spelled, positive⟩ := Bytes.minimal_cons zero
  have value := Bytes.toNat_minimal n
  rw [spelled] at value
  simp only [natContent, spelled]
  split
  · next low => rw [readInteger?_of_head positive low, value]
  · next high =>
    simp [readInteger?, high, Bytes.toNat_cons_zero, value]

theorem readNatural?_natContent (n : Nat) : readNatural? (natContent n) = some n := by
  simp [readNatural?, readInteger?_natContent]

theorem length_natContent_le {n k : Nat} (h : n < 256 ^ k) : (natContent n).length ≤ k + 1 := by
  have short := Bytes.width_le h
  have count := Bytes.length_minimal n
  unfold natContent
  cases spelled : Bytes.minimal n with
  | nil => simp
  | cons b rest =>
    rw [spelled, List.length_cons] at count
    simp only
    split <;> simp only [List.length_cons] <;> omega

/-! ### Bit strings -/

theorem readBits?_whole (bs : Bytes) : readBits? (0 :: bs) = some (0, bs) := by
  simp [readBits?, Nat.mod_one]

end Der

end CertKeeper
