import CertKeeper.Text

/-!
# Base 64

Three bytes as four letters, with padding at the end.  The decoder takes nothing but what the
encoder writes: padding must be there and bits that do not count must be zero.
Main statement: decoding undoes encoding.
-/

namespace CertKeeper.Base64

/-! ### Letters -/

def letter (n : Nat) : CodePoint :=
  if n < 26 then CodePoint.ofNat (65 + n)
  else if n < 52 then CodePoint.ofNat (71 + n)
  else if n < 62 then CodePoint.ofNat (n - 4)
  else if n = 62 then CodePoint.ofNat 43
  else CodePoint.ofNat 47

def value? (c : CodePoint) : Option Nat :=
  let n := c.val
  if 65 ≤ n ∧ n ≤ 90 then some (n - 65)
  else if 97 ≤ n ∧ n ≤ 122 then some (n - 71)
  else if 48 ≤ n ∧ n ≤ 57 then some (n + 4)
  else if n = 43 then some 62
  else if n = 47 then some 63
  else none

/-- The sign that fills up the last group. -/
def pad : CodePoint := CodePoint.ofNat 61

theorem value?_letter (n : Nat) (h : n < 64) : value? (letter n) = some n := by
  have all : ∀ m : Fin 64, value? (letter m.val) = some m.val := by decide
  exact all ⟨n, h⟩

theorem value?_pad : value? pad = none := by decide

theorem letter_ne_pad (n : Nat) (h : n < 64) : letter n ≠ pad := by
  intro e
  have := value?_letter n h
  rw [e, value?_pad] at this
  cases this

/-! ### Encoding -/

def encode : Bytes → Text
  | a :: b :: c :: rest =>
    letter (a.toNat / 4) :: letter (a.toNat % 4 * 16 + b.toNat / 16) ::
      letter (b.toNat % 16 * 4 + c.toNat / 64) :: letter (c.toNat % 64) :: encode rest
  | [a, b] =>
    [letter (a.toNat / 4), letter (a.toNat % 4 * 16 + b.toNat / 16), letter (b.toNat % 16 * 4), pad]
  | [a] => [letter (a.toNat / 4), letter (a.toNat % 4 * 16), pad, pad]
  | [] => []

/-! ### Decoding -/

/-- The last group: one, two or three bytes. -/
def decodeLast? (w x : Nat) (y z : CodePoint) : Option Bytes :=
  if y = pad then
    if z = pad ∧ x % 16 = 0 then some [UInt8.ofNat (w * 4 + x / 16)] else none
  else do
    let y ← value? y
    if z = pad then
      if y % 4 = 0 then some [UInt8.ofNat (w * 4 + x / 16), UInt8.ofNat (x % 16 * 16 + y / 4)]
      else none
    else do
      let z ← value? z
      return [UInt8.ofNat (w * 4 + x / 16), UInt8.ofNat (x % 16 * 16 + y / 4),
        UInt8.ofNat (y % 4 * 64 + z)]

def decode? : Text → Option Bytes
  | [] => some []
  | w :: x :: y :: z :: rest => do
    let w ← value? w
    let x ← value? x
    if rest.isEmpty then decodeLast? w x y z
    else
      let y ← value? y
      let z ← value? z
      let tail ← decode? rest
      return UInt8.ofNat (w * 4 + x / 16) :: UInt8.ofNat (x % 16 * 16 + y / 4) ::
        UInt8.ofNat (y % 4 * 64 + z) :: tail
  | _ => none

theorem encode_eq_nil {bs : Bytes} (h : encode bs = []) : bs = [] := by
  match bs with
  | [] => rfl
  | [_] => simp [encode] at h
  | [_, _] => simp [encode] at h
  | _ :: _ :: _ :: _ => simp [encode] at h

theorem byte_eq (b : Byte) {n : Nat} (h : n = b.toNat) : UInt8.ofNat n = b := by
  rw [h]; exact UInt8.ofNat_toNat

theorem decode?_encode (bs : Bytes) : decode? (encode bs) = some bs := by
  fun_induction encode bs with
  | case1 a b c rest ih =>
    have ha := a.toNat_lt
    have hb := b.toNat_lt
    have hc := c.toNat_lt
    rw [decode?, value?_letter _ (by omega), value?_letter _ (by omega)]
    simp only [Option.bind_eq_bind, Option.bind_some]
    have ea : UInt8.ofNat (a.toNat / 4 * 4 + (a.toNat % 4 * 16 + b.toNat / 16) / 16) = a :=
      byte_eq a (by omega)
    have eb : UInt8.ofNat ((a.toNat % 4 * 16 + b.toNat / 16) % 16 * 16 +
        (b.toNat % 16 * 4 + c.toNat / 64) / 4) = b := byte_eq b (by omega)
    have ec : UInt8.ofNat ((b.toNat % 16 * 4 + c.toNat / 64) % 4 * 64 + c.toNat % 64) = c :=
      byte_eq c (by omega)
    split
    · next empty =>
      have nil := encode_eq_nil (List.isEmpty_iff.mp empty)
      subst nil
      rw [decodeLast?, if_neg (letter_ne_pad _ (by omega)), value?_letter _ (by omega)]
      simp only [Option.bind_eq_bind, Option.bind_some]
      rw [if_neg (letter_ne_pad _ (by omega)), value?_letter _ (by omega)]
      simp only [Option.bind_some, Option.pure_def]
      rw [ea, eb, ec]
    · rw [value?_letter _ (by omega), value?_letter _ (by omega), ih]
      simp only [Option.bind_some, Option.pure_def]
      rw [ea, eb, ec]
  | case2 a b =>
    have ha := a.toNat_lt
    have hb := b.toNat_lt
    rw [decode?, value?_letter _ (by omega), value?_letter _ (by omega)]
    simp only [Option.bind_eq_bind, Option.bind_some, List.isEmpty_nil, if_true]
    rw [decodeLast?, if_neg (letter_ne_pad _ (by omega)), value?_letter _ (by omega)]
    simp only [Option.bind_eq_bind, Option.bind_some, if_true]
    rw [if_pos (by omega)]
    have ea : UInt8.ofNat (a.toNat / 4 * 4 + (a.toNat % 4 * 16 + b.toNat / 16) / 16) = a :=
      byte_eq a (by omega)
    have eb : UInt8.ofNat ((a.toNat % 4 * 16 + b.toNat / 16) % 16 * 16 +
        b.toNat % 16 * 4 / 4) = b := byte_eq b (by omega)
    rw [ea, eb]
  | case3 a =>
    have ha := a.toNat_lt
    rw [decode?, value?_letter _ (by omega), value?_letter _ (by omega)]
    simp only [Option.bind_eq_bind, Option.bind_some, List.isEmpty_nil, if_true]
    rw [decodeLast?, if_pos rfl, if_pos ⟨rfl, by omega⟩]
    have ea : UInt8.ofNat (a.toNat / 4 * 4 + a.toNat % 4 * 16 / 16) = a := byte_eq a (by omega)
    rw [ea]
  | case4 => rfl

end CertKeeper.Base64
