/-!
# Bytes

Byte strings as lists, their big-endian values and their hexadecimal spelling.
Main statements: writing a number in a fixed number of bytes and reading it back gives the
number, and reading the hexadecimal spelling of a byte string gives the byte string.
-/

namespace CertKeeper

abbrev Byte := UInt8

abbrev Bytes := List Byte

namespace Bytes

/-! ### Big-endian numbers -/

/-- The number whose big-endian digits are the bytes. -/
def toNat (bs : Bytes) : Nat := bs.foldl (fun n b => n * 256 + b.toNat) 0

/-- The low `width` bytes of a number, most significant first. -/
def ofNat (width n : Nat) : Bytes :=
  match width with
  | 0 => []
  | width + 1 => ofNat width (n / 256) ++ [UInt8.ofNat n]

@[simp] theorem toNat_nil : toNat [] = 0 := rfl

@[simp] theorem toNat_concat (bs : Bytes) (b : Byte) :
    toNat (bs ++ [b]) = toNat bs * 256 + b.toNat := by
  simp [toNat]

@[simp] theorem length_ofNat (width n : Nat) : (ofNat width n).length = width := by
  induction width generalizing n with
  | zero => rfl
  | succ width ih => simp [ofNat, ih]

/-- How many bytes a number needs; zero needs none. -/
def width (n : Nat) : Nat := if n = 0 then 0 else n.log2 / 8 + 1

/-- The shortest big-endian spelling of a number. -/
def minimal (n : Nat) : Bytes := ofNat (width n) n

/-! ### Hexadecimal -/

def hexDigit (n : Nat) : Char :=
  if n < 10 then Char.ofNat (48 + n) else Char.ofNat (87 + n)

def hexDigitUpper (n : Nat) : Char :=
  if n < 10 then Char.ofNat (48 + n) else Char.ofNat (55 + n)

def hexValue? (c : Char) : Option Nat :=
  let n := c.toNat
  if 48 ≤ n ∧ n ≤ 57 then some (n - 48)
  else if 97 ≤ n ∧ n ≤ 102 then some (n - 87)
  else if 65 ≤ n ∧ n ≤ 70 then some (n - 55)
  else none

def hex (bs : Bytes) : String :=
  String.ofList (bs.flatMap fun b => [hexDigit (b.toNat / 16), hexDigit (b.toNat % 16)])

def ofHexChars? : List Char → Option Bytes
  | [] => some []
  | hi :: lo :: rest => do
    let h ← hexValue? hi
    let l ← hexValue? lo
    let tail ← ofHexChars? rest
    return UInt8.ofNat (h * 16 + l) :: tail
  | [_] => none

def ofHex? (s : String) : Option Bytes := ofHexChars? s.toList

theorem hexValue?_hexDigit (n : Nat) (h : n < 16) : hexValue? (hexDigit n) = some n := by
  have : ∀ m : Fin 16, hexValue? (hexDigit m.val) = some m.val := by decide
  exact this ⟨n, h⟩

theorem ofHexChars?_hex (bs : Bytes) :
    ofHexChars? (bs.flatMap fun b => [hexDigit (b.toNat / 16), hexDigit (b.toNat % 16)])
      = some bs := by
  induction bs with
  | nil => rfl
  | cons b bs ih =>
    have hb := b.toNat_lt
    have hi := hexValue?_hexDigit (b.toNat / 16) (by omega)
    have lo := hexValue?_hexDigit (b.toNat % 16) (by omega)
    have he : b.toNat / 16 * 16 + b.toNat % 16 = b.toNat := by omega
    have back : UInt8.ofNat (b.toNat / 16 * 16 + b.toNat % 16) = b := by
      rw [he]; exact UInt8.ofNat_toNat
    simp only [List.flatMap_cons, List.cons_append, List.nil_append, ofHexChars?, hi, lo, ih,
      Option.bind_eq_bind, Option.bind_some, back, Option.pure_def]

theorem ofHex?_hex (bs : Bytes) : ofHex? (hex bs) = some bs := by
  simp [ofHex?, hex, ofHexChars?_hex]

/-! ### Bitwise combination -/

/-- Position by position, as far as the shorter one goes. -/
def xor (a b : Bytes) : Bytes := List.zipWith (· ^^^ ·) a b

def chunks (size : Nat) (bs : Bytes) : List Bytes :=
  go (bs.length / (max size 1) + 1) bs
where
  go : Nat → Bytes → List Bytes
    | 0, _ => []
    | fuel + 1, bs =>
      if bs.isEmpty then [] else bs.take (max size 1) :: go fuel (bs.drop (max size 1))

end Bytes

end CertKeeper
