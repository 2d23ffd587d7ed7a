import CertKeeper.Bytes

/-!
# The AES block cipher

Enciphering and deciphering in chains of blocks (CBC), with the padding that says how long it is.
Deciphering fails where the padding does not.
-/

namespace CertKeeper.Crypto

namespace Aes

/-! ### The field of bytes -/

def double (b : Byte) : Byte := if b &&& 0x80 = 0 then b <<< 1 else (b <<< 1) ^^^ 0x1b

def times (n : Nat) (b : Byte) : Byte :=
  let b2 := double b
  let b4 := double b2
  let b8 := double b4
  (if n % 2 = 1 then b else 0) ^^^ (if n / 2 % 2 = 1 then b2 else 0) ^^^
    (if n / 4 % 2 = 1 then b4 else 0) ^^^ (if n / 8 % 2 = 1 then b8 else 0)

/-- The substitution: the inverse in the field, then an affine map. -/
def sbox : Array Byte := #[
  0x63, 0x7c, 0x77, 0x7b, 0xf2, 0x6b, 0x6f, 0xc5, 0x30, 0x01, 0x67, 0x2b, 0xfe, 0xd7, 0xab, 0x76,
  0xca, 0x82, 0xc9, 0x7d, 0xfa, 0x59, 0x47, 0xf0, 0xad, 0xd4, 0xa2, 0xaf, 0x9c, 0xa4, 0x72, 0xc0,
  0xb7, 0xfd, 0x93, 0x26, 0x36, 0x3f, 0xf7, 0xcc, 0x34, 0xa5, 0xe5, 0xf1, 0x71, 0xd8, 0x31, 0x15,
  0x04, 0xc7, 0x23, 0xc3, 0x18, 0x96, 0x05, 0x9a, 0x07, 0x12, 0x80, 0xe2, 0xeb, 0x27, 0xb2, 0x75,
  0x09, 0x83, 0x2c, 0x1a, 0x1b, 0x6e, 0x5a, 0xa0, 0x52, 0x3b, 0xd6, 0xb3, 0x29, 0xe3, 0x2f, 0x84,
  0x53, 0xd1, 0x00, 0xed, 0x20, 0xfc, 0xb1, 0x5b, 0x6a, 0xcb, 0xbe, 0x39, 0x4a, 0x4c, 0x58, 0xcf,
  0xd0, 0xef, 0xaa, 0xfb, 0x43, 0x4d, 0x33, 0x85, 0x45, 0xf9, 0x02, 0x7f, 0x50, 0x3c, 0x9f, 0xa8,
  0x51, 0xa3, 0x40, 0x8f, 0x92, 0x9d, 0x38, 0xf5, 0xbc, 0xb6, 0xda, 0x21, 0x10, 0xff, 0xf3, 0xd2,
  0xcd, 0x0c, 0x13, 0xec, 0x5f, 0x97, 0x44, 0x17, 0xc4, 0xa7, 0x7e, 0x3d, 0x64, 0x5d, 0x19, 0x73,
  0x60, 0x81, 0x4f, 0xdc, 0x22, 0x2a, 0x90, 0x88, 0x46, 0xee, 0xb8, 0x14, 0xde, 0x5e, 0x0b, 0xdb,
  0xe0, 0x32, 0x3a, 0x0a, 0x49, 0x06, 0x24, 0x5c, 0xc2, 0xd3, 0xac, 0x62, 0x91, 0x95, 0xe4, 0x79,
  0xe7, 0xc8, 0x37, 0x6d, 0x8d, 0xd5, 0x4e, 0xa9, 0x6c, 0x56, 0xf4, 0xea, 0x65, 0x7a, 0xae, 0x08,
  0xba, 0x78, 0x25, 0x2e, 0x1c, 0xa6, 0xb4, 0xc6, 0xe8, 0xdd, 0x74, 0x1f, 0x4b, 0xbd, 0x8b, 0x8a,
  0x70, 0x3e, 0xb5, 0x66, 0x48, 0x03, 0xf6, 0x0e, 0x61, 0x35, 0x57, 0xb9, 0x86, 0xc1, 0x1d, 0x9e,
  0xe1, 0xf8, 0x98, 0x11, 0x69, 0xd9, 0x8e, 0x94, 0x9b, 0x1e, 0x87, 0xe9, 0xce, 0x55, 0x28, 0xdf,
  0x8c, 0xa1, 0x89, 0x0d, 0xbf, 0xe6, 0x42, 0x68, 0x41, 0x99, 0x2d, 0x0f, 0xb0, 0x54, 0xbb, 0x16]

def substitute (b : Byte) : Byte := sbox.getD b.toNat 0

def unbox : Array Byte :=
  (List.range 256).foldl
    (fun t i => t.setIfInBounds (substitute (UInt8.ofNat i)).toNat (UInt8.ofNat i))
    (Array.replicate 256 0)

def restore (b : Byte) : Byte := unbox.getD b.toNat 0

/-! ### Keys -/

def nextWord (size i : Nat) (constant : Byte) (before last : Bytes) : Bytes :=
  let t :=
    if i % size = 0 then Bytes.xor ((last.drop 1 ++ last.take 1).map substitute) [constant, 0, 0, 0]
    else if 6 < size ∧ i % size = 4 then last.map substitute
    else last
  Bytes.xor before t

/-- Words of the key schedule, last first. -/
def expandFrom (size : Nat) : Nat → Nat → Byte → List Bytes → List Bytes
  | 0, _, _, words => words
  | count + 1, i, constant, words =>
    let word := nextWord size i constant (words.getD (size - 1) []) (words.headD [])
    expandFrom size count (i + 1) (if i % size = 0 then double constant else constant)
      (word :: words)

def roundKeys (key : Bytes) : List Bytes :=
  let size := key.length / 4
  let words := expandFrom size (4 * (size + 7) - size) size 1 (Bytes.chunks 4 key).reverse
  Bytes.chunks 16 words.reverse.flatten

/-! ### Blocks -/

/-- Moves the bytes of a block: place `i` takes what stood at the place the map gives. -/
def permuted (place : Nat → Nat) (block : Bytes) : Bytes :=
  let a := block.toArray
  (List.range 16).map fun i => a.getD (place i) 0

def shiftRows (block : Bytes) : Bytes := permuted (fun i => (i + 4 * (i % 4)) % 16) block

def unshiftRows (block : Bytes) : Bytes := permuted (fun i => (i + 12 * (i % 4)) % 16) block

/-- Each column times a matrix whose rows are rotations of the first. -/
def mixColumns (a b c d : Nat) (block : Bytes) : Bytes :=
  (Bytes.chunks 4 block).flatMap fun column =>
    match column with
    | [w, x, y, z] => [
      times a w ^^^ times b x ^^^ times c y ^^^ times d z,
      times d w ^^^ times a x ^^^ times b y ^^^ times c z,
      times c w ^^^ times d x ^^^ times a y ^^^ times b z,
      times b w ^^^ times c x ^^^ times d y ^^^ times a z]
    | other => other

def encipher (keys : List Bytes) (block : Bytes) : Bytes :=
  match keys with
  | [] => block
  | first :: rest =>
    let inner := rest.dropLast.foldl
      (fun s key => Bytes.xor (mixColumns 2 3 1 1 (shiftRows (s.map substitute))) key)
      (Bytes.xor block first)
    Bytes.xor (shiftRows (inner.map substitute)) (rest.getLastD [])

def decipher (keys : List Bytes) (block : Bytes) : Bytes :=
  match keys with
  | [] => block
  | first :: rest =>
    let last := (unshiftRows (Bytes.xor block (rest.getLastD []))).map restore
    let inner := rest.dropLast.foldr
      (fun key s => (unshiftRows (mixColumns 14 11 13 9 (Bytes.xor s key))).map restore) last
    Bytes.xor inner first

/-! ### Chains -/

def encipherChain (keys : List Bytes) : Bytes → List Bytes → Bytes
  | _, [] => []
  | before, block :: rest =>
    let c := encipher keys (Bytes.xor block before)
    c ++ encipherChain keys c rest

def decipherChain (keys : List Bytes) : Bytes → List Bytes → Bytes
  | _, [] => []
  | before, block :: rest =>
    Bytes.xor (decipher keys block) before ++ decipherChain keys block rest

/-- Fills up to whole blocks with bytes that say how many they are. -/
def pad (bs : Bytes) : Bytes :=
  let missing := 16 - bs.length % 16
  bs ++ List.replicate missing (UInt8.ofNat missing)

def unpad? (bs : Bytes) : Option Bytes :=
  let n := (bs.getLastD 0).toNat
  if 1 ≤ n ∧ n ≤ 16 ∧ n ≤ bs.length ∧ (bs.drop (bs.length - n)).all (· = UInt8.ofNat n) then
    some (bs.take (bs.length - n))
  else none

theorem unpad?_pad (bs : Bytes) : unpad? (pad bs) = some bs := by
  have lt := Nat.mod_lt bs.length (by decide : 16 > 0)
  have last : ((pad bs).getLastD 0).toNat = 16 - bs.length % 16 := by
    rw [pad, show 16 - bs.length % 16 = (15 - bs.length % 16) + 1 by omega,
      List.replicate_succ', ← List.append_assoc]
    simp
    omega
  have length : (pad bs).length = bs.length + (16 - bs.length % 16) := by simp [pad]
  have keep : bs.length + (16 - bs.length % 16) - (16 - bs.length % 16) = bs.length := by omega
  have tail : (pad bs).drop bs.length = List.replicate (16 - bs.length % 16)
      (UInt8.ofNat (16 - bs.length % 16)) := by simp [pad]
  have front : (pad bs).take bs.length = bs := by simp [pad]
  simp only [unpad?, last, length, keep, tail, front]
  rw [if_pos]
  refine ⟨by omega, by omega, by omega, ?_⟩
  simp

end Aes

def aesSeal (key start message : Bytes) : Bytes :=
  Aes.encipherChain (Aes.roundKeys key) start (Bytes.chunks 16 (Aes.pad message))

def aesUnseal? (key start sealed : Bytes) : Option Bytes :=
  if sealed.length % 16 = 0 then
    Aes.unpad? (Aes.decipherChain (Aes.roundKeys key) start (Bytes.chunks 16 sealed))
  else none

end CertKeeper.Crypto
