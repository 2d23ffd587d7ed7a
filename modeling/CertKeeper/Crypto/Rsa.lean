import CertKeeper.Crypto.Digest
import CertKeeper.Crypto.Modular

/-!
# RSA signatures

The checks of the two paddings: a digest with its name at the end of the block (PKCS #1 v1.5), and
a digest masked with a salt (PSS).
-/

namespace CertKeeper.Crypto

structure RsaKey where
  modulus : Nat
  exponent : Nat
deriving DecidableEq, Repr

namespace RsaKey

def bits (k : RsaKey) : Nat := if k.modulus = 0 then 0 else k.modulus.log2 + 1

def width (k : RsaKey) : Nat := (k.bits + 7) / 8

/-- The block that a signature stands for; a signature has exactly the length of the modulus. -/
def open? (k : RsaKey) (signature : Bytes) : Option Nat :=
  let s := Bytes.toNat signature
  if signature.length = k.width ∧ s < k.modulus then some (powMod s k.exponent k.modulus) else none

end RsaKey

/-! ### Named digests -/

def digestMark : Digest → Bytes
  | .sha1 => [0x30, 0x21, 0x30, 0x09, 0x06, 0x05, 0x2b, 0x0e, 0x03, 0x02, 0x1a, 0x05, 0x00, 0x04,
      0x14]
  | d =>
    let arc : Byte :=
      match d with
      | .sha256 => 1
      | .sha384 => 2
      | .sha512 => 3
      | .sha224 => 4
      | .sha3x224 => 7
      | .sha3x256 => 8
      | .sha3x384 => 9
      | _ => 10
    let size := UInt8.ofNat d.size
    [0x30, 0x11 + size, 0x30, 0x0d, 0x06, 0x09, 0x60, 0x86, 0x48, 0x01, 0x65, 0x03, 0x04, 0x02, arc,
      0x05, 0x00, 0x04, size]

def namedBlock (width : Nat) (d : Digest) (digest : Bytes) : Option Bytes :=
  let tail := digestMark d ++ digest
  if width < tail.length + 11 then none
  else some ([0x00, 0x01] ++ List.replicate (width - tail.length - 3) 0xff ++ 0x00 :: tail)

def verifyNamed (k : RsaKey) (d : Digest) (message signature : Bytes) : Bool :=
  match k.open? signature, namedBlock k.width d (d.run message) with
  | some m, some block => Bytes.ofNat k.width m == block
  | _, _ => false

/-! ### Masked digests -/

/-- As many bytes as wanted from digests of a seed and a counter. -/
def maskBytes (d : Digest) (seed : Bytes) (length : Nat) : Bytes :=
  ((List.range (length / d.size + 1)).flatMap fun i => d.run (seed ++ Bytes.ofNat 4 i)).take length

def clearTop (count : Nat) : Bytes → Bytes
  | [] => []
  | b :: rest => (b &&& UInt8.ofNat (255 / Nat.pow 2 count)) :: rest

def verifyMasked (k : RsaKey) (d maskDigest : Digest) (saltLength : Nat)
    (message signature : Bytes) : Bool :=
  let blockBits := k.bits - 1
  let width := (blockBits + 7) / 8
  match k.open? signature with
  | none => false
  | some m =>
    let block := Bytes.ofNat width m
    let dataLength := width - d.size - 1
    let unused := 8 * width - blockBits
    let masked := block.take dataLength
    let digest := (block.drop dataLength).take d.size
    let plain := clearTop unused (Bytes.xor masked (maskBytes maskDigest digest dataLength))
    let zeros := dataLength - saltLength - 1
    let salt := plain.drop (zeros + 1)
    decide (d.size + saltLength + 2 ≤ width) && decide (m < Nat.pow 2 blockBits) &&
      block.getLastD 0 == 0xbc && (plain.take zeros).all (· == 0) &&
      plain.getD zeros 0 == 0x01 &&
      d.run (List.replicate 8 0 ++ d.run message ++ salt) == digest

end CertKeeper.Crypto
