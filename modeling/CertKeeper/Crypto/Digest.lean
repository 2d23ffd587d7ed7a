import CertKeeper.Crypto.Sha1
import CertKeeper.Crypto.Keccak

/-!
# Digests

The digest functions by name, and keyed digests and key stretching built from them.
-/

namespace CertKeeper.Crypto

inductive Digest where
  | sha1
  | sha224
  | sha256
  | sha384
  | sha512
  | sha3x224
  | sha3x256
  | sha3x384
  | sha3x512
deriving DecidableEq, Repr

namespace Digest

def run : Digest → Bytes → Bytes
  | sha1 => Crypto.sha1
  | sha224 => Crypto.sha224
  | sha256 => Crypto.sha256
  | sha384 => Crypto.sha384
  | sha512 => Crypto.sha512
  | sha3x224 => sha3 28
  | sha3x256 => sha3 32
  | sha3x384 => sha3 48
  | sha3x512 => sha3 64

def size : Digest → Nat
  | sha1 => 20
  | sha224 | sha3x224 => 28
  | sha256 | sha3x256 => 32
  | sha384 | sha3x384 => 48
  | sha512 | sha3x512 => 64

def blockSize : Digest → Nat
  | sha1 | sha224 | sha256 => 64
  | sha384 | sha512 => 128
  | sha3x224 => 144
  | sha3x256 => 136
  | sha3x384 => 104
  | sha3x512 => 72

end Digest

/-! ### Keyed digests -/

def keyBlock (d : Digest) (key : Bytes) : Bytes :=
  let short := if d.blockSize < key.length then d.run key else key
  short ++ List.replicate (d.blockSize - short.length) 0

def hmac (d : Digest) (key message : Bytes) : Bytes :=
  let block := keyBlock d key
  d.run (block.map (· ^^^ 0x5c) ++ d.run (block.map (· ^^^ 0x36) ++ message))

/-! ### Key stretching -/

def stretchFrom (d : Digest) (password : Bytes) : Nat → Bytes → Bytes → Bytes
  | 0, _, folded => folded
  | count + 1, last, folded =>
    let next := hmac d password last
    stretchFrom d password count next (Bytes.xor folded next)

def stretchBlock (d : Digest) (password salt : Bytes) (rounds index : Nat) : Bytes :=
  let first := hmac d password (salt ++ Bytes.ofNat 4 index)
  stretchFrom d password (rounds - 1) first first

/-- A key of `length` bytes from a password (PBKDF2). -/
def pbkdf2 (d : Digest) (password salt : Bytes) (rounds length : Nat) : Bytes :=
  ((List.range ((length + d.size - 1) / d.size)).flatMap fun i =>
    stretchBlock d password salt rounds (i + 1)).take length

end CertKeeper.Crypto
