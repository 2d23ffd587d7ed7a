import CertKeeper.Bytes

/-!
# The Keccak sponge

SHA-3 of the four usual lengths and SHAKE256, over 25 lanes of 64 bits.
-/

namespace CertKeeper.Crypto

namespace Keccak

/-- Lane `x + 5 * y` of the state. -/
abbrev Lanes := Array UInt64

def rotate (x : UInt64) (n : UInt64) : UInt64 :=
  if n = 0 then x else (x <<< n) ||| (x >>> (64 - n))

def roundConstants : List UInt64 := [
  0x0000000000000001, 0x0000000000008082, 0x800000000000808a, 0x8000000080008000,
  0x000000000000808b, 0x0000000080000001, 0x8000000080008081, 0x8000000000008009,
  0x000000000000008a, 0x0000000000000088, 0x0000000080008009, 0x000000008000000a,
  0x000000008000808b, 0x800000000000008b, 0x8000000000008089, 0x8000000000008003,
  0x8000000000008002, 0x8000000000000080, 0x000000000000800a, 0x800000008000000a,
  0x8000000080008081, 0x8000000000008080, 0x0000000080000001, 0x8000000080008008]

def offsets : Array UInt64 := #[
  0, 1, 62, 28, 27, 36, 44, 6, 55, 20, 3, 10, 43, 25, 39, 41, 45, 15, 21, 8, 18, 2, 61, 56, 14]

def lane (s : Lanes) (i : Nat) : UInt64 := s.getD i 0

/-- Column parities spread to both neighbours. -/
def theta (s : Lanes) : Lanes :=
  let column := fun x => lane s x ^^^ lane s (x + 5) ^^^ lane s (x + 10) ^^^ lane s (x + 15) ^^^
    lane s (x + 20)
  let c := ((List.range 5).map column).toArray
  let d := ((List.range 5).map fun x => lane c ((x + 4) % 5) ^^^ rotate (lane c ((x + 1) % 5)) 1)
    |>.toArray
  ((List.range 25).map fun i => lane s i ^^^ lane d (i % 5)).toArray

/-- Rotates the lanes and moves them about. -/
def rhoPi (s : Lanes) : Lanes :=
  ((List.range 25).map fun i =>
    let x := i % 5
    let y := i / 5
    let j := (x + 3 * y) % 5 + 5 * x
    rotate (lane s j) (lane offsets j)).toArray

/-- The step that is not linear. -/
def chi (s : Lanes) : Lanes :=
  ((List.range 25).map fun i =>
    let row := i / 5 * 5
    lane s i ^^^ (~~~(lane s (row + (i + 1) % 5)) &&& lane s (row + (i + 2) % 5))).toArray

def permute (s : Lanes) : Lanes :=
  roundConstants.foldl
    (fun s constant => (chi (rhoPi (theta s))).modify 0 (· ^^^ constant)) s

def absorb (s : Lanes) (block : Bytes) : Lanes :=
  let words := (Bytes.chunks 8 block).map fun w => UInt64.ofNat (Bytes.toNat w.reverse)
  let mixed := (List.range 25).map fun i => lane s i ^^^ words.getD i 0
  permute mixed.toArray

def laneBytes (s : Lanes) : Bytes := s.toList.flatMap fun w => (Bytes.ofNat 8 w.toNat).reverse

def squeeze (rate : Nat) : Nat → Lanes → Bytes
  | 0, _ => []
  | count + 1, s => (laneBytes s).take rate ++ squeeze rate count (permute s)

/-- The message, the bits that tell the use apart, and a last one at the end of a block. -/
def pad (rate : Nat) (use : Byte) (message : Bytes) : Bytes :=
  let missing := rate - message.length % rate
  if missing = 1 then message ++ [use ||| 0x80]
  else message ++ use :: List.replicate (missing - 2) 0 ++ [0x80]

def sponge (rate : Nat) (use : Byte) (length : Nat) (message : Bytes) : Bytes :=
  let start : Lanes := Array.replicate 25 0
  let s := (Bytes.chunks rate (pad rate use message)).foldl absorb start
  (squeeze rate (length / rate + 1) s).take length

end Keccak

def sha3 (length : Nat) (message : Bytes) : Bytes :=
  Keccak.sponge (200 - 2 * length) 0x06 length message

def shake256 (length : Nat) (message : Bytes) : Bytes := Keccak.sponge 136 0x1F length message

end CertKeeper.Crypto
