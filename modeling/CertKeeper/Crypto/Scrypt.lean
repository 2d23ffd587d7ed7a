import CertKeeper.Crypto.Digest

/-!
# Memory-hard key stretching

The scrypt function: key stretching that has to keep many blocks at hand.
-/

namespace CertKeeper.Crypto

namespace Scrypt

structure Block where
  x0 : UInt32
  x1 : UInt32
  x2 : UInt32
  x3 : UInt32
  x4 : UInt32
  x5 : UInt32
  x6 : UInt32
  x7 : UInt32
  x8 : UInt32
  x9 : UInt32
  x10 : UInt32
  x11 : UInt32
  x12 : UInt32
  x13 : UInt32
  x14 : UInt32
  x15 : UInt32

instance : Inhabited Block := ⟨⟨0, 0, 0, 0, 0, 0, 0, 0, 0, 0, 0, 0, 0, 0, 0, 0⟩⟩

@[inline] def rotate (x : UInt32) (n : UInt32) : UInt32 := (x <<< n) ||| (x >>> (32 - n))

/-- Mixes the columns, then the rows. -/
def doubleRound (b : Block) : Block :=
  let x0 := b.x0
  let x1 := b.x1
  let x2 := b.x2
  let x3 := b.x3
  let x4 := b.x4
  let x5 := b.x5
  let x6 := b.x6
  let x7 := b.x7
  let x8 := b.x8
  let x9 := b.x9
  let x10 := b.x10
  let x11 := b.x11
  let x12 := b.x12
  let x13 := b.x13
  let x14 := b.x14
  let x15 := b.x15
  let x4 := x4 ^^^ rotate (x0 + x12) 7
  let x8 := x8 ^^^ rotate (x4 + x0) 9
  let x12 := x12 ^^^ rotate (x8 + x4) 13
  let x0 := x0 ^^^ rotate (x12 + x8) 18
  let x9 := x9 ^^^ rotate (x5 + x1) 7
  let x13 := x13 ^^^ rotate (x9 + x5) 9
  let x1 := x1 ^^^ rotate (x13 + x9) 13
  let x5 := x5 ^^^ rotate (x1 + x13) 18
  let x14 := x14 ^^^ rotate (x10 + x6) 7
  let x2 := x2 ^^^ rotate (x14 + x10) 9
  let x6 := x6 ^^^ rotate (x2 + x14) 13
  let x10 := x10 ^^^ rotate (x6 + x2) 18
  let x3 := x3 ^^^ rotate (x15 + x11) 7
  let x7 := x7 ^^^ rotate (x3 + x15) 9
  let x11 := x11 ^^^ rotate (x7 + x3) 13
  let x15 := x15 ^^^ rotate (x11 + x7) 18
  let x1 := x1 ^^^ rotate (x0 + x3) 7
  let x2 := x2 ^^^ rotate (x1 + x0) 9
  let x3 := x3 ^^^ rotate (x2 + x1) 13
  let x0 := x0 ^^^ rotate (x3 + x2) 18
  let x6 := x6 ^^^ rotate (x5 + x4) 7
  let x7 := x7 ^^^ rotate (x6 + x5) 9
  let x4 := x4 ^^^ rotate (x7 + x6) 13
  let x5 := x5 ^^^ rotate (x4 + x7) 18
  let x11 := x11 ^^^ rotate (x10 + x9) 7
  let x8 := x8 ^^^ rotate (x11 + x10) 9
  let x9 := x9 ^^^ rotate (x8 + x11) 13
  let x10 := x10 ^^^ rotate (x9 + x8) 18
  let x12 := x12 ^^^ rotate (x15 + x14) 7
  let x13 := x13 ^^^ rotate (x12 + x15) 9
  let x14 := x14 ^^^ rotate (x13 + x12) 13
  let x15 := x15 ^^^ rotate (x14 + x13) 18
  ⟨x0, x1, x2, x3, x4, x5, x6, x7, x8, x9, x10, x11, x12, x13, x14, x15⟩

def xor (a b : Block) : Block :=
  ⟨a.x0 ^^^ b.x0, a.x1 ^^^ b.x1, a.x2 ^^^ b.x2, a.x3 ^^^ b.x3,
    a.x4 ^^^ b.x4, a.x5 ^^^ b.x5, a.x6 ^^^ b.x6, a.x7 ^^^ b.x7,
    a.x8 ^^^ b.x8, a.x9 ^^^ b.x9, a.x10 ^^^ b.x10, a.x11 ^^^ b.x11,
    a.x12 ^^^ b.x12, a.x13 ^^^ b.x13, a.x14 ^^^ b.x14, a.x15 ^^^ b.x15⟩

def add (a b : Block) : Block :=
  ⟨a.x0 + b.x0, a.x1 + b.x1, a.x2 + b.x2, a.x3 + b.x3,
    a.x4 + b.x4, a.x5 + b.x5, a.x6 + b.x6, a.x7 + b.x7,
    a.x8 + b.x8, a.x9 + b.x9, a.x10 + b.x10, a.x11 + b.x11,
    a.x12 + b.x12, a.x13 + b.x13, a.x14 + b.x14, a.x15 + b.x15⟩

/-- Eight rounds added to their input. -/
def core (b : Block) : Block :=
  add (doubleRound (doubleRound (doubleRound (doubleRound b)))) b

/-! ### Mixing many blocks -/

/-- Chains the blocks; those at even and at odd places are collected apart, last first. -/
def chain (x : Block) : List Block → List Block → List Block → List Block × List Block × Block
  | [], even, odd => (even, odd, x)
  | [b], even, odd =>
    let y := core (xor x b)
    (y :: even, odd, y)
  | b :: c :: rest, even, odd =>
    let y := core (xor x b)
    let z := core (xor y c)
    chain z rest (y :: even) (z :: odd)

def mixBlocks (bs : List Block) : List Block :=
  let (even, odd, _) := chain (bs.getLastD default) bs [] []
  even.reverse ++ odd.reverse

def fill : Nat → List Block → Array (List Block) → List Block × Array (List Block)
  | 0, bs, kept => (bs, kept)
  | count + 1, bs, kept => fill count (mixBlocks bs) (kept.push bs)

/-- Mixes in kept states, each chosen by the state before. -/
def revisit (kept : Array (List Block)) : Nat → List Block → List Block
  | 0, bs => bs
  | count + 1, bs =>
    let choice := (bs.getLastD default).x0.toNat % kept.size
    revisit kept count (mixBlocks (List.zipWith xor bs (kept.getD choice [])))

/-! ### Bytes -/

def word : Bytes → UInt32
  | [a, b, c, d] => a.toUInt32 ||| b.toUInt32 <<< 8 ||| c.toUInt32 <<< 16 ||| d.toUInt32 <<< 24
  | _ => 0

def wordBytes (w : UInt32) : Bytes :=
  [w.toUInt8, (w >>> 8).toUInt8, (w >>> 16).toUInt8, (w >>> 24).toUInt8]

def ofBytes (bs : Bytes) : Block :=
  let w := ((Bytes.chunks 4 bs).map word).toArray
  ⟨w.getD 0 0, w.getD 1 0, w.getD 2 0, w.getD 3 0,
    w.getD 4 0, w.getD 5 0, w.getD 6 0, w.getD 7 0,
    w.getD 8 0, w.getD 9 0, w.getD 10 0, w.getD 11 0,
    w.getD 12 0, w.getD 13 0, w.getD 14 0, w.getD 15 0⟩

def bytes (b : Block) : Bytes :=
  [b.x0, b.x1, b.x2, b.x3, b.x4, b.x5, b.x6, b.x7,
    b.x8, b.x9, b.x10, b.x11, b.x12, b.x13, b.x14, b.x15].flatMap wordBytes

def mix (cost : Nat) (lane : Bytes) : Bytes :=
  let (bs, kept) := fill cost ((Bytes.chunks 64 lane).map ofBytes) (Array.emptyWithCapacity cost)
  (revisit kept cost bs).flatMap bytes

end Scrypt

/-- A key of `length` bytes; `cost` states of `2 * size` blocks are kept for each lane. -/
def scrypt (password salt : Bytes) (cost size lanes length : Nat) : Bytes :=
  let spread := pbkdf2 .sha256 password salt 1 (lanes * 128 * size)
  let mixed := (Bytes.chunks (128 * size) spread).flatMap (Scrypt.mix cost)
  pbkdf2 .sha256 password mixed 1 length

end CertKeeper.Crypto
