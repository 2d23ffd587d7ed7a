import CertKeeper.Crypto.Digest
import CertKeeper.Crypto.Modular

/-!
# Curves in Edwards form

The two named curves `a x² + y² = 1 + d x² y²` and the check of signatures over them (EdDSA).
-/

namespace CertKeeper.Crypto

inductive EdwardsCurve where
  | ed25519
  | ed448
deriving DecidableEq, Repr

namespace EdwardsCurve

/-- The field, the coefficients, a point and the order of the group that it generates. -/
structure Parameters where
  p : Nat
  a : Nat
  d : Nat
  x : Nat
  y : Nat
  order : Nat

def ed25519Parameters : Parameters := ⟨
  Nat.pow 2 255 - 19,
  Nat.pow 2 255 - 20,
  0x52036cee2b6ffe738cc740797779e89800700a4d4141d8ab75eb4dca135978a3,
  0x216936d3cd6e53fec0a4e231fdd6dc5c692cc7609525a7b2c9562d608f25d51a,
  0x6666666666666666666666666666666666666666666666666666666666666658,
  Nat.pow 2 252 + 27742317777372353535851937790883648493⟩

def ed448Parameters : Parameters := ⟨
  Nat.pow 2 448 - Nat.pow 2 224 - 1,
  1,
  Nat.pow 2 448 - Nat.pow 2 224 - 1 - 39081,
  224580040295924300187604334099896036246789641632564134246125461686950415467406032909029192869357953282578032075146446173674602635247710,
  298819210078481492676017930443930673437544040154080242095928241372331506189835876003536878655418784733982303233503462500531545062832660,
  Nat.pow 2 446 - 13818066809895115352007386748515426880336692474882178609894547503885⟩

def parameters : EdwardsCurve → Parameters
  | ed25519 => ed25519Parameters
  | ed448 => ed448Parameters

def width : EdwardsCurve → Nat
  | ed25519 => 32
  | ed448 => 57

/-! ### Points -/

structure Point where
  x : Nat
  y : Nat
  z : Nat

def Point.zero : Point := ⟨0, 1, 1⟩

/-- Addition, which has no exceptions. -/
def Point.add (k : Parameters) (q r : Point) : Point :=
  let a := q.z * r.z % k.p
  let b := a * a % k.p
  let c := q.x * r.x % k.p
  let d := q.y * r.y % k.p
  let e := k.d * c % k.p * d % k.p
  let f := subMod b e k.p
  let g := (b + e) % k.p
  let cross := subMod ((q.x + q.y) * (r.x + r.y)) (c + d) k.p
  ⟨a * f % k.p * cross % k.p, a * g % k.p * subMod d (k.a * c) k.p % k.p, f * g % k.p⟩

def Point.times (k : Parameters) (q : Point) (scalar : Nat) : Nat → Point
  | 0 => Point.zero
  | bits + 1 =>
    let rest := Point.times k q (scalar / 2) bits
    let twice := Point.add k rest rest
    if scalar % 2 = 1 then Point.add k twice q else twice

def Point.multiple (k : Parameters) (q : Point) (scalar : Nat) : Point :=
  Point.times k q scalar (scalar.log2 + 1)

def littleEndian (bs : Bytes) : Nat := Bytes.toNat bs.reverse

/-- A point as its ordinate, with the parity of its abscissa in the topmost bit. -/
def spellPoint (c : EdwardsCurve) (q : Point) : Bytes :=
  let k := c.parameters
  let i := invMod q.z k.p
  let x := q.x * i % k.p
  let y := q.y * i % k.p
  (Bytes.ofNat c.width (y + x % 2 * Nat.pow 2 (8 * c.width - 1))).reverse

def readPoint? (c : EdwardsCurve) (bs : Bytes) : Option Point :=
  let k := c.parameters
  let n := littleEndian bs
  let sign := n / Nat.pow 2 (8 * c.width - 1)
  let y := n % Nat.pow 2 (8 * c.width - 1)
  if bs.length ≠ c.width ∨ k.p ≤ y then none
  else do
    let top := subMod (y * y) 1 k.p
    let bottom := subMod (k.d * (y * y % k.p)) k.a k.p
    let root ← sqrtMod? (top * invMod bottom k.p) k.p
    if root = 0 ∧ sign = 1 then none
    else return ⟨if root % 2 = sign then root else k.p - root, y, 1⟩

/-! ### Signatures -/

/-- The digest of a signature's first half, the key and the message. -/
def challenge : EdwardsCurve → Bytes → Bytes
  | ed25519, bs => Crypto.sha512 bs
  | ed448, bs =>
    shake256 114 ([0x53, 0x69, 0x67, 0x45, 0x64, 0x34, 0x34, 0x38, 0, 0] ++ bs)

def verify (c : EdwardsCurve) (key message signature : Bytes) : Bool :=
  let k := c.parameters
  let first := signature.take c.width
  let s := littleEndian (signature.drop c.width)
  if signature.length ≠ 2 * c.width ∨ k.order ≤ s then false
  else
    match c.readPoint? key with
    | none => false
    | some q =>
      let h := littleEndian (c.challenge (first ++ key ++ message)) % k.order
      let negated : Point := ⟨(k.p - q.x) % k.p, q.y, q.z⟩
      let sum := Point.add k (Point.multiple k ⟨k.x, k.y, 1⟩ s) (Point.multiple k negated h)
      c.spellPoint sum == first

end EdwardsCurve

end CertKeeper.Crypto
