import CertKeeper.Crypto.Digest
import CertKeeper.Crypto.Modular

/-!
# Curves in Weierstrass form

The named curves, their groups, and signatures over them (ECDSA).  Scalars act on points in
projective coordinates, so that one inverse is enough.
-/

namespace CertKeeper.Crypto

inductive Curve where
  | p192
  | p224
  | p256
  | p384
  | p521
  | secp256k1
  | brainpool256
  | brainpool384
  | brainpool512
deriving DecidableEq, Repr

namespace Curve

/-- The field, the coefficients of `y² = x³ + a x + b`, a point and the order of its group. -/
structure Parameters where
  p : Nat
  a : Nat
  b : Nat
  gx : Nat
  gy : Nat
  n : Nat

def p192Parameters : Parameters := ⟨
  0xfffffffffffffffffffffffffffffffeffffffffffffffff,
  0xfffffffffffffffffffffffffffffffefffffffffffffffc,
  0x64210519e59c80e70fa7e9ab72243049feb8deecc146b9b1,
  0x188da80eb03090f67cbf20eb43a18800f4ff0afd82ff1012,
  0x7192b95ffc8da78631011ed6b24cdd573f977a11e794811,
  0xffffffffffffffffffffffff99def836146bc9b1b4d22831⟩

def p224Parameters : Parameters := ⟨
  0xffffffffffffffffffffffffffffffff000000000000000000000001,
  0xfffffffffffffffffffffffffffffffefffffffffffffffffffffffe,
  0xb4050a850c04b3abf54132565044b0b7d7bfd8ba270b39432355ffb4,
  0xb70e0cbd6bb4bf7f321390b94a03c1d356c21122343280d6115c1d21,
  0xbd376388b5f723fb4c22dfe6cd4375a05a07476444d5819985007e34,
  0xffffffffffffffffffffffffffff16a2e0b8f03e13dd29455c5c2a3d⟩

def p256Parameters : Parameters := ⟨
  0xffffffff00000001000000000000000000000000ffffffffffffffffffffffff,
  0xffffffff00000001000000000000000000000000fffffffffffffffffffffffc,
  0x5ac635d8aa3a93e7b3ebbd55769886bc651d06b0cc53b0f63bce3c3e27d2604b,
  0x6b17d1f2e12c4247f8bce6e563a440f277037d812deb33a0f4a13945d898c296,
  0x4fe342e2fe1a7f9b8ee7eb4a7c0f9e162bce33576b315ececbb6406837bf51f5,
  0xffffffff00000000ffffffffffffffffbce6faada7179e84f3b9cac2fc632551⟩

def p384Parameters : Parameters := ⟨
  0xfffffffffffffffffffffffffffffffffffffffffffffffffffffffffffffffeffffffff0000000000000000ffffffff,
  0xfffffffffffffffffffffffffffffffffffffffffffffffffffffffffffffffeffffffff0000000000000000fffffffc,
  0xb3312fa7e23ee7e4988e056be3f82d19181d9c6efe8141120314088f5013875ac656398d8a2ed19d2a85c8edd3ec2aef,
  0xaa87ca22be8b05378eb1c71ef320ad746e1d3b628ba79b9859f741e082542a385502f25dbf55296c3a545e3872760ab7,
  0x3617de4a96262c6f5d9e98bf9292dc29f8f41dbd289a147ce9da3113b5f0b8c00a60b1ce1d7e819d7a431d7c90ea0e5f,
  0xffffffffffffffffffffffffffffffffffffffffffffffffc7634d81f4372ddf581a0db248b0a77aecec196accc52973⟩

def p521Parameters : Parameters := ⟨
  0x1ffffffffffffffffffffffffffffffffffffffffffffffffffffffffffffffffffffffffffffffffffffffffffffffffffffffffffffffffffffffffffffffffff,
  0x1fffffffffffffffffffffffffffffffffffffffffffffffffffffffffffffffffffffffffffffffffffffffffffffffffffffffffffffffffffffffffffffffffc,
  0x51953eb9618e1c9a1f929a21a0b68540eea2da725b99b315f3b8b489918ef109e156193951ec7e937b1652c0bd3bb1bf073573df883d2c34f1ef451fd46b503f00,
  0xc6858e06b70404e9cd9e3ecb662395b4429c648139053fb521f828af606b4d3dbaa14b5e77efe75928fe1dc127a2ffa8de3348b3c1856a429bf97e7e31c2e5bd66,
  0x11839296a789a3bc0045c8a5fb42c7d1bd998f54449579b446817afbd17273e662c97ee72995ef42640c550b9013fad0761353c7086a272c24088be94769fd16650,
  0x1fffffffffffffffffffffffffffffffffffffffffffffffffffffffffffffffffa51868783bf2f966b7fcc0148f709a5d03bb5c9b8899c47aebb6fb71e91386409⟩

def secp256k1Parameters : Parameters := ⟨
  0xfffffffffffffffffffffffffffffffffffffffffffffffffffffffefffffc2f,
  0x0,
  0x7,
  0x79be667ef9dcbbac55a06295ce870b07029bfcdb2dce28d959f2815b16f81798,
  0x483ada7726a3c4655da4fbfc0e1108a8fd17b448a68554199c47d08ffb10d4b8,
  0xfffffffffffffffffffffffffffffffebaaedce6af48a03bbfd25e8cd0364141⟩

def brainpool256Parameters : Parameters := ⟨
  0xa9fb57dba1eea9bc3e660a909d838d726e3bf623d52620282013481d1f6e5377,
  0x7d5a0975fc2c3057eef67530417affe7fb8055c126dc5c6ce94a4b44f330b5d9,
  0x26dc5c6ce94a4b44f330b5d9bbd77cbf958416295cf7e1ce6bccdc18ff8c07b6,
  0x8bd2aeb9cb7e57cb2c4b482ffc81b7afb9de27e1e3bd23c23a4453bd9ace3262,
  0x547ef835c3dac4fd97f8461a14611dc9c27745132ded8e545c1d54c72f046997,
  0xa9fb57dba1eea9bc3e660a909d838d718c397aa3b561a6f7901e0e82974856a7⟩

def brainpool384Parameters : Parameters := ⟨
  0x8cb91e82a3386d280f5d6f7e50e641df152f7109ed5456b412b1da197fb71123acd3a729901d1a71874700133107ec53,
  0x7bc382c63d8c150c3c72080ace05afa0c2bea28e4fb22787139165efba91f90f8aa5814a503ad4eb04a8c7dd22ce2826,
  0x4a8c7dd22ce28268b39b55416f0447c2fb77de107dcd2a62e880ea53eeb62d57cb4390295dbc9943ab78696fa504c11,
  0x1d1c64f068cf45ffa2a63a81b7c13f6b8847a3e77ef14fe3db7fcafe0cbd10e8e826e03436d646aaef87b2e247d4af1e,
  0x8abe1d7520f9c2a45cb1eb8e95cfd55262b70b29feec5864e19c054ff99129280e4646217791811142820341263c5315,
  0x8cb91e82a3386d280f5d6f7e50e641df152f7109ed5456b31f166e6cac0425a7cf3ab6af6b7fc3103b883202e9046565⟩

def brainpool512Parameters : Parameters := ⟨
  0xaadd9db8dbe9c48b3fd4e6ae33c9fc07cb308db3b3c9d20ed6639cca703308717d4d9b009bc66842aecda12ae6a380e62881ff2f2d82c68528aa6056583a48f3,
  0x7830a3318b603b89e2327145ac234cc594cbdd8d3df91610a83441caea9863bc2ded5d5aa8253aa10a2ef1c98b9ac8b57f1117a72bf2c7b9e7c1ac4d77fc94ca,
  0x3df91610a83441caea9863bc2ded5d5aa8253aa10a2ef1c98b9ac8b57f1117a72bf2c7b9e7c1ac4d77fc94cadc083e67984050b75ebae5dd2809bd638016f723,
  0x81aee4bdd82ed9645a21322e9c4c6a9385ed9f70b5d916c1b43b62eef4d0098eff3b1f78e2d0d48d50d1687b93b97d5f7c6d5047406a5e688b352209bcb9f822,
  0x7dde385d566332ecc0eabfa9cf7822fdf209f70024a57b1aa000c55b881f8111b2dcde494a5f485e5bca4bd88a2763aed1ca2b2fa8f0540678cd1e0f3ad80892,
  0xaadd9db8dbe9c48b3fd4e6ae33c9fc07cb308db3b3c9d20ed6639cca70330870553e5c414ca92619418661197fac10471db1d381085ddaddb58796829ca90069⟩

def parameters : Curve → Parameters
  | p192 => p192Parameters
  | p224 => p224Parameters
  | p256 => p256Parameters
  | p384 => p384Parameters
  | p521 => p521Parameters
  | secp256k1 => secp256k1Parameters
  | brainpool256 => brainpool256Parameters
  | brainpool384 => brainpool384Parameters
  | brainpool512 => brainpool512Parameters

def name : Curve → String
  | p192 => "secp192r1"
  | p224 => "secp224r1"
  | p256 => "secp256r1"
  | p384 => "secp384r1"
  | p521 => "secp521r1"
  | secp256k1 => "secp256k1"
  | brainpool256 => "brainpoolP256r1"
  | brainpool384 => "brainpoolP384r1"
  | brainpool512 => "brainpoolP512r1"

def arcs : Curve → List Nat
  | p192 => [1, 2, 840, 10045, 3, 1, 1]
  | p224 => [1, 3, 132, 0, 33]
  | p256 => [1, 2, 840, 10045, 3, 1, 7]
  | p384 => [1, 3, 132, 0, 34]
  | p521 => [1, 3, 132, 0, 35]
  | secp256k1 => [1, 3, 132, 0, 10]
  | brainpool256 => [1, 3, 36, 3, 3, 2, 8, 1, 1, 7]
  | brainpool384 => [1, 3, 36, 3, 3, 2, 8, 1, 1, 11]
  | brainpool512 => [1, 3, 36, 3, 3, 2, 8, 1, 1, 13]

def all : List Curve :=
  [p192, p224, p256, p384, p521, secp256k1,
    brainpool256, brainpool384, brainpool512]

theorem mem_all (c : Curve) : c ∈ all := by cases c <;> simp [all]

def width (c : Curve) : Nat := (c.parameters.p.log2 + 8) / 8

/-! ### Points -/

structure Point where
  x : Nat
  y : Nat
deriving DecidableEq, Repr

def holds (c : Curve) (q : Point) : Bool :=
  let k := c.parameters
  q.x < k.p && q.y < k.p &&
    q.y * q.y % k.p = (q.x * q.x % k.p * q.x + k.a * q.x + k.b) % k.p

def generator (c : Curve) : Point := ⟨c.parameters.gx, c.parameters.gy⟩

/-- Projective coordinates of weights two, three and one; infinity has `z = 0`. -/
structure Jacobian where
  x : Nat
  y : Nat
  z : Nat

def Jacobian.infinity : Jacobian := ⟨1, 1, 0⟩

def Jacobian.double (p a : Nat) (q : Jacobian) : Jacobian :=
  let yy := q.y * q.y % p
  let s := 4 * q.x * yy % p
  let zz := q.z * q.z % p
  let m := (3 * q.x * q.x + a * (zz * zz % p)) % p
  let x := subMod (m * m) (2 * s) p
  ⟨x, subMod (m * subMod s x p) (8 * yy * yy) p, 2 * q.y * q.z % p⟩

def Jacobian.add (p a : Nat) (q r : Jacobian) : Jacobian :=
  if q.z = 0 then r
  else if r.z = 0 then q
  else
    let qzz := q.z * q.z % p
    let rzz := r.z * r.z % p
    let u := q.x * rzz % p
    let v := r.x * qzz % p
    let s := q.y * (rzz * r.z % p) % p
    let t := r.y * (qzz * q.z % p) % p
    if u = v then (if s = t then Jacobian.double p a q else Jacobian.infinity)
    else
      let h := subMod v u p
      let d := subMod t s p
      let hh := h * h % p
      let hhh := hh * h % p
      let uhh := u * hh % p
      let x := subMod (d * d) (hhh + 2 * uhh) p
      ⟨x, subMod (d * subMod uhh x p) (s * hhh) p, q.z * r.z % p * h % p⟩

def Jacobian.times (p a : Nat) (q : Jacobian) (scalar : Nat) : Nat → Jacobian
  | 0 => Jacobian.infinity
  | bits + 1 =>
    let rest := Jacobian.times p a q (scalar / 2) bits
    let twice := Jacobian.double p a rest
    if scalar % 2 = 1 then Jacobian.add p a twice q else twice

def Jacobian.point? (p : Nat) (q : Jacobian) : Option Point :=
  if q.z % p = 0 then none
  else
    let i := invMod q.z p
    let ii := i * i % p
    some ⟨q.x * ii % p, q.y * (ii * i % p) % p⟩

def multiple (c : Curve) (q : Point) (scalar : Nat) : Jacobian :=
  Jacobian.times c.parameters.p c.parameters.a ⟨q.x, q.y, 1⟩ scalar (scalar.log2 + 1)

/-- The point of a scalar; a multiple of the order has none. -/
def pointOf? (c : Curve) (scalar : Nat) : Option Point :=
  (c.multiple c.generator (scalar % c.parameters.n)).point? c.parameters.p

/-! ### Spelling of points -/

def pointBytes (c : Curve) (q : Point) : Bytes :=
  0x04 :: Bytes.ofNat c.width q.x ++ Bytes.ofNat c.width q.y

def readPoint? (c : Curve) (bs : Bytes) : Option Point :=
  let k := c.parameters
  match bs with
  | mark :: rest =>
    if mark = 0x04 ∧ rest.length = 2 * c.width then
      let q : Point := ⟨Bytes.toNat (rest.take c.width), Bytes.toNat (rest.drop c.width)⟩
      if c.holds q then some q else none
    else if (mark = 0x02 ∨ mark = 0x03) ∧ rest.length = c.width then do
      let x := Bytes.toNat rest
      let root ← sqrtMod? (x * x % k.p * x + k.a * x + k.b) k.p
      let y := if root % 2 = mark.toNat % 2 then root else k.p - root
      let q : Point := ⟨x, y⟩
      if c.holds q then some q else none
    else none
  | [] => none

/-! ### Signatures -/

/-- The leading bits of a digest, as many as the order has. -/
def hashed (c : Curve) (digest : Bytes) : Nat :=
  let bits := c.parameters.n.log2 + 1
  let excess := 8 * digest.length - bits
  Bytes.toNat digest / Nat.pow 2 excess

structure Signature where
  r : Nat
  s : Nat
deriving DecidableEq, Repr

def verify (c : Curve) (q : Point) (digest : Bytes) (sig : Signature) : Bool :=
  let k := c.parameters
  if 1 ≤ sig.r && sig.r < k.n && 1 ≤ sig.s && sig.s < k.n then
    let w := invMod sig.s k.n
    let sum := Jacobian.add k.p k.a (c.multiple c.generator (c.hashed digest * w % k.n))
      (c.multiple q (sig.r * w % k.n))
    match sum.point? k.p with
    | none => false
    | some t => t.x % k.n = sig.r
  else false

/-- The state of the generator of one-time scalars. -/
structure Nonce where
  key : Bytes
  value : Bytes

def Nonce.draw (d : Digest) (key : Bytes) (length : Nat) : Nat → Bytes → Bytes × Bytes
  | 0, value => ([], value)
  | fuel + 1, value =>
    let next := hmac d key value
    if length ≤ next.length then (next.take length, next)
    else
      let (more, last) := Nonce.draw d key (length - next.length) fuel next
      (next ++ more, last)

def signFrom (c : Curve) (d : Digest) (scalar z : Nat) : Nat → Nonce → Signature
  | 0, _ => ⟨0, 0⟩
  | fuel + 1, g =>
    let k := c.parameters
    let size := (k.n.log2 + 8) / 8
    let (drawn, value) := Nonce.draw d g.key size (size + 1) g.value
    let t := c.hashed drawn
    let again : Nonce :=
      let key := hmac d g.key (value ++ [0])
      ⟨key, hmac d key value⟩
    let candidate :=
      if 1 ≤ t ∧ t < k.n then (c.pointOf? t).map fun q =>
        (q.x % k.n, invMod t k.n * (z + q.x % k.n * scalar) % k.n)
      else none
    match candidate with
    | some (r, s) => if r = 0 ∨ s = 0 then signFrom c d scalar z fuel again else ⟨r, s⟩
    | none => signFrom c d scalar z fuel again

/-- Signs a digest; the one-time scalar is drawn from the key and the digest (RFC 6979). -/
def sign (c : Curve) (d : Digest) (scalar : Nat) (digest : Bytes) : Signature :=
  let k := c.parameters
  let size := (k.n.log2 + 8) / 8
  let z := c.hashed digest
  let seed := Bytes.ofNat size scalar ++ Bytes.ofNat size (z % k.n)
  let zero : Bytes := List.replicate d.size 0
  let one : Bytes := List.replicate d.size 1
  let key := hmac d zero (one ++ 0 :: seed)
  let value := hmac d key one
  let key2 := hmac d key (value ++ 1 :: seed)
  signFrom c d scalar z 100 ⟨key2, hmac d key2 value⟩

end Curve

end CertKeeper.Crypto
