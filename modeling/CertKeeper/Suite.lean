import CertKeeper.X509.Certificate
import CertKeeper.Crypto.Scrypt
import CertKeeper.Crypto.Aes

/-!
# The cryptographic suite

The operations on secrets that certificates and stores rest on, as one value.  Everything else
is built over an arbitrary suite, so that what is proved of it needs of the suite only the laws
that are named; `Suite.standard` is the suite that runs.
-/

namespace CertKeeper

open Crypto X509

structure PrivateKey where
  curve : Curve
  scalar : Nat
deriving DecidableEq, Repr

/-- What is drawn or chosen when a key is sealed under a password. -/
structure Sealing where
  digest : Digest
  salt : Bytes
  rounds : Nat
  start : Bytes
deriving DecidableEq, Repr

structure Suite where
  publicKey : PrivateKey → PublicKey
  sign : PrivateKey → Digest → Bytes → Bytes
  verifies : PublicKey → Algorithm → Bytes → Bytes → Bool
  /-- The verifier of a password with a salt. -/
  stretch : Bytes → Bytes → Bytes
  encipher : Sealing → Bytes → Bytes → Bytes
  decipher? : Sealing → Bytes → Bytes → Option Bytes

namespace Suite

/-! ### The suite that runs -/

def signatureBytes (s : Curve.Signature) : Bytes :=
  Der.sequence [Der.natural s.r, Der.natural s.s]

def readSignature? (bs : Bytes) : Option Curve.Signature :=
  match (Der.single? Der.sequenceTag bs).bind Der.readAll? with
  | some [r, s] =>
    match PublicKey.natural? r, PublicKey.natural? s with
    | some r, some s => some ⟨r, s⟩
    | _, _ => none
  | _ => none

def standardPublicKey (k : PrivateKey) : PublicKey :=
  .curve k.curve ((k.curve.pointOf? k.scalar).getD k.curve.generator)

def standardSign (k : PrivateKey) (d : Digest) (message : Bytes) : Bytes :=
  signatureBytes (k.curve.sign d k.scalar (d.run message))

/-- The algorithm has to fit the kind of the key; keys on Edwards curves have but one. -/
def standardVerifies (k : PublicKey) (a : Algorithm) (message signature : Bytes) : Bool :=
  match k, a.scheme? with
  | .curve c q, some (.curve d) =>
    match readSignature? signature with
    | some s => c.verify q (d.run message) s
    | none => false
  | .rsa k, some (.rsaNamed d) => verifyNamed k d message signature
  | .rsa k, some (.rsaMasked m) =>
    verifyMasked k m.digest m.maskDigest m.saltLength message signature
  | .edwards c key, _ => c.verify key message signature
  | _, _ => false

/-- The cost of a verifier: how many states are kept, their size, and how many lanes. -/
def stretchCost : Nat := 0x4000

def standard : Suite where
  publicKey := standardPublicKey
  sign := standardSign
  verifies := standardVerifies
  stretch salt password := scrypt password salt stretchCost 8 1 32
  encipher how password message :=
    aesSeal (pbkdf2 how.digest password how.salt how.rounds 32) how.start message
  decipher? how password sealed :=
    aesUnseal? (pbkdf2 how.digest password how.salt how.rounds 32) how.start sealed

/-- Whether a certificate carries a signature by its own key; a key that cannot be read is a
fault. -/
def selfSigned (s : Suite) (c : Certificate) : Except Fault Bool := do
  let key ← c.publicKey
  return s.verifies key c.algorithm c.tbs c.signature

end Suite

end CertKeeper
