import CertKeeper.X509.Algorithm
import CertKeeper.Crypto.Weierstrass
import CertKeeper.Crypto.Edwards
import CertKeeper.Crypto.Rsa

/-!
# Public keys

The keys that certificates hold: how they are read from a certificate and written back, and the
identifier under which a store keeps the private half.
-/

namespace CertKeeper.X509

open Crypto (Curve EdwardsCurve RsaKey)

inductive PublicKey where
  | curve (c : Curve) (q : Curve.Point)
  | rsa (k : RsaKey)
  | edwards (c : EdwardsCurve) (key : Bytes)
  | other (algorithm : Algorithm) (key : Bytes)
deriving DecidableEq, Repr

structure KeyInfo where
  algorithm : Algorithm
  key : Bytes
deriving DecidableEq, Repr

namespace KeyInfo

def bytes (i : KeyInfo) : Bytes := Der.sequence [i.algorithm.bytes, Der.bitString i.key]

def ofElement? (e : Der.Element) : Option KeyInfo := do
  if e.tag ≠ Der.sequenceTag then none
  else
    match ← Der.readAll? e.content with
    | [algorithm, bits] =>
      let a ← Algorithm.ofElement? algorithm
      let (_, key) ← Der.readBits? bits.content
      if bits.tag = Der.bitStringTag ∧ a.sound then return ⟨a, key⟩ else none
    | _ => none

end KeyInfo

namespace PublicKey

/-! ### Writing -/

def curveAlgorithm (c : Curve) : Algorithm :=
  ⟨Algorithm.curveKeyOid, some ⟨Der.oidTag, (Oid.mk c.arcs).content⟩⟩

def edwardsOid : EdwardsCurve → Oid
  | .ed25519 => Algorithm.ed25519Oid
  | .ed448 => Algorithm.ed448Oid

/-- The canonical form of a key; points have both coordinates. -/
def info : PublicKey → KeyInfo
  | curve c q => ⟨curveAlgorithm c, c.pointBytes q⟩
  | rsa k => ⟨⟨Algorithm.rsaKeyOid, some ⟨Der.nullTag, []⟩⟩,
      Der.sequence [Der.natural k.modulus, Der.natural k.exponent]⟩
  | edwards c key => ⟨⟨edwardsOid c, none⟩, key⟩
  | other algorithm key => ⟨algorithm, key⟩

/-- The identifier of a key: the digest of its canonical form. -/
def id (k : PublicKey) : Text := Text.ofString (Bytes.hex (Crypto.sha256 k.info.bytes))

/-! ### Reading -/

def unsupported (message : Text) : Fault := Fault.plain .unsupported message

def natural? (e : Der.Element) : Option Nat :=
  if e.tag = Der.integerTag then Der.readNatural? e.content else none

def readRsa (key : Bytes) : Except Fault PublicKey :=
  match (Der.single? Der.sequenceTag key).bind Der.readAll? with
  | some [n, e] =>
    match natural? n, natural? e with
    | some n, some e => .ok (rsa ⟨n, e⟩)
    | _, _ => .error (malformed "invalid number in a key")
  | _ => .error (malformed "invalid key")

def readCurve (parameters : Option Der.Element) (key : Bytes) : Except Fault PublicKey :=
  match parameters.bind Oid.ofElement? with
  | none => .error (Fault.value "ECDSA keys with explicit parameters are unsupported at this time")
  | some oid =>
    match Curve.all.find? fun c => Oid.mk c.arcs = oid with
    | none => .error (unsupported ("Curve " ++ oid.dotted ++ " is not supported"))
    | some c =>
      match c.readPoint? key with
      | some q => .ok (curve c q)
      | none => .error (Fault.value "Invalid key")

def readFixed (size : Nat) (key : Bytes) (k : PublicKey) : Except Fault PublicKey :=
  if key.length = size then .ok k else .error (Fault.value "Invalid key")

def ofInfo (i : KeyInfo) : Except Fault PublicKey :=
  let oid := i.algorithm.oid
  if oid = Algorithm.curveKeyOid then readCurve i.algorithm.parameters i.key
  else if oid = Algorithm.rsaKeyOid ∨ oid = Algorithm.maskedRsaOid then readRsa i.key
  else if oid = Algorithm.ed25519Oid then readFixed 32 i.key (edwards .ed25519 i.key)
  else if oid = Algorithm.ed448Oid then readFixed 57 i.key (edwards .ed448 i.key)
  else if oid = Algorithm.x25519Oid then readFixed 32 i.key (other i.algorithm i.key)
  else if oid = Algorithm.x448Oid then readFixed 56 i.key (other i.algorithm i.key)
  else if oid = Algorithm.dsaKeyOid then
    match Der.single? Der.integerTag i.key with
    | some _ => .ok (other i.algorithm i.key)
    | none => .error (malformed "invalid key")
  else .error (unsupported ("Unknown key type: " ++ oid.dotted))

def point? : PublicKey → Option Bytes
  | curve c q => some (c.pointBytes q)
  | _ => none

end PublicKey

end CertKeeper.X509
