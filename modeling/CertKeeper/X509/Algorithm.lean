import CertKeeper.X509.Name
import CertKeeper.Crypto.Digest

/-!
# Algorithm identifiers

The names of algorithms with their parameters, which parameters each name admits, and which
signature scheme a name stands for.
-/

namespace CertKeeper.X509

open Crypto (Digest)

structure Algorithm where
  oid : Oid
  parameters : Option Der.Element
deriving DecidableEq, Repr

namespace Algorithm

def bytes (a : Algorithm) : Bytes :=
  Der.sequence [a.oid.bytes,
    match a.parameters with
    | none => []
    | some p => p.bytes]

def ofElement? (e : Der.Element) : Option Algorithm := do
  if e.tag ≠ Der.sequenceTag then none
  else
    match ← Der.readAll? e.content with
    | [oid] => return ⟨← Oid.ofElement? oid, none⟩
    | [oid, p] => return ⟨← Oid.ofElement? oid, some p⟩
    | _ => none

/-! ### Registered identifiers -/

def digestOids : List (Oid × Digest) := [
  (⟨[1, 3, 14, 3, 2, 26]⟩, .sha1),
  (⟨[2, 16, 840, 1, 101, 3, 4, 2, 4]⟩, .sha224),
  (⟨[2, 16, 840, 1, 101, 3, 4, 2, 1]⟩, .sha256),
  (⟨[2, 16, 840, 1, 101, 3, 4, 2, 2]⟩, .sha384),
  (⟨[2, 16, 840, 1, 101, 3, 4, 2, 3]⟩, .sha512),
  (⟨[2, 16, 840, 1, 101, 3, 4, 2, 7]⟩, .sha3x224),
  (⟨[2, 16, 840, 1, 101, 3, 4, 2, 8]⟩, .sha3x256),
  (⟨[2, 16, 840, 1, 101, 3, 4, 2, 9]⟩, .sha3x384),
  (⟨[2, 16, 840, 1, 101, 3, 4, 2, 10]⟩, .sha3x512)]

/-- Signatures over Weierstrass curves; the digest SHA-1 is no longer taken. -/
def curveOids : List (Oid × Digest) := [
  (⟨[1, 2, 840, 10045, 4, 3, 1]⟩, .sha224),
  (⟨[1, 2, 840, 10045, 4, 3, 2]⟩, .sha256),
  (⟨[1, 2, 840, 10045, 4, 3, 3]⟩, .sha384),
  (⟨[1, 2, 840, 10045, 4, 3, 4]⟩, .sha512),
  (⟨[2, 16, 840, 1, 101, 3, 4, 3, 9]⟩, .sha3x224),
  (⟨[2, 16, 840, 1, 101, 3, 4, 3, 10]⟩, .sha3x256),
  (⟨[2, 16, 840, 1, 101, 3, 4, 3, 11]⟩, .sha3x384),
  (⟨[2, 16, 840, 1, 101, 3, 4, 3, 12]⟩, .sha3x512)]

def rsaOids : List (Oid × Digest) := [
  (⟨[1, 2, 840, 113549, 1, 1, 5]⟩, .sha1),
  (⟨[1, 3, 14, 3, 2, 29]⟩, .sha1),
  (⟨[1, 2, 840, 113549, 1, 1, 14]⟩, .sha224),
  (⟨[1, 2, 840, 113549, 1, 1, 11]⟩, .sha256),
  (⟨[1, 2, 840, 113549, 1, 1, 12]⟩, .sha384),
  (⟨[1, 2, 840, 113549, 1, 1, 13]⟩, .sha512),
  (⟨[2, 16, 840, 1, 101, 3, 4, 3, 13]⟩, .sha3x224),
  (⟨[2, 16, 840, 1, 101, 3, 4, 3, 14]⟩, .sha3x256),
  (⟨[2, 16, 840, 1, 101, 3, 4, 3, 15]⟩, .sha3x384),
  (⟨[2, 16, 840, 1, 101, 3, 4, 3, 16]⟩, .sha3x512)]

def maskedRsaOid : Oid := ⟨[1, 2, 840, 113549, 1, 1, 10]⟩
def maskOid : Oid := ⟨[1, 2, 840, 113549, 1, 1, 8]⟩
def rsaKeyOid : Oid := ⟨[1, 2, 840, 113549, 1, 1, 1]⟩
def rsaMd5Oid : Oid := ⟨[1, 2, 840, 113549, 1, 1, 4]⟩
def curveKeyOid : Oid := ⟨[1, 2, 840, 10045, 2, 1]⟩
def dsaKeyOid : Oid := ⟨[1, 2, 840, 10040, 4, 1]⟩
def ed25519Oid : Oid := ⟨[1, 3, 101, 112]⟩
def ed448Oid : Oid := ⟨[1, 3, 101, 113]⟩
def x25519Oid : Oid := ⟨[1, 3, 101, 110]⟩
def x448Oid : Oid := ⟨[1, 3, 101, 111]⟩

def groupKeyOids : List Oid := [⟨[1, 2, 840, 113549, 1, 3, 1]⟩, ⟨[1, 2, 840, 10046, 2, 1]⟩]

/-- DSA signatures by the digest; none of them is checked here. -/
def dsaOids : List Oid := [
  ⟨[2, 16, 840, 1, 101, 3, 4, 3, 1]⟩, ⟨[2, 16, 840, 1, 101, 3, 4, 3, 2]⟩,
  ⟨[2, 16, 840, 1, 101, 3, 4, 3, 3]⟩, ⟨[2, 16, 840, 1, 101, 3, 4, 3, 4]⟩]

def lookup? (oid : Oid) (table : List (Oid × Digest)) : Option Digest :=
  (table.find? fun row => row.1 = oid).map Prod.snd

def oidOf? (d : Digest) (table : List (Oid × Digest)) : Option Oid :=
  (table.find? fun row => row.2 = d).map Prod.fst

/-! ### Masked RSA -/

structure Masking where
  digest : Digest
  maskDigest : Digest
  saltLength : Nat
deriving DecidableEq, Repr

def optionalField (tag : Byte) : List Der.Element → Option Bytes × List Der.Element
  | [] => (none, [])
  | e :: rest => if e.tag = tag then (some e.content, rest) else (none, e :: rest)

/-- The digest that an algorithm names, its parameters empty or absent. -/
def digest? (a : Algorithm) : Option Digest :=
  match a.parameters with
  | none => lookup? a.oid digestOids
  | some p => if p = ⟨Der.nullTag, []⟩ then lookup? a.oid digestOids else none

def inner? (content : Bytes) : Option Der.Element :=
  match Der.read? content with
  | some (e, []) => some e
  | _ => none

/-- Fields that are left out have their default; a default that is written out is refused. -/
def masking? (p : Der.Element) : Option Masking := do
  if p.tag ≠ Der.sequenceTag then none
  else
    let fields ← Der.readAll? p.content
    let (digestField, fields) := optionalField 0xA0 fields
    let (maskField, fields) := optionalField 0xA1 fields
    let (saltField, fields) := optionalField 0xA2 fields
    let (trailerField, fields) := optionalField 0xA3 fields
    let standard : Algorithm := ⟨⟨[1, 3, 14, 3, 2, 26]⟩, some ⟨Der.nullTag, []⟩⟩
    let digest ←
      match digestField with
      | none => some Digest.sha1
      | some content => do
        let a ← ofElement? (← inner? content)
        if a = standard then none else a.digest?
    let maskDigest ←
      match maskField with
      | none => some Digest.sha1
      | some content => do
        let a ← ofElement? (← inner? content)
        let inside ← ofElement? (← a.parameters)
        if a.oid ≠ maskOid ∨ inside = standard then none else inside.digest?
    let saltLength ←
      match saltField with
      | none => some 20
      | some content => do
        let e ← inner? content
        let n ← Der.readNatural? e.content
        if e.tag ≠ Der.integerTag ∨ n = 20 ∨ 0x10000 ≤ n then none else some n
    if trailerField.isSome ∨ fields ≠ [] then none else return ⟨digest, maskDigest, saltLength⟩

/-! ### Soundness of parameters -/

def isBare (a : Algorithm) : Bool := a.parameters.isNone

def isPlain (a : Algorithm) : Bool :=
  match a.parameters with
  | none => true
  | some p => p = ⟨Der.nullTag, []⟩

/-- A named curve, an inherited one, or one written out. -/
def namesCurve (a : Algorithm) : Bool :=
  match a.parameters with
  | none => false
  | some p => (Oid.ofElement? p).isSome || p = ⟨Der.nullTag, []⟩ || p.tag = Der.sequenceTag

def hasGroup (a : Algorithm) : Bool :=
  match a.parameters with
  | none => false
  | some p =>
    p.tag = Der.sequenceTag &&
      match Der.readAll? p.content with
      | some [x, y, z] => [x, y, z].all fun e =>
        e.tag = Der.integerTag && (Der.readNatural? e.content).isSome
      | _ => false

/-- Whether the parameters are what the identifier admits; unknown identifiers admit any. -/
def sound (a : Algorithm) : Bool :=
  if [ed25519Oid, ed448Oid, x25519Oid, x448Oid].contains a.oid then a.isBare
  else if (lookup? a.oid curveOids).isSome then a.isBare
  else if (lookup? a.oid rsaOids).isSome || (lookup? a.oid digestOids).isSome then a.isPlain
  else if a.oid = rsaKeyOid ∨ a.oid = rsaMd5Oid then a.isPlain
  else if dsaOids.contains a.oid then a.isPlain
  else if a.oid = curveKeyOid then a.namesCurve
  else if a.oid = dsaKeyOid then a.hasGroup
  else if a.oid = maskedRsaOid then
    match a.parameters with
    | none => true
    | some p => (masking? p).isSome
  else true

/-! ### Schemes -/

inductive Scheme where
  | curve (d : Digest)
  | rsaNamed (d : Digest)
  | rsaMasked (m : Masking)
deriving DecidableEq, Repr

def scheme? (a : Algorithm) : Option Scheme :=
  match lookup? a.oid curveOids with
  | some d => some (.curve d)
  | none =>
    match lookup? a.oid rsaOids with
    | some d => some (.rsaNamed d)
    | none =>
      if a.oid = maskedRsaOid then a.parameters.bind fun p => (masking? p).map Scheme.rsaMasked
      else none

def ofCurveDigest? (d : Digest) : Option Algorithm :=
  (oidOf? d curveOids).map fun oid => ⟨oid, none⟩

end Algorithm

end CertKeeper.X509
