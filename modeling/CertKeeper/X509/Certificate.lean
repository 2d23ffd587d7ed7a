import CertKeeper.X509.PublicKey
import CertKeeper.X509.Time
import CertKeeper.Pem

/-!
# Certificates

What is read from a certificate, the strict reader, and its armour.  Main statement: the bytes
of a certificate that was read are the bytes that it was read from.
-/

namespace CertKeeper.X509

structure Certificate where
  der : Bytes
  tbs : Bytes
  serial : Int
  issuer : Name
  notBefore : Time
  notAfter : Time
  subject : Name
  key : KeyInfo
  algorithm : Algorithm
  signature : Bytes
deriving DecidableEq, Repr

namespace Certificate

/-! ### Parts of a certificate -/

def parts? (e : Der.Element) : Option (List Der.Element) :=
  if e.tag = Der.sequenceTag then Der.readAll? e.content else none

def explicit? (e : Der.Element) : Option Der.Element := Algorithm.inner? e.content

/-- A version that is written out; the first version never is. -/
def version? (e : Der.Element) : Option Nat := do
  let inner ← explicit? e
  let n ← Der.readNatural? inner.content
  if inner.tag ≠ Der.integerTag ∨ n = 0 ∨ 256 ≤ n then none else return n

def isTrue (e : Der.Element) : Bool := e.tag = 0x01 && e.content = [0xFF]

def isExtension (e : Der.Element) : Bool :=
  match parts? e with
  | some [oid, value] => (Oid.ofElement? oid).isSome && value.tag = Der.octetStringTag
  | some [oid, critical, value] =>
    (Oid.ofElement? oid).isSome && isTrue critical && value.tag = Der.octetStringTag
  | _ => false

/-- The fields after the key, each at most once and in order. -/
def closing (fields : List Der.Element) : Bool :=
  let (issuerId, fields) := Algorithm.optionalField 0x81 fields
  let (subjectId, fields) := Algorithm.optionalField 0x82 fields
  let (extensions, fields) := Algorithm.optionalField 0xA3 fields
  let bits := fun (content : Option Bytes) =>
    match content with
    | none => true
    | some bs => (Der.readBits? bs).isSome
  let sound :=
    match extensions with
    | none => true
    | some content =>
      match (Algorithm.inner? content).bind parts? with
      | some es => es.all isExtension
      | none => false
  bits issuerId && bits subjectId && sound && fields.isEmpty

def algorithm? (e : Der.Element) : Option Algorithm := do
  let a ← Algorithm.ofElement? e
  if a.sound then return a else none

structure Body where
  serial : Int
  issuer : Name
  notBefore : Time
  notAfter : Time
  subject : Name
  key : KeyInfo

def body? (fields : List Der.Element) : Option Body :=
  match fields with
  | serial :: algorithm :: issuer :: validity :: subject :: key :: rest => do
    let _ ← algorithm? algorithm
    match ← parts? validity with
    | [first, last] =>
      let b : Body := ⟨← Der.readInteger? serial.content, ← Name.ofElement? issuer,
        ← Time.ofElement? first, ← Time.ofElement? last, ← Name.ofElement? subject,
        ← KeyInfo.ofElement? key⟩
      if serial.tag = Der.integerTag ∧ closing rest then return b else none
    | _ => none
  | _ => none

/-- The version, one where it is not written, and the rest of the signed part. -/
def versioned? (fields : List Der.Element) : Option (Nat × List Der.Element) :=
  match fields with
  | [] => none
  | e :: rest => if e.tag = 0xA0 then (version? e).map fun n => (n, rest) else some (0, e :: rest)

def ofDer? (der : Bytes) : Option (Nat × Certificate) := do
  let whole ← Der.single? Der.sequenceTag der
  match ← Der.readAll? whole with
  | [tbs, algorithm, signature] =>
    let (version, fields) ← versioned? (← parts? tbs)
    let body ← body? fields
    let outer ← algorithm? algorithm
    let (_, bits) ← Der.readBits? signature.content
    if signature.tag = Der.bitStringTag then
      return (version, ⟨der, tbs.bytes, body.serial, body.issuer, body.notBefore, body.notAfter,
        body.subject, body.key, outer, bits⟩)
    else none
  | _ => none

/-- Reads a certificate of the first or the third version. -/
def ofDer (der : Bytes) : Except Fault Certificate :=
  match ofDer? der with
  | none => .error (malformed "not a certificate")
  | some (version, c) =>
    if version = 0 ∨ version = 2 then .ok c
    else .error (Fault.plain .invalidVersion
      (Text.decimal version ++ " is not a valid X509 version"))

theorem der_ofDer? {der : Bytes} {version : Nat} {c : Certificate}
    (h : ofDer? der = some (version, c)) : c.der = der := by
  simp only [ofDer?, Option.bind_eq_bind] at h
  obtain ⟨whole, _, h⟩ := Option.bind_eq_some_iff.mp h
  obtain ⟨fields, _, h⟩ := Option.bind_eq_some_iff.mp h
  split at h
  · obtain ⟨tbsParts, _, h⟩ := Option.bind_eq_some_iff.mp h
    obtain ⟨pair, _, h⟩ := Option.bind_eq_some_iff.mp h
    obtain ⟨body, _, h⟩ := Option.bind_eq_some_iff.mp h
    obtain ⟨outer, _, h⟩ := Option.bind_eq_some_iff.mp h
    obtain ⟨bits, _, h⟩ := Option.bind_eq_some_iff.mp h
    split at h
    · simp only [Option.pure_def, Option.some.injEq, Prod.mk.injEq] at h
      rw [← h.2]
    · cases h
  · cases h

theorem der_ofDer {der : Bytes} {c : Certificate} (h : ofDer der = .ok c) : c.der = der := by
  unfold ofDer at h
  split at h
  · cases h
  · next read =>
    split at h
    · cases h
      exact der_ofDer? read
    · cases h

/-! ### Armour -/

def labels : List Text := ["CERTIFICATE", "X509 CERTIFICATE"]

/-- The certificate in the first block that is one. -/
def ofPem (t : Text) : Except Fault Certificate :=
  match Pem.read? t with
  | none => .error (Fault.value "Unable to load PEM file: malformed block")
  | some [] => .error (Fault.value "Unable to load PEM file: no block")
  | some blocks =>
    match blocks.find? fun b => labels.contains b.label with
    | some b => ofDer b.data
    | none => .error (Fault.value "Valid PEM but no certificate block")

def pem (c : Certificate) : Text := Pem.Block.spell ⟨"CERTIFICATE", c.der⟩

/-! ### What a certificate says -/

def serialText (c : Certificate) : Text := Text.signed Text.hexUpper c.serial

def subjectName (c : Certificate) : Except Fault (List (List Saying)) := c.subject.read

def issuerName (c : Certificate) : Except Fault (List (List Saying)) := c.issuer.read

def publicKey (c : Certificate) : Except Fault PublicKey := PublicKey.ofInfo c.key

def keyId (c : Certificate) : Except Fault Text := return (← c.publicKey).id

def fingerprint (c : Certificate) : Text :=
  Text.join ":" ((Crypto.sha256 c.der).map fun b =>
    Text.padLeft 2 '0' (Text.hexUpper b.toNat))

end Certificate

end CertKeeper.X509
