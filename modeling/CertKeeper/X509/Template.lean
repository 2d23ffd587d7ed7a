import CertKeeper.Suite

/-!
# Certificates to be made

A certificate in the making: its parts are set one by one, each is checked when it is set, and
signing asks for all of them.
-/

namespace CertKeeper.X509

open Crypto (Digest)

/-! ### Subjects -/

def commonNameLimit : Nat := 64

def utf8Type : Byte := 0x0C

def Name.ofCommonName (content : Bytes) : Name := ⟨[[⟨commonName, utf8Type, content⟩]]⟩

/-- The subject that a name stands for: a common name of 1 to 64 bytes. -/
def identitySubject (name : Text) : Except Fault Name :=
  match Utf8.encode name with
  | .error f => .error (Fault.of (.encoding f))
  | .ok content =>
    if 1 ≤ content.length ∧ content.length ≤ commonNameLimit then .ok (Name.ofCommonName content)
    else .error (Fault.value ("Attribute's length must be >= 1 and <= 64, but it was " ++
      Text.decimal content.length))

/-! ### Extensions -/

structure Extension where
  oid : Oid
  critical : Bool
  content : Bytes
deriving DecidableEq, Repr

def Extension.bytes (e : Extension) : Bytes :=
  Der.sequence [e.oid.bytes, if e.critical then Der.element 0x01 [0xFF] else [],
    Der.octetString e.content]

/-- The key may not sign certificates. -/
def basicConstraints : Extension := ⟨⟨[2, 5, 29, 19]⟩, true, Der.sequence []⟩

def keyUsage : Extension := ⟨⟨[2, 5, 29, 15]⟩, true, Der.element Der.bitStringTag [7, 0x80]⟩

def subjectKeyIdentifier (k : PublicKey) : Extension :=
  ⟨⟨[2, 5, 29, 14]⟩, false, Der.octetString (Crypto.sha1 k.info.key)⟩

/-! ### Templates -/

/-- The parts that have been set; times are wall readings at universal time. -/
structure Template where
  subject : Option Name
  issuer : Option Name
  key : Option PublicKey
  serial : Option Nat
  notBefore : Option Int
  notAfter : Option Int
  extensions : List Extension
deriving DecidableEq, Repr

namespace Template

def empty : Template := ⟨none, none, none, none, none, none, []⟩

def withSubject (t : Template) (n : Name) : Template := { t with subject := some n }

def withIssuer (t : Template) (n : Name) : Template := { t with issuer := some n }

def withKey (t : Template) (k : PublicKey) : Template := { t with key := some k }

def withExtensions (t : Template) (es : List Extension) : Template :=
  { t with extensions := t.extensions ++ es }

def serialBits : Nat := 159

def withSerial (t : Template) (n : Int) : Except Fault Template :=
  if n ≤ 0 then .error (Fault.value "The serial number should be positive.")
  else if Int.pow 2 serialBits ≤ n then
    .error (Fault.value "The serial number should not be more than 159 bits.")
  else .ok { t with serial := some n.toNat }

/-- The earliest wall reading of a certificate, the start of the year 1950. -/
def earliest : Int := Instant.wallOf 1950 1 1 0 0 0 0

/-- The wall reading at universal time, where the calendar has it. -/
def universalWall (i : Instant) : Except Fault Int :=
  if Instant.inCalendar i.universal then .ok i.universal
  else .error (Fault.plain .overflow "date value out of range")

def withNotBefore (t : Template) (i : Instant) : Except Fault Template := do
  let wall ← universalWall i
  if wall < earliest then
    .error (Fault.value "The not valid before date must be on or after 1950 January 1).")
  else if t.notAfter.any (· < wall) then
    .error (Fault.value
      "The not valid before date must be before the not valid after date.")
  else return { t with notBefore := some wall }

def withNotAfter (t : Template) (i : Instant) : Except Fault Template := do
  let wall ← universalWall i
  if wall < earliest then
    .error (Fault.value "The not valid after date must be on or after 1950 January 1.")
  else if t.notBefore.any (wall < ·) then
    .error (Fault.value
      "The not valid after date must be after the not valid before date.")
  else return { t with notAfter := some wall }

/-! ### Signing -/

structure Complete where
  subject : Name
  issuer : Name
  serial : Nat
  notBefore : Int
  notAfter : Int
  key : PublicKey
  extensions : List Extension
deriving DecidableEq, Repr

def missing (what : String) : Fault :=
  Fault.value ("A certificate must have " ++ Text.ofString what)

def complete (t : Template) : Except Fault Complete :=
  match t.subject with
  | none => .error (missing "a subject name")
  | some subject =>
  match t.issuer with
  | none => .error (missing "an issuer name")
  | some issuer =>
  match t.serial with
  | none => .error (missing "a serial number")
  | some serial =>
  match t.notBefore with
  | none => .error (missing "a not valid before time")
  | some notBefore =>
  match t.notAfter with
  | none => .error (missing "a not valid after time")
  | some notAfter =>
  match t.key with
  | none => .error (missing "a public key")
  | some key => .ok ⟨subject, issuer, serial, notBefore, notAfter, key, t.extensions⟩

def Complete.tbs (p : Complete) (a : Algorithm) : Bytes :=
  Der.sequence [
    Der.element 0xA0 (Der.natural 2),
    Der.natural p.serial,
    a.bytes,
    p.issuer.bytes,
    Der.sequence [(Time.ofWall p.notBefore).bytes, (Time.ofWall p.notAfter).bytes],
    p.subject.bytes,
    p.key.info.bytes,
    if p.extensions.isEmpty then []
    else Der.element 0xA3 (Der.sequence (p.extensions.map Extension.bytes))]

def Complete.certificate (p : Complete) (a : Algorithm) (signature : Bytes) : Certificate where
  der := Der.sequence [p.tbs a, a.bytes, Der.bitString signature]
  tbs := p.tbs a
  serial := p.serial
  issuer := p.issuer
  notBefore := Time.ofWall p.notBefore
  notAfter := Time.ofWall p.notAfter
  subject := p.subject
  key := p.key.info
  algorithm := a
  signature := signature

inductive DigestChoice where
  | absent
  | known (d : Digest)
  | unknown (name : Text)
deriving DecidableEq, Repr

def digestNames : List (String × Digest) := [
  ("SHA1", .sha1), ("SHA224", .sha224), ("SHA256", .sha256), ("SHA384", .sha384),
  ("SHA512", .sha512), ("SHA3_224", .sha3x224), ("SHA3_256", .sha3x256),
  ("SHA3_384", .sha3x384), ("SHA3_512", .sha3x512)]

/-- The choice of a name; names that are not known are reported in small letters. -/
def DigestChoice.ofName (name : Text) : DigestChoice :=
  match digestNames.find? fun d => Text.ofString d.1 = name with
  | some d => .known d.2
  | none => .unknown (name.map Text.lowerAscii)

def algorithmOf : DigestChoice → Except Fault (Digest × Algorithm)
  | .absent => .error (Fault.type "Algorithm must be a registered hash algorithm, not None.")
  | .known d =>
    match Algorithm.ofCurveDigest? d with
    | some a => .ok (d, a)
    | none => .error (PublicKey.unsupported
        "Hash algorithm \"sha1\" not supported for signatures")
  | .unknown name => .error (PublicKey.unsupported
      ("Hash algorithm \"" ++ name ++ "\" not supported for signatures"))

def sign (t : Template) (suite : Suite) (k : PrivateKey) (choice : DigestChoice) :
    Except Fault Certificate := do
  let parts ← t.complete
  let (d, a) ← algorithmOf choice
  return parts.certificate a (suite.sign k d (parts.tbs a))

end Template

end CertKeeper.X509
