import CertKeeper.X509.Template

/-!
# Key files

Private keys as armoured text: plain, or enciphered under a password.  Keys of other kinds are
recognised but not read.
-/

namespace CertKeeper

open Crypto X509

namespace KeyFile

/-! ### Plain keys -/

/-- The scalar and the point of a key on a curve that is named elsewhere. -/
def scalarBytes (suite : Suite) (k : PrivateKey) : Bytes :=
  let size := (k.curve.parameters.n.log2 + 8) / 8
  Der.sequence [Der.natural 1, Der.octetString (Bytes.ofNat size k.scalar),
    match (suite.publicKey k).point? with
    | some point => Der.element 0xA1 (Der.bitString point)
    | none => []]

def plainBytes (suite : Suite) (k : PrivateKey) : Bytes :=
  Der.sequence [Der.natural 0, (PublicKey.curveAlgorithm k.curve).bytes,
    Der.octetString (scalarBytes suite k)]

/-! ### Enciphered keys -/

def passwordSchemeOid : Oid := ⟨[1, 2, 840, 113549, 1, 5, 13]⟩
def stretchOid : Oid := ⟨[1, 2, 840, 113549, 1, 5, 12]⟩
def cipherOid : Oid := ⟨[2, 16, 840, 1, 101, 3, 4, 1, 42]⟩

def keyedOids : List (Oid × Digest) := [
  (⟨[1, 2, 840, 113549, 2, 7]⟩, .sha1),
  (⟨[1, 2, 840, 113549, 2, 8]⟩, .sha224),
  (⟨[1, 2, 840, 113549, 2, 9]⟩, .sha256),
  (⟨[1, 2, 840, 113549, 2, 10]⟩, .sha384),
  (⟨[1, 2, 840, 113549, 2, 11]⟩, .sha512)]

/-- Salt and start of a sealing, taken from the key and the password alone. -/
def sealingFor (plain password : Bytes) : Sealing :=
  let seed := hmac .sha256 password plain
  ⟨.sha256, seed.take 16, 2048, seed.drop 16⟩

def sequenceElement (parts : List Bytes) : Der.Element := ⟨Der.sequenceTag, parts.flatten⟩

def sealingAlgorithm (how : Sealing) : Algorithm :=
  let keyed := (Algorithm.oidOf? how.digest keyedOids).getD ⟨[]⟩
  let stretch : Algorithm := ⟨stretchOid, some (sequenceElement [Der.octetString how.salt,
    Der.natural how.rounds, (Algorithm.mk keyed (some ⟨Der.nullTag, []⟩)).bytes])⟩
  let cipher : Algorithm := ⟨cipherOid, some ⟨Der.octetStringTag, how.start⟩⟩
  ⟨passwordSchemeOid, some (sequenceElement [stretch.bytes, cipher.bytes])⟩

def sealedBytes (suite : Suite) (plain password : Bytes) : Bytes :=
  let how := sealingFor plain password
  Der.sequence [(sealingAlgorithm how).bytes,
    Der.octetString (suite.encipher how password plain)]

/-! ### Writing -/

def passwordLimit : Nat := 1023

def write (suite : Suite) (k : PrivateKey) (password : Option Bytes) : Except Fault Text :=
  let plain := plainBytes suite k
  match password with
  | none => .ok (Pem.Block.spell ⟨"PRIVATE KEY", plain⟩)
  | some p =>
    if passwordLimit < p.length then
      .error (Fault.value
        "Passwords longer than 1023 bytes are not supported by this backend")
    else .ok (Pem.Block.spell ⟨"ENCRYPTED PRIVATE KEY", sealedBytes suite plain p⟩)

/-! ### Reading -/

inductive Loaded where
  | curve (k : PrivateKey)
  | other
deriving DecidableEq, Repr

def content? (tag : Byte) (e : Der.Element) : Option Bytes :=
  if e.tag = tag then some e.content else none

def curveOf? (p : Der.Element) : Option Curve := do
  let oid ← Oid.ofElement? p
  Curve.all.find? fun c => Oid.mk c.arcs = oid

/-- A scalar below the order, whose point is the one that is written with it. -/
def ofScalar? (suite : Suite) (c : Curve) (scalar : Bytes) (point : Option Bytes) :
    Option PrivateKey :=
  let k : PrivateKey := ⟨c, Bytes.toNat scalar⟩
  let agrees : Bool :=
    match point with
    | none => true
    | some bits =>
      match Der.readBits? bits with
      | some (_, bs) => (c.readPoint? bs).isSome &&
          (c.readPoint? bs).map c.pointBytes == (suite.publicKey k).point?
      | none => false
  if 1 ≤ k.scalar ∧ k.scalar < c.parameters.n ∧ agrees then some k else none

/-- A scalar with its curve, which may be named outside. -/
def readScalar? (suite : Suite) (named : Option Curve) (bs : Bytes) : Option PrivateKey := do
  match ← (Der.single? Der.sequenceTag bs).bind Der.readAll? with
  | version :: scalar :: rest =>
    let (parameters, rest) := Algorithm.optionalField 0xA0 rest
    let (point, rest) := Algorithm.optionalField 0xA1 rest
    let inside := (parameters.bind Algorithm.inner?).bind curveOf?
    let c ← named.or inside
    let bits ← match point with
      | none => some none
      | some p => ((Algorithm.inner? p).bind (content? Der.bitStringTag)).map some
    if version = ⟨Der.integerTag, [1]⟩ ∧ rest.isEmpty ∧ (parameters.isNone ∨ inside = some c) then
      ofScalar? suite c (← content? Der.octetStringTag scalar) bits
    else none
  | _ => none

def readPlain? (suite : Suite) (bs : Bytes) : Option Loaded := do
  match ← (Der.single? Der.sequenceTag bs).bind Der.readAll? with
  | version :: algorithm :: key :: _ =>
    let a ← Algorithm.ofElement? algorithm
    let inner ← content? Der.octetStringTag key
    if version.tag ≠ Der.integerTag ∨ ¬ a.sound then none
    else if a.oid = Algorithm.curveKeyOid then
      (readScalar? suite (← a.parameters.bind curveOf?) inner).map Loaded.curve
    else if [Algorithm.ed25519Oid, Algorithm.ed448Oid, Algorithm.x25519Oid,
        Algorithm.x448Oid].contains a.oid then
      (Der.single? Der.octetStringTag inner).map fun _ => .other
    else if a.oid = Algorithm.dsaKeyOid ∨ Algorithm.groupKeyOids.contains a.oid then
      (Der.single? Der.integerTag inner).map fun _ => .other
    else if a.oid = Algorithm.rsaKeyOid ∨ a.oid = Algorithm.maskedRsaOid then
      (Der.single? Der.sequenceTag inner).map fun _ => .other
    else none
  | _ => none

/-- The keyed digest of a stretching, which has a default. -/
def keyedDigest? (fields : List Der.Element) : Option Digest :=
  match fields with
  | [] => some .sha1
  | [e] => do
    let a ← Algorithm.ofElement? e
    if a.isPlain then Algorithm.lookup? a.oid keyedOids else none
  | _ => none

def sealing? (a : Algorithm) : Option Sealing := do
  if a.oid ≠ passwordSchemeOid then none
  else
    match ← Der.readAll? (← (a.parameters.bind (content? Der.sequenceTag))) with
    | [stretch, cipher] =>
      let stretch ← Algorithm.ofElement? stretch
      let cipher ← Algorithm.ofElement? cipher
      if stretch.oid ≠ stretchOid ∨ cipher.oid ≠ cipherOid then none
      else
        let start ← cipher.parameters.bind (content? Der.octetStringTag)
        match ← Der.readAll? (← (stretch.parameters.bind (content? Der.sequenceTag))) with
        | salt :: rounds :: rest =>
          let rest := if (rest.head?.bind PublicKey.natural?).isSome then rest.drop 1 else rest
          if start.length = 16 then
            return ⟨← keyedDigest? rest, ← content? Der.octetStringTag salt,
              ← PublicKey.natural? rounds, start⟩
          else none
        | _ => none
    | _ => none

def readSealed? (bs : Bytes) : Option (Sealing × Bytes) := do
  match ← (Der.single? Der.sequenceTag bs).bind Der.readAll? with
  | [algorithm, sealed] =>
    return (← sealing? (← Algorithm.ofElement? algorithm), ← content? Der.octetStringTag sealed)
  | _ => none

def unreadable : Fault := Fault.value "Could not deserialize key data"

/-! ### What is not known -/

/-- Why a scalar cannot be read: it may be on a curve that is not known, named outside or inside. -/
def scalarFault (named : Option Der.Element) (bs : Bytes) : Fault :=
  match (Der.single? Der.sequenceTag bs).bind Der.readAll? with
  | some (version :: scalar :: rest) =>
    let (parameters, rest) := Algorithm.optionalField 0xA0 rest
    let (_, rest) := Algorithm.optionalField 0xA1 rest
    let inside := parameters.bind Algorithm.inner?
    let agrees : Bool := parameters.isNone || named.isNone || inside = named
    match (named.or inside).bind Oid.ofElement? with
    | some oid =>
      if version = ⟨Der.integerTag, [1]⟩ ∧ scalar.tag = Der.octetStringTag ∧ rest.isEmpty ∧ agrees ∧
          Curve.all.all fun c => Oid.mk c.arcs ≠ oid then
        PublicKey.unsupported ("Curve " ++ oid.dotted ++ " is not supported")
      else unreadable
    | none => unreadable
  | _ => unreadable

def kindOids : List Oid :=
  [Algorithm.curveKeyOid, Algorithm.rsaKeyOid, Algorithm.maskedRsaOid, Algorithm.dsaKeyOid,
    Algorithm.ed25519Oid, Algorithm.ed448Oid, Algorithm.x25519Oid, Algorithm.x448Oid] ++
    Algorithm.groupKeyOids

/-- Why a plain key cannot be read: it may be of a kind or on a curve that is not known. -/
def plainFault (bs : Bytes) : Fault :=
  match (Der.single? Der.sequenceTag bs).bind Der.readAll? with
  | some (version :: algorithm :: key :: _) =>
    match Algorithm.ofElement? algorithm, content? Der.octetStringTag key with
    | some a, some inner =>
      if version ≠ ⟨Der.integerTag, [0]⟩ ∨ ¬ a.sound then unreadable
      else if a.oid = Algorithm.curveKeyOid then scalarFault a.parameters inner
      else if kindOids.contains a.oid then unreadable
      else PublicKey.unsupported ("Unknown key type: " ++ a.oid.dotted)
    | _, _ => unreadable
  | _ => unreadable

/-! ### Files -/

def labels : List Text := ["PRIVATE KEY", "ENCRYPTED PRIVATE KEY", "EC PRIVATE KEY",
  "RSA PRIVATE KEY", "DSA PRIVATE KEY"]

/-- A plain key must not be given a password; `why` is why there is none. -/
def plainResult (found : Option Loaded) (why : Fault) (password : Option Bytes) :
    Except Fault Loaded :=
  match found with
  | none => .error why
  | some k =>
    if password.isSome then
      .error (Fault.type "Password was given but private key is not encrypted.")
    else .ok k

/-- Reads the first block that holds a private key. -/
def readBlock (suite : Suite) (b : Pem.Block) (password : Option Bytes) : Except Fault Loaded :=
  if b.label = Text.ofString "ENCRYPTED PRIVATE KEY" then
    match readSealed? b.data, password with
    | none, _ => .error unreadable
    | some _, none => .error (Fault.type "Password was not given but private key is encrypted")
    | some (how, sealed), some p =>
      match suite.decipher? how p sealed with
      | none => .error (Fault.value "Incorrect password, could not decrypt key")
      | some plain => plainResult (readPlain? suite plain) (plainFault plain) none
  else if b.label = Text.ofString "PRIVATE KEY" then
    plainResult (readPlain? suite b.data) (plainFault b.data) password
  else if b.label = Text.ofString "EC PRIVATE KEY" then
    plainResult ((readScalar? suite none b.data).map Loaded.curve) (scalarFault none b.data)
      password
  else
    plainResult ((Der.single? Der.sequenceTag b.data).map fun _ => .other) unreadable password

/-- The text of a key file; bytes outside the encoding stand for a letter that no block has. -/
def textOf (bs : Bytes) : Text :=
  match Utf8.decode? bs with
  | some t => t
  | none => bs.map fun b => CodePoint.ofNat (if b < 128 then b.toNat else 0xFFFD)

def read (suite : Suite) (bs : Bytes) (password : Option Bytes) : Except Fault Loaded :=
  match Pem.read? (textOf bs) with
  | none => .error (Fault.value "Unable to load PEM file: malformed block")
  | some blocks =>
    match blocks.find? fun b => labels.contains b.label with
    | some b => readBlock suite b password
    | none => .error (Fault.value "Valid PEM but no private key block")

end KeyFile

end CertKeeper
