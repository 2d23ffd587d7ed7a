import CertKeeper.Keeper.Sweep

/-!
# Issuing

Replaces whatever is stored under a name by a fresh key and a certificate that the key signed
itself.  A key whose certificate did not get into the store is deleted again, and what is given
back is what the store finds afterwards.
-/

namespace CertKeeper.Keeper

open X509

variable {σ : Type}

/-! ### The certificate -/

/-- A serial number is never zero. -/
def serialOf (content : Bytes) : Nat :=
  let n := Bytes.toNat content
  if n = 0 then 1 else n

theorem serialOf_pos (content : Bytes) : 0 < serialOf content := by
  simp only [serialOf]
  split <;> omega

def byteItems : List Value → Except Fault Bytes
  | [] => .ok []
  | .int i :: rest =>
    if 0 ≤ i ∧ i < 256 then (byteItems rest).map (UInt8.ofNat i.toNat :: ·)
    else .error (Fault.value "bytes must be in range(0, 256)")
  | v :: _ => .error (Fault.type
      ("'" ++ Text.ofString v.kindName ++ "' object cannot be interpreted as an integer"))

def serialOfAnswer : Value → Except Fault Nat
  | .bytes content => .ok (serialOf content)
  | .list items => (byteItems items).map serialOf
  | v => .error (Fault.type ("cannot convert '" ++ Text.ofString v.kindName ++
      "' object to bytes"))

/-- The certificate to be signed: version 3, for its own key, valid around now. -/
def template (policy : Policy) (now : Instant) (subject : Name) (key : KeyHandle) (serial : Nat) :
    Except Fault Template := do
  let first ← Validation.shift now (-policy.backdate)
  let last ← Validation.shift now policy.validity
  let t := ((Template.empty.withSubject subject).withIssuer subject).withKey key.publicKey
  let t ← (← (← t.withSerial serial).withNotBefore first).withNotAfter last
  return t.withExtensions [basicConstraints, keyUsage, subjectKeyIdentifier key.publicKey]

/-! ### The stages -/

/-- Deletes a key that nothing was bound to; that this fails is only reported. -/
def discardKey (k : Keeper σ) (key : KeyHandle) : Action σ Unit := do
  match ← Action.attempt (k.store.deleteKey key.keyId) with
  | .ok () => pure ()
  | .error e =>
    if !e.failure.isKeyStore then throw e
    Action.log .warning ("Could not discard unused key " ++ key.keyId.take 16 ++ ": " ++
      e.message)

def makeKey (k : Keeper σ) (name : Text) : Action σ KeyHandle := do
  match ← Action.attempt (k.store.generateKey .p256) with
  | .ok key => return key
  | .error e =>
    if !e.failure.isKeyStore then throw e
    Action.log .error ("Key generation for " ++ name.quoted ++ " failed: " ++ e.message)
    throw (raised .keyGenerationFailed "Key generation failed" e)

def signed (k : Keeper σ) (subject : Name) (key : KeyHandle) : Action σ Certificate := do
  let serial ← Action.ofExcept (serialOfAnswer (← k.store.randomBytes k.policy.serialBytes))
  let t ← Action.ofExcept (template k.policy (← k.now) subject key serial)
  k.store.sign key.keyId t (.known .sha256)

/-- Failures that mean that a certificate could not be signed. -/
def isSigningFailure (e : Fault) : Bool :=
  e.failure.isKeyStore || e.failure.isValue || e.failure.isType

def makeCertificate (k : Keeper σ) (name : Text) (subject : Name) (key : KeyHandle) :
    Action σ Certificate := do
  match ← Action.attempt (k.signed subject key) with
  | .ok c => return c
  | .error e =>
    if !isSigningFailure e then throw e
    -- Where the fault does not print, the key stays.
    let text ← Action.ofExcept e.asText
    Action.log .error ("Signing certificate for " ++ name.quoted ++ " failed: " ++ text)
    k.discardKey key
    throw (raised .signingFailed "Signing failed" e)

def bindCertificate (k : Keeper σ) (name : Text) (key : KeyHandle) (c : Certificate) :
    Action σ Unit := do
  match ← Action.attempt (k.store.importCertificate c name) with
  | .ok _ => pure ()
  | .error e =>
    if !e.failure.isKeyStore then throw e
    Action.log .error ("Importing certificate for " ++ name.quoted ++ " failed: " ++ e.message)
    k.discardKey key
    throw (raised .importFailed "Import failed" e)

def readBack (k : Keeper σ) (name : Text) : Action σ Entry := do
  let found ← Action.refine (k.find name) fun e =>
    if e.failure.lifecycle? = some .storeUnavailable then
      some (raised .readbackFailed "Readback failed" e)
    else none
  match found with
  | some e => return e
  | none => throw (Fault.lifecycle .readbackFailed
      ("Certificate for " ++ name.quoted ++ " missing from the store after import"))

def issue (k : Keeper σ) (name : Text) : Action σ Entry := do
  k.acquire
  let _ ← k.removeAll name
  let subject ← Action.ofExcept (identitySubject name)
  let key ← k.makeKey name
  let c ← k.makeCertificate name subject key
  k.bindCertificate name key c
  let e ← k.readBack name
  let last ← Action.ofExcept e.certificate.notAfter.instant
  Action.log .info ("Generated certificate for " ++ name.quoted ++ ": serial=" ++
    e.certificate.serialText ++ ", expires=" ++ last.spell)
  return e

end CertKeeper.Keeper
