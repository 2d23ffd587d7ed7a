import CertKeeper.Surroundings
import CertKeeper.X509.Template
import CertKeeper.Value

/-!
# Key stores

The interface to what owns private keys and certificates: keys are addressed by identifiers,
entries by the name they were imported under, and signing happens inside.  A store is given by its
calls on a state; nothing is promised of them here.
-/

namespace CertKeeper

open X509

structure KeyHandle where
  keyId : Text
  publicKey : PublicKey
deriving DecidableEq, Repr

/-- A stored certificate; `keyId` names the private key bound to it and is null where none is. -/
structure Entry where
  handle : Text
  name : Text
  certificate : Certificate
  keyId : Value

/-- The calls of a store.  Questions about the state of a store are answered by values, of which
only the truth counts. -/
structure KeyStore (σ : Type) where
  isAvailable : Action σ Value
  needsUserInit : Action σ Value
  initPassword : Text → Action σ Unit
  needsLogin : Action σ Value
  isLoggedIn : Action σ Value
  login : Text → Action σ Value
  findByName : Text → Action σ (Option Entry)
  /-- Deletes an entry and the key bound to it. -/
  delete : Entry → Action σ Unit
  /-- Deletes a key that no entry is bound to; one that is gone already is no fault. -/
  deleteKey : Text → Action σ Unit
  generateKey : Crypto.Curve → Action σ KeyHandle
  sign : Text → Template → Template.DigestChoice → Action σ Certificate
  importCertificate : Certificate → Text → Action σ Entry
  randomBytes : Int → Action σ Value
  /-- More lookups than this end no sweep that is going to end. -/
  horizon : σ → Nat

namespace KeyStore

variable {σ ω : Type}

def on (part : Action.Part ω σ) (s : KeyStore σ) : KeyStore ω where
  isAvailable := s.isAvailable.on part
  needsUserInit := s.needsUserInit.on part
  initPassword p := (s.initPassword p).on part
  needsLogin := s.needsLogin.on part
  isLoggedIn := s.isLoggedIn.on part
  login p := (s.login p).on part
  findByName name := (s.findByName name).on part
  delete e := (s.delete e).on part
  deleteKey id := (s.deleteKey id).on part
  generateKey c := (s.generateKey c).on part
  sign id t d := (s.sign id t d).on part
  importCertificate c name := (s.importCertificate c name).on part
  randomBytes n := (s.randomBytes n).on part
  horizon w := s.horizon (part.get w)

end KeyStore

/-! ### Faults of stores -/

namespace StoreFault

def explain (context : Text) (e : Fault) : Fault :=
  e.retold fun t => .keyStore (context ++ ": " ++ t)

theorem explain_of_hasText {e : Fault} (h : e.HasText) (context : Text) :
    explain context e = Fault.because (.keyStore (context ++ ": " ++ e.message)) e :=
  Fault.retold_of_hasText h _

theorem explain_of_not_hasText {e : Fault} (h : ¬ e.HasText) (context : Text) :
    ∃ kind m, explain context e = Fault.plain kind m := Fault.retold_of_not_hasText h _

theorem isKeyStore_explain (context : Text) (e : Fault) :
    (explain context e).failure.isKeyStore = true ↔ e.HasText := by
  by_cases text : e.HasText
  · rw [explain_of_hasText text]
    exact iff_of_true rfl text
  · obtain ⟨kind, m, thrown⟩ := explain_of_not_hasText text context
    rw [thrown]
    exact iff_of_false Bool.false_ne_true text

@[simp] theorem isKeyStore_explain_system (context : Text) (code : SystemCode) (path : Text) :
    (explain context (Fault.system code path)).failure.isKeyStore = true := rfl

theorem lifecycle?_explain (context : Text) (e : Fault) :
    (explain context e).failure.lifecycle? = none := by
  by_cases text : e.HasText
  · rw [explain_of_hasText text]
    rfl
  · obtain ⟨kind, m, thrown⟩ := explain_of_not_hasText text context
    rw [thrown]
    rfl

def ofGeneration (e : Fault) : Option Fault :=
  if e.failure.isType || e.failure.isValue || e.failure.className = Plain.unsupported.className then
    some (explain "Key generation failed" e)
  else none

def ofSigning (e : Fault) : Option Fault :=
  if e.failure.isType || e.failure.isValue then some (explain "Signing failed" e) else none

end StoreFault

end CertKeeper
