import CertKeeper.Keeper.Basic

/-!
# Sweeping a name

Deletes every entry under a name, the oldest first, and the keys bound to them.  Each certificate
is checked before it is deleted: one that this keeper cannot have issued stops the sweep and
stays.  An entry that another caller deletes in between is passed over.
-/

namespace CertKeeper.Keeper

variable {σ : Type}

/-- How far a sweep has come: the number of entries it deleted and the handle of the last one. -/
structure Progress where
  removed : Nat
  last : Option Text
deriving DecidableEq, Repr

inductive Round where
  | finished (removed : Nat)
  | again (p : Progress)
deriving DecidableEq, Repr

/-- Why a certificate cannot be one of this keeper's. -/
def refuseForeign (name serial : Text) (e : Fault) (reason : Unfit) : Action σ Unit := do
  Action.log .error ("Refusing to remove certificate " ++ serial ++ " stored under " ++
    name.quoted ++ ": " ++ Text.ofString reason.word)
  throw (Fault.because (.lifecycle (.unexpectedCertificate name serial)
    ("Certificate " ++ serial ++ " under " ++ name.quoted ++
      " was not issued by this manager: " ++ e.message)) e)

def requireOwn (k : Keeper σ) (name : Text) (e : Entry) : Action σ Unit :=
  match Validation.checkIdentity k.suite e.certificate (.text name) with
  | .ok () => pure ()
  | .error e' =>
    match Validation.reason? e' with
    | some reason => refuseForeign name e.certificate.serialText e' reason
    | none => throw e'

/-- Whether an entry is still the first under a name. -/
def isStillStored (k : Keeper σ) (name : Text) (e : Entry) : Action σ Bool := do
  return (← k.find name).any fun current => current.handle = e.handle

/-- Deletes an entry; `false` where it was gone already. -/
def deleteEntry (k : Keeper σ) (name : Text) (e : Entry) : Action σ Bool := do
  match ← Action.attempt (k.store.delete e) with
  | .ok () => return true
  | .error e' =>
    if !e'.failure.isKeyStore then throw e'
    -- Another caller may have been first; the store cannot tell that from its own fault.
    if ← k.isStillStored name e then
      throw (raised .storeUnavailable
        ("Could not delete certificate " ++ e.certificate.serialText) e')
    return false

/-- One round: looks up the first entry and deletes it.  An entry that is back after its deletion
ends the sweep, so that no store can keep it going by ignoring deletions. -/
def sweepRound (k : Keeper σ) (name : Text) (p : Progress) : Action σ Round := do
  match ← k.find name with
  | none =>
    if p.removed ≠ 0 then
      Action.log .info ("Removed " ++ Text.decimal p.removed ++ " certificate(s) for " ++
        name.quoted)
    return .finished p.removed
  | some e =>
    let serial := e.certificate.serialText
    if p.last = some e.handle then
      throw (unavailable ("Certificate " ++ serial ++ " is still present after deletion"))
    k.requireOwn name e
    if ← k.deleteEntry name e then
      Action.log .debug ("Removed certificate " ++ serial ++ " for " ++ name.quoted)
      return .again ⟨p.removed + 1, some e.handle⟩
    else
      Action.log .debug ("Certificate " ++ serial ++ " for " ++ name.quoted ++
        " was removed concurrently")
      return .again p

/-- Rounds until one finishes; a store that always has another entry is given up on. -/
def sweepRounds (k : Keeper σ) (name : Text) : Nat → Progress → Action σ Nat
  | 0, _ => throw (unavailable ("The entries for " ++ name.quoted ++ " do not end"))
  | fuel + 1, p => do
    match ← k.sweepRound name p with
    | .finished removed => return removed
    | .again p => sweepRounds k name fuel p

/-- Deletes every entry under a name and gives their number. -/
def removeAll (k : Keeper σ) (name : Text) : Action σ Nat := do
  k.sweepRounds name (k.store.horizon (← Action.read)) ⟨0, none⟩

end CertKeeper.Keeper
