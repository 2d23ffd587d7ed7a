import CertKeeper.Keeper.Issue

/-!
# Obtaining certificates

The certificate under a name if it is valid, else a new one; and the end of all of them.
-/

namespace CertKeeper.Keeper

variable {σ : Type}

def isReusable (k : Keeper σ) (name : Text) (e : Entry) : Action σ Bool := do
  let serial := e.certificate.serialText
  match Validation.check k.suite k.policy.grace (← k.now) e.certificate (.text name) with
  | .ok () =>
    Action.log .debug ("Reusing certificate " ++ serial ++ " for " ++ name.quoted)
    return true
  | .error e' =>
    match Validation.reason? e' with
    | none => throw e'
    | some reason =>
      Action.log .info ("Stored certificate " ++ serial ++ " for " ++ name.quoted ++
        " is invalid (" ++ Text.ofString reason.word ++ "), regenerating")
      return false

/-- The valid certificate of a name, issued where there is none. -/
def obtain (k : Keeper σ) (name : Value) : Action σ Entry := do
  let name ← Action.ofExcept (Identity.check name)
  match ← k.find name with
  | none =>
    Action.log .info ("No certificate stored for " ++ name.quoted)
    k.issue name
  | some e => if ← k.isReusable name e then return e else k.issue name

def remove (k : Keeper σ) (name : Value) : Action σ Unit := do
  let name ← Action.ofExcept (Identity.check name)
  let _ ← k.removeAll name

end CertKeeper.Keeper
