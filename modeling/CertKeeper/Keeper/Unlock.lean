import CertKeeper.Keeper.Basic

/-!
# Unlocking

A store without a password is given the empty one; a store with a password is logged in to, once
for the process.  The question whether a login would be needed runs the same steps and stops
before the prompt.
-/

namespace CertKeeper.Keeper

variable {σ : Type}

/-- Gives a store that has no password the empty one. -/
def initializeIfNeeded (k : Keeper σ) : Action σ Unit :=
  guarded "Key store initialization failed" do
    if (← k.store.needsUserInit).truthy then
      Action.log .info "Key store has no password, initializing with empty one"
      k.store.initPassword []

/-- Whether the store is locked, in the words of the store where it says that it is not. -/
def loginRequired (k : Keeper σ) : Action σ Value :=
  guarded "Key store login state unknown" do
    let needed ← k.store.needsLogin
    if needed.truthy then return .bool (!(← k.store.isLoggedIn).truthy) else return needed

/-- Whether using the store would ask for a password. -/
def isLoginRequired (k : Keeper σ) : Action σ Value := do
  k.acquire
  k.initializeIfNeeded
  k.loginRequired

def askPrompt (k : Keeper σ) : Action σ Unit := do
  Action.log .info "Key store is locked, prompting for login"
  match ← Action.attempt (k.prompt k.store) with
  | .error e =>
    let spelled ← Action.ofExcept e.asValue
    Action.log .warning ("Login prompt failed: " ++ spelled)
    throw (Fault.because (.lifecycle .authDenied ("Key store login failed: " ++ spelled)) e)
  | .ok answer =>
    if !answer.truthy then throw (Fault.lifecycle .authDenied "Key store login was refused")

def ensureUnlocked (k : Keeper σ) : Action σ Unit := do
  if (← k.isLoginRequired).truthy then k.askPrompt

end CertKeeper.Keeper
