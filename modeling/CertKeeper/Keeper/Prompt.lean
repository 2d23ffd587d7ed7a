import CertKeeper.Store.Basic

/-!
# Login prompts

Who is asked when a store is locked: nobody, or a source of passwords whose answer is tried.
The answer of a prompt is a value of which only the truth counts.
-/

namespace CertKeeper

/-- A prompt logs in to the store it is given. -/
abbrev Prompt (σ : Type) := KeyStore σ → Action σ Value

namespace Prompt

variable {σ : Type}

def absent : Prompt σ := fun _ => do
  Action.log .warning "Key store is locked and no interactive login is available"
  return .bool false

/-- Tries the password that a source gives; none means that the login was cancelled. -/
def ofSource (source : Action σ (Option Text)) : Prompt σ := fun store => do
  match ← source with
  | none =>
    Action.log .info "Key store login cancelled"
    return .bool false
  | some password => store.login password

end Prompt

end CertKeeper
