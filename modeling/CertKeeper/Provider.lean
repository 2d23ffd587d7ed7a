import CertKeeper.Journal.Layout
import CertKeeper.Keeper.Service
import CertKeeper.Settings.Basic
import CertKeeper.Store.Directory
import CertKeeper.Store.Memory

/-!
# Providers

Which store is used, by the name that settings give it, and the service that settings describe.
-/

namespace CertKeeper

inductive Provider where
  | directory
  | memory
deriving DecidableEq, Repr

namespace Provider

def ofName (name : Text) : Except Fault Provider :=
  if name = Text.ofString "local" then .ok directory
  else if name = Text.ofString "memory" then .ok memory
  else .error (Fault.value ("Unsupported provider: " ++ name))

def storeName : Provider → String
  | directory => "LocalKeyStore"
  | memory => "MemoryKeyStore"

def standardName : Text := "local"

def standardPlace : Text := "./.localcert"

def choose {σ : Type} (name : Text) : Action σ Provider := do
  Action.log .info ("Initialized InfrastructureFactory with provider: " ++ name)
  Action.ofExcept (ofName name)

end Provider

namespace Settings

def spanOf (days : Int) : Except Fault Span :=
  match Span.days? days with
  | some s => .ok s
  | none =>
    if -0x80000000 ≤ days ∧ days < 0x80000000 then
      .error (Fault.plain .overflow ("days=" ++ Text.integer days ++
        "; must have magnitude <= " ++ Text.integer Span.maxDays))
    else .error (Fault.plain .overflow "Python int too large to convert to C int")

def policy (s : Settings) : Except Fault Policy := do
  let grace ← spanOf s.graceDays
  let validity ← spanOf s.validityDays
  let backdate ← spanOf s.backdateDays
  return ⟨validity, backdate, grace, s.serialBytes⟩

def sink (s : Settings) : Except Fault Journal.Sink :=
  Journal.Sink.ofSettings s.logLevel s.logFormat

/-- The prompt of the settings: it gives the password that they hold, if they hold one. -/
def prompt {σ : Type} (s : Settings) : Prompt σ :=
  if s.keyStorePassword.isEmpty then Prompt.absent
  else Prompt.ofSource (pure (some s.keyStorePassword))

end Settings

/-- Opens a service whose policy settings describe: the desk first, then the policy. -/
def Service.startFrom {W κ : Type} (s : Service W κ) (settings : Settings) : Action W Unit := do
  s.office.start settings.workers
  let _ ← Action.ofExcept settings.policy
  Action.log .info "Initialized LocalCertService"

end CertKeeper
