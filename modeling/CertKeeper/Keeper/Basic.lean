import CertKeeper.Keeper.Prompt
import CertKeeper.Validation

/-!
# Keepers of certificates

What is needed to keep one valid certificate under each name: a store, a prompt that logs in to
it, a clock, and a policy for what is issued and what still counts as valid.
-/

namespace CertKeeper

structure Policy where
  /-- From now to the last instant of a new certificate. -/
  validity : Span
  /-- From the first instant of a new certificate to now. -/
  backdate : Span
  /-- A certificate that ends sooner than this counts as ended. -/
  grace : Span
  serialBytes : Int
deriving DecidableEq, Repr

namespace Policy

def day : Span := ⟨Span.perDay⟩

/-- A year of validity with a day of margin on both sides. -/
def standard : Policy := ⟨⟨365 * Span.perDay⟩, day, day, 8⟩

end Policy

structure Keeper (σ : Type) where
  store : KeyStore σ
  prompt : Prompt σ
  clock : σ → Instant
  suite : Suite
  policy : Policy

namespace Keeper

variable {σ α : Type}

def now (k : Keeper σ) : Action σ Instant := do return k.clock (← Action.read)

/-! ### Faults -/

def raised (error : LifecycleError) (context : Text) (e : Fault) : Fault :=
  e.retold fun t => .lifecycle error (context ++ ": " ++ t)

theorem raised_of_hasText {e : Fault} (h : e.HasText) (error : LifecycleError) (context : Text) :
    raised error context e
      = Fault.because (.lifecycle error (context ++ ": " ++ e.message)) e :=
  Fault.retold_of_hasText h _

theorem lifecycle?_raised {e : Fault} (h : e.HasText) (error : LifecycleError) (context : Text) :
    (raised error context e).failure.lifecycle? = some error := by
  rw [raised_of_hasText h]
  rfl

def unavailable (message : Text) : Fault := Fault.lifecycle .storeUnavailable message

/-- A call of the store whose own failures mean that it cannot be used; other faults go on. -/
def guarded (context : Text) (call : Action σ α) : Action σ α :=
  Action.refine call fun e =>
    if e.failure.isKeyStore then some (raised .storeUnavailable context e) else none

/-! ### Lookup -/

def find (k : Keeper σ) (name : Text) : Action σ (Option Entry) :=
  guarded ("Lookup of " ++ name.quoted ++ " failed") (k.store.findByName name)

def acquire (k : Keeper σ) : Action σ Unit := do
  let available ← guarded "Key store check failed" k.store.isAvailable
  if !available.truthy then throw (unavailable "Key store is not available")

end Keeper

end CertKeeper
