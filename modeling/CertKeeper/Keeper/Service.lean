import CertKeeper.Dispatch.Basic
import CertKeeper.Keeper.Obtain
import CertKeeper.Keeper.Unlock

/-!
# The certificate service

Requests for certificates by name.  A request is checked and the store unlocked where the caller
is; the work itself is dispatched, and its result comes back through a callback.  A store that
cannot be unlocked is reported through the same callback and nothing is dispatched.
-/

namespace CertKeeper

open Dispatch

inductive Request where
  | obtain (name : Text)
  | remove (name : Text)
deriving DecidableEq, Repr

namespace Request

def label : Request → Text
  | obtain name => "get-or-create " ++ name.quoted
  | remove name => "remove " ++ name.quoted

/-- Does what is asked for; only a certificate that was obtained is given back. -/
def perform {W : Type} (k : Keeper W) : Request → Action W (Option Entry)
  | obtain name => do return some (← k.obtain (.text name))
  | remove name => do
    k.remove (.text name)
    return none

end Request

structure Service (W κ : Type) where
  keeper : Keeper W
  desk : Action.Part W (Desk Request κ (Option Entry))
  notify : κ → Place → Except Fault (Option Entry) → Action W Unit

namespace Service

variable {W κ : Type}

def office (s : Service W κ) : Office W Request κ (Option Entry) :=
  ⟨s.desk, Request.perform s.keeper, s.notify⟩

def start (s : Service W κ) (workers : Int) : Action W Unit := do
  s.office.start workers
  Action.log .info "Initialized LocalCertService"

/-- What the callback is told where the store could not be unlocked; a foreign fault that does not
print comes out of the request as what printing it throws. -/
def refusal (e : Fault) : Except Fault Fault :=
  match e.failure.lifecycle? with
  | some .authDenied | some .storeUnavailable => .ok e
  | _ => do
    return Fault.because
      (.lifecycle .storeUnavailable ("Unlocking the key store failed: " ++ (← e.asValue))) e

def reportRefusal (label : Text) (e : Fault) : Action W Unit :=
  match e.failure.lifecycle? with
  | some .authDenied | some .storeUnavailable =>
    Action.log .warning (label ++ " not started: " ++ e.message)
  | _ => Action.log .error (label ++ " not started: unlocking failed unexpectedly")

def submit (s : Service W κ) (r : Request) (callback : κ) (home : Home) : Action W Unit := do
  match ← Action.attempt s.keeper.ensureUnlocked with
  | .ok () => s.office.dispatch r.label r callback home
  | .error e =>
    reportRefusal r.label e
    let told ← Action.ofExcept (refusal e)
    s.office.deliver r.label callback (.error told) home

def checkRequest (name : Value) (callback : Option κ) : Except Fault (Text × κ) := do
  let name ← Identity.check name
  match callback with
  | some callback => return (name, callback)
  | none => throw (Fault.lifecycle .invalidArgument "A result callback is required")

def obtain (s : Service W κ) (name : Value) (callback : Option κ) (home : Home) :
    Action W Unit := do
  let (name, callback) ← Action.ofExcept (checkRequest name callback)
  s.submit (.obtain name) callback home

def remove (s : Service W κ) (name : Value) (callback : Option κ) (home : Home) :
    Action W Unit := do
  let (name, callback) ← Action.ofExcept (checkRequest name callback)
  s.submit (.remove name) callback home

def close (s : Service W κ) (wait : Bool) : Action W Unit := s.office.shutdown wait

end Service

end CertKeeper
