import CertKeeper.Keeper.Service

/-!
# Keepers in a larger world

A keeper whose store, prompt and clock know only a part of the world does to the world what it does
to that part.  Main statement: `Keeper.perform_on`.
-/

namespace CertKeeper

open CertKeeper.Action (start)

variable {σ W α β : Type}

namespace Action

/-- What is written to a part is read from it, and nothing else changes. -/
structure Part.Lawful (part : Part W σ) : Prop where
  get_set (s : σ) (w : W) : part.get (part.set s w) = s
  set_get (w : W) : part.set (part.get w) w = w
  set_set (s s' : σ) (w : W) : part.set s (part.set s' w) = part.set s w

variable {part : Part W σ}

theorem ext {a b : Action W α} (h : ∀ r, start a r = start b r) : a = b := funext h

theorem on_pure (laws : part.Lawful) (a : α) : (pure a : Action σ α).on part = pure a :=
  ext fun r => by simp only [start_on, start_pure, laws.set_get]

theorem on_throw (laws : part.Lawful) (e : Fault) :
    (throw e : Action σ α).on part = throw e :=
  ext fun r => by simp only [start_on, start_throw, laws.set_get]

theorem on_bind (laws : part.Lawful) (a : Action σ α) (f : α → Action σ β) :
    (a >>= f).on part = a.on part >>= fun v => (f v).on part := by
  refine ext fun r => ?_
  rw [start_bind, start_on, start_on, start_bind]
  cases start a ⟨part.get r.state, r.journal, r.operation⟩ with
  | mk outcome after =>
    cases outcome with
    | error e => rfl
    | ok v => simp only [start_on, laws.get_set, laws.set_set]

theorem on_bind_of (laws : part.Lawful) {a : Action σ α} {f : α → Action σ β}
    {g : α → Action W β} (h : ∀ v, g v = (f v).on part) :
    a.on part >>= g = (a >>= f).on part := by
  rw [on_bind laws, funext h]

theorem on_ite {p : Prop} [Decidable p] (a b : Action σ α) :
    (if p then a else b).on part = if p then a.on part else b.on part :=
  apply_ite (Action.on part) p a b

theorem on_log (laws : part.Lawful) (level : Level) (message : Text) :
    (log level message : Action σ Unit).on part = log level message :=
  ext fun r => by simp only [start_on, start_log, laws.set_get]

theorem on_read (laws : part.Lawful) :
    (read : Action σ σ).on part = read >>= fun w => pure (part.get w) :=
  ext fun r => by simp only [start_on, start_read, start_bind, start_pure, laws.set_get]

theorem on_ofExcept (laws : part.Lawful) (outcome : Except Fault α) :
    (ofExcept outcome : Action σ α).on part = ofExcept outcome :=
  ext fun r => by simp only [start_on, start_ofExcept, laws.set_get]

theorem on_attempt (a : Action σ α) : (attempt a).on part = attempt (a.on part) :=
  ext fun r => by simp only [start_on, start_attempt]

theorem on_refine (a : Action σ α) (handler : Fault → Option Fault) :
    (refine a handler).on part = refine (a.on part) handler :=
  ext fun r => by simp only [start_on, start_refine]

end Action

namespace Keeper

def on (part : Action.Part W σ) (k : Keeper σ) : Keeper W where
  store := k.store.on part
  prompt _ := (k.prompt k.store).on part
  clock w := k.clock (part.get w)
  suite := k.suite
  policy := k.policy

variable {part : Action.Part W σ} (laws : part.Lawful) (k : Keeper σ)

include laws

theorem now_on : (k.on part).now = k.now.on part := by
  simp only [now, Action.on_bind laws, Action.on_read laws, Action.on_pure laws, bind_assoc,
    pure_bind]
  rfl

omit laws in
theorem guarded_on (context : Text) (call : Action σ α) :
    (guarded context call).on part = guarded context (call.on part) := Action.on_refine _ _

omit laws in
theorem find_on (name : Text) : (k.on part).find name = (k.find name).on part := by
  rw [find, find, guarded_on]
  rfl

theorem acquire_on : (k.on part).acquire = k.acquire.on part := by
  rw [acquire, acquire, Action.on_bind laws, guarded_on]
  refine bind_congr fun available => ?_
  simp only [Action.on_ite, Action.on_throw laws, Action.on_pure laws]

/-! ### Unlocking -/

theorem initializeIfNeeded_on :
    (k.on part).initializeIfNeeded = k.initializeIfNeeded.on part := by
  rw [initializeIfNeeded, initializeIfNeeded, guarded_on]
  congr 1
  refine Action.on_bind_of laws fun needed => ?_
  simp only [Action.on_ite, Action.on_bind laws, Action.on_log laws, Action.on_pure laws]
  rfl

theorem loginRequired_on : (k.on part).loginRequired = k.loginRequired.on part := by
  rw [loginRequired, loginRequired, guarded_on]
  congr 1
  refine Action.on_bind_of laws fun needed => ?_
  simp only [Action.on_ite, Action.on_bind laws, Action.on_pure laws]
  rfl

theorem askPrompt_on : (k.on part).askPrompt = k.askPrompt.on part := by
  simp only [askPrompt, Action.on_bind laws, Action.on_log laws, Action.on_attempt]
  refine bind_congr fun u => bind_congr fun answer => ?_
  cases answer with
  | error e =>
    simp only [Action.on_bind laws, Action.on_ofExcept laws, Action.on_log laws,
      Action.on_throw laws]
  | ok answer => simp only [Action.on_ite, Action.on_throw laws, Action.on_pure laws]

theorem ensureUnlocked_on : (k.on part).ensureUnlocked = k.ensureUnlocked.on part := by
  simp only [ensureUnlocked, isLoginRequired, acquire_on laws, initializeIfNeeded_on laws,
    loginRequired_on laws, askPrompt_on laws, Action.on_bind laws, Action.on_ite,
    Action.on_pure laws]

/-! ### Sweeping -/

theorem requireOwn_on (name : Text) (e : Entry) :
    (k.on part).requireOwn name e = (k.requireOwn name e).on part := by
  simp only [requireOwn, on]
  cases Validation.checkIdentity k.suite e.certificate (.text name) with
  | ok u => exact (Action.on_pure laws _).symm
  | error e' =>
    dsimp only
    cases Validation.reason? e' with
    | some reason =>
      simp only [refuseForeign, Action.on_bind laws, Action.on_log laws, Action.on_throw laws]
    | none => exact (Action.on_throw laws _).symm

theorem isStillStored_on (name : Text) (e : Entry) :
    (k.on part).isStillStored name e = (k.isStillStored name e).on part := by
  simp only [isStillStored, Action.on_bind laws, Action.on_pure laws, find_on]

theorem deleteEntry_on (name : Text) (e : Entry) :
    (k.on part).deleteEntry name e = (k.deleteEntry name e).on part := by
  rw [deleteEntry, deleteEntry, Action.on_bind laws, Action.on_attempt]
  refine bind_congr fun outcome => ?_
  cases outcome with
  | ok u => exact (Action.on_pure laws _).symm
  | error e' =>
    simp only [isStillStored_on laws, Action.on_ite, Action.on_bind laws, Action.on_throw laws,
      Action.on_pure laws]

theorem sweepRound_on (name : Text) (p : Progress) :
    (k.on part).sweepRound name p = (k.sweepRound name p).on part := by
  rw [sweepRound, sweepRound, find_on]
  refine Action.on_bind_of laws fun found => ?_
  cases found with
  | none =>
    simp only [Action.on_ite, Action.on_bind laws, Action.on_log laws, Action.on_pure laws]
  | some e =>
    simp only [requireOwn_on laws, deleteEntry_on laws, Action.on_ite, Action.on_bind laws,
      Action.on_log laws, Action.on_throw laws, Action.on_pure laws]

theorem sweepRounds_on (name : Text) (fuel : Nat) (p : Progress) :
    (k.on part).sweepRounds name fuel p = (k.sweepRounds name fuel p).on part := by
  induction fuel generalizing p with
  | zero => exact (Action.on_throw laws _).symm
  | succ fuel ih =>
    rw [sweepRounds, sweepRounds, sweepRound_on laws]
    refine Action.on_bind_of laws fun round => ?_
    cases round with
    | finished removed => exact (Action.on_pure laws _).symm
    | again p => exact ih p

theorem removeAll_on (name : Text) : (k.on part).removeAll name = (k.removeAll name).on part := by
  simp only [removeAll, sweepRounds_on laws, Action.on_bind laws, Action.on_read laws, bind_assoc,
    pure_bind]
  rfl

/-! ### Issuing -/

theorem discardKey_on (key : KeyHandle) :
    (k.on part).discardKey key = (k.discardKey key).on part := by
  rw [discardKey, discardKey, Action.on_bind laws, Action.on_attempt]
  refine bind_congr fun outcome => ?_
  cases outcome with
  | ok u => exact (Action.on_pure laws _).symm
  | error e =>
    simp only [Action.on_ite, Action.on_bind laws, Action.on_throw laws, Action.on_log laws]

theorem makeKey_on (name : Text) : (k.on part).makeKey name = (k.makeKey name).on part := by
  rw [makeKey, makeKey, Action.on_bind laws, Action.on_attempt]
  refine bind_congr fun outcome => ?_
  cases outcome with
  | ok key => exact (Action.on_pure laws _).symm
  | error e =>
    simp only [Action.on_ite, Action.on_bind laws, Action.on_throw laws, Action.on_log laws]

theorem signed_on (subject : X509.Name) (key : KeyHandle) :
    (k.on part).signed subject key = (k.signed subject key).on part := by
  simp only [signed, now_on laws, Action.on_bind laws, Action.on_ofExcept laws]
  rfl

theorem makeCertificate_on (name : Text) (subject : X509.Name) (key : KeyHandle) :
    (k.on part).makeCertificate name subject key
      = (k.makeCertificate name subject key).on part := by
  rw [makeCertificate, makeCertificate, Action.on_bind laws, Action.on_attempt, signed_on laws]
  refine bind_congr fun outcome => ?_
  cases outcome with
  | ok c => exact (Action.on_pure laws _).symm
  | error e =>
    simp only [discardKey_on laws, Action.on_ite, Action.on_bind laws, Action.on_throw laws,
      Action.on_log laws, Action.on_ofExcept laws]

theorem bindCertificate_on (name : Text) (key : KeyHandle) (c : X509.Certificate) :
    (k.on part).bindCertificate name key c = (k.bindCertificate name key c).on part := by
  rw [bindCertificate, bindCertificate, Action.on_bind laws, Action.on_attempt]
  refine bind_congr fun outcome => ?_
  cases outcome with
  | ok e => exact (Action.on_pure laws _).symm
  | error e =>
    simp only [discardKey_on laws, Action.on_ite, Action.on_bind laws, Action.on_throw laws,
      Action.on_log laws]

theorem readBack_on (name : Text) : (k.on part).readBack name = (k.readBack name).on part := by
  rw [readBack, readBack, Action.on_bind laws, Action.on_refine, find_on]
  refine bind_congr fun found => ?_
  cases found with
  | none => exact (Action.on_throw laws _).symm
  | some e => exact (Action.on_pure laws _).symm

theorem issue_on (name : Text) : (k.on part).issue name = (k.issue name).on part := by
  simp only [issue, acquire_on laws, removeAll_on laws, makeKey_on laws, makeCertificate_on laws,
    bindCertificate_on laws, readBack_on laws, Action.on_bind laws, Action.on_ofExcept laws,
    Action.on_log laws, Action.on_pure laws]

/-! ### Requests -/

theorem isReusable_on (name : Text) (e : Entry) :
    (k.on part).isReusable name e = (k.isReusable name e).on part := by
  rw [isReusable, isReusable, now_on laws]
  refine Action.on_bind_of laws fun now => ?_
  simp only [on]
  cases Validation.check k.suite k.policy.grace now e.certificate (.text name) with
  | ok u => simp only [Action.on_bind laws, Action.on_log laws, Action.on_pure laws]
  | error e' =>
    dsimp only
    cases Validation.reason? e' with
    | none => exact (Action.on_throw laws _).symm
    | some reason => simp only [Action.on_bind laws, Action.on_log laws, Action.on_pure laws]

theorem obtain_on (name : Value) : (k.on part).obtain name = (k.obtain name).on part := by
  rw [obtain, obtain, Action.on_bind laws, Action.on_ofExcept laws]
  refine bind_congr fun name => ?_
  rw [find_on]
  refine Action.on_bind_of laws fun found => ?_
  cases found with
  | none => simp only [issue_on laws, Action.on_bind laws, Action.on_log laws]
  | some e =>
    simp only [isReusable_on laws, issue_on laws, Action.on_bind laws, Action.on_ite,
      Action.on_pure laws]

theorem remove_on (name : Value) : (k.on part).remove name = (k.remove name).on part := by
  simp only [remove, removeAll_on laws, Action.on_bind laws, Action.on_ofExcept laws,
    Action.on_pure laws]

theorem perform_on (request : Request) :
    request.perform (k.on part) = (request.perform k).on part := by
  cases request with
  | obtain name =>
    simp only [Request.perform, obtain_on laws, Action.on_bind laws, Action.on_pure laws]
  | remove name =>
    simp only [Request.perform, remove_on laws, Action.on_bind laws, Action.on_pure laws]

end Keeper

end CertKeeper
