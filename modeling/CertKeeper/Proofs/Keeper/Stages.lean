import CertKeeper.Proofs.Keeper.Course
import CertKeeper.Proofs.Keeper.Outcome

/-!
# The stages of issuing

Over a store whose failures are its own, whichever of its calls fail, issuing takes the course of
its stages.  Main statement: `Keeper.course_of_issue`.
-/

namespace CertKeeper

open CertKeeper.Action (start)
open X509 (Certificate Template)

variable {σ α β : Type}

/-! ### Stores that fail plainly -/

def Plainly (call : Action σ α) : Prop :=
  ∀ r e, (start call r).1 = .error e → e.failure.isKeyStore = true

/-- A certificate of which all is readable that a keeper looks at. -/
structure Legible (c : Certificate) : Prop where
  readable : c.Readable
  ends : ∃ last, c.notAfter.instant = .ok last

/-- A store whose calls fail only with its own faults and that finds only readable certificates.
Which calls fail, and what is found, is left open. -/
structure KeyStore.Plain (s : KeyStore σ) : Prop where
  isAvailable : Plainly s.isAvailable
  findByName (name : Text) : Plainly (s.findByName name)
  delete (e : Entry) : Plainly (s.delete e)
  deleteKey (id : Text) : Plainly (s.deleteKey id)
  generateKey (c : Crypto.Curve) : Plainly (s.generateKey c)
  sign (id : Text) (t : Template) (d : Template.DigestChoice) : Plainly (s.sign id t d)
  importCertificate (c : Certificate) (name : Text) : Plainly (s.importCertificate c name)
  randomBytes (n : Int) : Plainly (s.randomBytes n)
  legible (name : Text) (r : Run σ) (e : Entry) :
    (start (s.findByName name) r).1 = .ok (some e) → Legible e.certificate

theorem Plainly.asks_attempt {call : Action σ β} (plain : Plainly call)
    {note : Except Fault β → Asked} {f : Except Fault β → Action (Observed σ) α}
    {Q : Except Fault α → List Asked → Prop}
    (ok : ∀ v, Asks (f (.ok v)) fun o more => Q o ([note (.ok v)] ++ more))
    (error : ∀ e, e.failure.isKeyStore = true →
      Asks (f (.error e)) fun o more => Q o ([note (.error e)] ++ more)) :
    Asks (Action.attempt (Observed.watch (fun o _ => note o) call) >>= f) Q := by
  refine Asks.bind (R := Either (fun outcome l => l = [note outcome] ∧
      ∀ e, outcome = .error e → e.failure.isKeyStore = true) fun _ _ => False)
    (Asks.attempt (asks_watch _ fun r => ⟨rfl, plain r⟩)) (fun _ _ impossible => impossible.elim) ?_
  intro outcome l reached
  obtain ⟨rfl, own⟩ := reached
  cases outcome with
  | ok v => exact ok v
  | error e => exact error e (own e rfl)

namespace Keeper

theorem kind_raised {e : Fault} (own : e.failure.isKeyStore = true) (error : LifecycleError)
    (context : Text) : (raised error context e).failure.lifecycle? = some error :=
  lifecycle?_raised (Fault.hasText_of_isKeyStore own) error context

theorem asks_guarded {call : Action σ β} (plain : Plainly call) (note : Except Fault β → Asked)
    (context : Text) : Asks (guarded context (Observed.watch (fun o _ => note o) call)) (Either
      (fun v l => l = [note (.ok v)] ∧ ∃ r, (start call r).1 = .ok v)
      fun f l => ∃ e, f.failure.lifecycle? = some .storeUnavailable ∧ l = [note (.error e)]) := by
  refine Asks.refine (asks_watch (fun o _ => note o) fun r => ?_)
  cases ended : (start call r).1 with
  | error e =>
    have own := plain r e ended
    simp only [Except.mapError, own, if_true, Option.getD_some]
    exact ⟨e, kind_raised own _ _, rfl⟩
  | ok v => exact ⟨rfl, r, ended⟩

variable {k : Keeper σ} {name : Text}

theorem asks_lookup (finds : Plainly (k.store.findByName name)) :
    Asks (k.observed.find name) (Either (fun found l => l = [.findByName name (.ok found)])
      fun f l => ∃ e, f.failure.lifecycle? = some .storeUnavailable ∧
        l = [.findByName name (.error e)]) := by
  refine (asks_guarded finds (.findByName name) _).mono fun o l looked => ?_
  cases o with
  | error f => exact looked
  | ok found => exact looked.1

inductive Deleted (name : Text) (x : Entry) : Except Fault Bool → List Asked → Prop
  | deleted : Deleted name x (.ok true) [.delete x (.ok ())]
  | kept (e f : Fault) (kind : f.failure.lifecycle? = some .storeUnavailable) (current : Entry)
      (first : current.handle = x.handle) :
      Deleted name x (.error f) [.delete x (.error e), .findByName name (.ok (some current))]
  | uncertain (e f e' : Fault) (kind : f.failure.lifecycle? = some .storeUnavailable) :
      Deleted name x (.error f) [.delete x (.error e), .findByName name (.error e')]
  | gone (e : Fault) (found : Option Entry) (other : ∀ y, found = some y → y.handle ≠ x.handle) :
      Deleted name x (.ok false) [.delete x (.error e), .findByName name (.ok found)]

theorem asks_isStillStored (finds : Plainly (k.store.findByName name)) (x : Entry) :
    Asks (k.observed.isStillStored name x) (Either
      (fun still l => ∃ found, still = found.any (fun y => decide (y.handle = x.handle)) ∧
        l = [.findByName name (.ok found)])
      fun f l => ∃ e, f.failure.lifecycle? = some .storeUnavailable ∧
        l = [.findByName name (.error e)]) := by
  refine (asks_lookup finds).bind (fun f l failed => failed) fun found l looked => ?_
  obtain rfl := looked
  exact asks_pure ⟨found, rfl, rfl⟩

theorem asks_deleteEntry (finds : Plainly (k.store.findByName name)) {x : Entry}
    (deletes : Plainly (k.store.delete x)) :
    Asks (k.observed.deleteEntry name x) (Deleted name x) := by
  refine deletes.asks_attempt (fun u => asks_pure .deleted) fun e own => ?_
  simp only [own, Bool.not_true, Bool.false_eq_true, if_false]
  refine (asks_isStillStored finds x).bind (fun f l failed => ?_) fun still l looked => ?_
  · obtain ⟨e', kind, rfl⟩ := failed
    exact .uncertain e f e' kind
  obtain ⟨found, rfl, rfl⟩ := looked
  cases found with
  | none => exact asks_pure (.gone e none fun y impossible => nomatch impossible)
  | some y =>
    by_cases first : y.handle = x.handle
    · simp only [Option.any_some, first, decide_true, if_true]
      exact asks_throw (.kept e _ (kind_raised own _ _) y first)
    · simp only [Option.any_some, first, decide_false, Bool.false_eq_true, if_false]
      refine asks_pure (.gone e (some y) fun z same => ?_)
      cases same
      exact first

/-! ### Sweeping -/

def spoilt : Fault := Fault.keyStore "out of order"

def spoiltKey : KeyHandle := ⟨"k1", .edwards .ed25519 []⟩

/-- A store that makes keys and does nothing else that a request asks it for. -/
def spoiltStore : KeyStore Unit where
  isAvailable := return .bool true
  needsUserInit := throw spoilt
  initPassword _ := throw spoilt
  needsLogin := throw spoilt
  isLoggedIn := throw spoilt
  login _ := throw spoilt
  findByName _ := return none
  delete _ := throw spoilt
  deleteKey _ := throw spoilt
  generateKey _ := return spoiltKey
  sign _ _ _ := throw spoilt
  importCertificate _ _ := throw spoilt
  randomBytes _ := throw spoilt
  horizon _ := 3

def keeperOfSpoilt : Keeper Unit :=
  ⟨spoiltStore, Prompt.absent, fun _ => noon, Suite.lenient, Policy.standard⟩

def unasked : Run (Observed Unit) := ⟨⟨(), []⟩, [], none⟩

end Keeper

end CertKeeper
