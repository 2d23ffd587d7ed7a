import CertKeeper.Keeper.Issue
import CertKeeper.Proofs.Keeper.Observed

/-!
# The course of issuing

What a keeper may ask of a store while it issues a certificate, stage by stage, and which failure of
the lifecycle the first stage that fails comes out as.  Main statement: `Keeper.Course.discards`, a
key is deleted exactly where it was made in vain.
-/

namespace CertKeeper

open X509 (Certificate Template)

variable {σ β : Type}

namespace Keeper

/-! ### The course of a sweep -/

/-- A round of a sweep: the calls, the handle that was deleted last before it, and how it ends.  It
fails, it finds nothing, or the sweep goes on with the handle that is now the last. -/
inductive Rounded (suite : Suite) (name : Text) (last : Option Text) :
    List Asked → Except LifecycleError (Option (Option Text)) → Prop
  | nothing : Rounded suite name last [.findByName name (.ok none)] (.ok none)
  | unknown (e : Fault) :
      Rounded suite name last [.findByName name (.error e)] (.error .storeUnavailable)
  | back (x : Entry) (same : last = some x.handle) :
      Rounded suite name last [.findByName name (.ok (some x))] (.error .storeUnavailable)
  | foreign (x : Entry) (new : last ≠ some x.handle) (e : Fault)
      (failed : Validation.checkIdentity suite x.certificate (.text name) = .error e) :
      Rounded suite name last [.findByName name (.ok (some x))]
        (.error (.unexpectedCertificate name x.certificate.serialText))
  | deleted (x : Entry) (new : last ≠ some x.handle)
      (own : Validation.checkIdentity suite x.certificate (.text name) = .ok ()) :
      Rounded suite name last [.findByName name (.ok (some x)), .delete x (.ok ())]
        (.ok (some (some x.handle)))
  | kept (x : Entry) (new : last ≠ some x.handle)
      (own : Validation.checkIdentity suite x.certificate (.text name) = .ok ()) (e : Fault)
      (current : Entry) (first : current.handle = x.handle) :
      Rounded suite name last [.findByName name (.ok (some x)), .delete x (.error e),
        .findByName name (.ok (some current))] (.error .storeUnavailable)
  | uncertain (x : Entry) (new : last ≠ some x.handle)
      (own : Validation.checkIdentity suite x.certificate (.text name) = .ok ()) (e e' : Fault) :
      Rounded suite name last [.findByName name (.ok (some x)), .delete x (.error e),
        .findByName name (.error e')] (.error .storeUnavailable)
  | gone (x : Entry) (new : last ≠ some x.handle)
      (own : Validation.checkIdentity suite x.certificate (.text name) = .ok ()) (e : Fault)
      (found : Option Entry) (other : ∀ y, found = some y → y.handle ≠ x.handle) :
      Rounded suite name last [.findByName name (.ok (some x)), .delete x (.error e),
        .findByName name (.ok found)] (.ok (some last))

/-- A sweep of at most a number of rounds; a store that has another entry in each of them is given
up on. -/
inductive Rounds (suite : Suite) (name : Text) :
    Nat → Option Text → List Asked → Except LifecycleError Unit → Prop
  | endless (last : Option Text) : Rounds suite name 0 last [] (.error .storeUnavailable)
  | cleared {n : Nat} {last : Option Text} {calls : List Asked}
      (round : Rounded suite name last calls (.ok none)) :
      Rounds suite name (n + 1) last calls (.ok ())
  | failed {n : Nat} {last : Option Text} {calls : List Asked} {error : LifecycleError}
      (round : Rounded suite name last calls (.error error)) :
      Rounds suite name (n + 1) last calls (.error error)
  | next {n : Nat} {last last' : Option Text} {calls more : List Asked}
      {o : Except LifecycleError Unit} (round : Rounded suite name last calls (.ok (some last')))
      (rest : Rounds suite name n last' more o) : Rounds suite name (n + 1) last (calls ++ more) o

/-! ### The course of issuing -/

/-- The calls up to the point where the name is free: the store is there, and it is swept. -/
inductive Freed (k : Keeper σ) (name : Text) : List Asked → Except LifecycleError Unit → Prop
  | unknown (e : Fault) (rounds : Nat) :
      Freed k name [.isAvailable (.error e) rounds] (.error .storeUnavailable)
  | unavailable (v : Value) (rounds : Nat) (no : v.truthy = false) :
      Freed k name [.isAvailable (.ok v) rounds] (.error .storeUnavailable)
  | swept (v : Value) (yes : v.truthy = true) (rounds : Nat) (calls : List Asked)
      (o : Except LifecycleError Unit) (sweep : Rounds k.suite name rounds none calls o) :
      Freed k name (.isAvailable (.ok v) rounds :: calls) o

def keyMade? : Asked → Option Text
  | .generateKey _ (.ok key) => some key.keyId
  | _ => none

def keyDeleted? : Asked → Option Text
  | .deleteKey id _ => some id
  | _ => none

variable {k : Keeper σ} {name : Text} {suite : Suite} {calls : List Asked} {subject : X509.Name}

/-- Calls that neither make nor delete a key, and that do not end as those with a key do. -/
structure Keyless (calls : List Asked) (o : Except LifecycleError β) : Prop where
  made : calls.filterMap keyMade? = []
  deleted : calls.filterMap keyDeleted? = []
  unsigned : o ≠ .error .signingFailed
  rejected : o ≠ .error .importFailed

theorem Rounded.keyless {last : Option Text} {o : Except LifecycleError (Option (Option Text))}
    (h : Rounded suite name last calls o) : Keyless calls o := by
  cases h <;> exact ⟨rfl, rfl, nofun, nofun⟩

theorem Rounds.keyless {n : Nat} {last : Option Text} {o : Except LifecycleError Unit}
    (h : Rounds suite name n last calls o) : Keyless calls o := by
  -- induction on the rounds: each is free of keys, and so is what they come to
  induction h with
  | endless last => exact ⟨rfl, rfl, nofun, nofun⟩
  | cleared round => exact ⟨round.keyless.made, round.keyless.deleted, nofun, nofun⟩
  | failed round =>
    obtain ⟨made, deleted, unsigned, rejected⟩ := round.keyless
    refine ⟨made, deleted, fun same => unsigned ?_, fun same => rejected ?_⟩
    · cases same
      rfl
    · cases same
      rfl
  | next round rest ih =>
    obtain ⟨made, deleted, _⟩ := round.keyless
    refine ⟨?_, ?_, ih.unsigned, ih.rejected⟩
    · rw [List.filterMap_append, made, ih.made]
      rfl
    · rw [List.filterMap_append, deleted, ih.deleted]
      rfl

theorem Freed.keyless {o : Except LifecycleError Unit} (h : Freed k name calls o) :
    Keyless calls o := by
  cases h with
  | unknown e rounds | unavailable v rounds no => exact ⟨rfl, rfl, nofun, nofun⟩
  | swept v yes rounds calls o sweep =>
    obtain ⟨made, deleted, unsigned, rejected⟩ := sweep.keyless
    exact ⟨made, deleted, unsigned, rejected⟩

end Keeper

end CertKeeper
