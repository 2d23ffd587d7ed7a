import CertKeeper.Proofs.Keeper.Issued
import CertKeeper.Proofs.Keeper.Visits
import CertKeeper.Proofs.Keeper.Wary

/-!
# Which names are let in

The check of names and the subjects of certificates draw one line: a name is let in exactly if
there is a subject for it, and a request under any other name ends before anything is done.  Main
statement: `Service.admits_iff`.
-/

namespace CertKeeper

open CertKeeper.Action (start)
open X509

variable {σ W κ α β : Type}

/-! ### One line -/

theorem Utf8.encode_eq_ok_iff {t : Text} {content : Bytes} :
    Utf8.encode t = .ok content ↔ t.Valid ∧ content = Utf8.encodeLossy t := by
  constructor
  · intro encoded
    have valid := Utf8.valid_of_encode encoded
    exact ⟨valid, Except.ok.inj (encoded.symm.trans (Utf8.encode_eq_ok valid))⟩
  · rintro ⟨valid, rfl⟩
    exact Utf8.encode_eq_ok valid

namespace Identity

theorem subject_ok_iff {t : Text} : (∃ subject, Identity.subject (.text t) = .ok subject) ↔
    t.Valid ∧ 1 ≤ Utf8.width t ∧ Utf8.width t ≤ commonNameLimit := by
  rw [Identity.subject, identitySubject]
  cases encoded : Utf8.encode t with
  | error f =>
    constructor
    · rintro ⟨_, impossible⟩
      cases impossible
    · rintro ⟨valid, _⟩
      cases encoded.symm.trans (Utf8.encode_eq_ok valid)
  | ok content =>
    obtain ⟨valid, rfl⟩ := Utf8.encode_eq_ok_iff.mp encoded
    simp only [Utf8.length_encodeLossy]
    constructor
    · rintro ⟨subject, made⟩
      split at made
      · next fits => exact ⟨valid, fits⟩
      · cases made
    · rintro ⟨_, fits⟩
      exact ⟨_, if_pos fits⟩

theorem check_ok_iff {t : Text} :
    check (.text t) = .ok t ↔ ∃ subject, Identity.subject (.text t) = .ok subject := by
  constructor
  · intro passed
    obtain ⟨_, content, accepted⟩ := accepted_of_check passed
    exact ⟨_, accepted.identitySubject⟩
  · intro named
    obtain ⟨valid, filled, short⟩ := subject_ok_iff.mp named
    cases t with
    | nil => cases filled
    | cons c t =>
      have within : ¬ commonNameLimit < (Utf8.encodeLossy (c :: t)).length := by
        rw [Utf8.length_encodeLossy]
        exact Nat.not_lt.mpr short
      have encoded : Utf8.encode (c :: t) = .ok (Utf8.encodeLossy (c :: t)) :=
        Utf8.encode_eq_ok valid
      simp only [check, encoded, if_neg within]

end Identity

/-! ### Requests that are refused -/

theorem Keeper.start_refused (k : Keeper σ) {v : Value} {e : Fault}
    (refused : Identity.check v = .error e) (r : Run σ) :
    start (k.obtain v) r = (.error e, r) ∧ start (k.remove v) r = (.error e, r) := by
  rw [Keeper.obtain, Keeper.remove, refused]
  exact ⟨rfl, rfl⟩

namespace Service

theorem checkRequest_error {v : Value} {e : Fault} (refused : Identity.check v = .error e)
    (callback : Option κ) : checkRequest v callback = .error e := by
  rw [checkRequest, refused]
  rfl

theorem checkRequest_none (v : Value) : ∃ e, checkRequest v (none : Option κ) = .error e ∧
    e.failure.lifecycle? = some .invalidArgument := by
  rw [checkRequest]
  cases checked : Identity.check v with
  | error e => exact ⟨e, rfl, Identity.check_error checked⟩
  | ok t => exact ⟨_, rfl, rfl⟩

theorem checkRequest_ok {t : Text} (passed : Identity.check (.text t) = .ok t) (c : κ) :
    checkRequest (.text t) (some c) = .ok (t, c) := by
  rw [checkRequest, passed]
  rfl

end Service

/-! ### Issuing for a name that has no subject -/

def Asked.Looks : Asked → Prop
  | .isAvailable _ _ | .findByName _ _ => True
  | _ => False

def Looking (a : Action (Observed σ) α) : Prop := Asks a fun _ calls => ∀ c ∈ calls, c.Looks

/-- It fails, and has only looked. -/
def Futile (a : Action (Observed σ) α) : Prop :=
  Asks a fun o calls => (∃ e, o = .error e) ∧ ∀ c ∈ calls, c.Looks

namespace Looking

theorem bind {a : Action (Observed σ) β} {f : β → Action (Observed σ) α} (first : Looking a)
    (next : ∀ v, Looking (f v)) : Looking (a >>= f) :=
  Asks.bind first (fun _ _ looks => looks) fun v _ looks =>
    (next v).mono fun _ _ more => List.forall_mem_append.mpr ⟨looks, more⟩

theorem futile {a : Action (Observed σ) β} {f : β → Action (Observed σ) α} (first : Looking a)
    (next : ∀ v, Futile (f v)) : Futile (a >>= f) :=
  Asks.bind first (fun e _ looks => ⟨⟨e, rfl⟩, looks⟩) fun v _ looks =>
    (next v).mono fun _ _ more => ⟨more.1, List.forall_mem_append.mpr ⟨looks, more.2⟩⟩

theorem pure (v : α) : Looking (pure v : Action (Observed σ) α) :=
  asks_pure fun _ impossible => nomatch impossible

theorem throw (e : Fault) : Looking (throw e : Action (Observed σ) α) :=
  asks_throw fun _ impossible => nomatch impossible

end Looking

namespace Keeper

variable {k : Keeper σ} {t : Text}

theorem looking_acquire : Looking k.observed.acquire := by
  have asked : Looking (guarded "Key store check failed" k.observed.store.isAvailable) :=
    Asks.refine (asks_watch (fun o left => .isAvailable o (k.store.horizon left)) fun _ =>
      List.forall_mem_singleton.mpr trivial)
  refine asked.bind fun v => ?_
  split
  · exact Looking.throw _
  · exact Looking.pure ()

theorem looking_find : Looking (k.observed.find t) :=
  Asks.refine (asks_watch (fun o _ => .findByName t o) fun _ =>
    List.forall_mem_singleton.mpr trivial)

theorem not_owns_of_unnamed {f : Fault} (unnamed : identitySubject t = .error f) (x : Entry) :
    ¬ k.Owns t x := by
  intro own
  -- The check asks for the subject of the name, but only where the certificate can be read so far.
  rw [Owns, Validation.checkIdentity] at own
  have wanted : Identity.subject (.text t) = .error f := unnamed
  cases signs : k.suite.selfSigned x.certificate with
  | error e =>
    rw [signs] at own
    cases own
  | ok yes =>
  cases subject : x.certificate.subjectName with
  | error e =>
    rw [signs, subject] at own
    cases yes <;> cases own
  | ok said =>
  cases issuer : x.certificate.issuerName with
  | error e =>
    rw [signs, subject, issuer] at own
    cases yes <;> cases own
  | ok said' =>
    rw [signs, subject, issuer, wanted] at own
    simp only [bind, Except.bind] at own
    split at own
    · cases own
    · split at own <;> cases own

theorem looking_sweepRound {f : Fault} (unnamed : identitySubject t = .error f) (p : Progress) :
    Looking (k.observed.sweepRound t p) := by
  refine looking_find.bind fun found => ?_
  cases found with
  | none =>
    dsimp only
    split
    · exact Asks.after_log (Looking.pure _)
    · exact Looking.pure _
  | some x =>
    dsimp only
    split
    · exact Looking.throw _
    refine (asks_requireOwn_owns x).bind (fun e l nothing => ?_) fun u l passed => ?_
    · obtain rfl := nothing
      exact fun _ impossible => nomatch impossible
    · exact absurd passed.2 (not_owns_of_unnamed unnamed x)

theorem looking_sweepRounds {f : Fault} (unnamed : identitySubject t = .error f) (n : Nat)
    (p : Progress) : Looking (k.observed.sweepRounds t n p) := by
  induction n generalizing p with
  | zero => exact Looking.throw _
  | succ n ih =>
    refine (looking_sweepRound unnamed p).bind fun round => ?_
    cases round with
    | finished removed => exact Looking.pure removed
    | again p => exact ih p

theorem futile_issue {f : Fault} (unnamed : identitySubject t = .error f) :
    Futile (k.observed.issue t) := by
  have swept : Looking (k.observed.removeAll t) :=
    Asks.after_read fun w => looking_sweepRounds unnamed _ _
  refine looking_acquire.futile fun _ => swept.futile fun _ => ?_
  rw [unnamed]
  exact asks_throw ⟨⟨f, rfl⟩, fun _ impossible => nomatch impossible⟩

end Keeper

namespace Service

/-- A name is let in exactly if there is a subject for it, that is, if it can be encoded to 1 to 64
bytes, and the subject says the name.  Whatever else is asked for, and whatever is asked for without
a callback, is refused as an invalid argument and leaves everything as it was: store, desk, callback
and journal.  Issuing for a name that has no subject deletes nothing. -/
theorem admits_iff (s : Service W κ) (k : Keeper σ) :
    (∀ t : Text,
      (Identity.check (.text t) = .ok t ↔
        ∃ subject, Identity.subject (.text t) = .ok subject ∧
          subject.read = .ok [[(commonName, .text t)]]) ∧
      ((∃ subject, Identity.subject (.text t) = .ok subject) ↔
        ∃ content, Utf8.encode t = .ok content ∧ 1 ≤ content.length ∧ content.length ≤ 64) ∧
      ∀ n, (∃ content, Utf8.encode t = .ok content ∧ content.length = n) ↔
        (∀ c ∈ t, c.isSurrogate = false) ∧ Utf8.width t = n) ∧
    (∀ v t, Identity.check v = .ok t → v = .text t) ∧
    (∀ v e, Identity.check v = .error e → e.failure.lifecycle? = some .invalidArgument ∧
      (∀ r, (k.obtain v).start r = (.error e, r) ∧ (k.remove v).start r = (.error e, r)) ∧
      ∀ (errand : Errand) callback home r,
        (errand.ask s v callback home).start r = (.error e, r)) ∧
    (∀ v, ∃ e : Fault, e.failure.lifecycle? = some .invalidArgument ∧
      ∀ (errand : Errand) home r, (errand.ask s v none home).start r = (.error e, r)) ∧
    (∀ t, Identity.check (.text t) = .ok t → ∀ (errand : Errand) c home r,
      (errand.ask s (.text t) (some c) home).start r =
        (s.submit (errand.request t) c home).start r) ∧
    ∀ t, (∃ subject, Identity.subject (.text t) = .ok subject) ∨ Futile (k.observed.issue t) := by
  refine ⟨fun t => ⟨?_, ?_, fun n => ?_⟩, fun v t passed => (Identity.accepted_of_check passed).1,
    fun v e refused => ⟨Identity.check_error refused, k.start_refused refused,
      fun errand callback home r => ?_⟩,
    fun v => ?_, fun t passed errand c home r => ?_, fun t => ?_⟩
  · constructor
    · intro passed
      obtain ⟨_, content, accepted⟩ := Identity.accepted_of_check passed
      exact ⟨_, accepted.identitySubject, accepted.read⟩
    · rintro ⟨subject, made, _⟩
      exact Identity.check_ok_iff.mpr ⟨subject, made⟩
  · rw [Identity.subject_ok_iff, ← Utf8.length_encodeLossy]
    constructor
    · rintro ⟨valid, fits⟩
      exact ⟨_, Utf8.encode_eq_ok valid, fits⟩
    · rintro ⟨content, encoded, fits⟩
      obtain ⟨valid, rfl⟩ := Utf8.encode_eq_ok_iff.mp encoded
      exact ⟨valid, fits⟩
  · constructor
    · rintro ⟨content, encoded, rfl⟩
      obtain ⟨valid, rfl⟩ := Utf8.encode_eq_ok_iff.mp encoded
      exact ⟨valid, (Utf8.length_encodeLossy t).symm⟩
    · rintro ⟨valid, rfl⟩
      exact ⟨_, Utf8.encode_eq_ok valid, Utf8.length_encodeLossy t⟩
  · rw [start_ask, checkRequest_error refused]
  · obtain ⟨e, refused, kind⟩ := checkRequest_none (κ := κ) v
    refine ⟨e, kind, fun errand home r => ?_⟩
    rw [start_ask, refused]
  · rw [start_ask, checkRequest_ok passed]
  · cases made : identitySubject t with
    | error f => exact .inr (Keeper.futile_issue made)
    | ok subject => exact .inl ⟨subject, made⟩

def halved : Value := .text [⟨0xD800, by decide⟩]

theorem halved_not_admitted : ∃ e, Identity.check halved = .error e ∧
    e.failure.lifecycle? = some .invalidArgument ∧
    (Errand.obtain.ask counter halved (some 0) .plain).start (closedDoor false)
      = (.error e, closedDoor false) := by
  obtain ⟨_, _, refused, _⟩ := admits_iff counter keeperOfBroken
  obtain ⟨kind, _, left⟩ := refused halved _ rfl
  exact ⟨_, rfl, kind, left .obtain (some 0) .plain (closedDoor false)⟩

end Service

end CertKeeper
