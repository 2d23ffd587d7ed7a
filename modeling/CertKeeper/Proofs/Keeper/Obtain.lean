import CertKeeper.Proofs.Keeper.Issue

/-!
# What obtaining leaves

Over a store that keeps its books, the oldest certificate of a name is given back where it is
valid, and what is under the name is replaced where it is not.  Main statements:
`Keeper.start_obtain` and `Keeper.leads_remove`.
-/

namespace CertKeeper

/-! ### Faults of the check -/

namespace Validation

theorem before_error {t u : Instant} {f : Fault} (h : before t u = .error f) :
    ¬ f.IsUnexpected := by
  unfold before at h
  split at h
  · cases h
  · cases h
    exact Fault.not_isUnexpected rfl

theorem outside_error {grace : Span} {now first last : Instant} {f : Fault}
    (h : outside grace now first last = .error f) : ¬ f.IsUnexpected := by
  unfold outside at h
  cases early : before now first with
  | error e =>
    rw [early] at h
    cases h
    exact before_error early
  | ok b =>
    rw [early] at h
    cases b with
    | true => cases h
    | false =>
      cases ends : shift last (-grace) with
      | error e =>
        rw [ends] at h
        cases h
        exact Fault.not_isUnexpected (Keeper.shift_error ends).1
      | ok u =>
        rw [ends] at h
        exact before_error h

theorem instant_error {t : X509.Time} {f : Fault} (h : t.instant = .error f) :
    ¬ f.IsUnexpected := by
  unfold X509.Time.instant at h
  split at h
  · cases h
    exact Fault.not_isUnexpected rfl
  · cases h

theorem checkWindow_error {grace : Span} {now : Instant} {c : X509.Certificate} {f : Fault}
    (h : checkWindow grace now c = .error f) : ¬ f.IsUnexpected := by
  unfold checkWindow at h
  cases begins : c.notBefore.instant with
  | error e =>
    rw [begins] at h
    cases h
    exact instant_error begins
  | ok first =>
  cases ends : c.notAfter.instant with
  | error e =>
    rw [begins, ends] at h
    cases h
    exact instant_error ends
  | ok last =>
  rw [begins, ends] at h
  cases out : outside grace now first last with
  | error e =>
    simp only [bind, Except.bind, out] at h
    cases h
    exact outside_error out
  | ok b =>
    simp only [bind, Except.bind, out] at h
    split at h
    · cases h
      rintro ⟨_, _, impossible⟩
      cases impossible
    · cases h

end Validation

namespace Keeper

/-! ### Requests -/

open CertKeeper.Action (Leads start)

variable {σ : Type} {k : Keeper σ} {suite : Suite} {shows_ : σ → Book → Prop}
  {ready newest : Book → Prop}

/-- What the clock says when the oldest entry under a name has been looked up. -/
def reading (k : Keeper σ) (name : Text) (r : Run σ) : Instant :=
  k.clock (start (k.find name) r).2.state

def checked (k : Keeper σ) (name : Text) (now : Instant) (e : Entry) : Except Fault Unit :=
  Validation.check k.suite k.policy.grace now e.certificate (.text name)

theorem leads_isReusable (name : Text) (now : Instant) (e : Entry) (P : σ → Prop) :
    Leads (fun s => P s ∧ k.clock s = now) (k.isReusable name e) fun o s => P s ∧
      ((o = .ok true ∧ k.checked name now e = .ok ()) ∨
        (o = .ok false ∧ ∃ f reason, k.checked name now e = .error f ∧
          Validation.reason? f = some reason) ∨
        ∃ f, o = .error f ∧ k.checked name now e = .error f ∧ Validation.reason? f = none) := by
  rintro r ⟨hr, rfl⟩
  have clock : start k.now r = (.ok (k.clock r.state), r) := rfl
  unfold isReusable
  rw [Action.start_bind_ok clock]
  cases result : k.checked name (k.clock r.state) e with
  | ok u =>
    have passed : Validation.check k.suite k.policy.grace (k.clock r.state) e.certificate
        (.text name) = .ok u := result
    rw [passed]
    exact ⟨hr, Or.inl ⟨rfl, rfl⟩⟩
  | error f =>
    have failed : Validation.check k.suite k.policy.grace (k.clock r.state) e.certificate
        (.text name) = .error f := result
    rw [failed]
    cases why : Validation.reason? f with
    | none =>
      simp only [why]
      exact ⟨hr, Or.inr (Or.inr ⟨f, rfl, rfl, why⟩)⟩
    | some reason =>
      simp only [why]
      exact ⟨hr, Or.inr (Or.inl ⟨rfl, f, reason, rfl, why⟩)⟩

/-- How a request for the certificate of a name ends; the check is made at an instant. -/
inductive Obtained (k : Keeper σ) (suite : Suite) (shows_ : σ → Book → Prop) (b : Book)
    (name : Text) (now : Instant) (o : Except Fault Entry) (s : σ) : Prop
  /-- The oldest entry is valid and nothing changes. -/
  | reused (e : Entry) (first : b.first? name = some e) (valid : k.checked name now e = .ok ())
      (held : shows_ s b) (ended : o = .ok e)
  /-- The check of the oldest entry has no result and nothing changes. -/
  | unclear (e : Entry) (f : Fault) (first : b.first? name = some e)
      (failed : k.checked name now e = .error f) (why : Validation.reason? f = none)
      (held : shows_ s b) (ended : o = .error f)
  /-- There is no oldest entry, or it is not valid. -/
  | replaced (stale : ∀ e, b.first? name = some e → ∃ f reason,
        k.checked name now e = .error f ∧ Validation.reason? f = some reason)
      (out : k.Replaced suite shows_ b name o s)

/-- A request for the certificate of a name that can have one. -/
theorem start_obtain (keeps : k.store.Keeps suite shows_ ready newest) (laws : suite.Lawful)
    {b : Book} (writable : ready b) {name : Text}
    (accepted : Identity.check (.text name) = .ok name)
    (draws : (b.remove (b.under name)).Draws suite) {r : Run σ} (held : shows_ r.state b) :
    k.Obtained suite shows_ b name (k.reading name r) (start (k.obtain (.text name)) r).1
      (start (k.obtain (.text name)) r).2.state := by
  obtain ⟨_, content, addresses⟩ := Identity.accepted_of_check accepted
  have issue := leads_issue keeps laws (keeps.sound held) writable addresses draws
  obtain ⟨held', found⟩ := leads_find keeps b name r held
  have begun : start (Action.ofExcept (Identity.check (.text name)) : Action σ Text) r
      = (.ok name, r) := by rw [Action.start_ofExcept, accepted]
  unfold obtain
  rw [Action.start_bind_ok begun, Action.start_bind_ok (Prod.ext found rfl)]
  cases first : b.first? name with
  | none =>
    refine Action.leads_log_bind (issue.post fun o s out => Obtained.replaced ?_ out) _ held'
    intro e impossible
    rw [first] at impossible
    cases impossible
  | some e =>
    refine ((leads_isReusable name (k.reading name r) e (shows_ · b)).bind ?_ fun again => ?_) _
      ⟨held', rfl⟩
    · rintro f s ⟨held, ⟨impossible, _⟩ | ⟨impossible, _⟩ | ⟨f, ended, failed, why⟩⟩
      · cases impossible
      · cases impossible
      · cases ended
        exact Obtained.unclear e f first failed why held rfl
    · rintro r' ⟨held, ⟨reusable, valid⟩ | ⟨stale, f, reason, failed, why⟩ | ⟨_, impossible, _⟩⟩
      · cases reusable
        exact Obtained.reused e first valid held rfl
      · cases stale
        refine Obtained.replaced ?_ (issue r' held)
        intro e' same
        rw [first] at same
        cases same
        exact ⟨f, reason, failed, why⟩
      · cases impossible

section

variable {b : Book} {name : Text} {now : Instant}

theorem leads_obtain_valid (keeps : k.store.Keeps suite shows_ ready newest)
    (clock : ∀ s, k.clock s = now) (accepted : Identity.check (.text name) = .ok name) {e : Entry}
    (first : b.first? name = some e) (valid : k.checked name now e = .ok ()) :
    Leads (shows_ · b) (k.obtain (.text name)) fun o s => shows_ s b ∧ o = .ok e := by
  have named : Leads (shows_ · b) (Action.ofExcept (Identity.check (.text name)))
      fun o s => shows_ s b ∧ o = .ok name := Action.leads_ofExcept fun s held => ⟨held, accepted⟩
  have found := leads_find keeps b name
  rw [first] at found
  have reused : Leads (shows_ · b) (k.isReusable name e) fun o s => shows_ s b ∧ o = .ok true := by
    refine (leads_isReusable name now e (shows_ · b)).mono (fun s held => ⟨held, clock s⟩) ?_
    rintro o s ⟨held, ⟨again, _⟩ | ⟨_, f, _, failed, _⟩ | ⟨f, _, failed, _⟩⟩
    · exact ⟨held, again⟩
    · cases valid.symm.trans failed
    · cases valid.symm.trans failed
  exact named.bind_ok (found.bind_ok (reused.bind_ok fun r held => ⟨held, rfl⟩))

theorem leads_obtain_stale {Q : Except Fault Entry → σ → Prop}
    (keeps : k.store.Keeps suite shows_ ready newest) (clock : ∀ s, k.clock s = now)
    (accepted : Identity.check (.text name) = .ok name)
    (stale : ∀ e, b.first? name = some e → ∃ f reason, k.checked name now e = .error f ∧
      Validation.reason? f = some reason)
    (issue : Leads (shows_ · b) (k.issue name) Q) :
    Leads (shows_ · b) (k.obtain (.text name)) Q := by
  have named : Leads (shows_ · b) (Action.ofExcept (Identity.check (.text name)))
      fun o s => shows_ s b ∧ o = .ok name := Action.leads_ofExcept fun s held => ⟨held, accepted⟩
  have found := leads_find keeps b name
  refine named.bind_ok (found.bind_ok ?_)
  cases first : b.first? name with
  | none => exact Action.leads_log_bind issue
  | some e =>
    obtain ⟨f, reason, failed, why⟩ := stale e first
    have refused : Leads (shows_ · b) (k.isReusable name e) fun o s =>
        shows_ s b ∧ o = .ok false := by
      refine (leads_isReusable name now e (shows_ · b)).mono (fun s held => ⟨held, clock s⟩) ?_
      rintro o s ⟨held, ⟨_, valid⟩ | ⟨again, _⟩ | ⟨f', _, failed', none_⟩⟩
      · cases failed.symm.trans valid
      · exact ⟨held, again⟩
      · cases failed.symm.trans failed'
        cases why.symm.trans none_
    exact refused.bind_ok issue

end

/-- A request to remove what is under a name that can have a certificate. -/
theorem leads_remove (keeps : k.store.Keeps suite shows_ ready newest) (b : Book) {name : Text}
    (accepted : Identity.check (.text name) = .ok name) :
    Leads (shows_ · b) (k.remove (.text name)) fun o s => ∃ n, o = n.map (fun _ => ()) ∧
      k.Swept shows_ b name 0 n s := by
  refine (Action.leads_ofExcept (Q := fun o s => shows_ s b ∧ o = .ok name)
    fun s held => ⟨held, accepted⟩).bind_ok ?_
  refine (leads_removeAll keeps b name).bind ?_ fun n => ?_
  · exact fun f s swept => ⟨.error f, rfl, swept⟩
  · exact fun r swept => ⟨.ok n, rfl, swept⟩

theorem leads_refused {v : Value} {f : Fault} (refused : Identity.check v = .error f)
    (P : σ → Prop) :
    Leads P (k.obtain v) (fun o s => P s ∧ o = .error f) ∧
      Leads P (k.remove v) (fun o s => P s ∧ o = .error f) := by
  have ended {α : Type} (next : Text → Action σ α) :
      Leads P (Action.ofExcept (Identity.check v) >>= next) fun o s => P s ∧ o = .error f := by
    intro r hr
    rw [Action.start_bind_error (by rw [Action.start_ofExcept, refused])]
    exact ⟨hr, rfl⟩
  exact ⟨ended _, ended _⟩

end Keeper

end CertKeeper
