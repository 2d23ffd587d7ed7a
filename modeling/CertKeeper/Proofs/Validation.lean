import CertKeeper.Proofs.Encoding.Faults
import CertKeeper.Proofs.Keeper.Outcome
import CertKeeper.Proofs.Keeper.Window

/-!
# Checks without a verdict

A check says that a certificate is valid or names the reason why it is not, unless something of the
certificate cannot be read, the clock does not know its offset, or the margin reaches back beyond
the calendar.  Main statements: `Validation.check_undecided_iff` and
`Validation.notSelfSigned_iff_readable`.
-/

namespace CertKeeper

open X509

namespace Validation

/-- The identity of a certificate cannot be checked: its key cannot be read, or it signed itself
and one of its names cannot. -/
inductive Unread (suite : Suite) (c : Certificate) : Prop
  | key (f : Fault) (unread : c.publicKey = .error f)
  | names (k : PublicKey) (f : Fault) (key : c.publicKey = .ok k)
      (signed : suite.verifies k c.algorithm c.tbs c.signature = true)
      (unread : c.subjectName = .error f ∨ c.issuerName = .error f)

/-- A certificate has no verdict at an instant. -/
inductive Undecided (suite : Suite) (grace : Span) (now : Instant) (c : Certificate)
    (name : Text) : Prop
  | unread (h : Unread suite c)
  /-- The calendar has no year zero. -/
  | year (own : checkIdentity suite c (.text name) = .ok ())
      (zero : c.notBefore.year = 0 ∨ c.notAfter.year = 0)
  /-- A clock without offset tells nothing about a time at universal time. -/
  | clock (own : checkIdentity suite c (.text name) = .ok ()) (local_ : now.offset = none)
  /-- The margin before the last instant begins before the calendar does. -/
  | margin (own : checkIdentity suite c (.text name) = .ok ())
      (begun : c.notBefore.wall ≤ now.universal)
      (long : ¬ Instant.inCalendar (c.notAfter.wall - grace.micros) = true)

variable {suite : Suite} {grace : Span} {now : Instant} {c : Certificate} {name : Text}

/-! ### Faults without a reason -/

theorem lifecycle?_of_refused {f : Fault} (h : Refused f) :
    f.failure.lifecycle? = none ∨ f.failure.lifecycle? = some .invalidArgument := by
  obtain ⟨failure, causes⟩ := f
  rcases h.2 with value | type | ⟨m, same⟩
  · cases failure with
    | lifecycle error m =>
      cases error with
      | invalidArgument => exact .inr rfl
      | _ => cases value
    | _ => exact .inl rfl
  · cases failure with
    | lifecycle error m => cases type
    | _ => exact .inl rfl
  · cases same
    exact .inl rfl

theorem reason?_eq_none_of_refused {f : Fault} (h : Refused f) : reason? f = none := by
  unfold reason?
  split
  next reason m failure =>
    have known := lifecycle?_of_refused h
    rw [failure] at known
    rcases known with impossible | impossible <;> cases impossible
  next => rfl

theorem not_isUnexpected_of_refused {f : Fault} (h : Refused f) : ¬ f.IsUnexpected := by
  rintro ⟨_, _, unexpected⟩
  rcases lifecycle?_of_refused h with known | known <;> cases known.symm.trans unexpected

/-! ### Identity -/

theorem checkIdentity_of_unread (h : Unread suite c) (v : Value) :
    ∃ f, checkIdentity suite c v = .error f ∧ Refused f := by
  cases h with
  | key f unread =>
    refine ⟨f, ?_, PublicKey.refused_ofInfo unread⟩
    rw [checkIdentity, Suite.selfSigned, unread]
    rfl
  | names k f key signed unread =>
    have signs : suite.selfSigned c = .ok true := by
      rw [Suite.selfSigned, key]
      exact congrArg Except.ok signed
    cases subject : c.subjectName with
    | error e =>
      refine ⟨e, ?_, Name.refused_read subject⟩
      rw [checkIdentity, signs, subject]
      rfl
    | ok n =>
      have issuer : c.issuerName = .error f := by
        refine unread.resolve_left fun impossible => ?_
        cases subject.symm.trans impossible
      refine ⟨f, ?_, Name.refused_read issuer⟩
      rw [checkIdentity, signs, subject, issuer]
      rfl

theorem checkIdentity_of_unsigned {k : PublicKey} (key : c.publicKey = .ok k)
    (unsigned : suite.verifies k c.algorithm c.tbs c.signature = false) (v : Value) :
    checkIdentity suite c v
      = .error (unfit .notSelfSigned
          "Certificate signature does not verify against its own key") := by
  rw [checkIdentity, Suite.selfSigned, key]
  simp only [bind, Except.bind, pure, Except.pure, unsigned]
  rfl

theorem checkIdentity_of_not_unread (accepted : Identity.check (.text name) = .ok name)
    (h : ¬ Unread suite c) : checkIdentity suite c (.text name) = .ok () ∨
      ∃ f reason, checkIdentity suite c (.text name) = .error f ∧ reason? f = some reason := by
  cases key : c.publicKey with
  | error f => exact absurd (.key f key) h
  | ok k =>
    cases signed : suite.verifies k c.algorithm c.tbs c.signature with
    | false => exact .inr ⟨_, _, checkIdentity_of_unsigned key signed _, rfl⟩
    | true =>
      have read {n : Except Fault (List (List Saying))}
          (unread : ∀ f, n = .error f → Unread suite c) : ∃ m, n = .ok m := by
        cases n with
        | error f => exact absurd (unread f rfl) h
        | ok m => exact ⟨m, rfl⟩
      have readable : c.Readable :=
        ⟨⟨k, key⟩, read fun f unread => .names k f key signed (.inl unread),
          read fun f unread => .names k f key signed (.inr unread)⟩
      cases checked : checkIdentity suite c (.text name) with
      | ok u => exact .inl rfl
      | error f =>
        obtain ⟨reason, why⟩ := reason_of_checkIdentity readable accepted checked
        exact .inr ⟨f, reason, rfl, why⟩

theorem checkIdentity_undecided_iff (accepted : Identity.check (.text name) = .ok name) :
    (∃ f, checkIdentity suite c (.text name) = .error f ∧ reason? f = none) ↔ Unread suite c := by
  constructor
  · rintro ⟨f, failed, why⟩
    by_contra h
    rcases checkIdentity_of_not_unread accepted h with own | ⟨f', reason, failed', why'⟩
    · cases own.symm.trans failed
    · obtain rfl : f = f' := Except.error.inj (failed.symm.trans failed')
      cases why.symm.trans why'
  · intro h
    obtain ⟨f, failed, refused⟩ := checkIdentity_of_unread h (.text name)
    exact ⟨f, failed, reason?_eq_none_of_refused refused⟩

/-! ### Time -/

theorem instant_of_year {t : Time} (year : t.year ≠ 0) : t.instant = .ok ⟨t.wall, some 0⟩ :=
  if_neg year

theorem instant_of_zero {t : Time} (zero : t.year = 0) :
    t.instant = .error (Fault.value "year 0 is out of range") :=
  if_pos zero

theorem before_local {t u : Instant} (differ : t.offset.isSome ≠ u.offset.isSome) :
    before t u = .error (Fault.type "can't compare offset-naive and offset-aware datetimes") := by
  rw [before, Instant.before?, if_neg differ]

theorem before_known {t u : Instant} (ht : t.offset.isSome = true) (hu : u.offset.isSome = true) :
    before t u = .ok (decide (t.universal < u.universal)) := by
  rw [before, Instant.before?, if_pos (ht.trans hu.symm)]

theorem outside_cases (grace : Span) (now : Instant) (first last : Int) :
    ((now.offset = none ∨ (first ≤ now.universal ∧
          ¬ Instant.inCalendar (last - grace.micros) = true)) ∧
        ∃ f, outside grace now ⟨first, some 0⟩ ⟨last, some 0⟩ = .error f ∧ reason? f = none) ∨
      (¬ (now.offset = none ∨ (first ≤ now.universal ∧
          ¬ Instant.inCalendar (last - grace.micros) = true)) ∧
        ∃ b, outside grace now ⟨first, some 0⟩ ⟨last, some 0⟩ = .ok b) := by
  unfold outside
  cases offset : now.offset with
  | none =>
    have differ : now.offset.isSome ≠ (some (0 : Int)).isSome := by rw [offset]; decide
    rw [before_local (u := ⟨first, some 0⟩) differ]
    exact .inl ⟨.inl rfl, _, rfl, rfl⟩
  | some o =>
    have known : now.offset.isSome = true := by rw [offset]; rfl
    have start : Instant.universal ⟨first, some 0⟩ = first := Int.sub_zero first
    rw [before_known (u := ⟨first, some 0⟩) known rfl, start]
    simp only [reduceCtorEq, false_or]
    by_cases early : now.universal < first
    · rw [decide_eq_true early]
      exact .inr ⟨by omega, true, rfl⟩
    rw [decide_eq_false early]
    by_cases inside : Instant.inCalendar (last - grace.micros) = true
    · refine .inr ⟨fun h => h.2 inside, ?_⟩
      simp only [bind, Except.bind, Bool.false_eq_true, if_false]
      rw [Keeper.shift_eq (t := ⟨last, some 0⟩) (s := -grace) inside]
      exact ⟨_, before_known rfl known⟩
    · refine .inl ⟨⟨Int.not_lt.mp early, inside⟩, ?_⟩
      simp only [bind, Except.bind, Bool.false_eq_true, if_false]
      rw [Keeper.shift_beyond (t := ⟨last, some 0⟩) (s := -grace) inside]
      exact ⟨_, rfl, rfl⟩

theorem checkWindow_undecided_iff :
    (∃ f, checkWindow grace now c = .error f ∧ reason? f = none) ↔
      (c.notBefore.year = 0 ∨ c.notAfter.year = 0) ∨ now.offset = none ∨
        (c.notBefore.wall ≤ now.universal ∧
          ¬ Instant.inCalendar (c.notAfter.wall - grace.micros) = true) := by
  unfold checkWindow
  by_cases zero : c.notBefore.year = 0
  · rw [instant_of_zero zero]
    exact iff_of_true ⟨Fault.value _, rfl, rfl⟩ (.inl (.inl zero))
  rw [instant_of_year zero]
  by_cases zero' : c.notAfter.year = 0
  · rw [instant_of_zero zero']
    exact iff_of_true ⟨Fault.value _, rfl, rfl⟩ (.inl (.inr zero'))
  rw [instant_of_year zero']
  simp only [zero, zero', or_self, false_or, bind, Except.bind]
  rcases outside_cases grace now c.notBefore.wall c.notAfter.wall with
    ⟨undecided, f, failed, why⟩ | ⟨decided, b, compared⟩
  · rw [failed]
    exact iff_of_true ⟨f, rfl, why⟩ undecided
  · rw [compared]
    refine iff_of_false ?_ decided
    rintro ⟨f, failed, why⟩
    cases b with
    | false => cases failed
    | true =>
      cases failed
      cases why

/-! ### Verdicts -/

/-- A check fails without a reason exactly where a certificate has no verdict. -/
theorem check_undecided_iff (accepted : Identity.check (.text name) = .ok name) :
    (∃ f, check suite grace now c (.text name) = .error f ∧ reason? f = none) ↔
      Undecided suite grace now c name := by
  have own_only (h : Undecided suite grace now c name) :
      Unread suite c ∨ checkIdentity suite c (.text name) = .ok () := by
    cases h with
    | unread h => exact .inl h
    | year own | clock own | margin own => exact .inr own
  unfold check
  cases identity : checkIdentity suite c (.text name) with
  | error f =>
    simp only [bind, Except.bind]
    constructor
    · rintro ⟨f', failed, why⟩
      cases failed
      exact .unread ((checkIdentity_undecided_iff accepted).mp ⟨f, identity, why⟩)
    · intro h
      have unread : Unread suite c :=
        (own_only h).resolve_right fun own => nomatch own.symm.trans identity
      obtain ⟨f', failed, why⟩ := (checkIdentity_undecided_iff accepted).mpr unread
      exact ⟨f', identity.symm.trans failed, why⟩
  | ok u =>
    simp only [bind, Except.bind]
    rw [checkWindow_undecided_iff]
    constructor
    · rintro (zero | local_ | ⟨begun, long⟩)
      · exact .year identity zero
      · exact .clock identity local_
      · exact .margin identity begun long
    · intro h
      cases h with
      | unread h =>
        obtain ⟨f, failed, _⟩ := checkIdentity_of_unread h (.text name)
        cases identity.symm.trans failed
      | year own zero => exact .inl zero
      | clock own local_ => exact .inr (.inl local_)
      | margin own begun long => exact .inr (.inr ⟨begun, long⟩)

theorem isValid_iff (accepted : Identity.check (.text name) = .ok name) :
    (∃ valid, isValid suite grace now c (.text name) = .ok valid) ↔
      ¬ Undecided suite grace now c name := by
  rw [← check_undecided_iff accepted]
  cases checked : check suite grace now c (.text name) with
  | ok u =>
    have valid : isValid suite grace now c (.text name) = .ok true := by rw [isValid, checked]
    exact iff_of_true ⟨true, valid⟩ fun ⟨_, impossible, _⟩ => nomatch impossible
  | error f =>
    have told : isValid suite grace now c (.text name)
        = if (reason? f).isSome then .ok false else .error f := by rw [isValid, checked]
    rw [told]
    cases why : reason? f with
    | some reason =>
      refine iff_of_true ⟨false, rfl⟩ ?_
      rintro ⟨f', same, none_⟩
      cases same
      cases why.symm.trans none_
    | none =>
      exact iff_of_false (fun ⟨_, impossible⟩ => nomatch impossible) fun h => h ⟨f, rfl, why⟩

/-! ### Kinds of keys -/

def signingKinds : List Oid :=
  [Algorithm.curveKeyOid, Algorithm.rsaKeyOid, Algorithm.maskedRsaOid, Algorithm.ed25519Oid,
    Algorithm.ed448Oid]

theorem other_of_ofInfo {i : KeyInfo} (kind : i.algorithm.oid ∉ signingKinds) {k : PublicKey}
    (read : PublicKey.ofInfo i = .ok k) : ∃ a key, k = .other a key := by
  simp only [signingKinds, List.mem_cons, List.not_mem_nil, or_false, not_or] at kind
  obtain ⟨curve, rsa, masked, ed25519, ed448⟩ := kind
  unfold PublicKey.ofInfo at read
  simp only [curve, rsa, masked, ed25519, ed448, or_self, if_false] at read
  have fixed {size : Nat} (h : PublicKey.readFixed size i.key (.other i.algorithm i.key) = .ok k) :
      ∃ a key, k = .other a key := by
    unfold PublicKey.readFixed at h
    split at h
    · exact ⟨_, _, (Except.ok.inj h).symm⟩
    · cases h
  split at read
  · exact fixed read
  split at read
  · exact fixed read
  split at read
  · split at read
    · exact ⟨_, _, (Except.ok.inj read).symm⟩
    · cases read
  · cases read

/-- With a key of any other kind a certificate is found not to have signed itself exactly where
the key can be read. -/
theorem notSelfSigned_iff_readable (kind : c.key.algorithm.oid ∉ signingKinds) (v : Value) :
    (∃ f, check Suite.standard grace now c v = .error f ∧ reason? f = some .notSelfSigned) ↔
      ∃ k, c.publicKey = .ok k := by
  cases key : c.publicKey with
  | error f =>
    refine iff_of_false ?_ fun ⟨_, impossible⟩ => nomatch impossible
    rintro ⟨f', failed, why⟩
    obtain ⟨e, failed', refused⟩ := @checkIdentity_of_unread Suite.standard c (.key f key) v
    rw [check, failed'] at failed
    cases failed
    cases why.symm.trans (reason?_eq_none_of_refused refused)
  | ok k =>
    obtain ⟨a, bits, rfl⟩ := other_of_ofInfo kind key
    have unsigned : Suite.standard.verifies (.other a bits) c.algorithm c.tbs c.signature = false :=
      rfl
    have failed := checkIdentity_of_unsigned key unsigned v
    exact iff_of_true ⟨unfit _ _, by rw [check, failed]; rfl, rfl⟩ ⟨_, rfl⟩

end Validation

end CertKeeper
