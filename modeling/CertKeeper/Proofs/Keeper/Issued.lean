import CertKeeper.Keeper.Obtain
import CertKeeper.Proofs.Encoding.Certificate
import CertKeeper.Proofs.Encoding.Record
import CertKeeper.Proofs.Encoding.Utf8
import CertKeeper.Proofs.Laws

/-!
# What a keeper issues

The template of a keeper, once it can be built, is complete, and the certificate that is signed
from it passes the identity check, names the key that signed it and is read back from its bytes.
Main statement: `Keeper.issued_of_sign`.
-/

namespace CertKeeper

open X509
open Crypto (Digest)

/-- A reading of the clock at which a policy can issue: the window is in the calendar. -/
def Policy.Fits (p : Policy) (now : Instant) : Prop := ∃ first last,
  Validation.shift now (-p.backdate) = .ok first ∧ Validation.shift now p.validity = .ok last ∧
    Instant.inCalendar first.universal = true ∧ Instant.inCalendar last.universal = true

/-! ### Names -/

structure Identity.Accepted (name : Text) (content : Bytes) : Prop where
  encoded : Utf8.encode name = .ok content
  filled : 1 ≤ content.length
  short : content.length ≤ commonNameLimit

namespace Identity

theorem accepted_of_check {v : Value} {name : Text} (h : check v = .ok name) :
    v = .text name ∧ ∃ content, Accepted name content := by
  cases v with
  | text t =>
    cases t with
    | nil => cases h
    | cons c t =>
      cases encoded : Utf8.encode (c :: t) with
      | error f =>
        simp only [check, encoded] at h
        cases h
      | ok content =>
        simp only [check, encoded] at h
        split at h
        · cases h
        next short =>
        cases h
        have whole : content = Utf8.encodeLossy (c :: t) :=
          Except.ok.inj (encoded.symm.trans (Utf8.encode_eq_ok (Utf8.valid_of_encode encoded)))
        have long := Utf8.length_le_encodeLossy (c :: t)
        rw [← whole, List.length_cons] at long
        exact ⟨rfl, content, encoded, by omega, Nat.not_lt.mp short⟩
  | _ => cases h

variable {name : Text} {content : Bytes}

theorem Accepted.valid (h : Accepted name content) : name.Valid := Utf8.valid_of_encode h.encoded

theorem Accepted.identitySubject (h : Accepted name content) :
    identitySubject name = .ok (Name.ofCommonName content) := by
  rw [X509.identitySubject, h.encoded]
  exact if_pos ⟨h.filled, h.short⟩

theorem Accepted.read (h : Accepted name content) :
    (Name.ofCommonName content).read = .ok [[(commonName, .text name)]] := by
  have said : Attribute.said ⟨commonName, utf8Type, content⟩ = .ok (.text name) := by
    have decoded := Utf8.decode_of_encode h.valid h.encoded
    rw [Attribute.said]
    simp only [Utf8.decode?, decoded]
    rfl
  have group : readGroup [⟨commonName, utf8Type, content⟩] = .ok [(commonName, .text name)] := by
    simp only [readGroup, List.mapM_cons, List.mapM_nil, said]
    rfl
  simp only [Name.read, Name.ofCommonName, List.mapM_cons, List.mapM_nil, group]
  rfl

end Identity

namespace Keeper

/-! ### Templates -/

def parts (subject : Name) (key : PublicKey) (serial : Nat) (first last : Int) :
    Template.Complete :=
  ⟨subject, subject, serial, first, last, key,
    [basicConstraints, keyUsage, subjectKeyIdentifier key]⟩

variable {policy : Policy} {now : Instant} {subject : Name} {key : KeyHandle} {serial : Nat}

/-- A fault of a template: the value is refused, or the calendar is too small. -/
def Refused (fits : Prop) (e : Fault) : Prop :=
  e.failure.lifecycle? = none ∧ e.HasText ∧ (e.failure.isValue = true ∨ ¬ fits)

theorem withSerial_spec (t : Template) (n : Int) :
    (∃ e, t.withSerial n = .error e ∧ e.failure.lifecycle? = none ∧ e.HasText ∧
      e.failure.isValue = true) ∨
      (t.withSerial n = .ok { t with serial := some n.toNat } ∧ n < 2 ^ 159) := by
  unfold Template.withSerial
  split
  · exact Or.inl ⟨_, rfl, rfl, rfl, rfl⟩
  split
  · exact Or.inl ⟨_, rfl, rfl, rfl, rfl⟩
  next small => exact Or.inr ⟨rfl, Int.not_le.mp small⟩

theorem universalWall_spec (i : Instant) :
    (Template.universalWall i = .ok i.universal ∧ Instant.inCalendar i.universal = true) ∨
      ∃ e, Template.universalWall i = .error e ∧
        Refused (Instant.inCalendar i.universal = true) e := by
  unfold Template.universalWall
  split
  next inside => exact Or.inl ⟨rfl, inside⟩
  next outside => exact Or.inr ⟨_, rfl, rfl, rfl, Or.inr outside⟩

theorem withNotBefore_spec (t : Template) (i : Instant) :
    (∃ e, t.withNotBefore i = .error e ∧ Refused (Instant.inCalendar i.universal = true) e) ∨
      (t.withNotBefore i = .ok { t with notBefore := some i.universal } ∧
        (Time.ofWall i.universal).Writable) := by
  unfold Template.withNotBefore
  rcases universalWall_spec i with ⟨wall, inside⟩ | ⟨e, wall, refused⟩
  · simp only [wall, bind, Except.bind]
    split
    · exact Or.inl ⟨_, rfl, rfl, rfl, Or.inl rfl⟩
    next late =>
    split
    · exact Or.inl ⟨_, rfl, rfl, rfl, Or.inl rfl⟩
    · exact Or.inr ⟨rfl, Time.writable_ofWall (Int.not_lt.mp late) inside⟩
  · simp only [wall, bind, Except.bind]
    exact Or.inl ⟨e, rfl, refused⟩

theorem withNotAfter_spec (t : Template) (i : Instant) :
    (∃ e, t.withNotAfter i = .error e ∧ Refused (Instant.inCalendar i.universal = true) e) ∨
      (t.withNotAfter i = .ok { t with notAfter := some i.universal } ∧
        (Time.ofWall i.universal).Writable) := by
  unfold Template.withNotAfter
  rcases universalWall_spec i with ⟨wall, inside⟩ | ⟨e, wall, refused⟩
  · simp only [wall, bind, Except.bind]
    split
    · exact Or.inl ⟨_, rfl, rfl, rfl, Or.inl rfl⟩
    next late =>
    split
    · exact Or.inl ⟨_, rfl, rfl, rfl, Or.inl rfl⟩
    · exact Or.inr ⟨rfl, Time.writable_ofWall (Int.not_lt.mp late) inside⟩
  · simp only [wall, bind, Except.bind]
    exact Or.inl ⟨e, rfl, refused⟩

theorem shift_error {t : Instant} {s : Span} {e : Fault} (h : Validation.shift t s = .error e) :
    e.failure.lifecycle? = none ∧ e.HasText := by
  unfold Validation.shift at h
  split at h
  · cases h
  · cases h
    exact ⟨rfl, rfl⟩

theorem template_spec (policy : Policy) (now : Instant) (subject : Name) (key : KeyHandle)
    (serial : Nat) :
    (∃ e, template policy now subject key serial = .error e ∧ Refused (policy.Fits now) e) ∨
      ∃ t first last, template policy now subject key serial = .ok t ∧
        t.complete = .ok (parts subject key.publicKey serial first last) ∧
        (Time.ofWall first).Writable ∧ (Time.ofWall last).Writable ∧ serial < 2 ^ 159 := by
  unfold template
  cases begins : Validation.shift now (-policy.backdate) with
  | error e =>
    obtain ⟨plain, text⟩ := shift_error begins
    refine Or.inl ⟨e, rfl, plain, text, Or.inr ?_⟩
    rintro ⟨first, last, first_, _⟩
    rw [begins] at first_
    cases first_
  | ok first =>
  cases ends : Validation.shift now policy.validity with
  | error e =>
    obtain ⟨plain, text⟩ := shift_error ends
    refine Or.inl ⟨e, rfl, plain, text, Or.inr ?_⟩
    rintro ⟨first, last, _, last_, _⟩
    rw [ends] at last_
    cases last_
  | ok last =>
  simp only [bind, Except.bind]
  rcases withSerial_spec (((Template.empty.withSubject subject).withIssuer subject).withKey
    key.publicKey) serial with ⟨e, failed, plain, text, value⟩ | ⟨numbered, small⟩
  · rw [failed]
    exact Or.inl ⟨e, rfl, plain, text, Or.inl value⟩
  rw [numbered]
  simp only
  rcases withNotBefore_spec { (((Template.empty.withSubject subject).withIssuer subject).withKey
    key.publicKey) with serial := some (serial : Int).toNat } first
    with ⟨e, failed, plain, text, why⟩ | ⟨begun, early⟩
  · rw [failed]
    refine Or.inl ⟨e, rfl, plain, text, why.imp_right fun outside fits => outside ?_⟩
    obtain ⟨first', last', first_, _, inside, _⟩ := fits
    rw [begins] at first_
    cases first_
    exact inside
  rw [begun]
  simp only
  rcases withNotAfter_spec { (((Template.empty.withSubject subject).withIssuer subject).withKey
    key.publicKey) with
      serial := some (serial : Int).toNat
      notBefore := some first.universal } last with
    ⟨e, failed, plain, text, why⟩ | ⟨ended, late⟩
  · rw [failed]
    refine Or.inl ⟨e, rfl, plain, text, why.imp_right fun outside fits => outside ?_⟩
    obtain ⟨first', last', _, last_, _, inside⟩ := fits
    rw [ends] at last_
    cases last_
    exact inside
  rw [ended]
  exact Or.inr ⟨_, first.universal, last.universal, rfl, rfl, early, late, by exact_mod_cast small⟩

/-! ### Certificates -/

/-- A certificate that a keeper issued for a name and a key. -/
structure Issued (suite : Suite) (name : Text) (key : PrivateKey) (c : Certificate) : Prop where
  identity : Validation.checkIdentity suite c (.text name) = .ok ()
  publicKey : c.publicKey = .ok (suite.publicKey key)
  readable : Certificate.ofDer c.der = .ok c
  lasts : ∃ last, c.notAfter.instant = .ok last

theorem Issued.keyId {suite : Suite} {name : Text} {key : PrivateKey} {c : Certificate}
    (h : Issued suite name key c) : c.keyId = .ok (suite.publicKey key).id := by
  rw [Certificate.keyId, h.publicKey]
  rfl

/-- The certificate that a key signs for itself under a name passes the identity check. -/
theorem checkIdentity_certificate {suite : Suite} (signs : suite.Signs) {k : PrivateKey}
    (valid : k.Valid) {q : Crypto.Curve.Point} (public_ : suite.publicKey k = .curve k.curve q)
    (holds : k.curve.holds q = true) {name : Text} {content : Bytes}
    (accepted : Identity.Accepted name content) {d : Digest} {a : Algorithm}
    (known : Algorithm.ofCurveDigest? d = some a) (p : Template.Complete)
    (key : p.key = suite.publicKey k) (subject : p.subject = Name.ofCommonName content)
    (issuer : p.issuer = Name.ofCommonName content) :
    (p.certificate a (suite.sign k d (p.tbs a))).publicKey = .ok (suite.publicKey k) ∧
      Validation.checkIdentity suite (p.certificate a (suite.sign k d (p.tbs a))) (.text name)
        = .ok () := by
  have read : (p.certificate a (suite.sign k d (p.tbs a))).publicKey = .ok (suite.publicKey k) := by
    change PublicKey.ofInfo p.key.info = _
    rw [key, public_, PublicKey.ofInfo_info holds]
  have selfSigned : suite.selfSigned (p.certificate a (suite.sign k d (p.tbs a))) = .ok true := by
    rw [Suite.selfSigned, read]
    exact congrArg Except.ok (signs k d a (p.tbs a) valid known).1
  have subjectName : (p.certificate a (suite.sign k d (p.tbs a))).subjectName
      = .ok [[(commonName, .text name)]] := by
    change p.subject.read = _
    rw [subject, accepted.read]
  have issuerName : (p.certificate a (suite.sign k d (p.tbs a))).issuerName
      = .ok [[(commonName, .text name)]] := by
    change p.issuer.read = _
    rw [issuer, accepted.read]
  have wanted : Identity.subject (.text name) = .ok (Name.ofCommonName content) :=
    accepted.identitySubject
  refine ⟨read, ?_⟩
  simp only [Validation.checkIdentity, selfSigned, subjectName, issuerName, wanted, accepted.read,
    sameName_refl, bind, Except.bind, Bool.not_true, Bool.false_eq_true, if_false]
  rfl

/-- What is signed from a template is a certificate of its key and its name. -/
theorem issued_of_sign {suite : Suite} (laws : suite.Lawful) {k : PrivateKey} (valid : k.Valid)
    {name : Text} {content : Bytes} (accepted : Identity.Accepted name content)
    {first last : Int} {t : Template}
    (whole : t.complete = .ok (parts (Name.ofCommonName content) (suite.publicKey k) serial
      first last))
    (begins : (Time.ofWall first).Writable) (ends : (Time.ofWall last).Writable)
    (small : serial < 2 ^ 159) :
    ∃ c, t.sign suite k (.known .sha256) = .ok c ∧ Issued suite name k c := by
  obtain ⟨q, public_, holds⟩ := laws.onCurve k valid
  obtain ⟨a, known⟩ : ∃ a, Algorithm.ofCurveDigest? .sha256 = some a := ⟨_, rfl⟩
  obtain ⟨p, same⟩ : ∃ p, p = parts (Name.ofCommonName content) (suite.publicKey k) serial first
    last := ⟨_, rfl⟩
  have issuable : p.Issuable := by
    rw [same]
    exact ⟨⟨content, accepted.short, rfl⟩, rfl, Nat.lt_trans small (by decide), begins, ends,
      ⟨k.curve, q, public_⟩, rfl⟩
  have short := (laws.signs k .sha256 a (p.tbs a) valid known).2
  obtain ⟨read, identity⟩ := checkIdentity_certificate laws.signs valid public_ holds accepted known
    p (by rw [same]; rfl) (by rw [same]; rfl) (by rw [same]; rfl)
  have chosen : Template.algorithmOf (.known .sha256) = .ok (.sha256, a) := by
    simp only [Template.algorithmOf, known]
  have lasts : (Time.ofWall last).instant = .ok ⟨(Time.ofWall last).wall, some 0⟩ := by
    have late := ends.2.1
    rw [Time.instant, if_neg (by omega)]
  refine ⟨p.certificate a (suite.sign k .sha256 (p.tbs a)), ?_, identity, read, ?_, ?_⟩
  · simp only [Template.sign, whole, ← same, chosen, bind, Except.bind]
    rfl
  · exact Template.Complete.ofDer_certificate issuable known short
  · refine ⟨_, Eq.trans ?_ lasts⟩
    rw [same]
    rfl

end Keeper

end CertKeeper
