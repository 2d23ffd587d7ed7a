import CertKeeper.KeyFile
import CertKeeper.Store.Record

/-!
# What readers report

The faults of the readers of keys, certificates and files, and of the signer.  All but two kinds
are those of a value or of a type: what is not supported is a kind of its own, and so is nesting
that is too deep.  Main statements: `Refused.eq_unsupported_iff`, `Json.ofFile_error_iff`.
-/

namespace CertKeeper

/-! ### Failures of several kinds -/

namespace Failure

theorem isKeyStore_of_isValue {f : Failure} (h : f.isValue = true) : f.isKeyStore = false := by
  cases f with
  | keyStore m => cases h
  | _ => rfl

theorem isKeyStore_of_isType {f : Failure} (h : f.isType = true) : f.isKeyStore = false := by
  cases f with
  | keyStore m => cases h
  | _ => rfl

end Failure

@[simp] theorem Fault.isKeyStore_keyStore (m : Text) :
    (Fault.keyStore m).failure.isKeyStore = true := rfl

namespace X509

/-! ### Keys and certificates -/

/-- A fault with a text that refuses a value or a type, or says that something is not supported. -/
structure Refused (e : Fault) : Prop where
  text : e.HasText
  kind : e.failure.isValue = true ∨ e.failure.isType = true ∨ ∃ m, e = PublicKey.unsupported m

variable {e : Fault}

theorem refused_value (m : Text) : Refused (Fault.value m) := ⟨rfl, .inl rfl⟩

theorem refused_type (m : Text) : Refused (Fault.type m) := ⟨rfl, .inr (.inl rfl)⟩

theorem refused_unsupported (m : Text) : Refused (PublicKey.unsupported m) :=
  ⟨rfl, .inr (.inr ⟨m, rfl⟩)⟩

theorem Refused.not_isKeyStore (h : Refused e) : e.failure.isKeyStore = false := by
  rcases h.kind with value | type | ⟨m, rfl⟩
  · exact Failure.isKeyStore_of_isValue value
  · exact Failure.isKeyStore_of_isType type
  · rfl

theorem Refused.lifecycle?_ne (h : Refused e) :
    e.failure.lifecycle? ≠ some .storeUnavailable := by
  intro unavailable
  cases failure : e.failure with
  | lifecycle error m =>
    rw [failure] at unavailable
    cases unavailable
    rcases h.kind with value | type | ⟨_, rfl⟩
    · rw [failure] at value
      cases value
    · rw [failure] at type
      cases type
    · cases failure
  | _ =>
    rw [failure] at unavailable
    cases unavailable

/-- What is not supported is told from the others by its kind. -/
theorem Refused.eq_unsupported_iff (h : Refused e) :
    (e.failure.isValue = false ∧ e.failure.isType = false) ↔ ∃ m, e = PublicKey.unsupported m := by
  constructor
  · intro neither
    rcases h.kind with value | type | unsupported
    · rw [value] at neither
      cases neither.1
    · rw [type] at neither
      cases neither.2
    · exact unsupported
  · rintro ⟨m, rfl⟩
    exact ⟨rfl, rfl⟩

theorem PublicKey.refused_readRsa {key : Bytes} (h : readRsa key = .error e) : Refused e := by
  unfold readRsa at h
  split at h
  · split at h
    · cases h
    · cases h
      exact refused_value _
  · cases h
    exact refused_value _

theorem PublicKey.refused_readCurve {parameters : Option Der.Element} {key : Bytes}
    (h : readCurve parameters key = .error e) : Refused e := by
  unfold readCurve at h
  split at h
  · cases h
    exact refused_value _
  split at h
  · cases h
    exact refused_unsupported _
  split at h
  · cases h
  · cases h
    exact refused_value _

theorem PublicKey.refused_readFixed {size : Nat} {key : Bytes} {k : PublicKey}
    (h : readFixed size key k = .error e) : Refused e := by
  unfold readFixed at h
  split at h
  · cases h
  · cases h
    exact refused_value _

theorem PublicKey.refused_ofInfo {i : KeyInfo} (h : ofInfo i = .error e) : Refused e := by
  unfold ofInfo at h
  simp only at h
  split at h
  · exact refused_readCurve h
  split at h
  · exact refused_readRsa h
  iterate 4
    split at h
    · exact refused_readFixed h
  split at h
  · split at h
    · cases h
    · cases h
      exact refused_value _
  · cases h
    exact refused_unsupported _

theorem Certificate.refused_keyId {c : Certificate} (h : c.keyId = .error e) : Refused e := by
  unfold keyId at h
  cases read : c.publicKey with
  | ok k =>
    rw [read] at h
    cases h
  | error e' =>
    rw [read] at h
    cases h
    exact PublicKey.refused_ofInfo read

theorem Certificate.ofPem_error {t : Text} (h : Certificate.ofPem t = .error e) :
    (∃ m, e = Fault.value m) ∨ ∃ m, e = Fault.plain .invalidVersion m := by
  unfold ofPem at h
  split at h
  · exact Or.inl ⟨_, (Except.error.inj h).symm⟩
  · exact Or.inl ⟨_, (Except.error.inj h).symm⟩
  split at h
  · unfold ofDer at h
    split at h
    · exact Or.inl ⟨_, (Except.error.inj h).symm⟩
    split at h
    · cases h
    · exact Or.inr ⟨_, (Except.error.inj h).symm⟩
  · exact Or.inl ⟨_, (Except.error.inj h).symm⟩

/-! ### Names -/

theorem refused_of_mapM {α β : Type} {f : α → Except Fault β}
    (each : ∀ a e, f a = .error e → Refused e) {l : List α} (h : l.mapM f = .error e) :
    Refused e := by
  induction l with
  | nil => cases h
  | cons a l ih =>
    rw [List.mapM_cons] at h
    cases first : f a with
    | error e' =>
      rw [first] at h
      cases h
      exact each a _ first
    | ok b =>
      rw [first] at h
      cases rest : l.mapM f with
      | error e' =>
        rw [rest] at h
        cases h
        exact ih rest
      | ok bs =>
        rw [rest] at h
        cases h

theorem Attribute.refused_said {a : Attribute} (h : a.said = .error e) : Refused e := by
  unfold said at h
  split at h
  · split at h
    · cases h
    · cases h
      exact refused_type _
  · dsimp only at h
    generalize (if a.tag = universalType then decodeUniversal? a.content
      else if a.tag = bmpType then decodeBmp? none a.content
      else Utf8.decode? a.content) = text at h
    cases text with
    | some t => cases h
    | none =>
      cases h
      exact refused_value _

theorem refused_readGroup {g : List Attribute} (h : readGroup g = .error e) : Refused e := by
  unfold readGroup at h
  cases said : g.mapM fun a => (do return (a.oid, ← a.said) : Except Fault Saying) with
  | error e' =>
    rw [said] at h
    cases h
    refine refused_of_mapM (fun a e failed => ?_) said
    cases one : a.said with
    | error e' =>
      rw [one] at failed
      cases failed
      exact Attribute.refused_said one
    | ok s =>
      rw [one] at failed
      cases failed
  | ok sayings =>
    rw [said] at h
    simp only [bind, Except.bind] at h
    split at h
    · cases h
      exact refused_value _
    · split at h
      · cases h
      · cases h
        exact refused_value _

theorem Name.refused_read {n : Name} (h : n.read = .error e) : Refused e :=
  refused_of_mapM (fun _ _ failed => refused_readGroup failed) h

theorem refused_identitySubject {name : Text} (h : identitySubject name = .error e) :
    Refused e := by
  unfold identitySubject at h
  split at h
  · cases h
    exact ⟨rfl, .inl rfl⟩
  · split at h
    · cases h
    · cases h
      exact refused_value _

/-! ### Signing -/

theorem Template.refused_complete {t : Template} (h : t.complete = .error e) : Refused e := by
  unfold complete at h
  iterate 6
    split at h
    · cases h
      exact refused_value _
  cases h

theorem Template.refused_algorithmOf {choice : DigestChoice} (h : algorithmOf choice = .error e) :
    Refused e := by
  unfold algorithmOf at h
  split at h
  · cases h
    exact refused_type _
  · split at h
    · cases h
    · cases h
      exact refused_unsupported _
  · cases h
    exact refused_unsupported _

theorem Template.refused_sign {t : Template} {suite : Suite} {k : PrivateKey}
    {choice : DigestChoice} (h : t.sign suite k choice = .error e) : Refused e := by
  unfold sign at h
  cases parts : t.complete with
  | error e' =>
    rw [parts] at h
    cases h
    exact refused_complete parts
  | ok p =>
    cases algorithm : algorithmOf choice with
    | error e' =>
      rw [parts, algorithm] at h
      cases h
      exact refused_algorithmOf algorithm
    | ok a =>
      rw [parts, algorithm] at h
      cases h

end X509

/-! ### Key files -/

namespace KeyFile

open X509

variable {suite : Suite} {e : Fault}

theorem refused_scalarFault (named : Option Der.Element) (bs : Bytes) :
    Refused (scalarFault named bs) := by
  unfold scalarFault
  split
  · simp only
    split
    · split
      · exact refused_unsupported _
      · exact refused_value _
    · exact refused_value _
  · exact refused_value _

theorem refused_plainFault (bs : Bytes) : Refused (plainFault bs) := by
  unfold plainFault
  split
  · split
    · split
      · exact refused_value _
      split
      · exact refused_scalarFault _ _
      split
      · exact refused_value _
      · exact refused_unsupported _
    · exact refused_value _
  · exact refused_value _

theorem refused_plainResult {found : Option Loaded} {why : Fault} {password : Option Bytes}
    (refused : Refused why) (h : plainResult found why password = .error e) : Refused e := by
  unfold plainResult at h
  split at h
  · cases h
    exact refused
  split at h
  · cases h
    exact refused_type _
  · cases h

theorem refused_readBlock {b : Pem.Block} {password : Option Bytes}
    (h : readBlock suite b password = .error e) : Refused e := by
  unfold readBlock at h
  split at h
  · split at h
    · cases h
      exact refused_value _
    · cases h
      exact refused_type _
    · split at h
      · cases h
        exact refused_value _
      · exact refused_plainResult (refused_plainFault _) h
  split at h
  · exact refused_plainResult (refused_plainFault _) h
  split at h
  · exact refused_plainResult (refused_scalarFault _ _) h
  · exact refused_plainResult (refused_value _) h

theorem refused_read {bs : Bytes} {password : Option Bytes}
    (h : read suite bs password = .error e) : Refused e := by
  unfold read at h
  split at h
  · cases h
    exact refused_value _
  split at h
  · exact refused_readBlock h
  · cases h
    exact refused_value _

theorem write_error_iff (k : PrivateKey) (password : Option Bytes) :
    (∃ e, write suite k password = .error e) ↔
      ∃ content, password = some content ∧ passwordLimit < content.length := by
  unfold write
  cases password with
  | none => simp
  | some content =>
    simp only [Option.some.injEq, exists_eq_left']
    split
    next long => simp [long]
    next short => simp [short]

theorem write_error {k : PrivateKey} {password : Option Bytes}
    (h : write suite k password = .error e) : e.failure.isValue = true := by
  unfold write at h
  simp only at h
  split at h
  · cases h
  split at h
  · cases h
    rfl
  · cases h

end KeyFile

/-! ### Files of values -/

namespace Json

/-- Bytes that hold a value nested deeper than it can be read. -/
def TooDeep (content : Bytes) : Prop :=
  ∃ t inObject, Utf8.decode content = .ok t ∧
    read (Text.unifyLineEnds t) = .error (.tooDeep inObject)

/-- A file is refused by its value, unless it is nested too deep. -/
theorem ofFile_error_iff {content : Bytes} {e : Fault} (h : ofFile content = .error e) :
    e.HasText ∧ e.failure.isSystem = false ∧ e.failure.isKeyStore = false ∧
      e.failure.lifecycle? = none ∧ (e.failure.isValue = false ↔ TooDeep content) := by
  unfold ofFile at h
  cases decoded : Utf8.decode content with
  | error f =>
    rw [decoded] at h
    cases h
    refine ⟨rfl, rfl, rfl, rfl, iff_of_false Bool.false_ne_true.symm ?_⟩
    rintro ⟨t, inObject, text, _⟩
    rw [decoded] at text
    cases text
  | ok t =>
    rw [decoded] at h
    cases found : read (Text.unifyLineEnds t) with
    | ok v =>
      simp only [found] at h
      cases h
    | error f =>
      simp only [found] at h
      cases h
      have deep : TooDeep content ↔ ∃ inObject, f = .tooDeep inObject := by
        constructor
        · rintro ⟨t', inObject, text, fault⟩
          obtain rfl := Except.ok.inj (decoded.symm.trans text)
          exact ⟨inObject, Except.error.inj (found.symm.trans fault)⟩
        · rintro ⟨inObject, rfl⟩
          exact ⟨t, inObject, decoded, found⟩
      rw [deep]
      cases f with
      | malformed reason position =>
        exact ⟨rfl, rfl, rfl, rfl, iff_of_false Bool.false_ne_true.symm nofun⟩
      | tooManyDigits count =>
        exact ⟨rfl, rfl, rfl, rfl, iff_of_false Bool.false_ne_true.symm nofun⟩
      | tooDeep inObject => exact ⟨rfl, rfl, rfl, rfl, iff_of_true rfl ⟨inObject, rfl⟩⟩

theorem not_tooDeep_of_ofFile {content : Bytes} {v : Value} (h : ofFile content = .ok v) :
    ¬ TooDeep content := by
  rintro ⟨t, inObject, decoded, fault⟩
  unfold ofFile at h
  simp only [decoded, fault] at h
  cases h

end Json

end CertKeeper
