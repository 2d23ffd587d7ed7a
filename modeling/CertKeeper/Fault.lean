import CertKeeper.Text.Quoted
import CertKeeper.Text.Utf8

/-!
# Faults

Everything that can end a call without an answer: the failures of the certificate lifecycle, the
failures of key stores, and the foreign failures that pass through.  A fault remembers what it
was raised from.  The failures of this library are made from their texts; a foreign one prints in
its own way, and printing it may fail itself.
-/

namespace CertKeeper

/-! ### Lifecycle failures -/

/-- Why a stored certificate is not a valid managed identity. -/
inductive Unfit where
  | notSelfSigned
  | subjectIssuerMismatch
  | nameMismatch
  | expiredOrNotYetValid
deriving DecidableEq, Repr

namespace Unfit

def word : Unfit → String
  | notSelfSigned => "not_self_signed"
  | subjectIssuerMismatch => "subject_issuer_mismatch"
  | nameMismatch => "name_mismatch"
  | expiredOrNotYetValid => "expired_or_not_yet_valid"

def all : List Unfit := [notSelfSigned, subjectIssuerMismatch, nameMismatch, expiredOrNotYetValid]

def ofWord? (t : Text) : Option Unfit := all.find? fun u => Text.ofString u.word = t

end Unfit

/-- The failures that callers of the certificate lifecycle see. -/
inductive LifecycleError where
  | general
  | invalidArgument
  | authDenied
  | storeUnavailable
  | validation (reason : Unfit)
  | generation
  | keyGenerationFailed
  | signingFailed
  | importFailed
  | readbackFailed
  | unexpectedCertificate (name serial : Text)
deriving DecidableEq, Repr

namespace LifecycleError

def className : LifecycleError → String
  | general => "LocalCertError"
  | invalidArgument => "InvalidArgumentError"
  | authDenied => "AuthDeniedError"
  | storeUnavailable => "StoreUnavailableError"
  | validation _ => "CertificateValidationError"
  | generation => "GenerationError"
  | keyGenerationFailed => "KeyGenerationFailedError"
  | signingFailed => "SigningFailedError"
  | importFailed => "ImportFailedError"
  | readbackFailed => "ReadbackFailedError"
  | unexpectedCertificate _ _ => "UnexpectedCertificateError"

/-- The kind that callers branch on; a failure without a kind of its own counts as the store's. -/
def kind : LifecycleError → String
  | general => "store_unavailable"
  | invalidArgument => "invalid_argument"
  | authDenied => "auth_denied"
  | storeUnavailable => "store_unavailable"
  | validation _ => "validation_failure"
  | generation => "store_unavailable"
  | keyGenerationFailed => "key_generation_failed"
  | signingFailed => "signing_failed"
  | importFailed => "import_failed"
  | readbackFailed => "readback_failed"
  | unexpectedCertificate _ _ => "unexpected_certificate"

def isGeneration : LifecycleError → Bool
  | generation | keyGenerationFailed | signingFailed | importFailed | readbackFailed => true
  | _ => false

end LifecycleError

/-! ### Failures of the file system -/

inductive SystemCode where
  | noEntry
  | inputOutput
  | permission
  | fileExists
  | notDirectory
  | isDirectory
  | noSpace
  | nameTooLong
deriving DecidableEq, Repr

namespace SystemCode

def number : SystemCode → Nat
  | noEntry => 2
  | inputOutput => 5
  | permission => 13
  | fileExists => 17
  | notDirectory => 20
  | isDirectory => 21
  | noSpace => 28
  | nameTooLong => 36

def text : SystemCode → String
  | noEntry => "No such file or directory"
  | inputOutput => "Input/output error"
  | permission => "Permission denied"
  | fileExists => "File exists"
  | notDirectory => "Not a directory"
  | isDirectory => "Is a directory"
  | noSpace => "No space left on device"
  | nameTooLong => "File name too long"

def className : SystemCode → String
  | noEntry => "FileNotFoundError"
  | permission => "PermissionError"
  | fileExists => "FileExistsError"
  | notDirectory => "NotADirectoryError"
  | isDirectory => "IsADirectoryError"
  | _ => "OSError"

/-- The report of a code where no path is known. -/
def bare (code : SystemCode) : Text :=
  "[Errno " ++ Text.decimal code.number ++ "] " ++ code.text

end SystemCode

/-! ### All failures -/

inductive Plain where
  | exception
  | value
  | type
  | key
  | missingAttribute
  | runtime
  | recursion
  | os
  | endOfFile
  | overflow
  | unsupported
  | invalidVersion
  | noSuchReference
deriving DecidableEq, Repr

def Plain.className : Plain → String
  | exception => "Exception"
  | value => "ValueError"
  | type => "TypeError"
  | key => "KeyError"
  | missingAttribute => "AttributeError"
  | runtime => "RuntimeError"
  | recursion => "RecursionError"
  | os => "OSError"
  | endOfFile => "EOFError"
  | overflow => "OverflowError"
  | unsupported => "UnsupportedAlgorithm"
  | invalidVersion => "InvalidVersion"
  | noSuchReference => "NoSuchReference"

/-- What printing a failure gives, or the plain failure that it ends in. -/
inductive Printed where
  | as (t : Text)
  | throws (kind : Plain) (message : Text)
deriving DecidableEq, Repr

inductive Failure where
  | lifecycle (error : LifecycleError) (message : Text)
  | keyStore (message : Text)
  | plain (kind : Plain) (message : Text)
  | system (code : SystemCode) (path : Text) (target : Option Text)
  | encoding (fault : EncodeFault)
  | decoding (fault : DecodeFault)
  | json (message : Text)
  /-- A failure of a kind or of a class below it that prints in its own way, as a text and as a
  value. -/
  | own (kind : Plain) (text value : Printed)
deriving DecidableEq, Repr

def Printed.given : Printed → Except Failure Text
  | as t => .ok t
  | throws kind message => .error (.plain kind message)

namespace Failure

def className : Failure → String
  | lifecycle e _ => e.className
  | keyStore _ => "KeyStoreError"
  | plain k _ => k.className
  | system code _ _ => code.className
  | encoding _ => "UnicodeEncodeError"
  | decoding _ => "UnicodeDecodeError"
  | json _ => "JSONDecodeError"
  | own k _ _ => k.className

def encodeMessage (f : EncodeFault) : Text :=
  let place : Text :=
    if f.stop = f.start + 1 then
      "character '" ++ Text.numbered (f.text.getD f.start 0) ++ "' in position " ++
        Text.decimal f.start
    else "characters in position " ++ Text.decimal f.start ++ "-" ++ Text.decimal (f.stop - 1)
  "'utf-8' codec can't encode " ++ place ++ ": surrogates not allowed"

def reasonText : DecodeReason → String
  | .invalidStart => "invalid start byte"
  | .invalidContinuation => "invalid continuation byte"
  | .unexpectedEnd => "unexpected end of data"

def decodeMessage (f : DecodeFault) : Text :=
  let place : Text :=
    if f.stop = f.start + 1 then
      "byte 0x" ++ Text.padLeft 2 '0' (Text.hexLower (f.bytes.getD f.start 0).toNat) ++
        " in position " ++ Text.decimal f.start
    else "bytes in position " ++ Text.decimal f.start ++ "-" ++ Text.decimal (f.stop - 1)
  "'utf-8' codec can't decode " ++ place ++ ": " ++ reasonText f.reason

/-- The text of a failure; empty where there is none. -/
def message : Failure → Text
  | lifecycle _ m => m
  | keyStore m => m
  | plain .key m => m.quoted
  | plain _ m => m
  | system code path target =>
    let onto : Text :=
      match target with
      | none => []
      | some t => " -> " ++ t.quoted
    code.bare ++ ": " ++ path.quoted ++ onto
  | encoding f => encodeMessage f
  | decoding f => decodeMessage f
  | json m => m
  | own _ text _ => text.given.toOption.getD []

/-- A failure printed as a text, or what that throws. -/
def asText : Failure → Except Failure Text
  | own _ text _ => text.given
  | f => .ok f.message

/-- The spelling of a failure as a value, its class and what it was made from; empty where there is
none. -/
def quoted : Failure → Text
  | own _ _ value => value.given.toOption.getD []
  | f =>
    let arguments : Text :=
      match f with
      | lifecycle e m => "kind=" ++ Text.quoted e.kind ++ ", message=" ++ m.quoted
      | keyStore m | plain _ m | json m => m.quoted
      | system code _ _ => Text.decimal code.number ++ ", " ++ Text.quoted code.text
      | encoding e =>
        "'utf-8', " ++ e.text.quoted ++ ", " ++ Text.decimal e.start ++ ", " ++
          Text.decimal e.stop ++ ", 'surrogates not allowed'"
      | decoding d =>
        "'utf-8', " ++ Text.quotedBytes d.bytes ++ ", " ++ Text.decimal d.start ++ ", " ++
          Text.decimal d.stop ++ ", " ++ Text.quoted (reasonText d.reason)
      | own _ _ _ => []
    f.className ++ "(" ++ arguments ++ ")"

/-- A failure printed as a value, or what that throws. -/
def asValue : Failure → Except Failure Text
  | own _ _ value => value.given
  | f => .ok f.quoted

/-! ### Families -/

def isKeyStore : Failure → Bool
  | keyStore _ => true
  | _ => false

def lifecycle? : Failure → Option LifecycleError
  | lifecycle e _ => some e
  | _ => none

def isValue : Failure → Bool
  | plain .value _ | own .value _ _ | encoding _ | decoding _ | json _ => true
  | lifecycle .invalidArgument _ => true
  | _ => false

def isType : Failure → Bool
  | plain .type _ | own .type _ _ => true
  | _ => false

def isSystem : Failure → Bool
  | plain .os _ | own .os _ _ | system _ _ _ => true
  | _ => false

end Failure

/-! ### Faults -/

/-- A failure with what it was raised from, nearest first. -/
structure Fault where
  failure : Failure
  causes : List Failure
deriving DecidableEq, Repr

namespace Fault

def of (f : Failure) : Fault := ⟨f, []⟩

def because (f : Failure) (cause : Fault) : Fault := ⟨f, cause.failure :: cause.causes⟩

def message (e : Fault) : Text := e.failure.message

def quoted (e : Fault) : Text := e.failure.quoted

/-- A fault printed as a text, or what that throws. -/
def asText (e : Fault) : Except Fault Text := e.failure.asText.mapError of

/-- A fault printed as a value, or what that throws. -/
def asValue (e : Fault) : Except Fault Text := e.failure.asValue.mapError of

def cause? (e : Fault) : Option Failure := e.causes.head?

@[simp] theorem cause?_because (f : Failure) (cause : Fault) :
    (because f cause).cause? = some cause.failure := rfl

def plain (kind : Plain) (message : Text) : Fault := of (.plain kind message)

def keyStore (message : Text) : Fault := of (.keyStore message)

def lifecycle (error : LifecycleError) (message : Text) : Fault := of (.lifecycle error message)

def value (message : Text) : Fault := plain .value message

def type (message : Text) : Fault := plain .type message

def system (code : SystemCode) (path : Text) : Fault := of (.system code path none)

/-! ### Explaining a fault -/

/-- Printing a fault as a text throws nothing. -/
def HasText (e : Fault) : Prop := e.asText = .ok e.message

theorem HasText.asText {e : Fault} (h : e.HasText) : e.asText = .ok e.message := h

theorem hasText_of_isKeyStore {e : Fault} (h : e.failure.isKeyStore = true) : e.HasText := by
  obtain ⟨f, causes⟩ := e
  cases f with
  | keyStore m => rfl
  | lifecycle | plain | system | encoding | decoding | json | own => cases h

/-- An exception made of a number with more digits than are ever printed. -/
def endless : Fault :=
  let refused : Printed := .throws .value ("Exceeds the limit (4300 digits) for integer string " ++
    "conversion; use sys.set_int_max_str_digits() to increase the limit")
  of (.own .exception refused refused)

/-- A failure made of the text of a fault, as it comes out where the fault is caught: printing the
fault comes first, so what that throws comes out instead. -/
def retold (make : Text → Failure) (e : Fault) : Fault :=
  match e.asText with
  | .ok t => because (make t) e
  | .error f => f

theorem retold_of_hasText {e : Fault} (h : e.HasText) (make : Text → Failure) :
    e.retold make = because (make e.message) e := by
  rw [retold, h]

/-- Printing works, or ends in a plain failure. -/
theorem asText_cases (e : Fault) : e.HasText ∨ ∃ kind m, e.asText = .error (plain kind m) := by
  obtain ⟨f, causes⟩ := e
  cases f with
  | own kind text value =>
    cases text with
    | as t => exact .inl rfl
    | throws kind m => exact .inr ⟨kind, m, rfl⟩
  | lifecycle | plain | system | encoding | decoding | json | keyStore => exact .inl rfl

/-- Printing a fault as a value throws nothing. -/
def HasValue (e : Fault) : Prop := e.asValue = .ok e.quoted

theorem HasValue.asValue {e : Fault} (h : e.HasValue) : e.asValue = .ok e.quoted := h

theorem asValue_cases (e : Fault) : e.HasValue ∨ ∃ kind m, e.asValue = .error (plain kind m) := by
  obtain ⟨f, causes⟩ := e
  cases f with
  | own kind text value =>
    cases value with
    | as t => exact .inl rfl
    | throws kind m => exact .inr ⟨kind, m, rfl⟩
  | lifecycle | plain | system | encoding | decoding | json | keyStore => exact .inl rfl

theorem not_hasText_of_asText {e f : Fault} (h : e.asText = .error f) : ¬ e.HasText :=
  fun text => nomatch h.symm.trans text

theorem retold_of_not_hasText {e : Fault} (h : ¬ e.HasText) (make : Text → Failure) :
    ∃ kind m, e.retold make = plain kind m := by
  obtain ⟨kind, m, printed⟩ := e.asText_cases.resolve_left h
  exact ⟨kind, m, by rw [retold, printed]⟩

end Fault

end CertKeeper
