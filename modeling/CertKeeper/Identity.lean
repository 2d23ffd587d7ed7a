import CertKeeper.Value
import CertKeeper.X509.Template

/-!
# Identity names

The names under which identities are kept, and the subjects that stand for them.  Main statement:
a name is accepted exactly if it has a subject.
-/

namespace CertKeeper.Identity

open X509

def subject : Value → Except Fault Name
  | .text name => identitySubject name
  | _ => .error (Fault.type "value argument must be a str")

def refused (message : Text) : Failure := .lifecycle .invalidArgument message

/-- Accepts the names that can address a managed certificate. -/
def check : Value → Except Fault Text
  | .text [] => .error (Fault.of (refused "Identity name must be a non-empty string"))
  | .text name =>
    match Utf8.encode name with
    | .error f => .error (Fault.because (refused "Identity name must be valid Unicode text")
        (Fault.of (.encoding f)))
    | .ok content =>
      if commonNameLimit < content.length then
        .error (Fault.of (refused ("Identity name must be at most " ++
          Text.decimal commonNameLimit ++ " bytes in UTF-8")))
      else .ok name
  | _ => .error (Fault.of (refused "Identity name must be a non-empty string"))

/-- Every refusal is of the one kind that callers are promised. -/
theorem check_error {v : Value} {e : Fault} (h : check v = .error e) :
    e.failure.lifecycle? = some .invalidArgument := by
  unfold check at h
  split at h
  · cases h; rfl
  · split at h
    · cases h; rfl
    · split at h
      · cases h; rfl
      · cases h
  · cases h; rfl

end CertKeeper.Identity
