import CertKeeper.Settings.Dotenv
import CertKeeper.Settings.Field

/-!
# Settings

Everything that can be configured.  A setting is taken from the caller, else from the
environment, else from a file of variables, else it has its default; all that is wrong with the
settings is said at once, in the order of the fields.
-/

namespace CertKeeper

structure Settings where
  projectName : Text
  projectVersion : Text
  logLevel : Text
  logFormat : Text
  loggerEnqueue : Bool
  keyStoreProvider : Text
  keyStoreDir : Text
  keyStorePassword : Text
  validityDays : Int
  backdateDays : Int
  graceDays : Int
  serialBytes : Int
  workers : Int
deriving DecidableEq, Repr

namespace Settings

def defaultLogFormat : String :=
  "\x7btime:YYYY-MM-DD HH:mm:ss\x7d | \x7blevel: <8\x7d | " ++
  "operation_id=\x7bextra[operation_id]\x7d | " ++
  "\x7bname\x7d:\x7bfunction\x7d:\x7bline\x7d - \x7bmessage\x7d"

def standard : Settings where
  projectName := "localcert"
  projectVersion := "1.0.0"
  logLevel := "INFO"
  logFormat := defaultLogFormat
  loggerEnqueue := false
  keyStoreProvider := "local"
  keyStoreDir := "./.localcert"
  keyStorePassword := []
  validityDays := 365
  backdateDays := 1
  graceDays := 1
  serialBytes := 8
  workers := 2

/-! ### Sources -/

structure Sources where
  given : List (Text × Value)
  environment : List (Text × Text)
  file : Text

/-- What stands before the names of variables. -/
def variableStart : Text := "localcert_"

/-- The last variable of a name, in whatever case it is written. -/
def lookup? {α : Type} (name : Text) (vars : List (Text × α)) : Option α :=
  (vars.reverse.find? fun v => v.1.map Text.lowerAscii = name).map Prod.snd

def Sources.find? (s : Sources) (field : Text) : Option Value :=
  let name := variableStart ++ field
  let filed := (lookup? name (Dotenv.read s.environment s.file)).join
  ((lookup? field s.given).or ((lookup? name s.environment).map Value.text)).or
    (filed.map Value.text)

/-! ### Reading -/

structure Problem where
  field : String
  complaint : Complaint
  input : Value

/-- A value, and what is wrong with the fields it was read from. -/
structure Reading (α : Type) where
  value : α
  problems : List Problem

namespace Reading

variable {α β : Type}

/-- Reads one field; where it cannot be read the default stands in for it. -/
def field (find : Text → Option Value) (name : String) (read : Value → Except Complaint α)
    (fallback : α) : Reading α :=
  match find name with
  | none => ⟨fallback, []⟩
  | some v =>
    match read v with
    | .ok a => ⟨a, []⟩
    | .error c => ⟨fallback, [⟨name, c, v⟩]⟩

def apply (f : Reading (α → β)) (r : Reading α) : Reading β :=
  ⟨f.value r.value, f.problems ++ r.problems⟩

def result (r : Reading α) : Except (List Problem) α :=
  match r.problems with
  | [] => .ok r.value
  | ps => .error ps

end Reading

def reading (find : Text → Option Value) : Reading Settings :=
  let text (name : String) (fallback : Text) := Reading.field find name Field.text fallback
  let whole (name : String) (least most : Option Int) (fallback : Int) :=
    Reading.field find name (Field.whole least most) fallback
  let d := standard
  (((((((((((((Reading.mk Settings.mk []).apply
    (text "project_name" d.projectName)).apply
    (text "project_version" d.projectVersion)).apply
    (text "log_level" d.logLevel)).apply
    (text "log_format" d.logFormat)).apply
    (Reading.field find "logger_enqueue" Field.flag d.loggerEnqueue)).apply
    (text "key_store_provider" d.keyStoreProvider)).apply
    (text "key_store_dir" d.keyStoreDir)).apply
    (text "key_store_password" d.keyStorePassword)).apply
    (whole "certificate_validity_days" (some 1) none d.validityDays)).apply
    (whole "certificate_backdate_days" (some 0) none d.backdateDays)).apply
    (whole "expiry_grace_days" (some 0) none d.graceDays)).apply
    (whole "serial_number_bytes" (some 1) (some 19) d.serialBytes)).apply
    (whole "worker_threads" (some 1) none d.workers)

/-- The settings that the sources make, or all that is wrong with them. -/
def read (s : Sources) : Except (List Problem) Settings := (reading s.find?).result

/-! ### Display -/

def toValue (s : Settings) : Value := .object [
  ("project_name", .text s.projectName),
  ("project_version", .text s.projectVersion),
  ("log_level", .text s.logLevel),
  ("log_format", .text s.logFormat),
  ("logger_enqueue", .bool s.loggerEnqueue),
  ("key_store_provider", .text s.keyStoreProvider),
  ("key_store_dir", .text s.keyStoreDir),
  ("key_store_password", .text s.keyStorePassword),
  ("certificate_validity_days", .int s.validityDays),
  ("certificate_backdate_days", .int s.backdateDays),
  ("expiry_grace_days", .int s.graceDays),
  ("serial_number_bytes", .int s.serialBytes),
  ("worker_threads", .int s.workers)]

end Settings

end CertKeeper
