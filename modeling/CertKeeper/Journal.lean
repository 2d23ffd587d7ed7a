import CertKeeper.Text

/-!
# The journal

What an operation reports while it runs: lines with a level and the operation that wrote them.
-/

namespace CertKeeper

inductive Level where
  | trace
  | debug
  | info
  | success
  | warning
  | error
  | critical
deriving DecidableEq, Repr

namespace Level

def name : Level → String
  | trace => "TRACE"
  | debug => "DEBUG"
  | info => "INFO"
  | success => "SUCCESS"
  | warning => "WARNING"
  | error => "ERROR"
  | critical => "CRITICAL"

def number : Level → Nat
  | trace => 5
  | debug => 10
  | info => 20
  | success => 25
  | warning => 30
  | error => 40
  | critical => 50

def all : List Level := [trace, debug, info, success, warning, error, critical]

def ofName? (t : Text) : Option Level := all.find? fun l => Text.ofString l.name = t

end Level

/-- A line of the journal; `operation` is the operation that was running. -/
structure Line where
  level : Level
  message : Text
  operation : Option Text
deriving DecidableEq, Repr

abbrev Journal := List Line

end CertKeeper
