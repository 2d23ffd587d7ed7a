import CertKeeper.Journal.Layout
import CertKeeper.Text.Percent

/-!
# Lines from foreign loggers

Reports of other parts of the process that are taken into the journal: their levels by name where
the journal knows the name, else by number, and their messages with the values filled in.
-/

namespace CertKeeper.Journal.Foreign

def standardLoggers : List Text := ["asyncio", "concurrent.futures"]

structure Report where
  levelName : Text
  number : Int
  template : Text
  values : List Value
  fault : Option Fault

def nameOf (n : Int) : Text :=
  if n = 0 then "NOTSET"
  else
    match [Level.debug, .info, .warning, .error, .critical].find? fun l => (l.number : Int) = n with
    | some l => l.name
    | none => "Level " ++ Text.integer n

def Report.grade (r : Report) : Except Fault Grade :=
  match Level.ofName? r.levelName with
  | some l => .ok (Grade.ofLevel l)
  | none =>
    if r.number < 0 then
      .error (Fault.value ("Invalid level value, it should be a positive integer, not: " ++
        Text.integer r.number))
    else .ok (Grade.ofNumber r.number)

/-- The message of a report; a template without values is taken as it is. -/
def Report.message (r : Report) : Except Fault Text :=
  if r.values.isEmpty then .ok r.template else Percent.fill r.template r.values

/-- What the journal takes in: the grade, the message and the attached fault. -/
structure Taken where
  grade : Grade
  message : Text
  fault : Option Fault

def Report.take (r : Report) : Except Fault Taken := do
  let message ← r.message
  return ⟨← r.grade, message, r.fault⟩

/-- Whether reports of a logger are taken: it or a logger above it is among the named ones. -/
def isTaken (names : List Text) (logger : Text) : Bool :=
  names.any fun n =>
    n.isEmpty || n = Text.ofString "root" || logger = n || Text.startsWith (n ++ ".") logger

/-- Whether a logger with a threshold reports a level; without a threshold of its own it takes
that of warnings. -/
def isReported (threshold number : Int) : Bool :=
  let least : Int := if threshold = 0 then Level.warning.number else threshold
  decide (least ≤ number)

/-- Takes in a report of a logger; `none` where the logger does not report it or is not taken. -/
def Report.takeFrom? (names : List Text) (logger : Text) (threshold : Int) (r : Report) :
    Option (Except Fault Taken) :=
  if isReported threshold r.number && isTaken names logger then some r.take else none

end CertKeeper.Journal.Foreign
