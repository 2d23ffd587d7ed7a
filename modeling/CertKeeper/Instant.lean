import CertKeeper.Text

/-!
# Instants

Dates and times of the civil calendar from year 1 to 9999 in microseconds, with or without an
offset from Coordinated Universal Time, and the spans between them.  Arithmetic moves the wall
clock and fails when it leaves the calendar.
-/

namespace CertKeeper

/-! ### The calendar -/

namespace Calendar

/-- Days from the first of March of year zero to a date, the months counted from March. -/
def dayNumber (year month day : Int) : Int :=
  let y := if month ≤ 2 then year - 1 else year
  let m := if month ≤ 2 then month + 9 else month - 3
  let era := y.fdiv 400
  let yoe := y - era * 400
  let doy := (153 * m + 2) / 5 + day - 1
  era * 146097 + (yoe * 365 + yoe / 4 - yoe / 100 + doy)

def dateOf (n : Int) : Int × Int × Int :=
  let era := n.fdiv 146097
  let doe := n - era * 146097
  let yoe := (doe - doe / 1460 + doe / 36524 - doe / 146096) / 365
  let doy := doe - (365 * yoe + yoe / 4 - yoe / 100)
  let mp := (5 * doy + 2) / 153
  let day := doy - (153 * mp + 2) / 5 + 1
  let month := if mp < 10 then mp + 3 else mp - 9
  let year := yoe + era * 400 + (if month ≤ 2 then 1 else 0)
  (year, month, day)

def isLeap (year : Int) : Bool := year % 4 = 0 && (year % 100 ≠ 0 || year % 400 = 0)

def daysIn (year month : Int) : Int :=
  if month = 2 then (if isLeap year then 29 else 28)
  else if month = 4 ∨ month = 6 ∨ month = 9 ∨ month = 11 then 30
  else 31

def isDate (year month day : Int) : Bool :=
  1 ≤ month && month ≤ 12 && 1 ≤ day && day ≤ daysIn year month

def firstDay : Int := dayNumber 1 1 1

def dayCount : Int := 3652059

end Calendar

/-! ### Spans -/

/-- A span of time in microseconds, of either sign. -/
structure Span where
  micros : Int
deriving DecidableEq, Repr

namespace Span

def perSecond : Int := 1000000

def perDay : Int := 86400 * perSecond

def seconds (n : Int) : Span := ⟨n * perSecond⟩

def maxDays : Int := 999999999

def days? (n : Int) : Option Span := if n.natAbs ≤ maxDays.natAbs then some ⟨n * perDay⟩ else none

instance : Neg Span := ⟨fun s => ⟨-s.micros⟩⟩

end Span

/-! ### Instants -/

/-- A reading of a clock: microseconds on the wall since the start of year one, and how far the
wall is ahead of universal time, where that is known. -/
structure Instant where
  wall : Int
  offset : Option Int
deriving DecidableEq, Repr

namespace Instant

def inCalendar (wall : Int) : Bool := 0 ≤ wall && wall < Calendar.dayCount * Span.perDay

def add? (t : Instant) (s : Span) : Option Instant :=
  if inCalendar (t.wall + s.micros) then some ⟨t.wall + s.micros, t.offset⟩ else none

theorem add?_eq_some {t u : Instant} {s : Span} (h : t.add? s = some u) :
    u = ⟨t.wall + s.micros, t.offset⟩ ∧ inCalendar u.wall = true := by
  simp only [add?] at h
  split at h
  · next hc => cases h; exact ⟨rfl, hc⟩
  · cases h

/-- The reading of a clock at universal time; one without offset is taken to be such a clock. -/
def universal (t : Instant) : Int := t.wall - t.offset.getD 0

/-- Whether one instant lies before another; none of two clocks of which only one knows its
offset. -/
def before? (t u : Instant) : Option Bool :=
  if t.offset.isSome = u.offset.isSome then some (t.universal < u.universal) else none

def wallOf (year month day hour minute second micros : Int) : Int :=
  (Calendar.dayNumber year month day - Calendar.firstDay) * Span.perDay +
    ((hour * 60 + minute) * 60 + second) * Span.perSecond + micros

structure Fields where
  year : Int
  month : Int
  day : Int
  hour : Int
  minute : Int
  second : Int
  micros : Int
deriving DecidableEq, Repr

def fieldsOf (wall : Int) : Fields :=
  let day := wall.fdiv Span.perDay
  let rest := wall - day * Span.perDay
  let (y, m, d) := Calendar.dateOf (day + Calendar.firstDay)
  let secs := rest / Span.perSecond
  ⟨y, m, d, secs / 3600, secs / 60 % 60, secs % 60, rest % Span.perSecond⟩

/-! ### Spelling -/

def two (n : Int) : Text := Text.padLeft 2 '0' (Text.decimal n.natAbs)

def four (n : Int) : Text := Text.padLeft 4 '0' (Text.decimal n.natAbs)

def six (n : Int) : Text := Text.padLeft 6 '0' (Text.decimal n.natAbs)

/-- Hours and minutes of an offset, and what is below only where it is not zero. -/
def spellOffset (offset : Int) : Text :=
  let n : Int := offset.natAbs
  let secs := n / Span.perSecond
  let low := n % Span.perSecond
  let micros : Text := if low = 0 then [] else "." ++ six low
  let below : Text := if secs % 60 = 0 ∧ low = 0 then [] else ":" ++ two (secs % 60) ++ micros
  (if offset < 0 then "-" else "+") ++ two (secs / 3600) ++ ":" ++ two (secs / 60 % 60) ++ below

/-- The international spelling; microseconds only where they are not zero. -/
def spell (t : Instant) : Text :=
  let f := fieldsOf t.wall
  let micros : Text := if f.micros = 0 then [] else "." ++ six f.micros
  let offset : Text :=
    match t.offset with
    | none => []
    | some o => spellOffset o
  four f.year ++ "-" ++ two f.month ++ "-" ++ two f.day ++ "T" ++
    two f.hour ++ ":" ++ two f.minute ++ ":" ++ two f.second ++ micros ++ offset

/-! ### Reading -/

def number? (width : Nat) (t : Text) : Option Int :=
  if t.length = width then
    (t.foldlM (fun n c => (Text.digit? c).map (n * 10 + ·)) 0).map fun (n : Nat) => (n : Int)
  else none

/-- Microseconds from the digits after the point, the seventh and later ones dropped. -/
def fraction? (t : Text) : Option Int :=
  let digits := (t ++ List.replicate 6 (CodePoint.ofChar '0')).take 6
  if t.isEmpty then none else number? 6 digits

def timeOfDay? (t : Text) : Option Int :=
  let colon := CodePoint.ofChar ':'
  match Text.splitOn colon t with
  | [h, m] => do return ((← number? 2 h) * 60 + (← number? 2 m)) * 60 * Span.perSecond
  | [h, m, s] => do
    let minutes := (← number? 2 h) * 60 + (← number? 2 m)
    match Text.cut? "." s with
    | none => return (minutes * 60 + (← number? 2 s)) * Span.perSecond
    | some (whole, part) =>
      return (minutes * 60 + (← number? 2 whole)) * Span.perSecond + (← fraction? part)
  | _ => none

def parse? (t : Text) : Option Instant := do
  let (date, time) ← Text.cut? "T" t
  let (time, offset) ←
    if Text.endsWith "Z" time then pure (time.dropLast, some 0)
    else
      match Text.cut? "+" time, Text.cut? "-" time with
      | some (clock, o), _ => do pure (clock, some (← timeOfDay? o))
      | none, some (clock, o) => do pure (clock, some (-(← timeOfDay? o)))
      | none, none => pure (time, none)
  match Text.splitOn (CodePoint.ofChar '-') date with
  | [y, m, d] =>
    let year ← number? 4 y
    let month ← number? 2 m
    let day ← number? 2 d
    if Calendar.isDate year month day && 1 ≤ year then
      return ⟨wallOf year month day 0 0 0 0 + (← timeOfDay? time), offset⟩
    else none
  | _ => none

end Instant

end CertKeeper
