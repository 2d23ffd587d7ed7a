import CertKeeper.X509.Name
import CertKeeper.Instant

/-!
# Times in certificates

Times of whole seconds at universal time, in the short form with two digits of the year and in
the long form with four.
-/

namespace CertKeeper.X509

open Der (Element)

/-- The date and time of day of a certificate; the calendar need not know the year. -/
structure Time where
  year : Nat
  month : Nat
  day : Nat
  hour : Nat
  minute : Nat
  second : Nat
deriving DecidableEq, Repr

namespace Time

def shortTag : Byte := 0x17
def longTag : Byte := 0x18

def exists? (t : Time) : Bool :=
  Calendar.isDate t.year t.month t.day && t.hour < 24 && t.minute < 60 && t.second < 60

/-! ### Reading -/

def digits? (bs : Bytes) : Option Nat :=
  bs.foldlM (fun n b => if 48 ≤ b ∧ b ≤ 57 then some (n * 10 + (b.toNat - 48)) else none) 0

def ofDigits? (year : Nat) (bs : Bytes) : Option Time := do
  if bs.length ≠ 11 ∨ bs.getLast? ≠ some 0x5A then none
  else
    let pair := fun i => digits? ((bs.drop i).take 2)
    let t : Time := ⟨year, ← pair 0, ← pair 2, ← pair 4, ← pair 6, ← pair 8⟩
    if t.exists? then return t else none

/-- Two digits of a year from 50 on mean the last century. -/
def ofElement? (e : Element) : Option Time := do
  if e.tag = shortTag then
    let y ← digits? (e.content.take 2)
    ofDigits? (if 50 ≤ y then 1900 + y else 2000 + y) (e.content.drop 2)
  else if e.tag = longTag then
    let y ← digits? (e.content.take 4)
    ofDigits? y (e.content.drop 4)
  else none

/-! ### Writing -/

def twoDigits (n : Nat) : Bytes := [UInt8.ofNat (48 + n / 10 % 10), UInt8.ofNat (48 + n % 10)]

/-- The short form for the years from 1950 to 2049. -/
def bytes (t : Time) : Bytes :=
  let rest := [t.month, t.day, t.hour, t.minute, t.second].flatMap twoDigits ++ [0x5A]
  if 1950 ≤ t.year ∧ t.year < 2050 then Der.element shortTag (twoDigits t.year ++ rest)
  else Der.element longTag (twoDigits (t.year / 100) ++ twoDigits t.year ++ rest)

/-! ### Instants -/

/-- The microseconds on a wall at universal time; the calendar starts at year one. -/
def wall (t : Time) : Int := Instant.wallOf t.year t.month t.day t.hour t.minute t.second 0

def instant (t : Time) : Except Fault Instant :=
  if t.year = 0 then .error (Fault.value "year 0 is out of range") else .ok ⟨t.wall, some 0⟩

/-- The time of a wall reading; what is below a second is dropped. -/
def ofWall (wall : Int) : Time :=
  let f := Instant.fieldsOf wall
  ⟨f.year.toNat, f.month.toNat, f.day.toNat, f.hour.toNat, f.minute.toNat, f.second.toNat⟩

end Time

end CertKeeper.X509
