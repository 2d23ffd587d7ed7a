import CertKeeper.Identity

/-!
# Validation of managed certificates

A certificate is a valid managed identity for a name when it signed itself, its subject is its
issuer, its subject is that of the name, and the clock lies between its first instant and a
margin before its last.  The checks are made in this order and the first that fails is named.
-/

namespace CertKeeper.Validation

open X509

def unfit (reason : Unfit) (message : Text) : Fault :=
  Fault.lifecycle (.validation reason) message

/-! ### Identity -/

def checkIdentity (suite : Suite) (c : Certificate) (name : Value) : Except Fault Unit := do
  if !(← suite.selfSigned c) then
    throw (unfit .notSelfSigned "Certificate signature does not verify against its own key")
  let subject ← c.subjectName
  let issuer ← c.issuerName
  if !sameName subject issuer then
    throw (unfit .subjectIssuerMismatch ("Subject " ++ (spellName subject).quoted ++
      " differs from issuer " ++ (spellName issuer).quoted))
  let wanted ← (← Identity.subject name).read
  if !sameName subject wanted then
    throw (unfit .nameMismatch ("Subject " ++ (spellName subject).quoted ++ " is not CN=" ++
      name.spell))

/-! ### Time -/

/-- Compares two instants, which clocks of different kinds do not allow. -/
def before (t u : Instant) : Except Fault Bool :=
  match t.before? u with
  | some b => .ok b
  | none => .error (Fault.type "can't compare offset-naive and offset-aware datetimes")

def shift (t : Instant) (s : Span) : Except Fault Instant :=
  match t.add? s with
  | some u => .ok u
  | none => .error (Fault.plain .overflow "date value out of range")

/-- Whether the clock is outside the window; the end is asked for only from the start on. -/
def outside (grace : Span) (now first last : Instant) : Except Fault Bool := do
  if ← before now first then return true
  else before (← shift last (-grace)) now

def checkWindow (grace : Span) (now : Instant) (c : Certificate) : Except Fault Unit := do
  let first ← c.notBefore.instant
  let last ← c.notAfter.instant
  if ← outside grace now first last then
    throw (unfit .expiredOrNotYetValid ("Certificate valid " ++ first.spell ++ " to " ++
      last.spell ++ " is not acceptable at " ++ now.spell))

/-! ### All checks -/

def check (suite : Suite) (grace : Span) (now : Instant) (c : Certificate) (name : Value) :
    Except Fault Unit := do
  checkIdentity suite c name
  checkWindow grace now c

theorem check_eq_ok_iff {suite : Suite} {grace : Span} {now : Instant} {c : Certificate}
    {name : Value} :
    check suite grace now c name = .ok () ↔
      checkIdentity suite c name = .ok () ∧ checkWindow grace now c = .ok () := by
  unfold check
  rcases checkIdentity suite c name with e | ⟨⟨⟩⟩
  · simp [bind, Except.bind]
  · simp [bind, Except.bind]

/-- The reason for which a check failed, where it was a check that failed. -/
def reason? (e : Fault) : Option Unfit :=
  match e.failure with
  | .lifecycle (.validation reason) _ => some reason
  | _ => none

/-- A failed check means "no"; any other fault goes on. -/
def isValid (suite : Suite) (grace : Span) (now : Instant) (c : Certificate) (name : Value) :
    Except Fault Bool :=
  match check suite grace now c name with
  | .ok () => .ok true
  | .error e => if (reason? e).isSome then .ok false else .error e

theorem isValid_eq_true_iff {suite : Suite} {grace : Span} {now : Instant} {c : Certificate}
    {name : Value} :
    isValid suite grace now c name = .ok true ↔ check suite grace now c name = .ok () := by
  unfold isValid
  rcases check suite grace now c name with e | ⟨⟨⟩⟩
  · simp only [reduceCtorEq, iff_false]
    split <;> simp
  · simp

end CertKeeper.Validation
