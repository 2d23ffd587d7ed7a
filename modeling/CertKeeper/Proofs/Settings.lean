import CertKeeper.Provider

/-!
# Settings and their policy

Settings that were read lie within the declared bounds, and their policy is made of their numbers
of days, unless one of them is too long for a span.  Main statement: `Settings.declared_of_read`.
-/

namespace CertKeeper.Settings

variable {s : Settings}

/-! ### Bounds -/

structure Declared (s : Settings) : Prop where
  validity : 1 ≤ s.validityDays
  backdate : 0 ≤ s.backdateDays
  grace : 0 ≤ s.graceDays
  serial : 1 ≤ s.serialBytes ∧ s.serialBytes ≤ 19

theorem within_eq {least most : Option Int} {i j : Int} (h : Field.within least most i = .ok j) :
    i = j ∧ (∀ l, least = some l → l ≤ j) ∧ ∀ m, most = some m → j ≤ m := by
  cases least <;> cases most <;> simp only [Field.within] at h <;> grind

theorem whole_eq (least most : Option Int) (v : Value) : ∃ number : Except Complaint Int,
    Field.whole least most v = number >>= Field.within least most := by
  unfold Field.whole
  cases v with
  | bytes bs =>
    simp only
    cases Utf8.decode? bs with
    | none => exact ⟨.error .unreadableWhole, rfl⟩
    | some t => exact ⟨Field.wholeOfText t, rfl⟩
  | int i => exact ⟨.ok i, rfl⟩
  | bool b => exact ⟨.ok (if b then 1 else 0), rfl⟩
  | real r => exact ⟨Field.wholeOfReal r, rfl⟩
  | text t => exact ⟨Field.wholeOfText t, rfl⟩
  | _ => exact ⟨.error .notWhole, rfl⟩

theorem within_of_whole {least most : Option Int} {v : Value} {i : Int}
    (h : Field.whole least most v = .ok i) :
    (∀ l, least = some l → l ≤ i) ∧ ∀ m, most = some m → i ≤ m := by
  obtain ⟨number, split⟩ := whole_eq least most v
  rw [split] at h
  cases number with
  | error c => cases h
  | ok j => exact (within_eq h).2

theorem field_within {find : Text → Option Value} {name : String} {least most : Option Int}
    {fallback : Int} (fits : Field.within least most fallback = .ok fallback)
    (clean : (Reading.field find name (Field.whole least most) fallback).problems = []) :
    let i := (Reading.field find name (Field.whole least most) fallback).value
    (∀ l, least = some l → l ≤ i) ∧ ∀ m, most = some m → i ≤ m := by
  unfold Reading.field at clean ⊢
  cases found : find name with
  | none => exact (within_eq fits).2
  | some v =>
    rw [found] at clean
    cases read : Field.whole least most v with
    | error c =>
      simp only [read] at clean
      cases clean
    | ok i =>
      simp only [read]
      exact within_of_whole read

/-- Settings that were read have the declared bounds. -/
theorem declared_of_read {sources : Sources} (h : Settings.read sources = .ok s) : s.Declared := by
  unfold Settings.read Reading.result at h
  split at h
  next clean =>
    cases h
    simp only [reading, Reading.apply, List.append_eq_nil_iff, List.nil_append] at clean
    obtain ⟨⟨⟨⟨_, validity⟩, backdate⟩, grace⟩, serial⟩ := clean.1
    have v := field_within rfl validity
    have b := field_within rfl backdate
    have g := field_within rfl grace
    have n := field_within rfl serial
    exact ⟨v.1 1 rfl, b.1 0 rfl, g.1 0 rfl, n.1 1 rfl, n.2 19 rfl⟩
  next => cases h

/-! ### Policies -/

/-- The policy of settings whose spans are not too long. -/
def plan (s : Settings) : Policy :=
  ⟨⟨s.validityDays * Span.perDay⟩, ⟨s.backdateDays * Span.perDay⟩, ⟨s.graceDays * Span.perDay⟩,
    s.serialBytes⟩

theorem spanOf_cases (days : Int) :
    (days.natAbs ≤ Span.maxDays.natAbs ∧ spanOf days = .ok ⟨days * Span.perDay⟩) ∨
      ∃ f, spanOf days = .error f := by
  unfold spanOf Span.days?
  by_cases short : days.natAbs ≤ Span.maxDays.natAbs
  · rw [if_pos short]
    exact Or.inl ⟨short, rfl⟩
  · rw [if_neg short]
    refine Or.inr ?_
    simp only
    split
    · exact ⟨_, rfl⟩
    · exact ⟨_, rfl⟩

theorem policy_of_ok {p : Policy} (h : s.policy = .ok p) : p = s.plan := by
  unfold policy at h
  rcases spanOf_cases s.graceDays with ⟨_, grace⟩ | ⟨f, grace⟩
  · rcases spanOf_cases s.validityDays with ⟨_, validity⟩ | ⟨f, validity⟩
    · rcases spanOf_cases s.backdateDays with ⟨_, backdate⟩ | ⟨f, backdate⟩
      · rw [grace, validity, backdate] at h
        cases h
        rfl
      · rw [grace, validity, backdate] at h
        cases h
    · rw [grace, validity] at h
      cases h
  · rw [grace] at h
    cases h

theorem policy_of_short (grace : s.graceDays.natAbs ≤ Span.maxDays.natAbs)
    (validity : s.validityDays.natAbs ≤ Span.maxDays.natAbs)
    (backdate : s.backdateDays.natAbs ≤ Span.maxDays.natAbs) : s.policy = .ok s.plan := by
  simp only [policy, spanOf, Span.days?, grace, validity, backdate, if_true]
  rfl

end CertKeeper.Settings
