import CertKeeper.Proofs.Keeper.Renewal
import CertKeeper.Proofs.Validation

/-!
# Requests for odd certificates

A request whose first certificate has a verdict gives it back, or goes on to replace it, or stops
at a certificate of another's; one whose first certificate has none ends with the fault of the check
and changes nothing.  Main statement: `Keeper.verdict_unless_undecided`.
-/

namespace CertKeeper

open X509
open CertKeeper.Action (Leads start)
open Validation (Undecided Unread)

namespace Keeper

variable {σ : Type} {k : Keeper σ} {suite : Suite} {shows_ : σ → Book → Prop}
  {ready newest : Book → Prop} {b : Book} {name : Text} {e : Entry} {f : Fault} {r : Run σ}

theorem isUnexpected_refusal_iff (accepted : Identity.check (.text name) = .ok name)
    (foreign : Validation.checkIdentity k.suite e.certificate (.text name) = .error f) :
    (refusal name e f).IsUnexpected ↔ ¬ Unread k.suite e.certificate := by
  rw [← Validation.checkIdentity_undecided_iff accepted]
  unfold refusal
  cases why : Validation.reason? f with
  | some reason =>
    refine iff_of_true ⟨name, e.certificate.serialText, rfl⟩ ?_
    rintro ⟨f', failed, none_⟩
    obtain rfl : f = f' := Except.error.inj (foreign.symm.trans failed)
    cases why.symm.trans none_
  | none =>
    refine iff_of_false ?_ fun decided => decided ⟨f, foreign, why⟩
    have unread : Unread k.suite e.certificate :=
      (Validation.checkIdentity_undecided_iff accepted).mp ⟨f, foreign, why⟩
    obtain ⟨f', failed, refused⟩ := Validation.checkIdentity_of_unread unread (.text name)
    obtain rfl : f = f' := Except.error.inj (foreign.symm.trans failed)
    exact Validation.not_isUnexpected_of_refused refused

/-- How a request ends that is not answered with what is there: the entries before a foreign one are
gone, or all are and there is one in their place or none. -/
inductive Regenerated (k : Keeper σ) (shows_ : σ → Book → Prop) (b : Book) (name : Text)
    (o : Except Fault Entry) (s : σ) : Prop
  | stopped (own : List Entry) (x : Entry) (rest : List Entry) (f : Fault)
      (split : b.under name = own ++ x :: rest) (owns : ∀ y ∈ own, k.Owns name y)
      (foreign : ¬ k.Owns name x) (told : f.IsUnexpected ↔ ¬ Unread k.suite x.certificate)
      (held : shows_ s (b.remove own)) (ended : o = .error f)
  | cleared (b' : Book) (owns : ∀ x ∈ b.under name, k.Owns name x) (held : shows_ s b')
      (ended : (∃ e, o = .ok e ∧ b'.under name = [e]) ∨
        ∃ f, o = .error f ∧ ¬ f.IsUnexpected ∧ b'.under name = [])

theorem Replaced.regenerated {o : Except Fault Entry} {s : σ}
    (accepted : Identity.check (.text name) = .ok name) (available : b.available = true)
    (h : k.Replaced suite shows_ b name o s) : k.Regenerated shows_ b name o s := by
  cases h with
  | refused away => cases away.symm.trans available
  | stopped own x rest failed split owns foreign held ended =>
    exact .stopped own x rest _ split owns (fun own => nomatch own.symm.trans foreign)
      (isUnexpected_refusal_iff accepted foreign) held ended
  | abandoned f a owns held plain ended =>
    exact .cleared _ owns held (.inr ⟨f, ended, plain, b.under_remove_under name⟩)
  | stranded f key a owns held small plain ended =>
    exact .cleared _ owns held (.inr ⟨f, ended, plain, b.under_remove_under name⟩)
  | issued e key a b' owns unlocked drew named certificate bound gains only held ended =>
    exact .cleared b' owns held (.inl ⟨e, ended, only⟩)

/-- A request whose first entry has a verdict at its time gives the entry back or goes on to replace
it; one whose first entry has none ends with the fault of the check, and nothing changes. -/
theorem start_obtain_odd (keeps : k.store.Keeps suite shows_ ready newest) (laws : suite.Lawful)
    (writable : ready b) (available : b.available = true)
    (accepted : Identity.check (.text name) = .ok name)
    (draws : (b.remove (b.under name)).Draws suite) (held : shows_ r.state b)
    (first : b.first? name = some e) :
    let now := k.reading name r
    let ended := start (k.obtain (.text name)) r
    (Undecided k.suite k.policy.grace now e.certificate name ∧ shows_ ended.2.state b ∧
        ∃ f, ended.1 = .error f ∧ k.checked name now e = .error f ∧
          Validation.reason? f = none) ∨
      (¬ Undecided k.suite k.policy.grace now e.certificate name ∧
        ((ended.1 = .ok e ∧ k.checked name now e = .ok () ∧ shows_ ended.2.state b) ∨
          k.Regenerated shows_ b name ended.1 ended.2.state)) := by
  intro now ended
  have undecided := @Validation.check_undecided_iff k.suite k.policy.grace now e.certificate name
    accepted
  have same {x : Entry} (h : b.first? name = some x) : x = e :=
    Option.some.inj (h.symm.trans first)
  cases start_obtain keeps laws writable accepted draws held with
  | reused x first' valid held' ended' =>
    obtain rfl := same first'
    refine .inr ⟨fun h => ?_, .inl ⟨ended', valid, held'⟩⟩
    obtain ⟨f, failed, _⟩ := undecided.mpr h
    cases valid.symm.trans failed
  | unclear x f first' failed why held' ended' =>
    obtain rfl := same first'
    exact .inl ⟨undecided.mp ⟨f, failed, why⟩, held', f, ended', failed, why⟩
  | replaced stale out =>
    obtain ⟨f, reason, failed, why⟩ := stale e first
    refine .inr ⟨fun h => ?_, .inr (out.regenerated accepted available)⟩
    obtain ⟨f', failed', none_⟩ := undecided.mpr h
    obtain rfl : f = f' := Except.error.inj (failed.symm.trans failed')
    cases why.symm.trans none_

/-- A check has a verdict, and the question whether a certificate is valid an answer, unless the
certificate is undecided; one with a key that signs nothing is found not to have signed itself
where the key can be read; and a request fails with a fault of the check exactly where its first
certificate is undecided, or where it is not valid and the first foreign one cannot be read. -/
theorem verdict_unless_undecided (keeps : k.store.Keeps suite shows_ ready newest)
    (laws : suite.Lawful) (writable : ready b) (available : b.available = true)
    (accepted : Identity.check (.text name) = .ok name)
    (draws : (b.remove (b.under name)).Draws suite) (held : shows_ r.state b)
    (first : b.first? name = some e) :
    (∀ (suite : Suite) (grace : Span) (now : Instant) (c : Certificate),
      ((∃ f, Validation.check suite grace now c (.text name) = .error f ∧
        Validation.reason? f = none) ↔ Undecided suite grace now c name) ∧
      ((∃ valid, Validation.isValid suite grace now c (.text name) = .ok valid) ↔
        ¬ Undecided suite grace now c name)) ∧
    (∀ (grace : Span) (now : Instant) (c : Certificate),
      c.key.algorithm.oid ∉ Validation.signingKinds →
        ((∃ f, Validation.check Suite.standard grace now c (.text name) = .error f ∧
          Validation.reason? f = some .notSelfSigned) ↔ ∃ k, c.publicKey = .ok k)) ∧
    let now := k.reading name r
    let ended := start (k.obtain (.text name)) r
    (Undecided k.suite k.policy.grace now e.certificate name ∧ shows_ ended.2.state b ∧
        ∃ f, ended.1 = .error f ∧ k.checked name now e = .error f ∧
          Validation.reason? f = none) ∨
      (¬ Undecided k.suite k.policy.grace now e.certificate name ∧
        ((ended.1 = .ok e ∧ k.checked name now e = .ok () ∧ shows_ ended.2.state b) ∨
          k.Regenerated shows_ b name ended.1 ended.2.state)) :=
  ⟨fun _ _ _ _ => ⟨Validation.check_undecided_iff accepted, Validation.isValid_iff accepted⟩,
    fun _ _ _ kind => Validation.notSelfSigned_iff_readable kind (.text name),
    start_obtain_odd keeps laws writable available accepted draws held first⟩

/-! ### A margin longer than the calendar -/

def farsighted : Keeper Memory.State :=
  { ofMemory with policy := { Policy.standard with grace := ⟨1000000 * Span.perDay⟩ } }

/-- It cannot decide about the certificate that it has just issued. -/
theorem undecided_of_long_margin : ∃ e : Entry,
    let once := start (farsighted.obtain (.text "server")) ⟨inMemory, [], none⟩
    let again := start (farsighted.obtain (.text "server"))
      ⟨Provider.memory.amid once.2.state keyless, [], none⟩
    once.1 = .ok e ∧
      Undecided Suite.lenient farsighted.policy.grace noon e.certificate "server" ∧
      again.2.state.book.entries = once.2.state.book.entries ∧
      ∃ f, again.1 = .error f ∧ Validation.reason? f = none := by
  have inRange : farsighted.policy.InRange noon :=
    ⟨rfl, by decide +kernel, by decide +kernel, by decide +kernel⟩
  have serial : 0 ≤ farsighted.policy.serialBytes ∧ farsighted.policy.serialBytes ≤ 19 := by decide
  have sound : inMemory.WellFormed := Memory.wellFormed_of_vacant rfl
  have keeps := Memory.keeps Suite.lenient
  obtain ⟨e, b, ended, held, holds, _⟩ := @leads_obtain_inRange Suite.lenient .memory
    (fun _ => True) farsighted "server" inMemory.book noon Suite.lawful_lenient rfl rfl serial
    inRange trivial rfl rfl (fun _ impossible => nomatch impossible) (List.forall_mem_nil _)
    ⟨.p256, 1⟩ _ rfl (draws_inMemory.fresh _ _ rfl).1 ⟨inMemory, [], none⟩ ⟨sound, rfl⟩
  have only : b.under "server" = [e] := holds.only
  have first : (b.amid keyless).first? "server" = some e := by
    rw [Book.first?_eq]
    exact congrArg List.head? only
  have draws : ((b.amid keyless).remove ((b.amid keyless).under "server")).Draws Suite.lenient := by
    refine ⟨fun f a drew => ?_, fun key a drew => ?_⟩
    · cases drew
      rfl
    · cases drew
  have undecided : Undecided Suite.lenient farsighted.policy.grace noon e.certificate "server" := by
    obtain ⟨key, issued⟩ := holds.issued
    have begins := holds.spans.first
    have ends := holds.spans.last
    refine .margin issued.identity ?_ ?_
    · rw [begins, Time.wall_ofWall inRange.begins inRange.first_inCalendar]
      decide +kernel
    · rw [ends, Time.wall_ofWall inRange.late inRange.last_inCalendar]
      decide +kernel
  have shown := Provider.shows_amid held keyless
  obtain ⟨_, _, ⟨_, held', f, failed, _, why⟩ | ⟨decided, _⟩⟩ := verdict_unless_undecided
    (k := farsighted) (b := b.amid keyless) (r := ⟨Provider.memory.amid _ keyless, [], none⟩) keeps
    Suite.lawful_lenient trivial holds.available rfl draws shown first
  · have entries := congrArg Book.entries (held'.2.trans shown.2.symm)
    exact ⟨e, ended, undecided, entries, f, failed, why⟩
  · exact absurd undecided decided

end Keeper

end CertKeeper
