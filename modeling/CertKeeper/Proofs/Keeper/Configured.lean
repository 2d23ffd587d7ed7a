import CertKeeper.Proofs.Keeper.Outcome
import CertKeeper.Proofs.Keeper.Unlock
import CertKeeper.Proofs.Keeper.Window
import CertKeeper.Proofs.Settings

/-!
# Services that settings describe

Settings say how long certificates live, how far they reach back, and how soon before their end
they no longer count; each of the three has a bound of its own, and none is compared with another.
A service over a new store in memory keeps what it promises exactly for some of them.  Main
statement: `Settings.serves_iff`.
-/

namespace CertKeeper

open X509
open CertKeeper.Action (Leads start)

/-! ### Unlocking a store in memory -/

namespace Memory

variable {suite : Suite} {k : Keeper State} {b : Book} {r : Run State}

theorem credentials_of_open {s : Store} (open_ : s.locked = none) :
    (∃ w, s.password = some w) ∧ Credentials.isLocked ⟨s.password, s.loggedIn⟩ = false := by
  unfold Store.locked Store.isProtected at open_
  unfold Credentials.isLocked Credentials.isProtected
  cases set : s.password with
  | none =>
    rw [set] at open_
    cases open_
  | some w =>
    rw [set] at open_
    refine ⟨⟨w, rfl⟩, Bool.eq_false_iff.mpr fun locked => ?_⟩
    rw [locked] at open_
    cases open_

theorem State.Usable.shows_ {s₀ s : State}
    (h : s₀.Usable s ⟨s₀.store.password, s₀.store.loggedIn⟩)
    (available : s₀.store.available = true) (held : s₀.Shows b) : s.Shows b := by
  obtain ⟨formed, rfl⟩ := held
  have same : s.book = s₀.book := by
    unfold State.book Store.hasKey Store.key? Store.locked Store.isProtected
    rw [h.spares.entries, h.spares.keys, h.kept.1, h.kept.2, h.around, h.available, available]
  refine ⟨⟨same ▸ formed.sound, ?_⟩, same⟩
  rw [h.spares.entries, h.spares.imported]
  exact formed.numbered

theorem leads_ensureUnlocked (store : k.store = keyStore suite) (open_ : b.locked = none)
    (available : b.available = true) :
    Leads (State.Shows · b) k.ensureUnlocked fun o s => State.Shows s b ∧ o = .ok () := by
  intro r held
  have there : r.state.store.available = true := by
    rw [← available, ← held.2]
    rfl
  have unlocked : r.state.store.locked = none := by
    rw [← open_, ← held.2]
    rfl
  obtain ⟨⟨w, given⟩, free⟩ := credentials_of_open unlocked
  have told : k.store.Tells (fun _ _ => True) r.state.Usable := by
    rw [store]
    exact tells suite r.state
  obtain ⟨usable, answered⟩ :=
    Keeper.leads_isLoginRequired told _ r (State.usable_refl there)
  rw [Credentials.initialised_of_given given] at usable
  rw [Keeper.start_ensureUnlocked_free (Prod.ext answered rfl) free]
  exact ⟨usable.shows_ there held, rfl⟩

theorem start_ensureUnlocked_new (store : k.store = keyStore suite)
    (new : r.state.store = Store.new none) :
    ∃ b, (start k.ensureUnlocked r).1 = .ok () ∧ State.Shows (start k.ensureUnlocked r).2.state b ∧
      b.Empty ∧ b.available = true ∧ b.around = r.state.around := by
  obtain ⟨⟨_, a⟩, journal, operation⟩ := r
  obtain ⟨_, prompt, clock, suite', policy⟩ := k
  cases new
  cases store
  exact ⟨_, rfl, ⟨wellFormed_of_vacant rfl, rfl⟩, ⟨rfl, fun _ => rfl, rfl⟩, rfl, rfl⟩

end Memory

/-! ### Requests -/

namespace Keeper

variable {suite : Suite} {k : Keeper Memory.State} {now : Instant} {name : Text} {b : Book}
  {r : Run Memory.State}

/-- What becomes of a request for a certificate: the store is unlocked and the work is done. -/
def request {σ : Type} (k : Keeper σ) (name : Value) : Action σ Entry := do
  k.ensureUnlocked
  k.obtain name

theorem start_request_new (laws : suite.Lawful) (store : k.store = Memory.keyStore suite)
    (clock : ∀ s, k.clock s = now) (regular : Regular k.policy now)
    (serial : 0 ≤ k.policy.serialBytes ∧ k.policy.serialBytes ≤ 19)
    (accepted : Identity.check (.text name) = .ok name)
    (new : r.state.store = Memory.Store.new none) {key : PrivateKey} {a : Surroundings}
    (drew : r.state.around.drawKey .p256 = (.ok key, a)) (valid : key.Valid) :
    (k.policy.Feasible now ∧ ∃ e b', (start (k.request (.text name)) r).1 = .ok e ∧
      Memory.State.Shows (start (k.request (.text name)) r).2.state b' ∧
        b'.first? name = some e ∧ b'.locked = none ∧ b'.available = true ∧
          Issued suite name key e.certificate ∧ e.certificate.Spans k.policy now) ∨
      (¬ k.policy.Feasible now ∧ ∃ f, (start (k.request (.text name)) r).1 = .error f) := by
  have keeps : k.store.Keeps suite Memory.State.Shows (fun _ => True) fun _ => True := by
    rw [store]
    exact Memory.keeps suite
  obtain ⟨b, unlocked, held, empty, available, around⟩ := Memory.start_ensureUnlocked_new store new
  have none_ : b.under name = [] := by rw [Book.under, empty.entries]; rfl
  unfold request
  rw [Action.start_bind_ok (Prod.ext unlocked rfl)]
  exact leads_obtain_new keeps laws clock regular serial trivial available empty.locked
    (around ▸ drew) valid accepted none_ _ held

theorem start_request_again (store : k.store = Memory.keyStore suite)
    (clock : ∀ s, k.clock s = now) (accepted : Identity.check (.text name) = .ok name)
    (held : Memory.State.Shows r.state b) (open_ : b.locked = none) (available : b.available = true)
    {e : Entry} (first : b.first? name = some e) (valid : k.checked name now e = .ok ()) :
    (start (k.request (.text name)) r).1 = .ok e ∧
      Memory.State.Shows (start (k.request (.text name)) r).2.state b := by
  have keeps : k.store.Keeps suite Memory.State.Shows (fun _ => True) fun _ => True := by
    rw [store]
    exact Memory.keeps suite
  have requested : Leads (Memory.State.Shows · b) (k.request (.text name)) fun o s =>
      Memory.State.Shows s b ∧ o = .ok e :=
    (Memory.leads_ensureUnlocked store open_ available).bind_ok
      (leads_obtain_valid keeps clock accepted first valid)
  exact (requested r held).symm

end Keeper

/-! ### Settings -/

namespace Settings

variable {suite : Suite} {s : Settings} {now : Instant}

def keeper (suite : Suite) (now : Instant) (s : Settings) : Except Fault (Keeper Memory.State) := do
  let policy ← s.policy
  return ⟨Memory.keyStore suite, s.prompt, fun _ => now, suite, policy⟩

/-- A service keeps its promise: the first request under a name is answered with a certificate that
passes the check, and the next one with the same entry, for which nothing changes. -/
def Serves (suite : Suite) (now : Instant) (name : Text) (r : Run Memory.State) (s : Settings) :
    Prop :=
  ∃ k, s.keeper suite now = .ok k ∧ ∃ e,
    let once := start (k.request (.text name)) r
    let again := start (k.request (.text name)) once.2
    once.1 = .ok e ∧ k.checked name now e = .ok () ∧
      again.1 = .ok e ∧ again.2.state.book = once.2.state.book

theorem policy_of_feasible (declared : s.Declared) (inside : Instant.inCalendar now.wall = true)
    (feasible : s.plan.Feasible now) (margin : s.graceDays ≤ s.validityDays) :
    s.policy = .ok s.plan := by
  have within := Keeper.inCalendar_iff.mp inside
  have early : Template.earliest ≤ now.wall - s.backdateDays * Span.perDay := feasible.begins
  have late : now.wall + s.validityDays * Span.perDay < Calendar.dayCount * Span.perDay :=
    (Keeper.inCalendar_iff.mp feasible.ends).2
  have start := Keeper.earliest_nonneg
  have validity := declared.validity
  have backdate := declared.backdate
  have grace := declared.grace
  simp only [Span.perDay, Span.perSecond, Calendar.dayCount] at within early late
  refine policy_of_short ?_ ?_ ?_ <;> simp only [Span.maxDays] <;> omega

theorem regular_plan (declared : s.Declared) (universal : now.offset = some 0)
    (inside : Instant.inCalendar now.wall = true) : Keeper.Regular s.plan now := by
  have validity := declared.validity
  have backdate := declared.backdate
  have grace := declared.grace
  have day : 0 ≤ Span.perDay := by decide
  exact ⟨universal, inside, Int.mul_nonneg backdate day, Int.mul_nonneg (by omega) day,
    Int.mul_nonneg grace day⟩

theorem margin_iff (s : Settings) (now : Instant) :
    s.plan.grace.micros + (now.wall + s.plan.validity.micros) % Span.perSecond
        ≤ s.plan.validity.micros ↔
      s.graceDays < s.validityDays ∨
        s.graceDays = s.validityDays ∧ now.wall % Span.perSecond = 0 := by
  simp only [plan, Span.perDay, Span.perSecond]
  omega

theorem feasible_plan_iff (declared : s.Declared)
    (inside : Instant.inCalendar now.wall = true) : s.plan.Feasible now ↔
      Template.earliest ≤ now.wall - s.backdateDays * Span.perDay ∧
        now.wall + s.validityDays * Span.perDay < Calendar.dayCount * Span.perDay := by
  have validity := declared.validity
  have within := (Keeper.inCalendar_iff.mp inside).1
  have ends : 0 ≤ now.wall + s.validityDays * Span.perDay := by
    simp only [Span.perDay, Span.perSecond]
    omega
  constructor
  · intro feasible
    exact ⟨feasible.begins, (Keeper.inCalendar_iff.mp feasible.ends).2⟩
  · rintro ⟨early, late⟩
    exact ⟨early, Keeper.inCalendar_iff.mpr ⟨ends, late⟩⟩

/-- Settings within their bounds make a service that keeps its promise exactly where certificates
do not begin before 1950, the calendar goes on to their end, and the margin is shorter than their
life, or just as long at a full second. -/
theorem serves_iff (laws : suite.Lawful) (declared : s.Declared) (universal : now.offset = some 0)
    (era : Instant.wallOf 1951 1 1 0 0 0 0 ≤ now.wall ∧ now.wall < Instant.wallOf 2101 1 1 0 0 0 0)
    {name : Text} (accepted : Identity.check (.text name) = .ok name) {r : Run Memory.State}
    (new : r.state.store = Memory.Store.new none) {key : PrivateKey} {a : Surroundings}
    (drew : r.state.around.drawKey .p256 = (.ok key, a)) (valid : key.Valid) :
    s.Serves suite now name r ↔
      Template.earliest ≤ now.wall - s.backdateDays * Span.perDay ∧
        now.wall + s.validityDays * Span.perDay < Calendar.dayCount * Span.perDay ∧
          (s.graceDays < s.validityDays ∨
            s.graceDays = s.validityDays ∧ now.wall % Span.perSecond = 0) := by
  have inside : Instant.inCalendar now.wall = true := by
    have begin_ : 0 ≤ Instant.wallOf 1951 1 1 0 0 0 0 := by decide
    have end_ : Instant.wallOf 2101 1 1 0 0 0 0 ≤ Calendar.dayCount * Span.perDay := by decide
    exact Keeper.inCalendar_iff.mpr ⟨Int.le_trans begin_ era.1, Int.lt_of_lt_of_le era.2 end_⟩
  have regular := regular_plan declared universal inside
  have serial : 0 ≤ s.plan.serialBytes ∧ s.plan.serialBytes ≤ 19 :=
    ⟨Int.le_trans (by decide) declared.serial.1, declared.serial.2⟩
  obtain ⟨k, built⟩ : ∃ k : Keeper Memory.State,
      k = ⟨Memory.keyStore suite, s.prompt, fun _ => now, suite, s.plan⟩ := ⟨_, rfl⟩
  have asked := @Keeper.start_request_new suite k now name r laws (built ▸ rfl)
    (fun _ => built ▸ rfl) (built ▸ regular) (built ▸ serial) accepted new key a drew valid
  have passes {e : Entry} (feasible : s.plan.Feasible now)
      (issued : Keeper.Issued suite name key e.certificate)
      (spans : e.certificate.Spans s.plan now) : k.checked name now e = .ok () ↔
        s.graceDays < s.validityDays ∨
          s.graceDays = s.validityDays ∧ now.wall % Span.perSecond = 0 := by
    rw [← margin_iff, ← Keeper.checkWindow_iff regular feasible spans, Keeper.checked,
      Validation.check_eq_ok_iff, built]
    exact ⟨fun both => both.2, fun window => ⟨issued.identity, window⟩⟩
  rw [← and_assoc, ← feasible_plan_iff declared inside]
  constructor
  · rintro ⟨k', made, e, once, checked, _⟩
    have same : k' = k := by
      unfold keeper at made
      cases planned : s.policy with
      | error f =>
        rw [planned] at made
        cases made
      | ok p =>
        rw [planned, policy_of_ok planned] at made
        rw [built]
        exact (Except.ok.inj made).symm
    rw [same] at once checked
    have policy_ : k.policy = s.plan := by rw [built]
    rcases asked with ⟨feasible, e', _, answered, _, _, _, _, issued, spans⟩ | ⟨_, f, failed⟩
    · obtain rfl : e = e' := Except.ok.inj (once.symm.trans answered)
      rw [policy_] at feasible spans
      exact ⟨feasible, (passes feasible issued spans).mp checked⟩
    · cases once.symm.trans failed
  · rintro ⟨feasible, margin⟩
    have policy_ : k.policy = s.plan := by rw [built]
    rcases asked with ⟨_, e, b, answered, held, first, open_, available, issued, spans⟩ | ⟨not, _⟩
    · rw [policy_] at spans
      have checked := (passes feasible issued spans).mpr margin
      obtain ⟨again, held'⟩ := @Keeper.start_request_again suite k now name b _ (built ▸ rfl)
        (fun _ => built ▸ rfl) accepted held open_ available e first checked
      have planned := policy_of_feasible declared inside feasible (by omega)
      refine ⟨k, ?_, e, answered, checked, again, held'.2.trans held.2.symm⟩
      rw [keeper, planned, built]
      rfl
    · rw [policy_] at not
      exact absurd feasible not

/-- A life of a day and a margin of five: the certificate that is issued does not pass. -/
theorem not_serves_of_long_margin :
    let s : Settings := { standard with validityDays := 1, graceDays := 5 }
    s.Declared ∧ ¬ s.Serves Suite.lenient Keeper.noon "server"
      ⟨⟨Memory.Store.new none, Keeper.quiet⟩, [], none⟩ := by
  intro s
  have declared : s.Declared := ⟨by decide, by decide, by decide, by decide⟩
  have drew : Keeper.quiet.drawKey .p256
      = (.ok ⟨.p256, 1⟩, { Keeper.quiet with nextScalar := 2 }) := rfl
  refine ⟨declared, fun serves => ?_⟩
  have margin := (serves_iff Suite.lawful_lenient declared rfl (by decide) rfl rfl drew
    ⟨by decide, by decide⟩).mp serves
  revert margin
  decide

end Settings

end CertKeeper
