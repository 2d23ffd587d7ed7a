import CertKeeper.Proofs.Keeper.Obtain

/-!
# Windows of validity

The window that a policy gives to a certificate, to the second, and when the policy accepts that
window, at once or at another time.  Main statements: `Keeper.leads_obtain_new`,
`Keeper.checkWindow_iff` and `Keeper.checkWindow_at`.
-/

namespace CertKeeper

open X509
open CertKeeper.Action (Leads)

/-- A reading of the clock at which a policy can issue: certificates do not begin before 1950, and
the calendar goes on to their end. -/
structure Policy.Feasible (p : Policy) (now : Instant) : Prop where
  begins : Template.earliest ≤ now.wall - p.backdate.micros
  ends : Instant.inCalendar (now.wall + p.validity.micros) = true

/-- A reading of the clock at which a policy can issue, whichever way its spans point: the window
is not the wrong way round, and it lies in the calendar from 1950 on. -/
structure Policy.InRange (p : Policy) (now : Instant) : Prop where
  universal : now.offset = some 0
  begins : Template.earliest ≤ now.wall - p.backdate.micros
  ordered : now.wall - p.backdate.micros ≤ now.wall + p.validity.micros
  ends : now.wall + p.validity.micros < Calendar.dayCount * Span.perDay

def Fault.beyond : Fault := Fault.plain .overflow "date value out of range"

/-- A wall reading without what is below a second. -/
def Instant.floor (wall : Int) : Int := wall - wall % Span.perSecond

/-- What a policy issues at one reading of the clock has begun at another one, and does not end so
soon then that it no longer counts. -/
structure Policy.Covers (p : Policy) (now later : Instant) : Prop where
  begun : Instant.floor (now.wall - p.backdate.micros) ≤ later.wall
  lasting : later.wall ≤ Instant.floor (now.wall + p.validity.micros) - p.grace.micros

/-- A certificate has the window of a policy, without what is below a second. -/
structure X509.Certificate.Spans (c : Certificate) (p : Policy) (now : Instant) : Prop where
  first : c.notBefore = Time.ofWall (now.wall - p.backdate.micros)
  last : c.notAfter = Time.ofWall (now.wall + p.validity.micros)

/-! ### Ranges -/

theorem Keeper.inCalendar_iff {w : Int} : Instant.inCalendar w = true ↔
    0 ≤ w ∧ w < Calendar.dayCount * Span.perDay := by
  rw [Instant.inCalendar, Bool.and_eq_true, decide_eq_true_eq, decide_eq_true_eq]

theorem Keeper.earliest_nonneg : 0 ≤ Template.earliest := by
  rw [Time.earliest_eq]
  decide

namespace Policy.InRange

variable {policy : Policy} {now : Instant}

theorem late (h : policy.InRange now) : Template.earliest ≤ now.wall + policy.validity.micros :=
  Int.le_trans h.begins h.ordered

theorem first_inCalendar (h : policy.InRange now) :
    Instant.inCalendar (now.wall - policy.backdate.micros) = true :=
  Keeper.inCalendar_iff.mpr ⟨Int.le_trans Keeper.earliest_nonneg h.begins,
    Int.lt_of_le_of_lt h.ordered h.ends⟩

theorem last_inCalendar (h : policy.InRange now) :
    Instant.inCalendar (now.wall + policy.validity.micros) = true :=
  Keeper.inCalendar_iff.mpr ⟨Int.le_trans Keeper.earliest_nonneg h.late, h.ends⟩

end Policy.InRange

namespace Keeper

variable {policy : Policy} {now : Instant} {subject : Name} {key : KeyHandle} {serial : Nat}

/-- The clock shows universal time within the calendar, and the policy looks both ways. -/
structure Regular (policy : Policy) (now : Instant) : Prop where
  universal : now.offset = some 0
  inside : Instant.inCalendar now.wall = true
  backward : 0 ≤ policy.backdate.micros
  forward : 0 ≤ policy.validity.micros
  margin : 0 ≤ policy.grace.micros

/-! ### Templates -/

theorem Regular.inRange (regular : Regular policy now) (feasible : policy.Feasible now) :
    policy.InRange now := by
  have backward := regular.backward
  have forward := regular.forward
  exact ⟨regular.universal, feasible.begins, by omega, (inCalendar_iff.mp feasible.ends).2⟩

theorem shift_eq {t : Instant} {s : Span} (h : Instant.inCalendar (t.wall + s.micros) = true) :
    Validation.shift t s = .ok ⟨t.wall + s.micros, t.offset⟩ := by
  rw [Validation.shift, Instant.add?, if_pos h]

theorem shift_beyond {t : Instant} {s : Span}
    (outside : ¬ Instant.inCalendar (t.wall + s.micros) = true) :
    Validation.shift t s = .error Fault.beyond := by
  rw [Validation.shift, Instant.add?, if_neg outside]
  rfl

theorem inCalendar_of_shift {t u : Instant} {s : Span} (h : Validation.shift t s = .ok u) :
    u = ⟨t.wall + s.micros, t.offset⟩ ∧ Instant.inCalendar (t.wall + s.micros) = true := by
  unfold Validation.shift at h
  cases moved : t.add? s with
  | none =>
    rw [moved] at h
    cases h
  | some v =>
    rw [moved] at h
    cases h
    obtain ⟨rfl, inside⟩ := Instant.add?_eq_some moved
    exact ⟨rfl, inside⟩

theorem universalWall_eq {i : Instant} (universal : i.offset = some 0)
    (inside : Instant.inCalendar i.wall = true) : Template.universalWall i = .ok i.wall := by
  have same : i.universal = i.wall := by
    rw [Instant.universal, universal]
    exact Int.sub_zero i.wall
  rw [Template.universalWall, same, if_pos inside]

theorem withNotBefore_eq {t : Template} {i : Instant} (universal : i.offset = some 0)
    (inside : Instant.inCalendar i.wall = true) (none_ : t.notAfter = none) :
    t.withNotBefore i = if i.wall < Template.earliest then
        .error (Fault.value "The not valid before date must be on or after 1950 January 1).")
      else .ok { t with notBefore := some i.wall } := by
  simp only [Template.withNotBefore, universalWall_eq universal inside, none_, bind, Except.bind]
  rfl

theorem withNotAfter_eq {t : Template} {i : Instant} {w : Int} (universal : i.offset = some 0)
    (inside : Instant.inCalendar i.wall = true) (some_ : t.notBefore = some w)
    (late : Template.earliest ≤ w) (after : w ≤ i.wall) :
    t.withNotAfter i = .ok { t with notAfter := some i.wall } := by
  have notEarly : ¬ i.wall < Template.earliest := by omega
  have notBefore : ¬ i.wall < w := by omega
  simp only [Template.withNotAfter, universalWall_eq universal inside, some_, bind, Except.bind,
    notEarly, if_false, Option.any_some, notBefore, decide_false, Bool.false_eq_true]
  rfl

theorem withSerial_eq (t : Template) (positive : 0 < serial) (small : serial < 2 ^ 159) :
    t.withSerial serial = .ok { t with serial := some serial } := by
  have notZero : ¬ (serial : Int) ≤ 0 := by omega
  have notLong : ¬ Int.pow 2 Template.serialBits ≤ serial := by
    have cast : Int.pow 2 Template.serialBits = ((2 ^ 159 : Nat) : Int) := rfl
    rw [cast]
    omega
  rw [Template.withSerial, if_neg notZero, if_neg notLong]
  rfl

theorem template_eq (inRange : policy.InRange now) (positive : 0 < serial)
    (small : serial < 2 ^ 159) (subject : Name) (key : KeyHandle) :
    ∃ t, template policy now subject key serial = .ok t ∧
      t.complete = .ok (parts subject key.publicKey serial (now.wall - policy.backdate.micros)
        (now.wall + policy.validity.micros)) := by
  have same : now.wall + (-policy.backdate).micros = now.wall - policy.backdate.micros := rfl
  have first := inRange.first_inCalendar
  have last := inRange.last_inCalendar
  unfold template
  rw [shift_eq (s := -policy.backdate) first, shift_eq last]
  simp only [bind, Except.bind, withSerial_eq _ positive small]
  rw [@withNotBefore_eq _ ⟨now.wall + (-policy.backdate).micros, now.offset⟩ inRange.universal
    first rfl]
  simp only [same]
  rw [if_neg (Int.not_lt.mpr inRange.begins)]
  simp only
  rw [@withNotAfter_eq _ ⟨now.wall + policy.validity.micros, now.offset⟩ _ inRange.universal
    last rfl inRange.begins inRange.ordered]
  exact ⟨_, rfl, rfl⟩

/-- Where the policy is not feasible no template can be built. -/
theorem feasible_of_template (universal : now.offset = some 0) (positive : 0 < serial)
    (small : serial < 2 ^ 159) {t : Template}
    (built : template policy now subject key serial = .ok t) : policy.Feasible now := by
  have same : now.wall + (-policy.backdate).micros = now.wall - policy.backdate.micros := rfl
  unfold template at built
  cases begins : Validation.shift now (-policy.backdate) with
  | error e =>
    rw [begins] at built
    cases built
  | ok first =>
  cases ends : Validation.shift now policy.validity with
  | error e =>
    rw [begins, ends] at built
    cases built
  | ok last =>
  obtain ⟨rfl, inside⟩ := inCalendar_of_shift begins
  obtain ⟨rfl, inside'⟩ := inCalendar_of_shift ends
  refine ⟨?_, inside'⟩
  rw [begins, ends] at built
  simp only [bind, Except.bind, withSerial_eq _ positive small] at built
  rw [@withNotBefore_eq _ ⟨now.wall + (-policy.backdate).micros, now.offset⟩ universal inside rfl]
    at built
  simp only [same] at built
  by_cases early : now.wall - policy.backdate.micros < Template.earliest
  · rw [if_pos early] at built
    cases built
  · exact Int.not_lt.mp early

/-! ### The check -/

theorem before_eq {t u : Instant} (ht : t.offset = some 0) (hu : u.offset = some 0) :
    Validation.before t u = .ok (decide (t.wall < u.wall)) := by
  simp only [Validation.before, Instant.before?, ht, hu, if_true, Instant.universal,
    Option.getD_some, Int.sub_zero]

theorem checkWindow_eq_ok_iff {grace : Span} {c : Certificate} {first last : Instant}
    (begins : c.notBefore.instant = .ok first) (ends : c.notAfter.instant = .ok last) :
    Validation.checkWindow grace now c = .ok () ↔
      Validation.outside grace now first last = .ok false := by
  simp only [Validation.checkWindow, begins, ends, bind, Except.bind]
  cases Validation.outside grace now first last with
  | error e => simp
  | ok out => cases out <;> simp [throw, throwThe, MonadExceptOf.throw, pure, Except.pure]

theorem outside_eq {grace : Span} {first last : Instant} (clock : now.offset = some 0)
    (begins : first.offset = some 0) (ends : last.offset = some 0)
    (inside : Instant.inCalendar (last.wall - grace.micros) = true) :
    Validation.outside grace now first last
      = .ok (decide (now.wall < first.wall ∨ last.wall - grace.micros < now.wall)) := by
  have moved : last.wall + (-grace).micros = last.wall - grace.micros := rfl
  have compared : Validation.before ⟨last.wall + (-grace).micros, last.offset⟩ now
      = .ok (decide (last.wall - grace.micros < now.wall)) := before_eq ends clock
  simp only [Validation.outside, before_eq clock begins, bind, Except.bind]
  by_cases early : now.wall < first.wall
  · rw [decide_eq_true early, decide_eq_true (.inl early)]
    rfl
  · rw [decide_eq_false early, shift_eq (moved.symm ▸ inside)]
    simp only [compared, early, false_or, Bool.false_eq_true, if_false]

theorem outside_eq_false_iff {grace : Span} {first last : Instant} (clock : now.offset = some 0)
    (inside : Instant.inCalendar now.wall = true) (begins : first.offset = some 0)
    (begun : first.wall ≤ now.wall) (ends : last.offset = some 0)
    (below : last.wall < Calendar.dayCount * Span.perDay) (margin : 0 ≤ grace.micros) :
    Validation.outside grace now first last = .ok false ↔
      now.wall + grace.micros ≤ last.wall := by
  have within := inCalendar_iff.mp inside
  by_cases there : Instant.inCalendar (last.wall - grace.micros) = true
  · rw [outside_eq clock begins ends there, Except.ok.injEq, decide_eq_false_iff_not]
    omega
  · -- The margin is longer than the calendar, and than the window.
    have notBefore : Validation.before now first = .ok false := by
      rw [before_eq clock begins]
      exact congrArg Except.ok (decide_eq_false (Int.not_lt.mpr begun))
    have moved : last.wall + (-grace).micros = last.wall - grace.micros := rfl
    have failed : Validation.shift last (-grace) = .error Fault.beyond :=
      shift_beyond (moved.symm ▸ there)
    simp only [Validation.outside, notBefore, bind, Except.bind, Bool.false_eq_true, if_false]
    rw [failed]
    constructor
    · intro same
      cases same
    · intro fits
      refine absurd (inCalendar_iff.mpr ?_) there
      omega

theorem instants_of_spans (inRange : policy.InRange now) {c : Certificate}
    (spans : c.Spans policy now) :
    c.notBefore.instant = .ok ⟨Instant.floor (now.wall - policy.backdate.micros), some 0⟩ ∧
      c.notAfter.instant = .ok ⟨Instant.floor (now.wall + policy.validity.micros), some 0⟩ := by
  rw [spans.first, spans.last]
  exact ⟨Time.instant_ofWall inRange.begins inRange.first_inCalendar,
    Time.instant_ofWall inRange.late inRange.last_inCalendar⟩

/-- A certificate with the window of a policy is accepted at once exactly where the margin ends
before the last second of the window does. -/
theorem checkWindow_iff (regular : Regular policy now) (feasible : policy.Feasible now)
    {c : Certificate} (spans : c.Spans policy now) :
    Validation.checkWindow policy.grace now c = .ok () ↔
      policy.grace.micros + (now.wall + policy.validity.micros) % Span.perSecond
        ≤ policy.validity.micros := by
  have backward := regular.backward
  have end_ := inCalendar_iff.mp feasible.ends
  obtain ⟨first, last⟩ := instants_of_spans (regular.inRange feasible) spans
  have dropped : ∀ w : Int, 0 ≤ w % Span.perSecond := fun w => Int.emod_nonneg w (by decide)
  have begin_dropped := dropped (now.wall - policy.backdate.micros)
  have end_dropped := dropped (now.wall + policy.validity.micros)
  rw [checkWindow_eq_ok_iff first last, outside_eq_false_iff regular.universal regular.inside rfl
    (by simp only [Instant.floor]; omega) rfl (by simp only [Instant.floor]; omega) regular.margin]
  simp only [Instant.floor]
  omega

/-- At another time it is accepted exactly where the policy covers that, and else it is found to
have expired or not to be valid yet. -/
theorem checkWindow_at (inRange : policy.InRange now) {c : Certificate}
    (spans : c.Spans policy now) {later : Instant} (clock : later.offset = some 0)
    (margin : Instant.inCalendar
      (Instant.floor (now.wall + policy.validity.micros) - policy.grace.micros) = true) :
    (policy.Covers now later ∧ Validation.checkWindow policy.grace later c = .ok ()) ∨
      (¬ policy.Covers now later ∧ ∃ f, Validation.checkWindow policy.grace later c = .error f ∧
        Validation.reason? f = some .expiredOrNotYetValid) := by
  obtain ⟨first, last⟩ := instants_of_spans inRange spans
  obtain ⟨begin_, begins⟩ : ∃ w, w = Instant.floor (now.wall - policy.backdate.micros) := ⟨_, rfl⟩
  obtain ⟨end_, ends⟩ : ∃ w, w = Instant.floor (now.wall + policy.validity.micros) := ⟨_, rfl⟩
  rw [← begins] at first
  rw [← ends] at last margin
  have compared : Validation.outside policy.grace later ⟨begin_, some 0⟩ ⟨end_, some 0⟩
      = .ok (decide (later.wall < begin_ ∨ end_ - policy.grace.micros < later.wall)) :=
    outside_eq clock rfl rfl margin
  by_cases without : later.wall < begin_ ∨ end_ - policy.grace.micros < later.wall
  · have uncovered : ¬ policy.Covers now later := by
      rintro ⟨begun, lasting⟩
      omega
    rw [decide_eq_true without] at compared
    simp only [Validation.checkWindow, first, last, compared, bind, Except.bind, if_true]
    exact .inr ⟨uncovered, _, rfl, rfl⟩
  · obtain ⟨begun, lasting⟩ := not_or.mp without
    rw [decide_eq_false without] at compared
    exact .inl ⟨⟨begins ▸ Int.not_lt.mp begun, ends ▸ Int.not_lt.mp lasting⟩,
      (checkWindow_eq_ok_iff first last).mpr compared⟩

/-! ### Issuing under a new name -/

open Surroundings (Alike)

variable {σ : Type} {k : Keeper σ} {suite : Suite} {shows_ : σ → Book → Prop}
  {ready newest : Book → Prop}

theorem spans_of_sign {t : Template} {p : Template.Complete} (whole : t.complete = .ok p)
    {key : PrivateKey} {choice : Template.DigestChoice} {c : Certificate}
    (signed : t.sign suite key choice = .ok c) :
    c.notBefore = Time.ofWall p.notBefore ∧ c.notAfter = Time.ofWall p.notAfter := by
  unfold Template.sign at signed
  rw [whole] at signed
  cases chosen : Template.algorithmOf choice with
  | error e =>
    rw [chosen] at signed
    cases signed
  | ok d =>
    rw [chosen] at signed
    cases signed
    exact ⟨rfl, rfl⟩

theorem foldl_lt (bs : Bytes) (n : Nat) :
    bs.foldl (fun n b => n * 256 + b.toNat) n < (n + 1) * 256 ^ bs.length := by
  induction bs generalizing n with
  | nil => simp
  | cons b bs ih =>
    have byte := b.toNat_lt
    calc bs.foldl (fun n b => n * 256 + b.toNat) (n * 256 + b.toNat)
        < (n * 256 + b.toNat + 1) * 256 ^ bs.length := ih _
      _ ≤ (n + 1) * 256 * 256 ^ bs.length := Nat.mul_le_mul_right _ (by omega)
      _ = (n + 1) * 256 ^ (b :: bs).length := by
        rw [List.length_cons, Nat.pow_succ, Nat.mul_comm (256 ^ bs.length) 256, Nat.mul_assoc]

theorem serialOf_lt {content : Bytes} (short : content.length ≤ 19) :
    serialOf content < 2 ^ 159 := by
  have small : Bytes.toNat content < 256 ^ 19 :=
    calc Bytes.toNat content < (0 + 1) * 256 ^ content.length := foldl_lt content 0
      _ = 256 ^ content.length := Nat.one_mul _
      _ ≤ 256 ^ 19 := Nat.pow_le_pow_right (by decide) short
  have most : (256 : Nat) ^ 19 ≤ 2 ^ 159 := by decide
  simp only [serialOf]
  split <;> omega

theorem leads_signed_of {Q : Except Fault Certificate → σ → Prop}
    (keeps : k.store.Keeps suite shows_ ready newest) (clock : ∀ s, k.clock s = now)
    (serial : 0 ≤ k.policy.serialBytes ∧ k.policy.serialBytes ≤ 19) {b : Book} {subject : Name}
    {key : KeyHandle} (rest : ∀ n a, 0 < n → n < 2 ^ 159 → Alike b.around a →
      Leads (shows_ · (b.amid a)) (do
        let t ← Action.ofExcept (template k.policy now subject key n)
        k.store.sign key.keyId t (.known .sha256)) Q) :
    Leads (shows_ · b) (k.signed subject key) Q := by
  have alike := Surroundings.alike_draw b.around k.policy.serialBytes
  obtain ⟨bs, a, drew⟩ : ∃ bs a, b.around.draw k.policy.serialBytes = (.ok bs, a) := by
    rw [Surroundings.draw, if_neg (by omega)]
    exact ⟨_, _, rfl⟩
  have short : bs.length ≤ 19 := by
    have length := Surroundings.draw_length drew
    omega
  have drawn := keeps.randomBytes b k.policy.serialBytes
  rw [drew] at drawn alike
  refine drawn.bind_ok ?_
  intro r held
  have numbered : serialOfAnswer (.bytes bs) = .ok (serialOf bs) := rfl
  have reading : Action.start k.now r = (.ok now, r) := by
    rw [← clock r.state]
    rfl
  rw [Action.start_bind_ok (by rw [Action.start_ofExcept, numbered]), Action.start_bind_ok reading]
  exact rest (serialOf bs) a (serialOf_pos bs) (serialOf_lt short) alike r held

theorem leads_signed_inRange (keeps : k.store.Keeps suite shows_ ready newest)
    (laws : suite.Lawful) (clock : ∀ s, k.clock s = now) (inRange : k.policy.InRange now)
    (serial : 0 ≤ k.policy.serialBytes ∧ k.policy.serialBytes ≤ 19) {b : Book} {key : PrivateKey}
    (valid : key.Valid) (open_ : b.locked = none)
    (signs : b.key? (suite.handleOf key).keyId = some key) {name : Text} {content : Bytes}
    (accepted : Identity.Accepted name content) :
    Leads (shows_ · b) (k.signed (Name.ofCommonName content) (suite.handleOf key))
      fun o s => ∃ c a, o = .ok c ∧ Alike b.around a ∧ shows_ s (b.amid a) ∧
        Issued suite name key c ∧ c.Spans k.policy now := by
  refine leads_signed_of keeps clock serial fun n a positive small alike => ?_
  obtain ⟨t, built, whole⟩ := template_eq inRange positive small (Name.ofCommonName content)
    (suite.handleOf key)
  obtain ⟨c, signed, issued⟩ := issued_of_sign laws valid accepted whole
    (Time.writable_ofWall inRange.begins inRange.first_inCalendar)
    (Time.writable_ofWall inRange.late inRange.last_inCalendar) small
  obtain ⟨first, last⟩ := spans_of_sign whole signed
  intro r held
  rw [Action.start_bind_ok (by rw [Action.start_ofExcept, built])]
  obtain ⟨held', outcome⟩ := keeps.sign (b.amid a) _ key t (.known .sha256) open_ signs r held
  refine ⟨c, a, ?_, alike, held', issued, first, last⟩
  rw [outcome, signed]
  rfl

theorem leads_signed_infeasible (keeps : k.store.Keeps suite shows_ ready newest)
    (clock : ∀ s, k.clock s = now) (universal : now.offset = some 0)
    (infeasible : ¬ k.policy.Feasible now)
    (serial : 0 ≤ k.policy.serialBytes ∧ k.policy.serialBytes ≤ 19) (b : Book) (subject : Name)
    (key : KeyHandle) :
    Leads (shows_ · b) (k.signed subject key) fun o _ => ∃ f, o = .error f := by
  refine leads_signed_of keeps clock serial fun n a positive small _ r _ => ?_
  cases built : template k.policy now subject key n with
  | ok t => exact absurd (feasible_of_template universal positive small built) infeasible
  | error f =>
    rw [Action.start_bind_error (by rw [Action.start_ofExcept])]
    exact ⟨f, rfl⟩

theorem leads_makeCertificate_inRange (keeps : k.store.Keeps suite shows_ ready newest)
    (laws : suite.Lawful) (clock : ∀ s, k.clock s = now) (inRange : k.policy.InRange now)
    (serial : 0 ≤ k.policy.serialBytes ∧ k.policy.serialBytes ≤ 19) {b : Book} {key : PrivateKey}
    (valid : key.Valid) (open_ : b.locked = none)
    (signs : b.key? (suite.handleOf key).keyId = some key) {name : Text} {content : Bytes}
    (accepted : Identity.Accepted name content) :
    Leads (shows_ · b) (k.makeCertificate name (Name.ofCommonName content) (suite.handleOf key))
      fun o s => ∃ c, o = .ok c ∧ ∃ a, Alike b.around a ∧ shows_ s (b.amid a) ∧
        Issued suite name key c ∧ c.Spans k.policy now := by
  have attempted : Leads (shows_ · b)
      (Action.attempt (k.signed (Name.ofCommonName content) (suite.handleOf key)))
      fun o s => ∃ o', o = .ok o' ∧ ∃ c a, o' = .ok c ∧ Alike b.around a ∧ shows_ s (b.amid a) ∧
        Issued suite name key c ∧ c.Spans k.policy now :=
    Leads.attempt ((leads_signed_inRange keeps laws clock inRange serial valid open_ signs
      accepted).post fun o s ended => ⟨o, rfl, ended⟩)
  refine attempted.bind_answer ?_
  rintro o r ⟨c, a, rfl, alike, held, issued, spans⟩
  exact ⟨c, rfl, a, alike, held, issued, spans⟩

theorem leads_makeCertificate_error {P : σ → Prop} {name : Text} {subject : Name} {key : KeyHandle}
    (failed : Leads P (k.signed subject key) fun o _ => ∃ f, o = .error f) :
    Leads P (k.makeCertificate name subject key) fun o _ => ∃ f, o = .error f := by
  have attempted : Leads P (Action.attempt (k.signed subject key)) fun o _ =>
      ∃ o', o = .ok o' ∧ ∃ f, o' = .error f :=
    Leads.attempt (failed.post fun o _ ended => ⟨o, rfl, ended⟩)
  refine attempted.bind_answer ?_
  rintro o r ⟨f, rfl⟩
  simp only
  cases signing : isSigningFailure f with
  | false => exact ⟨f, rfl⟩
  | true =>
    have abandoned (level : Level) (message : Text) (e : Fault) :
        Leads (fun _ : σ => True) (do
          Action.log level message
          k.discardKey key
          throw e : Action σ Certificate) fun o _ => ∃ f, o = .error f := by
      refine Action.leads_log_bind (Leads.bind (R := fun _ _ => True) (fun _ _ => trivial) ?_ ?_)
      · exact fun e _ _ => ⟨e, rfl⟩
      · exact fun _ => Action.leads_throw fun _ _ => ⟨e, rfl⟩
    rw [if_neg (by decide)]
    cases printed : f.asText with
    | error f' => exact ⟨f', rfl⟩
    | ok text => exact abandoned _ _ _ r trivial

theorem leads_makeKey_at (keeps : k.store.Keeps suite shows_ ready newest) {b : Book}
    (writable : ready b) (open_ : b.locked = none) {key : PrivateKey} {a : Surroundings}
    (drew : b.around.drawKey .p256 = (.ok key, a)) (valid : key.Valid) (name : Text) :
    Leads (shows_ · b) (k.makeKey name) fun o s =>
      shows_ s ((b.amid a).putKey (suite.handleOf key).keyId key) ∧
        o = .ok (suite.handleOf key) := by
  have attempted : Leads (shows_ · b) (Action.attempt (k.store.generateKey .p256)) fun o s =>
      shows_ s ((b.amid a).putKey (suite.handleOf key).keyId key) ∧
        o = .ok (.ok (suite.handleOf key)) := by
    refine Leads.attempt ((keeps.generateKey b .p256 key a writable open_ drew valid).post ?_)
    rintro o s ⟨held, rfl⟩
    exact ⟨held, rfl⟩
  exact attempted.bind_ok fun r held => ⟨held, rfl⟩

theorem leads_removeAll_owned (keeps : k.store.Keeps suite shows_ ready newest) {b : Book}
    {name : Text} (owns : ∀ x ∈ b.under name, k.Owns name x) :
    Leads (shows_ · b) (k.removeAll name) fun o s =>
      shows_ s (b.remove (b.under name)) ∧ o = .ok (b.under name).length := by
  refine (leads_removeAll keeps b name).post ?_
  rintro o s (⟨ended, held, _⟩ | ⟨own, e, rest, failed, split, _, foreign, _⟩)
  · rw [Nat.zero_add] at ended
    exact ⟨held, ended⟩
  · have own_ : k.Owns name e := owns e (split ▸ List.mem_append_right own List.mem_cons_self)
    cases own_.symm.trans foreign

theorem leads_issue_of {Q : Except Fault Entry → σ → Prop}
    (keeps : k.store.Keeps suite shows_ ready newest) {b : Book} (writable : ready b)
    (available : b.available = true) (open_ : b.locked = none) {key : PrivateKey}
    {a : Surroundings} (drew : b.around.drawKey .p256 = (.ok key, a)) (valid : key.Valid)
    {name : Text} {content : Bytes} (accepted : Identity.Accepted name content)
    (owns : ∀ x ∈ b.under name, k.Owns name x)
    (rest : Leads (shows_ · (((b.remove (b.under name)).amid a).putKey
        (suite.handleOf key).keyId key)) (do
      let c ← k.makeCertificate name (Name.ofCommonName content) (suite.handleOf key)
      k.bindCertificate name (suite.handleOf key) c
      let e ← k.readBack name
      let last ← Action.ofExcept e.certificate.notAfter.instant
      Action.log .info ("Generated certificate for " ++ name.quoted ++ ": serial=" ++
        e.certificate.serialText ++ ", expires=" ++ last.spell)
      return e) Q) :
    Leads (shows_ · b) (k.issue name) Q := by
  have acquired : Leads (shows_ · b) k.acquire fun o s => shows_ s b ∧ o = .ok () := by
    refine (leads_acquire keeps b).post ?_
    intro o s h
    rw [available] at h
    exact h
  have subject : Leads (shows_ · (b.remove (b.under name))) (Action.ofExcept (identitySubject name))
      fun o s => shows_ s (b.remove (b.under name)) ∧ o = .ok (Name.ofCommonName content) :=
    Action.leads_ofExcept fun s held => ⟨held, accepted.identitySubject⟩
  have writable' : ready (b.remove (b.under name)) :=
    keeps.ready_mono writable (fun e he => (List.mem_filter.mp he).1) rfl rfl
  have made := @leads_makeKey_at _ k suite shows_ ready newest keeps (b.remove (b.under name))
    writable' open_ key a drew valid name
  exact acquired.bind_ok ((leads_removeAll_owned keeps owns).bind_ok
    (subject.bind_ok (made.bind_ok rest)))

/-- Where the policy is in range, a certificate with its window takes the place of those of the
keeper's that are under the name. -/
theorem leads_issue_inRange (keeps : k.store.Keeps suite shows_ ready newest) (laws : suite.Lawful)
    (clock : ∀ s, k.clock s = now) (inRange : k.policy.InRange now)
    (serial : 0 ≤ k.policy.serialBytes ∧ k.policy.serialBytes ≤ 19) {b : Book}
    (writable : ready b) (available : b.available = true) (open_ : b.locked = none)
    {key : PrivateKey} {a : Surroundings} (drew : b.around.drawKey .p256 = (.ok key, a))
    (valid : key.Valid) {name : Text} {content : Bytes} (accepted : Identity.Accepted name content)
    (owns : ∀ x ∈ b.under name, k.Owns name x) :
    Leads (shows_ · b) (k.issue name) fun o s => ∃ e b', o = .ok e ∧ shows_ s b' ∧
      ((b.remove (b.under name)).putKey (suite.handleOf key).keyId key).Gains e b' ∧
        b'.under name = [e] ∧ Issued suite name key e.certificate ∧
          e.certificate.Spans k.policy now := by
  obtain ⟨b₁, keyed⟩ : ∃ b₁, b₁ = ((b.remove (b.under name)).amid a).putKey
    (suite.handleOf key).keyId key := ⟨_, rfl⟩
  refine leads_issue_of keeps writable available open_ drew valid accepted owns ?_
  rw [← keyed]
  have open₁ : b₁.locked = none := by rw [keyed]; exact open_
  have signs : b₁.key? (suite.handleOf key).keyId = some key := by rw [keyed]; exact if_pos rfl
  refine (leads_makeCertificate_inRange keeps laws clock inRange serial valid open₁ signs
    accepted).bind_answer ?_
  rintro c r ⟨a', alike', held, issued, spans⟩
  have alike := Surroundings.alike_drawKey drew
  have writable₁ : ready (b₁.amid a') := by
    rw [keyed] at alike' ⊢
    exact keeps.ready_mono writable (fun e he => (List.mem_filter.mp he).1)
      (alike.trans alike').1 (alike.trans alike').2
  have none₁ : (b₁.amid a').under name = [] := by rw [keyed]; exact b.under_remove_under name
  have holds : (b₁.amid a').held (suite.handleOf key).keyId = true := by
    rw [keyed]
    simp [Book.amid, Book.putKey]
  obtain ⟨e, b', ended, held', gains, _, certificate, _, only⟩ :=
    leads_finish keeps writable₁ accepted.valid none₁ holds issued r held
  have gains' : ((b.remove (b.under name)).putKey (suite.handleOf key).keyId key).Gains e b' := by
    rw [keyed] at gains
    exact ⟨gains.entries, gains.held, gains.key?, gains.locked, gains.available⟩
  exact ⟨e, b', ended, held', gains', only, certificate ▸ issued, certificate ▸ spans⟩

/-- Where nothing is under a name and the store is open, a certificate is issued exactly where the
policy is feasible, and has the window of the policy. -/
theorem leads_issue_new (keeps : k.store.Keeps suite shows_ ready newest) (laws : suite.Lawful)
    (clock : ∀ s, k.clock s = now) (regular : Regular k.policy now)
    (serial : 0 ≤ k.policy.serialBytes ∧ k.policy.serialBytes ≤ 19) {b : Book}
    (writable : ready b) (available : b.available = true) (open_ : b.locked = none)
    {key : PrivateKey} {a : Surroundings} (drew : b.around.drawKey .p256 = (.ok key, a))
    (valid : key.Valid) {name : Text} {content : Bytes} (accepted : Identity.Accepted name content)
    (none_ : b.under name = []) :
    Leads (shows_ · b) (k.issue name) fun o s =>
      (k.policy.Feasible now ∧ ∃ e b', o = .ok e ∧ shows_ s b' ∧ b'.first? name = some e ∧
        b'.locked = none ∧ b'.available = true ∧ Issued suite name key e.certificate ∧
          e.certificate.Spans k.policy now) ∨
        (¬ k.policy.Feasible now ∧ ∃ f, o = .error f) := by
  have owns : ∀ x ∈ b.under name, k.Owns name x := none_ ▸ List.forall_mem_nil _
  by_cases feasible : k.policy.Feasible now
  · refine (leads_issue_inRange keeps laws clock (regular.inRange feasible) serial writable
      available open_ drew valid accepted owns).post ?_
    rintro o s ⟨e, b', ended, held, gains, only, issued, spans⟩
    have first : b'.first? name = some e := by rw [b'.first?_eq, only]; rfl
    exact .inl ⟨feasible, e, b', ended, held, first, gains.locked.trans open_,
      gains.available.trans available, issued, spans⟩
  · refine leads_issue_of keeps writable available open_ drew valid accepted owns ?_
    refine (leads_makeCertificate_error (leads_signed_infeasible keeps clock regular.universal
      feasible serial _ _ _)).bind ?_ fun c => ?_
    · exact fun f s ended => .inr ⟨feasible, f, rfl⟩
    · rintro r ⟨_, impossible⟩
      cases impossible

/-- So it is with a request for the certificate of the name. -/
theorem leads_obtain_new (keeps : k.store.Keeps suite shows_ ready newest) (laws : suite.Lawful)
    (clock : ∀ s, k.clock s = now) (regular : Regular k.policy now)
    (serial : 0 ≤ k.policy.serialBytes ∧ k.policy.serialBytes ≤ 19) {b : Book}
    (writable : ready b) (available : b.available = true) (open_ : b.locked = none)
    {key : PrivateKey} {a : Surroundings} (drew : b.around.drawKey .p256 = (.ok key, a))
    (valid : key.Valid) {name : Text} (accepted : Identity.check (.text name) = .ok name)
    (none_ : b.under name = []) :
    Leads (shows_ · b) (k.obtain (.text name)) fun o s =>
      (k.policy.Feasible now ∧ ∃ e b', o = .ok e ∧ shows_ s b' ∧ b'.first? name = some e ∧
        b'.locked = none ∧ b'.available = true ∧ Issued suite name key e.certificate ∧
          e.certificate.Spans k.policy now) ∨
        (¬ k.policy.Feasible now ∧ ∃ f, o = .error f) := by
  obtain ⟨_, content, addresses⟩ := Identity.accepted_of_check accepted
  refine leads_obtain_stale keeps clock accepted (fun e first => ?_)
    (leads_issue_new keeps laws clock regular serial writable available open_ drew valid addresses
      none_)
  rw [b.first?_eq, none_] at first
  cases first

end Keeper

end CertKeeper
