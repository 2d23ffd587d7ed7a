import CertKeeper.Proofs.Keeper.Run
import CertKeeper.Proofs.Keeper.Window

/-!
# Renewal

A certificate that was issued at one reading of the clock is given back at another one exactly where
the policy covers that reading, and replaced where it does not, whatever is done under other names
in between.  Main statement: `Keeper.renewed_unless_covered`.
-/

namespace CertKeeper

open CertKeeper.Action (Leads start)

namespace Keeper

def timed {σ : Type} (k : Keeper σ) (now : Instant) : Keeper σ := { k with clock := fun _ => now }

variable {suite : Suite} {p : Provider} {fresh : Text → Prop} {k : Keeper p.State} {name : Text}
  {b : Book} {e : Entry} {now later : Instant}

theorem keeps_of_store (laws : suite.Lawful) (store : k.store = p.keyStore suite) :
    k.store.Keeps suite (p.Shows fresh suite) (p.Ready fresh) p.Newest := by
  rw [store]
  exact Provider.keeps laws fresh p

/-! ### Requests under other names -/

/-- One state comes of another one by requests that are not about a name; each is served by some
keeper of the store, in surroundings of its own. -/
inductive Elsewhere (fresh : Text → Prop) (suite : Suite) (p : Provider) (name : Text)
    (s : p.State) : p.State → Prop
  | nothing : Elsewhere fresh suite p name s s
  | served {s' : p.State} (before : Elsewhere fresh suite p name s s') (k : Keeper p.State)
      (store : k.store = p.keyStore suite) (request : Request) (other : request.name ≠ name)
      (a : Surroundings) (journal : Journal) (operation : Option Text)
      (ready : p.Ready fresh (p.book suite (p.amid s' a)))
      (draws : Draws suite (p.book suite (p.amid s' a)) request) :
      Elsewhere fresh suite p name s
        (start (request.perform k) ⟨p.amid s' a, journal, operation⟩).2.state

section

variable {other : Text} (laws : suite.Lawful) (store : k.store = p.keyStore suite)
  (ne : name ≠ other)

include laws store ne

/-- A request for a certificate leaves what is under other names alone, also where the name can have
none. -/
theorem leads_obtain_elsewhere (ready : p.Ready fresh b)
    (draws : (b.remove (b.under other)).Draws suite) :
    Leads (p.Shows fresh suite · b) (k.obtain (.text other)) fun _ s =>
      ∃ b', p.Shows fresh suite s b' ∧ b.Stays name b' := by
  have keeps := @keeps_of_store suite p fresh k laws store
  have still : b.Stays name b := ⟨rfl, rfl, rfl⟩
  cases accepted : Identity.check (.text other) with
  | error f => exact (leads_refused accepted _).1.post fun o s held => ⟨b, held.1, still⟩
  | ok n =>
    obtain ⟨same, _⟩ := Identity.accepted_of_check accepted
    cases same
    intro r held
    cases start_obtain keeps laws ready accepted draws held with
    | reused e first valid held' ended => exact ⟨b, held', still⟩
    | unclear e f first failed why held' ended => exact ⟨b, held', still⟩
    | replaced stale out =>
      obtain ⟨b', held', stays⟩ := out.stays (keeps.sound held)
      exact ⟨b', held', stays name ne⟩

theorem leads_remove_elsewhere :
    Leads (p.Shows fresh suite · b) (k.remove (.text other)) fun _ s =>
      ∃ b', p.Shows fresh suite s b' ∧ b.Stays name b' := by
  have keeps := @keeps_of_store suite p fresh k laws store
  cases accepted : Identity.check (.text other) with
  | error f =>
    exact (leads_refused accepted _).2.post fun o s held => ⟨b, held.1, rfl, rfl, rfl⟩
  | ok n =>
    obtain ⟨same, _⟩ := Identity.accepted_of_check accepted
    cases same
    intro r held
    have sound := keeps.sound held
    obtain ⟨_, _, ⟨_, held', _⟩ | ⟨own, e, rest, _, split, _, _, held', _⟩⟩ :=
      leads_remove keeps b accepted r held
    · exact ⟨_, held', Book.stays_remove sound ne fun _ hx => hx⟩
    · refine ⟨_, held', Book.stays_remove sound ne fun x hx => ?_⟩
      rw [split]
      exact List.mem_append_left _ hx

end

theorem leads_perform_elsewhere (laws : suite.Lawful) (store : k.store = p.keyStore suite)
    {request : Request} (other : request.name ≠ name) (ready : p.Ready fresh b)
    (draws : Draws suite b request) :
    Leads (p.Shows fresh suite · b) (request.perform k) fun _ s =>
      ∃ b', p.Shows fresh suite s b' ∧ b.Stays name b' := by
  cases request with
  | obtain n =>
    exact (leads_obtain_elsewhere laws store other.symm ready draws).bind
      (fun _ _ stays => stays) fun _ => Action.leads_pure fun _ stays => stays
  | remove n =>
    exact (leads_remove_elsewhere laws store other.symm).bind
      (fun _ _ stays => stays) fun _ => Action.leads_pure fun _ stays => stays

theorem shows_of_elsewhere (laws : suite.Lawful) {s s' : p.State}
    (between : Elsewhere fresh suite p name s s') (held : p.Shows fresh suite s b) :
    ∃ b', p.Shows fresh suite s' b' ∧ b.Stays name b' := by
  induction between with
  | nothing => exact ⟨b, held, rfl, rfl, rfl⟩
  | @served s' before k store request other a journal operation ready draws ih =>
    obtain ⟨b', held', stays⟩ := ih
    have shown := Provider.shows_amid held' a
    rw [shown.2] at ready draws
    obtain ⟨b'', held'', stays'⟩ := leads_perform_elsewhere laws store other ready draws
      ⟨p.amid s' a, journal, operation⟩ shown
    have amid : b.Stays name (b'.amid a) := ⟨stays.under, stays.locked, stays.available⟩
    exact ⟨b'', held'', amid.trans stays'⟩

/-! ### Issuing and looking again -/

theorem leads_issue_away (store : k.store = p.keyStore suite) (laws : suite.Lawful)
    (away : b.available = false) :
    Leads (p.Shows fresh suite · b) (k.issue name) fun o _ => ∃ f, o = .error f := by
  have keeps := @keeps_of_store suite p fresh k laws store
  refine (leads_acquire keeps b).bind (fun f _ _ => ⟨f, rfl⟩) fun _ => ?_
  rintro r ⟨_, impossible⟩
  rw [away] at impossible
  cases impossible

theorem drawn_of_generated {shows_ : p.State → Book → Prop} {o : Except Fault Entry} {s : p.State}
    (out : k.Obtained suite shows_ b name now o s)
    (generated : ∀ x, b.first? name = some x → k.checked name now x ≠ .ok ()) (ended : o = .ok e) :
    (∀ x, b.first? name = some x → ∃ f reason, k.checked name now x = .error f ∧
      Validation.reason? f = some reason) ∧
    (∀ x ∈ b.under name, k.Owns name x) ∧ b.locked = none ∧
    ∃ key a b', b.around.drawKey .p256 = (.ok key, a) ∧ shows_ s b' ∧
      b'.held (suite.handleOf key).keyId = true := by
  cases out with
  | reused x first valid => exact absurd valid (generated x first)
  | unclear x f first failed why held ended' => cases ended.symm.trans ended'
  | replaced stale out =>
    cases out with
    | refused away held ended' => cases ended.symm.trans ended'
    | stopped own x rest failed split owns foreign held ended' => cases ended.symm.trans ended'
    | abandoned f a owns held plain ended' => cases ended.symm.trans ended'
    | stranded f key a owns held small plain ended' => cases ended.symm.trans ended'
    | issued e' key a b' owns unlocked drew named certificate bound gains only held ended' =>
      refine ⟨stale, owns, unlocked, key, a, b', drew, held, ?_⟩
      rw [gains.held]
      simp [Book.putKey]

/-- Under a name there is one certificate, which a policy has issued at an instant, and the store
can be used. -/
structure Holds (suite : Suite) (policy : Policy) (name : Text) (now : Instant) (b : Book)
    (e : Entry) : Prop where
  only : b.under name = [e]
  issued : ∃ key, Issued suite name key e.certificate
  spans : e.certificate.Spans policy now
  unlocked : b.locked = none
  available : b.available = true

theorem Holds.stays {policy : Policy} {b' : Book} (h : Holds suite policy name now b e)
    (stays : b.Stays name b') : Holds suite policy name now b' e :=
  ⟨stays.under.trans h.only, h.issued, h.spans, stays.locked.trans h.unlocked,
    stays.available.trans h.available⟩

theorem checked_at (same : k.suite = suite) (inRange : k.policy.InRange now)
    (clock : later.offset = some 0) (margin : Instant.inCalendar
      (Instant.floor (now.wall + k.policy.validity.micros) - k.policy.grace.micros) = true)
    (holds : Holds suite k.policy name now b e) :
    (k.policy.Covers now later ∧ k.checked name later e = .ok ()) ∨
      (¬ k.policy.Covers now later ∧ ∃ f reason, k.checked name later e = .error f ∧
        Validation.reason? f = some reason) := by
  obtain ⟨key, issued⟩ := holds.issued
  have identity := issued.identity
  rw [← same] at identity
  rcases checkWindow_at inRange holds.spans clock margin with
    ⟨covers, passed⟩ | ⟨not, f, failed, why⟩
  · exact .inl ⟨covers, Validation.check_eq_ok_iff.mpr ⟨identity, passed⟩⟩
  · refine .inr ⟨not, f, _, ?_, why⟩
    rw [checked, Validation.check, identity]
    exact failed

section

variable (laws : suite.Lawful) (store : k.store = p.keyStore suite)
  (accepted : Identity.check (.text name) = .ok name)

include laws store accepted

/-- A certificate that takes the place of what is under the name has the window of its time. -/
theorem leads_obtain_inRange (serial : 0 ≤ k.policy.serialBytes ∧ k.policy.serialBytes ≤ 19)
    (inRange : k.policy.InRange now) (ready : p.Ready fresh b)
    (available : b.available = true) (open_ : b.locked = none)
    (stale : ∀ x, b.first? name = some x → ∃ f reason, k.checked name now x = .error f ∧
      Validation.reason? f = some reason) (owns : ∀ x ∈ b.under name, k.Owns name x)
    {key : PrivateKey} {a : Surroundings} (drew : b.around.drawKey .p256 = (.ok key, a))
    (valid : key.Valid) :
    Leads (p.Shows fresh suite · b) ((k.timed now).obtain (.text name)) fun o s =>
      ∃ e b', o = .ok e ∧ p.Shows fresh suite s b' ∧ Holds suite k.policy name now b' e ∧
        e.certificate.publicKey = .ok (suite.publicKey key) := by
  have keeps := @keeps_of_store suite p fresh (k.timed now) laws store
  obtain ⟨_, content, addresses⟩ := Identity.accepted_of_check accepted
  refine leads_obtain_stale keeps (fun _ => rfl) accepted stale ((leads_issue_inRange keeps laws
    (fun _ => rfl) inRange serial ready available open_ drew valid addresses owns).post ?_)
  rintro o s ⟨e, b', rfl, held, gains, only, issued, spans⟩
  exact ⟨e, b', rfl, held, ⟨only, ⟨key, issued⟩, spans, gains.locked.trans open_,
    gains.available.trans available⟩, issued.publicKey⟩

theorem holds_of_generated (serial : 0 ≤ k.policy.serialBytes ∧ k.policy.serialBytes ≤ 19)
    (inRange : k.policy.InRange now) {r : Run p.State}
    (held : p.Shows fresh suite r.state b) (ready : p.Ready fresh b) (draws : b.Draws suite)
    (generated : ∀ x, b.first? name = some x → k.checked name now x ≠ .ok ())
    (ended : (start ((k.timed now).obtain (.text name)) r).1 = .ok e) :
    ∃ b', p.Shows fresh suite (start ((k.timed now).obtain (.text name)) r).2.state b' ∧
      Holds suite k.policy name now b' e := by
  have keeps := @keeps_of_store suite p fresh (k.timed now) laws store
  obtain ⟨stale, owns, unlocked, key, a, _, drew, _⟩ := drawn_of_generated
    (start_obtain keeps laws ready accepted (draws.remove _) held) generated ended
  have available : b.available = true := by
    by_contra away
    obtain ⟨f, failed⟩ := leads_obtain_stale keeps (fun _ => rfl) accepted stale
      (leads_issue_away store laws (Bool.eq_false_iff.mpr away)) r held
    cases ended.symm.trans failed
  obtain ⟨e₁, b₁, ended₁, held₁, holds, _⟩ := leads_obtain_inRange laws store accepted serial
    inRange ready available unlocked stale owns drew (draws.fresh key a drew).1 r held
  obtain rfl : e₁ = e := Except.ok.inj (ended₁.symm.trans ended)
  exact ⟨b₁, held₁, holds⟩

section

variable (inRange : k.policy.InRange now) (same : k.suite = suite) {r : Run p.State}
  (held : p.Shows fresh suite r.state b) (holds : Holds suite k.policy name now b e)
  (margin : Instant.inCalendar
    (Instant.floor (now.wall + k.policy.validity.micros) - k.policy.grace.micros) = true)
  (ready : p.Ready fresh b) (draws : b.Draws suite)

include inRange same held holds margin ready draws

/-- A certificate is given back where the policy covers the time, and only there: where it does not,
there is another key or a fault. -/
theorem reused_iff_covers (clock : later.offset = some 0) :
    let again := start ((k.timed later).obtain (.text name)) r
    let b' := p.book suite again.2.state
    (again.1 = .ok e ∧ b'.entries = b.entries ∧ b'.held = b.held ∧ b'.key? = b.key?) ↔
      k.policy.Covers now later := by
  intro again b'
  have keeps := @keeps_of_store suite p fresh (k.timed later) laws store
  have first : b.first? name = some e := by rw [b.first?_eq, holds.only]; rfl
  rcases checked_at same inRange clock margin holds with
    ⟨covers, valid⟩ | ⟨not, f, reason, stale, why⟩
  · obtain ⟨held', ended⟩ := leads_obtain_valid keeps (fun _ => rfl) accepted first valid r held
    have still : b' = b := held'.2
    exact iff_of_true ⟨ended, by rw [still], by rw [still], by rw [still]⟩ covers
  · refine iff_of_false ?_ not
    rintro ⟨ended, _, keys, _⟩
    have generated : ∀ x, b.first? name = some x → k.checked name later x ≠ .ok () := by
      intro x first' valid
      obtain rfl : e = x := Option.some.inj (first.symm.trans first')
      cases valid.symm.trans stale
    obtain ⟨_, _, _, key, a, x, drew, held', there⟩ := drawn_of_generated
      (start_obtain keeps laws ready accepted (draws.remove _) held) generated ended
    have shown : b' = x := held'.2
    rw [← shown, keys, (draws.fresh key a drew).2] at there
    cases there

theorem renewed_of_not_covers (serial : 0 ≤ k.policy.serialBytes ∧ k.policy.serialBytes ≤ 19)
    (inRange' : k.policy.InRange later) (not : ¬ k.policy.Covers now later) {key : PrivateKey}
    {a : Surroundings} (drew : b.around.drawKey .p256 = (.ok key, a)) :
    let again := start ((k.timed later).obtain (.text name)) r
    let b' := p.book suite again.2.state
    ∃ e', again.1 = .ok e' ∧ b'.under name = [e'] ∧
      e'.certificate.publicKey = .ok (suite.publicKey key) ∧
      e'.certificate.notBefore.instant
        = .ok ⟨Instant.floor (later.wall - k.policy.backdate.micros), some 0⟩ ∧
      e'.certificate.notAfter.instant
        = .ok ⟨Instant.floor (later.wall + k.policy.validity.micros), some 0⟩ := by
  intro again b'
  have first : b.first? name = some e := by rw [b.first?_eq, holds.only]; rfl
  obtain ⟨f, reason, failed, why⟩ :=
    ((checked_at same inRange inRange'.universal margin holds).resolve_left fun h => not h.1).2
  have stale : ∀ x, b.first? name = some x → ∃ f reason, k.checked name later x = .error f ∧
      Validation.reason? f = some reason := by
    intro x first'
    obtain rfl : e = x := Option.some.inj (first.symm.trans first')
    exact ⟨f, reason, failed, why⟩
  have owns : ∀ x ∈ b.under name, k.Owns name x := by
    obtain ⟨key', issued⟩ := holds.issued
    rw [holds.only]
    refine List.forall_mem_singleton.mpr ?_
    rw [Owns, same]
    exact issued.identity
  obtain ⟨e', b'', ended, held', holds', public_⟩ := leads_obtain_inRange laws store accepted serial
    inRange' ready holds.available holds.unlocked stale owns drew (draws.fresh key a drew).1 r held
  have shown : b' = b'' := held'.2
  obtain ⟨begins, ends⟩ := instants_of_spans inRange' holds'.spans
  exact ⟨e', ended, shown ▸ holds'.only, public_, begins, ends⟩

end

end

/-- A certificate that was generated at one reading of the clock is given back at another one, and
nothing changes, exactly where the policy covers that, whatever is done under other names in
between.  Where it does not and a key is drawn, one certificate for this key takes its place, with
the window of the new reading. -/
theorem renewed_unless_covered (laws : suite.Lawful) (store : k.store = p.keyStore suite)
    (same : k.suite = suite) (accepted : Identity.check (.text name) = .ok name)
    (serial : 0 ≤ k.policy.serialBytes ∧ k.policy.serialBytes ≤ 19)
    (inRange : k.policy.InRange now) (inRange' : k.policy.InRange later)
    (margin : Instant.inCalendar
      (Instant.floor (now.wall + k.policy.validity.micros) - k.policy.grace.micros) = true)
    {r : Run p.State} (sound : p.Sound fresh r.state) (ready : p.Ready fresh (p.book suite r.state))
    (draws : (p.book suite r.state).Draws suite)
    (generated : ∀ x, (p.book suite r.state).first? name = some x →
      k.checked name now x ≠ .ok ())
    (ended : (start ((k.timed now).obtain (.text name)) r).1 = .ok e) {s : p.State}
    (between : Elsewhere fresh suite p name
      (start ((k.timed now).obtain (.text name)) r).2.state s)
    {r' : Run p.State} {a : Surroundings} (since : r'.state = p.amid s a)
    (was : b = p.book suite r'.state) (ready' : p.Ready fresh b) (draws' : b.Draws suite) :
    let again := start ((k.timed later).obtain (.text name)) r'
    let b' := p.book suite again.2.state
    (again.1 = .ok e ∧ b'.entries = b.entries ∧ b'.held = b.held ∧ b'.key? = b.key? ↔
      k.policy.Covers now later) ∧
    (¬ k.policy.Covers now later → ∀ key a', b.around.drawKey .p256 = (.ok key, a') →
      ∃ e', again.1 = .ok e' ∧ b'.under name = [e'] ∧
        e'.certificate.publicKey = .ok (suite.publicKey key) ∧
        e'.certificate.notBefore.instant
          = .ok ⟨Instant.floor (later.wall - k.policy.backdate.micros), some 0⟩ ∧
        e'.certificate.notAfter.instant
          = .ok ⟨Instant.floor (later.wall + k.policy.validity.micros), some 0⟩) := by
  obtain ⟨b₁, held₁, holds₁⟩ := holds_of_generated laws store accepted serial inRange ⟨sound, rfl⟩
    ready draws generated ended
  obtain ⟨b₂, held₂, stays⟩ := shows_of_elsewhere laws between held₁
  have shown := Provider.shows_amid held₂ a
  rw [← since] at shown
  have here : b = b₂.amid a := was.trans shown.2
  have holds : Holds suite k.policy name now b e := by
    rw [here]
    exact (holds₁.stays stays).stays ⟨rfl, rfl, rfl⟩
  rw [← here] at shown
  refine ⟨reused_iff_covers laws store accepted inRange same shown holds margin ready' draws'
    inRange'.universal, fun not key a' drew => ?_⟩
  exact renewed_of_not_covers laws store accepted inRange same shown holds margin ready' draws'
    serial inRange' not drew

/-! ### A day later -/

def nextNoon : Instant := ⟨noon.wall + Span.perDay, some 0⟩

def keyless : Surroundings := { quiet with keys := [.refused (Fault.keyStore "No key")] }

theorem inRange_standard {now : Instant} (universal : now.offset = some 0)
    (begins : X509.Template.earliest ≤ now.wall - Policy.standard.backdate.micros)
    (ends : now.wall + Policy.standard.validity.micros < Calendar.dayCount * Span.perDay) :
    Policy.standard.InRange now := by
  have order : -Policy.standard.backdate.micros ≤ Policy.standard.validity.micros := by decide
  exact ⟨universal, begins, by omega, ends⟩

/-- A day later, when something else has been removed, the certificate is still given back. -/
theorem covered_nextNoon : Policy.standard.Covers noon nextNoon ∧ ∃ e s,
    let once := start ((ofMemory.timed noon).obtain (.text "server")) ⟨inMemory, [], none⟩
    let again := start ((ofMemory.timed nextNoon).obtain (.text "server"))
      ⟨Provider.memory.amid s keyless, [], none⟩
    once.1 = .ok e ∧
      Elsewhere (fun _ => True) Suite.lenient .memory "server" once.2.state s ∧
      again.1 = .ok e := by
  have covers : Policy.standard.Covers noon nextNoon := ⟨by decide +kernel, by decide +kernel⟩
  have inRange : Policy.standard.InRange noon :=
    inRange_standard rfl (by decide +kernel) (by decide +kernel)
  have inRange' : Policy.standard.InRange nextNoon :=
    inRange_standard rfl (by decide +kernel) (by decide +kernel)
  have serial : 0 ≤ Policy.standard.serialBytes ∧ Policy.standard.serialBytes ≤ 19 := by decide
  have sound : inMemory.WellFormed := Memory.wellFormed_of_vacant rfl
  obtain ⟨e, _, ended, _⟩ := @leads_obtain_inRange Suite.lenient .memory (fun _ => True) ofMemory
    "server" inMemory.book noon Suite.lawful_lenient rfl rfl serial inRange trivial rfl rfl
    (fun _ impossible => nomatch impossible) (List.forall_mem_nil _) ⟨.p256, 1⟩ _ rfl
    (draws_inMemory.fresh _ _ rfl).1 ⟨inMemory, [], none⟩ ⟨sound, rfl⟩
  have between := @Elsewhere.served (fun _ => True) Suite.lenient .memory "server"
    (start ((ofMemory.timed noon).obtain (.text "server")) ⟨inMemory, [], none⟩).2.state _ .nothing
    ofMemory rfl (.remove "client") (by decide) quiet [] none trivial trivial
  have draws' : ∀ s : Memory.State, (Memory.State.book ⟨s.store, keyless⟩).Draws Suite.lenient := by
    refine fun s => ⟨fun f a drew => ?_, fun key a drew => ?_⟩
    · cases drew
      rfl
    · cases drew
  refine ⟨covers, e, _, ended, between, ?_⟩
  have new : ∀ x, inMemory.book.first? "server" = some x →
      ofMemory.checked "server" noon x ≠ .ok () := fun _ impossible => nomatch impossible
  obtain ⟨iff_, _⟩ := @renewed_unless_covered Suite.lenient .memory (fun _ => True) ofMemory
    "server" _ e noon nextNoon Suite.lawful_lenient rfl rfl rfl serial inRange inRange'
    (by decide +kernel)
    ⟨inMemory, [], none⟩ sound trivial draws_inMemory new ended _ between
    ⟨Provider.memory.amid _ keyless, [], none⟩ keyless rfl rfl trivial (draws' _)
  exact (iff_.mpr covers).1

end Keeper

end CertKeeper
