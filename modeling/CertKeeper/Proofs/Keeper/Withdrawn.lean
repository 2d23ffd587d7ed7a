import CertKeeper.Proofs.Keeper.Configured

/-!
# Keys without a certificate

A new key whose certificate does not come into the store is deleted again, whatever it is that the
certificate cannot be made of, unless the calendar ends before the window of the certificate does:
then the key stays.  Main statement: `Settings.key_withdrawn_iff`.
-/

namespace CertKeeper

open X509
open CertKeeper.Action (Leads start)

/-- Both ends of the window can be reckoned from a reading of the clock, on its wall and in
universal time; the end in universal time is asked for only where a certificate can begin. -/
structure Policy.Reckons (p : Policy) (now : Instant) : Prop where
  first : Instant.inCalendar (now.wall - p.backdate.micros) = true
  last : Instant.inCalendar (now.wall + p.validity.micros) = true
  begins : Instant.inCalendar (now.universal - p.backdate.micros) = true
  ends : Template.earliest ≤ now.universal - p.backdate.micros →
    Instant.inCalendar (now.universal + p.validity.micros) = true

namespace Keeper

open Surroundings (Alike)

variable {policy : Policy} {now : Instant} {subject : Name} {key : KeyHandle} {serial : Nat}

/-! ### Templates -/

theorem universalWall_moved (now : Instant) (d : Int) :
    Template.universalWall ⟨now.wall + d, now.offset⟩
      = if Instant.inCalendar (now.universal + d) then .ok (now.universal + d)
        else .error Fault.beyond := by
  have moved : Instant.universal ⟨now.wall + d, now.offset⟩ = now.universal + d := by
    simp only [Instant.universal]
    omega
  rw [Template.universalWall, moved]
  rfl

theorem withNotBefore_moved {t : Template} (unset : t.notAfter = none) (now : Instant) (d : Int) :
    (Instant.inCalendar (now.universal + d) = true ∧
        ((Template.earliest ≤ now.universal + d ∧
            ∃ t', t.withNotBefore ⟨now.wall + d, now.offset⟩ = .ok t') ∨
          (now.universal + d < Template.earliest ∧ ∃ f,
            t.withNotBefore ⟨now.wall + d, now.offset⟩ = .error f ∧ f.failure.isValue = true))) ∨
      (¬ Instant.inCalendar (now.universal + d) = true ∧
        t.withNotBefore ⟨now.wall + d, now.offset⟩ = .error Fault.beyond) := by
  rw [Template.withNotBefore, universalWall_moved, unset]
  by_cases inside : Instant.inCalendar (now.universal + d) = true
  · rw [if_pos inside]
    refine .inl ⟨inside, ?_⟩
    simp only [bind, Except.bind]
    by_cases early : now.universal + d < Template.earliest
    · rw [if_pos early]
      exact .inr ⟨early, _, rfl, rfl⟩
    · rw [if_neg early]
      exact .inl ⟨Int.not_lt.mp early, _, rfl⟩
  · rw [if_neg inside]
    exact .inr ⟨inside, rfl⟩

theorem withNotAfter_moved (t : Template) (now : Instant) (d : Int) :
    (Instant.inCalendar (now.universal + d) = true ∧
        ((∃ t', t.withNotAfter ⟨now.wall + d, now.offset⟩ = .ok t') ∨
          ∃ f, t.withNotAfter ⟨now.wall + d, now.offset⟩ = .error f ∧ f.failure.isValue = true)) ∨
      (¬ Instant.inCalendar (now.universal + d) = true ∧
        t.withNotAfter ⟨now.wall + d, now.offset⟩ = .error Fault.beyond) := by
  rw [Template.withNotAfter, universalWall_moved]
  by_cases inside : Instant.inCalendar (now.universal + d) = true
  · rw [if_pos inside]
    refine .inl ⟨inside, ?_⟩
    simp only [bind, Except.bind]
    split
    · exact .inr ⟨_, rfl, rfl⟩
    split
    · exact .inr ⟨_, rfl, rfl⟩
    · exact .inl ⟨_, rfl⟩
  · rw [if_neg inside]
    exact .inr ⟨inside, rfl⟩

theorem template_cases (positive : 0 < serial) (small : serial < 2 ^ 159) (policy : Policy)
    (now : Instant) (subject : Name) (key : KeyHandle) :
    (policy.Reckons now ∧ ((∃ t, template policy now subject key serial = .ok t) ∨
        ∃ f, template policy now subject key serial = .error f ∧ f.failure.isValue = true)) ∨
      (¬ policy.Reckons now ∧ template policy now subject key serial = .error Fault.beyond) := by
  unfold template
  by_cases first : Instant.inCalendar (now.wall - policy.backdate.micros) = true
  rotate_left
  · rw [shift_beyond (s := -policy.backdate) first]
    exact .inr ⟨fun reckons => first reckons.first, rfl⟩
  rw [shift_eq (s := -policy.backdate) first]
  by_cases last : Instant.inCalendar (now.wall + policy.validity.micros) = true
  rotate_left
  · rw [shift_beyond last]
    exact .inr ⟨fun reckons => last reckons.last, rfl⟩
  rw [shift_eq last]
  simp only [bind, Except.bind, withSerial_eq _ positive small]
  rcases @withNotBefore_moved { (((Template.empty.withSubject subject).withIssuer subject).withKey
    key.publicKey) with serial := some serial } rfl now (-policy.backdate).micros with
    ⟨begins, ⟨late, t, begun⟩ | ⟨early, f, refused, value⟩⟩ | ⟨outside, failed⟩
  · rw [begun]
    rcases withNotAfter_moved t now policy.validity.micros with
      ⟨ends, ⟨t', ended⟩ | ⟨f, refused, value⟩⟩ | ⟨outside, failed⟩
    · simp only [ended]
      exact .inl ⟨⟨first, last, begins, fun _ => ends⟩, .inl ⟨_, rfl⟩⟩
    · simp only [refused]
      exact .inl ⟨⟨first, last, begins, fun _ => ends⟩, .inr ⟨f, rfl, value⟩⟩
    · refine .inr ⟨fun reckons => outside (reckons.ends late), ?_⟩
      simp only [failed]
  · rw [refused]
    have reckons : policy.Reckons now :=
      ⟨first, last, begins, fun late => absurd early (Int.not_lt.mpr late)⟩
    exact .inl ⟨reckons, .inr ⟨f, rfl, value⟩⟩
  · rw [failed]
    exact .inr ⟨fun reckons => outside reckons.begins, rfl⟩

/-! ### Stages -/

variable {σ : Type} {k : Keeper σ} {suite : Suite} {shows_ : σ → Book → Prop}
  {ready newest : Book → Prop}

theorem leads_signed_cases (keeps : k.store.Keeps suite shows_ ready newest)
    (laws : suite.Lawful) (clock : ∀ s, k.clock s = now)
    (serial : 0 ≤ k.policy.serialBytes ∧ k.policy.serialBytes ≤ 19) {b : Book} {key : PrivateKey}
    (valid : key.Valid) (open_ : b.locked = none)
    (signs : b.key? (suite.handleOf key).keyId = some key) {name : Text} {content : Bytes}
    (accepted : Identity.Accepted name content) :
    Leads (shows_ · b) (k.signed (Name.ofCommonName content) (suite.handleOf key))
      fun o s => ∃ a, Alike b.around a ∧ shows_ s (b.amid a) ∧
        ((k.policy.Reckons now ∧ ((∃ c, o = .ok c ∧ Issued suite name key c) ∨
            ∃ f, o = .error f ∧ f.HasText ∧ f.failure.isValue = true)) ∨
          (¬ k.policy.Reckons now ∧ o = .error Fault.beyond)) := by
  refine leads_signed_of keeps clock serial fun n a positive small alike => ?_
  intro r held
  rcases template_cases positive small k.policy now (Name.ofCommonName content)
    (suite.handleOf key) with ⟨reckons, ⟨t, built⟩ | ⟨f, refused, value⟩⟩ | ⟨beyond, failed⟩
  · rcases template_spec k.policy now (Name.ofCommonName content) (suite.handleOf key) n with
      ⟨e, failed, _⟩ | ⟨t', first, last, built', whole, begins, ends, small'⟩
    · cases built.symm.trans failed
    obtain rfl : t = t' := Except.ok.inj (built.symm.trans built')
    obtain ⟨c, signed, issued⟩ := issued_of_sign laws valid accepted whole begins ends small'
    rw [Action.start_bind_ok (by rw [Action.start_ofExcept, built])]
    obtain ⟨held', outcome⟩ := keeps.sign (b.amid a) _ key t (.known .sha256) open_ signs r held
    refine ⟨a, alike, held', .inl ⟨reckons, .inl ⟨c, ?_, issued⟩⟩⟩
    rw [outcome, signed]
    rfl
  · obtain ⟨e, failed, text⟩ | ⟨t, _, _, built, _⟩ :=
      template_spec k.policy now (Name.ofCommonName content) (suite.handleOf key) n
    · obtain rfl := Except.error.inj (refused.symm.trans failed)
      rw [Action.start_bind_error (by rw [Action.start_ofExcept, refused])]
      exact ⟨a, alike, held, .inl ⟨reckons, .inr ⟨f, rfl, text.2.1, value⟩⟩⟩
    · cases refused.symm.trans built
  · rw [Action.start_bind_error (by rw [Action.start_ofExcept, failed])]
    exact ⟨a, alike, held, .inr ⟨beyond, rfl⟩⟩

/-- The new key is deleted again where a value of its certificate is refused, and stays where the
window cannot be reckoned. -/
theorem leads_makeCertificate_cases (keeps : k.store.Keeps suite shows_ ready newest)
    (laws : suite.Lawful) (clock : ∀ s, k.clock s = now)
    (serial : 0 ≤ k.policy.serialBytes ∧ k.policy.serialBytes ≤ 19) {b : Book} {key : PrivateKey}
    (valid : key.Valid) (open_ : b.locked = none)
    (signs : b.key? (suite.handleOf key).keyId = some key) {name : Text} {content : Bytes}
    (accepted : Identity.Accepted name content) :
    Leads (shows_ · b) (k.makeCertificate name (Name.ofCommonName content) (suite.handleOf key))
      fun o s => ∃ a, Alike b.around a ∧
        ((k.policy.Reckons now ∧ ((∃ c, o = .ok c ∧ Issued suite name key c ∧ shows_ s (b.amid a)) ∨
            ∃ f, o = .error f ∧ shows_ s ((b.amid a).dropKey (suite.handleOf key).keyId))) ∨
          (¬ k.policy.Reckons now ∧ o = .error Fault.beyond ∧ shows_ s (b.amid a))) := by
  intro r held
  obtain ⟨a, alike, held', outcome⟩ :=
    leads_signed_cases keeps laws clock serial valid open_ signs accepted r held
  refine ⟨a, alike, ?_⟩
  unfold makeCertificate
  rw [Action.start_bind_ok (Action.start_attempt _ r)]
  rcases outcome with ⟨reckons, ⟨c, signed, issued⟩ | ⟨f, refused, text, value⟩⟩ | ⟨beyond, failed⟩
  · rw [signed]
    exact .inl ⟨reckons, .inl ⟨c, rfl, issued, held'⟩⟩
  · have signing : isSigningFailure f = true := by
      rw [isSigningFailure, value, Bool.or_true, Bool.true_or]
    have abandoned (level : Level) (message : Text) (e : Fault) :
        Leads (shows_ · (b.amid a)) (do
          Action.log level message
          k.discardKey (suite.handleOf key)
          throw e : Action σ Certificate) fun o s => ∃ f, o = .error f ∧
            shows_ s ((b.amid a).dropKey (suite.handleOf key).keyId) := by
      have isKey := suite.isKeyId_handleOf key
      refine Action.leads_log_bind ((leads_discardKey keeps (b.amid a) isKey).bind_ok ?_)
      exact Action.leads_throw fun s held => ⟨e, rfl, held⟩
    rw [refused]
    simp only [signing, Bool.not_true, Bool.false_eq_true, if_false]
    rw [Action.start_bind_ok (by rw [Action.start_ofExcept, text.asText])]
    exact .inl ⟨reckons, .inr (abandoned _ _ _ _ held')⟩
  · rw [failed]
    exact .inr ⟨beyond, rfl, held'⟩

/-- Once a key can be made, issuing ends with a certificate, or with what the sweep left; where the
window cannot be reckoned the key is left as well. -/
theorem leads_issue_cases (keeps : k.store.Keeps suite shows_ ready newest) (laws : suite.Lawful)
    (clock : ∀ s, k.clock s = now)
    (serial : 0 ≤ k.policy.serialBytes ∧ k.policy.serialBytes ≤ 19) {b : Book} (sound : b.Sound)
    (writable : ready b) (available : b.available = true) (open_ : b.locked = none)
    {key : PrivateKey} {a : Surroundings} (drew : b.around.drawKey .p256 = (.ok key, a))
    (valid : key.Valid) {name : Text} {content : Bytes} (accepted : Identity.Accepted name content)
    (owns : ∀ x ∈ b.under name, k.Owns name x)
    (new : (b.remove (b.under name)).held (suite.handleOf key).keyId = false) :
    Leads (shows_ · b) (k.issue name) fun o s =>
      (k.policy.Reckons now ∧ ((∃ e, o = .ok e) ∨
          ∃ f a, o = .error f ∧ shows_ s ((b.remove (b.under name)).amid a))) ∨
        (¬ k.policy.Reckons now ∧ o = .error Fault.beyond ∧
          ∃ a, shows_ s (((b.remove (b.under name)).putKey (suite.handleOf key).keyId key).amid a))
    := by
  obtain ⟨b₁, cleared⟩ : ∃ b₁, b₁ = b.remove (b.under name) := ⟨_, rfl⟩
  obtain ⟨b₂, keyed⟩ : ∃ b₂, b₂ = (b₁.amid a).putKey (suite.handleOf key).keyId key := ⟨_, rfl⟩
  have sound₁ : b₁.Sound := cleared ▸ sound.remove _
  refine leads_issue_of keeps writable available open_ drew valid accepted owns ?_
  rw [← cleared] at new ⊢
  rw [← keyed]
  have open₂ : b₂.locked = none := by rw [keyed, cleared]; exact open_
  have signs : b₂.key? (suite.handleOf key).keyId = some key := by rw [keyed]; exact if_pos rfl
  refine (leads_makeCertificate_cases keeps laws clock serial valid open₂ signs accepted).bind
    ?_ fun c => ?_
  · rintro f s ⟨a', _, ⟨reckons, ⟨_, impossible, _⟩ | ⟨f', ended, held⟩⟩ | ⟨beyond, ended, held⟩⟩
    · cases impossible
    · have gone : (b₂.amid a').dropKey (suite.handleOf key).keyId = b₁.amid a' := by
        rw [keyed]
        exact Book.dropKey_putKey (sound₁.amid a') new key
      rw [gone] at held
      exact .inl ⟨reckons, .inr ⟨f, a', rfl, held⟩⟩
    · rw [keyed] at held
      exact .inr ⟨beyond, congrArg Except.error (Except.error.inj ended), a', held⟩
  · rintro r ⟨a', alike', ⟨reckons, ⟨c', ended, issued, held⟩ | ⟨_, impossible, _⟩⟩ |
      ⟨_, impossible, _⟩⟩
    · cases ended
      have alike := Surroundings.alike_drawKey drew
      have writable₂ : ready (b₂.amid a') := by
        rw [keyed, cleared] at alike' ⊢
        exact keeps.ready_mono writable (fun e he => (List.mem_filter.mp he).1)
          (alike.trans alike').1 (alike.trans alike').2
      have none₂ : (b₂.amid a').under name = [] := by
        rw [keyed, cleared]
        exact b.under_remove_under name
      have holds : (b₂.amid a').held (suite.handleOf key).keyId = true := by
        rw [keyed]
        simp [Book.amid, Book.putKey]
      obtain ⟨e, _, ended, _⟩ :=
        leads_finish keeps writable₂ accepted.valid none₂ holds issued r held
      exact .inl ⟨reckons, .inl ⟨e, ended⟩⟩
    · cases impossible
    · cases impossible

end Keeper

namespace Settings

open Keeper

variable {suite : Suite} {s : Settings} {now : Instant} {k : Keeper Memory.State} {name : Text}
  {r : Run Memory.State}

theorem keeper_eq_ok (made : s.keeper suite now = .ok k) :
    k = ⟨Memory.keyStore suite, s.prompt, fun _ => now, suite, s.plan⟩ := by
  unfold keeper at made
  cases planned : s.policy with
  | error f =>
    rw [planned] at made
    cases made
  | ok p =>
    rw [planned, policy_of_ok planned] at made
    exact (Except.ok.inj made).symm

/-- Once a new key has been made, issuing that fails leaves the entries that the sweep left; it
leaves the same keys exactly where the window can be reckoned. -/
theorem key_withdrawn_iff (laws : suite.Lawful) (declared : s.Declared)
    (made : s.keeper suite now = .ok k) (accepted : Identity.check (.text name) = .ok name)
    (formed : r.state.WellFormed) (available : r.state.book.available = true)
    (open_ : r.state.book.locked = none) {key : PrivateKey} {a : Surroundings}
    (drew : r.state.around.drawKey .p256 = (.ok key, a)) (valid : key.Valid)
    (owns : ∀ x ∈ r.state.book.under name, k.Owns name x)
    (fresh : r.state.store.hasKey (suite.handleOf key).keyId = false) :
    let swept := (start (k.removeAll name) r).2.state.store
    let ended := start (k.issue name) r
    (s.plan.Reckons now ∧ ∃ e, ended.1 = .ok e) ∨
      ∃ f, ended.1 = .error f ∧ ended.2.state.store.entries = swept.entries ∧
        ((∀ id, ended.2.state.store.hasKey id = swept.hasKey id) ↔ s.plan.Reckons now) := by
  intro swept ended
  obtain rfl := keeper_eq_ok made
  obtain ⟨_, content, addresses⟩ := Identity.accepted_of_check accepted
  have keeps := Memory.keeps suite
  have serial : 0 ≤ s.plan.serialBytes ∧ s.plan.serialBytes ≤ 19 :=
    ⟨Int.le_trans (by decide) declared.serial.1, declared.serial.2⟩
  obtain ⟨b₁, cleared⟩ : ∃ b₁, b₁ = r.state.book.remove (r.state.book.under name) := ⟨_, rfl⟩
  have held : Memory.State.Shows r.state r.state.book := ⟨formed, rfl⟩
  have sweep : (start (removeAll _ name) r).2.state.book = b₁ :=
    cleared ▸ (leads_removeAll_owned keeps owns r held).1.2
  have new : b₁.held (suite.handleOf key).keyId = false := by
    rw [cleared]
    exact Bool.and_eq_false_imp.mpr fun held => absurd held (Bool.eq_false_iff.mp fresh)
  have entries : swept.entries = b₁.entries := congrArg Book.entries sweep
  have keys : swept.hasKey = b₁.held := congrArg Book.held sweep
  have issued := leads_issue_cases keeps laws (fun _ => rfl) serial formed.sound trivial available
    open_ drew valid addresses owns (cleared ▸ new) r held
  rw [← cleared] at issued
  rw [entries, keys]
  rcases issued with ⟨reckons, ⟨e, given⟩ | ⟨f, a', failed, _, held⟩⟩ |
    ⟨beyond, failed, a', _, held⟩
  · exact .inl ⟨reckons, e, given⟩
  · have same : ended.2.state.store.hasKey = b₁.held := congrArg Book.held held
    exact .inr ⟨f, failed, congrArg Book.entries held,
      iff_of_true (fun id => congrFun same id) reckons⟩
  · refine .inr ⟨_, failed, congrArg Book.entries held, iff_of_false (fun same => ?_) beyond⟩
    have left : ended.2.state.store.hasKey (suite.handleOf key).keyId
        = (b₁.held (suite.handleOf key).keyId || decide (_ = _)) :=
      congrFun (congrArg Book.held held) (suite.handleOf key).keyId
    rw [same, new, decide_eq_true rfl] at left
    cases left

/-- A life of three million days: the sweep takes out the entry that is there, and the new key is
left without a certificate. -/
theorem key_left_of_long_validity : ∃ e : Entry, e.name = "server" ∧
    let s : Settings := { standard with validityDays := 3000000 }
    let k : Keeper Memory.State :=
      ⟨Memory.keyStore Suite.lenient, s.prompt, fun _ => noon, Suite.lenient, s.plan⟩
    let r : Run Memory.State :=
      ⟨⟨{ inMemory.store with entries := [e], imported := 1 }, quiet⟩, [], none⟩
    let swept := (start (k.removeAll "server") r).2.state.store
    let ended := start (k.issue "server") r
    s.Declared ∧ s.keeper Suite.lenient noon = .ok k ∧ k.Owns "server" e ∧
      ∃ f, ended.1 = .error f ∧ ended.2.state.store.entries = swept.entries ∧
        ∃ id, ended.2.state.store.hasKey id ≠ swept.hasKey id := by
  have valid : (⟨.p256, 1⟩ : PrivateKey).Valid := ⟨by decide, by decide⟩
  obtain ⟨c, issued⟩ := @exists_issued Suite.lenient Suite.lawful_lenient _ valid "server" rfl
  obtain ⟨e, isE⟩ : ∃ e : Entry, e = ⟨"mem-1", "server", c, .null⟩ := ⟨_, rfl⟩
  have named : e.name = "server" := congrArg Entry.name isE
  refine ⟨e, named, ?_⟩
  intro s k r swept ended
  have declared : s.Declared := ⟨by decide, by decide, by decide, by decide⟩
  have made : s.keeper Suite.lenient noon = .ok k := rfl
  have owns : k.Owns "server" e := isE ▸ issued.identity
  have under : r.state.book.under "server" = [e] :=
    List.filter_eq_self.mpr (List.forall_mem_singleton.mpr (decide_eq_true named))
  have first : ("mem-1" : Text) = "mem-" ++ Text.decimal (0 + 1) := by decide +kernel
  have numbered : e.handle = "mem-" ++ Text.decimal (0 + 1) :=
    (congrArg Entry.handle isE).trans first
  have formed : r.state.WellFormed := by
    refine ⟨⟨List.nodup_singleton _, ?_, fun _ _ => rfl⟩, ?_⟩
    · exact List.forall_mem_singleton.mpr (.inl (congrArg Entry.keyId isE))
    · exact List.forall_mem_singleton.mpr ⟨0, Nat.one_pos, numbered⟩
  have beyond : ¬ s.plan.Reckons noon := fun reckons => absurd reckons.last (by decide)
  rcases @key_withdrawn_iff Suite.lenient s noon k "server" r Suite.lawful_lenient declared made rfl
    formed rfl rfl ⟨.p256, 1⟩ { quiet with nextScalar := 2 } rfl valid
    (under ▸ List.forall_mem_singleton.mpr owns) rfl with ⟨reckons, _⟩ | ⟨f, failed, entries, keys⟩
  · exact absurd reckons beyond
  · exact ⟨declared, made, owns, f, failed, entries,
      not_forall.mp fun same => beyond (keys.mp same)⟩

end Settings

end CertKeeper
