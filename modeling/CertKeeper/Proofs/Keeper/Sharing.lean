import CertKeeper.Proofs.Keeper.Run

/-!
# Keys that entries share

A certificate that is imported twice binds two entries to one key, and the key goes with whichever
of them is taken out first.  A sweep takes the key of an entry that it leaves exactly where it takes
out another entry with that key.  Main statement: `Keeper.usable_after_iff`.
-/

namespace CertKeeper

open X509
open CertKeeper.Action (Leads start)

namespace Book

/-- An entry that is bound to a key that is held. -/
def Usable (b : Book) (e : Entry) : Prop := ∃ id, e.key? = some id ∧ b.held id = true

theorem usable_remove_iff {b : Book} {e : Entry} (usable : b.Usable e) (es : List Entry) :
    (b.remove es).Usable e ↔ ∀ x ∈ es, x.key? ≠ e.key? := by
  obtain ⟨id, bound, held⟩ := usable
  have removed : (b.remove es).held id = decide (some id ∉ es.map Entry.key?) := by
    change (b.held id && _) = _
    rw [held, Bool.true_and]
  constructor
  · rintro ⟨id', bound', held'⟩ x hx same
    obtain rfl : id = id' := Option.some.inj (bound.symm.trans bound')
    rw [removed, decide_eq_true_eq] at held'
    exact held' (bound ▸ same ▸ List.mem_map_of_mem hx)
  · intro other
    refine ⟨id, bound, ?_⟩
    rw [removed, decide_eq_true_eq, List.mem_map]
    rintro ⟨x, hx, same⟩
    exact other x hx (same.trans bound.symm)

end Book

/-! ### Signatures -/

theorem Directory.state_sign (suite : Suite) (id : Text) (t : Template)
    (choice : Template.DigestChoice) (r : Run Directory.State) :
    (start (Directory.sign suite id t choice) r).2.state = r.state := by
  unfold Directory.sign
  rw [Action.start_bind, Directory.start_ask]
  cases r.state.requireUnlocked with
  | error e => rfl
  | ok u =>
    simp only
    rw [Action.start_bind, Directory.start_ask]
    cases r.state.loadKey suite id with
    | error e => rfl
    | ok k => simp only [Action.start_refine, Action.start_ofExcept]

theorem Memory.leads_sign (suite : Suite) (id : Text) (t : Template)
    (choice : Template.DigestChoice) (b : Book) :
    Leads (State.Shows · b) (sign suite id t choice) fun _ s => State.Shows s b := by
  refine leads_touch_bind fun store => ?_
  rintro r ⟨shows_, rfl⟩
  rw [Action.start_bind]
  cases locked : r.state.store.locked with
  | some e =>
    rw [start_locked locked]
    exact shows_
  | none =>
    rw [start_unlocked locked]
    simp only
    cases r.state.store.key? id with
    | none => exact shows_
    | some k =>
      simp only [Action.start_refine, Action.start_ofExcept]
      exact shows_

/-! ### Stores that certificates are imported into -/

namespace Provider

variable {suite : Suite} {p : Provider}

/-- A call that takes one state of a store to the next: a key is made or signs, a certificate is
imported under a name, or an entry is deleted, one that the store holds or one that it no longer
holds; and the surroundings change. -/
inductive Deals (suite : Suite) (p : Provider) : p.State → p.State → Prop
  | elsewhere (s : p.State) (a : Surroundings) : Deals suite p s (p.amid s a)
  | generates (r : Run p.State) (c : Crypto.Curve)
      (able : p.Able (fun _ => True) (p.book suite r.state).around)
      (valid : ∀ k, ((p.book suite r.state).around.drawKey c).1 = .ok k → k.Valid) :
      Deals suite p r.state (start ((p.keyStore suite).generateKey c) r).2.state
  | signs (r : Run p.State) (id : Text) (t : Template) (choice : Template.DigestChoice) :
      Deals suite p r.state (start ((p.keyStore suite).sign id t choice) r).2.state
  | imports (r : Run p.State) (c : Certificate) (name : Text)
      (ready : p.Ready (fun _ => True) (p.book suite r.state))
      (readable : Certificate.ofDer c.der = .ok c) (valid : name.Valid) :
      Deals suite p r.state (start ((p.keyStore suite).importCertificate c name) r).2.state
  | deletes (r : Run p.State) (e : Entry)
      (given : e ∈ (p.book suite r.state).entries ∨
        p.CanName e.handle ∧ e.handle ∉ (p.book suite r.state).entries.map Entry.handle) :
      Deals suite p r.state (start ((p.keyStore suite).delete e) r).2.state

/-- A state that comes of a new store with the empty password by such calls. -/
inductive Dealt (suite : Suite) (p : Provider) : p.State → Prop
  | begun (r : Run p.State) (blank : p.Blank r.state) :
      Dealt suite p (start (p.initialise suite) r).2.state
  | next {s s' : p.State} (dealt : Dealt suite p s) (deals : Deals suite p s s') : Dealt suite p s'

theorem leads_sign (id : Text) (t : Template) (choice : Template.DigestChoice) (b : Book) :
    Leads (p.Shows (fun _ => True) suite · b) ((p.keyStore suite).sign id t choice)
      fun _ s => p.Shows (fun _ => True) suite s b := by
  cases p with
  | directory =>
    intro r shows_
    exact (Directory.state_sign suite id t choice r).symm ▸ shows_
  | memory => exact Memory.leads_sign suite id t choice b

theorem sound_of_deals (laws : suite.Lawful) {s s' : p.State} (deals : Deals suite p s s')
    (sound : p.Sound (fun _ => True) s) (unlocked : (p.book suite s).locked = none) :
    p.Sound (fun _ => True) s' ∧ (p.book suite s').locked = none := by
  have keeps := Provider.keeps laws (fun _ => True) p
  cases deals with
  | elsewhere _ a =>
    have shows_ : p.Shows (fun _ => True) suite (p.amid s a) ((p.book suite s).amid a) :=
      Provider.shows_amid ⟨sound, rfl⟩ a
    obtain ⟨sound', holds⟩ := shows_
    exact ⟨sound', holds ▸ unlocked⟩
  | generates r c able valid =>
    cases drew : (p.book suite r.state).around.drawKey c with
    | mk outcome a =>
      cases outcome with
      | error e =>
        obtain ⟨⟨sound', holds⟩, _⟩ :=
          keeps.generateRefused _ c e a unlocked drew r ⟨sound, rfl⟩
        exact ⟨sound', holds ▸ unlocked⟩
      | ok k =>
        have isKey := valid k (by rw [drew])
        obtain ⟨⟨sound', holds⟩, _⟩ :=
          Provider.leads_generateKey laws able unlocked drew isKey r ⟨sound, rfl⟩
        exact ⟨sound', holds ▸ unlocked⟩
  | signs r id t choice =>
    obtain ⟨sound', holds⟩ := leads_sign id t choice (p.book suite r.state) r ⟨sound, rfl⟩
    exact ⟨sound', holds ▸ unlocked⟩
  | imports r c name ready readable valid =>
    cases key : c.keyId with
    | error e =>
      obtain ⟨⟨sound', holds⟩, _⟩ := keeps.importRefused _ c name e key r ⟨sound, rfl⟩
      exact ⟨sound', holds ▸ unlocked⟩
    | ok id =>
      obtain ⟨e, b', _, ⟨sound', holds⟩, gains, _⟩ :=
        keeps.importCertificate _ c name id ready readable key valid r ⟨sound, rfl⟩
      exact ⟨sound', holds ▸ gains.locked.trans unlocked⟩
  | deletes r e given =>
    rcases given with stored | ⟨names, unknown⟩
    · obtain ⟨⟨sound', holds⟩, _⟩ := keeps.delete _ e stored r ⟨sound, rfl⟩
      exact ⟨sound', holds ▸ unlocked⟩
    · obtain ⟨⟨sound', holds⟩, _⟩ := leads_delete_unknown names unknown r ⟨sound, rfl⟩
      exact ⟨sound', holds ▸ unlocked⟩

theorem sound_of_dealt (laws : suite.Lawful) {s : p.State} (h : Dealt suite p s) :
    p.Sound (fun _ => True) s ∧ (p.book suite s).locked = none := by
  induction h with
  | begun r blank =>
    obtain ⟨s, journal, initialised, sound, empty⟩ := @start_initialise suite p r blank
    rw [initialised]
    exact ⟨sound, empty.locked⟩
  | next dealt deals ih => exact sound_of_deals laws deals ih.1 ih.2

end Provider

/-! ### Sweeps -/

namespace Keeper

variable {σ : Type}

/-- The entries that a sweep takes out: those before the first that fails the check. -/
def sweeps (k : Keeper σ) (name : Text) (es : List Entry) : List Entry :=
  es.takeWhile fun e => (Validation.checkIdentity k.suite e.certificate (.text name)).isOk

theorem sweeps_of_owns {k : Keeper σ} {name : Text} {es : List Entry}
    (owns : ∀ e ∈ es, k.Owns name e) : k.sweeps name es = es := by
  have passed : ∀ e ∈ es,
      (Validation.checkIdentity k.suite e.certificate (.text name)).isOk = true := by
    intro e he
    rw [owns e he]
    rfl
  simpa only [sweeps, List.append_nil, List.takeWhile_nil] using
    @List.takeWhile_append_of_pos Entry
      (fun e => (Validation.checkIdentity k.suite e.certificate (.text name)).isOk) es [] passed

theorem sweeps_of_foreign {k : Keeper σ} {name : Text} {own rest : List Entry} {e : Entry}
    {failed : Fault} (owns : ∀ x ∈ own, k.Owns name x)
    (foreign : Validation.checkIdentity k.suite e.certificate (.text name) = .error failed) :
    k.sweeps name (own ++ e :: rest) = own := by
  have first : ∀ x ∈ own,
      (Validation.checkIdentity k.suite x.certificate (.text name)).isOk = true := by
    intro x hx
    rw [owns x hx]
    rfl
  rw [sweeps, List.takeWhile_append_of_pos first, List.takeWhile_cons_of_neg, List.append_nil]
  rw [foreign]
  exact Bool.false_ne_true

variable {suite : Suite} {fresh : Text → Prop} {p : Provider}

/-- A sweep takes out the entries before the first that fails the check and goes through where there
is none; an entry that is left can still be used unless one that went was bound to the same key. -/
theorem usable_after_iff (laws : suite.Lawful) {k : Keeper p.State}
    (store : k.store = p.keyStore suite) {r : Run p.State} (sound : p.Sound fresh r.state)
    (name : Text) :
    let b := p.book suite r.state
    let swept := k.sweeps name (b.under name)
    let ended := start (k.removeAll name) r
    let b' := p.book suite ended.2.state
    ((∃ n, ended.1 = .ok n) ↔ swept = b.under name) ∧
      b'.entries = b.entries.filter (fun e => e.handle ∉ swept.map Entry.handle) ∧
      ∀ e ∈ b'.entries, b.Usable e → (b'.Usable e ↔ ∀ x ∈ swept, x.key? ≠ e.key?) := by
  intro b swept ended b'
  have keeps : k.store.Keeps suite (p.Shows fresh suite) (p.Ready fresh) p.Newest := by
    rw [store]
    exact Provider.keeps laws fresh p
  have outcome : ((∃ n, ended.1 = .ok n) ↔ swept = b.under name) ∧ b' = b.remove swept := by
    rcases leads_removeAll keeps b name r ⟨sound, rfl⟩ with
      ⟨through, ⟨_, holds⟩, owns⟩ |
        ⟨own, e, rest, failed, split, owns, foreign, ⟨_, holds⟩, refused⟩
    · have all : swept = b.under name := sweeps_of_owns owns
      exact ⟨⟨fun _ => all, fun _ => ⟨_, through⟩⟩, holds.trans (by rw [all])⟩
    · have before : swept = own := by
        change k.sweeps name (b.under name) = own
        rw [split, sweeps_of_foreign owns foreign]
      refine ⟨⟨?_, fun all => ?_⟩, holds.trans (by rw [before])⟩
      · rintro ⟨n, through⟩
        cases through.symm.trans refused
      · rw [before, split] at all
        have longer := congrArg List.length all
        rw [List.length_append, List.length_cons] at longer
        omega
  obtain ⟨through, removed⟩ := outcome
  refine ⟨through, by rw [removed]; rfl, fun e _ usable => ?_⟩
  rw [removed]
  exact Book.usable_remove_iff usable swept

/-! ### A certificate under two names -/

/-- A key is made, and a certificate of it is imported under two names; the sweep of one name goes
through, and leaves the entry under the other without its key. -/
theorem not_usable_of_shared : ∃ s : Memory.State, Provider.Dealt Suite.lenient .memory s ∧
    ∃ e ∈ s.book.entries, e.name = "other" ∧ s.book.Usable e ∧
      let ended := start (ofMemory.removeAll "server") ⟨s, [], none⟩
      (∃ n, ended.1 = .ok n) ∧ e ∈ ended.2.state.book.entries ∧
        ¬ ended.2.state.book.Usable e := by
  have valid : (⟨.p256, 1⟩ : PrivateKey).Valid := ⟨by decide, by decide⟩
  obtain ⟨c, issued⟩ := @exists_issued Suite.lenient Suite.lawful_lenient _ valid "server" rfl
  obtain ⟨id, own⟩ : ∃ id, id = (Suite.lenient.publicKey ⟨.p256, 1⟩).id := ⟨_, rfl⟩
  have keyed : c.keyId = .ok id := own ▸ issued.keyId
  have keeps := Memory.keeps Suite.lenient
  have begun : Provider.Dealt Suite.lenient .memory inMemory :=
    @Provider.Dealt.begun Suite.lenient .memory
      (⟨⟨Memory.Store.new none, quiet⟩, [], none⟩ : Run Memory.State) ⟨rfl, rfl, rfl, rfl, rfl⟩
  have drew : inMemory.book.around.drawKey .p256
      = (.ok ⟨.p256, 1⟩, { quiet with nextScalar := 2 }) := rfl
  obtain ⟨shows₁, _⟩ := keeps.generateKey inMemory.book .p256 ⟨.p256, 1⟩ _ trivial rfl drew valid
    ⟨inMemory, [], none⟩ ⟨Memory.wellFormed_of_vacant rfl, rfl⟩
  have dealt₁ := begun.next (@Provider.Deals.generates Suite.lenient .memory
    (⟨inMemory, [], none⟩ : Run Memory.State) .p256 trivial
    fun k made => Except.ok.inj (made.symm.trans (congrArg Prod.fst drew)) ▸ valid)
  rw [← own] at shows₁
  obtain ⟨e₁, b₁, _, shows₂, gains₁, named₁, certificate₁, bound₁, last₁⟩ :=
    keeps.importCertificate _ c "server" id trivial issued.readable keyed (Text.valid_ofString _)
      ⟨_, [], none⟩ shows₁
  have dealt₂ := dealt₁.next (@Provider.Deals.imports Suite.lenient .memory
    (⟨_, [], none⟩ : Run Memory.State) c "server" trivial issued.readable (Text.valid_ofString _))
  obtain ⟨e₂, b₂, _, shows₃, gains₂, named₂, _, bound₂, last₂⟩ :=
    keeps.importCertificate _ c "other" id trivial issued.readable keyed (Text.valid_ofString _)
      ⟨_, [], none⟩ shows₂
  have dealt₃ := dealt₂.next (@Provider.Deals.imports Suite.lenient .memory
    (⟨_, [], none⟩ : Run Memory.State) c "other" trivial issued.readable (Text.valid_ofString _))
  have held₁ : ((inMemory.book.amid { quiet with nextScalar := 2 }).putKey id ⟨.p256, 1⟩).held id
      = true := by simp [Book.putKey]
  have held₂ : b₁.held id = true := by rw [gains₁.held, held₁]
  have held₃ : b₂.held id = true := by rw [gains₂.held, held₂]
  have key₁ : e₁.key? = some id := by rw [Entry.key?, bound₁, if_pos held₁]; rfl
  have key₂ : e₂.key? = some id := by rw [Entry.key?, bound₂, if_pos held₂]; rfl
  have entries : b₂.entries = [e₁, e₂] := by
    rw [last₂ trivial, last₁ trivial]
    rfl
  have names : ¬ e₂.name = Text.ofString "server" := by
    rw [named₂]
    decide +kernel
  have under : b₂.under "server" = [e₁] := by simp [Book.under, entries, named₁, names]
  have owns : ∀ e ∈ b₂.under "server", ofMemory.Owns "server" e := by
    rw [under, List.forall_mem_singleton]
    unfold Owns
    rw [certificate₁]
    exact issued.identity
  have distinct : e₂.handle ≠ e₁.handle := by
    have nodup := (keeps.sound shows₃).handles
    rw [entries] at nodup
    simpa [eq_comm] using nodup
  have swept := sweeps_of_owns owns
  refine ⟨_, dealt₃, ?_⟩
  obtain ⟨sound, holds⟩ := shows₃
  obtain ⟨through, kept, usable⟩ := @usable_after_iff Suite.lenient (fun _ => True) .memory
    Suite.lawful_lenient ofMemory rfl (⟨_, [], none⟩ : Run Memory.State) sound "server"
  simp only [Provider.book, holds] at through kept usable
  have stored : e₂ ∈ b₂.entries := by
    rw [entries]
    exact List.mem_cons_of_mem _ List.mem_cons_self
  have left : e₂ ∈ b₂.entries.filter fun e =>
      decide (e.handle ∉ (ofMemory.sweeps "server" (b₂.under "server")).map Entry.handle) := by
    rw [swept, under]
    exact List.mem_filter.mpr ⟨stored, by simp [distinct]⟩
  have gone : e₁ ∈ ofMemory.sweeps "server" (b₂.under "server") := by
    rw [swept, under]
    exact List.mem_cons_self
  have before : b₂.Usable e₂ := ⟨id, key₂, held₃⟩
  refine ⟨e₂, holds ▸ stored, named₂, holds ▸ before, through.mpr swept, kept ▸ left,
    fun after => ?_⟩
  exact (usable e₂ (kept ▸ left) before).mp after e₁ gone (key₁.trans key₂.symm)

end Keeper

end CertKeeper
