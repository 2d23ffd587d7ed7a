import CertKeeper.Proofs.Encoding.Decimal
import CertKeeper.Proofs.Store.Book
import CertKeeper.Store.Memory

/-!
# The store in memory keeps its books

Main statement: every call of the store in memory does what `KeyStore.Keeps` says.
-/

namespace CertKeeper

open X509

namespace Memory

open CertKeeper.Action (Leads)

namespace State

def book (s : State) : Book :=
  ⟨s.store.entries, s.store.hasKey, s.store.key?, s.store.locked, s.store.available, s.around⟩

/-- Handles are numbered in the order of the imports. -/
structure WellFormed (s : State) : Prop where
  sound : s.book.Sound
  numbered : ∀ e ∈ s.store.entries,
    ∃ n, n < s.store.imported ∧ e.handle = "mem-" ++ Text.decimal (n + 1)

def Shows (s : State) (b : Book) : Prop := s.WellFormed ∧ s.book = b

namespace Shows

variable {s : State} {b : Book}

theorem entries (h : s.Shows b) : s.store.entries = b.entries := congrArg Book.entries h.2

theorem held (h : s.Shows b) (id : Text) : s.store.hasKey id = b.held id :=
  congrArg (Book.held · id) h.2

theorem key? (h : s.Shows b) (id : Text) : s.store.key? id = b.key? id :=
  congrArg (Book.key? · id) h.2

theorem locked (h : s.Shows b) : s.store.locked = b.locked := congrArg Book.locked h.2

theorem around (h : s.Shows b) : s.around = b.around := congrArg Book.around h.2

end Shows

end State

theorem key?_of_not (s : Store) (id : Text) (h : s.hasKey id = false) : s.key? id = none := by
  rw [Store.hasKey_eq] at h
  cases key : s.key? id with
  | none => rfl
  | some k =>
    rw [key] at h
    cases h

theorem hasKey_dropKey (s : Store) (id other : Text) :
    (s.dropKey id).hasKey other = (s.hasKey other && decide (other ≠ id)) := by
  rw [Store.hasKey_eq, Store.hasKey_eq, Store.key?_dropKey]
  by_cases same : other = id
  · simp [same]
  · simp [same]

theorem key?_putKey_other (s : Store) {id other : Text} (k : PrivateKey) (ne : other ≠ id) :
    (s.putKey id k).key? other = s.key? other := by
  have filtered : (s.keys.filter (·.1 ≠ id)).find? (fun p => p.1 = other)
      = s.keys.find? fun p => p.1 = other := by
    rw [List.find?_filter]
    congr 1
    funext p
    by_cases hp : p.1 = other <;> simp [hp, ne]
  have last : [(id, k)].find? (fun p => p.1 = other) = none := by
    simp [Ne.symm ne]
  simp only [Store.putKey, Store.key?, List.find?_append, filtered, last, Option.or_none]

theorem key?_putKey_eq (s : Store) (id : Text) (k : PrivateKey) :
    (s.putKey id k).key? = fun x => if x = id then some k else s.key? x := by
  funext x
  by_cases same : x = id
  · rw [if_pos same, same, Store.key?_putKey]
  · rw [if_neg same, key?_putKey_other s k same]

theorem hasKey_putKey_eq (s : Store) (id : Text) (k : PrivateKey) :
    (s.putKey id k).hasKey = fun x => s.hasKey x || decide (x = id) := by
  funext x
  rw [Store.hasKey_eq, key?_putKey_eq, Store.hasKey_eq]
  by_cases same : x = id
  · simp [same]
  · simp [same]

theorem imported_remove (s : Store) (e : Entry) : (s.remove e).imported = s.imported := by
  unfold Store.remove
  split <;> rfl

theorem entries_remove (s : Store) (e : Entry) :
    (s.remove e).entries = s.entries.filter (·.handle ≠ e.handle) := by
  unfold Store.remove
  split <;> rfl

theorem nextHandle_fresh {s : State} (h : s.WellFormed) :
    s.store.nextHandle ∉ s.store.entries.map Entry.handle := by
  intro member
  obtain ⟨e, he, handle⟩ := List.mem_map.mp member
  obtain ⟨n, less, own⟩ := h.numbered e he
  rw [own, Store.nextHandle] at handle
  have same := Text.decimal_injective (List.append_cancel_left handle)
  omega

/-! ### Calls -/

section Calls

variable {b : Book}

theorem leads_touch (b : Book) :
    Leads (State.Shows · b) touch fun o s => State.Shows s b ∧ o = .ok s.store := by
  intro r hr
  exact ⟨⟨⟨hr.1.sound, hr.1.numbered⟩, hr.2⟩, rfl⟩

theorem leads_touch_bind {α : Type} {f : Store → Action State α}
    {Q : Except Fault α → State → Prop}
    (h : ∀ store, Leads (fun s => State.Shows s b ∧ s.store = store) (f store) Q) :
    Leads (State.Shows · b) (touch >>= f) Q := by
  refine (leads_touch b).bind (fun e s impossible => nomatch impossible.2) fun store => ?_
  refine (h store).mono (fun s hs => ⟨hs.1, ?_⟩) fun _ _ hq => hq
  have same := hs.2
  cases same
  rfl

theorem leads_put {P : State → Prop} {Q : Except Fault Unit → State → Prop} {store : Store}
    (h : ∀ s, P s → Q (.ok ()) ⟨store, s.around⟩) : Leads P (put store) Q :=
  fun r hr => h r.state hr

theorem start_drawn {α : Type} (f : Surroundings → Except Fault α × Surroundings) (r : Run State) :
    Action.start (drawn f) r = ((f r.state.around).1,
      ⟨⟨r.state.store, (f r.state.around).2⟩, r.journal, r.operation⟩) := by
  rw [drawn, Action.start_bind, Action.start_take]
  simp only [Action.start_ofExcept]

theorem start_locked {store : Store} {e : Fault} (h : store.locked = some e) (r : Run State) :
    Action.start (requireUnlocked store) r = (.error e, r) := by
  rw [requireUnlocked, h]
  rfl

theorem start_unlocked {store : Store} (h : store.locked = none) (r : Run State) :
    Action.start (requireUnlocked store) r = (.ok (), r) := by
  rw [requireUnlocked, h]
  rfl

theorem book_remove {s : State} (sound : s.book.Sound) {e : Entry} (stored : e ∈ s.store.entries) :
    State.book ⟨s.store.remove e, s.around⟩ = s.book.remove [e] := by
  have entries : s.store.entries.filter (·.handle ≠ e.handle) = (s.book.remove [e]).entries :=
    List.filter_congr fun x _ => by simp
  rcases sound.keyIds e stored with null | ⟨id, bound, _⟩
  · have unbound : e.key? = none := by rw [Entry.key?, null]; rfl
    have removed : s.store.remove e
        = { s.store with entries := s.store.entries.filter (·.handle ≠ e.handle) } := by
      rw [Store.remove, Store.keyIdOf, null]
      rfl
    rw [removed, s.book.remove_unbound unbound]
    exact Book.ext entries rfl rfl rfl rfl rfl
  · have own : e.key? = some id := by rw [Entry.key?, bound]; rfl
    have removed : s.store.remove e
        = { s.store with entries := s.store.entries.filter (·.handle ≠ e.handle) }.dropKey id := by
      rw [Store.remove, Store.keyIdOf, bound]
      rfl
    rw [removed, s.book.remove_bound own]
    exact Book.ext entries (funext fun other => hasKey_dropKey _ id other)
      (funext fun other => Store.key?_dropKey _ id other) rfl rfl rfl

theorem shows_remove {s : State} (h : s.Shows b) {e : Entry} (stored : e ∈ b.entries) :
    State.Shows ⟨s.store.remove e, s.around⟩ (b.remove [e]) := by
  obtain ⟨formed, rfl⟩ := h
  have book := book_remove formed.sound stored
  refine ⟨⟨book ▸ formed.sound.remove [e], fun x hx => ?_⟩, book⟩
  change x ∈ (s.store.remove e).entries at hx
  rw [entries_remove s.store e] at hx
  change ∃ n, n < (s.store.remove e).imported ∧ _
  rw [imported_remove s.store e]
  exact formed.numbered x (List.mem_filter.mp hx).1

theorem shows_dropKey {s : State} (h : s.Shows b) (id : Text) :
    State.Shows ⟨s.store.dropKey id, s.around⟩ (b.dropKey id) := by
  obtain ⟨formed, rfl⟩ := h
  refine ⟨⟨⟨formed.sound.handles, formed.sound.keyIds, key?_of_not _⟩, formed.numbered⟩, ?_⟩
  have held : (s.store.dropKey id).hasKey = (s.book.dropKey id).held := by
    funext other
    exact hasKey_dropKey s.store id other
  have keys : (s.store.dropKey id).key? = (s.book.dropKey id).key? := by
    funext other
    exact Store.key?_dropKey s.store id other
  exact Book.ext rfl held keys rfl rfl rfl

theorem shows_putKey {s : State} (h : s.Shows b) (id : Text) (k : PrivateKey) (a : Surroundings) :
    State.Shows ⟨s.store.putKey id k, a⟩ ((b.amid a).putKey id k) := by
  obtain ⟨formed, rfl⟩ := h
  refine ⟨⟨⟨formed.sound.handles, formed.sound.keyIds, key?_of_not _⟩, formed.numbered⟩, ?_⟩
  exact Book.ext rfl (hasKey_putKey_eq _ _ _) (key?_putKey_eq _ _ _) rfl rfl rfl

theorem shows_amid {s : State} (h : s.Shows b) (a : Surroundings) :
    State.Shows ⟨s.store, a⟩ (b.amid a) := by
  obtain ⟨formed, rfl⟩ := h
  exact ⟨⟨⟨formed.sound.handles, formed.sound.keyIds, key?_of_not _⟩, formed.numbered⟩, rfl⟩

def imported (s : State) (c : Certificate) (name id : Text) : Entry :=
  ⟨s.store.nextHandle, name, c, if s.store.hasKey id then .text id else .null⟩

theorem shows_imported {s : State} (h : s.Shows b) {c : Certificate} {id : Text}
    (key : Book.isKeyId id = true) (name : Text) :
    State.Shows ⟨{ s.store with
      entries := s.store.entries ++ [imported s c name id]
      imported := s.store.imported + 1 }, s.around⟩
      { b with entries := b.entries ++ [imported s c name id] } := by
  obtain ⟨formed, rfl⟩ := h
  have fresh := nextHandle_fresh formed
  refine ⟨⟨⟨?_, ?_, key?_of_not _⟩, ?_⟩, rfl⟩
  · change ((s.store.entries ++ [imported s c name id]).map Entry.handle).Nodup
    rw [List.map_append, List.map_cons, List.map_nil, ← List.concat_eq_append, List.nodup_concat]
    exact ⟨fresh, formed.sound.handles⟩
  · intro e he
    rcases List.mem_append.mp he with old | new
    · exact formed.sound.keyIds e old
    · rw [List.mem_singleton.mp new, imported]
      by_cases held : s.store.hasKey id = true
      · exact Or.inr ⟨id, if_pos held, key⟩
      · exact Or.inl (if_neg held)
  · intro e he
    rcases List.mem_append.mp he with old | new
    · obtain ⟨n, less, own⟩ := formed.numbered e old
      exact ⟨n, Nat.lt_succ_of_lt less, own⟩
    · rw [List.mem_singleton.mp new]
      exact ⟨s.store.imported, Nat.lt_succ_self _, rfl⟩

/-! What a call that fails leaves, and what it says. -/

theorem leads_delete_unknown {e : Entry} (unknown : e.handle ∉ b.entries.map Entry.handle) :
    Leads (State.Shows · b) (delete e) fun o s => State.Shows s b ∧
      o = .error (Fault.keyStore ("Unknown certificate entry " ++ e.handle)) := by
  refine leads_touch_bind fun store => ?_
  rintro r ⟨shows_, rfl⟩
  have none_ : r.state.store.entries.any (·.handle = e.handle) = false := by
    rw [Bool.eq_false_iff]
    intro found
    obtain ⟨x, hx, same⟩ := List.any_eq_true.mp found
    rw [shows_.entries] at hx
    exact unknown (List.mem_map.mpr ⟨x, hx, of_decide_eq_true same⟩)
  rw [if_neg (by rw [none_]; decide)]
  exact ⟨shows_, rfl⟩

theorem leads_generateKey_locked {c : Crypto.Curve} {e : Fault} (locked : b.locked = some e)
    (suite : Suite) :
    Leads (State.Shows · b) (generateKey suite c) fun o s => State.Shows s b ∧ o = .error e := by
  refine leads_touch_bind fun store => ?_
  rintro r ⟨shows_, rfl⟩
  rw [Action.start_bind_error (start_locked (shows_.locked.trans locked) r)]
  exact ⟨shows_, rfl⟩

theorem leads_generateKey_refused {c : Crypto.Curve} {e : Fault} {a : Surroundings}
    (open_ : b.locked = none) (draw : b.around.drawKey c = (.error e, a)) (suite : Suite) :
    Leads (State.Shows · b) (generateKey suite c) fun o s => State.Shows s (b.amid a) ∧
      o = .error ((StoreFault.ofGeneration e).getD e) := by
  refine leads_touch_bind fun store => ?_
  rintro r ⟨shows_, rfl⟩
  have failed : Action.start (Action.refine (drawn (Surroundings.drawKey c))
      StoreFault.ofGeneration) r = (.error ((StoreFault.ofGeneration e).getD e),
        ⟨⟨r.state.store, a⟩, r.journal, r.operation⟩) := by
    rw [Action.start_refine, start_drawn, shows_.around, draw]
    rfl
  rw [Action.start_bind_ok (start_unlocked (shows_.locked.trans open_) r),
    Action.start_bind_error failed]
  exact ⟨shows_amid shows_ a, rfl⟩

theorem leads_sign_unknown {id : Text} (open_ : b.locked = none) (unknown : b.held id = false)
    (suite : Suite) (t : Template) (choice : Template.DigestChoice) :
    Leads (State.Shows · b) (sign suite id t choice) fun o s => State.Shows s b ∧
      o = .error (Fault.keyStore ("Unknown key " ++ id)) := by
  refine leads_touch_bind fun store => ?_
  rintro r ⟨shows_, rfl⟩
  have missing : r.state.store.key? id = none := key?_of_not _ _ ((shows_.held id).trans unknown)
  rw [Action.start_bind_ok (start_unlocked (shows_.locked.trans open_) r), missing]
  exact ⟨shows_, rfl⟩

theorem leads_importCertificate_refused {c : Certificate} {e : Fault} (refused : c.keyId = .error e)
    (name : Text) :
    Leads (State.Shows · b) (importCertificate c name) fun o s =>
      State.Shows s b ∧ o = .error e := by
  refine leads_touch_bind fun store => ?_
  rintro r ⟨shows_, rfl⟩
  have failed : Action.start (Action.ofExcept c.keyId) r = (.error e, r) := by
    rw [Action.start_ofExcept, refused]
  rw [Action.start_bind_error failed]
  exact ⟨shows_, rfl⟩

/-! What a call does that succeeds. -/

theorem leads_isAvailable (suite : Suite) :
    Leads (State.Shows · b) (keyStore suite).isAvailable fun o s =>
      State.Shows s b ∧ o = .ok (.bool b.available) := by
  refine leads_touch_bind fun store => Action.leads_pure fun s hs => ⟨hs.1, ?_⟩
  obtain ⟨⟨_, rfl⟩, rfl⟩ := hs
  rfl

theorem leads_findByName (suite : Suite) (name : Text) :
    Leads (State.Shows · b) ((keyStore suite).findByName name) fun o s =>
      State.Shows s b ∧ o = .ok (b.first? name) := by
  refine leads_touch_bind fun store => Action.leads_pure fun s hs => ⟨hs.1, ?_⟩
  obtain ⟨⟨_, rfl⟩, rfl⟩ := hs
  rfl

theorem leads_delete {e : Entry} (stored : e ∈ b.entries) :
    Leads (State.Shows · b) (delete e) fun o s => State.Shows s (b.remove [e]) ∧ o = .ok () := by
  refine leads_touch_bind fun store => ?_
  rintro r ⟨shows_, rfl⟩
  have known : r.state.store.entries.any (·.handle = e.handle) = true := by
    rw [shows_.entries]
    exact List.any_eq_true.mpr ⟨e, stored, by simp⟩
  rw [if_pos known]
  exact ⟨shows_remove shows_ stored, rfl⟩

theorem leads_deleteKey (suite : Suite) (id : Text) :
    Leads (State.Shows · b) ((keyStore suite).deleteKey id) fun o s =>
      State.Shows s (b.dropKey id) ∧ o = .ok () := by
  refine leads_touch_bind fun store => leads_put fun s hs => ⟨?_, rfl⟩
  obtain ⟨shows_, rfl⟩ := hs
  exact shows_dropKey shows_ id

theorem leads_generateKey {c : Crypto.Curve} {k : PrivateKey} {a : Surroundings}
    (open_ : b.locked = none) (draw : b.around.drawKey c = (.ok k, a)) (suite : Suite) :
    Leads (State.Shows · b) (generateKey suite c) fun o s =>
      State.Shows s ((b.amid a).putKey (suite.publicKey k).id k) ∧
        o = .ok ⟨(suite.publicKey k).id, suite.publicKey k⟩ := by
  refine leads_touch_bind fun store => ?_
  rintro r ⟨shows_, rfl⟩
  have made : Action.start (Action.refine (drawn (Surroundings.drawKey c))
      StoreFault.ofGeneration) r
        = (.ok k, ⟨⟨r.state.store, a⟩, r.journal, r.operation⟩) := by
    rw [Action.start_refine, start_drawn, shows_.around, draw]
    rfl
  rw [Action.start_bind_ok (start_unlocked (shows_.locked.trans open_) r),
    Action.start_bind_ok made]
  exact ⟨shows_putKey shows_ _ k a, rfl⟩

theorem leads_sign_known {id : Text} {k : PrivateKey} (open_ : b.locked = none)
    (key : b.key? id = some k) (suite : Suite) (t : Template) (choice : Template.DigestChoice) :
    Leads (State.Shows · b) (sign suite id t choice) fun o s => State.Shows s b ∧
      o = (t.sign suite k choice).mapError fun e => (StoreFault.ofSigning e).getD e := by
  refine leads_touch_bind fun store => ?_
  rintro r ⟨shows_, rfl⟩
  rw [Action.start_bind_ok (start_unlocked (shows_.locked.trans open_) r),
    (shows_.key? id).trans key]
  rw [Action.start_refine, Action.start_ofExcept]
  exact ⟨shows_, rfl⟩

theorem leads_importCertificate {c : Certificate} {id : Text} (key : c.keyId = .ok id)
    (name : Text) :
    Leads (State.Shows · b) (importCertificate c name) fun o s => ∃ e b',
      o = .ok e ∧ State.Shows s b' ∧ b.Gains e b' ∧ e.name = name ∧ e.certificate = c ∧
        e.keyId = (if b.held id then .text id else .null) ∧ b'.entries = b.entries ++ [e] := by
  refine leads_touch_bind fun store => ?_
  rintro r ⟨shows_, rfl⟩
  have named : Action.start (Action.ofExcept c.keyId) r = (.ok id, r) := by
    rw [Action.start_ofExcept, key]
  rw [Action.start_bind_ok named]
  refine ⟨imported r.state c name id,
    { b with entries := b.entries ++ [imported r.state c name id] },
    rfl, shows_imported shows_ (X509.Certificate.isKeyId_of_keyId key) name, ?_, rfl, rfl, ?_, rfl⟩
  · exact ⟨⟨b.entries, [], (List.append_nil _).symm, rfl⟩, rfl, rfl, rfl, rfl⟩
  · rw [imported, shows_.held id]

theorem leads_randomBytes (suite : Suite) (n : Int) :
    Leads (State.Shows · b) ((keyStore suite).randomBytes n) fun o s =>
      State.Shows s (b.amid (b.around.draw n).2) ∧ o = (b.around.draw n).1.map Value.bytes := by
  refine leads_touch_bind fun store => ?_
  rintro r ⟨shows_, rfl⟩
  rw [Action.start_bind, start_drawn, shows_.around]
  have amid := shows_amid shows_ (b.around.draw n).2
  cases outcome : (b.around.draw n).1 with
  | error e => exact ⟨amid, rfl⟩
  | ok bs => exact ⟨amid, rfl⟩

end Calls

/-! ### Numbers -/

theorem start_touch (r : Run State) : Action.start touch r
    = (.ok r.state.store.touch, ⟨⟨r.state.store.touch, r.state.around⟩, r.journal, r.operation⟩) :=
  rfl

theorem start_importCertificate {c : Certificate} {id : Text} (key : c.keyId = .ok id) (name : Text)
    (r : Run State) : (Action.start (importCertificate c name) r).2.state.store.imported
        = r.state.store.imported + 1 ∧
      ∀ e, (Action.start (importCertificate c name) r).1 = .ok e →
        e.handle = r.state.store.nextHandle := by
  have named : ∀ r : Run State, Action.start (Action.ofExcept c.keyId) r = (.ok id, r) := by
    intro r
    rw [Action.start_ofExcept, key]
  unfold importCertificate
  rw [Action.start_bind_ok (start_touch r), Action.start_bind_ok (named _)]
  exact ⟨rfl, fun e ended => Except.ok.inj ended ▸ rfl⟩

theorem start_delete (e : Entry) (r : Run State) : Action.start (delete e) r
    = if r.state.store.entries.any (·.handle = e.handle) then
        (.ok (), ⟨⟨r.state.store.touch.remove e, r.state.around⟩, r.journal, r.operation⟩)
      else (.error (Fault.keyStore ("Unknown certificate entry " ++ e.handle)),
        ⟨⟨r.state.store.touch, r.state.around⟩, r.journal, r.operation⟩) := by
  unfold delete
  rw [Action.start_bind_ok (start_touch r)]
  cases known : r.state.store.entries.any (·.handle = e.handle) with
  | true =>
    have known' : r.state.store.touch.entries.any (·.handle = e.handle) = true := known
    rw [if_pos known']
    rfl
  | false =>
    have unknown : ¬ r.state.store.touch.entries.any (·.handle = e.handle) = true :=
      Bool.eq_false_iff.mp known
    rw [if_neg unknown]
    rfl

theorem imported_delete (e : Entry) (r : Run State) :
    (Action.start (delete e) r).2.state.store.imported = r.state.store.imported := by
  rw [start_delete]
  split
  · exact imported_remove r.state.store.touch e
  · rfl

theorem imported_generateKey (suite : Suite) (c : Crypto.Curve) (r : Run State) :
    (Action.start (generateKey suite c) r).2.state.store.imported = r.state.store.imported := by
  unfold generateKey
  rw [Action.start_bind_ok (start_touch r)]
  cases locked : r.state.store.touch.locked with
  | some e =>
    rw [Action.start_bind_error (start_locked locked _)]
    rfl
  | none =>
    rw [Action.start_bind_ok (start_unlocked locked _), Action.start_bind, Action.start_refine,
      start_drawn]
    cases (r.state.around.drawKey c).1 with
    | error e => rfl
    | ok k => rfl

theorem imported_sign (suite : Suite) (id : Text) (t : Template) (choice : Template.DigestChoice)
    (r : Run State) :
    (Action.start (sign suite id t choice) r).2.state.store.imported = r.state.store.imported := by
  unfold sign
  rw [Action.start_bind_ok (start_touch r)]
  cases locked : r.state.store.touch.locked with
  | some e =>
    rw [Action.start_bind_error (start_locked locked _)]
    rfl
  | none =>
    rw [Action.start_bind_ok (start_unlocked locked _)]
    cases r.state.store.touch.key? id with
    | none => rfl
    | some k =>
      simp only
      rw [Action.start_refine, Action.start_ofExcept]
      rfl

theorem imported_importRefused {c : Certificate} {e : Fault} (refused : c.keyId = .error e)
    (name : Text) (r : Run State) :
    (Action.start (importCertificate c name) r).2.state.store.imported
      = r.state.store.imported := by
  unfold importCertificate
  rw [Action.start_bind_ok (start_touch r),
    Action.start_bind_error (by rw [Action.start_ofExcept, refused])]
  rfl

theorem lifecycle?_locked {store : Store} {e : Fault} (locked : store.locked = some e) :
    e.failure.lifecycle? = none := by
  unfold Store.locked at locked
  split at locked
  · cases locked
    rfl
  split at locked
  · cases locked
    rfl
  · cases locked

/-- The store in memory keeps its books, whatever the surroundings. -/
theorem keeps (suite : Suite) :
    (keyStore suite).Keeps suite State.Shows (fun _ => True) (fun _ => True) where
  sound h := h.2 ▸ h.1.sound
  horizon h := by
    rw [← h.entries]
    exact Nat.lt_succ_self _
  ready_mono _ _ _ _ := trivial
  lockedFault h locked := lifecycle?_locked (h.locked.trans locked)
  isAvailable _ := leads_isAvailable suite
  findByName _ name := leads_findByName suite name
  delete _ _ stored := leads_delete stored
  deleteKey _ id _ := leads_deleteKey suite id
  generateLocked _ _ _ locked := leads_generateKey_locked locked suite
  generateRefused _ _ _ _ open_ draw := leads_generateKey_refused open_ draw suite
  generateKey _ _ _ _ _ open_ draw _ := leads_generateKey open_ draw suite
  sign _ _ _ t choice open_ key := leads_sign_known open_ key suite t choice
  importRefused _ _ name _ refused := leads_importCertificate_refused refused name
  importCertificate _ _ name _ _ _ key _ := by
    refine (leads_importCertificate key name).post ?_
    rintro o s ⟨e, b', ended, held, gains, named, certificate, keyId, last⟩
    exact ⟨e, b', ended, held, gains, named, certificate, keyId, fun _ => last⟩
  randomBytes _ n := leads_randomBytes suite n

end Memory

end CertKeeper
