import CertKeeper.Proofs.Keeper.Obtain

/-!
# Orderly stores

A store that only keepers have worked on holds one entry a name, each one with a certificate of the
keeper's and a key of its own, and no key beside them.  No request of a keeper breaks this, however
it ends.  Main statements: `Book.Orderly.obtain` and `Book.Orderly.remove`.
-/

namespace CertKeeper

open CertKeeper.Action (Leads)

/-- An entry is what a keeper makes: its certificate passes the identity check for its name, and it
is bound to a key that is held and has the public half of the certificate. -/
structure Book.Own (suite : Suite) (b : Book) (e : Entry) (id : Text) : Prop where
  identity : Validation.checkIdentity suite e.certificate (.text e.name) = .ok ()
  bound : e.keyId = .text id
  held : b.held id = true
  key : ∃ k, b.key? id = some k ∧ e.certificate.publicKey = .ok (suite.publicKey k)

/-- What a store looks like that only keepers have worked on. -/
structure Book.Orderly (suite : Suite) (b : Book) : Prop where
  unlocked : b.locked = none
  single : (b.entries.map Entry.name).Nodup
  own : ∀ e ∈ b.entries, ∃ id, b.Own suite e id
  distinct : (b.entries.map Entry.keyId).Nodup
  bound : ∀ id, b.held id = true → ∃ e ∈ b.entries, e.keyId = .text id

namespace Book.Orderly

variable {suite : Suite} {b b' : Book}

theorem amid (h : b.Orderly suite) (a : Surroundings) : (b.amid a).Orderly suite :=
  ⟨h.unlocked, h.single, fun e he => (h.own e he).imp fun _ own =>
    ⟨own.identity, own.bound, own.held, own.key⟩, h.distinct, h.bound⟩

theorem remove_under (h : b.Orderly suite) (sound : b.Sound) (name : Text) :
    (b.remove (b.under name)).Orderly suite := by
  have sub : (b.remove (b.under name)).entries.Sublist b.entries := List.filter_sublist
  -- a key that an entry which stays is bound to is bound to none of those that go
  have unbound : ∀ e ∈ (b.remove (b.under name)).entries, ∀ id, e.keyId = .text id →
      some id ∉ (b.under name).map Entry.key? := by
    intro e he id bound member
    obtain ⟨stored, kept⟩ := List.mem_filter.mp he
    obtain ⟨x, hx, same⟩ := List.mem_map.mp member
    have inside := (List.mem_filter.mp hx).1
    obtain ⟨id', own⟩ := h.own x inside
    have key : x.key? = some id' := by rw [Entry.key?, own.bound]; rfl
    have ids : id' = id := Option.some.inj (key.symm.trans same)
    have eq := List.inj_on_of_nodup_map h.distinct inside stored
      (by rw [own.bound, ids, bound])
    exact of_decide_eq_true kept (eq ▸ List.mem_map_of_mem hx)
  refine ⟨h.unlocked, h.single.sublist (sub.map _), ?_, h.distinct.sublist (sub.map _), ?_⟩
  · intro e he
    obtain ⟨id, own⟩ := h.own e (sub.subset he)
    have free := unbound e he id own.bound
    refine ⟨id, own.identity, own.bound, ?_, ?_⟩
    · change (b.held id && _) = true
      rw [own.held, decide_eq_true free]
      rfl
    · obtain ⟨k, key, public_⟩ := own.key
      exact ⟨k, (if_neg free).trans key, public_⟩
  · intro id held
    change (b.held id && decide (some id ∉ (b.under name).map Entry.key?)) = true at held
    rw [Bool.and_eq_true, decide_eq_true_eq] at held
    obtain ⟨e, stored, bound⟩ := h.bound id held.1
    refine ⟨e, List.mem_filter.mpr ⟨stored, decide_eq_true fun member => ?_⟩, bound⟩
    obtain ⟨x, hx, same⟩ := List.mem_map.mp member
    have eq := List.inj_on_of_nodup_map sound.handles (List.mem_filter.mp hx).1 stored same
    refine held.2 (List.mem_map.mpr ⟨x, hx, ?_⟩)
    rw [eq, Entry.key?, bound]
    rfl

theorem gains (h : b.Orderly suite) {e : Entry} {id : Text} {k : PrivateKey}
    (gains : (b.putKey id k).Gains e b') (new : b.held id = false)
    (first : b.under e.name = [])
    (identity : Validation.checkIdentity suite e.certificate (.text e.name) = .ok ())
    (bound : e.keyId = .text id) (public_ : e.certificate.publicKey = .ok (suite.publicKey k)) :
    b'.Orderly suite := by
  obtain ⟨before, after, was, is⟩ := gains.entries
  change b.entries = before ++ after at was
  have perm : b'.entries.Perm (e :: b.entries) := by
    rw [is, was]
    exact List.perm_middle
  have held' : ∀ x, b'.held x = (b.held x || decide (x = id)) := fun x => congrFun gains.held x
  have key' : ∀ x, b'.key? x = if x = id then some k else b.key? x := fun x => congrFun gains.key? x
  refine ⟨gains.locked.trans h.unlocked, ?_, ?_, ?_, ?_⟩
  · rw [(perm.map Entry.name).nodup_iff, List.map_cons, List.nodup_cons]
    refine ⟨fun member => ?_, h.single⟩
    obtain ⟨x, hx, same⟩ := List.mem_map.mp member
    have inside : x ∈ b.under e.name := List.mem_filter.mpr ⟨hx, decide_eq_true same⟩
    rw [first] at inside
    cases inside
  · intro x hx
    rcases List.mem_cons.mp (perm.mem_iff.mp hx) with rfl | old
    · refine ⟨id, identity, bound, ?_, k, ?_, public_⟩
      · rw [held', decide_eq_true rfl, Bool.or_true]
      · rw [key', if_pos rfl]
    · obtain ⟨id', own⟩ := h.own x old
      have ne : id' ≠ id := by
        rintro rfl
        have there := own.held
        rw [new] at there
        cases there
      obtain ⟨k', key, public'⟩ := own.key
      refine ⟨id', own.identity, own.bound, ?_, k', ?_, public'⟩
      · rw [held', own.held, Bool.true_or]
      · rw [key', if_neg ne, key]
  · rw [(perm.map Entry.keyId).nodup_iff, List.map_cons, List.nodup_cons]
    refine ⟨fun member => ?_, h.distinct⟩
    obtain ⟨x, hx, same⟩ := List.mem_map.mp member
    obtain ⟨id', own⟩ := h.own x hx
    have ids : id' = id := Value.text.inj (own.bound.symm.trans (same.trans bound))
    have there := own.held
    rw [ids, new] at there
    cases there
  · intro x held
    rw [held', Bool.or_eq_true, decide_eq_true_eq] at held
    rcases held with old | rfl
    · obtain ⟨x', stored, bound'⟩ := h.bound x old
      exact ⟨x', perm.mem_iff.mpr (List.mem_cons_of_mem _ stored), bound'⟩
    · exact ⟨e, perm.mem_iff.mpr List.mem_cons_self, bound⟩

end Book.Orderly

/-! ### Requests -/

namespace Book.Orderly

variable {σ : Type} {k : Keeper σ} {suite : Suite} {shows_ : σ → Book → Prop}
  {ready newest : Book → Prop} {b : Book}

theorem owns (h : b.Orderly suite) (same : k.suite = suite) {name : Text} :
    ∀ e ∈ b.under name, k.Owns name e := by
  intro e he
  obtain ⟨stored, named⟩ := List.mem_filter.mp he
  obtain ⟨id, own⟩ := h.own e stored
  have identity := own.identity
  rw [of_decide_eq_true named] at identity
  rw [Keeper.Owns, same]
  exact identity

/-- A replacement leaves the store in order, however it ends. -/
theorem replaced (h : b.Orderly suite) (sound : b.Sound) (same : k.suite = suite)
    (fits : ∀ s, k.policy.Fits (k.clock s)) {name : Text}
    (draws : (b.remove (b.under name)).Draws suite) {o : Except Fault Entry} {s : σ}
    (out : k.Replaced suite shows_ b name o s) :
    ∃ b', shows_ s b' ∧ b'.Orderly suite ∧ ∀ f, o = .error f → ¬ f.IsUnexpected := by
  cases out with
  | refused away held ended =>
    refine ⟨b, held, h, ?_⟩
    rintro f same
    rw [ended] at same
    cases same
    rintro ⟨_, _, impossible⟩
    cases impossible
  | stopped own e rest failed split owns foreign held ended =>
    have passes : k.Owns name e :=
      h.owns same e (by rw [split]; exact List.mem_append_right _ List.mem_cons_self)
    rw [Keeper.Owns, foreign] at passes
    cases passes
  | abandoned f a owns held plain ended =>
    refine ⟨_, held, (h.remove_under sound name).amid a, ?_⟩
    intro f' same
    rw [ended] at same
    cases same
    exact plain
  | stranded f key a owns held small plain ended =>
    obtain ⟨now, small⟩ := small
    exact absurd (fits now) small
  | issued e key a b' owns unlocked drew named certificate bound gains only held ended =>
    have new := (draws.fresh key a drew).2
    have first : (b.remove (b.under name)).under e.name = [] := by
      rw [named]
      exact b.under_remove_under name
    have identity := certificate.identity
    rw [← named] at identity
    refine ⟨b', held, (h.remove_under sound name).gains gains new first identity bound
      certificate.publicKey, ?_⟩
    intro f same
    rw [ended] at same
    cases same

/-- A request for the certificate of a name leaves the store in order, however it ends. -/
theorem obtain (h : b.Orderly suite) (keeps : k.store.Keeps suite shows_ ready newest)
    (laws : suite.Lawful) (writable : ready b) (same : k.suite = suite)
    (fits : ∀ s, k.policy.Fits (k.clock s)) {name : Text}
    (accepted : Identity.check (.text name) = .ok name)
    (draws : (b.remove (b.under name)).Draws suite) :
    Leads (shows_ · b) (k.obtain (.text name)) fun o s =>
      ∃ b', shows_ s b' ∧ b'.Orderly suite ∧ ∀ f, o = .error f → ¬ f.IsUnexpected := by
  intro r started
  cases Keeper.start_obtain keeps laws writable accepted draws started with
  | reused e first valid held ended =>
    refine ⟨b, held, h, ?_⟩
    intro f same
    rw [ended] at same
    cases same
  | unclear e f first failed why held ended =>
    refine ⟨b, held, h, ?_⟩
    intro f' same'
    rw [ended] at same'
    cases same'
    have member : e ∈ b.under name := by
      rw [Book.first?_eq] at first
      exact List.mem_of_mem_head? first
    have identity := h.owns same e member
    rw [Keeper.Owns] at identity
    rw [Keeper.checked, Validation.check, identity] at failed
    exact Validation.checkWindow_error failed
  | replaced stale out => exact h.replaced (keeps.sound started) same fits draws out

/-- A request to remove what is under a name leaves the store in order, and succeeds. -/
theorem remove (h : b.Orderly suite) (keeps : k.store.Keeps suite shows_ ready newest)
    (sound : b.Sound) (same : k.suite = suite) {name : Text}
    (accepted : Identity.check (.text name) = .ok name) :
    Leads (shows_ · b) (k.remove (.text name)) fun o s =>
      ∃ b', shows_ s b' ∧ b'.Orderly suite ∧ o = .ok () := by
  refine (Keeper.leads_remove keeps b accepted).post ?_
  rintro o s ⟨n, ended, ⟨counted, held, _⟩ | ⟨own, e, rest, failed, split, _, foreign, _⟩⟩
  · refine ⟨_, held, h.remove_under sound name, ?_⟩
    rw [ended, counted]
    rfl
  · have passes : k.Owns name e :=
      h.owns same e (by rw [split]; exact List.mem_append_right _ List.mem_cons_self)
    rw [Keeper.Owns, foreign] at passes
    cases passes

end Book.Orderly

end CertKeeper
