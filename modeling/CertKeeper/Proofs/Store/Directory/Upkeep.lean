import CertKeeper.Proofs.Store.Directory.Furnished
import CertKeeper.Proofs.Store.Directory.Minds

/-!
# Calls on a directory in use

What a call changes in a directory in use, whoever makes it, and what becomes of such a directory
when a store is opened on it or a password is entered.  Main statements: `tends_delete`,
`tends_importCertificate`, `tends_generateKey`, `start_login_here` and `start_openStore_here`.
-/

namespace CertKeeper.Directory

namespace Site

open X509
open CertKeeper.Action (Leads start)
open CertKeeper.Tree (IsDirectory Sets)

structure Tended (site : Site) (aims : List Path) (w : Option Text) (before : Tree) (s : State) :
    Prop where
  place : s.base = site.base
  mind : s.password = w
  furnished : site.Furnished s.tree
  changes : site.Changes aims before s.tree

def Tends {α : Type} (site : Site) (aims : List Path) (w : Option Text) (before : Tree)
    (a : Action State α) : Prop :=
  Leads (site.Tended aims w before) a fun _ => site.Tended aims w before

variable {site : Site} {aims : List Path} {w : Option Text} {before : Tree} {s : State}
  {α β : Type}

namespace Tended

theorem amid (h : site.Tended aims w before s) (a : Surroundings) :
    site.Tended aims w before (s.onto s.tree a) := ⟨h.place, h.mind, h.furnished, h.changes⟩

theorem change (h : site.Tended aims w before s) {t : Tree} (one : site.Change aims s.tree t)
    (a : Surroundings) : site.Tended aims w before (s.onto t a) :=
  ⟨h.place, h.mind, one.furnished h.furnished, h.changes.tail one⟩

theorem houses (h : site.Tended aims w before s) (known : site.Known w) : site.Houses s :=
  ⟨h.place, h.mind ▸ known, h.furnished⟩

end Tended

/-! ### Combinators -/

theorem tends_pure (v : α) : site.Tends aims w before (pure v) := Action.leads_pure fun _ h => h

theorem tends_throw (e : Fault) : site.Tends aims w before (throw e : Action State α) :=
  Action.leads_throw fun _ h => h

theorem Tends.bind {a : Action State α} {f : α → Action State β}
    (first : site.Tends aims w before a) (next : ∀ v, site.Tends aims w before (f v)) :
    site.Tends aims w before (a >>= f) := Leads.bind first (fun _ _ h => h) next

theorem tends_log (level : Level) (message : Text) :
    site.Tends aims w before (Action.log level message) := Action.leads_log fun _ h => h

theorem tends_ofExcept (o : Except Fault α) : site.Tends aims w before (Action.ofExcept o) :=
  Action.leads_ofExcept fun _ h => h

theorem tends_ask (f : State → Except Fault α) : site.Tends aims w before (ask f) :=
  leads_ask fun _ h => h

theorem Tends.refine {a : Action State α} (h : site.Tends aims w before a)
    (handler : Fault → Option Fault) : site.Tends aims w before (Action.refine a handler) :=
  Leads.refine h

theorem tends_read {f : State → Action State α}
    (next : ∀ s, s.base = site.base → site.Tends aims w before (f s)) :
    site.Tends aims w before (Action.read >>= f) := by
  intro r h
  exact next r.state h.place r h

theorem tends_drawn (f : Surroundings → Except Fault α × Surroundings) :
    site.Tends aims w before (drawn f) := by
  intro r h
  rw [start_drawn]
  exact h.amid _

/-! ### Taking away -/

theorem tends_unlink {q : Path} (aimed : q ∈ aims) :
    site.Tends aims w before (onTree (·.unlink q)) := by
  intro r h
  rw [start_onTree]
  have quiet := Tree.trouble_of_quiet h.furnished.quiet
  cases path : r.state.tree.resolve q with
  | error code =>
    simp only [Tree.unlink, quiet, path]
    exact h.amid _
  | ok x =>
    obtain rfl : Tree.goal q = x := Tree.goal_of_resolve path
    cases there : r.state.tree.node? (Tree.goal q) with
    | none =>
      rw [Tree.unlink_none h.furnished.quiet path there]
      exact h.amid _
    | some n =>
      cases n with
      | directory mode =>
        simp only [Tree.unlink, quiet, path, there]
        exact h.amid _
      | file mode bytes =>
        have file := Tree.not_isDirectory_of_file there
        obtain ⟨t, unlinked, sets⟩ :=
          Tree.sets_unlink h.furnished.sound h.furnished.quiet path there
        rw [unlinked]
        exact h.change (.gone q aimed file sets) _

theorem tends_unlinkPresent {q : Path} (aimed : q ∈ aims) :
    site.Tends aims w before (unlinkPresent q) := by
  unfold unlinkPresent
  split
  · exact tends_throw _
  · refine (tends_unlink aimed).bind fun o => ?_
    split
    · exact tends_pure _
    · exact tends_pure _
    · exact tends_pure _

def entryAims (base : Path) (e : Entry) : List Path :=
  (base.join "certificates").join (entryFile e.handle) :: match e.keyId with
    | .null => []
    | v => [(base.join "keys").join (keyFile v.spell)]

theorem boundKeyPath_mem {e : Entry} {q : Path} (bound : boundKeyPath s e.keyId = some q) :
    q ∈ entryAims s.base e := by
  unfold entryAims
  cases named : e.keyId with
  | null =>
    rw [named] at bound
    cases bound
  | _ =>
    rw [named] at bound
    obtain rfl := Option.some.inj bound
    exact List.mem_cons_of_mem _ (List.mem_singleton_self _)

theorem tends_delete (e : Entry) : site.Tends (entryAims site.base e) w before (delete e) := by
  refine tends_read fun s place => (tends_ofExcept _).bind fun there => ?_
  have record : s.entryPath e.handle ∈ entryAims site.base e := place ▸ List.mem_cons_self
  cases there with
  | false => exact tends_throw (Fault.keyStore ("Unknown certificate entry " ++ e.handle))
  | true =>
  refine (tends_unlink record).bind fun unlinked => ?_
  cases unlinked with
  | error code => exact tends_throw _
  | ok _ =>
    dsimp only
    split
    · exact (tends_pure ()).bind fun _ => tends_log _ _
    next q bound =>
      refine (tends_unlinkPresent (place ▸ boundKeyPath_mem bound)).bind fun taken => ?_
      cases taken with
      | error e' => exact tends_throw _
      | ok _ => exact tends_log _ _

theorem tends_deleteKey (id : Text) :
    site.Tends [(site.base.join "keys").join (keyFile id)] w before (deleteKey id) := by
  refine tends_read fun s place => ?_
  have aimed : s.keyPath id ∈ [(site.base.join "keys").join (keyFile id)] :=
    place ▸ List.mem_singleton_self _
  refine (tends_unlinkPresent aimed).bind fun taken => ?_
  cases taken with
  | error e => exact tends_throw _
  | ok _ => exact tends_log _ _

theorem tends_sign (id : Text) (t : Template) (choice : Template.DigestChoice) :
    site.Tends aims w before (sign site.suite id t choice) :=
  (tends_ask _).bind fun _ => (tends_ask _).bind fun _ => (tends_ofExcept _).refine _

/-! ### Putting -/

theorem start_putEntry {r : Run State} (furnished : site.Furnished r.state.tree)
    (place : r.state.base = site.base) (word : isToken r.state.around.token = true) {handle : Text}
    (points : (entryFile handle).all isNamePoint = true) (long : 6 ≤ (entryFile handle).length)
    (short : (entryFile handle).length ≤ 200) (bytes : Bytes) (mode : Nat) :
    ∃ t, start (writeWhole (r.state.entryPath handle) bytes mode) r
        = (.ok (), ⟨r.state.onto t r.state.around, r.journal, r.operation⟩) ∧
      Sets r.state.tree (entryAt site.location (entryFile handle)) (some (.file mode bytes)) t := by
  rw [State.entryPath, State.entriesPath, place]
  exact start_writeWhole furnished.sound furnished.quiet furnished.entriesPath
    (site.room.join fileName_certificates) (furnished.directory (.inr (.inr rfl)))
    (fileName_of_all points (by omega) (by omega)) (fileName_temporary points short word)
    (furnished.unused_entry _ _) (furnished.not_directory_entry _) bytes mode

theorem start_putKey {r : Run State} (furnished : site.Furnished r.state.tree)
    (place : r.state.base = site.base) (word : isToken r.state.around.token = true) {id : Text}
    (key : Book.isKeyId id = true) (bytes : Bytes) (mode : Nat) :
    ∃ t, start (writeWhole (r.state.keyPath id) bytes mode) r
        = (.ok (), ⟨r.state.onto t r.state.around, r.journal, r.operation⟩) ∧
      Sets r.state.tree (keyAt site.location id) (some (.file mode bytes)) t := by
  obtain ⟨points, short⟩ := keyFile_spec key
  rw [State.keyPath, State.keysPath, place]
  exact start_writeWhole furnished.sound furnished.quiet furnished.keysPath
    (site.room.join fileName_keys) (furnished.directory (.inr (.inl rfl))) (fileName_keyFile key)
    (fileName_temporary points short word) (furnished.unused_key _ _)
    (furnished.not_directory_key _) bytes mode

/-- An import puts one entry, whatever certificate it is of. -/
theorem tends_importCertificate (c : Certificate) (name : Text) :
    Leads (fun s => site.Tended aims w before s ∧ isToken s.around.token = true ∧
        s.around.ticks.natAbs < 10 ^ 100)
      (importCertificate c name) fun _ => site.Tended aims w before := by
  intro r hr
  obtain ⟨h, word, ticks⟩ := hr
  unfold importCertificate
  rw [Action.start_bind, Action.start_ofExcept]
  cases key : c.keyId with
  | error e => exact h
  | ok id =>
    have place : r.state.base = site.base := h.place
    have present := Tree.exists?_eq (h.furnished.keyPath (Certificate.isKeyId_of_keyId key))
    have there : r.state.tree.exists? (r.state.keyPath id)
        = .ok (r.state.tree.node? (keyAt site.location id)).isSome := by
      rw [State.keyPath, State.keysPath, place]
      exact present
    obtain ⟨points, long, short⟩ := nextHandle_spec word ticks
    dsimp only
    rw [Action.start_bind_ok (Action.start_take _ _), Action.start_bind_ok (Action.start_read _),
      Action.start_bind_ok (by rw [Action.start_ofExcept]; exact congrArg (·, _) there)]
    dsimp only
    obtain ⟨t, wrote, sets⟩ := @start_putEntry site
      ⟨⟨r.state.tree, r.state.base, r.state.password, r.state.around.tick.2⟩, r.journal,
        r.operation⟩ h.furnished place word
      (State.nextHandle r.state.around.tick.1 r.state.around.tick.2.token)
      points long short _ _
    rw [Action.start_bind_ok wrote]
    exact h.change (.entry _ _ _ sets) _

/-- A key that is made is put under its name and is there. -/
theorem tends_generateKey (known : site.Known w) (c : Crypto.Curve) :
    Leads (fun s => site.Tended aims w before s ∧ isToken s.around.token = true ∧
        ∀ k, (s.around.drawKey c).1 = .ok k → k.Valid)
      (generateKey site.suite c) fun o s => site.Tended aims w before s ∧
        ∀ x, o = .ok x → s.tree.node? (keyAt site.location x.keyId) ≠ none := by
  intro r hr
  obtain ⟨h, word, draws⟩ := hr
  unfold generateKey
  cases unlocked : r.state.requireUnlocked with
  | error e =>
    rw [Action.start_bind_error (start_ask_error unlocked)]
    exact ⟨h, fun x impossible => nomatch impossible⟩
  | ok u =>
    rw [Action.start_bind_ok (start_ask_ok unlocked)]
    cases drew : r.state.around.drawKey c with
    | mk d a =>
      rw [drew] at draws
      cases d with
      | error e =>
        rw [Action.start_bind_error (start_generation drew)]
        exact ⟨h.amid a, fun x impossible => nomatch impossible⟩
      | ok k =>
        have valid := draws k rfl
        have token : a.token = r.state.around.token := (drawKey_keeps drew).2
        have sealed := Houses.sealingPassword_eq ((h.houses known).mind_of_unlocked unlocked)
        have content : (do
            let sealing ← (r.state.onto r.state.tree a).sealingPassword
            KeyFile.write site.suite k sealing) = .ok (site.keyBlock k).spell := by
          change r.state.sealingPassword.bind _ = _
          rw [sealed]
          exact (site.write_read valid).1
        rw [Action.start_bind_ok (start_generation drew)]
        dsimp only
        obtain ⟨t, wrote, sets⟩ := @start_putKey site
          ⟨r.state.onto r.state.tree a, r.journal, r.operation⟩ h.furnished h.place
          (token.symm ▸ word) (site.suite.publicKey k).id (site.suite.isKeyId_handleOf k)
          (asciiBytes (site.keyBlock k).spell) 0o600
        rw [Action.start_bind_ok (start_ask_ok content), Action.start_bind_ok (Action.start_read _),
          Action.start_bind_ok wrote]
        refine ⟨h.change (.key k valid sets) _, fun x made => ?_⟩
        obtain rfl := Except.ok.inj made
        change t.node? (keyAt site.location (site.suite.publicKey k).id) ≠ none
        rw [sets.self]
        exact Option.some_ne_none _

/-! ### Entering the password -/

/-- Who is let in has entered the password, and has it in mind from then on; nothing else makes a
difference.  Nobody enters the password in vain while the record of it stands. -/
theorem start_login_here {r : Run State} (h : site.Houses r.state) {words : List Text}
    (apart : site.suite.TellsApart words) (own : site.password ∈ words) {q : Text}
    (word : q ∈ words) :
    let ended := start (login site.suite q) r
    (q = site.password ∧ ended.1 = .ok (.bool true) ∧
        ended.2.state = r.state.minding (remembered site.password)) ∨
      (ended.1 ≠ .ok (.bool true) ∧ ended.2.state = r.state ∧
        (q = site.password → r.state.tree.node? (passwordAt site.location) = none)) := by
  intro ended
  rcases h.recorded with gone | recorded
  · have left : ended = _ := start_login_none (gone.record?_none h.passwordPath)
    rw [left]
    exact .inr ⟨by simp, rfl, fun _ => gone⟩
  have told : ∀ p, some site.password = some p → site.suite.TellsApart [p, q] := by
    intro p same x hx y hy
    obtain rfl := Option.some.inj same
    have among : ∀ z ∈ [site.password, q], z ∈ words := by simp [own, word]
    exact apart x (among x hx) y (among y hy)
  rcases recorded.start_login h.passwordPath told with
    ⟨right, let_in, mind⟩ | ⟨wrong, kept_out, same⟩
  · obtain rfl := Option.some.inj right
    exact .inl ⟨rfl, let_in, mind⟩
  · refine .inr ⟨fun let_in => ?_, same, fun equal => absurd (congrArg some equal.symm) wrong⟩
    rcases kept_out with kept_out | ⟨_, kept_out, _⟩
    · cases kept_out.symm.trans let_in
    · cases kept_out.symm.trans let_in

/-! ### Opening a store -/

/-- Opening a store on a directory in use makes no difference but that the password has to be
entered again. -/
theorem start_openStore_here {r : Run State} (h : site.Houses r.state) :
    ∃ journal, start openStore r = (.ok (), ⟨r.state.minding none, journal, r.operation⟩) := by
  have root := h.furnished.directory (.inl rfl)
  have keys := h.furnished.directory (.inr (.inl rfl))
  have entries := h.furnished.directory (.inr (.inr rfl))
  have place := h.place
  have prepared : prepare r.state = (.ok r.state.tree, r.state.tree) := by
    simp only [prepare, State.keysPath, State.entriesPath, place,
      Tree.makeDirectories_present h.furnished.keysPath keys,
      Tree.makeDirectories_present h.furnished.entriesPath entries]
  have same : closing site.location r.state.tree = r.state.tree := by
    rw [closing, Tree.put_listed (h.furnished.closed _ (.inl rfl)),
      Tree.put_listed (h.furnished.closed _ (.inr (.inl rfl))),
      Tree.put_listed (h.furnished.closed _ (.inr (.inr rfl)))]
  obtain ⟨journal, opened⟩ := start_openStore_prepared (place ▸ site.nameable)
    (place ▸ site.room) prepared
    h.furnished.sound (place ▸ h.furnished.base) root keys entries
  rw [same] at opened
  exact ⟨journal, opened⟩

/-! ### The first store -/

theorem start_founding {r : Run State} (blank : r.state.Blank site.location)
    (place : r.state.base = site.base) (word : isToken r.state.around.token = true) :
    ∃ s journal, start (openStore >>= fun _ => initPassword site.suite site.password) r
        = (.ok (), ⟨s, journal, r.operation⟩) ∧ site.Houses s ∧
      s.password = remembered site.password ∧
      s.tree.node? (passwordAt site.location) ≠ none := by
  obtain ⟨s, journal, opened, facts⟩ := start_openStore_blank blank
  obtain ⟨t, salt, journal', initialised, sets, layout, _⟩ := @start_recordPassword _ site.suite _
    ⟨s, journal, r.operation⟩ facts.vacant.layout facts.vacant.password
    (facts.around ▸ word) trivial _ _ site.sealable facts.password
  have free := Tree.not_isDirectory_of_none facts.vacant.password
  have furnished : site.Furnished t := by
    have base : s.base = site.base := facts.base.trans place
    refine ⟨layout.sound, layout.quiet, base ▸ layout.base, fun d own => ?_,
      .inr ⟨_, salt, sets.self⟩, fun name n there => ?_, fun name n there => ?_⟩
    · have apart : d ≠ passwordAt site.location := by
        intro same
        exact free (same ▸ Tree.isDirectory_of_listed (facts.closed d own))
      rw [sets.listed? apart]
      exact facts.closed d own
    · have gone : t.node? (keysAt site.location ++ [name]) = none :=
        (sets.other _ (by simp [keysAt, passwordAt])).trans (facts.below _ name)
      rw [there] at gone
      cases gone
    · have gone : t.node? (entriesAt site.location ++ [name]) = none :=
        (sets.other _ (by simp [entriesAt, passwordAt])).trans (facts.below _ name)
      rw [there] at gone
      cases gone
  refine ⟨_, journal', (Action.start_bind_ok opened _).trans initialised,
    ⟨facts.base.trans place, .inr rfl, furnished⟩, rfl, ?_⟩
  change t.node? (passwordAt site.location) ≠ none
  rw [sets.self]
  exact Option.some_ne_none _

end Site

end CertKeeper.Directory
