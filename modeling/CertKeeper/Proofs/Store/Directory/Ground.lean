import CertKeeper.Proofs.Store.Directory.Opening
import CertKeeper.Proofs.Store.Directory.Credentials
import CertKeeper.Proofs.Store.Directory.Promise

/-!
# The place of a store's password

All that a store's password needs of the directory is the directory itself, the record of the
password, and a free name beside it; the rest may be in any state.  Main statements:
`start_initPassword_ground`, `start_openStore_ground` and `not_isShut_generateKey`.
-/

namespace CertKeeper.Directory

open X509
open CertKeeper.Action (start)
open CertKeeper.Tree (IsDirectory Sets)

variable {suite : Suite} {l : Location} {s s' : State} {r : Run State}

/-! ### The ground -/

theorem front_ne {l m : Location}
    (front : m = passwordAt l ∨ ∃ token, m = l ++ [temporaryName "password.json" token]) :
    m ≠ l ∧ m ≠ keysAt l ∧ m ≠ entriesAt l := by
  have named : ∃ n : Text, m = l ++ [n] ∧ n ≠ Text.ofString "keys" ∧
      n ≠ Text.ofString "certificates" := by
    rcases front with rfl | ⟨token, rfl⟩
    · exact ⟨_, rfl, by decide +kernel, by decide +kernel⟩
    · refine ⟨_, rfl, fun same => ?_, fun same => ?_⟩
      · cases congrArg List.head? same
      · cases congrArg List.head? same
  obtain ⟨n, rfl, notKeys, notEntries⟩ := named
  exact ⟨by simp, fun same => notKeys (place_injective same),
    fun same => notEntries (place_injective same)⟩

/-- A directory in which a password can be recorded, whatever else stands in it. -/
structure State.Ground (s : State) (l : Location) : Prop where
  sound : s.tree.Sound
  quiet : s.tree.troubles = []
  base : s.tree.resolve s.base = .ok l
  nameable : s.base.isUnnameable = false
  room : Tree.HasRoom s.base 512
  root : s.tree.IsDirectory l
  word : isToken s.around.token = true
  unused : s.tree.node? (l ++ [temporaryName "password.json" s.around.token]) = none

namespace State.Ground

theorem passwordPath (h : s.Ground l) : s.tree.resolve s.passwordPath = .ok (passwordAt l) :=
  Tree.resolve_join fileName_password (Tree.hasRoom_base h.room) h.base h.root

theorem amid (h : s.Ground l) (w : Option Text) {a : Surroundings}
    (token : a.token = s.around.token) : State.Ground ⟨s.tree, s.base, w, a⟩ l :=
  ⟨h.sound, h.quiet, h.base, h.nameable, h.room, h.root, token ▸ h.word, token ▸ h.unused⟩

theorem join (h : s.Ground l) {n : Text} (name : FileName n) :
    s.tree.resolve (s.base.join n) = .ok (l ++ [n]) :=
  Tree.resolve_join name (Tree.hasRoom_base h.room) h.base h.root

theorem isAvailable_iff (h : s.Ground l) :
    Directory.isAvailable s = .ok true ↔ s.tree.IsDirectory (keysAt l) ∧
      s.tree.IsDirectory (entriesAt l) ∧ l ∉ s.tree.barred := by
  have keys : s.tree.isDirectory (s.base.join "keys") = .ok true ↔ s.tree.IsDirectory (keysAt l) :=
    Tree.isDirectory_iff (h.join fileName_keys)
  have entries : s.tree.isDirectory s.entriesPath = .ok true ↔ s.tree.IsDirectory (entriesAt l) :=
    Tree.isDirectory_iff (h.join fileName_certificates)
  have writable : s.tree.isWritable s.base = true ↔ l ∉ s.tree.barred := by
    rw [Tree.isWritable_directory h.base h.root, Bool.not_eq_true', ← Bool.not_eq_true,
      List.contains_iff_mem]
  rw [← keys, ← entries, ← writable]
  unfold Directory.isAvailable
  change (s.tree.isDirectory (s.base.join "keys")).bind _ = _ ↔ _
  cases s.tree.isDirectory (s.base.join "keys") with
  | error e => simp [Except.bind]
  | ok b =>
    cases b with
    | false => simp [Except.bind, pure, Except.pure]
    | true =>
      cases s.tree.isDirectory s.entriesPath <;> simp [bind, Except.bind, pure, Except.pure]

theorem isAvailable_told (h : s.Ground l) : ∃ b, Directory.isAvailable s = .ok b := by
  have told {n : Text} (name : FileName n) : ∃ b, s.tree.isDirectory (s.base.join n) = .ok b := by
    rw [Tree.isDirectory, Tree.stat_eq (h.join name)]
    cases s.tree.node? (l ++ [n]) with
    | none => exact ⟨false, rfl⟩
    | some node => exact ⟨node.isDirectory, rfl⟩
  obtain ⟨b, keys⟩ := told fileName_keys
  unfold Directory.isAvailable
  change ∃ b, (s.tree.isDirectory (s.base.join "keys")).bind _ = .ok b
  rw [keys]
  cases b with
  | false => exact ⟨false, rfl⟩
  | true =>
    obtain ⟨b, entries⟩ := told fileName_certificates
    refine ⟨b && s.tree.isWritable s.base, ?_⟩
    change (s.tree.isDirectory (s.base.join "certificates")).bind _ = _
    rw [entries]
    rfl

end State.Ground

theorem State.Recorded.refit {known : Option Text} (h : s.Recorded suite l known)
    (same : s'.tree.node? (passwordAt l) = s.tree.node? (passwordAt l)) :
    s'.Recorded suite l known := by
  cases known with
  | none => exact same.trans h
  | some p =>
    obtain ⟨mode, salt, content, encoded, there⟩ := h
    exact ⟨mode, salt, content, encoded, same.trans there⟩

/-! ### Setting a password -/

/-- A first password that has an encoding is recorded, and is in mind from then on unless it is
empty; nothing but the record is different. -/
theorem start_initPassword_ground (ground : r.state.Ground l)
    (vacant : r.state.Recorded suite l none) {p : Text} {content : Bytes}
    (encoded : Utf8.encode p = .ok content) :
    ∃ t n journal, start (initPassword suite p) r = (.ok (), ⟨⟨t, r.state.base,
        if p.isEmpty then r.state.password else some p, (r.state.around.draw 16).2⟩, journal,
        r.operation⟩) ∧
      Sets r.state.tree (passwordAt l) (some n) t ∧
      (r.state.onto t r.state.around).Ground l ∧
      ∀ w a, State.Recorded suite ⟨t, r.state.base, w, a⟩ l (some p) := by
  have free : r.state.tree.node? (passwordAt l) = none := vacant
  obtain ⟨salt, drew⟩ : ∃ salt, (r.state.around.draw 16).1 = .ok salt := ⟨_, rfl⟩
  obtain ⟨t, wrote, sets⟩ := @start_writeRecord l
    ⟨r.state.onto r.state.tree (r.state.around.draw 16).2, r.journal, r.operation⟩ ground.sound
    ground.quiet ground.base ground.room ground.root ground.word ground.unused free
    (asciiBytes (PasswordRecord.render p.isEmpty salt (suite.stretch salt content)))
  have file := Tree.not_isDirectory_of_none free
  have kept := sets.keeps_directory file
  have sound := sets.sound ground.sound file fun _ => by
    rw [passwordAt, List.dropLast_concat]
    exact ground.root
  refine ⟨t, _, _, start_initPassword_written (vacant.record?_none ground.passwordPath) encoded drew
    wrote, sets, ?_, fun w a => ⟨_, salt, content, encoded, sets.self⟩⟩
  refine ⟨sound, sets.troubles.trans ground.quiet, Tree.resolve_of_directories kept ground.base,
    ground.nameable, ground.room, kept _ ground.root, ground.word,
    (sets.other _ fun same => ?_).trans ground.unused⟩
  exact temporaryName_ne (place_injective same).symm

/-! ### Opening a store -/

theorem makeDirectories_cases {t : Tree} {q : Path} {d : Location} (sound : t.Sound)
    (path : t.resolve q = .ok d) (parent : t.IsDirectory d.dropLast) (depth : Nat) :
    (∃ t', t.makeDirectories q (depth + 1) = .ok t' ∧ t'.IsDirectory d ∧ t'.Sound ∧
      t'.troubles = t.troubles ∧ (∀ m, t.IsDirectory m → t'.IsDirectory m) ∧
      ∀ m, m ≠ d → t'.node? m = t.node? m) ∨
    ∃ e, t.makeDirectories q (depth + 1) = .error e := by
  cases there : t.node? d with
  | none =>
    have free := Tree.not_isDirectory_of_none there
    have made := Tree.sets_put (t := t) (Tree.ne_nil_of_not_isDirectory free) (.directory 0o755)
    exact .inl ⟨_, Tree.makeDirectories_free path there _, ⟨_, made.self⟩,
      made.sound sound free fun _ => parent, rfl, made.keeps_directory free, made.other⟩
  | some n =>
    cases n with
    | directory mode =>
      exact .inl ⟨t, Tree.makeDirectories_present path ⟨mode, there⟩ depth, ⟨mode, there⟩, sound,
        rfl, fun _ => id, fun _ _ => rfl⟩
    | file mode content =>
      have made : t.makeDirectory q = .error .fileExists := by
        simp only [Tree.makeDirectory, path, bind, Except.bind, there]
      have other : t.isDirectory q = .ok false := by
        rw [Tree.isDirectory, Tree.stat_eq path, there]
        rfl
      exact .inr ⟨Fault.system .fileExists q.spell,
        by simp only [Tree.makeDirectories, made, other]⟩

/-- What opening a store makes of the tree: the directories that it had are directories, and nothing
is different but the base and what is below its two directories. -/
structure Refitted (l : Location) (t t' : Tree) : Prop where
  sound : t'.Sound
  quiet : t'.troubles = t.troubles
  directories : ∀ m, t.IsDirectory m → t'.IsDirectory m
  other : ∀ m, m ≠ l → m ≠ keysAt l → m ≠ entriesAt l → t'.node? m = t.node? m

theorem Refitted.refl {t : Tree} (sound : t.Sound) : Refitted l t t :=
  ⟨sound, rfl, fun _ => id, fun _ _ _ _ => rfl⟩

theorem Refitted.trans {t u v : Tree} (h : Refitted l t u) (h' : Refitted l u v) :
    Refitted l t v where
  sound := h'.sound
  quiet := h'.quiet.trans h.quiet
  directories m directory := h'.directories m (h.directories m directory)
  other m notRoot notKeys notEntries :=
    (h'.other m notRoot notKeys notEntries).trans (h.other m notRoot notKeys notEntries)

theorem prepare_cases (ground : s.Ground l) :
    (∃ t, prepare s = (.ok t, t) ∧ Refitted l s.tree t ∧ t.IsDirectory (keysAt l) ∧
      t.IsDirectory (entriesAt l)) ∨
    ∃ e t, prepare s = (.error e, t) ∧ Refitted l s.tree t := by
  have parent {t : Tree} {n : Text} (root : t.IsDirectory l) :
      t.IsDirectory (l ++ [n]).dropLast := by
    rw [List.dropLast_concat]
    exact root
  have keysPath : s.tree.resolve s.keysPath = .ok (keysAt l) :=
    ground.join fileName_keys
  unfold prepare
  dsimp only
  obtain ⟨t, made, keys, sound, quiet, kept, other⟩ | ⟨e, failed⟩ :=
    makeDirectories_cases ground.sound keysPath (parent ground.root) s.base.parts.length
  · have root := kept _ ground.root
    have first : Refitted l s.tree t := ⟨sound, quiet, kept, fun m _ notKeys _ => other m notKeys⟩
    have entriesPath : t.resolve s.entriesPath = .ok (entriesAt l) :=
      Tree.resolve_of_directories kept (ground.join fileName_certificates)
    rw [made]
    obtain ⟨t', made', entries, sound', quiet', kept', other'⟩ | ⟨e, failed⟩ :=
      makeDirectories_cases sound entriesPath (parent root) s.base.parts.length
    · have second : Refitted l t t' := ⟨sound', quiet', kept', fun m _ _ notEntries =>
        other' m notEntries⟩
      exact .inl ⟨t', by simp only [made'], first.trans second, kept' _ keys, entries⟩
    · exact .inr ⟨e, t, by simp only [failed], first⟩
  · exact .inr ⟨e, s.tree, by simp only [failed], .refl ground.sound⟩

theorem Refitted.ground {t : Tree} (h : Refitted l s.tree t) (ground : s.Ground l)
    (w : Option Text) : State.Ground ⟨t, s.base, w, s.around⟩ l ∧
      t.node? (passwordAt l) = s.tree.node? (passwordAt l) := by
  have front {m : Location}
      (at_m : m = passwordAt l ∨ ∃ token, m = l ++ [temporaryName "password.json" token]) :
      t.node? m = s.tree.node? m := by
    obtain ⟨notRoot, notKeys, notEntries⟩ := front_ne at_m
    exact h.other m notRoot notKeys notEntries
  exact ⟨⟨h.sound, h.quiet.trans ground.quiet,
    Tree.resolve_of_directories h.directories ground.base, ground.nameable, ground.room,
    h.directories _ ground.root, ground.word,
    (front (.inr ⟨_, rfl⟩)).trans ground.unused⟩, front (.inl rfl)⟩

/-- Opening a store forgets any password and leaves the record of it. -/
theorem start_openStore_ground (ground : r.state.Ground l) :
    ∃ t journal, start openStore r
        = (.ok (), ⟨⟨t, r.state.base, none, r.state.around⟩, journal, r.operation⟩) ∧
      Refitted l r.state.tree t := by
  obtain ⟨t, prepared, refitted, keys, entries⟩ | ⟨e, t, prepared, refitted⟩ := prepare_cases ground
  · have root := refitted.directories _ ground.root
    obtain ⟨journal, opened⟩ := start_openStore_prepared ground.nameable ground.room prepared
      refitted.sound (Tree.resolve_of_directories refitted.directories ground.base) root keys
      entries
    obtain ⟨sound, same, other, _⟩ := closing_spec refitted.sound root keys entries
    exact ⟨_, journal, opened,
      refitted.trans ⟨sound, rfl, fun m => (same m).mpr, other⟩⟩
  · refine ⟨t, r.journal ++ [⟨.error, "Could not create key store at " ++ r.state.base.spell ++ ": "
      ++ e.message, r.operation⟩] ++ [⟨.info, "Initialized LocalKeyStore at " ++
        r.state.base.spell, r.operation⟩], ?_, refitted⟩
    unfold openStore
    rw [Action.start_bind_ok (Action.start_read r)]
    simp only [ground.nameable, prepared, Bool.false_eq_true, if_false]
    rw [Action.start_bind_ok (Action.start_change _ _)]
    rfl

/-! ### Calls that use keys -/

theorem not_isShut_refusal {temporary : Path} {context : Text} {e e' : Fault}
    (failed : (start (discard temporary >>= fun _ =>
      (throw (StoreFault.explain context e) : Action State Unit)) r).1 = .error e') :
    ¬ e'.IsShut := by
  unfold discard at failed
  rw [bind_assoc, Action.start_bind_ok (start_onTree _ _)] at failed
  split at failed
  · cases failed
    exact not_isShut_explain _ _
  · cases failed
    exact not_isShut_explain _ _
  · cases failed
    exact not_isShut_of_foreign rfl

theorem not_isShut_writeWhole {p : Path} {content : Bytes} {mode : Nat} {e : Fault}
    (failed : (start (writeWhole p content mode) r).1 = .error e) : ¬ e.IsShut := by
  unfold writeWhole at failed
  rw [Action.start_bind_ok (Action.start_read r)] at failed
  dsimp only at failed
  rw [Action.start_bind_ok (start_onTree _ _)] at failed
  split at failed
  · exact not_isShut_refusal failed
  rw [Action.start_bind_ok (start_onTree _ _)] at failed
  split at failed
  · exact not_isShut_refusal failed
  rw [Action.start_bind_ok (start_onTree _ _)] at failed
  split at failed
  · exact not_isShut_refusal failed
  · cases failed

theorem not_isShut_generateKey {c : Crypto.Curve} {e : Fault}
    (unlocked : r.state.requireUnlocked = .ok ())
    (draws : ∀ f, (r.state.around.drawKey c).1 = .error f → f.failure.isKeyStore = false)
    (failed : (start (generateKey suite c) r).1 = .error e) : ¬ e.IsShut := by
  unfold generateKey at failed
  rw [Action.start_bind_ok (start_ask_ok unlocked)] at failed
  cases drew : r.state.around.drawKey c with
  | mk outcome a =>
  cases outcome with
  | error f =>
    rw [Action.start_bind_error (start_generation drew)] at failed
    cases failed
    exact not_isShut_ofGeneration (draws f (congrArg Prod.fst drew))
  | ok k =>
  rw [Action.start_bind_ok (start_generation drew)] at failed
  rcases sealing_cases suite r.state k with ⟨_, text, sealed_⟩ | ⟨_, f, refused, foreign⟩
  · have content : (do KeyFile.write suite k (← (r.state.onto r.state.tree a).sealingPassword))
        = .ok text := sealed_
    rw [Action.start_bind_ok (start_ask_ok content),
      Action.start_bind_ok (Action.start_read _), Action.start_bind] at failed
    split at failed
    · cases failed
    next f r' wrote =>
      cases failed
      exact not_isShut_writeWhole (congrArg Prod.fst wrote)
  · have content : (do KeyFile.write suite k (← (r.state.onto r.state.tree a).sealingPassword))
        = .error f := refused
    rw [Action.start_bind_error (start_ask_error content)] at failed
    cases failed
    exact not_isShut_of_foreign foreign

theorem not_isShut_otherKey (id : Text) :
    ¬ (Fault.keyStore ("Key " ++ id ++ " is not an elliptic curve key")).IsShut := by
  have last (text ending : Text) (filled : ending ≠ []) :
      (text ++ ending).getLast? = ending.getLast? := by
    rw [List.getLast?_append, List.getLast?_eq_some_getLast filled]
    rfl
  rintro (same | same)
  · have ends := congrArg (fun e => e.message.getLast?) same
    cases (last _ _ (by decide)).symm.trans ends
  · have ends := congrArg (fun e => e.message.getLast?) same
    cases (last _ _ (by decide)).symm.trans ends

theorem not_isShut_loadKey {id : Text} {e : Fault} (failed : s.loadKey suite id = .error e) :
    ¬ e.IsShut := by
  unfold State.loadKey at failed
  dsimp only at failed
  cases there : s.tree.exists? (s.keyPath id) with
  | error f =>
    rw [there] at failed
    cases failed
    obtain ⟨code, rfl⟩ := Tree.exists?_error there
    exact not_isShut_of_foreign rfl
  | ok present =>
  rw [there] at failed
  cases present with
  | false =>
    cases failed
    exact not_isShut_unknownKey id
  | true =>
  simp only [bind, Except.bind, Bool.not_true, Bool.false_eq_true, if_false] at failed
  split at failed
  · cases failed
  · cases failed
    exact not_isShut_otherKey id
  next f unread =>
    -- What cannot be read is explained, unless it is foreign.
    have foreign : f.failure.isKeyStore = false := by
      cases found : s.tree.contentAt (s.keyPath id) with
      | error f' =>
        rw [found] at unread
        cases unread
        obtain ⟨code, rfl⟩ := Tree.contentAt_error found
        rfl
      | ok content =>
      cases sealing : s.sealingPassword with
      | error f' =>
        rw [found, sealing] at unread
        cases unread
        obtain ⟨f, rfl⟩ := sealingPassword_error sealing
        rfl
      | ok password =>
        rw [found, sealing] at unread
        exact (KeyFile.refused_read unread).not_isKeyStore
    cases failed
    split
    · exact not_isShut_explain _ _
    · exact not_isShut_of_foreign foreign

theorem not_isShut_sign {id : Text} {t : Template} {choice : Template.DigestChoice} {e : Fault}
    (unlocked : r.state.requireUnlocked = .ok ())
    (failed : (start (sign suite id t choice) r).1 = .error e) : ¬ e.IsShut := by
  unfold sign at failed
  rw [Action.start_bind_ok (start_ask_ok unlocked)] at failed
  cases loaded : r.state.loadKey suite id with
  | error f =>
    rw [Action.start_bind_error (start_ask_error loaded)] at failed
    cases failed
    exact not_isShut_loadKey loaded
  | ok k =>
    rw [Action.start_bind_ok (start_ask_ok loaded), Action.start_refine,
      Action.start_ofExcept] at failed
    cases signed : t.sign suite k choice with
    | ok c =>
      rw [signed] at failed
      cases failed
    | error f =>
      rw [signed] at failed
      cases failed
      exact not_isShut_ofSigning (Template.refused_sign signed).not_isKeyStore

end CertKeeper.Directory
