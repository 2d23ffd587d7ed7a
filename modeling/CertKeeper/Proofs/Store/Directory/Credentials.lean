import CertKeeper.Proofs.Store.Directory.Opening

/-!
# Passwords of a store in a directory

What the record of a password says, and what setting a password and logging in make of it.
-/

namespace CertKeeper.Directory

open CertKeeper.Action (Leads start)
open CertKeeper.Tree (IsDirectory Sets)

variable {fresh : Text → Prop} {suite : Suite} {l : Location} {s : State}

/-! ### The record -/

/-- What is recorded of a password: nothing, or what verifies it. -/
def State.Recorded (suite : Suite) (s : State) (l : Location) : Option Text → Prop
  | none => s.tree.node? (passwordAt l) = none
  | some p => ∃ mode salt content, Utf8.encode p = .ok content ∧
      s.tree.node? (passwordAt l) = some (.file mode (asciiBytes
        (PasswordRecord.render p.isEmpty salt (suite.stretch salt content))))

theorem State.Recorded.record?_none (path : s.tree.resolve s.passwordPath = .ok (passwordAt l))
    (recorded : s.Recorded suite l none) : s.passwordRecord? = .ok none := by
  have there : s.tree.exists? s.passwordPath = .ok false := by
    rw [Tree.exists?_eq path]
    exact congrArg (fun n : Option Node => Except.ok n.isSome) recorded
  simp only [State.passwordRecord?, there, bind, Except.bind]
  rfl

theorem State.Recorded.record?_some (path : s.tree.resolve s.passwordPath = .ok (passwordAt l))
    {p : Text} (recorded : s.Recorded suite l (some p)) : ∃ salt content,
      Utf8.encode p = .ok content ∧ s.passwordRecord? = .ok (some ⟨.bool p.isEmpty,
        .text (Bytes.hex salt), .text (Bytes.hex (suite.stretch salt content))⟩) := by
  obtain ⟨mode, salt, content, encoded, there⟩ := recorded
  have present : s.tree.exists? s.passwordPath = .ok true := by
    rw [Tree.exists?_eq path, there]
    rfl
  refine ⟨salt, content, encoded, ?_⟩
  simp only [State.passwordRecord?, present, Tree.contentAt_file path there, bind,
    Except.bind, if_true, PasswordRecord.read_render]
  rfl

theorem State.Layout.passwordRecord?_none (h : s.Layout fresh l)
    (recorded : s.Recorded suite l none) : s.passwordRecord? = .ok none :=
  recorded.record?_none h.passwordPath

theorem State.Layout.passwordRecord?_some (h : s.Layout fresh l) {p : Text}
    (recorded : s.Recorded suite l (some p)) : ∃ salt content, Utf8.encode p = .ok content ∧
      s.passwordRecord? = .ok (some ⟨.bool p.isEmpty, .text (Bytes.hex salt),
        .text (Bytes.hex (suite.stretch salt content))⟩) :=
  recorded.record?_some h.passwordPath

theorem State.Recorded.uninitialised (path : s.tree.resolve s.passwordPath = .ok (passwordAt l))
    (recorded : s.Recorded suite l none) :
    s.requireUnlocked = .error (Fault.keyStore "Key store has not been initialized") := by
  rw [State.requireUnlocked, recorded.record?_none path]
  rfl

theorem State.Layout.requireUnlocked_none (h : s.Layout fresh l)
    (recorded : s.Recorded suite l none) :
    s.requireUnlocked = .error (Fault.keyStore "Key store has not been initialized") :=
  recorded.uninitialised h.passwordPath

theorem State.Recorded.requireUnlocked (path : s.tree.resolve s.passwordPath = .ok (passwordAt l))
    {p : Text} (recorded : s.Recorded suite l (some p)) :
    s.requireUnlocked = if !p.isEmpty && s.password.isNone then
      .error (Fault.keyStore "Key store is locked") else .ok () := by
  obtain ⟨salt, content, _, record⟩ := recorded.record?_some path
  rw [State.requireUnlocked, record]
  cases p with
  | nil => rfl
  | cons c p =>
    cases s.password with
    | none => rfl
    | some w => rfl

theorem State.Layout.requireUnlocked_some (h : s.Layout fresh l) {p : Text}
    (recorded : s.Recorded suite l (some p)) :
    s.requireUnlocked = if !p.isEmpty && s.password.isNone then
      .error (Fault.keyStore "Key store is locked") else .ok () :=
  recorded.requireUnlocked h.passwordPath

/-! ### Setting a password -/

theorem State.Layout.remember (h : s.Layout fresh l) {w : Option Text}
    (sealing : ∃ p, (State.mk s.tree s.base w s.around).sealingPassword = .ok p ∧
      ∀ content, p = some content → content.length ≤ KeyFile.passwordLimit) :
    (State.mk s.tree s.base w s.around).Layout fresh l :=
  ⟨h.sound, h.quiet, h.base, h.nameable, h.room, h.root, h.keys, h.certificates, h.keyFiles,
    fun f hf => (h.entryFiles f hf).imp fun _ he => ⟨he.name, he.entry, he.file, he.keyId⟩,
    sealing, h.unused⟩

def remembered (p : Text) : Option Text := if p.isEmpty then none else some p

structure Sealable (p : Text) (content : Bytes) : Prop where
  encoded : Utf8.encode p = .ok content
  short : content.length ≤ KeyFile.passwordLimit

theorem Sealable.sealing {p : Text} {content : Bytes} (h : Sealable p content) (t : Tree)
    (base : Path) (a : Surroundings) :
    ∃ w, (State.mk t base (remembered p) a).sealingPassword = .ok w ∧
      ∀ content, w = some content → content.length ≤ KeyFile.passwordLimit := by
  cases p with
  | nil => exact ⟨none, rfl, fun _ impossible => nomatch impossible⟩
  | cons c p =>
    refine ⟨some content, ?_, fun content' same => Option.some.inj same ▸ h.short⟩
    simp only [remembered, List.isEmpty_cons, Bool.false_eq_true, if_false, State.sealingPassword,
      h.encoded]

theorem start_passwordSet {r : Run State} {record : PasswordRecord}
    (h : r.state.passwordRecord? = .ok (some record)) (p : Text) :
    start (initPassword suite p) r
      = (.error (Fault.keyStore "Key store password is already set"), r) := by
  unfold initPassword
  rw [Action.start_bind_ok (start_ask_ok h)]
  rfl

theorem start_writeRecord {r : Run State} (sound : r.state.tree.Sound)
    (quiet : r.state.tree.troubles = []) (base : r.state.tree.resolve r.state.base = .ok l)
    (room : Tree.HasRoom r.state.base 512) (root : r.state.tree.IsDirectory l)
    (word : isToken r.state.around.token = true)
    (unused : r.state.tree.node? (l ++ [temporaryName "password.json" r.state.around.token]) = none)
    (free : r.state.tree.node? (passwordAt l) = none) (content : Bytes) :
    ∃ t, start (writeWhole r.state.passwordPath content 0o600) r
        = (.ok (), ⟨r.state.onto t r.state.around, r.journal, r.operation⟩) ∧
      Sets r.state.tree (passwordAt l) (some (.file 0o600 content)) t := by
  have points : (Text.ofString "password.json").all isNamePoint = true := rfl
  have short : (Text.ofString "password.json").length ≤ 200 := Nat.le_of_ble_eq_true rfl
  exact start_writeWhole sound quiet base (Tree.hasRoom_base room) root fileName_password
    (fileName_temporary points short word) unused (Tree.not_isDirectory_of_none free) content 0o600

theorem start_writePassword {r : Run State} (h : r.state.Layout fresh l)
    (recorded : r.state.Recorded suite l none) (word : isToken r.state.around.token = true)
    (isFresh : fresh r.state.around.token) (content : Bytes) :
    ∃ t, start (writeWhole r.state.passwordPath content 0o600) r
        = (.ok (), ⟨r.state.onto t r.state.around, r.journal, r.operation⟩) ∧
      Sets r.state.tree (passwordAt l) (some (.file 0o600 content)) t ∧
      (r.state.onto t r.state.around).Layout fresh l ∧
      (r.state.onto t r.state.around).entries = r.state.entries := by
  have free : r.state.tree.node? (passwordAt l) = none := recorded
  have file := Tree.not_isDirectory_of_none free
  have unused := h.unused _ isFresh l (Or.inl rfl)
    (temporaryName "password.json" r.state.around.token)
    (endsWith_temporaryName _ _)
  obtain ⟨t, wrote, sets⟩ :=
    start_writeRecord h.sound h.quiet h.base h.room h.root word unused free content
  have named : ∀ token d name, passwordAt l = d ++ [name] →
      Text.endsWith (temporaryEnding token) name = false := by
    intro token d name place
    have last := congrArg List.getLast? place
    rw [passwordAt, List.getLast?_concat, List.getLast?_concat] at last
    rw [← Option.some.inj last]
    exact @endsWith_temporaryEnding token [] "password.json" (CodePoint.ofChar 'n') (by decide) rfl
  have parent : r.state.tree.IsDirectory (passwordAt l).dropLast := by
    rw [passwordAt, List.dropLast_concat]
    exact h.root
  have kept : ∀ mode, some (Node.file 0o600 content) ≠ some (.directory mode) := by
    intro mode same
    cases same
  obtain ⟨h', entries⟩ := h.sets_apart sets file (fun _ => parent) kept
    (fun f same => passwordAt_ne_entryAt l f same.symm) named r.state.around
  exact ⟨t, wrote, sets, h', entries⟩

theorem start_initPassword_begins {r : Run State} (vacant : r.state.passwordRecord? = .ok none)
    {p : Text} {content salt : Bytes} (encoded : Utf8.encode p = .ok content)
    (drew : (r.state.around.draw 16).1 = .ok salt) :
    start (initPassword suite p) r = start (do
        writeWhole r.state.passwordPath (asciiBytes
          (PasswordRecord.render p.isEmpty salt (suite.stretch salt content))) 0o600
        if !p.isEmpty then Action.change fun s => { s with password := some p }
        Action.log .info "Initialized key store password")
      ⟨r.state.onto r.state.tree (r.state.around.draw 16).2, r.journal, r.operation⟩ := by
  unfold initPassword
  rw [Action.start_bind_ok (start_ask_ok vacant)]
  simp only [Option.isSome_none, Bool.false_eq_true, if_false]
  rw [Action.start_bind_ok (by rw [start_drawn, drew])]
  simp only [encoded]
  rw [Action.start_bind_ok (Action.start_read _)]
  rfl

theorem start_initPassword_written {r r' : Run State} (vacant : r.state.passwordRecord? = .ok none)
    {p : Text} {content salt : Bytes} (encoded : Utf8.encode p = .ok content)
    (drew : (r.state.around.draw 16).1 = .ok salt)
    (wrote : start (writeWhole r.state.passwordPath (asciiBytes
        (PasswordRecord.render p.isEmpty salt (suite.stretch salt content))) 0o600)
      ⟨r.state.onto r.state.tree (r.state.around.draw 16).2, r.journal, r.operation⟩
        = (.ok (), r')) :
    start (initPassword suite p) r = (.ok (),
      ⟨{ r'.state with password := if p.isEmpty then r'.state.password else some p },
        r'.journal ++ [⟨.info, "Initialized key store password", r'.operation⟩],
        r'.operation⟩) := by
  refine (start_initPassword_begins vacant encoded drew).trans
    ((Action.start_bind_ok wrote _).trans ?_)
  cases p with
  | nil => rfl
  | cons c p => rfl

theorem start_initPassword_unencodable {r : Run State}
    (vacant : r.state.passwordRecord? = .ok none) {p : Text} {f : EncodeFault}
    (refused : Utf8.encode p = .error f) : start (initPassword suite p) r
      = (.error (Fault.of (.encoding f)),
        ⟨r.state.onto r.state.tree (r.state.around.draw 16).2, r.journal, r.operation⟩) := by
  obtain ⟨salt, drew⟩ : ∃ salt, (r.state.around.draw 16).1 = .ok salt := ⟨_, rfl⟩
  unfold initPassword
  rw [Action.start_bind_ok (start_ask_ok vacant)]
  simp only [Option.isSome_none, Bool.false_eq_true, if_false]
  rw [Action.start_bind_ok (by rw [start_drawn, drew])]
  simp only [refused]
  rfl

theorem start_recordPassword {r : Run State} (h : r.state.Layout fresh l)
    (recorded : r.state.Recorded suite l none) (word : isToken r.state.around.token = true)
    (isFresh : fresh r.state.around.token) {p : Text} {content : Bytes}
    (sealable : Sealable p content) (forgotten : r.state.password = none) :
    ∃ t salt journal, start (initPassword suite p) r = (.ok (), ⟨⟨t, r.state.base, remembered p,
        (r.state.around.draw 16).2⟩, journal, r.operation⟩) ∧
      Sets r.state.tree (passwordAt l) (some (.file 0o600 (asciiBytes
        (PasswordRecord.render p.isEmpty salt (suite.stretch salt content))))) t ∧
      (r.state.onto t (r.state.around.draw 16).2).Layout fresh l ∧
      (r.state.onto t (r.state.around.draw 16).2).entries = r.state.entries := by
  obtain ⟨salt, drew⟩ : ∃ salt, (r.state.around.draw 16).1 = .ok salt := ⟨_, rfl⟩
  obtain ⟨t, wrote, sets, h', entries⟩ := @start_writePassword fresh suite l
    ⟨r.state.onto r.state.tree (r.state.around.draw 16).2, r.journal, r.operation⟩
    (h.amid _) recorded word isFresh
    (asciiBytes (PasswordRecord.render p.isEmpty salt (suite.stretch salt content)))
  have initialised := start_initPassword_written (h.passwordRecord?_none recorded)
    sealable.encoded drew wrote
  have mind : (if p.isEmpty then r.state.password else some p) = remembered p := by
    rw [forgotten]
    rfl
  exact ⟨t, salt, _, mind ▸ initialised, sets, h', entries⟩

theorem start_initPassword {r : Run State} (h : r.state.Layout fresh l)
    (recorded : r.state.Recorded suite l none) (word : isToken r.state.around.token = true)
    (isFresh : fresh r.state.around.token) {p : Text} {content : Bytes}
    (sealable : Sealable p content) (forgotten : r.state.password = none) :
    ∃ s journal, start (initPassword suite p) r = (.ok (), ⟨s, journal, r.operation⟩) ∧
      s.Layout fresh l ∧ s.Recorded suite l (some p) ∧ s.password = remembered p ∧
      s.entries = r.state.entries ∧
      (∀ id, Book.isKeyId id = true →
        s.tree.node? (keyAt l id) = r.state.tree.node? (keyAt l id)) ∧
      s.around.token = r.state.around.token := by
  obtain ⟨t, salt, journal, initialised, sets, h', entries⟩ :=
    start_recordPassword h recorded word isFresh sealable forgotten
  exact ⟨_, journal, initialised, h'.remember (sealable.sealing _ _ _),
    ⟨0o600, salt, content, sealable.encoded, sets.self⟩, rfl, entries,
    fun id _ => sets.other _ (passwordAt_ne_keyAt l id).symm, rfl⟩

/-! ### Logging in -/

/-- A store knows its password: it is on record, and in mind unless it is empty. -/
structure State.Guarded (suite : Suite) (s : State) (l : Location) (p : Option Text) : Prop where
  layout : s.Layout (fun _ => True) l
  recorded : s.Recorded suite l p
  password : s.password = p.bind remembered

theorem State.Guarded.amid {p : Option Text} (h : s.Guarded suite l p) (a : Surroundings) :
    (s.onto s.tree a).Guarded suite l p := by
  refine ⟨h.layout.amid a, ?_, h.password⟩
  cases p with
  | none => exact h.recorded
  | some p => exact h.recorded

theorem State.Guarded.unlocked {p : Text} (h : s.Guarded suite l (some p)) :
    s.requireUnlocked = .ok () := by
  have mind : s.password = remembered p := h.password
  rw [h.layout.requireUnlocked_some h.recorded, mind]
  cases p with
  | nil => rfl
  | cons c p => rfl

/-- A record verifies exactly the password that it was made for. -/
theorem verifies_eq {p q : Text} {salt content content' : Bytes}
    (encoded : Utf8.encode q = .ok content')
    (apart : suite.stretch salt content' = suite.stretch salt content ↔ q = p) :
    PasswordRecord.verifies suite ⟨.bool p.isEmpty, .text (Bytes.hex salt),
      .text (Bytes.hex (suite.stretch salt content))⟩ q = .ok (decide (q = p)) := by
  simp only [PasswordRecord.verifies, PasswordRecord.bytesOf_hex, encoded, bind, Except.bind, pure,
    Except.pure]
  by_cases same : q = p
  · rw [decide_eq_true same, apart.mpr same]
    exact congrArg Except.ok (beq_self_eq_true _)
  · rw [decide_eq_false same]
    refine congrArg Except.ok (beq_eq_false_iff_ne.mpr fun equal => same (apart.mp equal))

section

variable {r : Run State} {q : Text}

theorem start_login_none (record : r.state.passwordRecord? = .ok none) :
    start (login suite q) r = (.ok (.bool false), r) := by
  unfold login
  rw [Action.start_bind_ok (start_ask_ok record)]
  rfl

theorem start_login_error {known : PasswordRecord} {e : Fault}
    (record : r.state.passwordRecord? = .ok (some known))
    (verified : known.verifies suite q = .error e) :
    start (login suite q) r = (.error (loginFault e), r) := by
  unfold login
  rw [Action.start_bind_ok (start_ask_ok record)]
  simp only [verified]
  rfl

theorem start_login_ok {known : PasswordRecord} {right : Bool}
    (record : r.state.passwordRecord? = .ok (some known))
    (verified : known.verifies suite q = .ok right) :
    ∃ journal, start (login suite q) r = (.ok (.bool right),
      ⟨if right then { r.state with password := remembered q } else r.state, journal,
        r.operation⟩) := by
  unfold login
  rw [Action.start_bind_ok (start_ask_ok record)]
  simp only [verified]
  cases right with
  | true => exact ⟨r.journal ++ [⟨.info, "Logged in to key store", r.operation⟩], rfl⟩
  | false =>
    exact ⟨r.journal ++ [⟨.warning, "Key store login failed: wrong password", r.operation⟩], rfl⟩

end

/-- Whoever enters the password of the record has it in mind from then on; whoever enters another
word is not let in and changes nothing, and one without an encoding ends in a fault that prints. -/
theorem State.Recorded.start_login {r : Run State} {q : Text}
    (path : r.state.tree.resolve r.state.passwordPath = .ok (passwordAt l)) {known : Option Text}
    (recorded : r.state.Recorded suite l known)
    (apart : ∀ p, known = some p → suite.TellsApart [p, q]) :
    let ended := start (login suite q) r
    (known = some q ∧ ended.1 = .ok (.bool true) ∧
        ended.2.state = { r.state with password := remembered q }) ∨
      (known ≠ some q ∧
        (ended.1 = .ok (.bool false) ∨ ∃ e, ended.1 = .error e ∧ e.HasValue) ∧
        ended.2.state = r.state) := by
  intro ended
  cases known with
  | none =>
    have left : ended = _ := start_login_none (recorded.record?_none path)
    rw [left]
    exact .inr ⟨nofun, .inl rfl, rfl⟩
  | some p =>
  obtain ⟨salt, content, encoded, record⟩ := recorded.record?_some path
  cases given : Utf8.encode q with
  | error f =>
    have verified : PasswordRecord.verifies suite ⟨.bool p.isEmpty, .text (Bytes.hex salt),
        .text (Bytes.hex (suite.stretch salt content))⟩ q = .error (Fault.of (.encoding f)) := by
      simp only [PasswordRecord.verifies, PasswordRecord.bytesOf_hex, given, bind, Except.bind]
      rfl
    have left : ended = _ := start_login_error record verified
    rw [left]
    refine .inr ⟨fun same => ?_, .inr ⟨_, rfl, rfl⟩, rfl⟩
    rw [Option.some.inj same, given] at encoded
    cases encoded
  | ok content' =>
    have same : suite.stretch salt content' = suite.stretch salt content ↔ q = p := by
      refine ⟨fun equal => ?_, fun equal => ?_⟩
      · exact apart p rfl q (by simp) p (by simp) salt _ _ given encoded equal
      · rw [equal, encoded] at given
        rw [Except.ok.inj given]
    obtain ⟨journal, left⟩ := start_login_ok record (verifies_eq given same)
    have left : ended = _ := left
    rw [left]
    by_cases right : q = p
    · rw [decide_eq_true right]
      exact .inl ⟨congrArg some right.symm, rfl, rfl⟩
    · rw [decide_eq_false right]
      exact .inr ⟨fun equal => right (Option.some.inj equal).symm, .inl rfl, rfl⟩

theorem start_login {r : Run State} {p : Option Text} (h : r.state.Guarded suite l p) {q : Text}
    {content' : Bytes} (encoded : Utf8.encode q = .ok content')
    (apart : ∀ p', p = some p' → ∀ salt content, Utf8.encode p' = .ok content →
      (suite.stretch salt content' = suite.stretch salt content ↔ q = p')) :
    ∃ journal, start (login suite q) r
      = (.ok (.bool (decide (p = some q))), ⟨r.state, journal, r.operation⟩) := by
  cases p with
  | none => exact ⟨r.journal, start_login_none (h.layout.passwordRecord?_none h.recorded)⟩
  | some p =>
    obtain ⟨salt, content, known, record⟩ := h.layout.passwordRecord?_some h.recorded
    obtain ⟨journal, ended⟩ :=
      start_login_ok record (verifies_eq encoded (apart p rfl salt content known))
    refine ⟨journal, ended.trans ?_⟩
    by_cases same : q = p
    · have password : r.state.password = remembered q := by
        rw [same]
        exact h.password
      rw [decide_eq_true same, decide_eq_true (congrArg some same.symm), if_pos rfl, ← password]
    · have other : some p ≠ some q := fun equal => same (Option.some.inj equal).symm
      rw [decide_eq_false same, decide_eq_false other, if_neg Bool.false_ne_true]

end CertKeeper.Directory
