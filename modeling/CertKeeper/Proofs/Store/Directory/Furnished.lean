import CertKeeper.Proofs.Store.Directory.Credentials
import Mathlib.Logic.Relation

/-!
# A directory in use

What stands in the directory of a store once a password has been set, whatever is asked of it: the
two directories are closed to others, the record of the password is the one that was written, or is
gone, and every file under `keys` is a key sealed under that password.  A call takes files away,
or puts one entry or one key, and nothing else.  Main statements:
`Site.Change.furnished` and `Site.Houses.loadKey_of_unlocked`.
-/

namespace CertKeeper.Directory

open CertKeeper.Action (Leads start)
open CertKeeper.Tree (IsDirectory Sets)

/-- Where a store is kept that has a password, which has an encoding and fits for sealing keys. -/
structure Site where
  suite : Suite
  onCurve : suite.OnCurve
  deciphers : suite.Deciphers
  password : Text
  content : Bytes
  sealable : Sealable password content
  base : Path
  nameable : base.isUnnameable = false
  room : Tree.HasRoom base 512
  location : Location

namespace Site

/-! ### What stands in the directory -/

/-- What keys are sealed under; nothing where the password is empty. -/
def sealing (site : Site) : Option Bytes :=
  if site.password.isEmpty then none else some site.content

def keyBlock (site : Site) (k : PrivateKey) : Pem.Block :=
  let plain := KeyFile.plainBytes site.suite k
  match site.sealing with
  | none => ⟨"PRIVATE KEY", plain⟩
  | some content => ⟨"ENCRYPTED PRIVATE KEY", KeyFile.sealedBytes site.suite plain content⟩

theorem keyBlock_eq (site : Site) (k : PrivateKey) : site.keyBlock k =
    if site.password = [] then ⟨"PRIVATE KEY", KeyFile.plainBytes site.suite k⟩
    else ⟨"ENCRYPTED PRIVATE KEY",
      KeyFile.sealedBytes site.suite (KeyFile.plainBytes site.suite k) site.content⟩ := by
  unfold keyBlock sealing
  cases site.password with
  | nil => rfl
  | cons c p => rfl

def keyNode (site : Site) (k : PrivateKey) : Node :=
  .file 0o600 (asciiBytes (site.keyBlock k).spell)

def record (site : Site) (salt : Bytes) : Bytes :=
  asciiBytes (PasswordRecord.render site.password.isEmpty salt
    (site.suite.stretch salt site.content))

def IsOwn (site : Site) (d : Location) : Prop :=
  d = site.location ∨ d = keysAt site.location ∨ d = entriesAt site.location

structure Furnished (site : Site) (t : Tree) : Prop where
  sound : t.Sound
  quiet : t.troubles = []
  base : t.resolve site.base = .ok site.location
  closed : ∀ d, site.IsOwn d → t.listed? d = some (.directory 0o700)
  record : t.node? (passwordAt site.location) = none ∨ ∃ mode salt,
    t.node? (passwordAt site.location) = some (.file mode (site.record salt))
  keyFiles : ∀ name n, t.node? (keysAt site.location ++ [name]) = some n →
    ∃ k : PrivateKey, k.Valid ∧ name = keyFile (site.suite.handleOf k).keyId ∧ n = site.keyNode k
  entryFiles : ∀ name n, t.node? (entriesAt site.location ++ [name]) = some n →
    ∃ handle mode bytes, name = entryFile handle ∧ n = .file mode bytes

/-- What a call may do to the tree: a file is taken away that one of the paths leads to, or an entry
or a key is put in its place. -/
inductive Change (site : Site) (aims : List Path) : Tree → Tree → Prop
  | gone {t t' : Tree} (q : Path) (aimed : q ∈ aims) (file : ¬ t.IsDirectory (Tree.goal q))
      (sets : Sets t (Tree.goal q) none t') : Change site aims t t'
  | entry {t t' : Tree} (handle : Text) (mode : Nat) (bytes : Bytes)
      (sets : Sets t (entryAt site.location (entryFile handle)) (some (.file mode bytes)) t') :
      Change site aims t t'
  | key {t t' : Tree} (k : PrivateKey) (valid : k.Valid)
      (sets : Sets t (keyAt site.location (site.suite.handleOf k).keyId) (some (site.keyNode k))
        t') : Change site aims t t'

variable {site : Site} {t t' : Tree} {aims : List Path}

namespace Furnished

theorem directory (h : site.Furnished t) {d : Location} (own : site.IsOwn d) : t.IsDirectory d :=
  Tree.isDirectory_of_listed (h.closed d own)

theorem keysPath (h : site.Furnished t) :
    t.resolve (site.base.join "keys") = .ok (keysAt site.location) :=
  Tree.resolve_join fileName_keys (Tree.hasRoom_base site.room) h.base (h.directory (.inl rfl))

theorem entriesPath (h : site.Furnished t) :
    t.resolve (site.base.join "certificates") = .ok (entriesAt site.location) :=
  Tree.resolve_join fileName_certificates (Tree.hasRoom_base site.room) h.base
    (h.directory (.inl rfl))

theorem passwordPath (h : site.Furnished t) :
    t.resolve (site.base.join "password.json") = .ok (passwordAt site.location) :=
  Tree.resolve_join fileName_password (Tree.hasRoom_base site.room) h.base
    (h.directory (.inl rfl))

theorem keyPath (h : site.Furnished t) {id : Text} (key : Book.isKeyId id = true) :
    t.resolve ((site.base.join "keys").join (keyFile id)) = .ok (keyAt site.location id) :=
  Tree.resolve_join (fileName_keyFile key) (site.room.join fileName_keys) h.keysPath
    (h.directory (.inr (.inl rfl)))

theorem not_directory_entry (h : site.Furnished t) (file : Text) :
    ¬ t.IsDirectory (entryAt site.location file) := by
  intro directory
  obtain ⟨mode, there⟩ := directory
  obtain ⟨_, _, _, _, other⟩ := h.entryFiles file _ there
  cases other

theorem not_directory_key (h : site.Furnished t) (id : Text) :
    ¬ t.IsDirectory (keyAt site.location id) := by
  intro directory
  obtain ⟨mode, there⟩ := directory
  obtain ⟨_, _, _, other⟩ := h.keyFiles _ _ there
  cases other

theorem unused_entry (h : site.Furnished t) (name token : Text) :
    t.node? (entriesAt site.location ++ [temporaryName name token]) = none := by
  cases there : t.node? (entriesAt site.location ++ [temporaryName name token]) with
  | none => rfl
  | some n =>
    obtain ⟨handle, _, _, same, _⟩ := h.entryFiles _ _ there
    have other := @endsWith_temporaryEnding token handle ".json" (CodePoint.ofChar 'n') (by decide)
      rfl
    have ends := endsWith_temporaryName name token
    rw [same, entryFile, other] at ends
    cases ends

theorem unused_key (h : site.Furnished t) (name token : Text) :
    t.node? (keysAt site.location ++ [temporaryName name token]) = none := by
  cases there : t.node? (keysAt site.location ++ [temporaryName name token]) with
  | none => rfl
  | some n =>
    obtain ⟨k, _, same, _⟩ := h.keyFiles _ _ there
    have other := @endsWith_temporaryEnding token (site.suite.handleOf k).keyId ".pem"
      (CodePoint.ofChar 'm') (by decide) rfl
    have ends := endsWith_temporaryName name token
    rw [same, keyFile, other] at ends
    cases ends

/-! ### Changes of one file -/

variable {x : Location} {n : Option Node}

/-- A directory is still in use after one file was taken away, or was put where such a file may
stand. -/
theorem sets (h : site.Furnished t) (file : ¬ t.IsDirectory x) (sets : Sets t x n t')
    (parent : n ≠ none → t.IsDirectory x.dropLast)
    (record : x = passwordAt site.location → n = none)
    (key : ∀ name m, x = keysAt site.location ++ [name] → n = some m →
      ∃ k : PrivateKey, k.Valid ∧ name = keyFile (site.suite.handleOf k).keyId ∧ m = site.keyNode k)
    (entry : ∀ name m, x = entriesAt site.location ++ [name] → n = some m →
      ∃ handle mode bytes, name = entryFile handle ∧ m = .file mode bytes) :
    site.Furnished t' := by
  have kept := sets.keeps_directory file
  -- Everywhere but at `x` nothing has changed; at `x` is what was put there.
  refine ⟨sets.sound h.sound file parent, sets.troubles.trans h.quiet,
    Tree.resolve_of_directories kept h.base, fun d own => ?_, ?_, fun name m there => ?_,
    fun name m there => ?_⟩
  · have apart : d ≠ x := fun same => file (same ▸ h.directory own)
    rw [sets.listed? apart]
    exact h.closed d own
  · by_cases at_x : passwordAt site.location = x
    · left
      rw [at_x, sets.self, record at_x.symm]
    · rw [sets.other _ at_x]
      exact h.record
  · by_cases at_x : keysAt site.location ++ [name] = x
    · rw [at_x, sets.self] at there
      exact key name m at_x.symm there
    · rw [sets.other _ at_x] at there
      exact h.keyFiles name m there
  · by_cases at_x : entriesAt site.location ++ [name] = x
    · rw [at_x, sets.self] at there
      exact entry name m at_x.symm there
    · rw [sets.other _ at_x] at there
      exact h.entryFiles name m there

end Furnished

theorem keysAt_concat_ne_entryAt (l : Location) (name file : Text) :
    keysAt l ++ [name] ≠ entryAt l file := by
  intro same
  have parents := congrArg List.dropLast same
  rw [entryAt, List.dropLast_concat, List.dropLast_concat] at parents
  exact keysAt_ne_entriesAt l parents

theorem Change.furnished (change : site.Change aims t t') (h : site.Furnished t) :
    site.Furnished t' := by
  cases change with
  | gone q aimed file sets =>
    exact h.sets file sets (fun no => absurd rfl no) (fun _ => rfl)
      (fun _ _ _ impossible => nomatch impossible) fun _ _ _ impossible => nomatch impossible
  | entry handle mode bytes sets =>
    refine h.sets (h.not_directory_entry _) sets (fun _ => ?_) (fun same => ?_)
      (fun name m same _ => ?_) fun name m same there => ?_
    · rw [entryAt, List.dropLast_concat]
      exact h.directory (.inr (.inr rfl))
    · exact absurd same.symm (passwordAt_ne_entryAt _ _)
    · exact absurd same.symm (keysAt_concat_ne_entryAt _ name _)
    · exact ⟨handle, mode, bytes, entryAt_injective same.symm, (Option.some.inj there).symm⟩
  | key k valid sets =>
    refine h.sets (h.not_directory_key _) sets (fun _ => ?_) (fun same => ?_)
      (fun name m same there => ?_) fun name m same _ => ?_
    · rw [keyAt, List.dropLast_concat]
      exact h.directory (.inr (.inl rfl))
    · exact absurd same.symm (passwordAt_ne_keyAt _ _)
    · exact ⟨k, valid, (place_injective same).symm, (Option.some.inj there).symm⟩
    · exact absurd same.symm (entryAt_ne_keyAt _ name _)

theorem Change.keeps (change : site.Change aims t t') {x : Location}
    (spared : ∀ q ∈ aims, Tree.goal q ≠ x) (there : t.node? x ≠ none) : t'.node? x ≠ none := by
  have put {y : Location} {n : Node} (sets : Sets t y (some n) t') : t'.node? x ≠ none := by
    by_cases same : x = y
    · rw [same, sets.self]
      exact Option.some_ne_none _
    · rw [sets.other _ same]
      exact there
  cases change with
  | gone q aimed file sets =>
    rw [sets.other _ fun same => spared q aimed same.symm]
    exact there
  | entry handle mode bytes sets => exact put sets
  | key k valid sets => exact put sets

abbrev Changes (site : Site) (aims : List Path) : Tree → Tree → Prop :=
  Relation.ReflTransGen (site.Change aims)

theorem Changes.keeps (changes : site.Changes aims t t') {x : Location}
    (spared : ∀ q ∈ aims, Tree.goal q ≠ x) (there : t.node? x ≠ none) : t'.node? x ≠ none := by
  induction changes with
  | refl => exact there
  | tail _ change ih => exact change.keeps spared ih

/-! ### Keys that can be used -/

theorem write_read (site : Site) {k : PrivateKey} (valid : k.Valid) :
    KeyFile.write site.suite k site.sealing = .ok (site.keyBlock k).spell ∧
      KeyFile.read site.suite (asciiBytes (site.keyBlock k).spell) site.sealing
        = .ok (.curve k) := by
  have short : ∀ q, site.sealing = some q → q.length ≤ KeyFile.passwordLimit := by
    intro q same
    unfold sealing at same
    split at same
    · cases same
    · rw [← Option.some.inj same]
      exact site.sealable.short
  obtain ⟨text, written, read⟩ := KeyFile.read_write site.onCurve site.deciphers valid short
  have spelled : KeyFile.write site.suite k site.sealing = .ok (site.keyBlock k).spell := by
    unfold keyBlock
    cases same : site.sealing with
    | none => rfl
    | some q => exact if_neg (Nat.not_lt.mpr (short q same))
  obtain rfl := Except.ok.inj (written.symm.trans spelled)
  exact ⟨spelled, read⟩

/-- What a store has in mind here: nothing, or the password. -/
def Known (site : Site) (w : Option Text) : Prop := w = none ∨ w = remembered site.password

structure Houses (site : Site) (s : State) : Prop where
  place : s.base = site.base
  known : site.Known s.password
  furnished : site.Furnished s.tree

namespace Houses

variable {s : State}

theorem passwordPath (h : site.Houses s) :
    s.tree.resolve s.passwordPath = .ok (passwordAt site.location) := by
  rw [State.passwordPath, h.place]
  exact h.furnished.passwordPath

theorem keyPath (h : site.Houses s) {id : Text} (key : Book.isKeyId id = true) :
    s.tree.resolve (s.keyPath id) = .ok (keyAt site.location id) := by
  rw [State.keyPath, State.keysPath, h.place]
  exact h.furnished.keyPath key

theorem recorded (h : site.Houses s) : s.Recorded site.suite site.location none ∨
    s.Recorded site.suite site.location (some site.password) := by
  obtain gone | ⟨mode, salt, there⟩ := h.furnished.record
  · exact .inl gone
  · exact .inr ⟨mode, salt, site.content, site.sealable.encoded, there⟩

theorem sealingPassword_eq (mind : s.password = remembered site.password) :
    s.sealingPassword = .ok site.sealing := by
  have encoded := site.sealable.encoded
  rw [State.sealingPassword, mind, sealing, remembered]
  cases given : site.password with
  | nil => rfl
  | cons c p =>
    rw [given] at encoded
    simp only [List.isEmpty_cons, Bool.false_eq_true, if_false, encoded]

theorem mind_of_unlocked (h : site.Houses s) (unlocked : s.requireUnlocked = .ok ()) :
    s.password = remembered site.password := by
  rcases h.recorded with gone | recorded
  · rw [gone.uninitialised h.passwordPath] at unlocked
    cases unlocked
  · rcases h.known with nothing | known
    · rw [recorded.requireUnlocked h.passwordPath, nothing] at unlocked
      rw [nothing, remembered]
      cases given : site.password with
      | nil => rfl
      | cons c p =>
        rw [given] at unlocked
        cases unlocked
    · exact known

theorem unlocked_of_mind (h : site.Houses s) (mind : s.password = remembered site.password)
    (there : s.tree.node? (passwordAt site.location) ≠ none) : s.requireUnlocked = .ok () := by
  rcases h.recorded with gone | recorded
  · exact absurd gone there
  · rw [recorded.requireUnlocked h.passwordPath, mind, remembered]
    cases site.password with
    | nil => rfl
    | cons c p => rfl

/-- Who can use keys can load every key that is there. -/
theorem loadKey_of_unlocked (h : site.Houses s) (unlocked : s.requireUnlocked = .ok ()) {id : Text}
    (there : s.tree.node? (keyAt site.location id) ≠ none) : ∃ k : PrivateKey, k.Valid ∧
      (site.suite.handleOf k).keyId = id ∧ s.loadKey site.suite id = .ok k := by
  obtain ⟨n, node⟩ := Option.ne_none_iff_exists'.mp there
  obtain ⟨k, valid, named, rfl⟩ := h.furnished.keyFiles (keyFile id) n node
  have own : (site.suite.handleOf k).keyId = id := (List.append_cancel_right named).symm
  have path := h.keyPath (own ▸ site.suite.isKeyId_handleOf k)
  have present : s.tree.exists? (s.keyPath id) = .ok true := by
    rw [Tree.exists?_eq path, node]
    rfl
  have known := sealingPassword_eq (h.mind_of_unlocked unlocked)
  refine ⟨k, valid, own, ?_⟩
  simp only [State.loadKey, present, Tree.contentAt_file path node, known, bind, Except.bind,
    (site.write_read valid).2]
  rfl

end Houses

end Site

end CertKeeper.Directory
