import CertKeeper.Proofs.Store.Directory.Calls

/-!
# Opening a store in a directory

A store that is opened on an empty directory can work in it and holds nothing.  Main statement:
`start_openStore`.
-/

namespace CertKeeper.Directory

open CertKeeper.Action (Leads start)
open CertKeeper.Tree (IsDirectory Sets)

variable {l : Location} {s : State}

namespace State

/-- An empty directory, before a store is opened on it. -/
structure Blank (s : State) (l : Location) : Prop where
  sound : s.tree.Sound
  quiet : s.tree.troubles = []
  base : s.tree.resolve s.base = .ok l
  nameable : s.base.isUnnameable = false
  room : Tree.HasRoom s.base 512
  root : s.tree.IsDirectory l
  empty : ∀ name, s.tree.node? (l ++ [name]) = none

/-- A directory of a store that holds nothing, not even a record of a password. -/
structure Vacant (s : State) (l : Location) : Prop where
  layout : s.Layout (fun _ => True) l
  entryFiles : s.entryFiles = []
  keyFiles : ∀ id, s.hasKey id = false
  password : s.tree.node? (passwordAt l) = none

theorem Blank.below (h : s.Blank l) (name other : Text) :
    s.tree.node? (l ++ [name] ++ [other]) = none := by
  cases there : s.tree.node? (l ++ [name] ++ [other]) with
  | none => rfl
  | some n =>
    obtain ⟨mode, parent⟩ := h.sound.parents (l := l ++ [name] ++ [other]) (by simp)
      (by rw [there]; rfl)
    rw [List.dropLast_concat, h.empty name] at parent
    cases parent

end State

/-! ### Making the directories -/

theorem keysAt_ne_entriesAt (l : Location) : keysAt l ≠ entriesAt l := by
  have names : Text.ofString "keys" ≠ Text.ofString "certificates" := by decide +kernel
  exact fun same => names (place_injective same)

theorem passwordAt_ne_keysAt (l : Location) : passwordAt l ≠ keysAt l := by
  have names : Text.ofString "password.json" ≠ Text.ofString "keys" := by decide +kernel
  exact fun same => names (place_injective same)

theorem passwordAt_ne_entriesAt (l : Location) : passwordAt l ≠ entriesAt l := by
  have names : Text.ofString "password.json" ≠ Text.ofString "certificates" := by decide +kernel
  exact fun same => names (place_injective same)

theorem temporary_ne_directory {token name : Text}
    (temporary : Text.endsWith (temporaryEnding token) name = true) (l : Location) :
    l ++ [name] ≠ keysAt l ∧ l ++ [name] ≠ entriesAt l := by
  have apart (directory : Text) (last : directory.getLast? = some (CodePoint.ofChar 's')) :
      l ++ [name] ≠ l ++ [directory] := by
    intro same
    have other :=
      @endsWith_temporaryEnding token [] directory (CodePoint.ofChar 's') (by decide) last
    rw [List.nil_append, ← place_injective same, temporary] at other
    cases other
  exact ⟨apart "keys" rfl, apart "certificates" rfl⟩

theorem prepare_blank (h : s.Blank l) : ∃ t, prepare s = (.ok t, t) ∧ t.Sound ∧ t.troubles = [] ∧
    (∀ m, s.tree.IsDirectory m → t.IsDirectory m) ∧ t.IsDirectory (keysAt l) ∧
    t.IsDirectory (entriesAt l) ∧
    ∀ m, m ≠ keysAt l → m ≠ entriesAt l → t.node? m = s.tree.node? m := by
  have room := Tree.hasRoom_base h.room
  have keysPath : s.tree.resolve s.keysPath = .ok (keysAt l) :=
    Tree.resolve_join fileName_keys room h.base h.root
  have free : s.tree.node? (keysAt l) = none := h.empty _
  have made := Tree.sets_put (t := s.tree) (Tree.ne_nil_of_not_isDirectory
    (Tree.not_isDirectory_of_none free)) (.directory 0o755)
  have kept := made.keeps_directory (Tree.not_isDirectory_of_none free)
  have sound := made.sound h.sound (Tree.not_isDirectory_of_none free) fun _ => by
    rw [keysAt, List.dropLast_concat]
    exact h.root
  have entriesPath : (s.tree.put (keysAt l) (.directory 0o755)).resolve s.entriesPath
      = .ok (entriesAt l) :=
    Tree.resolve_of_directories kept (Tree.resolve_join fileName_certificates room h.base h.root)
  have free' : (s.tree.put (keysAt l) (.directory 0o755)).node? (entriesAt l) = none := by
    rw [made.other _ (keysAt_ne_entriesAt l).symm]
    exact h.empty _
  have made' := Tree.sets_put (t := s.tree.put (keysAt l) (.directory 0o755))
    (Tree.ne_nil_of_not_isDirectory (Tree.not_isDirectory_of_none free')) (.directory 0o755)
  have kept' := made'.keeps_directory (Tree.not_isDirectory_of_none free')
  have sound' := made'.sound sound (Tree.not_isDirectory_of_none free') fun _ => by
    rw [entriesAt, List.dropLast_concat]
    exact kept _ h.root
  refine ⟨_, ?_, sound', h.quiet, fun m directory => kept' m (kept m directory),
    kept' _ ⟨_, made.self⟩, ⟨_, made'.self⟩, ?_⟩
  · simp only [prepare, Tree.makeDirectories_free keysPath free,
      Tree.makeDirectories_free entriesPath free']
  · intro m notKeys notEntries
    rw [made'.other m notEntries, made.other m notKeys]

theorem start_restrict {t : Tree} {q : Path} (path : t.resolve q = .ok l)
    (directory : t.IsDirectory l) (base : Path) (password : Option Text) (around : Surroundings)
    (journal : Journal) (operation : Option Text) :
    start (restrict q) ⟨⟨t, base, password, around⟩, journal, operation⟩
      = (.ok (), ⟨⟨t.put l (.directory 0o700), base, password, around⟩, journal, operation⟩) := by
  unfold restrict
  rw [Action.start_bind_ok (Action.start_read _), Tree.setMode_directory path directory]
  rfl

def closing (l : Location) (t : Tree) : Tree :=
  ((t.put l (.directory 0o700)).put (keysAt l) (.directory 0o700)).put (entriesAt l)
    (.directory 0o700)

theorem closing_spec {t : Tree} (sound : t.Sound) (root : t.IsDirectory l)
    (keys : t.IsDirectory (keysAt l)) (entries : t.IsDirectory (entriesAt l)) :
    (closing l t).Sound ∧ (∀ m, (closing l t).IsDirectory m ↔ t.IsDirectory m) ∧
      (∀ m, m ≠ l → m ≠ keysAt l → m ≠ entriesAt l → (closing l t).node? m = t.node? m) ∧
      ∀ d, d = l ∨ d = keysAt l ∨ d = entriesAt l →
        (closing l t).listed? d = some (.directory 0o700) := by
  obtain ⟨sound₁, same₁⟩ := Tree.put_directory sound root 0o700
  obtain ⟨sound₂, same₂⟩ := Tree.put_directory sound₁ ((same₁ _).mpr keys) 0o700
  obtain ⟨sound₃, same₃⟩ :=
    Tree.put_directory sound₂ ((same₂ _).mpr ((same₁ _).mpr entries)) 0o700
  refine ⟨sound₃, fun m => (same₃ m).trans ((same₂ m).trans (same₁ m)),
    fun m notRoot notKeys notEntries => ?_, fun d own => ?_⟩
  · rw [closing, Tree.node?_put_other _ _ notEntries, Tree.node?_put_other _ _ notKeys,
      Tree.node?_put_other _ _ notRoot]
  · rcases own with rfl | rfl | rfl
    · have notKeys : d ≠ keysAt d := by simp [keysAt]
      have notEntries : d ≠ entriesAt d := by simp [entriesAt]
      rw [closing, Tree.listed?_put_other _ _ notEntries, Tree.listed?_put_other _ _ notKeys,
        Tree.listed?_put_self]
    · rw [closing, Tree.listed?_put_other _ _ (keysAt_ne_entriesAt l), Tree.listed?_put_self]
    · rw [closing, Tree.listed?_put_self]

theorem start_openStore_prepared {r : Run State}
    (nameable : r.state.base.isUnnameable = false) (room : Tree.HasRoom r.state.base 512) {t : Tree}
    (prepared : prepare r.state = (.ok t, t)) (sound : t.Sound)
    (base : t.resolve r.state.base = .ok l) (root : t.IsDirectory l)
    (keys : t.IsDirectory (keysAt l)) (entries : t.IsDirectory (entriesAt l)) :
    ∃ journal, start openStore r = (.ok (),
      ⟨⟨closing l t, r.state.base, none, r.state.around⟩, journal, r.operation⟩) := by
  obtain ⟨sound₁, same₁⟩ := Tree.put_directory sound root 0o700
  have kept₁ : ∀ m, t.IsDirectory m → _ := fun m => (same₁ m).mpr
  have base₁ := Tree.resolve_of_directories kept₁ base
  obtain ⟨_, same₂⟩ := Tree.put_directory sound₁ (kept₁ _ keys) 0o700
  have kept₂ : ∀ m, t.IsDirectory m → _ := fun m directory => (same₂ m).mpr (kept₁ m directory)
  have base₂ := Tree.resolve_of_directories kept₂ base
  have keysPath : _ = Except.ok (keysAt l) :=
    Tree.resolve_join fileName_keys (Tree.hasRoom_base room) base₁ (kept₁ _ root)
  have entriesPath : _ = Except.ok (entriesAt l) :=
    Tree.resolve_join fileName_certificates (Tree.hasRoom_base room) base₂ (kept₂ _ root)
  refine ⟨r.journal ++
    [⟨.info, "Initialized LocalKeyStore at " ++ r.state.base.spell, r.operation⟩], ?_⟩
  unfold openStore
  rw [Action.start_bind_ok (Action.start_read r)]
  simp only [nameable, prepared, Bool.false_eq_true, if_false]
  rw [Action.start_bind_ok (Action.start_change _ _),
    Action.start_bind_ok (start_restrict base root _ _ _ _ _),
    State.keysPath, Action.start_bind_ok (start_restrict keysPath (kept₁ _ keys) _ _ _ _ _),
    State.entriesPath,
    Action.start_bind_ok (start_restrict entriesPath (kept₂ _ entries) _ _ _ _ _)]
  rfl

theorem vacant_of_directories (sound : s.tree.Sound) (quiet : s.tree.troubles = [])
    (base : s.tree.resolve s.base = .ok l) (nameable : s.base.isUnnameable = false)
    (room : Tree.HasRoom s.base 512) (root : s.tree.IsDirectory l)
    (keys : s.tree.IsDirectory (keysAt l)) (entries : s.tree.IsDirectory (entriesAt l))
    (password : s.password = none)
    (only : ∀ name, l ++ [name] ≠ keysAt l → l ++ [name] ≠ entriesAt l →
      s.tree.node? (l ++ [name]) = none)
    (empty : ∀ name other, s.tree.node? (l ++ [name] ++ [other]) = none) : s.Vacant l := by
  have keysPath : s.tree.resolve s.keysPath = .ok (keysAt l) :=
    Tree.resolve_join fileName_keys (Tree.hasRoom_base room) base root
  have entriesPath : s.tree.resolve s.entriesPath = .ok (entriesAt l) :=
    Tree.resolve_join fileName_certificates (Tree.hasRoom_base room) base root
  have files : s.entryFiles = [] := by
    obtain ⟨_, _, listed⟩ := Tree.namesEnding_spec sound.nodup entriesPath entries ".json"
    refine List.eq_nil_iff_forall_not_mem.mpr fun f hf => ?_
    obtain ⟨_, there⟩ := (listed f).mp hf
    have gone : s.tree.node? (entriesAt l ++ [f]) = none := empty _ f
    rw [gone] at there
    cases there
  have layout : s.Layout (fun _ => True) l := by
    refine ⟨sound, quiet, base, nameable, room, root, keys, entries, ?_, ?_, ?_, ?_⟩
    · exact fun id _ => Tree.not_isDirectory_of_none (empty _ _)
    · intro f hf
      rw [files] at hf
      cases hf
    · refine ⟨none, by rw [State.sealingPassword, password], fun _ impossible => nomatch impossible⟩
    · intro token _ d hd name temporary
      rcases hd with rfl | rfl | rfl
      · obtain ⟨notKeys, notEntries⟩ := temporary_ne_directory temporary d
        exact only name notKeys notEntries
      · exact empty _ name
      · exact empty _ name
  refine ⟨layout, files, ?_, ?_⟩
  · intro id
    cases key : Book.isKeyId id with
    | false => exact State.Layout.hasKey_of_not key
    | true =>
      have gone : s.tree.node? (keyAt l id) = none := empty _ _
      rw [layout.hasKey_eq key, gone]
      rfl
  · exact only _ (passwordAt_ne_keysAt l) (passwordAt_ne_entriesAt l)

/-- What opening a store makes of an empty directory. -/
structure State.Opened (before s : State) (l : Location) : Prop where
  vacant : s.Vacant l
  base : s.base = before.base
  password : s.password = none
  around : s.around = before.around
  closed : ∀ d, d = l ∨ d = keysAt l ∨ d = entriesAt l →
    s.tree.listed? d = some (.directory 0o700)
  below : ∀ name other, s.tree.node? (l ++ [name] ++ [other]) = none

theorem start_openStore_blank {r : Run State} (h : r.state.Blank l) :
    ∃ s journal, start openStore r = (.ok (), ⟨s, journal, r.operation⟩) ∧ r.state.Opened s l := by
  obtain ⟨t, prepared, sound, quiet, kept, keys, entries, other⟩ := prepare_blank h
  have base := Tree.resolve_of_directories kept h.base
  have root := kept _ h.root
  obtain ⟨journal, opened⟩ :=
    start_openStore_prepared h.nameable h.room prepared sound base root keys entries
  obtain ⟨sound', same, other', closed⟩ := closing_spec sound root keys entries
  have node : ∀ m, m ≠ l → m ≠ keysAt l → m ≠ entriesAt l →
      (closing l t).node? m = r.state.tree.node? m := by
    intro m notRoot notKeys notEntries
    rw [other' m notRoot notKeys notEntries, other m notKeys notEntries]
  have below : ∀ name other, (closing l t).node? (l ++ [name] ++ [other]) = none := by
    intro name under
    refine (node _ (by simp) ?_ ?_).trans (h.below name under)
    · intro same
      have length := congrArg List.length same
      simp [keysAt] at length
    · intro same
      have length := congrArg List.length same
      simp [entriesAt] at length
  refine ⟨_, journal, opened, ?_, rfl, rfl, rfl, closed, below⟩
  refine vacant_of_directories sound' quiet
    (Tree.resolve_of_directories (fun m => (same m).mpr) base) h.nameable h.room
    ((same _).mpr root) ((same _).mpr keys) ((same _).mpr entries) rfl ?_ below
  intro name notKeys notEntries
  exact (node _ (by simp) notKeys notEntries).trans (h.empty name)

/-- A store that is opened on an empty directory holds nothing. -/
theorem start_openStore {r : Run State} (h : r.state.Blank l) :
    ∃ s journal, start openStore r = (.ok (), ⟨s, journal, r.operation⟩) ∧ s.Vacant l ∧
      s.password = none ∧ s.around = r.state.around := by
  obtain ⟨s, journal, opened, facts⟩ := start_openStore_blank h
  exact ⟨s, journal, opened, facts.vacant, facts.password, facts.around⟩

end CertKeeper.Directory
