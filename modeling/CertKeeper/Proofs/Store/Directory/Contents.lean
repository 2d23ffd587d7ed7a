import CertKeeper.Proofs.Store.Directory.Layout

/-!
# What changes of a directory do to its contents

One key file or one file of an entry comes or goes.  Main statements: `Layout.book_key` and
`Layout.book_unkey` for keys, `Layout.book_entry` and `Layout.book_unentry` for entries.
-/

namespace CertKeeper.Directory.State

open X509
open CertKeeper.Tree (IsDirectory Sets)

variable {fresh : Text → Prop} {s : State} {l : Location} {suite : Suite}

/-! ### Entries that can be read -/

namespace Shelf

variable {t : Tree} {x : Location} {n : Option Node}

theorem files_eq (h : Shelf s l) :
    s.entryFiles = s.entries.map fun e => entryFile e.handle := by
  have all : ∀ files : List Text, (∀ f ∈ files, ∃ e, s.Reads f e) →
      files = (files.filterMap s.stored?).map fun e => entryFile e.handle := by
    intro files
    induction files with
    | nil => intro _; rfl
    | cons f files ih =>
      intro reads
      obtain ⟨e, he⟩ := reads f List.mem_cons_self
      have rest := ih fun g hg => reads g (List.mem_cons_of_mem _ hg)
      rw [List.filterMap_cons_some he.entry, List.map_cons, ← rest, ← he.file]
  exact all _ h.entryFiles

theorem reads_of_mem (h : Shelf s l) {e : Entry} (stored : e ∈ s.entries) :
    entryFile e.handle ∈ s.entryFiles ∧ s.Reads (entryFile e.handle) e := by
  obtain ⟨f, hf, he⟩ := List.mem_filterMap.mp stored
  obtain ⟨e', reads⟩ := h.entryFiles f hf
  have same : e' = e := Option.some.inj (reads.entry.symm.trans he)
  subst same
  rw [← reads.file]
  exact ⟨hf, reads⟩

theorem handles_nodup (h : Shelf s l) : (s.entries.map Entry.handle).Nodup := by
  have files := h.entryFiles_nodup
  rw [h.files_eq] at files
  have composed : (s.entries.map fun e => entryFile e.handle)
      = (s.entries.map Entry.handle).map entryFile := by rw [List.map_map]; rfl
  rw [composed] at files
  exact files.of_map

theorem absent_of_new (h : Shelf s l) {handle : Text} (new : handle ∉ s.entries.map Entry.handle) :
    s.tree.node? (entryAt l (entryFile handle)) = none := by
  cases there : s.tree.node? (entryAt l (entryFile handle)) with
  | none => rfl
  | some n =>
    have member := h.mem_entryFiles.mpr ⟨endsWith_entryFile handle, by rw [there]; rfl⟩
    rw [h.files_eq, List.mem_map] at member
    obtain ⟨x, hx, same⟩ := member
    exact absurd (List.mem_map.mpr ⟨x, hx, List.append_cancel_right same⟩) new

theorem apart (h : Shelf s l) (sets : Sets s.tree x n t) (file : ¬ s.tree.IsDirectory x)
    (set : n ≠ none → s.tree.IsDirectory x.dropLast) (apart : ∀ f, entryAt l f ≠ x)
    (a : Surroundings) : Shelf (s.onto t a) l ∧ (s.onto t a).entries = s.entries := by
  have directories := sets.keeps_directory file
  have sound := sets.sound h.sound file set
  have entriesPath : (s.onto t a).tree.resolve (s.onto t a).entriesPath = .ok (entriesAt l) :=
    Tree.resolve_of_directories directories h.entriesPath
  have entries (f : Text) : t.node? (entryAt l f) = s.tree.node? (entryAt l f) :=
    sets.other _ (apart f)
  have files : (s.onto t a).entryFiles = s.entryFiles :=
    entryFiles_congr h sound entriesPath (directories _ h.certificates)
      fun f _ => congrArg Option.isSome (entries f)
  have readable : ∀ f, FileName f → (s.onto t a).stored? f = s.stored? f := by
    intro f name
    have content : t.contentAt ((s.onto t a).entriesPath.join f)
        = s.tree.contentAt (s.entriesPath.join f) :=
      Tree.contentAt_congr (h.entryPath name)
        (Tree.resolve_of_directories directories (h.entryPath name)) (entries f)
    unfold stored?
    rw [← content]
    rfl
  refine ⟨⟨sound, Tree.resolve_of_directories directories h.base, h.room, directories _ h.root,
    directories _ h.keys, directories _ h.certificates, ?_⟩, ?_⟩
  · intro f hf
    rw [files] at hf
    obtain ⟨e, reads⟩ := h.entryFiles f hf
    exact ⟨e, reads.name, (readable f reads.name).trans reads.entry, reads.file, reads.keyId⟩
  · change (s.onto t a).entryFiles.filterMap (s.onto t a).stored? = s.entryFiles.filterMap s.stored?
    rw [files]
    refine List.filterMap_congr fun f hf => ?_
    obtain ⟨e, reads⟩ := h.entryFiles f hf
    exact readable f reads.name

theorem sets_entry (h : Shelf s l) {f : Text} (name : FileName f)
    (ends : Text.endsWith ".json" f = true) (sets : Sets s.tree (entryAt l f) n t)
    (file : ¬ s.tree.IsDirectory (entryAt l f)) (a : Surroundings)
    (reads : n ≠ none → t.resolve ((s.onto t a).entriesPath.join f) = .ok (entryAt l f) →
      ∃ e, (s.onto t a).Reads f e) :
    Shelf (s.onto t a) l ∧
      (∀ g, g ≠ f → FileName g → (s.onto t a).stored? g = s.stored? g) ∧
      ∀ g, g ∈ (s.onto t a).entryFiles ↔ if g = f then n.isSome = true else g ∈ s.entryFiles := by
  have directories := sets.keeps_directory file
  have parent : s.tree.IsDirectory (entryAt l f).dropLast := by
    rw [entryAt, List.dropLast_concat]
    exact h.certificates
  have sound := sets.sound h.sound file fun _ => parent
  have entriesPath : t.resolve (s.onto t a).entriesPath = .ok (entriesAt l) :=
    Tree.resolve_of_directories directories h.entriesPath
  have path (g : Text) (name : FileName g) :
      t.resolve ((s.onto t a).entriesPath.join g) = .ok (entryAt l g) :=
    Tree.resolve_of_directories directories (h.entryPath name)
  have others (g : Text) (ne : g ≠ f) : t.node? (entryAt l g) = s.tree.node? (entryAt l g) :=
    sets.other _ fun same => ne (entryAt_injective same)
  have listed : ∀ g, g ∈ (s.onto t a).entryFiles ↔
      if g = f then n.isSome = true else g ∈ s.entryFiles := by
    intro g
    refine ((Tree.namesEnding_spec sound.nodup entriesPath (directories _ h.certificates) _).2.2
      g).trans ?_
    by_cases same : g = f
    · rw [if_pos same, same]
      exact ⟨fun there => (congrArg Option.isSome sets.self).symm.trans there.2,
        fun some_ => ⟨ends, (congrArg Option.isSome sets.self).trans some_⟩⟩
    · rw [if_neg same, h.mem_entryFiles]
      change _ ∧ (t.node? (entryAt l g)).isSome = true ↔ _
      rw [others g same]
  have readable : ∀ g, g ≠ f → FileName g → (s.onto t a).stored? g = s.stored? g := by
    intro g ne name
    have content : t.contentAt ((s.onto t a).entriesPath.join g)
        = s.tree.contentAt (s.entriesPath.join g) :=
      Tree.contentAt_congr (h.entryPath name) (path g name) (others g ne)
    unfold stored?
    rw [← content]
    rfl
  refine ⟨⟨sound, Tree.resolve_of_directories directories h.base, h.room, directories _ h.root,
    directories _ h.keys, directories _ h.certificates, fun g hg => ?_⟩, readable, listed⟩
  rw [listed g] at hg
  by_cases same : g = f
  · rw [if_pos same] at hg
    rw [same]
    refine reads ?_ (path f name)
    rintro rfl
    cases hg
  · rw [if_neg same] at hg
    obtain ⟨e, he⟩ := h.entryFiles g hg
    exact ⟨e, he.name, (readable g same he.name).trans he.entry, he.file, he.keyId⟩

theorem unentry (h : Shelf s l) {e : Entry} (stored : e ∈ s.entries)
    (sets : Sets s.tree (entryAt l (entryFile e.handle)) none t)
    (file : ¬ s.tree.IsDirectory (entryAt l (entryFile e.handle))) (a : Surroundings) :
    Shelf (s.onto t a) l ∧
      (s.onto t a).entries = s.entries.filter fun x => x.handle ∉ [e].map Entry.handle := by
  obtain ⟨inside, reads⟩ := h.reads_of_mem stored
  obtain ⟨h', readable, listed⟩ := h.sets_entry reads.name (h.mem_entryFiles.mp inside).1 sets file
    a fun impossible => absurd rfl impossible
  refine ⟨h', ?_⟩
  have files : (s.onto t a).entryFiles
      = s.entryFiles.filter fun g => decide (g ≠ entryFile e.handle) := by
    refine Tree.eq_of_mem_iff h'.entryFiles_ordered (h.entryFiles_ordered.filter _)
      h'.entryFiles_nodup (h.entryFiles_nodup.filter _) fun g => ?_
    rw [listed g, List.mem_filter, decide_eq_true_eq]
    by_cases same : g = entryFile e.handle
    · simp [same]
    · simp [same]
  -- A file that is kept reads as before, and the one taken away was the only one of the handle.
  have all : ∀ gs : List Text, (∀ g ∈ gs, ∃ x, s.Reads g x) →
      (gs.filter fun g => decide (g ≠ entryFile e.handle)).filterMap (s.onto t a).stored?
        = (gs.filterMap s.stored?).filter fun x => x.handle ∉ [e].map Entry.handle := by
    intro gs
    induction gs with
    | nil => intro _; rfl
    | cons g gs ih =>
      intro found
      obtain ⟨x, hx⟩ := found g List.mem_cons_self
      have rest := ih fun y hy => found y (List.mem_cons_of_mem _ hy)
      rw [List.filterMap_cons_some hx.entry]
      by_cases same : g = entryFile e.handle
      · have handle : x.handle = e.handle :=
          List.append_cancel_right (hx.file.symm.trans same)
        rw [List.filter_cons_of_neg (by simp [same]), List.filter_cons_of_neg (by simp [handle]),
          rest]
      · have handle : x.handle ≠ e.handle := by
          intro eq
          exact same (by rw [hx.file, eq])
        rw [List.filter_cons_of_pos (by simp [same]), List.filter_cons_of_pos (by simp [handle]),
          List.filterMap_cons_some ((readable g same hx.name).trans hx.entry), rest]
  change (s.onto t a).entryFiles.filterMap (s.onto t a).stored? = _
  rw [files]
  exact all _ h.entryFiles

theorem isKeyId (h : Shelf s l) {e : Entry} (stored : e ∈ s.entries) {id : Text}
    (bound : e.key? = some id) : Book.isKeyId id = true := by
  obtain ⟨_, reads⟩ := h.reads_of_mem stored
  rcases reads.keyId with null | ⟨id', bound', key⟩
  · rw [Entry.key?, null] at bound
    cases bound
  · rw [Entry.key?, bound'] at bound
    exact Option.some.inj bound ▸ key

theorem hasKey_eq (h : Shelf s l) {id : Text} (key : Book.isKeyId id = true) :
    s.hasKey id = (s.tree.node? (keyAt l id)).isSome := by
  rw [hasKey, key, Tree.exists?_eq (h.keyPath key)]
  rfl

theorem sound_book (h : Shelf s l) : (s.book suite).Sound := by
  refine ⟨h.handles_nodup, fun e he => (h.reads_of_mem he).2.keyId, fun id gone => ?_⟩
  change s.hasKey id = false at gone
  change s.key? suite id = none
  rw [key?, gone]
  rfl

end Shelf

namespace Layout

/-! ### What is read in a directory -/

theorem isAvailable (h : Layout fresh s l) :
    isAvailable s = .ok (!s.tree.barred.contains l) := by
  rw [Directory.isAvailable, (Tree.isDirectory_iff h.keysPath).mpr h.keys,
    (Tree.isDirectory_iff h.entriesPath).mpr h.certificates,
    Tree.isWritable_directory h.base h.root]
  rfl

theorem hasKey_eq (h : Layout fresh s l) {id : Text} (key : Book.isKeyId id = true) :
    s.hasKey id = (s.tree.node? (keyAt l id)).isSome := h.shelf.hasKey_eq key

theorem hasKey_of_not {id : Text} (key : Book.isKeyId id = false) : s.hasKey id = false := by
  rw [hasKey, key, Bool.false_and]

theorem reads_of_mem (h : Layout fresh s l) {e : Entry} (stored : e ∈ s.entries) :
    entryFile e.handle ∈ s.entryFiles ∧ s.Reads (entryFile e.handle) e :=
  h.shelf.reads_of_mem stored

theorem sound_book (h : Layout fresh s l) : (s.book suite).Sound := h.shelf.sound_book

/-! ### Reading after a change -/

variable {t : Tree} {x : Location} {n : Option Node} {a : Surroundings}

theorem lockedBy_congr (h : Layout fresh s l) (h' : Layout fresh (s.onto t a) l)
    (same : t.node? (passwordAt l) = s.tree.node? (passwordAt l)) :
    (s.onto t a).lockedBy = s.lockedBy := by
  have there : t.exists? (s.onto t a).passwordPath = s.tree.exists? s.passwordPath :=
    Tree.exists?_congr h.passwordPath h'.passwordPath same
  have content : t.contentAt (s.onto t a).passwordPath = s.tree.contentAt s.passwordPath :=
    Tree.contentAt_congr h.passwordPath h'.passwordPath same
  have record : (s.onto t a).passwordRecord? = s.passwordRecord? := by
    unfold passwordRecord?
    rw [← content, ← there]
    rfl
  unfold lockedBy requireUnlocked
  rw [record]
  rfl

variable (suite) in
theorem key?_congr (h : Layout fresh s l) (h' : Layout fresh (s.onto t a) l) {id : Text}
    (same : t.node? (keyAt l id) = s.tree.node? (keyAt l id)) :
    (s.onto t a).hasKey id = s.hasKey id ∧ (s.onto t a).key? suite id = s.key? suite id := by
  cases key : Book.isKeyId id with
  | false =>
    have none : s.key? suite id = none := by
      rw [key?, hasKey_of_not key]
      rfl
    have none' : (s.onto t a).key? suite id = Option.none := by
      rw [key?, hasKey_of_not key]
      rfl
    exact ⟨(hasKey_of_not key).trans (hasKey_of_not key).symm, none'.trans none.symm⟩
  | true =>
    have held : (s.onto t a).hasKey id = s.hasKey id := by
      rw [h.hasKey_eq key, h'.hasKey_eq key]
      exact congrArg Option.isSome same
    have there : t.exists? ((s.onto t a).keyPath id) = s.tree.exists? (s.keyPath id) :=
      Tree.exists?_congr (h.keyPath key) (h'.keyPath key) same
    have content : t.contentAt ((s.onto t a).keyPath id) = s.tree.contentAt (s.keyPath id) :=
      Tree.contentAt_congr (h.keyPath key) (h'.keyPath key) same
    have loaded : (s.onto t a).loadKey suite id = s.loadKey suite id := by
      simp only [loadKey]
      rw [← content, ← there]
      rfl
    exact ⟨held, by rw [key?, key?, held, loaded]⟩

theorem sets_apart (h : Layout fresh s l) (sets : Sets s.tree x n t)
    (file : ¬ s.tree.IsDirectory x) (set : n ≠ none → s.tree.IsDirectory x.dropLast)
    (kept : ∀ mode, n ≠ some (.directory mode)) (apart : ∀ f, entryAt l f ≠ x)
    (named : ∀ token d name, x = d ++ [name] →
      Text.endsWith (temporaryEnding token) name = false) (a : Surroundings) :
    Layout fresh (s.onto t a) l ∧ (s.onto t a).entries = s.entries := by
  obtain ⟨shelf, entries⟩ := h.shelf.apart sets file set apart a
  exact ⟨h.sets sets file set kept a (fun _ token _ d name place => named token d name place)
    shelf.entryFiles, entries⟩

/-! ### Keys -/

variable (suite) in
/-- A key file comes or goes: everything but this key is as it was. -/
theorem sets_key (h : Layout fresh s l) {id : Text} (key : Book.isKeyId id = true)
    (sets : Sets s.tree (keyAt l id) n t) (kept : ∀ mode, n ≠ some (.directory mode))
    (a : Surroundings) : Layout fresh (s.onto t a) l ∧ (s.onto t a).entries = s.entries ∧
      (s.onto t a).lockedBy = s.lockedBy ∧
      (∀ other, other ≠ id → (s.onto t a).hasKey other = s.hasKey other ∧
        (s.onto t a).key? suite other = s.key? suite other) ∧
      (s.onto t a).hasKey id = n.isSome := by
  have parent : s.tree.IsDirectory (keyAt l id).dropLast := by
    rw [keyAt, List.dropLast_concat]
    exact h.keys
  have named : ∀ token d name, keyAt l id = d ++ [name] →
      Text.endsWith (temporaryEnding token) name = false := by
    intro token d name place
    have last := congrArg List.getLast? place
    rw [keyAt, List.getLast?_concat, List.getLast?_concat] at last
    rw [← Option.some.inj last]
    exact @endsWith_temporaryEnding _ _ _ (CodePoint.ofChar 'm') (by decide) rfl
  obtain ⟨h', entries⟩ := h.sets_apart sets (h.keyFiles id key) (fun _ => parent) kept
    (fun f => entryAt_ne_keyAt l f id) named a
  refine ⟨h', entries, h.lockedBy_congr h' (sets.other _ (passwordAt_ne_keyAt l id)), ?_, ?_⟩
  · exact fun other ne => h.key?_congr suite h' (sets.other _ fun same => ne (keyAt_injective same))
  · rw [h'.hasKey_eq key]
    exact congrArg Option.isSome sets.self

theorem available_book (h : Layout fresh s l) :
    (s.book suite).available = !s.tree.barred.contains l := by
  change (Directory.isAvailable s).toOption.getD false = _
  rw [h.isAvailable]
  rfl

variable (suite) in
theorem available_congr (h : Layout fresh s l) (h' : Layout fresh (s.onto t a) l)
    (sets : Sets s.tree x n t) :
    ((s.onto t a).book suite).available = (s.book suite).available := by
  rw [h'.available_book, h.available_book]
  exact congrArg (!List.contains · l) sets.barred

variable (suite) in
theorem book_unkey (h : Layout fresh s l) {id : Text} (key : Book.isKeyId id = true)
    (sets : Sets s.tree (keyAt l id) none t) (a : Surroundings) :
    Layout fresh (s.onto t a) l ∧
      (s.onto t a).book suite = ((s.book suite).amid a).dropKey id := by
  obtain ⟨h', entries, locked, others, own⟩ :=
    h.sets_key suite key sets (fun _ impossible => nomatch impossible) a
  have available : ((s.onto t a).book suite).available = (s.book suite).available :=
    h.available_congr suite h' sets
  refine ⟨h', Book.ext entries ?_ ?_ locked available rfl⟩
  · funext other
    change (s.onto t a).hasKey other = (s.hasKey other && decide (other ≠ id))
    by_cases same : other = id
    · rw [same, own]
      simp
    · rw [(others other same).1]
      simp [same]
  · funext other
    change (s.onto t a).key? suite other = if other = id then none else s.key? suite other
    by_cases same : other = id
    · rw [if_pos same, same, key?, own]
      rfl
    · rw [if_neg same, (others other same).2]

theorem loadKey_of_file (h : Layout fresh s l) {id : Text} (key : Book.isKeyId id = true)
    {mode : Nat} {content : Bytes} (there : s.tree.node? (keyAt l id) = some (.file mode content))
    {p : Option Bytes} (sealing : s.sealingPassword = .ok p) {k : PrivateKey}
    (read : KeyFile.read suite content p = .ok (.curve k)) : s.loadKey suite id = .ok k := by
  have present : s.tree.exists? (s.keyPath id) = .ok true := by
    rw [Tree.exists?_eq (h.keyPath key), there]
    rfl
  simp only [loadKey, present, Tree.contentAt_file (h.keyPath key) there, sealing, bind,
    Except.bind, read]
  rfl

theorem book_key (h : Layout fresh s l) {id : Text} (key : Book.isKeyId id = true) {mode : Nat}
    {content : Bytes} (sets : Sets s.tree (keyAt l id) (some (.file mode content)) t)
    {p : Option Bytes} (sealing : s.sealingPassword = .ok p) {k : PrivateKey}
    (read : KeyFile.read suite content p = .ok (.curve k)) (a : Surroundings) :
    Layout fresh (s.onto t a) l ∧
      (s.onto t a).book suite = ((s.book suite).amid a).putKey id k := by
  obtain ⟨h', entries, locked, others, own⟩ :=
    h.sets_key suite key sets (fun _ impossible => nomatch impossible) a
  have available : ((s.onto t a).book suite).available = (s.book suite).available :=
    h.available_congr suite h' sets
  have loaded : (s.onto t a).loadKey suite id = .ok k :=
    h'.loadKey_of_file key sets.self sealing read
  refine ⟨h', Book.ext entries ?_ ?_ locked available rfl⟩
  · funext other
    change (s.onto t a).hasKey other = (s.hasKey other || decide (other = id))
    by_cases same : other = id
    · rw [same, own]
      simp
    · rw [(others other same).1]
      simp [same]
  · funext other
    change (s.onto t a).key? suite other = if other = id then some k else s.key? suite other
    by_cases same : other = id
    · rw [if_pos same, same, key?, own, loaded]
      rfl
    · rw [if_neg same, (others other same).2]

/-! ### Entries -/

variable (suite) in
/-- What a change of an entry's file leaves: the keys, the lock and every other entry. -/
theorem sets_entry (h : Layout fresh s l) {f : Text} (name : FileName f)
    (ends : Text.endsWith ".json" f = true) (sets : Sets s.tree (entryAt l f) n t)
    (file : ¬ s.tree.IsDirectory (entryAt l f)) (kept : ∀ mode, n ≠ some (.directory mode))
    (a : Surroundings)
    (reads : n ≠ none → t.resolve ((s.onto t a).entriesPath.join f) = .ok (entryAt l f) →
      ∃ e, (s.onto t a).Reads f e) :
    Layout fresh (s.onto t a) l ∧ (s.onto t a).lockedBy = s.lockedBy ∧
      (s.onto t a).hasKey = s.hasKey ∧ (s.onto t a).key? suite = s.key? suite ∧
      (∀ g, g ≠ f → FileName g → (s.onto t a).stored? g = s.stored? g) ∧
      ∀ g, g ∈ (s.onto t a).entryFiles ↔ if g = f then n.isSome = true else g ∈ s.entryFiles := by
  have parent : s.tree.IsDirectory (entryAt l f).dropLast := by
    rw [entryAt, List.dropLast_concat]
    exact h.certificates
  obtain ⟨shelf, readable, listed⟩ := h.shelf.sets_entry name ends sets file a reads
  have h' : Layout fresh (s.onto t a) l := by
    refine h.sets sets file (fun _ => parent) kept a ?_ shelf.entryFiles
    intro _ token _ d name place
    have last := congrArg List.getLast? place
    rw [entryAt, List.getLast?_concat, List.getLast?_concat] at last
    obtain ⟨front, whole⟩ := List.isSuffixOf_iff_suffix.mp ends
    rw [← Option.some.inj last, ← whole]
    exact @endsWith_temporaryEnding _ _ _ (CodePoint.ofChar 'n') (by decide) rfl
  have keys (id : Text) := h.key?_congr suite h'
    (sets.other (keyAt l id) fun same => entryAt_ne_keyAt l f id same.symm)
  exact ⟨h', h.lockedBy_congr h' (sets.other _ (passwordAt_ne_entryAt l f)),
    funext fun id => (keys id).1, funext fun id => (keys id).2, readable, listed⟩

variable (suite) in
/-- An entry whose file is gone is taken out; its key stays. -/
theorem book_unentry (h : Layout fresh s l) {e : Entry} (stored : e ∈ s.entries)
    (sets : Sets s.tree (entryAt l (entryFile e.handle)) none t)
    (file : ¬ s.tree.IsDirectory (entryAt l (entryFile e.handle))) (a : Surroundings) :
    Layout fresh (s.onto t a) l ∧ (s.onto t a).book suite =
      { (s.book suite).amid a with
        entries := s.entries.filter fun x => x.handle ∉ [e].map Entry.handle } := by
  obtain ⟨inside, reads⟩ := h.reads_of_mem stored
  obtain ⟨h', locked, held, keys, _, _⟩ :=
    h.sets_entry suite reads.name (h.mem_entryFiles.mp inside).1 sets file
      (fun _ impossible => nomatch impossible) a fun impossible => absurd rfl impossible
  obtain ⟨_, entries⟩ := h.shelf.unentry stored sets file a
  have available : ((s.onto t a).book suite).available = (s.book suite).available :=
    h.available_congr suite h' sets
  exact ⟨h', Book.ext entries held keys locked available rfl⟩

variable (suite) in
/-- An entry whose file has come is there among the others, and at their end where its name is
behind all of theirs. -/
theorem book_entry (h : Layout fresh s l) {e : Entry} (name : FileName (entryFile e.handle))
    (new : e.handle ∉ s.entries.map Entry.handle) {mode : Nat} {content : Bytes}
    (sets : Sets s.tree (entryAt l (entryFile e.handle)) (some (.file mode content)) t)
    (a : Surroundings)
    (reads : t.resolve ((s.onto t a).entriesPath.join (entryFile e.handle))
        = .ok (entryAt l (entryFile e.handle)) → (s.onto t a).Reads (entryFile e.handle) e) :
    Layout fresh (s.onto t a) l ∧ (s.book suite).Gains e ((s.onto t a).book suite) ∧
      ((∀ x ∈ s.entries, Tree.textBefore (entryFile x.handle) (entryFile e.handle) = true) →
        (s.onto t a).entries = s.entries ++ [e]) := by
  have free := h.shelf.absent_of_new new
  have absent : entryFile e.handle ∉ s.entryFiles := by
    intro member
    have there := (h.mem_entryFiles.mp member).2
    rw [free] at there
    cases there
  obtain ⟨h', locked, held, keys, readable, listed⟩ :=
    h.sets_entry suite name (endsWith_entryFile _) sets (Tree.not_isDirectory_of_none free)
      (fun _ impossible => nomatch impossible) a fun _ path => ⟨e, reads path⟩
  have own : (s.onto t a).Reads (entryFile e.handle) e := reads (h'.entryPath name)
  obtain ⟨before, after, split, files, behind⟩ := Tree.split_of_mem_iff h'.entryFiles_ordered
    h.entryFiles_ordered h'.entryFiles_nodup h.entryFiles_nodup absent fun g => by
      rw [listed g]
      by_cases same : g = entryFile e.handle <;> simp [same]
  -- The files around the new one are read as they were.
  have kept : ∀ gs : List Text, (∀ g ∈ gs, g ∈ s.entryFiles) →
      gs.filterMap (s.onto t a).stored? = gs.filterMap s.stored? := by
    intro gs inside
    refine List.filterMap_congr fun g hg => ?_
    obtain ⟨x, hx⟩ := h.entryFiles g (inside g hg)
    exact readable g (fun same => absent (same ▸ inside g hg)) hx.name
  have left : ∀ g ∈ before, g ∈ s.entryFiles := fun g hg => files ▸ List.mem_append_left _ hg
  have right : ∀ g ∈ after, g ∈ s.entryFiles := fun g hg => files ▸ List.mem_append_right _ hg
  have was : s.entries = before.filterMap s.stored? ++ after.filterMap s.stored? := by
    rw [entries, files, List.filterMap_append]
  have is : (s.onto t a).entries
      = before.filterMap s.stored? ++ e :: after.filterMap s.stored? := by
    rw [entries, split, List.filterMap_append, List.filterMap_cons_some own.entry, kept _ left,
      kept _ right]
  refine ⟨h', ⟨⟨_, _, was, is⟩, held, keys, locked, h.available_congr suite h' sets⟩,
    fun last => ?_⟩
  have none_after : after = [] := by
    refine List.eq_nil_iff_forall_not_mem.mpr fun g hg => ?_
    have inside := right g hg
    rw [h.shelf.files_eq, List.mem_map] at inside
    obtain ⟨x, hx, file⟩ := inside
    have same := Tree.textBefore_antisymm (behind g hg) (file ▸ last x hx)
    exact absent (same ▸ right g hg)
  rw [is, was, none_after]
  simp

end Layout

end CertKeeper.Directory.State
