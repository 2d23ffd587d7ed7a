import CertKeeper.Proofs.Store.Directory.Calls

/-!
# Deletions that fail halfway

An entry and its key are two files, and the file system may refuse to take away either.  Main
statement: `start_delete`, what a deletion leaves whatever the file system does.
-/

namespace CertKeeper

/-! ### Troubles -/

namespace Tree

variable {t : Tree} {l : Location} {p : Path}

/-- What the next writing call runs into. -/
def ahead (t : Tree) : Option SystemCode := t.troubles.head?.join

def beset (t : Tree) (troubles : List (Option SystemCode)) : Tree := { t with troubles }

def spent (t : Tree) : Tree := t.beset t.troubles.tail

theorem trouble_eq (t : Tree) : t.trouble = (t.ahead, t.spent) := by
  obtain ⟨nodes, troubles, barred⟩ := t
  cases troubles with
  | nil => rfl
  | cons x rest => cases x <;> rfl

theorem unlink_troubled {code : SystemCode} (h : t.ahead = some code) (p : Path) :
    t.unlink p = (.error code, t.spent) := by
  simp only [unlink, trouble_eq, h]

variable (troubles : List (Option SystemCode))

theorem sound_beset (h : t.Sound) : (t.beset troubles).Sound := ⟨h.nodup, h.parents⟩

theorem walk_beset (here : Location) (ps : List Text) :
    (t.beset troubles).walk here ps = t.walk here ps := by
  have same : ∀ m, (t.beset troubles).node? m = t.node? m := fun _ => rfl
  induction ps generalizing here with
  | nil => rfl
  | cons n ps ih => simp only [walk, same, ih]

theorem resolve_beset (p : Path) : (t.beset troubles).resolve p = t.resolve p := by
  simp only [resolve, walk_beset]

theorem exists?_beset (p : Path) : (t.beset troubles).exists? p = t.exists? p := by
  simp only [exists?, stat, resolve_beset]
  rfl

theorem contentAt_beset (p : Path) : (t.beset troubles).contentAt p = t.contentAt p := by
  simp only [contentAt, stat, resolve_beset]
  rfl

theorem isDirectory_beset (p : Path) : (t.beset troubles).isDirectory p = t.isDirectory p := by
  simp only [isDirectory, stat, resolve_beset]
  rfl

theorem namesEnding_beset (p : Path) (ending : Text) :
    (t.beset troubles).namesEnding p ending = t.namesEnding p ending := by
  simp only [namesEnding, resolve_beset]
  rfl

theorem unlink_calm (sound : t.Sound) (h : t.ahead = none) (path : t.resolve p = .ok l) :
    (∃ mode, t.node? l = some (.directory mode) ∧ t.unlink p = (.error .isDirectory, t.spent)) ∨
      (t.node? l = none ∧ t.unlink p = (.error .noEntry, t.spent)) ∨
      ∃ mode content t', t.node? l = some (.file mode content) ∧ t.unlink p = (.ok (), t') ∧
        Sets t.spent l none t' := by
  have same : t.spent.node? l = t.node? l := rfl
  have path' : t.spent.resolve p = .ok l := (resolve_beset _ p).trans path
  cases there : t.node? l with
  | none =>
    refine Or.inr (Or.inl ⟨rfl, ?_⟩)
    simp only [unlink, trouble_eq, h, path', same, there]
  | some n =>
    cases n with
    | directory mode =>
      refine Or.inl ⟨mode, rfl, ?_⟩
      simp only [unlink, trouble_eq, h, path', same, there]
    | file mode content =>
      have file := not_isDirectory_of_file (t := t.spent) there
      refine Or.inr (Or.inr ⟨mode, content, t.spent.prune l, rfl, ?_,
        sets_prune (sound_beset _ sound) (ne_nil_of_not_isDirectory file) file⟩)
      simp only [unlink, trouble_eq, h, path', same, there]

end Tree

namespace Directory

open X509
open CertKeeper.Action (Leads start)
open CertKeeper.Tree (IsDirectory Sets)

/-! ### Files to take away -/

inductive Aim where
  | entry (handle : Text)
  | key (id : Text)
deriving DecidableEq

/-- The files that go with entries, in the order in which they go. -/
def aims (es : List Entry) : List Aim :=
  es.flatMap fun e => .entry e.handle :: (e.key?.map Aim.key).toList

/-- What every file runs into. -/
def meets : List Aim → List (Option SystemCode) → List (Aim × Option SystemCode)
  | [], _ => []
  | a :: rest, troubles => (a, troubles.head?.join) :: meets rest troubles.tail

theorem meets_append (as bs : List Aim) (troubles : List (Option SystemCode)) :
    meets (as ++ bs) troubles = meets as troubles ++ meets bs (troubles.drop as.length) := by
  induction as generalizing troubles with
  | nil => rfl
  | cons a as ih =>
    simp only [List.cons_append, meets, ih, List.length_cons]
    rw [← List.drop_one, List.drop_drop, Nat.add_comm]

variable {l : Location} {s s' s'' : State} {as bs : List Aim}

/-- Files were to be taken away.  Those of entries are gone; those of keys are gone where they were
no directories and where one attempt at least ran into nothing, and the others are as they were. -/
structure Cleared (l : Location) (s : State) (as : List Aim) (s' : State) : Prop where
  shelf : s'.Shelf l
  base : s'.base = s.base
  entries : s'.entries = s.entries.filter fun x => .entry x.handle ∉ as
  troubles : s'.tree.troubles = s.tree.troubles.drop as.length
  freed : ∀ id, (.key id, none) ∈ meets as s.tree.troubles →
    ¬ s.tree.IsDirectory (keyAt l id) → s'.tree.node? (keyAt l id) = none
  kept : ∀ id, (.key id, none) ∉ meets as s.tree.troubles ∨ s.tree.IsDirectory (keyAt l id) →
    s'.tree.node? (keyAt l id) = s.tree.node? (keyAt l id)

theorem cleared_nil (h : s.Shelf l) : Cleared l s [] s := by
  refine ⟨h, rfl, ?_, rfl, fun _ impossible => absurd impossible List.not_mem_nil, fun _ _ => rfl⟩
  simp

theorem Cleared.trans (h : Cleared l s as s') (h' : Cleared l s' bs s'') :
    Cleared l s (as ++ bs) s'' := by
  have met : meets (as ++ bs) s.tree.troubles
      = meets as s.tree.troubles ++ meets bs s'.tree.troubles := by
    rw [meets_append, h.troubles]
  refine ⟨h'.shelf, h'.base.trans h.base, ?_, ?_, fun id freed file => ?_, fun id kept => ?_⟩
  · rw [h'.entries, h.entries, List.filter_filter]
    refine List.filter_congr fun x _ => ?_
    simp only [List.mem_append, not_or, Bool.decide_and]
    exact Bool.and_comm _ _
  · rw [h'.troubles, h.troubles, List.drop_drop, List.length_append]
  · rw [met, List.mem_append] at freed
    by_cases first : (.key id, none) ∈ meets as s.tree.troubles
    · have gone := h.freed id first file
      by_cases again : (.key id, none) ∈ meets bs s'.tree.troubles
      · exact h'.freed id again (Tree.not_isDirectory_of_none gone)
      · rw [h'.kept id (Or.inl again), gone]
    · have same := h.kept id (Or.inl first)
      refine h'.freed id (freed.resolve_left first) ?_
      rintro ⟨mode, there⟩
      exact file ⟨mode, same ▸ there⟩
  · rw [met, List.mem_append, not_or] at kept
    have same := h.kept id (kept.imp_left (·.1))
    rw [h'.kept id (kept.imp (·.2) ?_), same]
    rintro ⟨mode, there⟩
    exact ⟨mode, same.trans there⟩

/-! ### One file -/

theorem State.Shelf.beset (h : s.Shelf l) (troubles : List (Option SystemCode))
    (a : Surroundings) : (s.onto (s.tree.beset troubles) a).Shelf l ∧
      (s.onto (s.tree.beset troubles) a).entries = s.entries := by
  have files : (s.onto (s.tree.beset troubles) a).entryFiles = s.entryFiles :=
    Tree.namesEnding_beset troubles s.entriesPath ".json"
  have stored (f : Text) : (s.onto (s.tree.beset troubles) a).stored? f = s.stored? f := by
    simp only [State.stored?, State.onto, Tree.contentAt_beset]
    rfl
  refine ⟨⟨Tree.sound_beset _ h.sound, (Tree.resolve_beset _ _).trans h.base, h.room, h.root,
    h.keys, h.certificates, fun f hf => ?_⟩, ?_⟩
  · obtain ⟨e, reads⟩ := h.entryFiles f (files ▸ hf)
    exact ⟨e, reads.name, (stored f).trans reads.entry, reads.file, reads.keyId⟩
  · change (s.onto (s.tree.beset troubles) a).entryFiles.filterMap _ = s.entryFiles.filterMap _
    rw [files, funext stored]

theorem cleared_entry (h : s.Shelf l) {e : Entry} (stored : e ∈ s.entries)
    (calm : s.tree.ahead = none) :
    ∃ t, s.tree.unlink (s.entryPath e.handle) = (.ok (), t) ∧
      ∀ a, Cleared l s [.entry e.handle] (s.onto t a) := by
  obtain ⟨_, reads⟩ := h.reads_of_mem stored
  obtain ⟨mode, content, there⟩ := h.file_of_reads reads
  have path : s.tree.resolve (s.entryPath e.handle) = .ok (entryAt l (entryFile e.handle)) :=
    h.entryPath reads.name
  rcases Tree.unlink_calm h.sound calm path with ⟨_, directory, _⟩ | ⟨absent, _⟩ |
    ⟨_, _, t, _, unlinked, sets⟩
  · cases there.symm.trans directory
  · cases there.symm.trans absent
  · refine ⟨t, unlinked, fun a => ?_⟩
    obtain ⟨spent, same⟩ := h.beset s.tree.troubles.tail a
    obtain ⟨shelf, entries⟩ := spent.unentry (same ▸ stored) sets
      (Tree.not_isDirectory_of_file there) a
    refine ⟨shelf, rfl, ?_, ?_, fun id freed => ?_, fun id _ => ?_⟩
    · refine entries.trans ?_
      rw [same]
      exact List.filter_congr fun x _ => by simp
    · exact sets.troubles.trans (List.drop_one ..).symm
    · simp [meets] at freed
    · exact sets.other _ fun eq => entryAt_ne_keyAt l _ id eq.symm

theorem start_unlinkPresent_of {r : Run State} {p : Path} (own : p.isUnnameable = false)
    {outcome : Except SystemCode Unit} {t : Tree} (h : r.state.tree.unlink p = (outcome, t)) :
    ∃ o, start (unlinkPresent p) r
        = (.ok o, ⟨r.state.onto t r.state.around, r.journal, r.operation⟩) ∧
      (outcome = .ok () ∨ outcome = .error .noEntry → o = .ok ()) := by
  unfold unlinkPresent
  rw [own]
  simp only [Bool.false_eq_true, if_false]
  rw [Action.start_bind_ok (start_onTree_eq h)]
  cases outcome with
  | ok u => exact ⟨_, rfl, fun _ => rfl⟩
  | error code => cases code <;> exact ⟨_, rfl, by simp⟩

/-- A key whose file stays, and no other one: that it ran into nothing then means that there was
none, or a directory. -/
theorem cleared_spent (h : s.Shelf l) {id : Text}
    (left : s.tree.ahead = none → ¬ s.tree.IsDirectory (keyAt l id) →
      s.tree.node? (keyAt l id) = none) (a : Surroundings) :
    Cleared l s [.key id] (s.onto s.tree.spent a) := by
  obtain ⟨shelf, same⟩ := h.beset s.tree.troubles.tail a
  refine ⟨shelf, rfl, ?_, List.drop_one.symm, fun x freed file => ?_, fun _ _ => rfl⟩
  · refine same.trans ?_
    simp
  · have met : meets [.key id] s.tree.troubles = [(.key id, s.tree.ahead)] := rfl
    rw [met, List.mem_singleton, Prod.mk.injEq, Aim.key.injEq] at freed
    obtain ⟨rfl, calm⟩ := freed
    exact left calm.symm file

theorem start_unlinkKey {r : Run State} (h : r.state.Shelf l)
    (nameable : r.state.base.isUnnameable = false) {id : Text} (key : Book.isKeyId id = true) :
    ∃ t o, start (unlinkPresent (r.state.keyPath id)) r
        = (.ok o, ⟨r.state.onto t r.state.around, r.journal, r.operation⟩) ∧
      Cleared l r.state [.key id] (r.state.onto t r.state.around) ∧
      (r.state.tree.ahead = none → ¬ r.state.tree.IsDirectory (keyAt l id) → o = .ok ()) := by
  have path := h.keyPath key
  have own : (r.state.keyPath id).isUnnameable = false :=
    Path.isUnnameable_join (fileName_keyFile key) (Path.isUnnameable_join fileName_keys nameable)
  cases calm : r.state.tree.ahead with
  | some code =>
    obtain ⟨o, started, _⟩ := start_unlinkPresent_of own (Tree.unlink_troubled calm _)
    exact ⟨_, o, started, cleared_spent h (fun impossible => nomatch calm.symm.trans impossible) _,
      fun impossible => nomatch impossible⟩
  | none =>
    rcases Tree.unlink_calm h.sound calm path with ⟨mode, there, unlinked⟩ | ⟨absent, unlinked⟩ |
      ⟨mode, content, t, there, unlinked, sets⟩
    · obtain ⟨o, started, _⟩ := start_unlinkPresent_of own unlinked
      exact ⟨_, o, started, cleared_spent h (fun _ file => absurd ⟨mode, there⟩ file) _,
        fun _ file => absurd ⟨mode, there⟩ file⟩
    · obtain ⟨o, started, through⟩ := start_unlinkPresent_of own unlinked
      exact ⟨_, o, started, cleared_spent h (fun _ _ => absent) _, fun _ _ => through (Or.inr rfl)⟩
    · obtain ⟨o, started, through⟩ := start_unlinkPresent_of own unlinked
      obtain ⟨spent, same⟩ := h.beset r.state.tree.troubles.tail r.state.around
      have file := Tree.not_isDirectory_of_file there
      obtain ⟨shelf, entries⟩ := spent.apart sets file (fun impossible => absurd rfl impossible)
        (fun f => entryAt_ne_keyAt l f id) r.state.around
      refine ⟨t, o, started, ⟨shelf, rfl, ?_, ?_, fun x freed _ => ?_, fun x kept => ?_⟩,
        fun _ _ => through (Or.inl rfl)⟩
      · refine entries.trans (same.trans ?_)
        simp
      · exact sets.troubles.trans List.drop_one.symm
      · have met : meets [.key id] r.state.tree.troubles = [(.key id, r.state.tree.ahead)] := rfl
        rw [met, List.mem_singleton, Prod.mk.injEq, Aim.key.injEq] at freed
        rw [freed.1]
        exact sets.self
      · by_cases eq : x = id
        · rw [eq] at kept
          have met : meets [.key id] r.state.tree.troubles = [(.key id, none)] :=
            congrArg (fun c => [(Aim.key id, c)]) calm
          rw [met] at kept
          exact (kept.elim (fun out => out List.mem_cons_self) file).elim
        · exact sets.other _ fun same => eq (keyAt_injective same)

/-! ### An entry and its key -/

/-- A deletion whose first file runs into trouble changes nothing and fails; otherwise the entry is
out, whether the deletion fails or not.  It fails then for the key alone. -/
theorem start_delete {r : Run State} (h : r.state.Shelf l)
    (nameable : r.state.base.isUnnameable = false) {e : Entry} (stored : e ∈ r.state.entries) :
    (∃ code f, r.state.tree.ahead = some code ∧ f.failure.isKeyStore = true ∧
      start (delete e) r = (.error f,
        ⟨r.state.onto r.state.tree.spent r.state.around, r.journal, r.operation⟩)) ∨
    (r.state.tree.ahead = none ∧ Cleared l r.state (aims [e]) (start (delete e) r).2.state ∧
      ((start (delete e) r).1 = .ok () ∨
        ∃ f, (start (delete e) r).1 = .error f ∧ f.failure.isKeyStore = true ∧
          ∃ id, e.key? = some id ∧ ((.key id, none) ∉ meets (aims [e]) r.state.tree.troubles ∨
            r.state.tree.IsDirectory (keyAt l id)))) := by
  obtain ⟨_, reads⟩ := h.reads_of_mem stored
  obtain ⟨mode, content, there⟩ := h.file_of_reads reads
  have path : r.state.tree.resolve (r.state.entryPath e.handle)
      = .ok (entryAt l (entryFile e.handle)) := h.entryPath reads.name
  have present : r.state.tree.exists? (r.state.entryPath e.handle) = .ok true := by
    rw [Tree.exists?_eq path, there]
    rfl
  unfold delete
  rw [Action.start_bind_ok (Action.start_read r)]
  simp only [present]
  rw [Action.start_bind_ok (Action.start_ofExcept _ r)]
  simp only [Bool.not_true, Bool.false_eq_true, if_false]
  cases calm : r.state.tree.ahead with
  | some code =>
    rw [Action.start_bind_ok (start_onTree_eq (Tree.unlink_troubled calm _))]
    exact Or.inl ⟨code, _, rfl, rfl, rfl⟩
  | none =>
    refine Or.inr ⟨rfl, ?_⟩
    obtain ⟨t, unlinked, cleared⟩ := cleared_entry h stored calm
    have first := cleared r.state.around
    rw [Action.start_bind_ok (start_onTree_eq unlinked)]
    rcases reads.keyId with null | ⟨id, bound, key⟩
    · have files : aims [e] = [.entry e.handle] := by
        simp [aims, Entry.key?, null, Value.text?]
      simp only [boundKeyPath, null]
      rw [files]
      exact ⟨first, Or.inl rfl⟩
    · have files : aims [e] = [.entry e.handle] ++ [.key id] := by
        simp [aims, Entry.key?, bound, Value.text?]
      obtain ⟨t', o, taken, second, through⟩ :=
        @start_unlinkKey l ⟨r.state.onto t r.state.around, r.journal, r.operation⟩ first.shelf
          nameable id key
      have taken' : start (unlinkPresent (r.state.keyPath id))
          ⟨r.state.onto t r.state.around, r.journal, r.operation⟩ = _ := taken
      simp only [boundKeyPath, bound, Value.spell]
      rw [Action.start_bind_ok taken', files]
      cases o with
      | ok u => exact ⟨first.trans second, Or.inl rfl⟩
      | error f =>
        have own : e.key? = some id := by rw [Entry.key?, bound]; rfl
        refine ⟨first.trans second, Or.inr ⟨_, rfl, rfl, id, own, ?_⟩⟩
        -- With no trouble ahead and a file at its place, the key would have gone.
        by_contra free
        rw [not_or, not_not, meets_append, List.mem_append] at free
        have apart : (Aim.key id, none) ∉ meets [.entry e.handle] r.state.tree.troubles := by
          simp [meets]
        have calm' : (r.state.onto t r.state.around).tree.ahead = none := by
          have met := List.mem_singleton.mp (free.1.resolve_left apart)
          rw [Tree.ahead, first.troubles]
          exact (congrArg Prod.snd met).symm
        have file : ¬ (r.state.onto t r.state.around).tree.IsDirectory (keyAt l id) := by
          rintro ⟨mode, there⟩
          exact free.2 ⟨mode, (first.kept id (Or.inl apart)).symm.trans there⟩
        cases through calm' file

end Directory

end CertKeeper
