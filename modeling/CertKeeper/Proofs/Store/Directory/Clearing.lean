import CertKeeper.Proofs.Store.Directory.Troubled

/-!
# Directories that can be swept

All that a sweep needs of a directory is that its entries can be read and that nothing stands in the
way of taking their files away.  Whether keys can be used plays no part.  Main statement:
`Directory.clears`.
-/

namespace CertKeeper.Directory

open CertKeeper.Action (Leads start)
open CertKeeper.Tree (IsDirectory)

variable {l : Location} {s s' : State} {suite : Suite} {e : Entry}

theorem meets_quiet (as : List Aim) : meets as [] = as.map fun a => (a, none) := by
  induction as with
  | nil => rfl
  | cons a as ih => exact congrArg _ ih

namespace State

/-- A directory whose entries can be read and deleted with their keys. -/
structure Clearable (s : State) (l : Location) : Prop where
  shelf : s.Shelf l
  quiet : s.tree.troubles = []
  nameable : s.base.isUnnameable = false
  keyFiles : ∀ e ∈ s.entries, ∀ id, e.key? = some id → ¬ s.tree.IsDirectory (keyAt l id)

/-- A directory holds the entries and the keys of a book. -/
structure Stocks (s : State) (b : Book) : Prop where
  clearable : ∃ l, s.Clearable l
  sound : b.Sound
  entries : b.entries = s.entries
  held : b.held = s.hasKey

theorem Clearable.stocks (h : s.Clearable l) : s.Stocks (s.book suite) :=
  ⟨⟨l, h⟩, h.shelf.sound_book, rfl, rfl⟩

/-! ### A deletion -/

/-- Without troubles ahead, only the files that go with an entry are taken away. -/
theorem Clearable.node?_of_cleared (h : s.Clearable l) (stored : e ∈ s.entries)
    (cleared : Cleared l s (aims [e]) s') (id : Text) : s'.tree.node? (keyAt l id)
      = if e.key? = some id then none else s.tree.node? (keyAt l id) := by
  have met : (Aim.key id, none) ∈ meets (aims [e]) s.tree.troubles ↔ e.key? = some id := by
    rw [h.quiet, meets_quiet]
    cases key : e.key? <;> simp [aims, key, eq_comm]
  by_cases bound : e.key? = some id
  · rw [if_pos bound]
    exact cleared.freed id (met.mpr bound) (h.keyFiles e stored id bound)
  · rw [if_neg bound]
    exact cleared.kept id (Or.inl fun own => bound (met.mp own))

theorem Clearable.cleared (h : s.Clearable l) (stored : e ∈ s.entries)
    (cleared : Cleared l s (aims [e]) s') : s'.Clearable l := by
  refine ⟨cleared.shelf, ?_, cleared.base ▸ h.nameable, fun x hx id bound => ?_⟩
  · rw [cleared.troubles, h.quiet, List.drop_nil]
  · have before : x ∈ s.entries := by
      rw [cleared.entries] at hx
      exact (List.mem_filter.mp hx).1
    rintro ⟨mode, there⟩
    rw [h.node?_of_cleared stored cleared] at there
    split at there
    · cases there
    · exact h.keyFiles x before id bound ⟨mode, there⟩

theorem Clearable.hasKey_of_cleared (h : s.Clearable l) (stored : e ∈ s.entries)
    (cleared : Cleared l s (aims [e]) s') (id : Text) :
    s'.hasKey id = (s.hasKey id && decide (some id ∉ [e].map Entry.key?)) := by
  cases key : Book.isKeyId id with
  | false => rw [Layout.hasKey_of_not key, Layout.hasKey_of_not key, Bool.false_and]
  | true =>
    rw [cleared.shelf.hasKey_eq key, h.shelf.hasKey_eq key, h.node?_of_cleared stored cleared]
    by_cases bound : e.key? = some id
    · simp [bound]
    · simp [bound, Ne.symm bound]

theorem Stocks.cleared {b : Book} (h : s.Stocks b) (at_l : s.Clearable l) (stored : e ∈ s.entries)
    (cleared : Cleared l s (aims [e]) s') : s'.Stocks (b.remove [e]) := by
  refine ⟨⟨l, at_l.cleared stored cleared⟩, h.sound.remove [e], ?_, funext fun id => ?_⟩
  · rw [cleared.entries, ← h.entries]
    refine List.filter_congr fun x _ => ?_
    cases key : e.key? <;> simp [aims, key]
  · rw [at_l.hasKey_of_cleared stored cleared, ← h.held]
    rfl

end State

theorem leads_delete_clearable {b : Book} (stored : e ∈ b.entries) :
    Leads (State.Stocks · b) (delete e) fun o s => s.Stocks (b.remove [e]) ∧ o = .ok () := by
  intro r h
  obtain ⟨l, at_l⟩ := h.clearable
  rw [h.entries] at stored
  rcases start_delete at_l.shelf at_l.nameable stored with ⟨code, _, trouble, _, _⟩ |
    ⟨_, cleared, ended⟩
  · rw [Tree.ahead, at_l.quiet] at trouble
    cases trouble
  · refine ⟨h.cleared at_l stored cleared, ended.resolve_right ?_⟩
    rintro ⟨_, _, _, id, bound, unmet | directory⟩
    · rw [at_l.quiet, meets_quiet] at unmet
      refine unmet (List.mem_map_of_mem ?_)
      simp [aims, bound]
    · exact at_l.keyFiles e stored id bound directory

variable (suite) in
/-- A store in a directory finds and deletes entries as long as their files can be taken away. -/
theorem clears : (keyStore suite).Clears State.Stocks where
  sound h := h.sound
  horizon {s b} h := by
    obtain ⟨l, at_l⟩ := h.clearable
    rw [h.entries]
    exact Nat.lt_succ_of_le at_l.shelf.length_entries_le
  findByName b name := leads_ask fun s h => by
    obtain ⟨l, at_l⟩ := h.clearable
    rw [Book.first?, h.entries]
    exact ⟨h, at_l.shelf.find_eq name⟩
  delete _ _ stored := leads_delete_clearable stored

end CertKeeper.Directory
