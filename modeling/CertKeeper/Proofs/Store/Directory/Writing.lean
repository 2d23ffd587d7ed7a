import CertKeeper.Proofs.Store.Directory.Contents
import CertKeeper.Proofs.Store.Memory

/-!
# Writing to a directory

Names for new files are free and of their own kind, and a file that is written whole changes
nothing but its own place.  Main statement: `start_writeWhole`.
-/

namespace CertKeeper.Directory

open X509
open CertKeeper.Action (Leads start)
open CertKeeper.Tree (IsDirectory Sets)

variable {fresh : Text → Prop} {suite : Suite} {l : Location} {b : Book}

/-- A store on a directory that it can work in, and what the directory holds. -/
def State.Shows (fresh : Text → Prop) (suite : Suite) (s : State) (b : Book) : Prop :=
  (∃ l, s.Layout fresh l) ∧ s.book suite = b

/-! ### Names for new files -/

/-- Surroundings that are fit for writing: the word for temporary files is a fresh one, and the
handle of the next entry is not in use. -/
structure Ready (fresh : Text → Prop) (b : Book) : Prop where
  token : isToken b.around.token = true
  fresh : fresh b.around.token
  ticks : b.around.ticks.natAbs < 10 ^ 100
  handle : State.nextHandle b.around.ticks b.around.token ∉ b.entries.map Entry.handle

/-- The next entry comes behind all others. -/
def Newest (b : Book) : Prop :=
  ∀ e ∈ b.entries, Tree.textBefore (entryFile e.handle)
    (entryFile (State.nextHandle b.around.ticks b.around.token)) = true

theorem Ready.mono {b b' : Book} (h : Ready fresh b) (fewer : ∀ e ∈ b'.entries, e ∈ b.entries)
    (ticks : b'.around.ticks = b.around.ticks) (token : b'.around.token = b.around.token) :
    Ready fresh b' := by
  refine ⟨token ▸ h.token, token ▸ h.fresh, ticks ▸ h.ticks, ?_⟩
  rw [ticks, token]
  intro member
  obtain ⟨e, he, same⟩ := List.mem_map.mp member
  exact h.handle (List.mem_map.mpr ⟨e, fewer e he, same⟩)

theorem isNamePoint_hexPoint {d : Nat} (h : d < 10) : isNamePoint (Text.hexPoint d) = true := by
  rw [isNamePoint, Text.val_hexPoint h]
  simp only [Bool.or_eq_true, Bool.and_eq_true, decide_eq_true_eq]
  omega

theorem padded_spec (width : Nat) {n : Nat} (h : n < 10 ^ 100) (narrow : width ≤ 100) :
    (Text.padLeft width '0' (Text.decimal n)).all isNamePoint = true ∧
      (Text.padLeft width '0' (Text.decimal n)).length ≤ 100 := by
  have few : (Text.digits 10 n).length ≤ 100 := Text.length_digits_le (by decide) h
  refine ⟨?_, ?_⟩
  · rw [List.all_eq_true]
    intro c hc
    rw [Text.padLeft_decimal, List.mem_map] at hc
    obtain ⟨d, hd, rfl⟩ := hc
    exact isNamePoint_hexPoint (Text.padded_lt width n d hd)
  · rw [Text.padLeft_decimal, List.length_map, Text.padded, List.length_append,
      List.length_replicate]
    omega

theorem nextHandle_ne_nil (ticks : Int) (token : Text) : State.nextHandle ticks token ≠ [] := by
  intro empty
  have long := congrArg List.length empty
  have one : (Text.ofString "-").length = 1 := rfl
  simp only [State.nextHandle, List.length_append, one, List.length_nil] at long
  omega

theorem nextHandle_spec {ticks : Int} {token : Text} (word : isToken token = true)
    (h : ticks.natAbs < 10 ^ 100) :
    (entryFile (State.nextHandle ticks token)).all isNamePoint = true ∧
      6 ≤ (entryFile (State.nextHandle ticks token)).length ∧
      (entryFile (State.nextHandle ticks token)).length ≤ 200 := by
  rw [isToken, Bool.and_eq_true, decide_eq_true_eq] at word
  have short : (token.take 8).length ≤ 8 := by rw [List.length_take]; omega
  have points : (token.take 8).all isNamePoint = true := by
    have all := List.all_eq_true.mp (all_isNamePoint_of_digits word.2)
    exact List.all_eq_true.mpr fun c hc => all c (List.mem_of_mem_take hc)
  have five : (Text.ofString ".json").length = 5 := rfl
  have one : (Text.ofString "-").length = 1 := rfl
  have dash : (Text.ofString "-").all isNamePoint = true := rfl
  have ending : (Text.ofString ".json").all isNamePoint = true := rfl
  obtain ⟨before, length⟩ := padded_spec 19 h (by decide)
  obtain ⟨before', length'⟩ := padded_spec 20 h (by decide)
  unfold entryFile State.nextHandle
  simp only
  split
  · simp only [List.all_append, List.length_append, before, points, dash, ending, one, five]
    exact ⟨rfl, by omega, by omega⟩
  · simp only [List.all_append, List.length_append, before', points, dash, ending, one, five]
    exact ⟨rfl, by omega, by omega⟩

/-- Handles of later ticks are others, and come later. -/
theorem nextHandle_later {t u : Int} (early : 0 ≤ t) (later : t < u) (late : u < 10 ^ 20)
    (token token' : Text) : State.nextHandle t token ≠ State.nextHandle u token' ∧
      Tree.textBefore (entryFile (State.nextHandle t token))
        (entryFile (State.nextHandle u token')) = true := by
  have ht : t.natAbs < 10 ^ 20 := by omega
  have hu : u.natAbs < 10 ^ 20 := by omega
  obtain ⟨p, x, y, s, s', left, right, less⟩ := Text.padLeft_parted ht hu (by omega)
  unfold entryFile State.nextHandle
  simp only [show ¬ t < 0 by omega, show ¬ u < 0 by omega, if_false, left, right, List.append_assoc,
    List.cons_append]
  refine ⟨fun same => ?_, Tree.textBefore_parted _ _ _ less⟩
  have heads := List.append_cancel_left same
  rw [List.cons.injEq] at heads
  rw [heads.1] at less
  exact Nat.lt_irrefl _ less

/-! ### Calls on the tree -/

theorem start_onTree {α : Type} (f : Tree → α × Tree) (r : Run State) :
    start (onTree f) r = (.ok (f r.state.tree).1,
      ⟨r.state.onto (f r.state.tree).2 r.state.around, r.journal, r.operation⟩) := rfl

theorem start_onTree_eq {α : Type} {f : Tree → α × Tree} {r : Run State} {v : α} {t : Tree}
    (h : f r.state.tree = (v, t)) :
    start (onTree f) r = (.ok v, ⟨r.state.onto t r.state.around, r.journal, r.operation⟩) := by
  rw [start_onTree, h]

theorem start_ask {α : Type} (f : State → Except Fault α) (r : Run State) :
    start (ask f) r = (f r.state, r) := by
  rw [ask, Action.start_bind_ok (Action.start_read r), Action.start_ofExcept]

theorem start_ask_ok {α : Type} {f : State → Except Fault α} {r : Run State} {v : α}
    (h : f r.state = .ok v) : start (ask f) r = (.ok v, r) := by
  rw [start_ask, h]

theorem start_ask_error {α : Type} {f : State → Except Fault α} {r : Run State} {e : Fault}
    (h : f r.state = .error e) : start (ask f) r = (.error e, r) := by
  rw [start_ask, h]

theorem start_drawn {α : Type} (f : Surroundings → Except Fault α × Surroundings) (r : Run State) :
    start (drawn f) r = ((f r.state.around).1,
      ⟨r.state.onto r.state.tree (f r.state.around).2, r.journal, r.operation⟩) := by
  rw [drawn, Action.start_bind, Action.start_take]
  exact Action.start_ofExcept _ _

theorem leads_ask {α : Type} {f : State → Except Fault α} {P : State → Prop}
    {Q : Except Fault α → State → Prop} (h : ∀ s, P s → Q (f s) s) : Leads P (ask f) Q := by
  intro r hr
  rw [start_ask]
  exact h r.state hr

theorem withName_temporary {dir : Path} {name token : Text} (own : FileName name)
    (temporary : FileName (temporaryName name token)) :
    (dir.join name).withName ("." ++ (dir.join name).name ++ "." ++ token ++ ".tmp")
      = dir.join (temporaryName name token) := by
  have named : (dir.join name).name = name := by
    rw [Path.join_fileName own, Path.name, List.getLastD_concat]
  rw [named, Path.join_fileName own, Path.join_fileName temporary, Path.withName,
    List.dropLast_concat]
  simp only [temporaryName, temporaryEnding, List.append_assoc]

/-- A file that is written whole is there, and nothing else changed. -/
theorem start_writeWhole {r : Run State} (sound : r.state.tree.Sound)
    (quiet : r.state.tree.troubles = []) {dir : Path} (path : r.state.tree.resolve dir = .ok l)
    (room : Tree.HasRoom dir 256) (directory : r.state.tree.IsDirectory l) {name : Text}
    (own : FileName name) (temporary : FileName (temporaryName name r.state.around.token))
    (free : r.state.tree.node? (l ++ [temporaryName name r.state.around.token]) = none)
    (file : ¬ r.state.tree.IsDirectory (l ++ [name])) (content : Bytes) (mode : Nat) :
    ∃ t, start (writeWhole (dir.join name) content mode) r
        = (.ok (), ⟨r.state.onto t r.state.around, r.journal, r.operation⟩) ∧
      Sets r.state.tree (l ++ [name]) (some (.file mode content)) t := by
  have ne : l ++ [name] ≠ l ++ [temporaryName name r.state.around.token] :=
    fun same => temporaryName_ne (place_injective same)
  have parent : r.state.tree.IsDirectory
      (l ++ [temporaryName name r.state.around.token]).dropLast := by
    rw [List.dropLast_concat]
    exact directory
  obtain ⟨t₁, t₂, t₃, made, filled, moved, sets⟩ :=
    Tree.sets_replace sound quiet (Tree.resolve_join temporary room path directory)
      (Tree.resolve_join own room path directory) free ne file parent mode content
  refine ⟨t₃, ?_, sets⟩
  unfold writeWhole
  rw [Action.start_bind_ok (Action.start_read r)]
  simp only [withName_temporary own temporary]
  rw [Action.start_bind_ok (start_onTree_eq made)]
  simp only
  rw [Action.start_bind_ok (@start_onTree_eq _ _ ⟨r.state.onto t₁ _, _, _⟩ _ _ filled)]
  simp only
  rw [Action.start_bind_ok (@start_onTree_eq _ _ ⟨(r.state.onto t₁ _).onto t₂ _, _, _⟩ _ _ moved)]
  rfl

end CertKeeper.Directory
