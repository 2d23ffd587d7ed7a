import CertKeeper.Files.Tree
import Mathlib.Data.List.Induction
import Mathlib.Data.List.Nodup
import Mathlib.Order.Fin.Basic

/-!
# Changing one file of a tree

In a tree where everything lies in directories, writing, moving and taking away a file changes the
node at one location and nothing else.  Main statements: `sets_replace` for a file that is written
beside its place and moved there, and `sets_unlink` for a file that is taken away.
-/

namespace CertKeeper

/-! ### Names of files -/

/-- A name that leads to a place of its own in a directory. -/
structure FileName (n : Text) : Prop where
  filled : n ≠ []
  here : n ≠ [CodePoint.ofChar '.']
  up : n ≠ Text.ofString ".."
  slash : Path.slash ∉ n
  nameable : n.any Path.isBarred = false
  short : Tree.isLong n = false

namespace Path

theorem splitOn_of_not_mem {sep : CodePoint} {t : Text} (h : sep ∉ t) :
    Text.splitOn sep t = [t] := by
  induction t with
  | nil => rfl
  | cons c t ih =>
    rw [List.mem_cons, not_or] at h
    rw [Text.splitOn, ih h.2]
    simp only [if_neg (Ne.symm h.1)]

theorem join_fileName {n : Text} (h : FileName n) (p : Path) :
    p.join n = ⟨p.root, p.parts ++ [n]⟩ := by
  have start : n.head? ≠ some slash := by
    intro head
    exact h.slash (List.mem_of_mem_head? head)
  have parts : partsOf n = [n] := by
    rw [partsOf, splitOn_of_not_mem h.slash, List.filter_cons_of_pos, List.filter_nil]
    exact decide_eq_true ⟨h.filled, h.here⟩
  rw [join, if_neg start, parts]

theorem isUnnameable_join {n : Text} (h : FileName n) {p : Path} (own : p.isUnnameable = false) :
    (p.join n).isUnnameable = false := by
  rw [join_fileName h, isUnnameable, List.any_append]
  change (p.isUnnameable || _) = false
  rw [own, Bool.false_or, List.any_cons, h.nameable, List.any_nil, Bool.or_false]

end Path

namespace Tree

variable {t t' : Tree} {l m : Location}

/-! ### Directories -/

def IsDirectory (t : Tree) (l : Location) : Prop := ∃ mode, t.node? l = some (.directory mode)

/-- Every node lies in a directory, and no location has two nodes. -/
structure Sound (t : Tree) : Prop where
  nodup : (t.nodes.map Prod.fst).Nodup
  parents : ∀ {l}, l ≠ [] → (t.node? l).isSome = true → t.IsDirectory l.dropLast

theorem walk_of_directories (kept : ∀ l, t.IsDirectory l → t'.IsDirectory l) {ps : List Text}
    {here l : Location} (h : t.walk here ps = .ok l) : t'.walk here ps = .ok l := by
  induction ps generalizing here with
  | nil => exact h
  | cons n ps ih =>
    rw [walk] at h ⊢
    simp only at h ⊢
    split at h
    · cases h
    next short =>
    rw [if_neg short]
    split at h
    · next last => rw [if_pos last]; exact h
    next more =>
    rw [if_neg more]
    -- On the way the walk has met directories only, and those are still there.
    split at h
    · cases h
    · cases h
    next mode directory =>
    obtain ⟨mode', still⟩ := kept _ ⟨mode, directory⟩
    simp only [still]
    exact ih h

/-! ### Long paths -/

theorem byteCount_append (t u : Text) : byteCount (t ++ u) = byteCount t + byteCount u := by
  induction t with
  | nil => exact (Nat.zero_add _).symm
  | cons c t ih => rw [List.cons_append, byteCount, byteCount, ih, Nat.add_assoc]

theorem byteCount_le_of_fileName {n : Text} (name : FileName n) : byteCount n ≤ 255 := by
  have short := name.short
  rw [isLong, decide_eq_false_iff_not] at short
  exact Nat.not_lt.mp short

/-- A path can go on for a number of bytes. -/
def HasRoom (p : Path) (n : Nat) : Prop := byteCount p.spell + n ≤ pathLimit

instance (p : Path) (n : Nat) : Decidable (HasRoom p n) :=
  inferInstanceAs (Decidable (_ ≤ _))

theorem hasRoom_base {p : Path} (room : HasRoom p 512) : HasRoom p 256 :=
  Nat.le_trans (Nat.add_le_add_left (by decide) _) room

theorem byteCount_join_concat (ps : List Text) (n : Text) :
    byteCount (Text.join [Path.slash] (ps ++ [n])) ≤
      byteCount (Text.join [Path.slash] ps) + 1 + byteCount n := by
  induction ps with
  | nil =>
    change byteCount n ≤ _
    omega
  | cons p ps ih =>
    have one : byteCount [Path.slash] = 1 := rfl
    cases ps with
    | nil =>
      change byteCount (p ++ [Path.slash] ++ n) ≤ byteCount p + 1 + byteCount n
      rw [byteCount_append, byteCount_append, one]
    | cons q ps =>
      change byteCount (p ++ [Path.slash] ++ Text.join [Path.slash] (q :: ps ++ [n])) ≤
        byteCount (p ++ [Path.slash] ++ Text.join [Path.slash] (q :: ps)) + 1 + byteCount n
      rw [byteCount_append, byteCount_append _ (Text.join _ _)]
      omega

theorem byteCount_spell_concat (root : Option Text) (ps : List Text) (n : Text) :
    byteCount (Path.spell ⟨root, ps ++ [n]⟩) ≤
      byteCount (Path.spell ⟨root, ps⟩) + 1 + byteCount n := by
  have more : (ps ++ [n]).isEmpty = false := by simp
  have joined := byteCount_join_concat ps n
  have one : byteCount [Path.slash] = 1 := rfl
  cases root with
  | none =>
    simp only [Path.spell, more, Bool.false_eq_true, if_false]
    split
    · next none_ =>
      rw [List.isEmpty_iff.mp none_] at joined ⊢
      exact Nat.le_trans joined (Nat.add_le_add_right (Nat.add_le_add_right (Nat.zero_le _) _) _)
    · exact joined
  | some r =>
    simp only [Path.spell, more, Bool.false_eq_true, false_and, if_false, byteCount_append, one]
    split
    · next only =>
      rw [List.isEmpty_iff.mp only.1]
      change byteCount r + 1 + byteCount n ≤ byteCount r + 1 + byteCount n
      exact Nat.le_refl _
    · simp only [byteCount_append, one]
      omega

theorem HasRoom.join {p : Path} {n : Text} {k : Nat} (room : HasRoom p (k + 256))
    (name : FileName n) : HasRoom (p.join n) k := by
  have more := byteCount_spell_concat p.root p.parts n
  have short := byteCount_le_of_fileName name
  rw [Path.join_fileName name, HasRoom]
  unfold HasRoom at room
  change _ ≤ byteCount p.spell + 1 + byteCount n at more
  omega

theorem resolve_eq_walk {p : Path} (room : HasRoom p 0) : t.resolve p = t.walk [] p.parts :=
  if_neg (Nat.not_lt.mpr room)

theorem walk_of_resolve {p : Path} (h : t.resolve p = .ok l) :
    HasRoom p 0 ∧ t.walk [] p.parts = .ok l := by
  rw [resolve] at h
  split at h
  · cases h
  · next short => exact ⟨Nat.not_lt.mp short, h⟩

theorem resolve_of_directories (kept : ∀ l, t.IsDirectory l → t'.IsDirectory l) {p : Path}
    (h : t.resolve p = .ok l) : t'.resolve p = .ok l := by
  obtain ⟨room, walked⟩ := walk_of_resolve h
  rw [resolve_eq_walk room]
  exact walk_of_directories kept walked

theorem walk_concat {n : Text} (name : FileName n) (directory : t.IsDirectory l) {ps : List Text}
    {here : Location} (h : t.walk here ps = .ok l) : t.walk here (ps ++ [n]) = .ok (l ++ [n]) := by
  have short : ¬ isLong n = true := by rw [name.short]; decide
  induction ps generalizing here with
  | nil =>
    cases h
    rw [List.nil_append, walk, if_neg short]
    simp only [List.isEmpty_nil, if_true, name.up, if_false]
  | cons m ps ih =>
    rw [List.cons_append]
    rw [walk] at h ⊢
    simp only at h ⊢
    split at h
    · cases h
    next fits =>
    rw [if_neg fits]
    have more : (ps ++ [n]).isEmpty = false := by simp
    rw [more]
    split at h
    · next last =>
      cases h
      rw [List.isEmpty_iff] at last
      subst last
      obtain ⟨mode, there⟩ := directory
      rw [there]
      simp only [Bool.false_eq_true, if_false]
      exact ih rfl
    · split at h
      · cases h
      · cases h
      · simp only [Bool.false_eq_true, if_false]
        exact ih h

/-- Where the names of a path lead if it leads anywhere: two dots go up. -/
def goal (p : Path) : Location :=
  p.parts.foldl (fun here n => if n = Text.ofString ".." then here.dropLast else here ++ [n]) []

/-- A path leads nowhere else than to its goal. -/
theorem goal_of_resolve {p : Path} (h : t.resolve p = .ok l) : goal p = l := by
  have follows : ∀ (ps : List Text) (here : Location), t.walk here ps = .ok l →
      ps.foldl (fun here n => if n = Text.ofString ".." then here.dropLast else here ++ [n]) here
        = l := by
    intro ps
    induction ps with
    | nil => exact fun here h => Except.ok.inj h
    | cons n ps ih =>
      intro here h
      rw [walk] at h
      simp only at h
      split at h
      · cases h
      split at h
      · next last =>
        rw [List.isEmpty_iff.mp last]
        exact Except.ok.inj h
      split at h
      · cases h
      · cases h
      · exact ih _ h
  exact follows p.parts [] (walk_of_resolve h).2

theorem resolve_join {p : Path} {n : Text} (name : FileName n) (room : HasRoom p 256)
    (h : t.resolve p = .ok l) (directory : t.IsDirectory l) :
    t.resolve (p.join n) = .ok (l ++ [n]) := by
  rw [resolve_eq_walk (room.join name), Path.join_fileName name]
  exact walk_concat name directory (walk_of_resolve h).2

/-- What is listed at a location; the root need not be. -/
def listed? (t : Tree) (l : Location) : Option Node :=
  (t.nodes.find? fun n => n.1 = l).map Prod.snd

theorem listed?_eq (filled : l ≠ []) : t.listed? l = t.node? l := by
  rw [node?, List.isEmpty_eq_false_iff.mpr filled]
  rfl

theorem isDirectory_of_listed {mode : Nat} (h : t.listed? l = some (.directory mode)) :
    t.IsDirectory l := by
  by_cases root : l = []
  · rw [root]
    exact ⟨0o755, rfl⟩
  · exact ⟨mode, (listed?_eq root).symm.trans h⟩

theorem put_listed {n : Node} (h : t.listed? l = some n) : t.put l n = t := by
  have same : ∀ ns : List (Location × Node),
      (ns.find? fun m => m.1 = l).map Prod.snd = some n → putNode l n ns = ns := by
    intro ns
    induction ns with
    | nil => exact fun impossible => nomatch impossible
    | cons m rest ih =>
      intro found
      rw [putNode]
      by_cases at_l : m.1 = l
      · simp only [List.find?_cons, decide_eq_true at_l, Option.map_some,
          Option.some.injEq] at found
        rw [if_pos at_l, ← at_l, ← found]
      · simp only [List.find?_cons, decide_eq_false at_l] at found
        rw [if_neg at_l, ih found]
  rw [put, same t.nodes h]

theorem listed?_put_self (t : Tree) (l : Location) (n : Node) :
    (t.put l n).listed? l = some n := find?_putNode_self l n t.nodes

theorem listed?_put_other (t : Tree) (n : Node) (h : m ≠ l) :
    (t.put l n).listed? m = t.listed? m := by
  rw [listed?, put, find?_putNode_other h, listed?]

/-! ### Setting one node -/

/-- Nothing but one location is different. -/
structure Sets (t : Tree) (l : Location) (n : Option Node) (t' : Tree) : Prop where
  self : t'.node? l = n
  other : ∀ m, m ≠ l → t'.node? m = t.node? m
  troubles : t'.troubles = t.troubles
  barred : t'.barred = t.barred
  nodup : (t.nodes.map Prod.fst).Nodup → (t'.nodes.map Prod.fst).Nodup
  root : t'.listed? [] = t.listed? []

theorem Sets.listed? {n : Option Node} (h : Sets t l n t') (ne : m ≠ l) :
    t'.listed? m = t.listed? m := by
  by_cases root : m = []
  · rw [root, h.root]
  · rw [listed?_eq root, listed?_eq root, h.other m ne]

theorem isDirectory_nil (t : Tree) : t.IsDirectory [] := ⟨0o755, rfl⟩

theorem Sets.keeps_directory {n : Option Node} (h : Sets t l n t') (file : ¬ t.IsDirectory l) :
    ∀ m, t.IsDirectory m → t'.IsDirectory m := by
  intro m directory
  have ne : m ≠ l := fun same => file (same ▸ directory)
  obtain ⟨mode, there⟩ := directory
  exact ⟨mode, by rw [h.other m ne, there]⟩

theorem Sets.sound {n : Option Node} (h : Sets t l n t') (sound : t.Sound)
    (file : ¬ t.IsDirectory l) (parent : n ≠ none → t.IsDirectory l.dropLast) : t'.Sound := by
  refine ⟨h.nodup sound.nodup, ?_⟩
  intro m filled there
  have kept := h.keeps_directory file
  by_cases same : m = l
  · rw [same]
    refine kept _ (parent ?_)
    intro gone
    rw [same, h.self, gone] at there
    cases there
  · rw [h.other m same] at there
    exact kept _ (sound.parents filled there)

theorem Sets.trans {n n' : Option Node} {u : Tree} (h : Sets t l n t') (h' : Sets t' l n' u) :
    Sets t l n' u where
  self := h'.self
  other m ne := (h'.other m ne).trans (h.other m ne)
  troubles := h'.troubles.trans h.troubles
  barred := h'.barred.trans h.barred
  nodup first := h'.nodup (h.nodup first)
  root := h'.root.trans h.root

theorem map_fst_putNode (l : Location) (n : Node) (ns : List (Location × Node)) :
    (putNode l n ns).map Prod.fst = if l ∈ ns.map Prod.fst then ns.map Prod.fst
      else ns.map Prod.fst ++ [l] := by
  induction ns with
  | nil => rfl
  | cons m rest ih =>
    rw [putNode]
    by_cases same : m.1 = l
    · simp [same]
    · rw [if_neg same, List.map_cons, ih]
      by_cases member : l ∈ rest.map Prod.fst
      · simp only [List.map_cons, List.mem_cons, member, or_true, if_true]
      · simp only [List.map_cons, List.mem_cons, Ne.symm same, member, or_self,
          if_false, List.cons_append]

theorem sets_put (filled : l ≠ []) (n : Node) : Sets t l (some n) (t.put l n) where
  self := node?_put_self t l n filled
  other m ne := node?_put_other t n ne
  troubles := rfl
  barred := rfl
  nodup first := by
    rw [put, map_fst_putNode]
    split
    · exact first
    · next new =>
      rw [← List.concat_eq_append, List.nodup_concat]
      exact ⟨new, first⟩
  root := listed?_put_other t n (Ne.symm filled)

theorem node?_eq_none_below (sound : t.Sound) (file : ¬ t.IsDirectory l) {ns : List Text}
    (below : ns ≠ []) : t.node? (l ++ ns) = none := by
  induction ns using List.reverseRecOn with
  | nil => exact absurd rfl below
  | append_singleton ns n ih =>
    by_contra some_
    have there : (t.node? (l ++ (ns ++ [n]))).isSome = true := by
      rw [Option.isSome_iff_ne_none]
      exact some_
    have parent := sound.parents (by simp) there
    rw [← List.append_assoc, List.dropLast_concat] at parent
    by_cases last : ns = []
    · rw [last, List.append_nil] at parent
      exact file parent
    · obtain ⟨mode, above⟩ := parent
      rw [ih last] at above
      cases above

theorem listed?_prune (apart : l.isPrefixOf m = false) : (t.prune l).listed? m = t.listed? m := by
  rw [listed?, prune, List.find?_filter, listed?]
  congr 2
  funext n
  by_cases at_m : n.1 = m
  · rw [at_m]
    simp [apart]
  · simp [at_m]

theorem sets_prune (sound : t.Sound) (filled : l ≠ []) (file : ¬ t.IsDirectory l) :
    Sets t l none (t.prune l) where
  self := by
    have empty : l.isEmpty = false := List.isEmpty_eq_false_iff.mpr filled
    have gone : (t.nodes.filter fun n => !l.isPrefixOf n.1).find? (fun n => n.1 = l) = none := by
      rw [List.find?_eq_none]
      intro n hn at_l
      have kept := (List.mem_filter.mp hn).2
      rw [of_decide_eq_true at_l, List.isPrefixOf_iff_prefix.mpr (List.prefix_refl l)] at kept
      cases kept
    simp only [node?, empty, prune, gone, Bool.false_eq_true, if_false, Option.map_none]
  other m ne := by
    by_cases root : m = []
    · rw [root]
      rfl
    have some_ : m.isEmpty = false := List.isEmpty_eq_false_iff.mpr root
    by_cases inside : l.isPrefixOf m = true
    · obtain ⟨ns, rfl⟩ := List.isPrefixOf_iff_prefix.mp inside
      have below : ns ≠ [] := fun nil => ne (by rw [nil, List.append_nil])
      have nothing := node?_eq_none_below sound file below
      rw [nothing]
      have absent : (t.nodes.filter fun n => !l.isPrefixOf n.1).find? (fun n => n.1 = l ++ ns)
          = none := by
        rw [List.find?_eq_none]
        intro n hn at_m
        have kept := (List.mem_filter.mp hn).2
        rw [of_decide_eq_true at_m, inside] at kept
        cases kept
      simp only [node?, some_, prune, absent, Bool.false_eq_true, if_false, Option.map_none]
    · rw [← listed?_eq root, ← listed?_eq root, listed?_prune (Bool.eq_false_iff.mpr inside)]
  troubles := rfl
  barred := rfl
  nodup first := first.sublist (List.filter_sublist.map _)
  root := by
    refine listed?_prune ?_
    cases l with
    | nil => exact absurd rfl filled
    | cons n l => rfl

/-! ### Calls that work -/

section Calls

variable {p : Path}

theorem not_isDirectory_of_none (h : t.node? l = none) : ¬ t.IsDirectory l := by
  rintro ⟨mode, there⟩
  rw [h] at there
  cases there

theorem not_isDirectory_of_file {mode : Nat} {content : Bytes}
    (h : t.node? l = some (.file mode content)) : ¬ t.IsDirectory l := by
  rintro ⟨mode', there⟩
  rw [h] at there
  cases there

theorem ne_nil_of_not_isDirectory (h : ¬ t.IsDirectory l) : l ≠ [] := by
  rintro rfl
  exact h t.isDirectory_nil

theorem trouble_of_quiet (quiet : t.troubles = []) : t.trouble = (none, t) := by
  rw [trouble, quiet]

theorem create_free (quiet : t.troubles = []) (path : t.resolve p = .ok l)
    (free : t.node? l = none) (mode : Nat) :
    t.create p mode = (.ok (), t.put l (.file mode [])) := by
  simp only [create, trouble_of_quiet quiet, path, free]

theorem fill_file (quiet : t.troubles = []) (path : t.resolve p = .ok l) {mode : Nat}
    {old : Bytes} (there : t.node? l = some (.file mode old)) (content : Bytes) :
    t.fill p content = (.ok (), t.put l (.file mode content)) := by
  simp only [fill, trouble_of_quiet quiet, path, there]

theorem replace_file (quiet : t.troubles = []) {q : Path} (source : t.resolve p = .ok l)
    (target : t.resolve q = .ok m) {n : Node} (there : t.node? l = some n)
    (file : ¬ t.IsDirectory m) : t.replace p q = (.ok (), (t.prune l).put m n) := by
  simp only [replace, trouble_of_quiet quiet, source, target, there]
  cases old : t.node? m with
  | none => rfl
  | some other =>
    cases other with
    | file _ _ => rfl
    | directory mode => exact absurd ⟨mode, old⟩ file

theorem unlink_file (quiet : t.troubles = []) (path : t.resolve p = .ok l) {mode : Nat}
    {content : Bytes} (there : t.node? l = some (.file mode content)) :
    t.unlink p = (.ok (), t.prune l) := by
  simp only [unlink, trouble_of_quiet quiet, path, there]

theorem unlink_none (quiet : t.troubles = []) (path : t.resolve p = .ok l)
    (gone : t.node? l = none) : t.unlink p = (.error .noEntry, t) := by
  simp only [unlink, trouble_of_quiet quiet, path, gone]

/-- A file that is taken away is gone, and nothing else is. -/
theorem sets_unlink (sound : t.Sound) (quiet : t.troubles = []) (path : t.resolve p = .ok l)
    {mode : Nat} {content : Bytes} (there : t.node? l = some (.file mode content)) :
    ∃ t', t.unlink p = (.ok (), t') ∧ Sets t l none t' := by
  have file := not_isDirectory_of_file there
  exact ⟨_, unlink_file quiet path there,
    sets_prune sound (ne_nil_of_not_isDirectory file) file⟩

/-- A file that is written beside its place and moved there is there, and nothing else changed. -/
theorem sets_replace (sound : t.Sound) (quiet : t.troubles = []) {q : Path}
    (source : t.resolve p = .ok l) (target : t.resolve q = .ok m) (free : t.node? l = none)
    (ne : m ≠ l) (file : ¬ t.IsDirectory m) (parent : t.IsDirectory l.dropLast) (mode : Nat)
    (content : Bytes) :
    ∃ t₁ t₂ t₃, t.create p mode = (.ok (), t₁) ∧ t₁.fill p content = (.ok (), t₂) ∧
      t₂.replace p q = (.ok (), t₃) ∧ Sets t m (some (.file mode content)) t₃ := by
  have new := not_isDirectory_of_none free
  have filled := ne_nil_of_not_isDirectory new
  have made := sets_put (t := t) filled (.file mode [])
  have kept₁ := made.keeps_directory new
  have sound₁ := made.sound sound new fun _ => parent
  have quiet₁ := made.troubles.trans quiet
  have source₁ := resolve_of_directories kept₁ source
  have file₁ := not_isDirectory_of_file made.self
  have wrote := sets_put (t := t.put l (.file mode [])) filled (.file mode content)
  have kept₂ := wrote.keeps_directory file₁
  have sound₂ := wrote.sound sound₁ file₁ fun _ => kept₁ _ parent
  have quiet₂ := wrote.troubles.trans quiet₁
  have both := made.trans wrote
  have target₂ := resolve_of_directories kept₂ (resolve_of_directories kept₁ target)
  have fileAt : ¬ ((t.put l (.file mode [])).put l (.file mode content)).IsDirectory m := by
    rintro ⟨mode', there⟩
    rw [both.other m ne] at there
    exact file ⟨mode', there⟩
  have pruned := sets_prune sound₂ filled (not_isDirectory_of_file wrote.self)
  have placed := sets_put (t := ((t.put l (.file mode [])).put l (.file mode content)).prune l)
    (ne_nil_of_not_isDirectory file) (.file mode content)
  refine ⟨_, _, _, create_free quiet source free mode,
    fill_file quiet₁ source₁ made.self content,
    replace_file quiet₂ (resolve_of_directories kept₂ source₁) target₂ wrote.self fileAt,
    placed.self, ?_, quiet₂.trans quiet.symm,
    placed.barred.trans (pruned.barred.trans both.barred), fun first =>
      placed.nodup (pruned.nodup (both.nodup first)),
    placed.root.trans (pruned.root.trans both.root)⟩
  intro x hx
  rw [placed.other x hx]
  by_cases at_l : x = l
  · rw [at_l, pruned.self, free]
  · rw [pruned.other x at_l, both.other x at_l]

theorem makeDirectories_free (path : t.resolve p = .ok l) (free : t.node? l = none) (depth : Nat) :
    t.makeDirectories p depth = .ok (t.put l (.directory 0o755)) := by
  have made : t.makeDirectory p = .ok (t.put l (.directory 0o755)) := by
    simp only [makeDirectory, path, bind, Except.bind, free]
  cases depth with
  | zero => rw [makeDirectories, made]; rfl
  | succ depth => rw [makeDirectories, made]

theorem makeDirectories_present (path : t.resolve p = .ok l) (directory : t.IsDirectory l)
    (depth : Nat) : t.makeDirectories p (depth + 1) = .ok t := by
  obtain ⟨mode, there⟩ := directory
  have made : t.makeDirectory p = .error .fileExists := by
    simp only [makeDirectory, path, bind, Except.bind, there]
  have present : t.isDirectory p = .ok true := by
    have found : t.stat p = .ok (.directory mode) := by
      simp only [stat, path, bind, Except.bind, there]
    rw [isDirectory, found]
    rfl
  simp only [makeDirectories, made, present]

theorem setMode_directory (path : t.resolve p = .ok l) (directory : t.IsDirectory l) (mode : Nat) :
    t.setMode p mode = .ok (t.put l (.directory mode)) := by
  obtain ⟨mode', there⟩ := directory
  simp only [setMode, path, bind, Except.bind, there]
  rfl

theorem put_directory (sound : t.Sound) (directory : t.IsDirectory l) (mode : Nat) :
    (t.put l (.directory mode)).Sound ∧
      ∀ m, (t.put l (.directory mode)).IsDirectory m ↔ t.IsDirectory m := by
  obtain ⟨mode', there⟩ := directory
  have still : (t.put l (.directory mode)).IsDirectory l := by
    by_cases root : l = []
    · rw [root]
      exact isDirectory_nil _
    · exact ⟨mode, node?_put_self t l _ root⟩
  have same : ∀ m, (t.put l (.directory mode)).IsDirectory m ↔ t.IsDirectory m := by
    intro m
    by_cases at_l : m = l
    · rw [at_l]
      exact ⟨fun _ => ⟨mode', there⟩, fun _ => still⟩
    · unfold IsDirectory
      rw [node?_put_other t _ at_l]
  refine ⟨⟨?_, ?_⟩, same⟩
  · rw [put, map_fst_putNode]
    split
    · exact sound.nodup
    · next new =>
      rw [← List.concat_eq_append, List.nodup_concat]
      exact ⟨new, sound.nodup⟩
  · intro m filled present
    rw [same]
    refine sound.parents filled ?_
    by_cases at_l : m = l
    · rw [at_l, there]
      rfl
    · rw [← node?_put_other t (.directory mode) at_l]
      exact present

end Calls

/-! ### What is read -/

section Reading

variable {p : Path}

theorem stat_eq (path : t.resolve p = .ok l) : t.stat p = match t.node? l with
    | some n => .ok n
    | none => .error .noEntry := by
  rw [stat, path]
  rfl

theorem exists?_eq (path : t.resolve p = .ok l) : t.exists? p = .ok (t.node? l).isSome := by
  rw [exists?, stat_eq path]
  cases t.node? l with
  | none => rfl
  | some n => rfl

theorem isDirectory_iff (path : t.resolve p = .ok l) :
    t.isDirectory p = .ok true ↔ t.IsDirectory l := by
  rw [isDirectory, stat_eq path, IsDirectory]
  cases t.node? l with
  | none => simp [isAbsent, isAbsence]
  | some n => cases n <;> simp [Node.isDirectory]

theorem contentAt_file (path : t.resolve p = .ok l) {mode : Nat} {content : Bytes}
    (there : t.node? l = some (.file mode content)) : t.contentAt p = .ok content := by
  rw [contentAt, stat_eq path, there]
  rfl

theorem stat_congr (path : t.resolve p = .ok l) (path' : t'.resolve p = .ok l)
    (same : t'.node? l = t.node? l) : t'.stat p = t.stat p := by
  rw [stat_eq path, stat_eq path', same]

theorem contentAt_congr (path : t.resolve p = .ok l) (path' : t'.resolve p = .ok l)
    (same : t'.node? l = t.node? l) : t'.contentAt p = t.contentAt p := by
  rw [contentAt, contentAt, stat_congr path path' same]

theorem exists?_congr (path : t.resolve p = .ok l) (path' : t'.resolve p = .ok l)
    (same : t'.node? l = t.node? l) : t'.exists? p = t.exists? p := by
  rw [exists?, exists?, stat_congr path path' same]

theorem isWritable_directory (path : t.resolve p = .ok l) (directory : t.IsDirectory l) :
    t.isWritable p = !t.barred.contains l := by
  obtain ⟨mode, there⟩ := directory
  simp only [isWritable, path, there, Option.isSome_some, Bool.true_and]

end Reading

/-! ### Names in a directory -/

theorem eq_of_named {k : Location} {n : Text}
    (h : (if k.length = l.length + 1 ∧ k.dropLast = l then k.getLast? else none) = some n) :
    k = l ++ [n] := by
  split at h
  · next inside =>
    have some_ : k ≠ [] := by
      rintro rfl
      cases h
    rw [List.getLast?_eq_some_getLast some_] at h
    rw [← List.dropLast_append_getLast some_, inside.2, Option.some.inj h]
  · cases h

theorem mem_names {n : Text} : n ∈ t.names l ↔ (t.node? (l ++ [n])).isSome = true := by
  have filled : (l ++ [n]).isEmpty = false := by simp
  have found : (t.node? (l ++ [n])).isSome = true ↔ ∃ x ∈ t.nodes, x.1 = l ++ [n] := by
    simp only [node?, filled, Bool.false_eq_true, if_false, Option.isSome_map,
      List.isSome_find?, List.any_eq_true, decide_eq_true_eq]
  rw [found, names, List.mem_filterMap]
  constructor
  · rintro ⟨x, hx, h⟩
    exact ⟨x, hx, eq_of_named h⟩
  · rintro ⟨x, hx, at_n⟩
    refine ⟨x, hx, ?_⟩
    rw [if_pos (by rw [at_n]; simp), at_n, List.getLast?_concat]

theorem nodup_names (nodup : (t.nodes.map Prod.fst).Nodup) (l : Location) : (t.names l).Nodup := by
  unfold names
  rw [List.Nodup, List.pairwise_filterMap]
  rw [List.Nodup, List.pairwise_map] at nodup
  refine nodup.imp ?_
  intro x y ne n hn m hm same
  exact ne (by rw [eq_of_named hn, eq_of_named hm, same])

/-! ### The order of names -/

theorem textBefore_cons {x y : CodePoint} {a b : Text} :
    textBefore (x :: a) (y :: b) = true ↔ x.val < y.val ∨ x = y ∧ textBefore a b = true := by
  rw [textBefore]
  split
  next same => simp [same]
  next other => simp [other]

/-- Texts that go apart are in the order of the points where they do. -/
theorem textBefore_parted (p a b : Text) {x y : CodePoint} (less : x.val < y.val) :
    textBefore (p ++ x :: a) (p ++ y :: b) = true := by
  induction p with
  | nil => exact textBefore_cons.mpr (Or.inl less)
  | cons z p ih => exact textBefore_cons.mpr (Or.inr ⟨rfl, ih⟩)

theorem textBefore_trans (a b c : Text) (h : textBefore a b = true) (h' : textBefore b c = true) :
    textBefore a c = true := by
  induction a generalizing b c with
  | nil => rw [textBefore]
  | cons x a ih =>
    cases b with
    | nil => cases h
    | cons y b =>
      cases c with
      | nil => cases h'
      | cons z c =>
        refine textBefore_cons.mpr ?_
        rcases textBefore_cons.mp h with less | ⟨rfl, rest⟩
        · rcases textBefore_cons.mp h' with less' | ⟨rfl, _⟩
          · exact Or.inl (Nat.lt_trans less less')
          · exact Or.inl less
        · rcases textBefore_cons.mp h' with less' | ⟨rfl, rest'⟩
          · exact Or.inl less'
          · exact Or.inr ⟨rfl, ih b c rest rest'⟩

theorem textBefore_total (a b : Text) : (textBefore a b || textBefore b a) = true := by
  induction a generalizing b with
  | nil => rw [textBefore, Bool.true_or]
  | cons x a ih =>
    cases b with
    | nil => rfl
    | cons y b =>
      rw [Bool.or_eq_true, textBefore_cons, textBefore_cons]
      rcases Nat.lt_trichotomy x.val y.val with less | same | more
      · exact Or.inl (Or.inl less)
      · obtain rfl := Fin.ext same
        rcases Bool.or_eq_true_iff.mp (ih b) with rest | rest
        · exact Or.inl (Or.inr ⟨rfl, rest⟩)
        · exact Or.inr (Or.inr ⟨rfl, rest⟩)
      · exact Or.inr (Or.inl more)

theorem textBefore_antisymm {a b : Text} (h : textBefore a b = true) (h' : textBefore b a = true) :
    a = b := by
  induction a generalizing b with
  | nil =>
    cases b with
    | nil => rfl
    | cons y b => cases h'
  | cons x a ih =>
    cases b with
    | nil => cases h
    | cons y b =>
      rcases textBefore_cons.mp h with less | ⟨rfl, rest⟩
      · rcases textBefore_cons.mp h' with less' | ⟨rfl, _⟩
        · exact absurd less (Nat.lt_asymm less')
        · exact absurd less (Nat.lt_irrefl _)
      · rcases textBefore_cons.mp h' with less' | ⟨_, rest'⟩
        · exact absurd less' (Nat.lt_irrefl _)
        · rw [ih rest rest']

theorem eq_of_mem_iff {as bs : List Text} (ha : as.Pairwise (textBefore · ·))
    (hb : bs.Pairwise (textBefore · ·)) (na : as.Nodup) (nb : bs.Nodup)
    (same : ∀ n, n ∈ as ↔ n ∈ bs) : as = bs :=
  ((List.perm_ext_iff_of_nodup na nb).mpr same).eq_of_pairwise
    (fun _ _ _ _ h h' => textBefore_antisymm h h') ha hb

/-- Where one name has come into a list in order, the others stand around it as they did. -/
theorem split_of_mem_iff {as bs : List Text} {n : Text} (ha : as.Pairwise (textBefore · ·))
    (hb : bs.Pairwise (textBefore · ·)) (na : as.Nodup) (nb : bs.Nodup) (absent : n ∉ bs)
    (same : ∀ m, m ∈ as ↔ m = n ∨ m ∈ bs) :
    ∃ before after, as = before ++ n :: after ∧ bs = before ++ after ∧
      ∀ m ∈ after, textBefore n m = true := by
  obtain ⟨before, after, split⟩ := List.append_of_mem ((same n).mpr (Or.inl rfl))
  rw [split] at ha na
  have others : (before ++ after).Sublist (before ++ n :: after) :=
    (List.sublist_cons_self _ _).append_left _
  have apart : n ∉ before ++ after := by
    have moved := (@List.perm_middle _ n before after).nodup_iff.mp na
    exact (List.nodup_cons.mp moved).1
  refine ⟨before, after, split, ?_, (List.pairwise_cons.mp (List.pairwise_append.mp ha).2.1).1⟩
  refine eq_of_mem_iff hb (ha.sublist others) nb (na.sublist others) fun m => ?_
  have there := same m
  rw [split, List.mem_append, List.mem_cons] at there
  rw [List.mem_append]
  by_cases own : m = n
  · rw [own]
    rw [List.mem_append] at apart
    exact iff_of_false absent apart
  · simp only [own, false_or] at there
    exact there.symm

/-- The files of a directory that have an ending, in order and each once. -/
theorem namesEnding_spec {p : Path} (nodup : (t.nodes.map Prod.fst).Nodup)
    (path : t.resolve p = .ok l) (directory : t.IsDirectory l) (ending : Text) :
    (t.namesEnding p ending).Pairwise (textBefore · ·) ∧ (t.namesEnding p ending).Nodup ∧
      ∀ n, n ∈ t.namesEnding p ending ↔
        Text.endsWith ending n = true ∧ (t.node? (l ++ [n])).isSome = true := by
  obtain ⟨mode, there⟩ := directory
  have listed : t.namesEnding p ending
      = ((t.names l).filter (Text.endsWith ending)).mergeSort textBefore := by
    simp only [namesEnding, path, there]
  rw [listed]
  refine ⟨List.pairwise_mergeSort textBefore_trans textBefore_total _, ?_, ?_⟩
  · exact (List.mergeSort_perm _ _).nodup_iff.mpr ((nodup_names nodup l).filter _)
  · intro n
    rw [List.mem_mergeSort, List.mem_filter, mem_names]
    exact And.comm

end Tree

end CertKeeper
