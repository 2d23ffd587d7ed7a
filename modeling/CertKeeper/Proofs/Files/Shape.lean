import CertKeeper.Proofs.Files.Tree

/-!
# Where calls on a tree fail

Whether a call on a tree fails depends on what lies where, on directories and on files, and not on
what the files hold.  Main statements: `exists?_error_iff` for a file that is looked for, and
`halted?_sameShape` for a file that is written whole.
-/

namespace CertKeeper.Tree

variable {t t' : Tree} {p q : Path}

/-! ### Looking for a file -/

theorem walk_error {ps : List Text} {here : Location} {code : SystemCode}
    (h : t.walk here ps = .error code) : isAbsence code = true ∨ code = .nameTooLong := by
  induction ps generalizing here with
  | nil => cases h
  | cons n ps ih =>
    rw [walk] at h
    simp only at h
    split at h
    · cases h
      exact Or.inr rfl
    split at h
    · cases h
    split at h
    · cases h
      exact Or.inl rfl
    · cases h
      exact Or.inl rfl
    · exact ih h

theorem resolve_error {code : SystemCode} (h : t.resolve p = .error code) :
    isAbsence code = true ∨ code = .nameTooLong := by
  rw [resolve] at h
  split at h
  · cases h
    exact Or.inr rfl
  · exact walk_error h

theorem stat_of_error {code : SystemCode} (h : t.resolve p = .error code) :
    t.stat p = .error code := by
  rw [stat, h]
  rfl

/-- A path that a file can have, but with a name on the way that is too long. -/
def Overlong (t : Tree) (p : Path) : Prop :=
  t.resolve p = .error .nameTooLong ∧ p.isUnnameable = false

/-- Only a name that is too long keeps one from telling whether a file is there. -/
theorem exists?_error_iff : (∃ e, t.exists? p = .error e) ↔ t.Overlong p := by
  cases path : t.resolve p with
  | ok l =>
    rw [exists?_eq path, Overlong, path]
    simp
  | error code =>
    rw [exists?, stat_of_error path, Overlong, path]
    rcases resolve_error path with absent | rfl
    · have other : code ≠ .nameTooLong := by
        rintro rfl
        cases absent
      simp [isAbsent, absent, other]
    · cases named : p.isUnnameable <;> simp [isAbsent, isAbsence, named]

theorem not_overlong {present : Bool} (h : t.exists? p = .ok present) : ¬ t.Overlong p := by
  intro long
  obtain ⟨e, failed⟩ := exists?_error_iff.mpr long
  rw [h] at failed
  cases failed

theorem exists?_error {e : Fault} (h : t.exists? p = .error e) :
    ∃ code, e = Fault.system code p.spell := by
  unfold exists? at h
  split at h
  · cases h
  split at h
  · cases h
  · exact ⟨_, (Except.error.inj h).symm⟩

theorem isDirectory_error_iff {e : Fault} :
    t.isDirectory p = .error e ↔ t.exists? p = .error e := by
  unfold isDirectory exists?
  cases t.stat p with
  | ok n => exact iff_of_false nofun nofun
  | error code => split <;> simp

theorem namesEnding_of_not_directory (h : t.isDirectory p = .ok false) (ending : Text) :
    t.namesEnding p ending = [] := by
  unfold namesEnding
  split
  · rfl
  next l path =>
    split
    next mode there => cases h.symm.trans ((isDirectory_iff path).mpr ⟨mode, there⟩)
    · rfl

theorem contentAt_error {e : Fault} (h : t.contentAt p = .error e) :
    ∃ code, e = Fault.system code p.spell := by
  unfold contentAt failing at h
  split at h
  · cases h
  · exact ⟨_, (Except.error.inj h).symm⟩

theorem exists?_of_contentAt {content : Bytes} (h : t.contentAt p = .ok content) :
    t.exists? p = .ok true := by
  cases found : t.stat p with
  | ok n => rw [exists?, found]
  | error code =>
    rw [contentAt, found] at h
    cases h

theorem exists?_of_unlink (h : (t.unlink p).1 = .ok ()) : t.exists? p = .ok true := by
  have nodes : t.trouble.2.nodes = t.nodes := by
    unfold trouble
    split <;> rfl
  have same : ∀ l, t.trouble.2.node? l = t.node? l := fun l => by rw [node?, nodes, node?]
  unfold unlink at h
  split at h
  · cases h
  next u calm =>
  obtain rfl : t.trouble.2 = u := congrArg Prod.snd calm
  have kept : ∀ l, t.trouble.2.IsDirectory l → t.IsDirectory l := fun l directory =>
    directory.imp fun _ there => (same l).symm.trans there
  split at h
  · cases h
  next l path =>
  rw [exists?_eq (resolve_of_directories kept path), ← same l]
  split at h
  · cases h
  · cases h
  next there => rw [there]; rfl

/-! ### Trees of one shape -/

inductive SameKind : Option Node → Option Node → Prop where
  | nothing : SameKind none none
  | directory (m m' : Nat) : SameKind (some (.directory m)) (some (.directory m'))
  | file (m m' : Nat) (c c' : Bytes) : SameKind (some (.file m c)) (some (.file m' c'))

theorem SameKind.refl (n : Option Node) : SameKind n n := by
  rcases n with _ | ⟨m, c⟩ | m
  · exact .nothing
  · exact .file m m c c
  · exact .directory m m

/-- The same directories and files, whatever the files hold, with the same troubles ahead and the
same places barred. -/
structure SameShape (t t' : Tree) : Prop where
  kind : ∀ l, SameKind (t.node? l) (t'.node? l)
  troubles : t.troubles = t'.troubles
  barred : t.barred = t'.barred

theorem SameShape.refl (t : Tree) : SameShape t t := ⟨fun _ => .refl _, rfl, rfl⟩

theorem SameShape.walk (h : SameShape t t') (here : Location) (ps : List Text) :
    t.walk here ps = t'.walk here ps := by
  induction ps generalizing here with
  | nil => rfl
  | cons n ps ih =>
    have kind := h.kind (if n = Text.ofString ".." then here.dropLast else here ++ [n])
    rw [Tree.walk, Tree.walk]
    simp only [ih]
    generalize t.node? _ = x at kind ⊢
    generalize t'.node? _ = x' at kind ⊢
    cases kind <;> rfl

theorem SameShape.resolve (h : SameShape t t') (p : Path) : t.resolve p = t'.resolve p := by
  rw [Tree.resolve, Tree.resolve, h.walk]

theorem SameShape.trouble (h : SameShape t t') :
    t.trouble.1 = t'.trouble.1 ∧ SameShape t.trouble.2 t'.trouble.2 := by
  unfold Tree.trouble
  rw [← h.troubles]
  split
  · exact ⟨rfl, h⟩
  · exact ⟨rfl, h.kind, rfl, h.barred⟩

theorem SameShape.put_file (h : SameShape t t') (l : Location) (mode mode' : Nat)
    (content content' : Bytes) :
    SameShape (t.put l (.file mode content)) (t'.put l (.file mode' content')) := by
  refine ⟨fun m => ?_, h.troubles, h.barred⟩
  by_cases at_l : m = l
  · subst at_l
    by_cases root : m = []
    · subst root
      exact .directory _ _
    · rw [node?_put_self _ _ _ root, node?_put_self _ _ _ root]
      exact .file _ _ _ _
  · rw [node?_put_other _ _ at_l, node?_put_other _ _ at_l]
    exact h.kind m

section Calls

variable (h : SameShape t t')
include h

theorem SameShape.calm {α : Type} {f f' : Tree → α × Tree} {c c' : SystemCode → α}
    {R : α × Tree → α × Tree → Prop}
    (failed : ∀ u u' code, SameShape u u' → R (c code, u) (c' code, u'))
    (next : ∀ u u', SameShape u u' → R (f u) (f' u')) :
    R (match t.trouble with | (some code, u) => (c code, u) | (none, u) => f u)
      (match t'.trouble with | (some code, u) => (c' code, u) | (none, u) => f' u) := by
  obtain ⟨trouble, shape⟩ := h.trouble
  generalize t.trouble = x at trouble shape ⊢
  generalize t'.trouble = x' at trouble shape ⊢
  obtain ⟨code, u⟩ := x
  obtain ⟨code', u'⟩ := x'
  obtain rfl : code = code' := trouble
  cases code with
  | some code => exact failed u u' code shape
  | none => exact next u u' shape

theorem SameShape.create (p : Path) (mode mode' : Nat) :
    (t.create p mode).1 = (t'.create p mode').1 ∧
      SameShape (t.create p mode).2 (t'.create p mode').2 := by
  refine h.calm (R := fun x y => x.1 = y.1 ∧ SameShape x.2 y.2) (fun _ _ _ shape => ⟨rfl, shape⟩)
    fun u u' shape => ?_
  rw [shape.resolve p]
  cases u'.resolve p with
  | error code => exact ⟨rfl, shape⟩
  | ok l =>
    have kind := shape.kind l
    simp only
    generalize u.node? l = x at kind ⊢
    generalize u'.node? l = x' at kind ⊢
    cases kind with
    | nothing => exact ⟨rfl, shape.put_file l _ _ _ _⟩
    | directory m m' => exact ⟨rfl, shape⟩
    | file m m' c c' => exact ⟨rfl, shape⟩

theorem SameShape.fill (p : Path) (content content' : Bytes) :
    (t.fill p content).1 = (t'.fill p content').1 ∧
      SameShape (t.fill p content).2 (t'.fill p content').2 := by
  refine h.calm (R := fun x y => x.1 = y.1 ∧ SameShape x.2 y.2) (fun _ _ _ shape => ⟨rfl, shape⟩)
    fun u u' shape => ?_
  rw [shape.resolve p]
  cases u'.resolve p with
  | error code => exact ⟨rfl, shape⟩
  | ok l =>
    have kind := shape.kind l
    simp only
    generalize u.node? l = x at kind ⊢
    generalize u'.node? l = x' at kind ⊢
    cases kind with
    | nothing => exact ⟨rfl, shape⟩
    | directory m m' => exact ⟨rfl, shape⟩
    | file m m' c c' => exact ⟨rfl, shape.put_file l _ _ _ _⟩

theorem SameShape.replace (p q : Path) : (t.replace p q).1 = (t'.replace p q).1 ∧
    ((t.replace p q).1 ≠ .ok () → SameShape (t.replace p q).2 (t'.replace p q).2) := by
  refine h.calm (R := fun x y => x.1 = y.1 ∧ (x.1 ≠ Except.ok () → SameShape x.2 y.2))
    (fun _ _ _ shape => ⟨rfl, fun _ => shape⟩) fun u u' shape => ?_
  rw [shape.resolve p, shape.resolve q]
  cases u'.resolve p with
  | error code => exact ⟨rfl, fun _ => shape⟩
  | ok l =>
  cases u'.resolve q with
  | error code => exact ⟨rfl, fun _ => shape⟩
  | ok m =>
    have source := shape.kind l
    have target := shape.kind m
    simp only
    generalize u.node? l = x at source ⊢
    generalize u'.node? l = x' at source ⊢
    generalize u.node? m = y at target ⊢
    generalize u'.node? m = y' at target ⊢
    cases source <;> cases target <;>
      first | exact ⟨rfl, fun _ => shape⟩ | exact ⟨rfl, fun failed => absurd rfl failed⟩

theorem SameShape.unlink (p : Path) : (t.unlink p).1 = (t'.unlink p).1 := by
  refine h.calm (R := fun x y => x.1 = y.1) (fun _ _ _ _ => rfl) fun u u' shape => ?_
  rw [shape.resolve p]
  cases u'.resolve p with
  | error code => rfl
  | ok l =>
    have kind := shape.kind l
    simp only
    generalize u.node? l = x at kind ⊢
    generalize u'.node? l = x' at kind ⊢
    cases kind <;> rfl

end Calls

/-! ### Writing a file whole -/

/-- A file that cannot be taken away, though something is there. -/
def Stuck (t : Tree) (p : Path) : Prop := ∃ code, (t.unlink p).1 = .error code ∧ code ≠ .noEntry

def haltedOr (step : Except SystemCode Unit × Tree) (next : Tree → Option Tree) : Option Tree :=
  match step with
  | (.error _, t) => some t
  | (.ok (), t) => next t

/-- The tree that a file cannot be written whole to, as the step that fails leaves it: the file is
made under a temporary name, filled, and moved to its place. -/
def halted? (t : Tree) (temporary p : Path) (mode : Nat) (content : Bytes) : Option Tree :=
  haltedOr (t.create temporary mode) fun t =>
    haltedOr (t.fill temporary content) fun t => haltedOr (t.replace temporary p) fun _ => none

/-- A write that fails and cannot take its temporary file away. -/
def Litters (t : Tree) (temporary p : Path) (mode : Nat) (content : Bytes) : Prop :=
  ∃ u, t.halted? temporary p mode content = some u ∧ u.Stuck temporary

theorem SameShape.stuck (h : SameShape t t') : t.Stuck p ↔ t'.Stuck p := by
  rw [Stuck, Stuck, h.unlink p]

theorem haltedOr_stuck {x x' : Except SystemCode Unit × Tree} {f f' : Tree → Option Tree}
    (same : x.1 = x'.1) (shape : x.1 ≠ .ok () → SameShape x.2 x'.2)
    (next : (∃ u, f x.2 = some u ∧ u.Stuck p) ↔ ∃ u, f' x'.2 = some u ∧ u.Stuck p) :
    (∃ u, haltedOr x f = some u ∧ u.Stuck p) ↔ ∃ u, haltedOr x' f' = some u ∧ u.Stuck p := by
  obtain ⟨code, u⟩ := x
  obtain ⟨code', u'⟩ := x'
  obtain rfl : code = code' := same
  cases code with
  | error code =>
    simp only [haltedOr, Option.some.injEq, exists_eq_left']
    exact (shape nofun).stuck
  | ok _ => exact next

/-- Whether a write fails, and how, is no matter of what is written. -/
theorem SameShape.litters (h : SameShape t t') (temporary p : Path) (mode mode' : Nat)
    (content content' : Bytes) :
    t.Litters temporary p mode content ↔ t'.Litters temporary p mode' content' := by
  obtain ⟨made, shape⟩ := h.create temporary mode mode'
  obtain ⟨filled, shape'⟩ := shape.fill temporary content content'
  obtain ⟨moved, shape''⟩ := shape'.replace temporary p
  refine haltedOr_stuck made (fun _ => shape) ?_
  refine haltedOr_stuck filled (fun _ => shape') ?_
  exact haltedOr_stuck moved shape'' (by simp)

theorem replace_error_of_quiet (quiet : t.troubles = []) {code : SystemCode} {u : Tree}
    (h : t.replace p q = (.error code, u)) : u = t := by
  simp only [replace, trouble_of_quiet quiet] at h
  split at h
  · split at h <;> cases h <;> rfl
  · cases h
    rfl
  · cases h
    rfl

/-- Where no trouble is ahead, only what stands under the temporary name to begin with cannot be
taken away after a write that fails. -/
theorem litters_iff_of_quiet (quiet : t.troubles = []) (temporary p : Path) (mode : Nat)
    (content : Bytes) : t.Litters temporary p mode content ↔ t.Stuck temporary := by
  unfold Litters halted?
  cases path : t.resolve temporary with
  | error code =>
    have made : t.create temporary mode = (.error code, t) := by
      simp only [create, trouble_of_quiet quiet, path]
    simp [made, haltedOr]
  | ok l =>
  cases there : t.node? l with
  | some n =>
    have made : t.create temporary mode = (.error .fileExists, t) := by
      simp only [create, trouble_of_quiet quiet, path, there]
    simp [made, haltedOr]
  | none =>
    have free := not_isDirectory_of_none there
    have filled := ne_nil_of_not_isDirectory free
    have gone : ¬ t.Stuck temporary := by
      simp [Stuck, unlink_none quiet path there]
    -- The file that was made can be taken away again, whatever fails then.
    have first := sets_put (t := t) filled (.file mode [])
    have path₁ := resolve_of_directories (first.keeps_directory free) path
    have second := sets_put (t := t.put l (.file mode [])) filled (.file mode content)
    have path₂ := resolve_of_directories
      (second.keeps_directory (not_isDirectory_of_file first.self)) path₁
    have quiet₂ := second.troubles.trans (first.troubles.trans quiet)
    have taken : ¬ ((t.put l (.file mode [])).put l (.file mode content)).Stuck temporary := by
      simp [Stuck, unlink_file quiet₂ path₂ second.self]
    refine iff_of_false ?_ gone
    rw [create_free quiet path there mode]
    simp only [haltedOr, fill_file (first.troubles.trans quiet) path₁ first.self content]
    rintro ⟨u, halted, stuck⟩
    split at halted
    next code v failed =>
      obtain rfl := Option.some.inj halted
      rw [replace_error_of_quiet quiet₂ failed] at stuck
      exact taken stuck
    · cases halted

end CertKeeper.Tree
