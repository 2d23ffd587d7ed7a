import CertKeeper.Proofs.Store.Directory.Credentials
import CertKeeper.Proofs.Store.Directory.Promise
import CertKeeper.Proofs.Store.Directory.Troubled

/-!
# Writes that fail halfway

A file is made under a temporary name, filled and moved to its place, and the file system may
refuse any of these steps.  A write that fails leaves every file as it was, and one that does not
fail sets its own file and no other.  Main statement: `Call.writes_atomically`.
-/

namespace CertKeeper

/-! ### A file beside its place -/

namespace Tree

variable {t u : Tree} {temporary p : Path} {x : Location} {mode : Nat} {content : Bytes}
  {troubles : List (Option SystemCode)}

theorem isPrefixOf_of_free (sound : t.Sound) (free : t.node? x = none) {n : Location × Node}
    (there : n ∈ t.nodes) : x.isPrefixOf n.1 = false := by
  rw [Bool.eq_false_iff]
  intro below
  obtain ⟨ns, inside⟩ := List.isPrefixOf_iff_prefix.mp below
  have filled : x ≠ [] := ne_nil_of_not_isDirectory (not_isDirectory_of_none free)
  have nothing : t.node? (x ++ ns) = none := by
    by_cases same : ns = []
    · rw [same, List.append_nil, free]
    · exact node?_eq_none_below sound (not_isDirectory_of_none free) same
  have listed : (t.listed? n.1).isSome = true := by
    rw [listed?, Option.isSome_map, List.find?_isSome]
    exact ⟨n, there, decide_eq_true rfl⟩
  rw [← inside, listed?_eq (by simp [filled]), nothing] at listed
  cases listed

theorem prune_put (sound : t.Sound) (free : t.node? x = none) (n : Node) :
    (t.put x n).prune x = t := by
  have apart : ∀ m ∈ t.nodes, (!x.isPrefixOf m.1) = true := fun m there => by
    rw [isPrefixOf_of_free sound free there]
    rfl
  have put_ : ∀ ns : List (Location × Node), (∀ m ∈ ns, (!x.isPrefixOf m.1) = true) →
      (putNode x n ns).filter (fun m => !x.isPrefixOf m.1) = ns := by
    intro ns
    induction ns with
    | nil => simp [putNode, List.isPrefixOf_iff_prefix]
    | cons m ns ih =>
      intro apart
      obtain ⟨first, rest⟩ := List.forall_mem_cons.mp apart
      have other : m.1 ≠ x := by
        intro same
        rw [same, List.isPrefixOf_iff_prefix.mpr (List.prefix_refl x)] at first
        cases first
      rw [putNode, if_neg other, List.filter_cons, if_pos first, ih rest]
  rw [prune, put, put_ t.nodes apart]

theorem put_put (n m : Node) : (t.put x n).put x m = t.put x m := by
  have twice : ∀ ns : List (Location × Node), putNode x m (putNode x n ns) = putNode x m ns := by
    intro ns
    induction ns with
    | nil => simp [putNode]
    | cons k ns ih =>
      by_cases same : k.1 = x
      · simp [putNode, same]
      · simp only [putNode, if_neg same, ih]
  rw [put, put, twice, put]

theorem isDirectory_put_iff (free : t.node? x = none) (m : Location) :
    ((t.put x (.file mode content)).beset troubles).IsDirectory m ↔ t.IsDirectory m := by
  have filled := ne_nil_of_not_isDirectory (not_isDirectory_of_none free)
  have set_ := sets_put (t := t) filled (.file mode content)
  refine ⟨fun directory => ?_, set_.keeps_directory (not_isDirectory_of_none free) m⟩
  have ne : m ≠ x := fun same => not_isDirectory_of_file set_.self (same ▸ directory)
  obtain ⟨mode', there⟩ := directory
  exact ⟨mode', (set_.other m ne).symm.trans there⟩

/-! ### The steps, whatever is ahead -/

theorem create_calm (calm : t.ahead = none) (path : t.resolve temporary = .ok x)
    (free : t.node? x = none) (mode : Nat) :
    t.create temporary mode = (.ok (), (t.put x (.file mode [])).beset t.troubles.tail) := by
  have path' : t.spent.resolve temporary = .ok x := (resolve_beset _ _).trans path
  have free' : t.spent.node? x = none := free
  simp only [create, trouble_eq, calm, path', free']
  rfl

theorem create_cases (path : t.resolve temporary = .ok x) (free : t.node? x = none) (mode : Nat) :
    (∃ code, t.create temporary mode = (.error code, t.spent)) ∨
      t.create temporary mode = (.ok (), (t.put x (.file mode [])).beset t.troubles.tail) := by
  cases ahead : t.ahead with
  | some code => exact .inl ⟨code, by simp only [create, trouble_eq, ahead]⟩
  | none => exact .inr (create_calm ahead path free mode)

theorem fill_cases (path : u.resolve temporary = .ok x) {old : Bytes}
    (there : u.node? x = some (.file mode old)) (content : Bytes) :
    (∃ code, u.fill temporary content = (.error code, u.spent)) ∨
      u.fill temporary content =
        (.ok (), (u.put x (.file mode content)).beset u.troubles.tail) := by
  have path' : u.spent.resolve temporary = .ok x := (resolve_beset _ _).trans path
  have there' : u.spent.node? x = some (.file mode old) := there
  cases calm : u.ahead with
  | some code => exact .inl ⟨code, by simp only [fill, trouble_eq, calm]⟩
  | none =>
    refine .inr ?_
    simp only [fill, trouble_eq, calm, path', there']
    rfl

theorem replace_cases (path : u.resolve temporary = .ok x) {n : Node} (there : u.node? x = some n)
    (p : Path) : (∃ code, u.replace temporary p = (.error code, u.spent)) ∨
      ∃ y, u.resolve p = .ok y ∧ ¬ u.IsDirectory y ∧
        u.replace temporary p = (.ok (), ((u.prune x).put y n).beset u.troubles.tail) := by
  have path' : u.spent.resolve temporary = .ok x := (resolve_beset _ _).trans path
  have there' : u.spent.node? x = some n := there
  cases calm : u.ahead with
  | some code => exact .inl ⟨code, by simp only [replace, trouble_eq, calm]⟩
  | none =>
  cases target : u.resolve p with
  | error code =>
    have target' : u.spent.resolve p = .error code := (resolve_beset _ _).trans target
    exact .inl ⟨code, by simp only [replace, trouble_eq, calm, path', target']⟩
  | ok y =>
  have target' : u.spent.resolve p = .ok y := (resolve_beset _ _).trans target
  cases old : u.node? y with
  | none =>
    have old' : u.spent.node? y = none := old
    refine .inr ⟨y, rfl, not_isDirectory_of_none old, ?_⟩
    simp only [replace, trouble_eq, calm, path', target', there', old']
    rfl
  | some m =>
  cases m with
  | directory mode' =>
    have old' : u.spent.node? y = some (.directory mode') := old
    exact .inl ⟨.isDirectory,
      by simp only [replace, trouble_eq, calm, path', target', there', old']⟩
  | file mode' content' =>
    have old' : u.spent.node? y = some (.file mode' content') := old
    refine .inr ⟨y, rfl, not_isDirectory_of_file old, ?_⟩
    simp only [replace, trouble_eq, calm, path', target', there', old']
    rfl

/-! ### The three steps together -/

/-- A write fails and leaves the temporary file at most, or it sets the file that the path leads
to. -/
theorem whole_cases (sound : t.Sound) (path : t.resolve temporary = .ok x)
    (free : t.node? x = none) (p : Path) (mode : Nat) (content : Bytes) :
    (∃ u troubles, t.halted? temporary p mode content = some u ∧
      (u = t.beset troubles ∨ ∃ written, u = (t.put x (.file mode written)).beset troubles)) ∨
    (t.halted? temporary p mode content = none ∧ ∃ t₁ t₂ y troubles,
      t.create temporary mode = (.ok (), t₁) ∧ t₁.fill temporary content = (.ok (), t₂) ∧
      t₂.replace temporary p = (.ok (), (t.put y (.file mode content)).beset troubles) ∧
      t.resolve p = .ok y ∧ ¬ t.IsDirectory y) := by
  have filled := ne_nil_of_not_isDirectory (not_isDirectory_of_none free)
  -- Under the temporary name the file that was made is found again, however much it holds.
  have leads (written : Bytes) (troubles : List (Option SystemCode)) :
      ((t.put x (.file mode written)).beset troubles).resolve temporary = .ok x :=
    resolve_of_directories (fun m => (isDirectory_put_iff free m).mpr) path
  have holds (written : Bytes) (troubles : List (Option SystemCode)) :
      ((t.put x (.file mode written)).beset troubles).node? x = some (.file mode written) :=
    node?_put_self t x _ filled
  unfold halted?
  obtain ⟨code, made⟩ | made := create_cases path free mode
  · refine .inl ⟨_, t.troubles.tail, ?_, .inl rfl⟩
    rw [made]
    rfl
  obtain ⟨code, wrote⟩ | wrote :=
    fill_cases (leads [] t.troubles.tail) (holds [] t.troubles.tail) content
  · refine .inl ⟨_, t.troubles.tail.tail, ?_, .inr ⟨[], rfl⟩⟩
    rw [made]
    simp only [haltedOr, wrote]
    rfl
  have wrote' : ((t.put x (.file mode [])).beset t.troubles.tail).fill temporary content
      = (.ok (), (t.put x (.file mode content)).beset t.troubles.tail.tail) := by
    rw [wrote]
    change (_, ((t.put x _).put x _).beset _) = _
    rw [put_put]
    rfl
  obtain ⟨code, moved⟩ | ⟨y, target, file, moved⟩ :=
    replace_cases (leads content t.troubles.tail.tail) (holds content _) p
  · refine .inl ⟨_, t.troubles.tail.tail.tail, ?_, .inr ⟨content, rfl⟩⟩
    rw [made]
    simp only [haltedOr, wrote', moved]
    rfl
  · refine .inr ⟨?_, _, _, y, t.troubles.tail.tail.tail, made, wrote', ?_, ?_, ?_⟩
    · rw [made]
      simp only [haltedOr, wrote', moved]
    · rw [moved]
      change (_, (((t.put x _).prune x).put y _).beset _) = _
      rw [prune_put sound free]
      rfl
    · exact resolve_of_directories (fun m => (isDirectory_put_iff free m).mp) target
    · exact fun directory => file ((isDirectory_put_iff free y).mpr directory)

theorem unlink_aside (sound : t.Sound) (path : t.resolve temporary = .ok x)
    (free : t.node? x = none) (aside : u = t.beset troubles ∨
      ∃ written, u = (t.put x (.file mode written)).beset troubles) (calm : u.ahead = none) :
    ∃ o, u.unlink temporary = (o, t.beset troubles.tail) ∧ (o = .ok () ∨ o = .error .noEntry) := by
  have filled := ne_nil_of_not_isDirectory (not_isDirectory_of_none free)
  rcases aside with rfl | ⟨written, rfl⟩
  · have path' : (t.beset troubles).spent.resolve temporary = .ok x :=
      (@resolve_beset t troubles.tail _).trans path
    have free' : (t.beset troubles).spent.node? x = none := free
    refine ⟨_, ?_, .inr rfl⟩
    simp only [unlink, trouble_eq, calm, path', free']
    rfl
  · have path' : ((t.put x (.file mode written)).beset troubles).spent.resolve temporary = .ok x :=
      resolve_of_directories (fun m => (isDirectory_put_iff free m).mpr) path
    have there : ((t.put x (.file mode written)).beset troubles).spent.node? x
        = some (.file mode written) := node?_put_self t x _ filled
    refine ⟨.ok (), ?_, .inl rfl⟩
    simp only [unlink, trouble_eq, calm, path', there]
    change (_, ((t.put x _).prune x).beset _) = _
    rw [prune_put sound free]
    rfl

end Tree

namespace Directory

open X509
open CertKeeper.Action (start)
open CertKeeper.Tree (Sets)

variable {suite : Suite} {s s' : State} {r : Run State} {p : Path} {mode : Nat} {content : Bytes}

/-! ### Writing a file whole -/

/-- The name under which a file is made that comes to a path leads to a free place. -/
def State.Unused (s : State) (p : Path) : Prop :=
  ∃ x, s.tree.resolve (s.temporaryPath p) = .ok x ∧ s.tree.node? x = none

/-- A step of writing a file fails, and taking the temporary file away then meets no trouble. -/
def State.Fails (s : State) (p : Path) (mode : Nat) (content : Bytes) : Prop :=
  ∃ u, s.tree.halted? (s.temporaryPath p) p mode content = some u ∧ u.ahead = none

def State.Works (s : State) (p : Path) (mode : Nat) (content : Bytes) : Prop :=
  s.tree.halted? (s.temporaryPath p) p mode content = none

theorem start_refusal {t : Tree} {temporary : Path} {o : Except SystemCode Unit}
    (taken : r.state.tree.unlink temporary = (o, t)) (gone : o = .ok () ∨ o = .error .noEntry)
    (e : Fault) : start (discard temporary >>= fun _ => (throw e : Action State Unit)) r
      = (.error e, ⟨r.state.onto t r.state.around, r.journal, r.operation⟩) := by
  unfold discard
  rw [bind_assoc, Action.start_bind_ok (start_onTree_eq taken)]
  rcases gone with rfl | rfl
  · rfl
  · rfl

/-- A write that fails is a store's own fault, and every file is as it was. -/
theorem start_writeWhole_fails (sound : r.state.tree.Sound) (unused : r.state.Unused p)
    (fails : r.state.Fails p mode content) : ∃ e troubles,
      start (writeWhole p content mode) r
          = (.error e, ⟨r.state.onto (r.state.tree.beset troubles) r.state.around, r.journal,
            r.operation⟩) ∧ e.failure.isKeyStore = true := by
  obtain ⟨x, path, free⟩ := unused
  obtain ⟨u, halted, calm⟩ := fails
  obtain ⟨u', troubles, halted', aside⟩ | ⟨whole, _⟩ :=
    Tree.whole_cases sound path free p mode content
  · obtain rfl := Option.some.inj (halted.symm.trans halted')
    obtain ⟨o, taken, gone⟩ := Tree.unlink_aside sound path free aside calm
    -- The step that failed is the one that left `u`.
    unfold writeWhole
    rw [Action.start_bind_ok (Action.start_read r)]
    dsimp only
    change ∃ e troubles', start (onTree (·.create (r.state.temporaryPath p) mode) >>= _) r = _ ∧ _
    unfold Tree.halted? at halted
    cases made : r.state.tree.create (r.state.temporaryPath p) mode with
    | mk outcome t =>
    rw [made] at halted
    rw [Action.start_bind_ok (start_onTree_eq made)]
    cases outcome with
    | error code =>
      obtain rfl : t = u := Option.some.inj halted
      exact ⟨_, troubles.tail, @start_refusal ⟨r.state.onto t _, _, _⟩ _ _ _ taken gone _, rfl⟩
    | ok _ =>
    simp only [Tree.haltedOr] at halted
    cases wrote : t.fill (r.state.temporaryPath p) content with
    | mk outcome t' =>
    rw [wrote] at halted
    rw [Action.start_bind_ok (@start_onTree_eq _ _ ⟨r.state.onto t _, _, _⟩ _ _ wrote)]
    cases outcome with
    | error code =>
      obtain rfl : t' = u := Option.some.inj halted
      exact ⟨_, troubles.tail, @start_refusal ⟨r.state.onto t' _, _, _⟩ _ _ _ taken gone _, rfl⟩
    | ok _ =>
    dsimp only at halted
    cases moved : t'.replace (r.state.temporaryPath p) p with
    | mk outcome t'' =>
    rw [moved] at halted
    rw [Action.start_bind_ok
      (@start_onTree_eq _ _ ⟨(r.state.onto t _).onto t' _, _, _⟩ _ _ moved)]
    cases outcome with
    | error code =>
      obtain rfl : t'' = u := Option.some.inj halted
      exact ⟨_, troubles.tail, @start_refusal ⟨r.state.onto t'' _, _, _⟩ _ _ _ taken gone _, rfl⟩
    | ok _ => cases halted
  · rw [halted] at whole
    cases whole

/-- A write that works sets the file that the path leads to. -/
theorem start_writeWhole_works (sound : r.state.tree.Sound) (unused : r.state.Unused p)
    (works : r.state.Works p mode content) : ∃ y troubles, r.state.tree.resolve p = .ok y ∧
      ¬ r.state.tree.IsDirectory y ∧
      start (writeWhole p content mode) r = (.ok (),
        ⟨r.state.onto ((r.state.tree.put y (.file mode content)).beset troubles) r.state.around,
          r.journal, r.operation⟩) := by
  obtain ⟨x, path, free⟩ := unused
  obtain ⟨u, _, halted, _⟩ | ⟨_, t₁, t₂, y, troubles, made, wrote, moved, target, file⟩ :=
    Tree.whole_cases sound path free p mode content
  · cases works.symm.trans halted
  refine ⟨y, troubles, target, file, ?_⟩
  unfold writeWhole
  rw [Action.start_bind_ok (Action.start_read r)]
  dsimp only
  change start (onTree (·.create (r.state.temporaryPath p) mode) >>= _) r = _
  rw [Action.start_bind_ok (start_onTree_eq made)]
  dsimp only
  rw [Action.start_bind_ok (@start_onTree_eq _ _ ⟨r.state.onto t₁ _, _, _⟩ _ _ wrote)]
  dsimp only
  rw [Action.start_bind_ok (@start_onTree_eq _ _ ⟨(r.state.onto t₁ _).onto t₂ _, _, _⟩ _ _ moved)]
  rfl

theorem start_refusal_error (temporary : Path) (e : Fault) (r : Run State) : ∃ f r',
    start (discard temporary >>= fun _ => (throw e : Action State Unit)) r = (.error f, r') := by
  rw [Action.start_bind]
  cases start (discard temporary) r with
  | mk outcome r' => cases outcome <;> exact ⟨_, _, rfl⟩

theorem works_of_writeWhole {r' : Run State}
    (wrote : start (writeWhole p content mode) r = (.ok (), r')) :
    r.state.Works p mode content := by
  have never {temporary : Path} {e : Fault} {q : Run State}
      (h : start (discard temporary >>= fun _ => (throw e : Action State Unit)) q = (.ok (), r')) :
      False := by
    obtain ⟨f, q', failed⟩ := start_refusal_error temporary e q
    cases h.symm.trans failed
  unfold writeWhole at wrote
  rw [Action.start_bind_ok (Action.start_read r)] at wrote
  change start (onTree (·.create (r.state.temporaryPath p) mode) >>= _) r = _ at wrote
  unfold State.Works Tree.halted?
  cases made : r.state.tree.create (r.state.temporaryPath p) mode with
  | mk outcome t =>
  rw [Action.start_bind_ok (start_onTree_eq made)] at wrote
  cases outcome with
  | error code => exact (never wrote).elim
  | ok _ =>
  dsimp only at wrote
  simp only [Tree.haltedOr]
  cases filled : t.fill (r.state.temporaryPath p) content with
  | mk outcome t' =>
  rw [Action.start_bind_ok (@start_onTree_eq _ _ ⟨r.state.onto t _, _, _⟩ _ _ filled)] at wrote
  cases outcome with
  | error code => exact (never wrote).elim
  | ok _ =>
  dsimp only at wrote
  cases moved : t'.replace (r.state.temporaryPath p) p with
  | mk outcome t'' =>
  rw [Action.start_bind_ok
    (@start_onTree_eq _ _ ⟨(r.state.onto t _).onto t' _, _, _⟩ _ _ moved)] at wrote
  cases outcome with
  | error code => exact (never wrote).elim
  | ok _ =>
    dsimp only
    rw [moved]

/-! ### What is read -/

/-- Everything that was in a store still is, and nothing else: every file, the record of the
password, the password in mind, the keys, and what is found under a name. -/
structure State.Untouched (s s' : State) : Prop where
  nodes : s'.tree.nodes = s.tree.nodes
  base : s'.base = s.base
  password : s'.password = s.password
  record : s'.passwordRecord? = s.passwordRecord?
  keys : ∀ id, s'.tree.contentAt (s'.keyPath id) = s.tree.contentAt (s.keyPath id)
  found : ∀ name, s'.find name = s.find name

theorem untouched_beset (s : State) (troubles : List (Option SystemCode)) (a : Surroundings) :
    s.Untouched (s.onto (s.tree.beset troubles) a) where
  nodes := rfl
  base := rfl
  password := rfl
  record := by
    change State.passwordRecord? ⟨s.tree.beset troubles, s.base, s.password, a⟩ = _
    simp only [State.passwordRecord?, State.passwordPath, Tree.exists?_beset, Tree.contentAt_beset]
  keys _ := Tree.contentAt_beset troubles _
  found name := by
    have among : ∀ files : List Text, (s.onto (s.tree.beset troubles) a).findAmong name files
        = s.findAmong name files := by
      intro files
      induction files with
      | nil => rfl
      | cons file rest ih =>
        rw [State.findAmong, State.findAmong, ih]
        change (EntryRecord.read file name ((s.tree.beset troubles).contentAt _)).bind _ = _
        rw [Tree.contentAt_beset]
        rfl
    have files : (s.onto (s.tree.beset troubles) a).entryFiles = s.entryFiles :=
      Tree.namesEnding_beset troubles _ _
    have directory : (s.onto (s.tree.beset troubles) a).tree.isDirectory
        (s.onto (s.tree.beset troubles) a).entriesPath = s.tree.isDirectory s.entriesPath :=
      Tree.isDirectory_beset troubles _
    simp only [State.find, State.listed, directory, files, among]

/-! ### The calls that write -/

namespace Call

inductive Makes : Call → Prop
  | initPassword (p : Text) : Makes (initPassword p)
  | generateKey (c : Crypto.Curve) : Makes (generateKey c)
  | importCertificate (c : Certificate) (name : Text) : Makes (importCertificate c name)

/-- What a call writes, and where, if it comes to write: the record of a password, the file of a
key or that of an entry. -/
inductive Writes (suite : Suite) (s : State) : Call → Path → Nat → Bytes → Prop
  | password {p : Text} {content salt : Bytes} (vacant : s.passwordRecord? = .ok none)
      (encoded : Utf8.encode p = .ok content) (drew : (s.around.draw 16).1 = .ok salt) :
      Writes suite s (initPassword p) s.passwordPath 0o600
        (asciiBytes (PasswordRecord.render p.isEmpty salt (suite.stretch salt content)))
  | key {c : Crypto.Curve} {k : PrivateKey} {text : Text} (unlocked : s.requireUnlocked = .ok ())
      (drew : (s.around.drawKey c).1 = .ok k)
      (sealed_ : (s.sealingPassword.bind fun q => KeyFile.write suite k q) = .ok text) :
      Writes suite s (generateKey c) (s.keyPath (suite.publicKey k).id) 0o600 (asciiBytes text)
  | entry {c : Certificate} {name id : Text} {bound : Bool} (key : c.keyId = .ok id)
      (there : s.tree.exists? (s.keyPath id) = .ok bound) :
      Writes suite s (importCertificate c name)
        (s.entryPath (State.nextHandle s.around.ticks s.around.token)) 0o644
        (asciiBytes (EntryRecord.render ⟨State.nextHandle s.around.ticks s.around.token, name, c,
          if bound then .text id else .null⟩ s.around.now))

/-- The password in mind after a call that wrote its file. -/
def mind (w : Option Text) : Call → Option Text
  | initPassword p => if p.isEmpty then w else some p
  | _ => w

/-- A call ends as writing a file does, in surroundings with the same word for temporary names. -/
def EndsAs (suite : Suite) (call : Call) (r : Run State) (p : Path) (mode : Nat)
    (content : Bytes) : Prop :=
  ∃ a : Surroundings, a.token = r.state.around.token ∧
    let written := start (writeWhole p content mode)
      ⟨r.state.onto r.state.tree a, r.journal, r.operation⟩
    (∀ e r', written = (.error e, r') →
      start (call.perform (keyStore suite)) r = (.error e, r')) ∧
    ∀ r', written = (.ok (), r') → ∃ journal, start (call.perform (keyStore suite)) r
      = (.ok (), ⟨{ r'.state with password := call.mind r'.state.password }, journal,
        r'.operation⟩)

variable {call : Call}

theorem start_importCertificate_begins {c : Certificate} {id : Text} {bound : Bool}
    (key : c.keyId = .ok id) (there : r.state.tree.exists? (r.state.keyPath id) = .ok bound)
    (name : Text) :
    let e : Entry := ⟨State.nextHandle r.state.around.ticks r.state.around.token, name, c,
      if bound then .text id else .null⟩
    start (Directory.importCertificate c name) r = start (do
      writeWhole (r.state.entryPath e.handle)
        (asciiBytes (EntryRecord.render e r.state.around.now)) 0o644
      Action.log .info ("Imported certificate for " ++ name ++ ", serial " ++ c.serialText)
      return e) ⟨r.state.onto r.state.tree r.state.around.tick.2, r.journal, r.operation⟩ := by
  intro e
  unfold Directory.importCertificate
  rw [key, Action.start_bind_ok (Action.start_ofExcept _ _),
    Action.start_bind_ok (Action.start_take _ _), Action.start_bind_ok (Action.start_read _)]
  have found (r' : Run State) : start (Action.ofExcept
      (r.state.tree.exists? (r.state.keyPath id))) r' = (.ok bound, r') := by
    rw [there, Action.start_ofExcept]
  exact Action.start_bind_ok (found _) _

theorem endsAs_of_writes (writes : call.Writes suite r.state p mode content) :
    call.EndsAs suite r p mode content := by
  cases writes with
  | @password word plain salt vacant encoded drew =>
    refine ⟨(r.state.around.draw 16).2, rfl, fun e r' failed => ?_,
      fun r' wrote => ⟨_, start_initPassword_written vacant encoded drew wrote⟩⟩
    exact (start_initPassword_begins vacant encoded drew).trans (Action.start_bind_error failed _)
  | @key c k text unlocked drew sealed_ =>
    obtain ⟨a, drew'⟩ : ∃ a, r.state.around.drawKey c = (.ok k, a) := ⟨_, Prod.ext drew rfl⟩
    have begun : start (Directory.generateKey suite c) r = start (do
        writeWhole (r.state.keyPath (suite.publicKey k).id) (asciiBytes text) 0o600
        Action.log .debug ("Generated " ++ Text.ofString c.name ++ " key " ++
          (suite.publicKey k).id.take 16)
        return ⟨(suite.publicKey k).id, suite.publicKey k⟩)
        ⟨r.state.onto r.state.tree a, r.journal, r.operation⟩ := by
      have content : (do KeyFile.write suite k (← (r.state.onto r.state.tree a).sealingPassword))
          = .ok text := sealed_
      unfold Directory.generateKey
      rw [Action.start_bind_ok (start_ask_ok unlocked),
        Action.start_bind_ok (start_generation drew'), Action.start_bind_ok (start_ask_ok content),
        Action.start_bind_ok (Action.start_read _)]
      rfl
    refine ⟨a, (drawKey_keeps drew').2, fun e r' failed => ?_, fun r' wrote => ⟨r'.journal ++
      [⟨.debug, "Generated " ++ Text.ofString c.name ++ " key " ++ (suite.publicKey k).id.take 16,
        r'.operation⟩], ?_⟩⟩
    · exact Action.start_bind_error (begun.trans (Action.start_bind_error failed _)) _
    · exact Action.start_bind_ok (begun.trans (Action.start_bind_ok wrote _)) _
  | @entry c name id bound key there =>
    have begun := start_importCertificate_begins key there name
    refine ⟨r.state.around.tick.2, rfl, fun f r' failed => ?_, fun r' wrote => ⟨r'.journal ++
      [⟨.info, "Imported certificate for " ++ name ++ ", serial " ++ c.serialText,
        r'.operation⟩], ?_⟩⟩
    · exact Action.start_bind_error (begun.trans (Action.start_bind_error failed _)) _
    · exact Action.start_bind_ok (begun.trans (Action.start_bind_ok wrote _)) _

/-- A call fails and touches no file. -/
def Stops (suite : Suite) (call : Call) (r : Run State) : Prop :=
  ∃ e a, start (call.perform (keyStore suite)) r
    = (.error e, ⟨r.state.onto r.state.tree a, r.journal, r.operation⟩)

theorem initPassword_stops_or_writes (word : Text) (r : Run State) :
    (∃ p mode content, (initPassword word).Writes suite r.state p mode content) ∨
      (initPassword word).Stops suite r := by
  cases known : r.state.passwordRecord? with
  | error e => exact .inr ⟨e, r.state.around, Action.start_bind_error (start_ask_error known) _⟩
  | ok found =>
  cases found with
  | some record => exact .inr ⟨_, r.state.around, start_passwordSet known word⟩
  | none =>
  cases encoded : Utf8.encode word with
  | ok content => exact .inl ⟨_, _, _, .password known encoded rfl⟩
  | error f => exact .inr ⟨_, _, start_initPassword_unencodable known encoded⟩

theorem generateKey_stops_or_writes (c : Crypto.Curve) (r : Run State) :
    (∃ p mode content, (generateKey c).Writes suite r.state p mode content) ∨
      (generateKey c).Stops suite r := by
  have stopped {e : Fault} {a : Surroundings} (h : start (Directory.generateKey suite c) r
      = (.error e, ⟨r.state.onto r.state.tree a, r.journal, r.operation⟩)) :
      (generateKey c).Stops suite r := ⟨e, a, Action.start_bind_error h _⟩
  cases unlocked : r.state.requireUnlocked with
  | error e =>
    exact .inr (@stopped e r.state.around (Action.start_bind_error (start_ask_error unlocked) _))
  | ok _ =>
  cases drew : r.state.around.drawKey c with
  | mk outcome a =>
  cases outcome with
  | error e =>
    refine .inr (@stopped ((StoreFault.ofGeneration e).getD e) a ?_)
    unfold Directory.generateKey
    rw [Action.start_bind_ok (start_ask_ok unlocked)]
    exact Action.start_bind_error (start_generation drew) _
  | ok k =>
  cases sealed_ : r.state.sealingPassword.bind fun q => KeyFile.write suite k q with
  | ok text => exact .inl ⟨_, _, _, .key unlocked (congrArg Prod.fst drew) sealed_⟩
  | error e =>
    have content : (do KeyFile.write suite k (← (r.state.onto r.state.tree a).sealingPassword))
        = .error e := sealed_
    refine .inr (@stopped e a ?_)
    unfold Directory.generateKey
    rw [Action.start_bind_ok (start_ask_ok unlocked), Action.start_bind_ok (start_generation drew)]
    exact Action.start_bind_error (start_ask_error content) _

theorem importCertificate_stops_or_writes (c : Certificate) (name : Text) (r : Run State) :
    (∃ p mode content, (importCertificate c name).Writes suite r.state p mode content) ∨
      (importCertificate c name).Stops suite r := by
  have stopped {e : Fault} {a : Surroundings} (h : start (Directory.importCertificate c name) r
      = (.error e, ⟨r.state.onto r.state.tree a, r.journal, r.operation⟩)) :
      (importCertificate c name).Stops suite r := ⟨e, a, Action.start_bind_error h _⟩
  cases key : c.keyId with
  | error e =>
    refine .inr (@stopped e r.state.around ?_)
    unfold Directory.importCertificate
    rw [key]
    exact Action.start_bind_error (Action.start_ofExcept _ _) _
  | ok id =>
  cases there : r.state.tree.exists? (r.state.keyPath id) with
  | ok bound => exact .inl ⟨_, _, _, .entry key there⟩
  | error e =>
    -- The number of the entry has been taken by then; nothing else has changed.
    refine .inr (@stopped e r.state.around.tick.2 ?_)
    have found (r' : Run State) : start (Action.ofExcept
        (r.state.tree.exists? (r.state.keyPath id))) r' = (.error e, r') := by
      rw [there, Action.start_ofExcept]
    unfold Directory.importCertificate
    rw [key, Action.start_bind_ok (Action.start_ofExcept _ _),
      Action.start_bind_ok (Action.start_take _ _), Action.start_bind_ok (Action.start_read _)]
    exact Action.start_bind_error (found _) _

/-- A call that does not come to write has failed, and touched no file. -/
theorem stops_or_writes (makes : call.Makes) (r : Run State) :
    (∃ p mode content, call.Writes suite r.state p mode content) ∨ call.Stops suite r := by
  cases makes with
  | initPassword word => exact initPassword_stops_or_writes word r
  | generateKey c => exact generateKey_stops_or_writes c r
  | importCertificate c name => exact importCertificate_stops_or_writes c name r

theorem temporaryPath_onto {a : Surroundings} (token : a.token = s.around.token) (p : Path) :
    (s.onto s.tree a).temporaryPath p = s.temporaryPath p := by
  unfold State.temporaryPath
  rw [State.onto, token]

/-- Where the directories of a store are directories and no temporary name of its word is in use,
what a call writes is made at a free place. -/
theorem unused_of_directories {l : Location} (base : s.tree.resolve s.base = .ok l)
    (room : Tree.HasRoom s.base 512) (root : s.tree.IsDirectory l)
    (keys : s.tree.IsDirectory (keysAt l)) (certificates : s.tree.IsDirectory (entriesAt l))
    (word : isToken s.around.token = true) (ticks : s.around.ticks.natAbs < 10 ^ 100)
    (free : ∀ d, d = l ∨ d = keysAt l ∨ d = entriesAt l → ∀ name,
      Text.endsWith (temporaryEnding s.around.token) name = true →
        s.tree.node? (d ++ [name]) = none)
    (writes : call.Writes suite s p mode content) : s.Unused p := by
  have beside {dir : Path} {d : Location} {name : Text} (path : s.tree.resolve dir = .ok d)
      (room : Tree.HasRoom dir 256) (directory : s.tree.IsDirectory d)
      (own : d = l ∨ d = keysAt l ∨ d = entriesAt l)
      (points : name.all isNamePoint = true) (long : 3 ≤ name.length) (short : name.length ≤ 200) :
      s.Unused (dir.join name) := by
    have temporary := fileName_temporary points short word
    refine ⟨d ++ [temporaryName name s.around.token], ?_,
      free d own _ (endsWith_temporaryName _ _)⟩
    rw [State.temporaryPath, withName_temporary
      (fileName_of_all points long (Nat.le_trans short (by decide))) temporary]
    exact Tree.resolve_join temporary room path directory
  have more := Tree.hasRoom_base room
  cases writes with
  | password vacant encoded drew =>
    exact beside base more root (.inl rfl) rfl (Nat.le_of_ble_eq_true rfl)
      (Nat.le_of_ble_eq_true rfl)
  | @key c k text unlocked drew sealed_ =>
    obtain ⟨points, short⟩ := keyFile_spec (suite.isKeyId_handleOf k)
    have long : 3 ≤ (keyFile (suite.publicKey k).id).length := by
      rw [keyFile, List.length_append]
      exact Nat.le_add_left_of_le (Nat.le_of_ble_eq_true rfl)
    exact beside (Tree.resolve_join fileName_keys more base root) (room.join fileName_keys) keys
      (.inr (.inl rfl)) points long short
  | entry key there =>
    obtain ⟨points, long, short⟩ := nextHandle_spec word ticks
    exact beside (Tree.resolve_join fileName_certificates more base root)
      (room.join fileName_certificates) certificates (.inr (.inr rfl)) points
      (Nat.le_trans (by decide) long) short

/-- A call that makes a file either fails before it writes, and touches nothing; or fails because a
step of writing does, and leaves everything as it was; or sets the file that it writes and no
other. -/
theorem writes_atomically (makes : call.Makes) (sound : r.state.tree.Sound)
    (unused : ∀ p mode content, call.Writes suite r.state p mode content → r.state.Unused p) :
    let s := r.state
    let ended := start (call.perform (keyStore suite)) r
    let s' := ended.2.state
    ((∃ e, ended.1 = .error e) ∧ s.Untouched s' ∨
      ∃ p mode content, call.Writes suite s p mode content) ∧
    ∀ p mode content, call.Writes suite s p mode content →
      (s.Fails p mode content →
        (∃ e, ended.1 = .error e ∧ e.failure.isKeyStore = true) ∧ s.Untouched s') ∧
      (s.Works p mode content →
        ended.1 = .ok () ∧ s'.base = s.base ∧ s'.password = call.mind s.password ∧
          ∃ y, s.tree.resolve p = .ok y ∧ s'.tree.node? y = some (.file mode content) ∧
            ∀ m, m ≠ y → s'.tree.node? m = s.tree.node? m) := by
  intro s ended s'
  refine ⟨?_, fun p mode content writes => ?_⟩
  · rcases stops_or_writes makes r with writes | ⟨e, a, stopped⟩
    · exact .inr writes
    · refine .inl ⟨⟨e, congrArg Prod.fst stopped⟩, ?_⟩
      have left : s' = s.onto (s.tree.beset s.tree.troubles) a :=
        congrArg (fun o => o.2.state) stopped
      rw [left]
      exact untouched_beset s _ a
  obtain ⟨a, token, failed, wrote⟩ := endsAs_of_writes writes
  -- The surroundings in which the write begins have the same word for temporary names.
  have same : (s.onto s.tree a).temporaryPath p = s.temporaryPath p := temporaryPath_onto token p
  have unused' : (s.onto s.tree a).Unused p := by
    unfold State.Unused
    rw [same]
    exact unused p mode content writes
  refine ⟨fun fails => ?_, fun works => ?_⟩
  · have fails' : (s.onto s.tree a).Fails p mode content := by
      unfold State.Fails
      rw [same]
      exact fails
    obtain ⟨e, troubles, halted, own⟩ := @start_writeWhole_fails
      ⟨s.onto s.tree a, r.journal, r.operation⟩ p mode content sound unused' fails'
    have stopped := failed _ _ halted
    refine ⟨⟨e, congrArg Prod.fst stopped, own⟩, ?_⟩
    have left : s' = s.onto (s.tree.beset troubles) a := congrArg (fun o => o.2.state) stopped
    rw [left]
    exact untouched_beset s troubles a
  · have works' : (s.onto s.tree a).Works p mode content := by
      unfold State.Works
      rw [same]
      exact works
    obtain ⟨y, troubles, target, file, whole⟩ := @start_writeWhole_works
      ⟨s.onto s.tree a, r.journal, r.operation⟩ p mode content sound unused' works'
    obtain ⟨journal, done⟩ := wrote _ whole
    have left : s' = { s.onto ((s.tree.put y (.file mode content)).beset troubles) a with
        password := call.mind s.password } := congrArg (fun o => o.2.state) done
    have set_ := Tree.sets_put (t := s.tree) (Tree.ne_nil_of_not_isDirectory file)
      (.file mode content)
    rw [left]
    exact ⟨congrArg Prod.fst done, rfl, rfl, y, target, set_.self, set_.other⟩

def crampedDirectory : State where
  tree := ⟨[(["keys"], .directory 0o700), (["certificates"], .directory 0o700)],
    [none, some .noSpace], []⟩
  base := ⟨some [], []⟩
  password := none
  around := ⟨⟨0, some 0⟩, [7], 0, [], 1, 0, "0123456789abcdef0123456789abcdef"⟩

theorem sound_crampedDirectory : crampedDirectory.tree.Sound := by
  refine ⟨by decide +kernel, fun {l} filled there => ?_⟩
  obtain rfl | rfl : l = [Text.ofString "keys"] ∨ l = [Text.ofString "certificates"] := by
    rw [← Tree.listed?_eq filled, Tree.listed?, Option.isSome_map, List.find?_isSome] at there
    obtain ⟨n, member, same⟩ := there
    rw [← of_decide_eq_true same]
    simpa [crampedDirectory, or_comm] using List.mem_map_of_mem (f := Prod.fst) member
  · exact Tree.isDirectory_nil _
  · exact Tree.isDirectory_nil _

theorem temporary_crampedDirectory : crampedDirectory.tree.resolve
    (crampedDirectory.temporaryPath crampedDirectory.passwordPath) =
      .ok [temporaryName "password.json" crampedDirectory.around.token] :=
  (Tree.resolve_eq_walk (by decide +kernel)).trans rfl

/-- The temporary file is made, and there is no space to fill it. -/
theorem fails_crampedDirectory (content : Bytes) :
    crampedDirectory.Fails crampedDirectory.passwordPath 0o600 content := by
  unfold State.Fails Tree.halted?
  rw [Tree.create_calm rfl temporary_crampedDirectory rfl 0o600]
  exact ⟨_, rfl, rfl⟩

theorem untouched_of_noSpace :
    let r : Run State := ⟨crampedDirectory, [], none⟩
    let ended := start ((initPassword "s3cret").perform (keyStore Suite.lenient)) r
    (∃ e, ended.1 = .error e ∧ e.failure.isKeyStore = true) ∧ r.state.Untouched ended.2.state := by
  intro r
  have unused : ∀ p mode content, (initPassword "s3cret").Writes Suite.lenient r.state p mode
      content → r.state.Unused p := by
    intro p mode content writes
    cases writes with
    | password _ _ _ => exact ⟨_, temporary_crampedDirectory, rfl⟩
  have writes := @Writes.password Suite.lenient r.state "s3cret"
    [115, 51, 99, 114, 101, 116] _ rfl rfl rfl
  have whole := @writes_atomically Suite.lenient r _ (.initPassword "s3cret") sound_crampedDirectory
    unused
  exact (whole.2 _ _ _ writes).1 (fails_crampedDirectory _)

end Call

end Directory

end CertKeeper
