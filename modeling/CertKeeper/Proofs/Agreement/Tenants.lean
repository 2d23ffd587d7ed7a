import CertKeeper.Proofs.Provider
import CertKeeper.Proofs.Store.Directory.Upkeep

/-!
# Several stores on one directory

The directory is the whole state of a store but for the password that it has in mind.  Whichever of
many stores on one directory a call is handed to, it has the outcome that it has where one store
makes all calls, if only who uses keys has entered the password.  Main statement:
`Tenants.outcomes_alone`.
-/

namespace CertKeeper

open X509
open CertKeeper.Action (Leads start)
open Directory (Site Alike Ends keysAt keyAt passwordAt keyFile remembered)

/-- Stores on one directory, by numbers.  What stands in the directory and what the machine gives is
common to all of them; each has a password in mind, or none. -/
structure Tenants where
  tree : Tree
  base : Path
  around : Surroundings
  minds : Nat → Option Text

namespace Tenants

def store (who : Nat) : Action.Part Tenants Directory.State where
  get h := ⟨h.tree, h.base, h.minds who, h.around⟩
  set s h := ⟨s.tree, s.base, s.around, fun n => if n = who then s.password else h.minds n⟩

/-! ### Calls -/

/-- What any of the stores may be asked. -/
inductive Call where
  | isAvailable
  | needsUserInit
  | needsLogin
  | randomBytes (n : Int)
  | find (name : Text)
  | importCertificate (c : Certificate) (name : Text)
  | delete (e : Entry)
  | deleteKey (id : Text)
  | generateKey (c : Crypto.Curve)
  | sign (id : Text) (t : Template) (choice : Template.DigestChoice)

inductive Answer where
  | done
  | value (v : Value)
  | found (e : Option Entry)
  | imported (e : Entry)
  | key (k : KeyHandle)
  | certificate (c : Certificate)

def Call.perform {σ : Type} (store : KeyStore σ) : Call → Action σ Answer
  | isAvailable => do return .value (← store.isAvailable)
  | needsUserInit => do return .value (← store.needsUserInit)
  | needsLogin => do return .value (← store.needsLogin)
  | randomBytes n => do return .value (← store.randomBytes n)
  | find name => do return .found (← store.findByName name)
  | importCertificate c name => do return .imported (← store.importCertificate c name)
  | delete e => do
    store.delete e
    return .done
  | deleteKey id => do
    store.deleteKey id
    return .done
  | generateKey c => do return .key (← store.generateKey c)
  | sign id t choice => do return .certificate (← store.sign id t choice)

def Call.usesKeys : Call → Bool
  | generateKey _ | sign _ _ _ => true
  | _ => false

def Call.aims (base : Path) : Call → List Path
  | delete e => Site.entryAims base e
  | deleteKey id => [(base.join "keys").join (keyFile id)]
  | _ => []

/-! ### Turns -/

/-- What is done with a store: a new one is opened in its place, a password is entered, it is asked
whether one has been, or a call is handed to it. -/
inductive Move where
  | opens
  | enters (q : Text)
  | asks
  | calls (c : Call)

structure Turn where
  who : Nat
  move : Move
  around : Surroundings

def Move.perform (suite : Suite) : Move → Action Directory.State Answer
  | opens => do
    Directory.openStore
    return .done
  | enters q => do return .value (← Directory.login suite q)
  | asks => do return .value (← (Directory.keyStore suite).isLoggedIn)
  | calls c => c.perform (Directory.keyStore suite)

def Turn.perform (suite : Suite) (t : Turn) (r : Run Tenants) : Except Fault Answer × Run Tenants :=
  start ((t.move.perform suite).on (store t.who))
    ⟨{ r.state with around := t.around }, r.journal, r.operation⟩

def Turn.begins (t : Turn) (r : Run Tenants) : Run Directory.State :=
  ⟨⟨r.state.tree, r.state.base, r.state.minds t.who, t.around⟩, r.journal, r.operation⟩

def Turn.ends (suite : Suite) (t : Turn) (r : Run Tenants) :
    Except Fault Answer × Run Directory.State := start (t.move.perform suite) (t.begins r)

def Turn.call? (t : Turn) : Option (Call × Surroundings) :=
  match t.move with
  | .calls c => some (c, t.around)
  | _ => none

def Turn.aims (base : Path) (t : Turn) : List Path :=
  match t.move with
  | .calls c => c.aims base
  | _ => []

def Turn.Spares (base : Path) (x : Location) (t : Turn) : Prop :=
  ∀ q ∈ t.aims base, Tree.goal q ≠ x

def Turn.word? (t : Turn) : Option Text :=
  match t.move with
  | .enters q => some q
  | _ => none

/-- Turns for which the machine gives what it should: words of its own for new files, a time that
fits, and keys that have a public half. -/
structure Turn.Fair (t : Turn) : Prop where
  token : Directory.isToken t.around.token = true
  ticks : t.around.ticks.natAbs < 10 ^ 100
  keys : ∀ c k, (t.around.drawKey c).1 = .ok k → k.Valid

/-- Who is let in after a turn: who enters the password and is told so; a store that is opened anew
has to enter it again. -/
def Turn.letIn (password : Text) (t : Turn) (o : Except Fault Answer) (inside : List Nat) :
    List Nat :=
  match t.move, o with
  | .opens, _ => inside.filter (· ≠ t.who)
  | .enters q, .ok (.value (.bool true)) => if q = password then t.who :: inside else inside
  | _, _ => inside

/-! ### Histories -/

variable (suite : Suite)

def after : List Turn → Run Tenants → Run Tenants
  | [], r => r
  | t :: ts, r => after ts (t.perform suite r).2

def outcomes : List Turn → Run Tenants → List (Except Fault Answer)
  | [], _ => []
  | t :: ts, r =>
    match t.call? with
    | some _ => (t.perform suite r).1 :: outcomes ts (t.perform suite r).2
    | none => outcomes ts (t.perform suite r).2

def insiders (password : Text) : List Turn → List Nat → Run Tenants → List Nat
  | [], inside, _ => inside
  | t :: ts, inside, r =>
    insiders password ts (t.letIn password (t.perform suite r).1 inside) (t.perform suite r).2

/-- Whoever uses keys has been let in, unless the password is empty. -/
def Admitted (password : Text) : List Turn → List Nat → Run Tenants → Prop
  | [], _, _ => True
  | t :: ts, inside, r =>
    (∀ c, t.move = .calls c → c.usesKeys = true → password = [] ∨ t.who ∈ inside) ∧
      Admitted password ts (t.letIn password (t.perform suite r).1 inside) (t.perform suite r).2

def alone : List (Call × Surroundings) → Run Directory.State → List (Except Fault Answer)
  | [], _ => []
  | (c, a) :: rest, r =>
    let ended := start (c.perform (Directory.keyStore suite))
      ⟨r.state.onto r.state.tree a, r.journal, r.operation⟩
    ended.1 :: alone rest ended.2

def founding (password : Text) : Action Directory.State Unit := do
  Directory.openStore
  Directory.initPassword suite password

/-- Others join a store; they have nothing in mind. -/
def joining (first : Nat) (r : Run Directory.State) : Run Tenants :=
  ⟨⟨r.state.tree, r.state.base, r.state.around,
    fun n => if n = first then r.state.password else none⟩, r.journal, r.operation⟩

def joined (password : Text) (first : Nat) (d : Run Directory.State) : Run Tenants :=
  joining first (start (founding suite password) d).2

/-! ### One turn -/

/-- Stores of which those inside have the password in mind, and the others may. -/
structure Kept (site : Site) (inside : List Nat) (h : Tenants) : Prop where
  place : h.base = site.base
  furnished : site.Furnished h.tree
  known : ∀ n, site.Known (h.minds n)
  inside : ∀ n ∈ inside, h.minds n = remembered site.password

/-- A turn for which the machine gives what it should, and in which no other password is entered
than those. -/
structure Turn.Within (words : List Text) (t : Turn) : Prop where
  fair : t.Fair
  word : ∀ q, t.word? = some q → q ∈ words

variable {suite} {site : Site} {inside : List Nat} {h : Tenants} {r : Run Tenants} {t : Turn}
  {words : List Text} {w w' : Option Text}

theorem Turn.answer_enters (suite : Suite) (who : Nat) (q : Text) (a : Surroundings)
    (r : Run Tenants) : (Turn.perform suite ⟨who, .enters q, a⟩ r).1 =
      (start (Directory.login suite q) (Turn.begins ⟨who, .enters q, a⟩ r)).1.map Answer.value :=
  Action.answer_map (Directory.login suite q) Answer.value (Turn.begins ⟨who, .enters q, a⟩ r)

theorem Kept.houses (kept : Kept site inside r.state) (t : Turn) :
    site.Houses (t.begins r).state := ⟨kept.place, kept.known t.who, kept.furnished⟩

theorem Kept.mind (kept : Kept site inside h) {who : Nat}
    (entitled : site.password = [] ∨ who ∈ inside) : h.minds who = remembered site.password := by
  rcases entitled with empty | member
  · rcases kept.known who with nothing | known
    · rw [nothing, empty]
      rfl
    · exact known
  · exact kept.inside who member

theorem Kept.set (kept : Kept site inside h) {s : Directory.State} (houses : site.Houses s)
    {who : Nat} {inside' : List Nat} (own : who ∈ inside' → s.password = remembered site.password)
    (others : ∀ n ∈ inside', n ≠ who → n ∈ inside) :
    Kept site inside' ((store who).set s h) := by
  refine ⟨houses.place, houses.furnished, fun n => ?_, fun n member => ?_⟩
  · change site.Known (if n = who then s.password else h.minds n)
    split
    · exact houses.known
    · exact kept.known n
  · change (if n = who then s.password else h.minds n) = _
    split
    next same => exact own (same ▸ member)
    next other => exact kept.inside n (others n member other)

theorem Turn.letIn_refused {who : Nat} {q p : Text} {a : Surroundings} {o : Except Fault Value}
    (wrong : o ≠ .ok (.bool true)) :
    Turn.letIn p ⟨who, .enters q, a⟩ (o.map Answer.value) inside = inside := by
  cases o with
  | error e => rfl
  | ok v =>
    unfold Turn.letIn
    split
    next impossible => cases impossible
    next told =>
      cases told
      exact absurd rfl wrong
    · rfl

/-- A call makes no difference between stores, unless it uses keys and they have other passwords in
mind. -/
theorem Call.alike (c : Call) (same : c.usesKeys = true → w' = w) :
    Alike w w' (c.perform (Directory.keyStore suite)) := by
  cases c with
  | isAvailable => exact (Directory.alike_isAvailable suite).bind fun _ => Directory.alike_pure _
  | needsUserInit =>
    exact (Directory.alike_needsUserInit suite).bind fun _ => Directory.alike_pure _
  | needsLogin => exact (Directory.alike_needsLogin suite).bind fun _ => Directory.alike_pure _
  | randomBytes n =>
    exact (Directory.alike_randomBytes suite n).bind fun _ => Directory.alike_pure _
  | find name => exact (Directory.alike_findByName suite name).bind fun _ => Directory.alike_pure _
  | importCertificate c name =>
    exact (Directory.alike_importCertificate c name).bind fun _ => Directory.alike_pure _
  | delete e => exact (Directory.alike_delete e).bind fun _ => Directory.alike_pure _
  | deleteKey id => exact (Directory.alike_deleteKey id).bind fun _ => Directory.alike_pure _
  | generateKey c =>
    obtain rfl := same rfl
    exact (Directory.alike_generateKey suite c).bind fun _ => Directory.alike_pure _
  | sign id t choice =>
    obtain rfl := same rfl
    exact (Directory.alike_sign suite id t choice).bind fun _ => Directory.alike_pure _

/-- A call changes the directory as it may, whoever makes it. -/
theorem Call.tends (c : Call) (known : site.Known w) (before : Tree) (a : Surroundings)
    {who : Nat} (fair : Turn.Fair ⟨who, .calls c, a⟩) :
    Leads (fun s => site.Tended (c.aims site.base) w before s ∧ s.around = a)
      (c.perform (Directory.keyStore site.suite))
      fun _ => site.Tended (c.aims site.base) w before := by
  have asked {α : Type} {aims : List Path} {b : Action Directory.State α}
      (tends : site.Tends aims w before b) (f : α → Answer) :
      Leads (fun s => site.Tended aims w before s ∧ s.around = a) (b >>= fun v => pure (f v))
        fun _ => site.Tended aims w before :=
    (tends.bind fun v => Site.tends_pure (f v)).mono (fun s held => held.1) fun _ _ held => held
  cases c with
  | isAvailable => exact asked ((Site.tends_ask _).bind fun _ => Site.tends_pure _) _
  | needsUserInit => exact asked ((Site.tends_ask _).bind fun _ => Site.tends_pure _) _
  | needsLogin => exact asked ((Site.tends_ask _).bind fun _ => Site.tends_pure _) _
  | randomBytes n => exact asked ((Site.tends_drawn _).bind fun _ => Site.tends_pure _) _
  | find name => exact asked (Site.tends_ask _) _
  | importCertificate c name =>
    -- the handle of the entry is made of the ticks and of the word for new files
    have imports := @Site.tends_importCertificate site [] w before c name
    refine (imports.mono (fun s held => ?_) fun _ _ held => held).bind (fun _ _ held => held)
      fun v => Site.tends_pure _
    exact ⟨held.1, held.2 ▸ fair.token, held.2 ▸ fair.ticks⟩
  | delete e => exact asked (Site.tends_delete e) _
  | deleteKey id => exact asked (Site.tends_deleteKey id) _
  | generateKey c =>
    have makes := @Site.tends_generateKey site [] w before known c
    refine (makes.mono (fun s held => ?_) fun _ _ held => held.1).bind (fun _ _ held => held)
      fun v => Site.tends_pure _
    exact ⟨held.1, held.2 ▸ fair.token, fun k => held.2 ▸ fair.keys c k⟩
  | sign id t choice => exact asked (Site.tends_sign id t choice) _

theorem Call.key_there {c : Crypto.Curve} (known : site.Known w) {a : Surroundings}
    {who : Nat} (fair : Turn.Fair ⟨who, .calls (.generateKey c), a⟩) {r : Run Directory.State}
    (houses : site.Houses r.state) (mind : r.state.password = w) (around : r.state.around = a)
    {k : KeyHandle} (made : (start ((Call.generateKey c).perform
      (Directory.keyStore site.suite)) r).1 = .ok (.key k)) :
    (start ((Call.generateKey c).perform (Directory.keyStore site.suite)) r).2.state.tree.node?
      (keyAt site.location k.keyId) ≠ none := by
  have tended : site.Tended [] w r.state.tree r.state :=
    ⟨houses.place, mind, houses.furnished, .refl⟩
  obtain ⟨_, there⟩ := Site.tends_generateKey known c r
    ⟨tended, around ▸ fair.token, fun k => around ▸ fair.keys c k⟩
  have state := Action.state_map ((Directory.keyStore site.suite).generateKey c) Answer.key r
  have left : (start ((Call.generateKey c).perform (Directory.keyStore site.suite)) r).2 = _ :=
    state
  rw [left]
  apply there
  change (start ((Directory.keyStore site.suite).generateKey c >>= fun k =>
    pure (Answer.key k)) r).1 = .ok (.key k) at made
  rw [Action.start_bind] at made
  change (start ((Directory.keyStore site.suite).generateKey c) r).1 = .ok k
  cases ended : start ((Directory.keyStore site.suite).generateKey c) r with
  | mk o r' =>
    rw [ended] at made
    cases o with
    | error e => cases made
    | ok k' =>
      cases made
      rfl

/-- What a turn may make of the store that has it: the directory changes as it may, and only by a
call, and the password is in mind where one is inside. -/
structure Turn.Leaves (site : Site) (inside : List Nat) (r : Run Tenants) (t : Turn)
    (o : Except Fault Answer) (s : Directory.State) : Prop where
  houses : site.Houses s
  changes : site.Changes (t.aims site.base) r.state.tree s.tree
  idle : t.call? = none → s.tree = r.state.tree
  own : t.who ∈ t.letIn site.password o inside → s.password = remembered site.password
  others : ∀ n ∈ t.letIn site.password o inside, n ≠ t.who → n ∈ inside

theorem Kept.leaves_enters (kept : Kept site inside r.state)
    (apart : site.suite.TellsApart words) (own : site.password ∈ words) (who : Nat) {q : Text}
    (word : q ∈ words) (a : Surroundings) :
    let t : Turn := ⟨who, .enters q, a⟩
    t.Leaves site inside r (t.ends site.suite r).1 (t.ends site.suite r).2.state := by
  intro t
  have houses := kept.houses t
  have answer : (t.ends site.suite r).1 = _ := Turn.answer_enters site.suite who q a r
  have state : (t.ends site.suite r).2 = _ :=
    Action.state_map (Directory.login site.suite q) Answer.value (t.begins r)
  rw [answer, state]
  obtain ⟨right, entered, left⟩ | ⟨wrong, left, _⟩ := Site.start_login_here houses apart own word
  · have now : t.letIn site.password (.ok (.value (.bool true))) inside = who :: inside :=
      if_pos right
    rw [entered, left]
    refine ⟨⟨houses.place, .inr rfl, houses.furnished⟩, .refl, fun _ => rfl, fun _ => rfl,
      fun n member other => ?_⟩
    have member : n ∈ who :: inside := now ▸ member
    exact (List.mem_cons.mp member).resolve_left other
  · rw [left]
    have now : t.letIn site.password _ inside = inside := Turn.letIn_refused wrong
    refine ⟨houses, .refl, fun _ => rfl, fun member => kept.inside who ?_, fun n member _ => ?_⟩
    · exact now ▸ member
    · exact now ▸ member

theorem Kept.leaves (kept : Kept site inside r.state) (within : t.Within words)
    (apart : site.suite.TellsApart words) (own : site.password ∈ words) :
    t.Leaves site inside r (t.ends site.suite r).1 (t.ends site.suite r).2.state := by
  have houses := kept.houses t
  obtain ⟨who, move, a⟩ := t
  -- Only a call changes the directory, and only the other moves change what is in mind.
  cases move with
  | opens =>
    obtain ⟨journal, opened⟩ := Site.start_openStore_here houses
    have ended : Turn.ends site.suite ⟨who, .opens, a⟩ r = _ := Action.start_bind_ok opened _
    rw [ended]
    refine ⟨⟨houses.place, .inl rfl, houses.furnished⟩, .refl, fun _ => rfl, fun no => ?_,
      fun n member _ => (List.mem_filter.mp member).1⟩
    have other := (List.mem_filter.mp no).2
    simp at other
  | enters q => exact kept.leaves_enters apart own who (within.word q rfl) a
  | asks => exact ⟨houses, .refl, fun _ => rfl, kept.inside who, fun n member _ => member⟩
  | calls c =>
    have tended := Call.tends c (kept.known who) r.state.tree a within.fair
      (Turn.begins ⟨who, .calls c, a⟩ r) ⟨⟨kept.place, rfl, kept.furnished, .refl⟩, rfl⟩
    exact ⟨tended.houses (kept.known who), tended.changes,
      (fun impossible => nomatch impossible),
      fun member => tended.mind.trans (kept.inside who member), fun n member _ => member⟩

theorem Kept.turn (kept : Kept site inside r.state) (within : t.Within words)
    (apart : site.suite.TellsApart words) (own : site.password ∈ words) :
    Kept site (t.letIn site.password (t.perform site.suite r).1 inside)
        (t.perform site.suite r).2.state ∧
      site.Changes (t.aims site.base) r.state.tree (t.perform site.suite r).2.state.tree ∧
      (t.call? = none → (t.perform site.suite r).2.state.tree = r.state.tree) := by
  have left := kept.leaves within apart own
  exact ⟨kept.set left.houses left.own left.others, left.changes, left.idle⟩

/-! ### Beside one store -/

/-- One store that has seen the same calls: its directory is the same, and it has the password in
mind. -/
structure Beside (site : Site) (h : Tenants) (s : Directory.State) : Prop where
  tree : s.tree = h.tree
  base : s.base = h.base
  mind : s.password = remembered site.password

/-- A call that is handed to any of the stores has the outcome that it has at the one. -/
theorem Beside.call {s : Run Directory.State} (beside : Beside site r.state s.state)
    (kept : Kept site inside r.state) {who : Nat} {c : Call} (a : Surroundings)
    (entitled : c.usesKeys = true → site.password = [] ∨ who ∈ inside) :
    let ended := Turn.perform site.suite ⟨who, .calls c, a⟩ r
    let ended' := start (c.perform (Directory.keyStore site.suite))
      ⟨s.state.onto s.state.tree a, s.journal, s.operation⟩
    ended.1 = ended'.1 ∧ Beside site ended.2.state ended'.2.state := by
  have same : c.usesKeys = true → remembered site.password = r.state.minds who := fun uses =>
    (kept.mind (entitled uses)).symm
  obtain ⟨⟨tree, base, password, around⟩, journal, operation⟩ := s
  obtain ⟨rfl, rfl, rfl⟩ := beside
  have alike : Alike (r.state.minds who) (remembered site.password)
      (c.perform (Directory.keyStore site.suite)) := Call.alike c same
  obtain ⟨o, s', ends, ends'⟩ := alike ⟨r.state.tree, r.state.base, none, a⟩
  obtain ⟨answer, left⟩ := ends r.journal r.operation
  obtain ⟨answer', left'⟩ := ends' journal operation
  intro ended ended'
  have tree : ended.2.state.tree = s'.tree := congrArg (·.tree) left
  have base : ended.2.state.base = s'.base := congrArg (·.base) left
  have state : ended'.2.state = s'.minding (remembered site.password) := left'
  rw [state]
  exact ⟨answer.trans answer'.symm, tree.symm, base.symm, rfl⟩

/-! ### Histories of turns -/

theorem after_append (suite : Suite) (before later : List Turn) (r : Run Tenants) :
    after suite (before ++ later) r = after suite later (after suite before r) := by
  induction before generalizing r with
  | nil => rfl
  | cons t before ih => exact ih _

section

variable {turns : List Turn} (apart : site.suite.TellsApart words) (own : site.password ∈ words)
include apart own

theorem Kept.after (kept : Kept site inside r.state) (within : ∀ t ∈ turns, t.Within words) :
    Kept site (insiders site.suite site.password turns inside r)
      (after site.suite turns r).state := by
  induction turns generalizing inside r with
  | nil => exact kept
  | cons t turns ih =>
    obtain ⟨now, later⟩ := List.forall_mem_cons.mp within
    exact ih (kept.turn now apart own).1 later

theorem Kept.there_after (kept : Kept site inside r.state) (within : ∀ t ∈ turns, t.Within words)
    {x : Location} (spared : ∀ t ∈ turns, t.Spares site.base x)
    (there : r.state.tree.node? x ≠ none) :
    (Tenants.after site.suite turns r).state.tree.node? x ≠ none := by
  induction turns generalizing inside r with
  | nil => exact there
  | cons t turns ih =>
    obtain ⟨now, later⟩ := List.forall_mem_cons.mp within
    obtain ⟨spares, spared⟩ := List.forall_mem_cons.mp spared
    obtain ⟨next, changes, _⟩ := kept.turn now apart own
    exact ih next later spared (changes.keeps spares there)

/-- The calls have the outcomes that they have at one store. -/
theorem Kept.outcomes_eq (kept : Kept site inside r.state) (within : ∀ t ∈ turns, t.Within words)
    (admitted : Admitted site.suite site.password turns inside r) {s : Run Directory.State}
    (beside : Beside site r.state s.state) :
    outcomes site.suite turns r = alone site.suite (turns.filterMap Turn.call?) s := by
  -- The one store stands beside the others after every turn: calls change both alike, and whatever
  -- else is done with a store leaves the directory as it is.
  induction turns generalizing inside r s with
  | nil => rfl
  | cons t turns ih =>
    obtain ⟨now, later⟩ := List.forall_mem_cons.mp within
    obtain ⟨entitled, admitted⟩ := admitted
    obtain ⟨next, _, idle⟩ := kept.turn now apart own
    have idles (none : t.call? = none) : outcomes site.suite (t :: turns) r
        = alone site.suite ((t :: turns).filterMap Turn.call?) s := by
      have same : Beside site (t.perform site.suite r).2.state s.state :=
        ⟨beside.tree.trans (idle none).symm, (beside.base.trans kept.place).trans next.place.symm,
          beside.mind⟩
      rw [List.filterMap_cons_none none, outcomes, none]
      exact ih next later admitted same
    obtain ⟨who, move, a⟩ := t
    cases move with
    | opens => exact idles rfl
    | enters q => exact idles rfl
    | asks => exact idles rfl
    | calls c =>
      obtain ⟨same, beside⟩ := beside.call kept a (entitled c rfl)
      exact congrArg₂ List.cons same (ih next later admitted beside)

theorem Kept.key_there (kept : Kept site inside r.state) {before later : List Turn} {t : Turn}
    (within : ∀ u ∈ before ++ t :: later, u.Within words) {c : Crypto.Curve}
    (call : t.move = .calls (.generateKey c)) {k : KeyHandle}
    (made : (t.perform site.suite (Tenants.after site.suite before r)).1 = .ok (.key k))
    (spared : ∀ u ∈ later, u.Spares site.base (keyAt site.location k.keyId)) :
    (Tenants.after site.suite (before ++ t :: later) r).state.tree.node?
      (keyAt site.location k.keyId) ≠ none := by
  obtain ⟨earlier, rest⟩ := List.forall_mem_append.mp within
  obtain ⟨now, remaining⟩ := List.forall_mem_cons.mp rest
  have begun := kept.after apart own earlier
  obtain ⟨who, move, a⟩ := t
  obtain rfl : move = .calls (.generateKey c) := call
  rw [after_append]
  apply (begun.turn now apart own).1.there_after apart own remaining spared
  exact Call.key_there (begun.known who) now.fair (begun.houses _) rfl rfl made

theorem Kept.enters (kept : Kept site inside r.state)
    (there : r.state.tree.node? (passwordAt site.location) ≠ none) (who : Nat) (a : Surroundings) :
    let t : Turn := ⟨who, .enters site.password, a⟩
    who ∈ t.letIn site.password (t.perform site.suite r).1 inside := by
  intro t
  have answer := Turn.answer_enters site.suite who site.password a r
  obtain ⟨_, entered, _⟩ | ⟨_, _, vain⟩ :=
    Site.start_login_here (kept.houses t) apart own own
  · have told : t.letIn site.password (.ok (.value (.bool true))) inside = who :: inside :=
      if_pos rfl
    rw [answer, entered]
    change who ∈ t.letIn site.password (.ok (.value (.bool true))) inside
    rw [told]
    exact List.mem_cons_self
  · exact absurd (vain rfl) there

end

/-! ### From an empty directory -/

theorem kept_joined {d : Run Directory.State} (blank : d.state.Blank site.location)
    (place : d.state.base = site.base)
    (word : Directory.isToken d.state.around.token = true) (first : Nat) :
    let founded := start (founding site.suite site.password) d
    let begun := (joined site.suite site.password first d).state
    founded.1 = .ok () ∧ Kept site [first] begun ∧ Beside site begun founded.2.state ∧
      begun.tree.node? (passwordAt site.location) ≠ none := by
  obtain ⟨s, journal, founds, houses, mind, there⟩ := Site.start_founding blank place word
  have ended : start (founding site.suite site.password) d = (.ok (), ⟨s, journal, d.operation⟩) :=
    founds
  rw [joined, ended]
  refine ⟨rfl, ⟨houses.place, houses.furnished, fun n => ?_, fun n member => ?_⟩, ⟨rfl, rfl, mind⟩,
    there⟩
  · change site.Known (if n = first then s.password else none)
    split
    · exact houses.known
    · exact .inl rfl
  · change (if n = first then s.password else none) = _
    rw [if_pos (List.mem_singleton.mp member)]
    exact mind

theorem within_words {turns : List Turn} (fair : ∀ t ∈ turns, t.Fair) (p : Text) :
    ∀ t ∈ turns, t.Within (p :: turns.filterMap Turn.word?) := fun t member =>
  ⟨fair t member, fun _ named =>
    List.mem_cons_of_mem _ (List.mem_filterMap.mpr ⟨t, member, named⟩)⟩

def keyNode (suite : Suite) (password : Text) (content : Bytes) (k : PrivateKey) : Node :=
  let plain := KeyFile.plainBytes suite k
  let block : Pem.Block :=
    if password = [] then ⟨"PRIVATE KEY", plain⟩
    else ⟨"ENCRYPTED PRIVATE KEY", KeyFile.sealedBytes suite plain content⟩
  .file 0o600 (Directory.asciiBytes block.spell)

/-- A store is opened on an empty directory and given a password, and others join it.  Whichever of
them the calls that follow are handed to, they have the outcomes that they have where the one store
makes them all, if who uses keys has entered the password or the password is empty.  The file of
every key is enciphered just if the password is not empty, and a key that is made and not taken away
can be loaded by all who are unlocked. -/
theorem outcomes_alone {suite : Suite} (onCurve : suite.OnCurve) (deciphers : suite.Deciphers)
    {password : Text} {content : Bytes} (sealable : Directory.Sealable password content)
    {turns : List Turn} (apart : suite.TellsApart (password :: turns.filterMap Turn.word?))
    (fair : ∀ t ∈ turns, t.Fair) {d : Run Directory.State} {l : Location}
    (blank : d.state.Blank l) (word : Directory.isToken d.state.around.token = true) {first : Nat}
    (admitted : Admitted suite password turns [first] (joined suite password first d)) :
    let founded := start (founding suite password) d
    let begun := joined suite password first d
    let last := (after suite turns begun).state
    founded.1 = .ok () ∧
      outcomes suite turns begun = alone suite (turns.filterMap Turn.call?) founded.2 ∧
      (∀ name n, last.tree.node? (keysAt l ++ [name]) = some n → ∃ k : PrivateKey, k.Valid ∧
        name = keyFile (suite.handleOf k).keyId ∧ n = keyNode suite password content k) ∧
      (∀ before t later c k, turns = before ++ t :: later → t.move = .calls (.generateKey c) →
        (t.perform suite (after suite before begun)).1 = .ok (.key k) →
        (∀ u ∈ later, u.Spares d.state.base (keyAt l k.keyId)) →
        ∀ who, ((store who).get last).requireUnlocked = .ok () → ∃ key : PrivateKey, key.Valid ∧
          (suite.handleOf key).keyId = k.keyId ∧
          ((store who).get last).loadKey suite k.keyId = .ok key) ∧
      ((∀ t ∈ turns, t.Spares d.state.base (passwordAt l)) → ∀ who,
        password = [] ∨ who ∈ insiders suite password turns [first] begun →
        ((store who).get last).requireUnlocked = .ok ()) := by
  let site : Site :=
    ⟨suite, onCurve, deciphers, password, content, sealable, d.state.base, blank.nameable,
      blank.room, l⟩
  intro founded begun last
  obtain ⟨founds, kept, beside, record⟩ := @kept_joined site d blank rfl word first
  have own : password ∈ password :: turns.filterMap Turn.word? := List.mem_cons_self
  have within := within_words fair password
  have kept_last : Kept site (insiders suite password turns [first] begun) last :=
    kept.after apart own within
  have houses_last (who : Nat) : site.Houses ((store who).get last) :=
    ⟨kept_last.place, kept_last.known who, kept_last.furnished⟩
  refine ⟨founds, kept.outcomes_eq apart own within admitted beside, fun name n present => ?_,
    fun before t later c k split call made spared who unlocked => ?_, fun spared who inside => ?_⟩
  · obtain ⟨k, valid, named, rfl⟩ := kept_last.furnished.keyFiles name n present
    refine ⟨k, valid, named, ?_⟩
    rw [Site.keyNode, Site.keyBlock_eq]
    rfl
  · have present := kept.key_there apart own (split ▸ within) call made spared
    rw [← split] at present
    exact (houses_last who).loadKey_of_unlocked unlocked present
  · exact (houses_last who).unlocked_of_mind (kept_last.mind inside)
      (kept.there_after apart own within spared record)

/-- One store makes a key, another enters the password and makes one too. -/
theorem outcomes_alone_two :
    let d : Run Directory.State := ⟨Provider.emptyDirectory, [], none⟩
    let make (who : Nat) : Turn := ⟨who, .calls (.generateKey .p256), Provider.atTime 0⟩
    let turns := [make 0, ⟨1, .enters "s3cret", Provider.atTime 1⟩, make 1]
    Admitted Suite.lenient "s3cret" turns [0] (joined Suite.lenient "s3cret" 0 d) ∧
      outcomes Suite.lenient turns (joined Suite.lenient "s3cret" 0 d)
        = alone Suite.lenient (turns.filterMap Turn.call?)
          (start (founding Suite.lenient "s3cret") d).2 ∧
      ((store 1).get (after Suite.lenient turns
        (joined Suite.lenient "s3cret" 0 d)).state).requireUnlocked = .ok () := by
  intro d make turns
  obtain ⟨⟨l, blank⟩, word⟩ := Provider.blank_emptyDirectory
  have sealable : Directory.Sealable "s3cret" [115, 51, 99, 114, 101, 116] := ⟨rfl, by decide⟩
  have keys (n : Int) : ∀ c k, ((Provider.atTime n).drawKey c).1 = .ok k → k.Valid := by
    have order : ∀ c ∈ Crypto.Curve.all, 1 < c.parameters.n := by decide +kernel
    intro c k drew
    cases drew
    exact ⟨Nat.le_refl 1, order c (Crypto.Curve.mem_all c)⟩
  have ticks : ∀ n ∈ [(0 : Int), 1], n.natAbs < 10 ^ 100 := by decide
  have fair : ∀ t ∈ turns, t.Fair :=
    List.forall_mem_cons.mpr ⟨⟨word, ticks 0 (by decide), keys 0⟩, List.forall_mem_cons.mpr
      ⟨⟨word, ticks 1 (by decide), keys 1⟩, List.forall_mem_singleton.mpr
      ⟨word, ticks 0 (by decide), keys 0⟩⟩⟩
  have apart := Suite.tellsApart_lenient ("s3cret" :: turns.filterMap Turn.word?)
  let site : Site := ⟨Suite.lenient, Suite.onCurve_lenient, Suite.lawful_lenient.deciphers,
    "s3cret", _, sealable, d.state.base, blank.nameable, blank.room, l⟩
  obtain ⟨_, kept, _, record⟩ := @kept_joined site d blank rfl word 0
  have made : (make 0).Within _ := within_words fair "s3cret" _ List.mem_cons_self
  have spared (q : Path) (no : q ∈ ([] : List Path)) : Tree.goal q ≠ passwordAt l := nomatch no
  obtain ⟨next, changes, _⟩ := kept.turn made apart List.mem_cons_self
  have entered := next.enters apart List.mem_cons_self (changes.keeps spared record) 1
    (Provider.atTime 1)
  have admitted : Admitted Suite.lenient "s3cret" turns [0] (joined Suite.lenient "s3cret" 0 d) :=
    ⟨fun _ _ _ => .inr List.mem_cons_self, (fun _ impossible => nomatch impossible),
      fun _ _ _ => .inr entered, trivial⟩
  have inside : 1 ∈ insiders Suite.lenient "s3cret" turns [0]
      (joined Suite.lenient "s3cret" 0 d) := by
    have stays (o : Except Fault Answer) (inside : List Nat) :
        (make 1).letIn "s3cret" o inside = inside := rfl
    rw [insiders, insiders, insiders, insiders, stays]
    exact entered
  obtain ⟨_, same, _, _, unlocked⟩ := outcomes_alone Suite.onCurve_lenient
    Suite.lawful_lenient.deciphers sealable apart fair blank word admitted
  exact ⟨admitted, same, unlocked (List.forall_mem_cons.mpr
    ⟨spared, List.forall_mem_cons.mpr ⟨spared, List.forall_mem_singleton.mpr spared⟩⟩) 1
    (.inr inside)⟩

end Tenants

end CertKeeper
