import CertKeeper.Proofs.Provider

/-!
# Passwords of both stores

What the stores make of passwords that are set and entered.  Once a password that is not empty has
been set, the store in a directory is open to whoever set it, and the store in memory is closed
until it is entered.  Main statement: `Credentials.same_iff`.
-/

namespace CertKeeper

open CertKeeper.Action (Leads start)

/-- What counts of the calls so far: the password that was set first, and whether it has been
entered since. -/
structure Credentials where
  password : Option Text
  entered : Bool
deriving DecidableEq, Repr

namespace Credentials

/-! ### Calls and replies -/

inductive Call where
  | initPassword (p : Text)
  | login (p : Text)
  | needsUserInit
  | needsLogin
  | isLoggedIn
  | generateKey (c : Crypto.Curve)
deriving DecidableEq, Repr

inductive Reply where
  | done
  | value (v : Value)

def Call.perform {σ : Type} (store : KeyStore σ) : Call → Action σ Reply
  | initPassword p => do
    store.initPassword p
    return .done
  | login p => do return .value (← store.login p)
  | needsUserInit => do return .value (← store.needsUserInit)
  | needsLogin => do return .value (← store.needsLogin)
  | isLoggedIn => do return .value (← store.isLoggedIn)
  | generateKey c => do
    let _ ← store.generateKey c
    return .done

def Call.password? : Call → Option Text
  | initPassword p | login p => some p
  | _ => none

def new : Credentials := ⟨none, false⟩

def after (c : Credentials) : Call → Credentials
  | .initPassword p => if c.password = none then { c with password := some p } else c
  | .login p => if c.password = some p then { c with entered := true } else c
  | _ => c

def isProtected (c : Credentials) : Bool := c.password.any (!·.isEmpty)

/-- Who counts as logged in: in memory who has entered the password, in a directory who has set or
entered one that is not empty. -/
def isLoggedIn (c : Credentials) : Provider → Bool
  | .memory => c.entered
  | .directory => c.isProtected

def reply (c : Credentials) (p : Provider) : Call → Option Reply
  | .initPassword _ => if c.password = none then some .done else none
  | .login q => some (.value (.bool (decide (c.password = some q))))
  | .needsUserInit => some (.value (.bool c.password.isNone))
  | .needsLogin => some (.value (.bool c.isProtected))
  | .isLoggedIn => some (.value (.bool (c.isLoggedIn p)))
  | .generateKey _ =>
    if c.password.isSome && (!c.isProtected || c.isLoggedIn p) then some .done else none

def Gives (o : Except Fault Reply) : Option Reply → Prop
  | some r => o = .ok r
  | none => ∃ f, o = .error f ∧ f.failure.isKeyStore = true

/-! ### Stores that know a password -/

/-- A store knows what counts of the calls so far. -/
def Kept (suite : Suite) (c : Credentials) : (p : Provider) → p.State → Prop
  | .memory => fun s => s.store.password = c.password ∧ s.store.loggedIn = c.entered
  | .directory => fun s => ∃ l, s.Guarded suite l c.password

/-- Passwords that stores take. -/
def Sealable (p : Text) : Prop := ∃ content, Directory.Sealable p content

variable {suite : Suite} {c : Credentials}

/-! ### The store in memory -/

theorem memory_initPassword {r : Run Memory.State} (kept : c.Kept suite .memory r.state)
    (p : Text) :
    let ended := start ((Call.initPassword p).perform (Memory.keyStore suite)) r
    Gives ended.1 (c.reply .memory (.initPassword p)) ∧
      (c.after (.initPassword p)).Kept suite .memory ended.2.state := by
  obtain ⟨password, entered⟩ := kept
  cases set : c.password with
  | none =>
    obtain ⟨journal, initialised⟩ := Memory.start_initPassword (password.trans set) p
    have ended : start ((Call.initPassword p).perform (Memory.keyStore suite)) r = _ :=
      Action.start_bind_ok initialised _
    rw [ended]
    simp only [Gives, reply, after, set, if_true]
    exact ⟨rfl, rfl, entered⟩
  | some w =>
    have refused : start (Memory.initPassword p) r
        = (.error (Fault.keyStore "Key store password is already set"),
          ⟨⟨r.state.store.touch, r.state.around⟩, r.journal, r.operation⟩) := by
      unfold Memory.initPassword
      rw [Action.start_bind_ok (Memory.start_touch r)]
      have there : r.state.store.touch.password.isSome = true := by
        change r.state.store.password.isSome = true
        rw [password, set]
        rfl
      rw [there]
      rfl
    have ended : start ((Call.initPassword p).perform (Memory.keyStore suite)) r = _ :=
      Action.start_bind_error refused _
    rw [ended]
    simp only [Gives, reply, after, set, reduceCtorEq, if_false]
    exact ⟨⟨_, rfl, rfl⟩, password, entered⟩

theorem memory_login {r : Run Memory.State} (kept : c.Kept suite .memory r.state) (p : Text) :
    let ended := start ((Call.login p).perform (Memory.keyStore suite)) r
    Gives ended.1 (c.reply .memory (.login p)) ∧
      (c.after (.login p)).Kept suite .memory ended.2.state := by
  obtain ⟨password, entered⟩ := kept
  have same : r.state.store.touch.password = c.password := password
  by_cases right : c.password = some p
  · have let_in : start (Memory.login p) r = (.ok (.bool true), ⟨⟨{ r.state.store.touch with
        loggedIn := true }, r.state.around⟩, r.journal, r.operation⟩) := by
      unfold Memory.login
      rw [Action.start_bind_ok (Memory.start_touch r), if_pos (same.trans right)]
      rfl
    have ended : start ((Call.login p).perform (Memory.keyStore suite)) r = _ :=
      Action.start_bind_ok let_in _
    rw [ended]
    simp only [Gives, reply, after, if_pos right, decide_eq_true right]
    exact ⟨rfl, password, rfl⟩
  · have kept_out : start (Memory.login p) r = (.ok (.bool false),
        ⟨⟨r.state.store.touch, r.state.around⟩, r.journal, r.operation⟩) := by
      unfold Memory.login
      rw [Action.start_bind_ok (Memory.start_touch r), if_neg (same ▸ right)]
      rfl
    have ended : start ((Call.login p).perform (Memory.keyStore suite)) r = _ :=
      Action.start_bind_ok kept_out _
    rw [ended]
    simp only [Gives, reply, after, if_neg right, decide_eq_false right]
    exact ⟨rfl, password, entered⟩

theorem memory_locked {s : Memory.Store} (password : s.password = c.password)
    (entered : s.loggedIn = c.entered) :
    (s.locked = none ∧ (c.password.isSome && (!c.isProtected || c.entered)) = true) ∨
      ∃ f, s.locked = some f ∧ f.failure.isKeyStore = true ∧
        (c.password.isSome && (!c.isProtected || c.entered)) = false := by
  unfold Memory.Store.locked Memory.Store.isProtected isProtected
  rw [password, entered]
  cases c.password with
  | none => exact Or.inr ⟨_, rfl, rfl, rfl⟩
  | some p =>
    cases p with
    | nil => exact Or.inl ⟨rfl, rfl⟩
    | cons x p =>
      cases c.entered with
      | false => exact Or.inr ⟨_, rfl, rfl, rfl⟩
      | true => exact Or.inl ⟨rfl, rfl⟩

theorem memory_generateKey {r : Run Memory.State} (kept : c.Kept suite .memory r.state)
    {curve : Crypto.Curve} {k : PrivateKey} {a : Surroundings}
    (drew : r.state.around.drawKey curve = (.ok k, a)) :
    let ended := start ((Call.generateKey curve).perform (Memory.keyStore suite)) r
    Gives ended.1 (c.reply .memory (.generateKey curve)) ∧
      (c.after (.generateKey curve)).Kept suite .memory ended.2.state := by
  obtain ⟨password, entered⟩ := kept
  rcases @memory_locked c r.state.store.touch password entered with
    ⟨unlocked, open_⟩ | ⟨f, locked, own, closed⟩
  · have made : start (Memory.generateKey suite curve) r = (.ok (suite.handleOf k),
        ⟨⟨r.state.store.touch.putKey (suite.handleOf k).keyId k, a⟩, r.journal, r.operation⟩) := by
      unfold Memory.generateKey
      rw [Action.start_bind_ok (Memory.start_touch r),
        Action.start_bind_ok (Memory.start_unlocked unlocked _), Action.start_bind,
        Action.start_refine, Memory.start_drawn]
      simp only [drew]
      rfl
    have ended : start ((Call.generateKey curve).perform (Memory.keyStore suite)) r = _ :=
      Action.start_bind_ok made _
    rw [ended]
    simp only [Gives, reply, isLoggedIn, open_, if_true]
    exact ⟨rfl, password, entered⟩
  · have refused : start (Memory.generateKey suite curve) r
        = (.error f, ⟨⟨r.state.store.touch, r.state.around⟩, r.journal, r.operation⟩) := by
      unfold Memory.generateKey
      rw [Action.start_bind_ok (Memory.start_touch r)]
      exact Action.start_bind_error (Memory.start_locked locked _) _
    have ended : start ((Call.generateKey curve).perform (Memory.keyStore suite)) r = _ :=
      Action.start_bind_error refused _
    rw [ended]
    simp only [Gives, reply, isLoggedIn, closed, Bool.false_eq_true, if_false]
    exact ⟨⟨f, rfl, own⟩, password, entered⟩

theorem memory_replies {call : Call} {r : Run Memory.State} (kept : c.Kept suite .memory r.state)
    (draws : ∀ curve, call = .generateKey curve →
      ∃ k a, r.state.around.drawKey curve = (.ok k, a) ∧ k.Valid) :
    Gives (start (call.perform (Memory.keyStore suite)) r).1 (c.reply .memory call) ∧
      (c.after call).Kept suite .memory
        (start (call.perform (Memory.keyStore suite)) r).2.state := by
  cases call with
  | initPassword p => exact memory_initPassword kept p
  | login p => exact memory_login kept p
  | needsUserInit =>
    refine ⟨?_, kept⟩
    simp only [Gives, reply, ← kept.1]
    rfl
  | needsLogin =>
    refine ⟨?_, kept⟩
    simp only [Gives, reply, isProtected, ← kept.1]
    rfl
  | isLoggedIn =>
    refine ⟨?_, kept⟩
    simp only [Gives, reply, isLoggedIn, ← kept.2]
    rfl
  | generateKey curve =>
    obtain ⟨k, a, drew, _⟩ := draws curve rfl
    exact memory_generateKey kept drew

/-! ### The store in a directory -/

theorem directory_initPassword {r : Run Directory.State} (kept : c.Kept suite .directory r.state)
    (word : Directory.isToken r.state.around.token = true) {p : Text} (sealable : Sealable p) :
    let ended := start ((Call.initPassword p).perform (Directory.keyStore suite)) r
    Gives ended.1 (c.reply .directory (.initPassword p)) ∧
      (c.after (.initPassword p)).Kept suite .directory ended.2.state := by
  obtain ⟨l, guarded⟩ := kept
  cases set : c.password with
  | none =>
    rw [set] at guarded
    obtain ⟨content, sealable⟩ := sealable
    obtain ⟨s, journal, initialised, layout, recorded, password, _⟩ :=
      Directory.start_initPassword guarded.layout guarded.recorded word trivial sealable
        guarded.password
    have ended : start ((Call.initPassword p).perform (Directory.keyStore suite)) r = _ :=
      Action.start_bind_ok initialised _
    rw [ended]
    simp only [Gives, reply, after, set, if_true]
    exact ⟨rfl, l, layout, recorded, password⟩
  | some w =>
    rw [set] at guarded
    obtain ⟨_, _, _, record⟩ := guarded.layout.passwordRecord?_some guarded.recorded
    have ended : start ((Call.initPassword p).perform (Directory.keyStore suite)) r = _ :=
      Action.start_bind_error (Directory.start_passwordSet record p) _
    rw [ended]
    simp only [Gives, reply, after, set, reduceCtorEq, if_false]
    exact ⟨⟨_, rfl, rfl⟩, l, set ▸ guarded⟩

theorem directory_login {r : Run Directory.State} (kept : c.Kept suite .directory r.state)
    {words : List Text} (apart : suite.TellsApart words)
    (known : ∀ p, c.password = some p → p ∈ words) {p : Text} (word : p ∈ words)
    (sealable : Sealable p) :
    let ended := start ((Call.login p).perform (Directory.keyStore suite)) r
    Gives ended.1 (c.reply .directory (.login p)) ∧
      (c.after (.login p)).Kept suite .directory ended.2.state := by
  obtain ⟨l, guarded⟩ := kept
  obtain ⟨content, encoded, _⟩ := sealable
  have verified : ∀ p', c.password = some p' → ∀ salt content', Utf8.encode p' = .ok content' →
      (suite.stretch salt content = suite.stretch salt content' ↔ p = p') := by
    intro p' set salt content' encoded'
    refine ⟨fun same => apart p word p' (known p' set) salt _ _ encoded encoded' same,
      fun same => ?_⟩
    rw [same, encoded'] at encoded
    rw [Except.ok.inj encoded]
  obtain ⟨journal, let_in⟩ := Directory.start_login guarded encoded verified
  have ended : start ((Call.login p).perform (Directory.keyStore suite)) r = _ :=
    Action.start_bind_ok let_in _
  rw [ended]
  have password : (c.after (.login p)).password = c.password := by
    unfold after
    by_cases right : c.password = some p
    · simp only [if_pos right]
    · simp only [if_neg right]
  refine ⟨rfl, l, ?_⟩
  rw [password]
  exact guarded

theorem directory_generateKey (laws : suite.Lawful) {r : Run Directory.State}
    (kept : c.Kept suite .directory r.state)
    (word : Directory.isToken r.state.around.token = true) {curve : Crypto.Curve} {k : PrivateKey}
    {a : Surroundings} (drew : r.state.around.drawKey curve = (.ok k, a)) (valid : k.Valid) :
    let ended := start ((Call.generateKey curve).perform (Directory.keyStore suite)) r
    Gives ended.1 (c.reply .directory (.generateKey curve)) ∧
      (c.after (.generateKey curve)).Kept suite .directory ended.2.state := by
  obtain ⟨l, guarded⟩ := kept
  cases set : c.password with
  | none =>
    have locked := guarded.layout.requireUnlocked_none (set ▸ guarded.recorded)
    have ended : start ((Call.generateKey curve).perform (Directory.keyStore suite)) r = _ :=
      Action.start_bind_error (Action.start_bind_error (Directory.start_ask_error locked) _) _
    rw [ended]
    simp only [Gives, reply, set, Option.isSome_none, Bool.false_and, Bool.false_eq_true, if_false]
    exact ⟨⟨_, rfl, rfl⟩, l, guarded⟩
  | some p =>
    have unlocked := (set ▸ guarded : r.state.Guarded suite l (some p)).unlocked
    obtain ⟨t, journal, made, other, layout, _⟩ := Directory.start_generateKey laws.onCurve
      laws.deciphers guarded.layout word trivial unlocked drew valid
    have ended : start ((Call.generateKey curve).perform (Directory.keyStore suite)) r = _ :=
      Action.start_bind_ok made _
    have same := other _ (Directory.passwordAt_ne_keyAt l (suite.handleOf k).keyId)
    have recorded : (r.state.onto t a).Recorded suite l c.password := by
      have before := guarded.recorded
      rw [set] at before ⊢
      obtain ⟨mode, salt, content, encoded, there⟩ := before
      exact ⟨mode, salt, content, encoded, same.trans there⟩
    have replied : c.reply .directory (.generateKey curve) = some .done := by
      simp only [reply, isLoggedIn, set, Option.isSome_some, Bool.true_and, Bool.not_or_self,
        if_true]
    rw [ended, replied]
    exact ⟨rfl, l, layout, recorded, guarded.password⟩

theorem directory_needsUserInit {r : Run Directory.State}
    (kept : c.Kept suite .directory r.state) :
    let ended := start (Call.needsUserInit.perform (Directory.keyStore suite)) r
    Gives ended.1 (c.reply .directory .needsUserInit) ∧
      (c.after .needsUserInit).Kept suite .directory ended.2.state := by
  obtain ⟨l, guarded⟩ := kept
  have ended : start (Call.needsUserInit.perform (Directory.keyStore suite)) r
      = (.ok (.value (.bool c.password.isNone)), r) := by
    cases set : c.password with
    | none =>
      have record := guarded.layout.passwordRecord?_none (set ▸ guarded.recorded)
      exact Action.start_bind_ok (Action.start_bind_ok (Directory.start_ask_ok record) _) _
    | some p =>
      obtain ⟨_, _, _, record⟩ := guarded.layout.passwordRecord?_some (set ▸ guarded.recorded)
      exact Action.start_bind_ok (Action.start_bind_ok (Directory.start_ask_ok record) _) _
  rw [ended]
  exact ⟨rfl, l, guarded⟩

theorem directory_needsLogin {r : Run Directory.State} (kept : c.Kept suite .directory r.state) :
    let ended := start (Call.needsLogin.perform (Directory.keyStore suite)) r
    Gives ended.1 (c.reply .directory .needsLogin) ∧
      (c.after .needsLogin).Kept suite .directory ended.2.state := by
  obtain ⟨l, guarded⟩ := kept
  have needs : Directory.needsLogin r.state = .ok c.isProtected := by
    unfold Directory.needsLogin isProtected
    cases set : c.password with
    | none => rw [guarded.layout.passwordRecord?_none (set ▸ guarded.recorded)]; rfl
    | some p =>
      obtain ⟨_, _, _, record⟩ := guarded.layout.passwordRecord?_some (set ▸ guarded.recorded)
      rw [record]
      rfl
  have ended : start (Call.needsLogin.perform (Directory.keyStore suite)) r
      = (.ok (.value (.bool c.isProtected)), r) :=
    Action.start_bind_ok (Action.start_bind_ok (Directory.start_ask_ok needs) _) _
  rw [ended]
  exact ⟨rfl, l, guarded⟩

/-- Whoever is logged in to a directory has a password in mind, and nobody else has. -/
theorem directory_isLoggedIn {r : Run Directory.State} (kept : c.Kept suite .directory r.state) :
    let ended := start (Call.isLoggedIn.perform (Directory.keyStore suite)) r
    Gives ended.1 (c.reply .directory .isLoggedIn) ∧
      (c.after .isLoggedIn).Kept suite .directory ended.2.state := by
  obtain ⟨l, guarded⟩ := kept
  have known : r.state.password.isSome = c.isProtected := by
    rw [guarded.password, isProtected]
    cases c.password with
    | none => rfl
    | some p =>
      cases p with
      | nil => rfl
      | cons x p => rfl
  have ended : start (Call.isLoggedIn.perform (Directory.keyStore suite)) r
      = (.ok (.value (.bool r.state.password.isSome)), r) := rfl
  rw [ended, known]
  exact ⟨rfl, l, guarded⟩

theorem directory_replies (laws : suite.Lawful) {call : Call} {r : Run Directory.State}
    (kept : c.Kept suite .directory r.state)
    (token : Directory.isToken r.state.around.token = true)
    (draws : ∀ curve, call = .generateKey curve →
      ∃ k a, r.state.around.drawKey curve = (.ok k, a) ∧ k.Valid) {words : List Text}
    (apart : suite.TellsApart words) (known : ∀ p, c.password = some p → p ∈ words)
    (named : ∀ p, call.password? = some p → p ∈ words ∧ Sealable p) :
    Gives (start (call.perform (Directory.keyStore suite)) r).1 (c.reply .directory call) ∧
      (c.after call).Kept suite .directory
        (start (call.perform (Directory.keyStore suite)) r).2.state := by
  cases call with
  | initPassword p => exact directory_initPassword kept token (named p rfl).2
  | login p => exact directory_login kept apart known (named p rfl).1 (named p rfl).2
  | needsUserInit => exact directory_needsUserInit kept
  | needsLogin => exact directory_needsLogin kept
  | isLoggedIn => exact directory_isLoggedIn kept
  | generateKey curve =>
    obtain ⟨k, a, drew, valid⟩ := draws curve rfl
    exact directory_generateKey laws kept token drew valid

/-! ### Histories -/

structure Turn where
  call : Call
  memory : Surroundings
  directory : Surroundings

namespace Turn

def around (t : Turn) : Provider → Surroundings
  | .memory => t.memory
  | .directory => t.directory

def amid (t : Turn) (p : Provider) (r : Run p.State) : Run p.State :=
  ⟨p.amid r.state (t.around p), r.journal, r.operation⟩

/-- Passwords can be taken, and keys that are asked for are made. -/
structure Fair (t : Turn) : Prop where
  token : Directory.isToken t.directory.token = true
  sealable : ∀ p, t.call.password? = some p → Sealable p
  draws : ∀ p curve, t.call = .generateKey curve →
    ∃ k a, (t.around p).drawKey curve = (.ok k, a) ∧ k.Valid

end Turn

def of (history : List Turn) : Credentials := history.foldl (fun c t => c.after t.call) new

def run (suite : Suite) (p : Provider) : List Turn → Run p.State → Run p.State
  | [], r => r
  | t :: ts, r => run suite p ts (start (t.call.perform (p.keyStore suite)) (t.amid p r)).2

def outcome (suite : Suite) (p : Provider) (history : List Turn) (t : Turn) (r : Run p.State) :
    Except Fault Reply :=
  (start (t.call.perform (p.keyStore suite)) (t.amid p (run suite p history r))).1

def words (history : List Turn) : List Text := history.filterMap (·.call.password?)

variable {p : Provider} {history : List Turn}

theorem kept_amid {s : p.State} (kept : c.Kept suite p s) (a : Surroundings) :
    c.Kept suite p (p.amid s a) := by
  cases p with
  | directory =>
    obtain ⟨l, guarded⟩ := kept
    exact ⟨l, guarded.amid a⟩
  | memory => exact kept

theorem replies (laws : suite.Lawful) {t : Turn} (fair : t.Fair) {r : Run p.State}
    (kept : c.Kept suite p r.state) {words : List Text} (apart : suite.TellsApart words)
    (known : ∀ q, c.password = some q → q ∈ words)
    (named : ∀ q, t.call.password? = some q → q ∈ words) :
    Gives (start (t.call.perform (p.keyStore suite)) (t.amid p r)).1 (c.reply p t.call) ∧
      (c.after t.call).Kept suite p
        (start (t.call.perform (p.keyStore suite)) (t.amid p r)).2.state := by
  have kept' := kept_amid kept (t.around p)
  cases p with
  | directory =>
    exact directory_replies laws (r := t.amid .directory r) kept' fair.token
      (fair.draws .directory) apart known fun q hq => ⟨named q hq, fair.sealable q hq⟩
  | memory => exact memory_replies (r := t.amid .memory r) kept' (fair.draws .memory)

theorem known_after {words : List Text} (known : ∀ q, c.password = some q → q ∈ words)
    {call : Call} (named : ∀ q, call.password? = some q → q ∈ words) :
    ∀ q, (c.after call).password = some q → q ∈ words := by
  intro q same
  cases call with
  | initPassword p =>
    simp only [after] at same
    split at same
    · obtain rfl := Option.some.inj same
      exact named p rfl
    · exact known q same
  | login p =>
    simp only [after] at same
    split at same
    · exact known q same
    · exact known q same
  | _ => exact known q same

/-- A whole history: the store knows what counts of it. -/
theorem kept_run (laws : suite.Lawful) {words : List Text} (apart : suite.TellsApart words)
    (fair : ∀ t ∈ history, t.Fair) (named : ∀ q ∈ Credentials.words history, q ∈ words)
    {r : Run p.State} (kept : c.Kept suite p r.state)
    (known : ∀ q, c.password = some q → q ∈ words) :
    (history.foldl (fun c t => c.after t.call) c).Kept suite p (run suite p history r).state ∧
      ∀ q, (history.foldl (fun c t => c.after t.call) c).password = some q → q ∈ words := by
  -- Along the history; that the password is one of the words is carried on beside `Kept`, as only
  -- those are told apart.
  induction history generalizing c r with
  | nil => exact ⟨kept, known⟩
  | cons t ts ih =>
    obtain ⟨fair_t, fair_ts⟩ := List.forall_mem_cons.mp fair
    have named_t : ∀ q, t.call.password? = some q → q ∈ words := fun q hq =>
      named q (List.mem_filterMap.mpr ⟨t, List.mem_cons_self, hq⟩)
    have named_ts : ∀ q ∈ Credentials.words ts, q ∈ words := by
      intro q hq
      obtain ⟨u, hu, same⟩ := List.mem_filterMap.mp hq
      exact named q (List.mem_filterMap.mpr ⟨u, List.mem_cons_of_mem _ hu, same⟩)
    obtain ⟨_, kept'⟩ := replies laws fair_t kept apart known named_t
    exact ih fair_ts named_ts kept' (known_after known named_t)

theorem kept_new {r : Run p.State} (blank : p.Blank r.state) :
    new.Kept suite p (start p.openStore r).2.state := by
  cases p with
  | directory =>
    obtain ⟨⟨l, blank⟩, _⟩ := blank
    obtain ⟨s, journal, opened, vacant, forgotten, _⟩ := Directory.start_openStore blank
    have state : (start Provider.directory.openStore r).2.state = s :=
      congrArg (fun o => o.2.state) opened
    rw [state]
    exact ⟨l, vacant.layout, vacant.password, forgotten⟩
  | memory => exact ⟨blank.1, blank.2.1⟩

/-! ### Where the stores go apart -/

/-- Two outcomes are the same: the same reply, or a failure of the store's own on both sides. -/
def Same (o o' : Except Fault Reply) : Prop :=
  (∃ v, o = .ok v ∧ o' = .ok v) ∨ ∃ f f', o = .error f ∧ o' = .error f' ∧
    f.failure.isKeyStore = true ∧ f'.failure.isKeyStore = true

/-- What the stores take differently: whether whoever set a password counts as logged in, and then
may make keys, and whether entering the empty password counts. -/
def Apart (c : Credentials) : Call → Prop
  | .isLoggedIn => c.isProtected ≠ c.entered
  | .generateKey _ => c.isProtected = true ∧ c.entered = false
  | _ => False

theorem same_iff_eq {o o' : Except Fault Reply} {x x' : Option Reply} (h : Gives o x)
    (h' : Gives o' x') : Same o o' ↔ x = x' := by
  cases x with
  | none =>
    obtain ⟨f, rfl, own⟩ := h
    cases x' with
    | none =>
      obtain ⟨f', rfl, own'⟩ := h'
      exact ⟨fun _ => rfl, fun _ => Or.inr ⟨f, f', rfl, rfl, own, own'⟩⟩
    | some v =>
      obtain rfl : o' = .ok v := h'
      refine ⟨?_, fun impossible => nomatch impossible⟩
      rintro (⟨_, impossible, _⟩ | ⟨_, _, _, impossible, _⟩)
      · cases impossible
      · cases impossible
  | some v =>
    obtain rfl : o = .ok v := h
    cases x' with
    | none =>
      obtain ⟨f', rfl, own'⟩ := h'
      refine ⟨?_, fun impossible => nomatch impossible⟩
      rintro (⟨_, _, impossible⟩ | ⟨_, _, impossible, _⟩)
      · cases impossible
      · cases impossible
    | some v' =>
      obtain rfl : o' = .ok v' := h'
      refine ⟨?_, fun same => Or.inl ⟨v, rfl, by rw [Option.some.inj same]⟩⟩
      rintro (⟨w, left, right⟩ | ⟨_, _, impossible, _⟩)
      · rw [Except.ok.inj left, Except.ok.inj right]
      · cases impossible

theorem reply_eq_iff (c : Credentials) (call : Call) :
    c.reply .memory call = c.reply .directory call ↔ ¬ c.Apart call := by
  cases call with
  | isLoggedIn =>
    simp only [reply, isLoggedIn, Apart, Option.some.injEq, Reply.value.injEq, Value.bool.injEq,
      ne_eq, not_not, eq_comm]
  | generateKey curve =>
    have set : c.isProtected = true → c.password.isSome = true := by
      unfold isProtected
      cases c.password with
      | none => intro impossible; cases impossible
      | some p => exact fun _ => rfl
    simp only [reply, isLoggedIn, Apart, Bool.not_or_self, Bool.and_true]
    cases closed : c.isProtected with
    | false => simp
    | true =>
      rw [set closed]
      rcases Bool.eq_false_or_eq_true c.entered with entered | entered
      · simp [entered]
      · simp [entered]
  | _ => exact ⟨fun _ => id, fun _ => rfl⟩

/-- After any history of calls on a new store in memory and on a new store in a directory, the next
call has the same outcome on both, unless it asks whether one is logged in where this is not the
same as having entered a password that is not empty, or for a key where such a password has been set
and not entered. -/
theorem same_iff (laws : suite.Lawful) {t : Turn} (fair : ∀ u ∈ history ++ [t], u.Fair)
    (apart : suite.TellsApart (words (history ++ [t]))) {m : Run (Provider.State .memory)}
    (blank : Provider.memory.Blank m.state) {d : Run (Provider.State .directory)}
    (blank' : Provider.directory.Blank d.state) :
    Same (outcome suite .memory history t (start Provider.memory.openStore m).2)
        (outcome suite .directory history t (start Provider.directory.openStore d).2) ↔
      ¬ (of history).Apart t.call := by
  obtain ⟨fair_history, fair_t⟩ := List.forall_mem_append.mp fair
  have named_t : ∀ q, t.call.password? = some q → q ∈ words (history ++ [t]) := fun q hq =>
    List.mem_filterMap.mpr ⟨t, List.mem_append_right _ List.mem_cons_self, hq⟩
  have named : ∀ q ∈ words history, q ∈ words (history ++ [t]) := by
    intro q hq
    rw [words, List.filterMap_append]
    exact List.mem_append_left _ hq
  have gives {p : Provider} {r : Run p.State} (blank : p.Blank r.state) :
      Gives (outcome suite p history t (start p.openStore r).2) ((of history).reply p t.call) := by
    obtain ⟨kept, known⟩ := kept_run laws apart fair_history named (kept_new blank)
      fun q impossible => nomatch impossible
    exact (replies laws (fair_t t List.mem_cons_self) kept apart known named_t).1
  exact (same_iff_eq (gives blank) (gives blank')).trans (reply_eq_iff _ _)

/-- Sets a password and asks whether one is logged in; the answer is no in memory and yes in a
directory. -/
theorem not_same_initPassword :
    let m : Run (Provider.State .memory) :=
      ⟨(⟨Memory.Store.new none, Provider.atTime 0⟩ : Memory.State), [], none⟩
    let d : Run (Provider.State .directory) := ⟨Provider.emptyDirectory, [], none⟩
    let set : Turn := ⟨.initPassword "s3cret", Provider.atTime 0, Provider.atTime 0⟩
    let ask : Turn := ⟨.isLoggedIn, Provider.atTime 0, Provider.atTime 0⟩
    ¬ Same (outcome Suite.lenient .memory [set] ask (start Provider.memory.openStore m).2)
      (outcome Suite.lenient .directory [set] ask (start Provider.directory.openStore d).2) := by
  intro m d set ask
  have token : Directory.isToken (Provider.atTime 0).token = true := by
    change Directory.isToken "0123456789abcdef0123456789abcdef" = true
    decide +kernel
  have fair : ∀ u ∈ [set] ++ [ask], u.Fair := by
    have sets : set.Fair := by
      refine ⟨token, fun p named => ?_, by simp [set]⟩
      cases named
      exact ⟨[115, 51, 99, 114, 101, 116], rfl, by decide⟩
    have asks : ask.Fair := ⟨token, by simp [ask, Call.password?], by simp [ask]⟩
    exact List.forall_mem_cons.mpr ⟨sets, List.forall_mem_singleton.mpr asks⟩
  have parted : (of [set]).Apart ask.call := by
    change (of [set]).isProtected ≠ (of [set]).entered
    decide
  intro same
  exact (same_iff Suite.lawful_lenient fair (Suite.tellsApart_lenient _) (m := m)
    ⟨rfl, rfl, rfl, rfl, rfl⟩ (d := d) Provider.blank_emptyDirectory).mp same parted

end Credentials

end CertKeeper
