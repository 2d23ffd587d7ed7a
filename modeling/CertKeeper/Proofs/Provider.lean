import CertKeeper.Proofs.Store.Directory.Credentials
import CertKeeper.Proofs.Store.Memory
import CertKeeper.Provider

/-!
# Both stores at once

The store that a provider stands for, what it holds, and how a new one begins.  Main statements:
`Provider.keeps` and `Provider.start_initialise`.
-/

namespace CertKeeper

open CertKeeper.Action (Leads start)

/-! ### A new store in memory -/

namespace Memory

/-- A store that holds nothing and has no password yet. -/
def State.Vacant (s : State) : Prop := s.store.password = none ∧ s.store.loggedIn = false ∧
  s.store.keys = [] ∧ s.store.entries = [] ∧ s.store.available = true

theorem wellFormed_of_vacant {s : State} (entries : s.store.entries = []) : s.WellFormed := by
  refine ⟨⟨?_, ?_, key?_of_not _⟩, ?_⟩
  · change (s.store.entries.map Entry.handle).Nodup
    rw [entries]
    exact List.nodup_nil
  · change ∀ e ∈ s.store.entries, _
    rw [entries]
    exact List.forall_mem_nil _
  · rw [entries]
    exact List.forall_mem_nil _

theorem hasKey_of_vacant {s : Store} (keys : s.keys = []) (id : Text) : s.hasKey id = false := by
  rw [Store.hasKey, keys]
  rfl

theorem start_initPassword {r : Run State} (h : r.state.store.password = none) (p : Text) :
    ∃ journal, start (initPassword p) r = (.ok (), ⟨⟨{ r.state.store.touch with
      password := some p }, r.state.around⟩, journal, r.operation⟩) := by
  refine ⟨r.journal ++ [⟨.info, "Initialized in-memory key store password", r.operation⟩], ?_⟩
  unfold initPassword touch
  rw [Action.start_bind_ok (Action.start_take _ _)]
  have none_ : r.state.store.touch.password.isSome = false := by
    change r.state.store.password.isSome = false
    rw [h]
    rfl
  simp only [none_, Bool.false_eq_true, if_false]
  rfl

end Memory

namespace Provider

variable {suite : Suite} {fresh : Text → Prop}

/-! ### Stores -/

def State : Provider → Type
  | directory => Directory.State
  | memory => Memory.State

def keyStore (suite : Suite) : (p : Provider) → KeyStore p.State
  | directory => Directory.keyStore suite
  | memory => Memory.keyStore suite

def book (suite : Suite) : (p : Provider) → p.State → Book
  | directory => Directory.State.book suite
  | memory => Memory.State.book

def amid : (p : Provider) → p.State → Surroundings → p.State
  | directory => fun s a => s.onto s.tree a
  | memory => fun s a => ⟨s.store, a⟩

/-- A store that can be worked with.  In a directory, temporary names of the words in `fresh` are
not in use. -/
def Sound (fresh : Text → Prop) : (p : Provider) → p.State → Prop
  | directory => fun s => ∃ l, s.Layout fresh l
  | memory => Memory.State.WellFormed

/-- Surroundings that are fit for a new entry. -/
def Ready (fresh : Text → Prop) : Provider → Book → Prop
  | directory => Directory.Ready fresh
  | memory => fun _ => True

def Newest : Provider → Book → Prop
  | directory => Directory.Newest
  | memory => fun _ => True

/-- A store that can be worked with, and what it holds. -/
def Shows (fresh : Text → Prop) (suite : Suite) (p : Provider) (s : p.State) (b : Book) : Prop :=
  p.Sound fresh s ∧ p.book suite s = b

/-- Both stores keep their books. -/
theorem keeps (laws : suite.Lawful) (fresh : Text → Prop) (p : Provider) :
    (p.keyStore suite).Keeps suite (p.Shows fresh suite) (p.Ready fresh) p.Newest := by
  cases p with
  | directory => exact Directory.keeps laws.onCurve laws.deciphers fresh
  | memory => exact Memory.keeps suite

theorem shows_amid {p : Provider} {s : p.State} {b : Book} (h : p.Shows fresh suite s b)
    (a : Surroundings) : p.Shows fresh suite (p.amid s a) (b.amid a) := by
  cases p with
  | directory =>
    obtain ⟨⟨l, layout⟩, rfl⟩ := h
    exact ⟨⟨l, layout.amid a⟩, rfl⟩
  | memory => exact Memory.shows_amid h a

/-! ### Keys and refusals -/

/-- Surroundings that are fit for a new key. -/
def Able (fresh : Text → Prop) : Provider → Surroundings → Prop
  | directory => fun a => Directory.isToken a.token = true ∧ fresh a.token
  | memory => fun _ => True

/-- A text that can be a handle of an entry. -/
def CanName : Provider → Text → Prop
  | directory => fun handle => FileName (Directory.entryFile handle)
  | memory => fun _ => True

variable {p : Provider} {b : Book}

theorem leads_generateKey (laws : suite.Lawful) {c : Crypto.Curve} {k : PrivateKey}
    {a : Surroundings} (able : p.Able fresh b.around) (open_ : b.locked = none)
    (drew : b.around.drawKey c = (.ok k, a)) (valid : k.Valid) :
    Leads (p.Shows fresh suite · b) ((p.keyStore suite).generateKey c) fun o s =>
      p.Shows fresh suite s ((b.amid a).putKey (suite.handleOf k).keyId k) ∧
        o = .ok (suite.handleOf k) := by
  cases p with
  | directory =>
    exact Directory.leads_generateKey laws.onCurve laws.deciphers able.1 able.2 open_ drew valid
  | memory => exact (Memory.keeps suite).generateKey b c k a trivial open_ drew valid

theorem leads_delete_unknown {e : Entry} (name : p.CanName e.handle)
    (unknown : e.handle ∉ b.entries.map Entry.handle) :
    Leads (p.Shows fresh suite · b) ((p.keyStore suite).delete e) fun o s =>
      p.Shows fresh suite s b ∧
        o = .error (Fault.keyStore ("Unknown certificate entry " ++ e.handle)) := by
  cases p with
  | directory => exact Directory.leads_delete_unknown name unknown
  | memory => exact Memory.leads_delete_unknown unknown

theorem leads_sign_unknown {id : Text} (key : Book.isKeyId id = true) (open_ : b.locked = none)
    (unknown : b.held id = false) (t : X509.Template) (choice : X509.Template.DigestChoice) :
    Leads (p.Shows fresh suite · b) ((p.keyStore suite).sign id t choice) fun o s =>
      p.Shows fresh suite s b ∧ o = .error (Fault.keyStore ("Unknown key " ++ id)) := by
  cases p with
  | directory => exact Directory.leads_sign_unknown key open_ unknown t choice
  | memory => exact Memory.leads_sign_unknown open_ unknown suite t choice

/-! ### New stores -/

def Blank : (p : Provider) → p.State → Prop
  | directory => fun s => (∃ l, s.Blank l) ∧ Directory.isToken s.around.token = true
  | memory => Memory.State.Vacant

def openStore : (p : Provider) → Action p.State Unit
  | directory => Directory.openStore
  | memory => Memory.logMade

/-- Opens a store and gives it the empty password. -/
def initialise (suite : Suite) (p : Provider) : Action p.State Unit := do
  p.openStore
  (p.keyStore suite).initPassword []

/-- A new store with the empty password can be worked with and holds nothing. -/
theorem start_initialise {p : Provider} {r : Run p.State} (h : p.Blank r.state) :
    ∃ s journal, start (p.initialise suite) r = (.ok (), ⟨s, journal, r.operation⟩) ∧
      p.Sound (fun _ => True) s ∧ (p.book suite s).Empty := by
  cases p with
  | directory =>
    obtain ⟨⟨l, blank⟩, token⟩ := h
    obtain ⟨s, journal, opened, vacant, forgotten, around⟩ := Directory.start_openStore blank
    have sealable : Directory.Sealable [] [] := ⟨rfl, Nat.zero_le _⟩
    obtain ⟨s', journal', initialised, layout, recorded, _, entries, keys, _⟩ :=
      @Directory.start_initPassword _ suite l ⟨s, journal, r.operation⟩ vacant.layout
        vacant.password (around ▸ token) trivial _ _ sealable forgotten
    refine ⟨s', journal', ?_, ⟨l, layout⟩, ?_, ?_, ?_⟩
    · exact (Action.start_bind_ok opened _).trans initialised
    · refine entries.trans ?_
      change s.entryFiles.filterMap s.stored? = []
      rw [vacant.entryFiles]
      rfl
    · intro id
      change s'.hasKey id = false
      cases key : Book.isKeyId id with
      | false => exact Directory.State.Layout.hasKey_of_not key
      | true =>
        rw [layout.hasKey_eq key, keys id key, ← vacant.layout.hasKey_eq key]
        exact vacant.keyFiles id
    · have unlocked := layout.requireUnlocked_some recorded
      change s'.lockedBy = none
      unfold Directory.State.lockedBy
      rw [unlocked]
      rfl
  | memory =>
    obtain ⟨password, _, keys, entries, _⟩ := h
    obtain ⟨journal, initialised⟩ := @Memory.start_initPassword
      ⟨r.state, r.journal ++ [⟨.debug, "Initialized MemoryKeyStore", r.operation⟩], r.operation⟩
      password []
    exact ⟨_, journal, (Action.start_bind_ok rfl _).trans initialised,
      Memory.wellFormed_of_vacant entries, entries, Memory.hasKey_of_vacant keys, rfl⟩

/-! ### An empty directory -/

def atTime (t : Int) : Surroundings :=
  ⟨⟨Instant.wallOf 2024 6 1 12 0 0 0, some 0⟩, [7], 0, [], 1, t,
    "0123456789abcdef0123456789abcdef"⟩

def emptyDirectory : Directory.State := ⟨Tree.empty, ⟨some "/", []⟩, none, atTime 0⟩

theorem blank_emptyDirectory : directory.Blank emptyDirectory := by
  have free : ∀ l, l ≠ [] → Tree.empty.node? l = none := by
    intro l filled
    cases l with
    | nil => exact absurd rfl filled
    | cons n l => rfl
  have sound : Tree.empty.Sound := by
    refine ⟨List.nodup_nil, fun filled there => ?_⟩
    rw [free _ filled] at there
    cases there
  exact ⟨⟨[], sound, rfl, rfl, rfl, by decide, ⟨_, rfl⟩, fun name => free _ (by simp)⟩,
    by decide +kernel⟩

end Provider

end CertKeeper
