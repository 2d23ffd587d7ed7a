import CertKeeper.Proofs.Keeper.Unlock
import CertKeeper.Proofs.Store.Directory.Ground

/-!
# Unlocking either store

However passwords have been set and entered in a store, the question whether a login is needed
foretells what unlocking does, and unlocking ends with keys that can be used, or is denied to
whoever does not give the password.  Main statement: `Provider.unlocks`.
-/

namespace CertKeeper

open CertKeeper.Action (Leads start)

/-! ### What counts of the calls -/

namespace Credentials

/-- What counts once somebody has set a password.  Whoever sets one in a directory has it in mind,
unless it is empty, and one without an encoding is not set there. -/
def given (c : Credentials) : Provider → Text → Credentials
  | .memory, w => c.after (.initPassword w)
  | .directory, w =>
    if c.password = none ∧ (Utf8.encode w).isOk then ⟨some w, c.entered || !w.isEmpty⟩ else c

/-- What counts once somebody has tried a password.  In a directory the empty one is not kept in
mind. -/
def tried (c : Credentials) : Provider → Text → Credentials
  | .memory, w => c.after (.login w)
  | .directory, w => if c.password = some w then { c with entered := !w.isEmpty } else c

/-- What counts for whoever opens a store anew: in a directory nobody has entered anything. -/
def reopened (c : Credentials) : Provider → Credentials
  | .memory => c
  | .directory => { c with entered := false }

variable {c : Credentials} {w : Text}

theorem given_of_set (set : c.password ≠ none) : c.given .directory w = c :=
  if_neg fun both => set both.1

theorem given_of_refused {f : EncodeFault} (refused : Utf8.encode w = .error f) :
    c.given .directory w = c := by
  refine if_neg fun both => ?_
  rw [refused] at both
  cases both.2

theorem given_of_vacant (vacant : c.password = none) {content : Bytes}
    (encoded : Utf8.encode w = .ok content) :
    c.given .directory w = ⟨some w, c.entered || !w.isEmpty⟩ := by
  refine if_pos ⟨vacant, ?_⟩
  rw [encoded]
  rfl

theorem tried_of_right (right : c.password = some w) :
    c.tried .directory w = { c with entered := !w.isEmpty } := if_pos right

theorem tried_of_wrong (wrong : c.password ≠ some w) : c.tried .directory w = c := if_neg wrong

end Credentials

/-- A source of keys that fails, if it fails, otherwise than a store does. -/
def Surroundings.Candid (a : Surroundings) : Prop :=
  ∀ curve f, (a.drawKey curve).1 = .error f → f.failure.isKeyStore = false

theorem Surroundings.Candid.draw {a : Surroundings} (h : a.Candid) (n : Int) :
    (a.draw n).2.Candid := by
  have same (curve : Crypto.Curve) : ((a.draw n).2.drawKey curve).1 = (a.drawKey curve).1 := by
    have keys : (a.draw n).2.keys = a.keys ∧ (a.draw n).2.nextScalar = a.nextScalar := by
      unfold Surroundings.draw
      split
      · exact ⟨rfl, rfl⟩
      · exact ⟨rfl, rfl⟩
    unfold Surroundings.drawKey
    rw [keys.1, keys.2]
    cases a.keys with
    | nil => rfl
    | cons d ds =>
      cases d with
      | scalar n => rfl
      | refused e => rfl
  intro curve f failed
  exact h curve f ((same curve).symm.trans failed)

/-! ### The store in memory -/

namespace Memory

variable {suite : Suite} {c : Credentials}

theorem kept_initPassword (suite : Suite) {r : Run State} (h : c.Kept suite .memory r.state)
    (w : Text) : (c.given .memory w).Kept suite .memory (start (initPassword w) r).2.state := by
  have same := Action.state_map (initPassword w) (fun _ => Credentials.Reply.done) r
  rw [← same]
  exact (Credentials.memory_initPassword h w).2

theorem kept_login (suite : Suite) {r : Run State} (h : c.Kept suite .memory r.state) (w : Text) :
    (c.tried .memory w).Kept suite .memory (start (login w) r).2.state := by
  have same := Action.state_map (login w) Credentials.Reply.value r
  rw [← same]
  exact (Credentials.memory_login h w).2

theorem not_isShut_generateKey {r : Run State} {curve : Crypto.Curve} {e : Fault}
    (unlocked : r.state.store.locked = none) (candid : r.state.around.Candid)
    (failed : (start (generateKey suite curve) r).1 = .error e) : ¬ e.IsShut := by
  have open_ : r.state.store.touch.locked = none := unlocked
  unfold generateKey at failed
  rw [Action.start_bind_ok (start_touch r), Action.start_bind_ok (start_unlocked open_ _),
    Action.start_bind, Action.start_refine, start_drawn] at failed
  cases drew : r.state.around.drawKey curve with
  | mk outcome a =>
  simp only [drew] at failed
  cases outcome with
  | ok k => cases failed
  | error f =>
    cases failed
    exact not_isShut_ofGeneration (candid curve f (congrArg Prod.fst drew))

theorem not_isShut_sign {r : Run State} {id : Text} {t : X509.Template}
    {choice : X509.Template.DigestChoice} {e : Fault} (unlocked : r.state.store.locked = none)
    (failed : (start (sign suite id t choice) r).1 = .error e) : ¬ e.IsShut := by
  have open_ : r.state.store.touch.locked = none := unlocked
  unfold sign at failed
  rw [Action.start_bind_ok (start_touch r), Action.start_bind_ok (start_unlocked open_ _)] at failed
  cases key : r.state.store.touch.key? id with
  | none =>
    rw [key] at failed
    cases failed
    exact not_isShut_unknownKey id
  | some k =>
    rw [key] at failed
    simp only [Action.start_refine, Action.start_ofExcept] at failed
    cases signed : t.sign suite k choice with
    | ok c =>
      rw [signed] at failed
      cases failed
    | error f =>
      rw [signed] at failed
      cases failed
      exact not_isShut_ofSigning (X509.Template.refused_sign signed).not_isKeyStore

theorem locked_of_kept {s : State} (h : c.Kept suite .memory s) (given : c.password ≠ none)
    (free : c.isLocked = false) : s.store.locked = none := by
  obtain ⟨w, set⟩ := Option.ne_none_iff_exists'.mp given
  unfold Store.locked Store.isProtected
  unfold Credentials.isLocked Credentials.isProtected at free
  rw [h.1, h.2, free, set]
  rfl

end Memory

/-! ### The store in a directory -/

namespace Directory

variable {suite : Suite} {l : Location} {c : Credentials} {s₀ s s' : State} {r : Run State}

/-- A directory in which a password is recorded, and what whoever works with it has in mind. -/
structure State.Bears (suite : Suite) (s : State) (l : Location) (c : Credentials) : Prop where
  ground : s.Ground l
  recorded : s.Recorded suite l c.password
  mind : s.password.isSome = c.entered

theorem State.Blank.ground (h : s.Blank l) (word : isToken s.around.token = true) : s.Ground l :=
  ⟨h.sound, h.quiet, h.base, h.nameable, h.room, h.root, word, h.empty _⟩

theorem State.Bears.record (h : s.Bears suite l c) : ∃ record, s.passwordRecord? = .ok record ∧
    record.isNone = c.password.isNone ∧
    (record.any fun known => !known.empty.truthy) = c.isProtected := by
  have recorded := h.recorded
  unfold Credentials.isProtected
  cases set : c.password with
  | none =>
    rw [set] at recorded
    exact ⟨none, recorded.record?_none h.ground.passwordPath, rfl, rfl⟩
  | some p =>
    rw [set] at recorded
    obtain ⟨_, _, _, record⟩ := recorded.record?_some h.ground.passwordPath
    exact ⟨_, record, rfl, rfl⟩

theorem State.Bears.unlocked (h : s.Bears suite l c) (given : c.password ≠ none)
    (free : c.isLocked = false) : s.requireUnlocked = .ok () := by
  obtain ⟨w, set⟩ := Option.ne_none_iff_exists'.mp given
  have recorded := h.recorded
  rw [set] at recorded
  have shut : (!w.isEmpty && s.password.isNone) = false := by
    rw [Credentials.isLocked, Credentials.isProtected, set, ← h.mind, Option.not_isSome] at free
    exact free
  rw [recorded.requireUnlocked h.ground.passwordPath, shut]
  rfl

/-! #### Steps -/

theorem bears_initPassword (h : r.state.Bears suite l c) (w : Text) :
    (start (initPassword suite w) r).2.state.Bears suite l (c.given .directory w) := by
  have recorded := h.recorded
  cases set : c.password with
  | some p =>
    rw [set] at recorded
    obtain ⟨_, _, _, record⟩ := recorded.record?_some h.ground.passwordPath
    have given : c.password ≠ none := by
      rw [set]
      exact Option.some_ne_none p
    rw [start_passwordSet record, Credentials.given_of_set given]
    exact h
  | none =>
    rw [set] at recorded
    cases encoded : Utf8.encode w with
    | error f =>
      rw [start_initPassword_unencodable (recorded.record?_none h.ground.passwordPath) encoded,
        Credentials.given_of_refused encoded]
      exact ⟨h.ground.amid _ rfl, h.recorded.refit rfl, h.mind⟩
    | ok content =>
      obtain ⟨t, n, journal, ended, _, ground, known⟩ :=
        start_initPassword_ground h.ground recorded encoded
      rw [ended, Credentials.given_of_vacant set encoded]
      refine ⟨ground.amid _ rfl, known _ _, ?_⟩
      cases w with
      | nil => exact h.mind.trans (Bool.or_false _).symm
      | cons x w => exact (Bool.or_true _).symm

theorem bears_login (h : r.state.Bears suite l c) (w : Text)
    (apart : ∀ p, c.password = some p → suite.TellsApart [p, w]) :
    (start (login suite w) r).2.state.Bears suite l (c.tried .directory w) := by
  obtain ⟨right, _, state⟩ | ⟨wrong, _, state⟩ :=
    h.recorded.start_login h.ground.passwordPath apart
  · rw [state, Credentials.tried_of_right right]
    refine ⟨h.ground.amid _ rfl, h.recorded.refit rfl, ?_⟩
    cases w with
    | nil => rfl
    | cons x w => rfl
  · rw [state, Credentials.tried_of_wrong wrong]
    exact h

theorem bears_openStore (h : r.state.Bears suite l c) :
    (start openStore r).2.state.Bears suite l (c.reopened .directory) := by
  obtain ⟨t, journal, ended, refitted⟩ := start_openStore_ground h.ground
  obtain ⟨ground, record⟩ := refitted.ground h.ground none
  rw [ended]
  exact ⟨ground, h.recorded.refit record, rfl⟩

/-- What happens to a directory elsewhere than where its password is. -/
structure State.Disturbed (s s' : State) : Prop where
  base : s'.base = s.base
  mind : s'.password = s.password
  ground : ∀ l, s.Ground l →
    s'.Ground l ∧ s'.tree.node? (passwordAt l) = s.tree.node? (passwordAt l)

theorem State.Bears.disturbed (h : s.Bears suite l c) (disturbed : s.Disturbed s') :
    s'.Bears suite l c := by
  obtain ⟨ground, record⟩ := disturbed.ground l h.ground
  exact ⟨ground, h.recorded.refit record, disturbed.mind ▸ h.mind⟩

/-! #### What is told -/

/-- What is in a directory stays in it; only the record of a first password may be new. -/
structure State.Spares (s₀ s : State) : Prop where
  base : s.base = s₀.base
  nodes : ∀ l, s₀.tree.resolve s₀.base = .ok l → ∀ m,
    (s₀.tree.node? m).isSome = true ∨ m ≠ passwordAt l → s.tree.node? m = s₀.tree.node? m

/-- A store that can be used and bears a password, and that holds what another one does. -/
structure State.Usable (suite : Suite) (l : Location) (s₀ s : State) (c : Credentials) : Prop where
  bears : s.Bears suite l c
  available : Directory.isAvailable s = .ok true
  spares : s₀.Spares s
  candid : s.around.Candid

theorem leads_initialise (vacant : c.password = none) :
    Leads (s₀.Usable suite l · c) (initPassword suite []) fun o s =>
      s₀.Usable suite l s c.initialised ∧ o = .ok () := by
  intro r h
  obtain ⟨keys, entries, free⟩ := h.bears.ground.isAvailable_iff.mp h.available
  have recorded := h.bears.recorded
  rw [vacant] at recorded
  obtain ⟨t, n, journal, ended, sets, ground, known⟩ :=
    @start_initPassword_ground suite l r h.bears.ground recorded [] [] rfl
  have kept := sets.keeps_directory (Tree.not_isDirectory_of_none recorded)
  have ground := @State.Ground.amid l _ ground r.state.password (r.state.around.draw 16).2 rfl
  have known := known r.state.password (r.state.around.draw 16).2
  rw [ended]
  refine ⟨⟨⟨ground, ?_, h.bears.mind⟩,
    ground.isAvailable_iff.mpr ⟨kept _ keys, kept _ entries, sets.barred ▸ free⟩,
    ⟨h.spares.base, ?_⟩, h.candid.draw 16⟩, rfl⟩
  · rw [Credentials.initialised, vacant]
    exact known
  intro l₀ path m held
  -- Both names of the base lead to one place, at which there is no record yet.
  obtain rfl : l₀ = l := by
    rw [← Tree.goal_of_resolve path, ← Tree.goal_of_resolve h.bears.ground.base, h.spares.base]
  have before := h.spares.nodes l₀ path m held
  refine (sets.other m fun same => ?_).trans before
  rcases held with there | elsewhere
  · have none_ : r.state.tree.node? (passwordAt l₀) = none := recorded
    rw [← before, same, none_] at there
    cases there
  · exact elsewhere same

theorem tells (suite : Suite) (l : Location) (s₀ : State) :
    (keyStore suite).Tells (fun p w => suite.TellsApart [p, w]) (s₀.Usable suite l) where
  isAvailable c r h := by
    have ended : start (keyStore suite).isAvailable r = _ :=
      Action.start_bind_ok (start_ask_ok h.available) _
    rw [ended]
    exact ⟨h, rfl⟩
  needsUserInit c r h := by
    obtain ⟨record, known, same, _⟩ := h.bears.record
    have ended : start (keyStore suite).needsUserInit r = _ :=
      Action.start_bind_ok (start_ask_ok known) _
    rw [ended, same]
    exact ⟨h, rfl⟩
  initialise c vacant := leads_initialise vacant
  needsLogin c r h := by
    obtain ⟨record, known, _, same⟩ := h.bears.record
    have told : Directory.needsLogin r.state = .ok c.isProtected := by
      rw [Directory.needsLogin, known, ← same]
      rfl
    have ended : start (keyStore suite).needsLogin r = _ :=
      Action.start_bind_ok (start_ask_ok told) _
    rw [ended]
    exact ⟨h, rfl⟩
  isLoggedIn c r h := ⟨h, congrArg (fun b => Except.ok (Value.bool b)) h.bears.mind⟩
  right c w given filled r h := by
    have told : ∀ p, c.password = some p → suite.TellsApart [p, w] := by
      intro p set
      obtain rfl : p = w := Option.some.inj (set.symm.trans given)
      exact suite.tellsApart_same p
    obtain ⟨_, answered, state⟩ | ⟨wrong, _⟩ :=
      h.bears.recorded.start_login h.bears.ground.passwordPath told
    · change State.Usable suite l s₀ (start (login suite w) r).2.state _ ∧
        (start (login suite w) r).1 = _
      have bears := bears_login h.bears w told
      have kept : (!w.isEmpty) = true := by
        rw [Bool.not_eq_true', List.isEmpty_eq_false_iff]
        exact filled
      rw [Credentials.tried_of_right given, kept] at bears
      rw [state] at bears ⊢
      exact ⟨⟨bears, h.available, ⟨h.spares.base, h.spares.nodes⟩, h.candid⟩, answered⟩
    · exact absurd given wrong
  wrong c w other apart r h := by
    obtain ⟨right, _⟩ | ⟨_, refused, state⟩ :=
      h.bears.recorded.start_login h.bears.ground.passwordPath apart
    · exact absurd right other
    · change State.Usable suite l s₀ (start (login suite w) r).2.state _ ∧
        KeptOut (start (login suite w) r).1
      rw [state]
      exact ⟨h, refused.imp_left fun said => ⟨_, said, rfl⟩⟩

end Directory

/-! ### Either store -/

namespace Provider

variable {suite : Suite} {p : Provider} {s s' : p.State} {c : Credentials} {r : Run p.State}

def Told : (p : Provider) → p.State → Bool → Prop
  | directory => fun s b => Directory.isAvailable s = .ok b
  | memory => fun s b => s.store.available = b

def Bears (suite : Suite) : (p : Provider) → p.State → Credentials → Prop
  | directory => fun s c => ∃ l, s.Bears suite l c
  | memory => fun s c => c.Kept suite .memory s

/-- The words that are told apart by a store: in memory they are compared as they are. -/
def Apart (suite : Suite) : Provider → Text → Text → Prop
  | directory => fun w q => suite.TellsApart [w, q]
  | memory => fun _ _ => True

def around : (p : Provider) → p.State → Surroundings
  | directory => Directory.State.around
  | memory => Memory.State.around

/-- What is in a store stays in it; only a first password may be new. -/
def Spares : (p : Provider) → p.State → p.State → Prop
  | directory => Directory.State.Spares
  | memory => Memory.State.Spares

/-- Nothing is different; in memory calls are counted. -/
def Still : (p : Provider) → p.State → p.State → Prop
  | directory => fun s s' => s' = s
  | memory => fun s s' =>
    s'.store = { s.store with accesses := s'.store.accesses } ∧ s'.around = s.around

theorem spares_of_still (h : p.Still s s') : p.Spares s s' := by
  cases p with
  | directory =>
    cases h
    exact ⟨rfl, fun _ _ _ _ => rfl⟩
  | memory =>
    obtain ⟨store, _⟩ := h
    have fields {α : Type} (f : Memory.Store → α) := congrArg f store
    exact ⟨fields (·.keys), fields (·.entries), fields (·.imported), fun _ => fields (·.password)⟩

theorem still_refl (s : p.State) : p.Still s s := by
  cases p with
  | directory => exact rfl
  | memory => exact ⟨rfl, rfl⟩

/-! #### What is reached -/

/-- A new store: in memory one that may have been given a password, in a directory one without a
record. -/
def Fresh (suite : Suite) : (p : Provider) → p.State → Credentials → Prop
  | directory => fun s c =>
    (∃ l, s.Ground l ∧ s.Recorded suite l none) ∧ s.password = none ∧ c = Credentials.new
  | memory => fun s c => s.store.loggedIn = false ∧ c = ⟨s.store.password, false⟩

def Disturbed : (p : Provider) → p.State → p.State → Prop
  | directory => Directory.State.Disturbed
  | memory => fun s s' =>
    s'.store.password = s.store.password ∧ s'.store.loggedIn = s.store.loggedIn

/-- What is reached from a new store when passwords are set and tried, the store is opened anew, and
anything else happens in between; and what counts of it. -/
inductive Reached (suite : Suite) (p : Provider) : p.State → Credentials → Prop
  | fresh {s : p.State} {c : Credentials} (new : p.Fresh suite s c) : Reached suite p s c
  | initPassword {r : Run p.State} {c : Credentials} (before : Reached suite p r.state c)
      (w : Text) :
      Reached suite p (start ((p.keyStore suite).initPassword w) r).2.state (c.given p w)
  | login {r : Run p.State} {c : Credentials} (before : Reached suite p r.state c) (w : Text)
      (told : ∀ q, c.password = some q → p.Apart suite q w) :
      Reached suite p (start ((p.keyStore suite).login w) r).2.state (c.tried p w)
  | openStore {r : Run p.State} {c : Credentials} (before : Reached suite p r.state c) :
      Reached suite p (start p.openStore r).2.state (c.reopened p)
  | disturbed {s s' : p.State} {c : Credentials} (before : Reached suite p s c)
      (elsewhere : p.Disturbed s s') : Reached suite p s' c

theorem bears_initPassword (h : p.Bears suite r.state c) (w : Text) :
    p.Bears suite (start ((p.keyStore suite).initPassword w) r).2.state (c.given p w) := by
  cases p with
  | directory =>
    obtain ⟨l, bears⟩ := h
    exact ⟨l, Directory.bears_initPassword bears w⟩
  | memory => exact Memory.kept_initPassword suite h w

theorem bears_login (h : p.Bears suite r.state c) (w : Text)
    (told : ∀ q, c.password = some q → p.Apart suite q w) :
    p.Bears suite (start ((p.keyStore suite).login w) r).2.state (c.tried p w) := by
  cases p with
  | directory =>
    obtain ⟨l, bears⟩ := h
    exact ⟨l, Directory.bears_login bears w told⟩
  | memory => exact Memory.kept_login suite h w

theorem bears_openStore (h : p.Bears suite r.state c) :
    p.Bears suite (start p.openStore r).2.state (c.reopened p) := by
  cases p with
  | directory =>
    obtain ⟨l, bears⟩ := h
    exact ⟨l, Directory.bears_openStore bears⟩
  | memory => exact h

theorem bears_disturbed (h : p.Bears suite s c) (elsewhere : p.Disturbed s s') :
    p.Bears suite s' c := by
  cases p with
  | directory =>
    obtain ⟨l, bears⟩ := h
    exact ⟨l, bears.disturbed elsewhere⟩
  | memory => exact ⟨elsewhere.1.trans h.1, elsewhere.2.trans h.2⟩

theorem bears_fresh (h : p.Fresh suite s c) : p.Bears suite s c := by
  cases p with
  | directory =>
    obtain ⟨⟨l, ground, vacant⟩, forgotten, rfl⟩ := h
    refine ⟨l, ground, vacant, ?_⟩
    rw [forgotten]
    rfl
  | memory =>
    obtain ⟨out, rfl⟩ := h
    exact ⟨rfl, out⟩

/-- Whatever is reached, what counts of it is so. -/
theorem bears_of_reached (h : Reached suite p s c) : p.Bears suite s c := by
  induction h with
  | fresh new => exact bears_fresh new
  | initPassword _ w ih => exact bears_initPassword ih w
  | login _ w told ih => exact bears_login ih w told
  | openStore _ ih => exact bears_openStore ih
  | disturbed _ elsewhere ih => exact bears_disturbed ih elsewhere

/-! #### Unlocking -/

theorem told_of_bears (h : p.Bears suite s c) : p.Told s true ∨ p.Told s false := by
  cases p with
  | directory =>
    obtain ⟨l, bears⟩ := h
    obtain ⟨b, told⟩ := bears.ground.isAvailable_told
    cases b with
    | true => exact .inl told
    | false => exact .inr told
  | memory => exact Bool.eq_false_or_eq_true _

theorem leads_isAvailable (told : p.Told r.state false) :
    Leads (fun s => p.Told s false ∧ p.Still r.state s) (p.keyStore suite).isAvailable fun o s =>
      (p.Told s false ∧ p.Still r.state s) ∧ o = .ok (.bool false) := by
  rintro r' ⟨told', still⟩
  cases p with
  | directory =>
    have ended : start (directory.keyStore suite).isAvailable r' = (.ok (.bool false), r') :=
      Action.start_bind_ok (Directory.start_ask_ok told') _
    rw [ended]
    exact ⟨⟨told', still⟩, rfl⟩
  | memory =>
    obtain ⟨store, around⟩ := still
    have counted := congrArg (fun s : Memory.Store =>
      { s with accesses := r'.state.store.accesses + 1 }) store
    exact ⟨⟨told', counted, around⟩, congrArg (fun b => Except.ok (Value.bool b)) told'⟩

theorem tells (bears : p.Bears suite s c) (told : p.Told s true) (candid : (p.around s).Candid) :
    ∃ shows_, (p.keyStore suite).Tells (p.Apart suite) shows_ ∧ shows_ s c ∧
      ∀ s' c', shows_ s' c' → p.Bears suite s' c' ∧ p.Spares s s' ∧ (p.around s').Candid := by
  cases p with
  | directory =>
    obtain ⟨l, bears⟩ := bears
    exact ⟨_, Directory.tells suite l s,
      ⟨bears, told, spares_of_still (still_refl (p := directory) s), candid⟩,
      fun s' c' usable => ⟨⟨l, usable.bears⟩, usable.spares, usable.candid⟩⟩
  | memory =>
    have same : c = ⟨s.store.password, s.store.loggedIn⟩ := by
      rw [bears.1, bears.2]
    refine ⟨_, Memory.tells suite s, same ▸ Memory.State.usable_refl told, fun s' c' usable =>
      ⟨usable.kept, usable.spares, ?_⟩⟩
    exact (congrArg Surroundings.Candid usable.around).mpr candid

theorem not_isShut (bears : p.Bears suite r.state c) (given : c.password ≠ none)
    (free : c.isLocked = false) (candid : (p.around r.state).Candid) :
    (∀ curve f, (start ((p.keyStore suite).generateKey curve) r).1 = .error f → ¬ f.IsShut) ∧
      ∀ id t choice f, (start ((p.keyStore suite).sign id t choice) r).1 = .error f →
        ¬ f.IsShut := by
  cases p with
  | directory =>
    obtain ⟨l, bears⟩ := bears
    have unlocked := bears.unlocked given free
    exact ⟨fun curve _ => Directory.not_isShut_generateKey unlocked (candid curve),
      fun _ _ _ _ => Directory.not_isShut_sign unlocked⟩
  | memory =>
    have unlocked := @Memory.locked_of_kept suite c r.state bears given free
    exact ⟨fun _ _ => Memory.not_isShut_generateKey unlocked candid,
      fun _ _ _ _ => Memory.not_isShut_sign unlocked⟩

/-- What a keeper makes of a store that bears a password, where the prompt comes to an answer. -/
structure Unlocks (suite : Suite) (p : Provider) (k : Keeper p.State)
    (answer : Except Fault (Option Text)) (c : Credentials) (r : Run p.State) : Prop where
  /-- The question whether a login is needed is affirmed exactly where unlocking would prompt. -/
  foretold : (start k.isLoginRequired r).1 = .ok (.bool true) ↔ k.Prompts r
  answered : p.Told r.state true → (start k.isLoginRequired r).1 = .ok (.bool c.isLocked)
  unavailable :
    (∃ f, (start k.isLoginRequired r).1 = .error f ∧
        f.failure.lifecycle? = some .storeUnavailable) ↔
      ∃ f, (start k.ensureUnlocked r).1 = .error f ∧
        f.failure.lifecycle? = some .storeUnavailable
  /-- An unlocked store can be used, and asks for nothing. -/
  usable : (start k.ensureUnlocked r).1 = .ok () →
    (∀ curve f, (start (k.store.generateKey curve) (start k.ensureUnlocked r).2).1 = .error f →
      ¬ f.IsShut) ∧
    (∀ id t choice f, (start (k.store.sign id t choice) (start k.ensureUnlocked r).2).1 = .error f →
      ¬ f.IsShut) ∧
    (start k.isLoginRequired (start k.ensureUnlocked r).2).1 = .ok (.bool false)
  denied : p.Told r.state true → Spelled answer →
    ((∃ f, (start k.ensureUnlocked r).1 = .error f ∧ f.failure.lifecycle? = some .authDenied) ↔
      c.isLocked = true ∧ ¬ Credentials.Supplied answer c)
  /-- What is not denied is unlocked. -/
  ends : p.Told r.state true → Spelled answer → (start k.ensureUnlocked r).1 = .ok () ∨
    ∃ f, (start k.ensureUnlocked r).1 = .error f ∧ f.failure.lifecycle? = some .authDenied
  /-- A store without a password has the empty one in the end; any other keeps its own. -/
  password : p.Told r.state true →
    p.Bears suite (start k.isLoginRequired r).2.state c.initialised ∧
    ∃ c', p.Bears suite (start k.ensureUnlocked r).2.state c' ∧
      c'.password = c.initialised.password
  /-- A store that cannot be used is left alone. -/
  shut : p.Told r.state false →
    (∃ f, (start k.ensureUnlocked r).1 = .error f ∧
      f.failure.lifecycle? = some .storeUnavailable) ∧
    p.Still r.state (start k.isLoginRequired r).2.state ∧
    p.Still r.state (start k.ensureUnlocked r).2.state
  spares : p.Spares r.state (start k.isLoginRequired r).2.state ∧
    p.Spares r.state (start k.ensureUnlocked r).2.state

variable {k : Keeper p.State} {answer : Except Fault (Option Text)}

theorem foretold_of_plain {σ : Type} {k : Keeper σ} {r : Run σ}
    (plain : ∀ v, (start k.isLoginRequired r).1 = .ok v → ∃ b, v = .bool b) :
    (start k.isLoginRequired r).1 = .ok (.bool true) ↔ k.Prompts r := by
  rw [k.prompts_iff]
  refine ⟨fun affirmed => ⟨_, affirmed, rfl⟩, fun ⟨v, answered, needed⟩ => ?_⟩
  obtain ⟨b, rfl⟩ := plain v answered
  obtain rfl : b = true := needed
  exact answered

theorem not_told_both (told : p.Told s true) : ¬ p.Told s false := by
  intro told'
  cases p with
  | directory => cases (told : Directory.isAvailable s = _).symm.trans told'
  | memory => cases (told : s.store.available = _).symm.trans told'

theorem unlocks_of_shut (stands : k.store = p.keyStore suite) (told : p.Told r.state false) :
    p.Unlocks suite k answer c r := by
  have refused := @leads_isAvailable suite p r told
  rw [← stands] at refused
  obtain ⟨asked, ended⟩ := Keeper.leads_unavailable refused
  obtain ⟨⟨_, still⟩, f, failed, why⟩ := asked r ⟨told, still_refl _⟩
  obtain ⟨⟨_, still'⟩, f', failed', why'⟩ := ended r ⟨told, still_refl _⟩
  exact {
    foretold := foretold_of_plain fun v answered => nomatch failed.symm.trans answered
    answered := fun told' => absurd told (not_told_both told')
    unavailable := k.unavailable_iff r
    usable := fun unlocked => nomatch failed'.symm.trans unlocked
    denied := fun told' => absurd told (not_told_both told')
    ends := fun told' => absurd told (not_told_both told')
    password := fun told' => absurd told (not_told_both told')
    shut := fun _ => ⟨⟨f', failed', why'⟩, still, still'⟩
    spares := ⟨spares_of_still still, spares_of_still still'⟩ }

theorem unlocks_of_bears (stands : k.store = p.keyStore suite) (answers : k.prompt.Answers answer)
    (bears : p.Bears suite r.state c) (told : p.Told r.state true)
    (apart : ∀ w q, c.password = some w → answer = .ok (some q) → p.Apart suite w q)
    (candid : (p.around r.state).Candid) : p.Unlocks suite k answer c r := by
  obtain ⟨shows_, tells, held, bearing⟩ := tells bears told candid
  rw [← stands] at tells
  obtain ⟨asked, answered⟩ := Keeper.leads_isLoginRequired tells c r held
  have ended := Keeper.leads_ensureUnlocked tells answers apart r held
  have foretold := foretold_of_plain fun v said =>
    ⟨c.isLocked, Except.ok.inj (said.symm.trans answered)⟩
  cases ended with
  | open_ c' unlocked why password free left =>
    have set : c'.password ≠ none := by
      rw [password]
      exact Option.some_ne_none _
    obtain ⟨bears', spares', candid'⟩ := bearing _ _ left
    obtain ⟨makes, signs⟩ := not_isShut bears' set free candid'
    rw [← stands] at makes signs
    obtain ⟨_, again⟩ := Keeper.leads_isLoginRequired tells c' _ left
    rw [free] at again
    exact {
      foretold
      answered := fun _ => answered
      unavailable := k.unavailable_iff r
      usable := fun _ => ⟨makes, signs, again⟩
      denied := fun _ _ => iff_of_false (fun ⟨_, denied, _⟩ => nomatch unlocked.symm.trans denied)
        fun ⟨locked, wrong⟩ => wrong (why locked)
      ends := fun _ _ => .inl unlocked
      password := fun _ => ⟨(bearing _ _ asked).1, c', bears', password⟩
      shut := fun told' => absurd told' (not_told_both told)
      spares := ⟨(bearing _ _ asked).2.1, spares'⟩ }
  | denied f denied why locked wrong left =>
    obtain ⟨w, given, _⟩ := Credentials.given_of_isLocked locked
    have same : c.password = c.initialised.password :=
      congrArg Credentials.password (Credentials.initialised_of_given given).symm
    exact {
      foretold
      answered := fun _ => answered
      unavailable := k.unavailable_iff r
      usable := fun unlocked => nomatch denied.symm.trans unlocked
      denied := fun _ spelled => iff_of_true ⟨f, denied, why spelled⟩ ⟨locked, wrong⟩
      ends := fun _ spelled => .inr ⟨f, denied, why spelled⟩
      password := fun _ => ⟨(bearing _ _ asked).1, c, (bearing _ _ left).1, same⟩
      shut := fun told' => absurd told' (not_told_both told)
      spares := ⟨(bearing _ _ asked).2.1, (bearing _ _ left).2.1⟩ }

/-- Whatever has been reached, or cannot be used: the question whether a login is needed foretells
what unlocking does, and unlocking a store that can be used ends with keys that can be used, or is
denied to whoever does not give the password. -/
theorem unlocks (stands : k.store = p.keyStore suite) (answers : k.prompt.Answers answer)
    (reached : Reached suite p r.state c ∨ p.Told r.state false)
    (apart : ∀ w q, c.password = some w → answer = .ok (some q) → p.Apart suite w q)
    (candid : (p.around r.state).Candid) : p.Unlocks suite k answer c r := by
  rcases reached with reached | shut
  · have bears := bears_of_reached reached
    rcases told_of_bears bears with told | shut
    · exact unlocks_of_bears stands answers bears told apart candid
    · exact unlocks_of_shut stands shut
  · exact unlocks_of_shut stands shut

def reopenedDirectory : Run (Provider.State .directory) :=
  let opened := (start directory.openStore ⟨emptyDirectory, [], none⟩).2
  let set := (start ((directory.keyStore Suite.lenient).initPassword "s3cret") opened).2
  (start directory.openStore set).2

theorem reached_reopenedDirectory :
    Reached Suite.lenient .directory reopenedDirectory.state ⟨some "s3cret", false⟩ := by
  have new : directory.Fresh Suite.lenient emptyDirectory Credentials.new := by
    obtain ⟨⟨l, blank⟩, word⟩ := blank_emptyDirectory
    exact ⟨⟨l, blank.ground word, blank.empty _⟩, rfl, rfl⟩
  have counted : (((Credentials.new.reopened .directory).given .directory "s3cret").reopened
      .directory) = ⟨some "s3cret", false⟩ := by
    decide +kernel
  rw [← counted]
  exact .openStore (.initPassword (.openStore (.fresh new)) "s3cret")

/-- It asks for the password, and is unlocked by whoever gives it. -/
theorem unlocks_reopenedDirectory :
    let k : Keeper (Provider.State .directory) := ⟨directory.keyStore Suite.lenient,
      Prompt.ofSource (pure (some "s3cret")), fun _ => (atTime 0).now, Suite.lenient, .standard⟩
    directory.Told reopenedDirectory.state true ∧ k.Prompts reopenedDirectory ∧
      (start k.ensureUnlocked reopenedDirectory).1 = .ok () := by
  intro k
  have told : directory.Told reopenedDirectory.state true := by
    refine (told_of_bears (bears_of_reached reached_reopenedDirectory)).resolve_right fun shut => ?_
    have said : (Directory.isAvailable reopenedDirectory.state).toOption = some true := by
      decide +kernel
    have shut : Directory.isAvailable reopenedDirectory.state = .ok false := shut
    rw [shut] at said
    cases said
  have candid : (directory.around reopenedDirectory.state).Candid := by
    have keys : (directory.around reopenedDirectory.state).keys = [] := by decide +kernel
    intro curve f failed
    rw [Surroundings.drawKey, keys] at failed
    cases failed
  have unlocks := unlocks (k := k) rfl (.source fun _ => ⟨rfl, rfl⟩)
    (.inl reached_reopenedDirectory) (fun w q _ _ => Suite.tellsApart_lenient [w, q]) candid
  have spelled : Spelled (.ok (some "s3cret")) := nofun
  have free := fun denied => ((unlocks.denied told spelled).mp denied).2 ⟨_, rfl, rfl⟩
  exact ⟨told, unlocks.foretold.mp (unlocks.answered told),
    (unlocks.ends told spelled).resolve_right free⟩

/-- A new store without a password that cannot be used has none after it was to be unlocked, nor
after the question whether a login is needed.  And whoever is asked for the password of a locked
store and throws what does not print is not denied. -/
theorem not_initialised_of_unavailable :
    let vacant : Run (Provider.State .memory) :=
      ⟨(⟨{ Memory.Store.new none with available := false }, atTime 0⟩ : Memory.State), [], none⟩
    let locked : Run (Provider.State .memory) :=
      ⟨(⟨Memory.Store.new (some "s3cret"), atTime 0⟩ : Memory.State), [], none⟩
    let keeper (prompt : Prompt (Provider.State .memory)) : Keeper (Provider.State .memory) :=
      ⟨memory.keyStore Suite.lenient, prompt, fun _ => (atTime 0).now, Suite.lenient, .standard⟩
    ¬ (Reached Suite.lenient .memory vacant.state Credentials.new →
      ∃ c', memory.Bears Suite.lenient (start (keeper Prompt.absent).ensureUnlocked vacant).2.state
        c' ∧ c'.password = some []) ∧
    ¬ (Reached Suite.lenient .memory vacant.state Credentials.new →
      ∃ c', memory.Bears Suite.lenient (start (keeper Prompt.absent).isLoginRequired vacant).2.state
        c' ∧ c'.password = some []) ∧
    ¬ (Reached Suite.lenient .memory locked.state ⟨some "s3cret", false⟩ →
      ∃ f, (start (keeper (Prompt.ofSource (throw Fault.endless))).ensureUnlocked locked).1
        = .error f ∧ f.failure.lifecycle? = some .authDenied) := by
  intro vacant locked keeper
  have reached : Reached Suite.lenient .memory vacant.state Credentials.new := .fresh ⟨rfl, rfl⟩
  have reached' : Reached Suite.lenient .memory locked.state ⟨some "s3cret", false⟩ :=
    .fresh ⟨rfl, rfl⟩
  have refuted {s : Memory.State} (none_ : s.store.password = none) :
      ¬ ∃ c', memory.Bears Suite.lenient s c' ∧ c'.password = some [] := by
    rintro ⟨c', bears, given⟩
    cases none_.symm.trans (bears.1.trans given)
  refine ⟨fun ends => refuted rfl (ends reached), fun ends => refuted rfl (ends reached),
    fun denies => ?_⟩
  obtain ⟨f, denied, why⟩ := denies reached'
  cases denied
  cases why

end Provider

end CertKeeper
