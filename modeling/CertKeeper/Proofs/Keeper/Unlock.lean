import CertKeeper.Keeper.Unlock
import CertKeeper.Proofs.Agreement.Credentials

/-!
# Unlocking a store

The question whether a login is needed and unlocking itself run the same steps up to the prompt, so
the one foretells the other whatever the store does.  Where the store tells truly what counts of its
password, as the store in memory does, unlocking ends with a store that can be used, or is denied.
Main statements: `Keeper.prompts_iff` and `Keeper.leads_ensureUnlocked`.
-/

namespace CertKeeper

open CertKeeper.Action (Leads start)

namespace Prompt

/-- Who is asked comes to an answer: nobody can be asked, or a source, which leaves the store alone,
gives a password, gives none, or fails. -/
inductive Answers {σ : Type} : Prompt σ → Except Fault (Option Text) → Prop
  | absent : Answers absent (.ok none)
  | source {source : Action σ (Option Text)} {answer : Except Fault (Option Text)}
      (asked : ∀ r, (start source r).1 = answer ∧ (start source r).2.state = r.state) :
      Answers (ofSource source) answer

end Prompt

namespace Keeper

variable {σ : Type} {k : Keeper σ} {r r' : Run σ}

/-! ### Coming to the prompt -/

/-- Unlocking comes to ask the prompt: from some point on it is what asking is, whoever is asked. -/
def Prompts (k : Keeper σ) (r : Run σ) : Prop :=
  ∃ r', ∀ prompt : Prompt σ,
    start ({ k with prompt } : Keeper σ).ensureUnlocked r
      = start ({ k with prompt } : Keeper σ).askPrompt r'

theorem start_ensureUnlocked_needed {v : Value} (asked : start k.isLoginRequired r = (.ok v, r'))
    (needed : v.truthy = true) : start k.ensureUnlocked r = start k.askPrompt r' := by
  unfold ensureUnlocked
  rw [Action.start_bind_ok asked, if_pos needed]

theorem start_ensureUnlocked_free {v : Value} (asked : start k.isLoginRequired r = (.ok v, r'))
    (free : v.truthy = false) : start k.ensureUnlocked r = (.ok (), r') := by
  unfold ensureUnlocked
  rw [Action.start_bind_ok asked, free]
  rfl

theorem start_ensureUnlocked_fault {e : Fault}
    (asked : start k.isLoginRequired r = (.error e, r')) :
    start k.ensureUnlocked r = (.error e, r') := Action.start_bind_error asked _

/-- Unlocking comes to the prompt exactly where the question whether a login is needed is answered
in the affirmative. -/
theorem prompts_iff (k : Keeper σ) (r : Run σ) :
    k.Prompts r ↔ ∃ v, (start k.isLoginRequired r).1 = .ok v ∧ v.truthy = true := by
  have same (prompt : Prompt σ) :
      ({ k with prompt } : Keeper σ).isLoginRequired = k.isLoginRequired := rfl
  cases asked : start k.isLoginRequired r with
  | mk o r' =>
  refine ⟨fun ⟨r'', comes⟩ => ?_, fun ⟨v, answered, needed⟩ => ?_⟩
  · -- Somebody who lets in and somebody who fails make a difference once the prompt is asked.
    have lets := comes fun _ => pure (.bool true)
    have fails := comes fun _ => throw (Fault.value [])
    cases o with
    | error e =>
      rw [start_ensureUnlocked_fault ((congrArg (start · r) (same _)).trans asked)] at lets
      cases lets
    | ok v =>
    refine ⟨v, rfl, ?_⟩
    by_contra free
    rw [start_ensureUnlocked_free ((congrArg (start · r) (same _)).trans asked)
      (Bool.eq_false_iff.mpr free)] at fails
    cases fails
  · obtain rfl : o = .ok v := answered
    exact ⟨r', fun prompt =>
      start_ensureUnlocked_needed ((congrArg (start · r) (same prompt)).trans asked) needed⟩

/-- Asking lets in, or is denied, or ends in what printing the fault of the prompt throws. -/
theorem askPrompt_cases (k : Keeper σ) (r : Run σ) : (start k.askPrompt r).1 = .ok () ∨
    (∃ f, (start k.askPrompt r).1 = .error f ∧ f.failure.lifecycle? = some .authDenied) ∨
    ∃ kind m, (start k.askPrompt r).1 = .error (Fault.plain kind m) := by
  unfold askPrompt
  rw [Action.start_bind_ok (Action.start_log _ _ _),
    Action.start_bind_ok (Action.start_attempt _ _)]
  cases (start (k.prompt k.store) ⟨r.state, _, r.operation⟩).1 with
  | error e =>
    rcases e.asValue_cases with spelled | ⟨kind, m, thrown⟩
    · rw [Action.start_bind, Action.start_ofExcept, spelled.asValue]
      exact .inr (.inl ⟨_, rfl, rfl⟩)
    · rw [Action.start_bind, Action.start_ofExcept, thrown]
      exact .inr (.inr ⟨kind, m, rfl⟩)
  | ok answer =>
    cases lets : answer.truthy with
    | true =>
      simp only [lets]
      exact .inl rfl
    | false =>
      simp only [lets]
      exact .inr (.inl ⟨_, rfl, rfl⟩)

theorem unavailable_iff (k : Keeper σ) (r : Run σ) :
    (∃ f, (start k.isLoginRequired r).1 = .error f ∧
        f.failure.lifecycle? = some .storeUnavailable) ↔
      ∃ f, (start k.ensureUnlocked r).1 = .error f ∧
        f.failure.lifecycle? = some .storeUnavailable := by
  cases asked : start k.isLoginRequired r with
  | mk o r' =>
  cases o with
  | error e =>
    rw [start_ensureUnlocked_fault asked]
    simp only [Except.error.injEq]
  | ok v =>
  refine iff_of_false (fun ⟨_, impossible, _⟩ => nomatch impossible) fun ⟨f, failed, why⟩ => ?_
  cases needed : v.truthy with
  | false =>
    rw [start_ensureUnlocked_free asked needed] at failed
    cases failed
  | true =>
    rw [start_ensureUnlocked_needed asked needed] at failed
    rcases k.askPrompt_cases r' with let_in | ⟨f', denied, why'⟩ | ⟨kind, m, thrown⟩
    · rw [let_in] at failed
      cases failed
    · obtain rfl : f' = f := Except.error.inj (denied.symm.trans failed)
      rw [why'] at why
      cases why
    · obtain rfl : Fault.plain kind m = f := Except.error.inj (thrown.symm.trans failed)
      cases why

theorem leads_unavailable {P : σ → Prop}
    (told : Leads P k.store.isAvailable fun o s => P s ∧ o = .ok (.bool false)) :
    (Leads P k.isLoginRequired fun o s => P s ∧
      ∃ f, o = .error f ∧ f.failure.lifecycle? = some .storeUnavailable) ∧
    Leads P k.ensureUnlocked fun o s => P s ∧
      ∃ f, o = .error f ∧ f.failure.lifecycle? = some .storeUnavailable := by
  have acquired : Leads P k.acquire fun o s => P s ∧ o = .error (unavailable
      "Key store is not available") := by
    have guarded : Leads P (Keeper.guarded "Key store check failed" k.store.isAvailable) fun o s =>
        P s ∧ o = .ok (.bool false) := by
      refine Leads.refine (told.post fun o s held => ?_)
      rw [held.2]
      exact ⟨held.1, rfl⟩
    exact guarded.bind_ok (Action.leads_throw fun s held => ⟨held, rfl⟩)
  have asked : Leads P k.isLoginRequired fun o s => P s ∧
      o = .error (unavailable "Key store is not available") := by
    refine acquired.bind (fun e s held => ⟨held.1, congrArg Except.error (Except.error.inj held.2)⟩)
      fun _ _ held => nomatch held.2
  refine ⟨asked.post fun o s held => ⟨held.1, _, held.2, rfl⟩, asked.bind (fun e s held => ?_)
    fun _ _ held => nomatch held.2⟩
  exact ⟨held.1, e, rfl, by rw [Except.error.inj held.2]; rfl⟩

end Keeper

/-! ### Stores that tell what counts of their passwords -/

namespace Credentials

def isLocked (c : Credentials) : Bool := c.isProtected && !c.entered

def initialised (c : Credentials) : Credentials := { c with password := some (c.password.getD []) }

theorem initialised_of_given {c : Credentials} {w : Text} (given : c.password = some w) :
    c.initialised = c := by
  obtain ⟨password, entered⟩ := c
  cases given
  rfl

theorem isProtected_initialised (c : Credentials) : c.initialised.isProtected = c.isProtected := by
  obtain ⟨password, entered⟩ := c
  cases password with
  | none => rfl
  | some w => rfl

theorem isLocked_initialised (c : Credentials) : c.initialised.isLocked = c.isLocked := by
  unfold isLocked
  rw [isProtected_initialised]
  rfl

theorem given_of_isLocked {c : Credentials} (locked : c.isLocked = true) :
    ∃ w, c.password = some w ∧ w ≠ [] := by
  obtain ⟨password, entered⟩ := c
  cases password with
  | none => cases locked
  | some w =>
    cases w with
    | nil => cases locked
    | cons x w => exact ⟨_, rfl, List.cons_ne_nil x w⟩

def Supplied (answer : Except Fault (Option Text)) (c : Credentials) : Prop :=
  ∃ w, answer = .ok (some w) ∧ c.password = some w

end Credentials

/-- Who is asked fails, if he fails, with a fault that prints. -/
def Spelled (answer : Except Fault (Option Text)) : Prop := ∀ e, answer = .error e → e.HasValue

/-- Nobody has been let in: the answer says so, or there is a fault that prints. -/
def KeptOut (o : Except Fault Value) : Prop :=
  (∃ v, o = .ok v ∧ v.truthy = false) ∨ ∃ e, o = .error e ∧ e.HasValue

/-- A store tells truly what counts of its password, and takes the right one and no other, as far as
it can tell them apart. -/
structure KeyStore.Tells {σ : Type} (store : KeyStore σ) (apart : Text → Text → Prop)
    (shows_ : σ → Credentials → Prop) : Prop where
  isAvailable : ∀ c, Leads (shows_ · c) store.isAvailable fun o s =>
    shows_ s c ∧ o = .ok (.bool true)
  needsUserInit : ∀ c, Leads (shows_ · c) store.needsUserInit fun o s =>
    shows_ s c ∧ o = .ok (.bool c.password.isNone)
  initialise : ∀ c, c.password = none → Leads (shows_ · c) (store.initPassword []) fun o s =>
    shows_ s c.initialised ∧ o = .ok ()
  needsLogin : ∀ c, Leads (shows_ · c) store.needsLogin fun o s =>
    shows_ s c ∧ o = .ok (.bool c.isProtected)
  isLoggedIn : ∀ c, Leads (shows_ · c) store.isLoggedIn fun o s =>
    shows_ s c ∧ o = .ok (.bool c.entered)
  right : ∀ c w, c.password = some w → w ≠ [] → Leads (shows_ · c) (store.login w) fun o s =>
    shows_ s { c with entered := true } ∧ o = .ok (.bool true)
  wrong : ∀ c w, c.password ≠ some w → (∀ p, c.password = some p → apart p w) →
    Leads (shows_ · c) (store.login w) fun o s => shows_ s c ∧ KeptOut o

/-! ### The store in memory -/

namespace Memory

variable {c : Credentials} {s₀ s : State}

/-- What is in a store stays in it; only a first password may be new. -/
structure State.Spares (s₀ s : State) : Prop where
  keys : s.store.keys = s₀.store.keys
  entries : s.store.entries = s₀.store.entries
  imported : s.store.imported = s₀.store.imported
  password : s₀.store.password ≠ none → s.store.password = s₀.store.password

/-- A store that can be used and bears a password, and that holds what another one does. -/
structure State.Usable (s₀ s : State) (c : Credentials) : Prop where
  kept : s.store.password = c.password ∧ s.store.loggedIn = c.entered
  available : s.store.available = true
  spares : s₀.Spares s
  around : s.around = s₀.around

theorem State.Usable.touch (h : s₀.Usable s c) : s₀.Usable ⟨s.store.touch, s.around⟩ c :=
  ⟨h.kept, h.available, ⟨h.spares.keys, h.spares.entries, h.spares.imported, h.spares.password⟩,
    h.around⟩

theorem State.usable_refl (available : s.store.available = true) :
    s.Usable s ⟨s.store.password, s.store.loggedIn⟩ :=
  ⟨⟨rfl, rfl⟩, available, ⟨rfl, rfl, rfl, fun _ => rfl⟩, rfl⟩

theorem start_login (w : Text) (r : Run State) :
    start (login w) r = if r.state.store.password = some w then
        (.ok (.bool true), ⟨⟨{ r.state.store.touch with loggedIn := true }, r.state.around⟩,
          r.journal, r.operation⟩)
      else (.ok (.bool false),
        ⟨⟨r.state.store.touch, r.state.around⟩, r.journal, r.operation⟩) := by
  unfold login
  rw [Action.start_bind_ok (start_touch r)]
  change start (if r.state.store.password = some w then _ else _) _ = _
  split
  · rfl
  · rfl

theorem tells (suite : Suite) (s₀ : State) :
    (keyStore suite).Tells (fun _ _ => True) s₀.Usable where
  isAvailable c r h := ⟨h.touch, congrArg (fun b => Except.ok (Value.bool b)) h.available⟩
  needsUserInit c r h :=
    ⟨h.touch, congrArg (fun w : Option Text => Except.ok (Value.bool w.isNone)) h.kept.1⟩
  initialise c vacant r h := by
    have free : r.state.store.password = none := h.kept.1.trans vacant
    obtain ⟨journal, initialised⟩ := start_initPassword free []
    have ended : start ((keyStore suite).initPassword []) r = _ := initialised
    rw [ended]
    refine ⟨⟨⟨?_, h.kept.2⟩, h.available, ⟨h.spares.keys, h.spares.entries, h.spares.imported,
      fun given => ?_⟩, h.around⟩, rfl⟩
    · rw [Credentials.initialised, vacant]
      rfl
    · exact absurd ((h.spares.password given).symm.trans free) given
  needsLogin c r h := by
    have same : r.state.store.isProtected = c.isProtected := by
      rw [Store.isProtected, h.kept.1]
      rfl
    exact ⟨h.touch, congrArg (fun b => Except.ok (Value.bool b)) same⟩
  isLoggedIn c r h := ⟨h.touch, congrArg (fun b => Except.ok (Value.bool b)) h.kept.2⟩
  right c w given _ r h := by
    have ended : start ((keyStore suite).login w) r = _ := start_login w r
    rw [ended, if_pos (h.kept.1.trans given)]
    exact ⟨⟨⟨h.kept.1, rfl⟩, h.available, ⟨h.spares.keys, h.spares.entries, h.spares.imported,
      h.spares.password⟩, h.around⟩, rfl⟩
  wrong c w other _ r h := by
    have ended : start ((keyStore suite).login w) r = _ := start_login w r
    rw [ended, if_neg fun same => other (h.kept.1.symm.trans same)]
    exact ⟨h.touch, .inl ⟨_, rfl, rfl⟩⟩

end Memory

namespace Keeper

open Credentials (Supplied)

variable {σ : Type} {k : Keeper σ} {apart : Text → Text → Prop}
  {shows_ : σ → Credentials → Prop} {c : Credentials} {answer : Except Fault (Option Text)}

theorem Leads.guarded {α : Type} {P : σ → Prop} {context : Text} {call : Action σ α} {v : α}
    {R : σ → Prop} (h : Leads P call fun o s => R s ∧ o = .ok v) :
    Leads P (Keeper.guarded context call) fun o s => R s ∧ o = .ok v := by
  refine Leads.refine (h.post fun o s held => ?_)
  rw [held.2]
  exact ⟨held.1, rfl⟩

theorem leads_acquire_told (tells : k.store.Tells apart shows_) (c : Credentials) :
    Leads (shows_ · c) k.acquire fun o s => shows_ s c ∧ o = .ok () :=
  (Leads.guarded (tells.isAvailable c)).bind_ok (Action.leads_pure fun _ held => ⟨held, rfl⟩)

theorem leads_initializeIfNeeded (tells : k.store.Tells apart shows_) (c : Credentials) :
    Leads (shows_ · c) k.initializeIfNeeded fun o s => shows_ s c.initialised ∧ o = .ok () := by
  refine Leads.guarded ((tells.needsUserInit c).bind_ok ?_)
  cases given : c.password with
  | none => exact Action.leads_log_bind (tells.initialise c given)
  | some w =>
    rw [Credentials.initialised_of_given given]
    exact Action.leads_pure fun _ held => ⟨held, rfl⟩

theorem leads_loginRequired (tells : k.store.Tells apart shows_) (c : Credentials) :
    Leads (shows_ · c) k.loginRequired fun o s => shows_ s c ∧ o = .ok (.bool c.isLocked) := by
  refine Leads.guarded ((tells.needsLogin c).bind_ok ?_)
  unfold Credentials.isLocked
  cases c.isProtected with
  | false => exact Action.leads_pure fun _ held => ⟨held, rfl⟩
  | true => exact (tells.isLoggedIn c).bind_ok (Action.leads_pure fun _ held => ⟨held, rfl⟩)

theorem leads_isLoginRequired (tells : k.store.Tells apart shows_) (c : Credentials) :
    Leads (shows_ · c) k.isLoginRequired fun o s =>
      shows_ s c.initialised ∧ o = .ok (.bool c.isLocked) := by
  rw [← c.isLocked_initialised]
  exact (leads_acquire_told tells c).bind_ok
    ((leads_initializeIfNeeded tells c).bind_ok (leads_loginRequired tells c.initialised))

/-! ### Asking -/

theorem leads_prompt_right {store : KeyStore σ} (tells : store.Tells apart shows_)
    {prompt : Prompt σ} (answers : prompt.Answers answer) {w : Text} (given : c.password = some w)
    (filled : w ≠ []) (said : answer = .ok (some w)) :
    Leads (shows_ · c) (prompt store) fun o s =>
      shows_ s { c with entered := true } ∧ o = .ok (.bool true) := by
  cases answers with
  | absent => cases said
  | @source source answer asked =>
    subst said
    have got : Leads (shows_ · c) source fun o s => shows_ s c ∧ o = .ok (some w) := by
      intro r held
      rw [(asked r).1, (asked r).2]
      exact ⟨held, rfl⟩
    exact got.bind_ok (tells.right c w given filled)

/-- Whoever does not give the right password is not let in.  What a source throws comes out of the
prompt as it is. -/
theorem leads_prompt_wrong {store : KeyStore σ} (tells : store.Tells apart shows_)
    {prompt : Prompt σ} (answers : prompt.Answers answer) (wrong : ¬ Supplied answer c)
    (told : ∀ p w, c.password = some p → answer = .ok (some w) → apart p w) :
    Leads (shows_ · c) (prompt store) fun o s =>
      shows_ s c ∧ (KeptOut o ∨ ∃ e, o = .error e ∧ answer = .error e) := by
  have refused {s : σ} (held : shows_ s c) :
      shows_ s c ∧ (KeptOut (.ok (.bool false)) ∨
        ∃ e, (.ok (.bool false) : Except Fault Value) = .error e ∧ answer = .error e) :=
    ⟨held, .inl (.inl ⟨_, rfl, rfl⟩)⟩
  cases answers with
  | absent => exact Action.leads_log_bind (Action.leads_pure fun _ held => refused held)
  | @source source answer asked =>
    have got : Leads (shows_ · c) source fun o s => shows_ s c ∧ o = answer := by
      intro r held
      rw [(asked r).1, (asked r).2]
      exact ⟨held, rfl⟩
    cases answer with
    | error e =>
      refine got.bind (fun f s held => ⟨held.1, .inr ⟨f, rfl, held.2.symm⟩⟩) fun v r held => ?_
      cases held.2
    | ok found =>
    refine got.bind_ok ?_
    cases found with
    | none => exact Action.leads_log_bind (Action.leads_pure fun _ held => refused held)
    | some w =>
      exact (tells.wrong c w (fun given => wrong ⟨w, rfl, given⟩) fun p given =>
        told p w given rfl).post fun o s held => ⟨held.1, .inl held.2⟩

theorem leads_askPrompt_right
    (asked : Leads (shows_ · c) (k.prompt k.store) fun o s =>
      shows_ s { c with entered := true } ∧ o = .ok (.bool true)) :
    Leads (shows_ · c) k.askPrompt fun o s => shows_ s { c with entered := true } ∧ o = .ok () := by
  have tried : Leads (shows_ · c) (Action.attempt (k.prompt k.store)) fun o s =>
      shows_ s { c with entered := true } ∧ o = .ok (.ok (.bool true)) :=
    Leads.attempt (asked.post fun o s held => ⟨held.1, congrArg Except.ok held.2⟩)
  exact Action.leads_log_bind (tried.bind_ok (Action.leads_pure fun _ held => ⟨held, rfl⟩))

/-- Whoever is kept out is denied, unless what the prompt throws does not print. -/
theorem leads_askPrompt_wrong
    (asked : Leads (shows_ · c) (k.prompt k.store) fun o s =>
      shows_ s c ∧ (KeptOut o ∨ ∃ e, o = .error e ∧ answer = .error e)) :
    Leads (shows_ · c) k.askPrompt fun o s => shows_ s c ∧
      ∃ f, o = .error f ∧ (Spelled answer → f.failure.lifecycle? = some .authDenied) := by
  have tried : Leads (shows_ · c) (Action.attempt (k.prompt k.store)) fun o s =>
      ∃ o', o = .ok o' ∧ shows_ s c ∧ (KeptOut o' ∨ ∃ e, o' = .error e ∧ answer = .error e) :=
    Leads.attempt (asked.post fun o s held => ⟨o, rfl, held⟩)
  refine Action.leads_log_bind (tried.bind_answer fun o => ?_)
  cases o with
  | error e =>
    -- The fault is spelled before anything is said of it.
    rcases e.asValue_cases with spelled | ⟨kind, m, thrown⟩
    · refine (Action.leads_ofExcept (Q := fun o s => shows_ s c ∧ o = .ok e.quoted)
        fun s held => ⟨held.1, spelled⟩).bind_ok ?_
      exact Action.leads_log_bind (Action.leads_throw fun s held => ⟨held, _, rfl, fun _ => rfl⟩)
    · have value : ¬ e.HasValue := fun value => nomatch thrown.symm.trans value
      refine (Action.leads_ofExcept (Q := fun o s => (shows_ s c ∧ ¬ Spelled answer) ∧
        o = .error (Fault.plain kind m)) fun s held => ⟨⟨held.1, fun spelled => ?_⟩, thrown⟩).bind
          (fun f s held => ⟨held.1.1, f, rfl, fun spelled => absurd spelled held.1.2⟩)
          fun v r held => nomatch held.2
      rcases held.2 with (⟨_, same, _⟩ | ⟨f, same, prints⟩) | ⟨f, same, failed⟩
      · cases same
      · exact value (Except.error.inj same ▸ prints)
      · exact value (Except.error.inj same ▸ spelled f failed)
  | ok v =>
    rintro r ⟨held, (⟨v', same, falsy⟩ | ⟨_, same, _⟩) | ⟨_, same, _⟩⟩
    · obtain rfl := Except.ok.inj same
      simp only [falsy]
      exact ⟨held, _, rfl, fun _ => rfl⟩
    · cases same
    · cases same

/-! ### Unlocking -/

/-- How unlocking a store ends that can be used as far as its password goes. -/
inductive Unlocked (shows_ : σ → Credentials → Prop) (answer : Except Fault (Option Text))
    (c : Credentials) (o : Except Fault Unit) (s : σ) : Prop
  | open_ (c' : Credentials) (ended : o = .ok ())
      (why : c.isLocked = true → Supplied answer c)
      (password : c'.password = c.initialised.password)
      (free : c'.isLocked = false) (left : shows_ s c')
  | denied (f : Fault) (ended : o = .error f)
      (why : Spelled answer → f.failure.lifecycle? = some .authDenied)
      (locked : c.isLocked = true) (wrong : ¬ Supplied answer c) (left : shows_ s c)

/-- Unlocking ends with a store that is open, or is denied: the latter where the store is locked and
the right password is not supplied. -/
theorem leads_ensureUnlocked (tells : k.store.Tells apart shows_)
    (answers : k.prompt.Answers answer)
    (told : ∀ p w, c.password = some p → answer = .ok (some w) → apart p w) :
    Leads (shows_ · c) k.ensureUnlocked (Unlocked shows_ answer c) := by
  refine (leads_isLoginRequired tells c).bind_ok ?_
  cases locked : c.isLocked with
  | false =>
    refine Action.leads_pure fun s held => ?_
    exact .open_ c.initialised rfl (fun impossible => nomatch locked.symm.trans impossible) rfl
      (c.isLocked_initialised.trans locked) held
  | true =>
  obtain ⟨w, given, filled⟩ := Credentials.given_of_isLocked locked
  rw [Credentials.initialised_of_given given]
  by_cases right : Supplied answer c
  · obtain ⟨w', said, given'⟩ := right
    obtain rfl : w = w' := Option.some.inj (given.symm.trans given')
    refine (leads_askPrompt_right (leads_prompt_right tells answers given filled said)).post
      fun o s held => ?_
    refine .open_ { c with entered := true } held.2 (fun _ => ⟨w, said, given⟩) ?_ ?_ held.1
    · rw [Credentials.initialised_of_given given]
    · exact Bool.and_false _
  · refine (leads_askPrompt_wrong (leads_prompt_wrong tells answers right told)).post
      fun o s held => ?_
    obtain ⟨held, f, failed, why⟩ := held
    exact .denied f failed why locked right held

end Keeper

end CertKeeper
