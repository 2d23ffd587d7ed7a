import CertKeeper.Keeper.Issue
import CertKeeper.Proofs.Action

/-!
# Stores that are watched

A store beside which every call is written down, with what it was asked and how it ended.  A
condition on what an action asks is composed from those of its parts.
-/

namespace CertKeeper

open CertKeeper.Action (start)

variable {σ α β : Type}

/-- A call of a store, with its outcome. -/
inductive Asked where
  /-- How many rounds a sweep may take is known when the store has answered. -/
  | isAvailable (o : Except Fault Value) (rounds : Nat)
  | needsUserInit (o : Except Fault Value)
  | initPassword (password : Text) (o : Except Fault Unit)
  | needsLogin (o : Except Fault Value)
  | isLoggedIn (o : Except Fault Value)
  | login (password : Text) (o : Except Fault Value)
  | findByName (name : Text) (o : Except Fault (Option Entry))
  | delete (e : Entry) (o : Except Fault Unit)
  | deleteKey (id : Text) (o : Except Fault Unit)
  | generateKey (c : Crypto.Curve) (o : Except Fault KeyHandle)
  | sign (id : Text) (t : X509.Template) (d : X509.Template.DigestChoice)
      (o : Except Fault X509.Certificate)
  | importCertificate (c : X509.Certificate) (name : Text) (o : Except Fault Entry)
  /-- The clock is read when the bytes are there. -/
  | randomBytes (n : Int) (o : Except Fault Value) (now : Instant)

/-- The state of a store and the calls that were made. -/
structure Observed (σ : Type) where
  state : σ
  calls : List Asked

namespace Observed

def statePart : Action.Part (Observed σ) σ := ⟨state, fun s w => { w with state := s }⟩

/-- Writes down a call, with what there is to note of its outcome and of the state that it left. -/
def watch (note : Except Fault α → σ → Asked) (call : Action σ α) : Action (Observed σ) α := do
  let outcome ← Action.attempt (call.on statePart)
  Action.change fun w => { w with calls := w.calls ++ [note outcome w.state] }
  Action.ofExcept outcome

end Observed

open Observed (watch)

def KeyStore.observed (clock : σ → Instant) (s : KeyStore σ) : KeyStore (Observed σ) where
  isAvailable := watch (fun o left => .isAvailable o (s.horizon left)) s.isAvailable
  needsUserInit := watch (fun o _ => .needsUserInit o) s.needsUserInit
  initPassword p := watch (fun o _ => .initPassword p o) (s.initPassword p)
  needsLogin := watch (fun o _ => .needsLogin o) s.needsLogin
  isLoggedIn := watch (fun o _ => .isLoggedIn o) s.isLoggedIn
  login p := watch (fun o _ => .login p o) (s.login p)
  findByName name := watch (fun o _ => .findByName name o) (s.findByName name)
  delete e := watch (fun o _ => .delete e o) (s.delete e)
  deleteKey id := watch (fun o _ => .deleteKey id o) (s.deleteKey id)
  generateKey c := watch (fun o _ => .generateKey c o) (s.generateKey c)
  sign id t d := watch (fun o _ => .sign id t d o) (s.sign id t d)
  importCertificate c name := watch (fun o _ => .importCertificate c name o)
    (s.importCertificate c name)
  randomBytes n := watch (fun o left => .randomBytes n o (clock left)) (s.randomBytes n)
  horizon w := s.horizon w.state

def Keeper.observed (k : Keeper σ) : Keeper (Observed σ) where
  store := k.store.observed k.clock
  prompt _ := (k.prompt k.store).on Observed.statePart
  clock w := k.clock w.state
  suite := k.suite
  policy := k.policy

/-! ### What an action asks -/

/-- However an action is started, it ends and asks as `Q` says. -/
def Asks (a : Action (Observed σ) α) (Q : Except Fault α → List Asked → Prop) : Prop :=
  ∀ r : Run (Observed σ), ∃ calls, (start a r).2.state.calls = r.state.calls ++ calls ∧
    Q (start a r).1 calls

/-- One condition where there is an answer, another where there is a fault. -/
def Either (answer : α → List Asked → Prop) (fault : Fault → List Asked → Prop) :
    Except Fault α → List Asked → Prop
  | .ok v, calls => answer v calls
  | .error e, calls => fault e calls

variable {Q Q' : Except Fault α → List Asked → Prop}

theorem Asks.mono {a : Action (Observed σ) α} (h : Asks a Q) (weaker : ∀ o l, Q o l → Q' o l) :
    Asks a Q' := by
  intro r
  obtain ⟨calls, asked, ended⟩ := h r
  exact ⟨calls, asked, weaker _ _ ended⟩

theorem asks_pure {a : α} (h : Q (.ok a) []) : Asks (pure a : Action (Observed σ) α) Q :=
  fun _ => ⟨[], (List.append_nil _).symm, h⟩

theorem asks_throw {e : Fault} (h : Q (.error e) []) :
    Asks (throw e : Action (Observed σ) α) Q :=
  fun _ => ⟨[], (List.append_nil _).symm, h⟩

theorem Asks.bind {a : Action (Observed σ) β} {f : β → Action (Observed σ) α}
    {R : Except Fault β → List Asked → Prop} (first : Asks a R)
    (fault : ∀ e l, R (.error e) l → Q (.error e) l)
    (next : ∀ v l, R (.ok v) l → Asks (f v) fun o more => Q o (l ++ more)) :
    Asks (a >>= f) Q := by
  intro r
  obtain ⟨calls, asked, ended⟩ := first r
  rw [Action.start_bind]
  cases reached : start a r with
  | mk outcome r' =>
    rw [reached] at asked ended
    cases outcome with
    | error e => exact ⟨calls, asked, fault e calls ended⟩
    | ok v =>
      obtain ⟨more, asked', ended'⟩ := next v calls ended r'
      refine ⟨calls ++ more, ?_, ended'⟩
      rw [asked', asked, List.append_assoc]

theorem Asks.after_log {a : Action (Observed σ) α} {level : Level} {message : Text}
    (h : Asks a Q) : Asks (Action.log level message >>= fun _ => a) Q :=
  fun r => h ⟨r.state, _, r.operation⟩

theorem Asks.after_read {f : Observed σ → Action (Observed σ) α} (h : ∀ w, Asks (f w) Q) :
    Asks (Action.read >>= f) Q :=
  fun r => h r.state r

theorem Asks.attempt {a : Action (Observed σ) α} {Q : Except Fault (Except Fault α) → List Asked →
    Prop} (h : Asks a fun o l => Q (.ok o) l) : Asks (Action.attempt a) Q := h

theorem Asks.refine {a : Action (Observed σ) α} {handler : Fault → Option Fault}
    (h : Asks a fun o l => Q (o.mapError fun e => (handler e).getD e) l) :
    Asks (Action.refine a handler) Q := by
  intro r
  rw [Action.start_refine]
  exact h r

theorem start_watch (note : Except Fault α → σ → Asked) (call : Action σ α)
    (r : Run (Observed σ)) :
    let ended := start call ⟨r.state.state, r.journal, r.operation⟩
    start (watch note call) r = (ended.1,
      ⟨⟨ended.2.state, r.state.calls ++ [note ended.1 ended.2.state]⟩, ended.2.journal,
        ended.2.operation⟩) := by
  simp only [watch, Action.start_bind, Action.start_attempt, Action.start_on,
    Action.start_change, Action.start_ofExcept]
  rfl

theorem asks_watch (note : Except Fault α → σ → Asked) {call : Action σ α}
    (h : ∀ r, Q (start call r).1 [note (start call r).1 (start call r).2.state]) :
    Asks (watch note call) Q := by
  intro r
  rw [start_watch]
  exact ⟨_, rfl, h _⟩

end CertKeeper
