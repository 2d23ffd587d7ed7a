import CertKeeper.Fault
import CertKeeper.Journal

/-!
# Actions

A computation that changes a state, writes to the journal and ends with an answer or a fault.
What it changed and wrote before a fault stays.
-/

namespace CertKeeper

/-- What an action works on: a state, the journal so far and the operation it runs for. -/
structure Run (σ : Type) where
  state : σ
  journal : Journal
  operation : Option Text

abbrev Action (σ : Type) := ExceptT Fault (StateM (Run σ))

namespace Action

variable {σ ω α β : Type}

/-- Runs an action: its outcome and what it leaves. -/
def start (a : Action σ α) (r : Run σ) : Except Fault α × Run σ := a.run.run r

@[simp] theorem start_pure (a : α) (r : Run σ) : start (pure a : Action σ α) r = (.ok a, r) := rfl

@[simp] theorem start_throw (e : Fault) (r : Run σ) :
    start (throw e : Action σ α) r = (.error e, r) := rfl

/-- What follows goes on from an answer; nothing follows a fault. -/
theorem start_bind (a : Action σ α) (f : α → Action σ β) (r : Run σ) :
    start (a >>= f) r = match start a r with
      | (.ok v, r') => start (f v) r'
      | (.error e, r') => (.error e, r') := by
  have split : start (a >>= f) r
      = (ExceptT.bindCont f (start a r).1 : StateM (Run σ) (Except Fault β)).run (start a r).2 :=
    rfl
  rw [split]
  rcases start a r with ⟨_ | _, _⟩ <;> rfl

theorem start_bind_ok {a : Action σ α} {r r' : Run σ} {v : α} (h : start a r = (.ok v, r'))
    (f : α → Action σ β) : start (a >>= f) r = start (f v) r' := by
  rw [start_bind, h]

theorem start_bind_error {a : Action σ α} {r r' : Run σ} {e : Fault}
    (h : start a r = (.error e, r')) (f : α → Action σ β) :
    start (a >>= f) r = (.error e, r') := by
  rw [start_bind, h]

/-! ### State -/

def read : Action σ σ := do return (← getThe (Run σ)).state

def write (s : σ) : Action σ Unit := modifyThe (Run σ) fun r => ⟨s, r.journal, r.operation⟩

def change (f : σ → σ) : Action σ Unit :=
  modifyThe (Run σ) fun r => ⟨f r.state, r.journal, r.operation⟩

/-- Takes something out of the state and changes it. -/
def take (f : σ → α × σ) : Action σ α := do
  let (a, s) := f (← read)
  write s
  return a

@[simp] theorem start_read (r : Run σ) : start (read : Action σ σ) r = (.ok r.state, r) := rfl

@[simp] theorem start_write (s : σ) (r : Run σ) :
    start (write s) r = (.ok (), ⟨s, r.journal, r.operation⟩) := rfl

@[simp] theorem start_change (f : σ → σ) (r : Run σ) :
    start (change f) r = (.ok (), ⟨f r.state, r.journal, r.operation⟩) := rfl

@[simp] theorem start_take (f : σ → α × σ) (r : Run σ) :
    start (take f) r = (.ok (f r.state).1, ⟨(f r.state).2, r.journal, r.operation⟩) := rfl

/-! ### Journal -/

def log (level : Level) (message : Text) : Action σ Unit :=
  modifyThe (Run σ) fun r => ⟨r.state, r.journal ++ [⟨level, message, r.operation⟩], r.operation⟩

@[simp] theorem start_log (level : Level) (message : Text) (r : Run σ) :
    start (log level message) r
      = (.ok (), ⟨r.state, r.journal ++ [⟨level, message, r.operation⟩], r.operation⟩) := rfl

/-! ### Faults -/

/-- The outcome of an action as an answer of its own: nothing is thrown any more. -/
def attempt (a : Action σ α) : Action σ (Except Fault α) := fun r => do
  let (outcome, r) := a.start r
  return (.ok outcome, r)

@[simp] theorem start_attempt (a : Action σ α) (r : Run σ) :
    start (attempt a) r = (.ok (start a r).1, (start a r).2) := rfl

def ofExcept (outcome : Except Fault α) : Action σ α :=
  match outcome with
  | .ok a => pure a
  | .error e => throw e

@[simp] theorem start_ofExcept (outcome : Except Fault α) (r : Run σ) :
    start (ofExcept outcome) r = (outcome, r) := by
  cases outcome <;> rfl

/-- Throws what a handler makes of a fault; the handler leaves alone what it does not know. -/
def refine (a : Action σ α) (handler : Fault → Option Fault) : Action σ α := do
  match ← attempt a with
  | .ok v => return v
  | .error e => throw ((handler e).getD e)

theorem start_refine (a : Action σ α) (handler : Fault → Option Fault) (r : Run σ) :
    start (refine a handler) r
      = ((start a r).1.mapError fun e => (handler e).getD e, (start a r).2) := by
  rw [refine, start_bind, start_attempt]
  rcases start a r with ⟨_ | _, _⟩ <;> rfl

/-! ### Operations -/

/-- The operation that is running. -/
def operation : Action σ (Option Text) := do return (← getThe (Run σ)).operation

@[simp] theorem start_operation (r : Run σ) :
    start (operation : Action σ (Option Text)) r = (.ok r.operation, r) := rfl

/-- Runs an action for an operation; afterwards the caller's own operation is back. -/
def within (id : Option Text) (a : Action σ α) : Action σ α := fun r => do
  let (outcome, after) := a.start ⟨r.state, r.journal, id⟩
  return (outcome, ⟨after.state, after.journal, r.operation⟩)

theorem start_within (id : Option Text) (a : Action σ α) (r : Run σ) :
    start (within id a) r =
      let after := start a ⟨r.state, r.journal, id⟩
      (after.1, ⟨after.2.state, after.2.journal, r.operation⟩) := rfl

theorem operation_within (id : Option Text) (a : Action σ α) (r : Run σ) :
    (start (within id a) r).2.operation = r.operation := rfl

/-! ### Parts of a state -/

structure Part (ω σ : Type) where
  get : ω → σ
  set : σ → ω → ω

/-- Runs an action on a part and leaves the rest alone. -/
def on (part : Part ω σ) (a : Action σ α) : Action ω α := fun r => do
  let (outcome, after) := a.start ⟨part.get r.state, r.journal, r.operation⟩
  return (outcome, ⟨part.set after.state r.state, after.journal, after.operation⟩)

theorem start_on (part : Part ω σ) (a : Action σ α) (r : Run ω) :
    start (a.on part) r =
      let after := start a ⟨part.get r.state, r.journal, r.operation⟩
      (after.1, ⟨part.set after.2.state r.state, after.2.journal, after.2.operation⟩) := rfl

end Action

end CertKeeper
