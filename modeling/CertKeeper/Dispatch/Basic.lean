import CertKeeper.Action

/-!
# The dispatch desk

Work that is done later on a worker, and callbacks that are told its result at most once: on the
caller's event loop where the caller has one, else on the worker itself.  The desk is a queue of
accepted jobs, a list of callbacks that a loop is going to run, and a mark on every callback that
has been told.  Work and callbacks are tokens; an office says what they do.
-/

namespace CertKeeper.Dispatch

/-- How a caller is found when the result is ready. -/
inductive Home where
  | plain
  | loop
  /-- The caller's loop is going to be closed before the result is ready. -/
  | closedLoop
deriving DecidableEq, Repr

inductive Place where
  | caller
  | worker
deriving DecidableEq, Repr

/-- Accepted work; `shot` is the number of the callback that waits for it. -/
structure Job (ω : Type) where
  label : Text
  id : Text
  work : ω
  shot : Nat
  home : Home

structure Shot (κ : Type) where
  callback : κ
  label : Text
  fired : Bool

structure Scheduled (α : Type) where
  shot : Nat
  result : Except Fault α
  operation : Option Text

structure Desk (ω κ α : Type) where
  closed : Bool
  drawn : Nat
  queue : List (Job ω)
  scheduled : List (Scheduled α)
  shots : List (Shot κ)

namespace Desk

variable {ω κ α : Type}

def empty : Desk ω κ α := ⟨false, 0, [], [], []⟩

/-- Operation id number `n`: twelve hexadecimal digits. -/
def idOf (n : Nat) : Text := Text.padLeft 12 '0' (Text.hexLower n)

def drawId (d : Desk ω κ α) : Text × Desk ω κ α :=
  (idOf (d.drawn + 1), { d with drawn := d.drawn + 1 })

def register (callback : κ) (label : Text) (d : Desk ω κ α) : Nat × Desk ω κ α :=
  (d.shots.length, { d with shots := d.shots ++ [⟨callback, label, false⟩] })

def enqueue (j : Job ω) (d : Desk ω κ α) : Desk ω κ α := { d with queue := d.queue ++ [j] }

def schedule (s : Scheduled α) (d : Desk ω κ α) : Desk ω κ α :=
  { d with scheduled := d.scheduled ++ [s] }

def markFired (shot : Nat) (d : Desk ω κ α) : Desk ω κ α :=
  { d with shots := d.shots.modify shot fun s => { s with fired := true } }

theorem shots_markFired (d : Desk ω κ α) (shot other : Nat) :
    (d.markFired shot).shots[other]? =
      (d.shots[other]?).map fun s => if shot = other then { s with fired := true } else s := by
  simp only [markFired, List.getElem?_modify]
  by_cases h : shot = other <;> cases d.shots[other]? <;> simp [h]

def takeJob (d : Desk ω κ α) : Option (Job ω) × Desk ω κ α :=
  match d.queue with
  | [] => (none, d)
  | j :: rest => (some j, { d with queue := rest })

def takeScheduled (d : Desk ω κ α) : Option (Scheduled α) × Desk ω κ α :=
  match d.scheduled with
  | [] => (none, d)
  | s :: rest => (some s, { d with scheduled := rest })

end Desk

/-- What the tokens of a desk do, and where the desk lies in the state. -/
structure Office (W ω κ α : Type) where
  desk : Action.Part W (Desk ω κ α)
  perform : ω → Action W α
  notify : κ → Place → Except Fault α → Action W Unit

namespace Office

variable {W ω κ α β : Type}

def onDesk (o : Office W ω κ α) (f : Desk ω κ α → β × Desk ω κ α) : Action W β :=
  Action.take fun w =>
    let (b, d) := f (o.desk.get w)
    (b, o.desk.set d w)

def changeDesk (o : Office W ω κ α) (f : Desk ω κ α → Desk ω κ α) : Action W Unit :=
  Action.change fun w => o.desk.set (f (o.desk.get w)) w

/-! ### Telling a callback -/

/-- Tells a callback its result unless it has been told before; what it throws is reported. -/
def fire (o : Office W ω κ α) (shot : Nat) (place : Place) (result : Except Fault α) :
    Action W Unit := do
  match (o.desk.get (← Action.read)).shots[shot]? with
  | none => pure ()
  | some s =>
    if s.fired then
      Action.log .warning ("Result for " ++ s.label ++ " already delivered, dropping")
    else
      o.changeDesk (Desk.markFired shot)
      match ← Action.attempt (o.notify s.callback place result) with
      | .ok () => pure ()
      | .error _ => Action.log .error ("Result callback for " ++ s.label ++ " raised")

/-! ### Steps -/

def shutDown : Fault := Fault.plain .runtime "AsyncTaskRunner has been shut down"

/-- Accepts work, whose result the callback will be told. -/
def dispatch (o : Office W ω κ α) (label : Text) (work : ω) (callback : κ) (home : Home) :
    Action W Unit := do
  let shot ← o.onDesk (Desk.register callback label)
  let id ← o.onDesk Desk.drawId
  if (o.desk.get (← Action.read)).closed then throw shutDown
  o.changeDesk (Desk.enqueue ⟨label, id, work, shot, home⟩)

/-- The result of work, with foreign faults wrapped up, and a report where it failed.  A foreign
fault that does not print leaves no result. -/
def outcome (o : Office W ω κ α) (label : Text) (work : ω) : Action W (Except Fault α) := do
  match ← Action.attempt (o.perform work) with
  | .ok a => return .ok a
  | .error e =>
    if e.failure.lifecycle?.isSome then
      Action.log .warning (label ++ " failed: " ++ e.message)
      return .error e
    else
      Action.log .error (label ++ " failed unexpectedly")
      let text ← Action.ofExcept e.asText
      return .error (Fault.because
        (.lifecycle .storeUnavailable (label ++ " failed unexpectedly: " ++ text)) e)

def send (o : Office W ω κ α) (j : Job ω) (result : Except Fault α) : Action W Unit := do
  match j.home with
  | .plain => o.fire j.shot .worker result
  | .loop =>
    let operation ← Action.operation
    o.changeDesk (Desk.schedule ⟨j.shot, result, operation⟩)
  | .closedLoop =>
    Action.log .warning "Caller event loop is closed, delivering on worker thread"
    o.fire j.shot .worker result

/-- Does the work of a job under the job's own operation id. -/
def execute (o : Office W ω κ α) (j : Job ω) : Action W Unit :=
  Action.within (some j.id) do
    Action.log .debug ("Running " ++ j.label)
    o.send j (← o.outcome j.label j.work)

/-- A worker does the next job; `false` where there is none. -/
def workerStep (o : Office W ω κ α) : Action W Bool := do
  match ← o.onDesk Desk.takeJob with
  | none => return false
  | some j =>
    -- What the job itself throws stays with its future, which nobody asks.
    let _ ← Action.attempt (o.execute j)
    return true

def loopStep (o : Office W ω κ α) : Action W Bool := do
  match ← o.onDesk Desk.takeScheduled with
  | none => return false
  | some s =>
    Action.within s.operation (o.fire s.shot .caller s.result)
    return true

/-- Tells a callback a result that is known already: at once, or by the caller's loop. -/
def deliver (o : Office W ω κ α) (label : Text) (callback : κ) (result : Except Fault α)
    (home : Home) : Action W Unit := do
  let shot ← o.onDesk (Desk.register callback label)
  match home with
  | .plain => o.fire shot .caller result
  | _ =>
    let operation ← Action.operation
    o.changeDesk (Desk.schedule ⟨shot, result, operation⟩)

/-! ### Several steps -/

def work (o : Office W ω κ α) : Nat → Action W Unit
  | 0 => pure ()
  | fuel + 1 => do if ← o.workerStep then work o fuel

def turn (o : Office W ω κ α) : Nat → Action W Unit
  | 0 => pure ()
  | fuel + 1 => do if ← o.loopStep then turn o fuel

def settle (o : Office W ω κ α) : Action W Unit := do
  o.work (o.desk.get (← Action.read)).queue.length
  o.turn (o.desk.get (← Action.read)).scheduled.length

/-- Takes no more work; with `wait`, what was accepted is done first. -/
def shutdown (o : Office W ω κ α) (wait : Bool) : Action W Unit := do
  o.changeDesk fun d => { d with closed := true }
  if wait then o.work (o.desk.get (← Action.read)).queue.length
  Action.log .debug "AsyncTaskRunner shut down"

def start (o : Office W ω κ α) (workers : Int) : Action W Unit := do
  if workers ≤ 0 then throw (Fault.value "max_workers must be greater than 0")
  o.changeDesk fun _ => Desk.empty
  Action.log .debug ("Initialized AsyncTaskRunner with " ++ Text.integer workers ++ " workers")

end Office

end CertKeeper.Dispatch
