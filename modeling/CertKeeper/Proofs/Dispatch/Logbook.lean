import CertKeeper.Journal.Layout
import CertKeeper.Proofs.Dispatch.Scene
import CertKeeper.Proofs.Encoding.Decimal

/-!
# An office that keeps a logbook

Work and callbacks that may dispatch more work, done by workers that take turns.  The logbook has
every dispatch, the id that was drawn for it and the operation that the dispatching context held
before and after, and every operation that was shown to work while it was done.
-/

namespace CertKeeper

open CertKeeper.Action (start)

/-! ### Ids -/

namespace Text

theorem filterMap_hexDigit? {ds : List Nat} (small : ∀ d ∈ ds, d < 16) :
    (ds.map hexPoint).filterMap hexDigit? = ds := by
  induction ds with
  | nil => rfl
  | cons d ds ih =>
    have first := (hexPoint_spec (small d List.mem_cons_self)).1
    rw [List.map_cons, List.filterMap_cons_some first,
      ih fun e he => small e (List.mem_cons_of_mem _ he)]

theorem ofDigits_padLeft_hexLower (width n : Nat) :
    ofDigits 16 ((padLeft width '0' (hexLower n)).filterMap hexDigit?) = n := by
  have spelled : padLeft width '0' (hexLower n) = (List.replicate
      (width - (hexLower n).length) 0 ++ digits 16 n).map hexPoint := by
    rw [padLeft, List.map_append, List.map_replicate]
    rfl
  have small : ∀ d ∈ List.replicate (width - (hexLower n).length) 0 ++ digits 16 n, d < 16 := by
    intro d hd
    rcases List.mem_append.mp hd with hd | hd
    · rw [(List.mem_replicate.mp hd).2]
      decide
    · exact digits_lt (by decide) d hd
  rw [spelled, filterMap_hexDigit? small, ofDigits_zeros, ofDigits_digits]

end Text

namespace Dispatch

variable {W σ ω κ α β γ : Type}

namespace Desk

theorem idOf_injective {m n : Nat} (h : idOf m = idOf n) : m = n := by
  rw [← Text.ofDigits_padLeft_hexLower 12 m, ← Text.ofDigits_padLeft_hexLower 12 n]
  exact congrArg (fun t => Text.ofDigits 16 (List.filterMap Text.hexDigit? t)) h

theorem idOf_ne_nil (n : Nat) : idOf n ≠ [] := by
  intro empty
  have long := Text.length_padLeft 12 '0' (Text.hexLower n)
  rw [idOf] at empty
  rw [empty, List.length_nil] at long
  omega

end Desk

def Office.conclude (o : Office W ω κ α) (j : Job ω) : Action W Unit := do
  o.send j (← o.outcome j.label j.work)

/-! ### Scripts -/

inductive Act (σ ω κ : Type) where
  | say (level : Level) (message : Text)
  | touch (f : σ → σ)
  | dispatch (label : Text) (work : ω) (callback : κ) (home : Home)

structure Heard (σ : Type) where
  outcome : Except Fault Unit
  operation : Option Text
  rest : σ

/-- One act after the other, each of which may depend on everything that was heard before. -/
inductive Script (σ ω κ β : Type) where
  | done (outcome : Except Fault β)
  | step (act : Act σ ω κ) (next : Heard σ → Script σ ω κ β)

/-! ### A world that keeps a logbook -/

/-- A dispatch: its work, which one of the ids it drew, and the operation that the dispatching
context held before and after. -/
structure Order (ω : Type) where
  work : ω
  draw : Nat
  before : Option Text
  after : Option Text

def Order.id (x : Order ω) : Text := Desk.idOf x.draw

/-- An operation that was shown to the work of an order while it was done: as the one that is
running, or on a line that the work wrote. -/
structure Sight where
  order : Nat
  shown : Option Text

structure Underway (σ ω κ α : Type) where
  job : Job Nat
  rest : Script σ ω κ α

/-- A world with a desk, at which work goes by the number of its order. -/
structure Logbook (σ ω κ α : Type) where
  rest : σ
  desk : Desk Nat κ α
  underway : List (Underway σ ω κ α)
  orders : List (Order ω)
  sights : List Sight

namespace Logbook

def blank (rest : σ) : Logbook σ ω κ α := ⟨rest, Desk.empty, [], [], []⟩

def deskPart : Action.Part (Logbook σ ω κ α) (Desk Nat κ α) :=
  ⟨desk, fun d l => { l with desk := d }⟩

def without (k : Nat) (l : Logbook σ ω κ α) : Logbook σ ω κ α :=
  { l with desk.queue := l.desk.queue.eraseIdx k }

def staffed (perform : Nat → Action (Logbook σ ω κ α) α)
    (notify : κ → Place → Except Fault α → Action (Logbook σ ω κ α) Unit) :
    Office (Logbook σ ω κ α) Nat κ α := ⟨deskPart, perform, notify⟩

/-- Where orders are taken; nothing is done here. -/
def counter : Office (Logbook σ ω κ α) Nat κ α :=
  staffed (fun _ => throw Office.shutDown) fun _ _ _ => pure ()

/-- Dispatches work and enters the order, also where it is refused. -/
def order (label : Text) (work : ω) (callback : κ) (home : Home) :
    Action (Logbook σ ω κ α) Unit := do
  let before ← Action.operation
  let number := (← Action.read).orders.length
  let outcome ← Action.attempt (counter.dispatch label number callback home)
  let after ← Action.operation
  Action.change fun l =>
    { l with orders := l.orders ++ [⟨work, l.desk.drawn, before, after⟩] }
  Action.ofExcept outcome

def enter (who : Option Nat) (shown : Option Text) (l : Logbook σ ω κ α) : Logbook σ ω κ α :=
  match who with
  | none => l
  | some n => { l with sights := l.sights ++ [⟨n, shown⟩] }

def noteContext (who : Option Nat) : Action (Logbook σ ω κ α) Unit :=
  modifyThe (Run (Logbook σ ω κ α)) fun r =>
    ⟨r.state.enter who r.operation, r.journal, r.operation⟩

def noteLine (who : Option Nat) : Action (Logbook σ ω κ α) Unit :=
  modifyThe (Run (Logbook σ ω κ α)) fun r =>
    ⟨r.state.enter who (r.journal.getLast?.bind Line.operation), r.journal, r.operation⟩

end Logbook

open Logbook (order noteContext noteLine staffed counter)

def Act.effect (who : Option Nat) : Act σ ω κ → Action (Logbook σ ω κ α) Unit
  | say level message => do
    Action.log level message
    noteLine who
  | touch f => Action.change fun l => { l with rest := f l.rest }
  | dispatch label work callback home => order label work callback home

def Act.hear (who : Option Nat) (act : Act σ ω κ) : Action (Logbook σ ω κ α) (Heard σ) := do
  let outcome ← Action.attempt (act.effect who)
  return ⟨outcome, ← Action.operation, (← Action.read).rest⟩

def Act.perform (who : Option Nat) (act : Act σ ω κ) : Action (Logbook σ ω κ α) (Heard σ) := do
  noteContext who
  act.hear who

def Script.follow (who : Option Nat) : Script σ ω κ β → Action (Logbook σ ω κ α) β
  | .done outcome => do
    noteContext who
    Action.ofExcept outcome
  | .step act next => do (next (← act.perform who)).follow who

namespace Logbook

section

variable (works : ω → Script σ ω κ α)
  (callbacks : κ → Place → Except Fault α → Script σ ω κ Unit)

def tell (callback : κ) (place : Place) (result : Except Fault α) :
    Action (Logbook σ ω κ α) Unit := (callbacks callback place result).follow none

def office : Office (Logbook σ ω κ α) Nat κ α :=
  staffed (fun n => do
      match (← Action.read).orders[n]? with
      | some x => (works x.work).follow (some n)
      | none => throw (Fault.plain .runtime "no such order"))
    (tell callbacks)

/-! ### Workers that take turns -/

def beginAt (k : Nat) : Action (Logbook σ ω κ α) Unit := do
  match ← counter.onDesk (Desk.takeJobAt k) with
  | none => return ()
  | some j =>
    Action.within (some j.id) (Action.log .debug ("Running " ++ j.label))
    match (← Action.read).orders[j.work]? with
    | some x => Action.change fun l => { l with underway := l.underway ++ [⟨j, works x.work⟩] }
    | none => return ()

def closing (outcome : Except Fault α) : Office (Logbook σ ω κ α) Nat κ α :=
  staffed (fun n => (Script.done outcome).follow (some n)) (tell callbacks)

def stepAt (i : Nat) : Action (Logbook σ ω κ α) Unit := do
  match (← Action.read).underway[i]? with
  | none => return ()
  | some ⟨j, .step act next⟩ =>
    let heard ← Action.within (some j.id) (act.perform (some j.work))
    Action.change fun l => { l with underway := l.underway.set i ⟨j, next heard⟩ }
  | some ⟨j, .done outcome⟩ =>
    Action.change fun l => { l with underway := l.underway.eraseIdx i }
    Action.within (some j.id) ((closing callbacks outcome).conclude j)

end

end Logbook

/-- What can happen at an office whose workers take turns.  `work` is a job that is done from
beginning to end, `draw` an id that is drawn for something else. -/
inductive Deed (ω κ α : Type) where
  | dispatch (label : Text) (work : ω) (callback : κ) (home : Home)
  | deliver (label : Text) (callback : κ) (result : Except Fault α) (home : Home)
  | shutdown (wait : Bool)
  | work (k : Nat)
  | begin (k : Nat)
  | step (i : Nat)
  | turn (k : Nat)
  | draw

def Deed.perform (works : ω → Script σ ω κ α)
    (callbacks : κ → Place → Except Fault α → Script σ ω κ Unit) :
    Deed ω κ α → Action (Logbook σ ω κ α) Unit
  | .dispatch label w callback home => order label w callback home
  | .deliver label callback result home =>
    (Logbook.office works callbacks).deliver label callback result home
  | .shutdown wait => (Logbook.office works callbacks).shutdown wait
  | .work k => (Move.work k).perform (Logbook.office works callbacks)
  | .begin k => Logbook.beginAt works k
  | .step i => Logbook.stepAt callbacks i
  | .turn k => (Move.turn k).perform (Logbook.office works callbacks)
  | .draw => do
    let _ ← (counter : Office (Logbook σ ω κ α) Nat κ α).onDesk Desk.drawId
    return ()

namespace Logbook

def amid (context : Option Text) (r : Run (Logbook σ ω κ α)) : Run (Logbook σ ω κ α) :=
  ⟨r.state, r.journal, context⟩

section

variable (works : ω → Script σ ω κ α)
  (callbacks : κ → Place → Except Fault α → Script σ ω κ Unit)

def after (deeds : List (Option Text × Deed ω κ α)) (r : Run (Logbook σ ω κ α)) :
    Run (Logbook σ ω κ α) :=
  deeds.foldl (fun r d => (start (d.2.perform works callbacks) (amid d.1 r)).2) r

theorem after_cons (d : Option Text × Deed ω κ α) (deeds : List (Option Text × Deed ω κ α))
    (r : Run (Logbook σ ω κ α)) : after works callbacks (d :: deeds) r =
      after works callbacks deeds (start (d.2.perform works callbacks) (amid d.1 r)).2 := rfl

theorem after_append (deeds : List (Option Text × Deed ω κ α)) (d : Option Text × Deed ω κ α)
    (r : Run (Logbook σ ω κ α)) : after works callbacks (deeds ++ [d]) r =
      (start (d.2.perform works callbacks) (amid d.1 (after works callbacks deeds r))).2 := by
  rw [after, List.foldl_append]
  rfl

end

/-! ### What orders and turns come to -/

def booked (label : Text) (number : Nat) (callback : κ) (home : Home) (d : Desk Nat κ α) :
    Desk Nat κ α :=
  let asked := (d.register callback label).2.drawId.2
  if d.closed then asked
  else asked.enqueue ⟨label, Desk.idOf (d.drawn + 1), number, d.shots.length, home⟩

theorem drawn_booked (label : Text) (number : Nat) (callback : κ) (home : Home)
    (d : Desk Nat κ α) : (booked label number callback home d).drawn = d.drawn + 1 := by
  rw [booked]
  split <;> rfl

theorem mem_queue_booked {label : Text} {number : Nat} {callback : κ} {home : Home}
    {d : Desk Nat κ α} {j : Job Nat} (h : j ∈ (booked label number callback home d).queue) :
    j ∈ d.queue ∨ (j.work = number ∧ j.id = Desk.idOf (d.drawn + 1)) := by
  rw [booked] at h
  split at h
  · exact .inl h
  · rcases List.mem_append.mp h with old | new
    · exact .inl old
    · cases List.mem_singleton.mp new
      exact .inr ⟨rfl, rfl⟩

theorem start_order (label : Text) (work : ω) (callback : κ) (home : Home)
    (r : Run (Logbook σ ω κ α)) : start (order label work callback home) r =
      (if r.state.desk.closed then .error Office.shutDown else .ok (),
        ⟨{ r.state with
            desk := booked label r.state.orders.length callback home r.state.desk
            orders := r.state.orders ++
              [⟨work, r.state.desk.drawn + 1, r.operation, r.operation⟩] },
          r.journal, r.operation⟩) := by
  obtain ⟨⟨rest, ⟨closed, drawn, queue, scheduled, shots⟩, underway, orders, sights⟩, journal,
    operation⟩ := r
  cases closed <;> rfl

theorem start_takeJobAt {o : Office (Logbook σ ω κ α) Nat κ α} (seat : o.desk = deskPart) (k : Nat)
    (r : Run (Logbook σ ω κ α)) :
    start (o.onDesk (Desk.takeJobAt k)) r = (.ok r.state.desk.queue[k]?,
      ⟨r.state.without k, r.journal, r.operation⟩) := by
  have taken (d : Desk Nat κ α) :
      d.takeJobAt k = (d.queue[k]?, { d with queue := d.queue.eraseIdx k }) := by
    rw [Desk.takeJobAt]
    cases there : d.queue[k]? with
    | none => rw [List.eraseIdx_of_length_le (List.getElem?_eq_none_iff.mp there)]
    | some j => rfl
  rw [Office.onDesk, seat, Action.start_take]
  simp only [deskPart, taken, without]

theorem start_beginAt (works : ω → Script σ ω κ α) {k : Nat} {j : Job Nat} {x : Order ω}
    {r : Run (Logbook σ ω κ α)} (waiting : r.state.desk.queue[k]? = some j)
    (at_ : r.state.orders[j.work]? = some x) :
    start (beginAt works k) r = (.ok (), ⟨{ r.state.without k with
        underway := r.state.underway ++ [⟨j, works x.work⟩] },
      r.journal ++ [⟨.debug, "Running " ++ j.label, some j.id⟩], r.operation⟩) := by
  rw [beginAt, Action.start_bind_ok (start_takeJobAt rfl k r), waiting]
  have same : (r.state.without k).orders[j.work]? = some x := at_
  simp only [Action.start_bind, Action.start_within, Action.start_log, Action.start_read, same]
  rfl

end Logbook

end Dispatch

end CertKeeper
