import CertKeeper.Proofs.Dispatch.Logbook

/-!
# Operation ids

Work is done for the operation whose id was drawn when it was dispatched, and for no other: whoever
dispatched it, whatever a worker did before and whatever other workers do meanwhile.  Main
statement: `Logbook.shows_own_id`.
-/

namespace CertKeeper

/-! ### Tags -/

theorem Value.field?_setField (name : Text) (v : Value) (fields : List (Text × Value)) :
    Value.field? name (.object (setField name v fields)) = some v := by
  rw [field?]
  induction fields with
  | nil => exact congrArg (Option.map Prod.snd) (List.find?_cons_of_pos (decide_eq_true rfl))
  | cons f rest ih =>
    rw [setField]
    by_cases same : f.1 = name
    · rw [if_pos same]
      exact congrArg (Option.map Prod.snd) (List.find?_cons_of_pos (decide_eq_true rfl))
    · rw [if_neg same]
      refine Eq.trans (congrArg (Option.map Prod.snd) (List.find?_cons_of_neg ?_)) ih
      simpa using same

theorem Journal.field?_tagged {id : Text} (some_ : id ≠ []) (extra : List (Text × Value)) :
    Value.field? operationField (.object (tagged (some id) extra)) = some (.text id) := by
  cases id with
  | nil => exact absurd rfl some_
  | cons c cs => exact Value.field?_setField _ _ extra

namespace Dispatch

open CertKeeper.Action (start)
open Logbook (order noteContext counter)

variable {σ ω κ α β γ : Type}

namespace Logbook

/-! ### Truthful logbooks -/

variable {l l' : Logbook σ ω κ α} {who : Option Nat} {operation : Option Text}

/-- The operation is the one whose id was drawn for an order. -/
def Names (l : Logbook σ ω κ α) (n : Nat) (operation : Option Text) : Prop :=
  ∃ x, l.orders[n]? = some x ∧ operation = some x.id

def Serves (l : Logbook σ ω κ α) (who : Option Nat) (operation : Option Text) : Prop :=
  ∀ n, who = some n → l.Names n operation

structure Truthful (l : Logbook σ ω κ α) : Prop where
  queue : ∀ j ∈ l.desk.queue, l.Names j.work (some j.id)
  underway : ∀ u ∈ l.underway, l.Names u.job.work (some u.job.id)
  drawn : ∀ x ∈ l.orders, x.draw ≤ l.desk.drawn
  apart : (l.orders.map Order.draw).Nodup
  undisturbed : ∀ x ∈ l.orders, x.after = x.before
  sights : ∀ s ∈ l.sights, l.Names s.order s.shown

theorem truthful_blank (rest : σ) : (blank rest : Logbook σ ω κ α).Truthful where
  queue _ impossible := nomatch impossible
  underway _ impossible := nomatch impossible
  drawn _ impossible := nomatch impossible
  apart := List.nodup_nil
  undisturbed _ impossible := nomatch impossible
  sights _ impossible := nomatch impossible

theorem serves_none : l.Serves none operation := fun _ impossible => nomatch impossible

theorem Names.serves {n : Nat} (h : l.Names n operation) : l.Serves (some n) operation := by
  intro m same
  cases same
  exact h

theorem Names.mono {n : Nat} (h : l.Names n operation) (more : l.orders <+: l'.orders) :
    l'.Names n operation := by
  obtain ⟨x, at_, same⟩ := h
  obtain ⟨rest, all⟩ := more
  have inside : n < l.orders.length := (List.getElem?_eq_some_iff.mp at_).1
  refine ⟨x, ?_, same⟩
  rw [← all, List.getElem?_append_left inside, at_]

namespace Truthful

theorem desk (h : l.Truthful) {d : Desk Nat κ α} (fewer : d.queue ⊆ l.desk.queue)
    (drawn : l.desk.drawn ≤ d.drawn) : ({ l with desk := d } : Logbook σ ω κ α).Truthful where
  queue j hj := h.queue j (fewer hj)
  underway := h.underway
  drawn x hx := Nat.le_trans (h.drawn x hx) drawn
  apart := h.apart
  undisturbed := h.undisturbed
  sights := h.sights

theorem underway_ (h : l.Truthful) {us : List (Underway σ ω κ α)}
    (known : ∀ u ∈ us, l.Names u.job.work (some u.job.id)) :
    ({ l with underway := us } : Logbook σ ω κ α).Truthful :=
  ⟨h.queue, known, h.drawn, h.apart, h.undisturbed, h.sights⟩

theorem rest (h : l.Truthful) (s : σ) : ({ l with rest := s } : Logbook σ ω κ α).Truthful :=
  ⟨h.queue, h.underway, h.drawn, h.apart, h.undisturbed, h.sights⟩

theorem enter (h : l.Truthful) (serves : l.Serves who operation) :
    (l.enter who operation).Truthful := by
  cases who with
  | none => exact h
  | some n =>
    refine ⟨h.queue, h.underway, h.drawn, h.apart, h.undisturbed, fun s hs => ?_⟩
    rcases List.mem_append.mp hs with old | new
    · exact h.sights s old
    · cases List.mem_singleton.mp new
      exact serves n rfl

end Truthful

theorem Truthful.booked (h : l.Truthful) (label : Text) (work : ω) (callback : κ) (home : Home)
    (operation : Option Text) :
    ({ l with
        desk := Logbook.booked label l.orders.length callback home l.desk
        orders := l.orders ++ [⟨work, l.desk.drawn + 1, operation, operation⟩] } :
      Logbook σ ω κ α).Truthful := by
  -- Orders go by their place, and a new one takes the place of none.
  have known {n : Nat} {operation' : Option Text} (names : l.Names n operation') :
      (l.orders ++ [⟨work, l.desk.drawn + 1, operation, operation⟩])[n]? = l.orders[n]? := by
    obtain ⟨x, at_, _⟩ := names
    exact List.getElem?_append_left (List.getElem?_eq_some_iff.mp at_).1
  have fresh : l.desk.drawn + 1 ∉ l.orders.map Order.draw := by
    intro old
    obtain ⟨x, hx, same⟩ := List.mem_map.mp old
    have least := h.drawn x hx
    omega
  refine ⟨fun j hj => ?_, fun u hu => ?_, fun x hx => ?_, ?_, fun x hx => ?_, fun s hs => ?_⟩
  · rcases mem_queue_booked hj with old | ⟨number, id⟩
    · obtain ⟨x, at_, same⟩ := h.queue j old
      exact ⟨x, (known ⟨x, at_, same⟩).trans at_, same⟩
    · refine ⟨⟨work, l.desk.drawn + 1, operation, operation⟩, ?_, congrArg some id⟩
      rw [number]
      exact List.getElem?_concat_length
  · obtain ⟨x, at_, same⟩ := h.underway u hu
    exact ⟨x, (known ⟨x, at_, same⟩).trans at_, same⟩
  · show x.draw ≤ (Logbook.booked label l.orders.length callback home l.desk).drawn
    rw [drawn_booked]
    rcases List.mem_append.mp hx with old | new
    · have least := h.drawn x old
      omega
    · cases List.mem_singleton.mp new
      exact Nat.le_refl _
  · show (List.map Order.draw (l.orders ++ _)).Nodup
    rw [List.map_append]
    refine List.nodup_append.mpr ⟨h.apart, List.pairwise_singleton _ _, ?_⟩
    intro a old b new same
    rw [same, List.mem_singleton.mp new] at old
    exact fresh old
  · rcases List.mem_append.mp hx with old | new
    · exact h.undisturbed x old
    · cases List.mem_singleton.mp new
      rfl
  · obtain ⟨x, at_, same⟩ := h.sights s hs
    exact ⟨x, (known ⟨x, at_, same⟩).trans at_, same⟩

/-! ### Actions that keep the logbook truthful -/

structure Goes (l : Logbook σ ω κ α) (operation : Option Text) (r : Run (Logbook σ ω κ α)) :
    Prop where
  truthful : r.state.Truthful
  orders : l.orders <+: r.state.orders
  sights : l.sights <+: r.state.sights
  operation : r.operation = operation

theorem Truthful.goes {r : Run (Logbook σ ω κ α)} (h : r.state.Truthful) :
    Goes r.state r.operation r := ⟨h, List.prefix_rfl, List.prefix_rfl, rfl⟩

theorem Goes.trans {operation' : Option Text} {r r' : Run (Logbook σ ω κ α)}
    (h : Goes l operation r) (h' : Goes r.state operation' r') : Goes l operation' r' :=
  ⟨h'.truthful, h.orders.trans h'.orders, h.sights.trans h'.sights, h'.operation⟩

theorem Goes.serves {r : Run (Logbook σ ω κ α)} (h : Goes l operation r)
    (serves : l.Serves who operation) : r.state.Serves who r.operation := by
  rw [h.operation]
  exact fun n same => (serves n same).mono h.orders

theorem Goes.of_enter {shown : Option Text} {r : Run (Logbook σ ω κ α)}
    (h : Goes (l.enter who shown) operation r) : Goes l operation r := by
  refine ⟨h.truthful, ?_, ?_, h.operation⟩
  · cases who <;> exact h.orders
  · cases who with
    | none => exact h.sights
    | some n => exact (List.prefix_append _ _).trans h.sights

/-- Done for an order, or for none, an action enters only what is true, and leaves the operation
that is running. -/
def Keeps (who : Option Nat) (a : Action (Logbook σ ω κ α) γ) : Prop :=
  ∀ r, r.state.Truthful → r.state.Serves who r.operation →
    Goes r.state r.operation (start a r).2

/-- Such an action that begins with the operation that is running. -/
def Notes (who : Option Nat) (a : Action (Logbook σ ω κ α) γ) : Prop :=
  ∀ r, r.state.Truthful → r.state.Serves who r.operation →
    Goes (r.state.enter who r.operation) r.operation (start a r).2

theorem Goes.bind {r : Run (Logbook σ ω κ α)} {a : Action (Logbook σ ω κ α) β}
    {f : β → Action (Logbook σ ω κ α) γ} (first : Goes l operation (start a r).2)
    (serves : l.Serves who operation) (next : ∀ v, Keeps who (f v)) :
    Goes l operation (start (a >>= f) r).2 := by
  have serves' := first.serves serves
  rw [Action.start_bind]
  cases ended : start a r with
  | mk outcome r' =>
    rw [ended] at first serves'
    cases outcome with
    | error e => exact first
    | ok v => exact first.trans (first.operation ▸ next v r' first.truthful serves')

theorem Keeps.bind {a : Action (Logbook σ ω κ α) β} {f : β → Action (Logbook σ ω κ α) γ}
    (first : Keeps who a) (next : ∀ v, Keeps who (f v)) : Keeps who (a >>= f) :=
  fun r truthful serves => (first r truthful serves).bind serves next

theorem serves_enter (serves : l.Serves who operation) (shown : Option Text) :
    (l.enter who shown).Serves who operation := by
  cases who with
  | none => exact serves
  | some n => exact serves

theorem Notes.bind {a : Action (Logbook σ ω κ α) β} {f : β → Action (Logbook σ ω κ α) γ}
    (first : Notes who a) (next : ∀ v, Keeps who (f v)) : Notes who (a >>= f) :=
  fun r truthful serves => (first r truthful serves).bind (serves_enter serves _) next

theorem Notes.keeps {a : Action (Logbook σ ω κ α) γ} (h : Notes who a) : Keeps who a :=
  fun r truthful serves => (h r truthful serves).of_enter

theorem Keeps.of_none {a : Action (Logbook σ ω κ α) γ} (h : Keeps none a) : Keeps who a :=
  fun r truthful _ => h r truthful serves_none

theorem Keeps.attempt {a : Action (Logbook σ ω κ α) γ} (h : Keeps who a) :
    Keeps who (Action.attempt a) := h

theorem keeps_pure (v : γ) : Keeps who (pure v : Action (Logbook σ ω κ α) γ) :=
  fun _ truthful _ => truthful.goes

theorem keeps_throw (e : Fault) : Keeps who (throw e : Action (Logbook σ ω κ α) γ) :=
  fun _ truthful _ => truthful.goes

theorem keeps_ofExcept (outcome : Except Fault γ) :
    Keeps who (Action.ofExcept outcome : Action (Logbook σ ω κ α) γ) := by
  cases outcome with
  | ok v => exact keeps_pure v
  | error e => exact keeps_throw e

theorem keeps_read : Keeps who (Action.read : Action (Logbook σ ω κ α) _) :=
  fun _ truthful _ => truthful.goes

theorem keeps_operation : Keeps who (Action.operation : Action (Logbook σ ω κ α) _) :=
  fun _ truthful _ => truthful.goes

theorem keeps_log (level : Level) (message : Text) :
    Keeps who (Action.log level message : Action (Logbook σ ω κ α) Unit) :=
  fun _ truthful _ => ⟨truthful, List.prefix_rfl, List.prefix_rfl, rfl⟩

theorem notes_noteContext : Notes who (noteContext who : Action (Logbook σ ω κ α) Unit) :=
  fun _ truthful serves => ⟨truthful.enter serves, List.prefix_rfl, List.prefix_rfl, rfl⟩

theorem keeps_say (level : Level) (message : Text) :
    Keeps who (Act.effect who (.say level message) : Action (Logbook σ ω κ α) Unit) := by
  intro r truthful serves
  let line : Line := ⟨level, message, r.operation⟩
  have last : (r.journal ++ [line]).getLast?.bind Line.operation = r.operation := by
    rw [List.getLast?_concat, Option.bind_some]
  have noted := notes_noteContext.keeps ⟨r.state, r.journal ++ [line], r.operation⟩ truthful serves
  show Goes _ _ ⟨r.state.enter who ((r.journal ++ [line]).getLast?.bind Line.operation), _, _⟩
  rw [last]
  exact noted

theorem keeps_order (label : Text) (work : ω) (callback : κ) (home : Home) :
    Keeps who (order label work callback home : Action (Logbook σ ω κ α) Unit) := by
  intro r truthful _
  rw [start_order]
  exact ⟨truthful.booked label work callback home r.operation, List.prefix_append _ _,
    List.prefix_rfl, rfl⟩

theorem goes_within {id : Option Text} {a : Action (Logbook σ ω κ α) γ}
    {r : Run (Logbook σ ω κ α)} (h : Goes l id (start a ⟨r.state, r.journal, id⟩).2) :
    Goes l r.operation (start (Action.within id a) r).2 :=
  ⟨h.truthful, h.orders, h.sights, rfl⟩

end Logbook

open Logbook (Keeps Notes)

theorem Act.keeps_hear (who : Option Nat) (act : Act σ ω κ) :
    Keeps who (act.hear who : Action (Logbook σ ω κ α) _) := by
  have effect : Keeps who (act.effect who : Action (Logbook σ ω κ α) _) := by
    cases act with
    | say level message => exact Logbook.keeps_say level message
    | touch f =>
      intro r truthful _
      exact ⟨truthful.rest (f r.state.rest), List.prefix_rfl, List.prefix_rfl, rfl⟩
    | dispatch label work callback home => exact Logbook.keeps_order label work callback home
  refine effect.attempt.bind fun outcome => Logbook.keeps_operation.bind fun _ => ?_
  exact Logbook.keeps_read.bind fun _ => Logbook.keeps_pure _

theorem Act.notes_perform (who : Option Nat) (act : Act σ ω κ) :
    Notes who (act.perform who : Action (Logbook σ ω κ α) _) :=
  Logbook.notes_noteContext.bind fun _ => act.keeps_hear who

theorem Script.keeps_follow (who : Option Nat) (s : Script σ ω κ β) :
    Keeps who (s.follow who : Action (Logbook σ ω κ α) β) := by
  induction s with
  | done outcome =>
    exact Logbook.notes_noteContext.keeps.bind fun _ => Logbook.keeps_ofExcept outcome
  | step act next ih => exact (act.notes_perform who).keeps.bind ih

theorem Script.notes_follow (who : Option Nat) (s : Script σ ω κ β) :
    Notes who (s.follow who : Action (Logbook σ ω κ α) β) := by
  cases s with
  | done outcome => exact Logbook.notes_noteContext.bind fun _ => Logbook.keeps_ofExcept outcome
  | step act next => exact (act.notes_perform who).bind fun heard => (next heard).keeps_follow who

/-! ### Offices at the desk -/

namespace Logbook

variable {l : Logbook σ ω κ α} {who : Option Nat} {o : Office (Logbook σ ω κ α) Nat κ α}

theorem Truthful.without (h : l.Truthful) (k : Nat) : (l.without k).Truthful :=
  h.desk List.eraseIdx_subset (Nat.le_refl _)

section

variable (seat : o.desk = deskPart)
include seat

theorem keeps_onDesk {f : Desk Nat κ α → γ × Desk Nat κ α}
    (fewer : ∀ d, (f d).2.queue ⊆ d.queue) (drawn : ∀ d, d.drawn ≤ (f d).2.drawn) :
    Keeps who (o.onDesk f) := by
  intro r truthful _
  rw [Office.onDesk, seat]
  exact ⟨truthful.desk (fewer _) (drawn _), List.prefix_rfl, List.prefix_rfl, rfl⟩

theorem keeps_changeDesk {f : Desk Nat κ α → Desk Nat κ α}
    (fewer : ∀ d, (f d).queue ⊆ d.queue) (drawn : ∀ d, d.drawn ≤ (f d).drawn) :
    Keeps who (o.changeDesk f) := by
  intro r truthful _
  rw [Office.changeDesk, seat]
  exact ⟨truthful.desk (fewer _) (drawn _), List.prefix_rfl, List.prefix_rfl, rfl⟩

end

/-- An office at the desk of the logbook whose work and callbacks keep it truthful. -/
structure Honest (o : Office (Logbook σ ω κ α) Nat κ α) : Prop where
  desk : o.desk = deskPart
  performs (n : Nat) (r : Run (Logbook σ ω κ α)) : r.state.Truthful →
    r.state.Names n r.operation →
      Goes (r.state.enter (some n) r.operation) r.operation (start (o.perform n) r).2
  notifies (callback : κ) (place : Place) (result : Except Fault α) :
    Keeps none (o.notify callback place result)

namespace Honest

theorem keeps_fire (h : Honest o) (shot : Nat) (place : Place) (result : Except Fault α) :
    Keeps who (o.fire shot place result) := by
  refine keeps_read.bind fun l => ?_
  cases (o.desk.get l).shots[shot]? with
  | none => exact keeps_pure ()
  | some s =>
    dsimp only
    split
    · exact keeps_log _ _
    · have marked : Keeps who (o.changeDesk (Desk.markFired shot)) :=
        keeps_changeDesk h.desk (fun _ => List.Subset.refl _) fun _ => Nat.le_refl _
      refine marked.bind fun _ => (h.notifies _ place result).of_none.attempt.bind fun told => ?_
      cases told with
      | ok u => exact keeps_pure ()
      | error e => exact keeps_log _ _

theorem keeps_schedule (h : Honest o) (shot : Nat) (result : Except Fault α) :
    Keeps who (do
      let operation ← Action.operation
      o.changeDesk (Desk.schedule ⟨shot, result, operation⟩)) :=
  keeps_operation.bind fun _ =>
    keeps_changeDesk h.desk (fun _ => List.Subset.refl _) fun _ => Nat.le_refl _

theorem keeps_send (h : Honest o) (j : Job Nat) (result : Except Fault α) :
    Keeps who (o.send j result) := by
  rw [Office.send]
  cases j.home with
  | plain => exact h.keeps_fire j.shot .worker result
  | loop => exact h.keeps_schedule j.shot result
  | closedLoop => exact (keeps_log _ _).bind fun _ => h.keeps_fire j.shot .worker result

theorem notes_outcome (h : Honest o) (label : Text) (n : Nat) :
    Notes (some n) (o.outcome label n) := by
  have performs : Notes (some n) (Action.attempt (o.perform n)) :=
    fun r truthful serves => h.performs n r truthful (serves n rfl)
  refine performs.bind fun outcome => ?_
  cases outcome with
  | ok a => exact keeps_pure _
  | error e =>
    dsimp only
    split
    · exact (keeps_log _ _).bind fun _ => keeps_pure _
    · exact (keeps_log _ _).bind fun _ => (keeps_ofExcept _).bind fun _ => keeps_pure _

theorem notes_conclude (h : Honest o) (j : Job Nat) : Notes (some j.work) (o.conclude j) :=
  (h.notes_outcome j.label j.work).bind fun result => h.keeps_send j result

theorem goes_execute (h : Honest o) (j : Job Nat) (r : Run (Logbook σ ω κ α))
    (truthful : r.state.Truthful) (names : r.state.Names j.work (some j.id)) :
    Goes (r.state.enter (some j.work) (some j.id)) r.operation (start (o.execute j) r).2 :=
  goes_within (h.notes_conclude j ⟨r.state, _, some j.id⟩ truthful names.serves)

theorem goes_workerStepAt (h : Honest o) {k : Nat} {j : Job Nat} {r : Run (Logbook σ ω κ α)}
    (waiting : r.state.desk.queue[k]? = some j) (truthful : r.state.Truthful) :
    Goes (r.state.enter (some j.work) (some j.id)) r.operation
      (start (o.workerStepAt k) r).2 := by
  have names := truthful.queue j (List.mem_of_getElem? waiting)
  have done := h.goes_execute j ⟨r.state.without k, r.journal, r.operation⟩ (truthful.without k)
    names
  rw [Office.workerStepAt, Action.start_bind_ok (start_takeJobAt h.desk k r), waiting]
  dsimp only
  rw [Action.state_map (Action.attempt (o.execute j)) fun _ => true]
  exact ⟨done.truthful, done.orders, done.sights, done.operation⟩

theorem keeps_workerStepAt (h : Honest o) (k : Nat) : Keeps who (o.workerStepAt k) := by
  intro r truthful _
  cases waiting : r.state.desk.queue[k]? with
  | none =>
    rw [Office.workerStepAt, Action.start_bind_ok (start_takeJobAt h.desk k r), waiting]
    exact ⟨truthful.without k, List.prefix_rfl, List.prefix_rfl, rfl⟩
  | some j => exact (h.goes_workerStepAt waiting truthful).of_enter

theorem keeps_loopStepAt (h : Honest o) (k : Nat) : Keeps who (o.loopStepAt k) := by
  have taken : Keeps who (o.onDesk (Desk.takeScheduledAt k)) := by
    refine keeps_onDesk h.desk (fun d => ?_) fun d => ?_
    · rw [Desk.takeScheduledAt]
      cases d.scheduled[k]? <;> exact List.Subset.refl _
    · rw [Desk.takeScheduledAt]
      cases d.scheduled[k]? <;> exact Nat.le_refl _
  refine taken.bind fun due => ?_
  cases due with
  | none => exact keeps_pure false
  | some s =>
    have fired : Keeps none (o.fire s.shot .caller s.result) := h.keeps_fire _ _ _
    have told : Keeps who (Action.within s.operation (o.fire s.shot .caller s.result)) :=
      fun r truthful _ => goes_within (fired ⟨r.state, r.journal, s.operation⟩ truthful serves_none)
    exact told.bind fun _ => keeps_pure true

theorem keeps_work (h : Honest o) (n : Nat) : Keeps who (o.work n) := by
  induction n with
  | zero => exact keeps_pure ()
  | succ n ih =>
    rw [Office.work, ← Office.workerStepAt_zero]
    refine (h.keeps_workerStepAt 0).bind fun more => ?_
    cases more with
    | false => exact keeps_pure ()
    | true => exact ih

theorem keeps_deliver (h : Honest o) (label : Text) (callback : κ) (result : Except Fault α)
    (home : Home) : Keeps who (o.deliver label callback result home) := by
  have registered : Keeps who (o.onDesk (Desk.register callback label)) :=
    keeps_onDesk h.desk (fun _ => List.Subset.refl _) fun _ => Nat.le_refl _
  refine registered.bind fun shot => ?_
  cases home with
  | plain => exact h.keeps_fire shot .caller result
  | loop | closedLoop => exact h.keeps_schedule shot result

theorem keeps_shutdown (h : Honest o) (wait : Bool) : Keeps who (o.shutdown wait) := by
  have closed : Keeps who (o.changeDesk fun d => { d with closed := true }) :=
    keeps_changeDesk h.desk (fun _ => List.Subset.refl _) fun _ => Nat.le_refl _
  refine closed.bind fun _ => ?_
  cases wait with
  | false => exact keeps_log _ _
  | true => exact keeps_read.bind fun _ => (h.keeps_work _).bind fun _ => keeps_log _ _

end Honest

/-! ### Deeds -/

variable (works : ω → Script σ ω κ α)
  (callbacks : κ → Place → Except Fault α → Script σ ω κ Unit)

theorem honest_office : Honest (office works callbacks) where
  desk := rfl
  performs n r truthful names := by
    have serves := names.serves
    obtain ⟨x, at_, _⟩ := names
    have followed := (works x.work).notes_follow (some n) r truthful serves
    show Goes _ _ (start (Action.read >>= _) r).2
    rw [Action.start_bind_ok (Action.start_read r), at_]
    exact followed
  notifies callback place result := (callbacks callback place result).keeps_follow none

theorem honest_closing (outcome : Except Fault α) : Honest (closing callbacks outcome) where
  desk := rfl
  performs n r truthful names := (Script.done outcome).notes_follow (some n) r truthful names.serves
  notifies callback place result := (callbacks callback place result).keeps_follow none

theorem keeps_beginAt (k : Nat) : Keeps none (beginAt works k) := by
  intro r truthful _
  cases waiting : r.state.desk.queue[k]? with
  | none =>
    rw [beginAt, Action.start_bind_ok (start_takeJobAt rfl k r), waiting]
    exact ⟨truthful.without k, List.prefix_rfl, List.prefix_rfl, rfl⟩
  | some j =>
    obtain ⟨x, at_, same⟩ := truthful.queue j (List.mem_of_getElem? waiting)
    rw [start_beginAt works waiting at_]
    refine ⟨(truthful.without k).underway_ fun u hu => ?_, List.prefix_rfl, List.prefix_rfl, rfl⟩
    rcases List.mem_append.mp hu with old | new
    · exact truthful.underway u old
    · cases List.mem_singleton.mp new
      exact ⟨x, at_, same⟩

theorem goes_stepAt {i : Nat} {u : Underway σ ω κ α} {r : Run (Logbook σ ω κ α)}
    (there : r.state.underway[i]? = some u) (truthful : r.state.Truthful) :
    Goes (r.state.enter (some u.job.work) (some u.job.id)) r.operation
      (start (stepAt callbacks i) r).2 := by
  have names := truthful.underway u (List.mem_of_getElem? there)
  rw [stepAt, Action.start_bind_ok (Action.start_read r), there]
  obtain ⟨j, script⟩ := u
  cases script with
  | step act next =>
    have acted := goes_within (act.notes_perform (some j.work)
      ⟨r.state, r.journal, some j.id⟩ truthful names.serves)
    dsimp only
    rw [Action.start_bind]
    cases ended : start (Action.within (some j.id) (act.perform (some j.work))) r with
    | mk outcome r' =>
      rw [ended] at acted
      cases outcome with
      | error e => exact acted
      | ok heard =>
        refine ⟨acted.truthful.underway_ fun u hu => ?_, acted.orders, acted.sights,
          acted.operation⟩
        rcases List.mem_or_eq_of_mem_set hu with old | new
        · exact acted.truthful.underway u old
        · rw [new]
          exact names.mono acted.orders
  | done outcome =>
    -- The job is no longer under way when its result is sent, which may dispatch more work.
    let left : Logbook σ ω κ α := { r.state with underway := r.state.underway.eraseIdx i }
    have known : left.Truthful :=
      truthful.underway_ fun u hu => truthful.underway u (List.eraseIdx_subset hu)
    have settled : Goes _ r.operation _ := goes_within
      ((honest_closing callbacks outcome).notes_conclude j ⟨left, r.journal, some j.id⟩ known
        names.serves) (r := ⟨left, r.journal, r.operation⟩)
    exact ⟨settled.truthful, settled.orders, settled.sights, settled.operation⟩

theorem keeps_stepAt (i : Nat) :
    Keeps none (stepAt callbacks i : Action (Logbook σ ω κ α) Unit) := by
  intro r truthful _
  cases there : r.state.underway[i]? with
  | none =>
    rw [stepAt, Action.start_bind_ok (Action.start_read r), there]
    exact truthful.goes
  | some u => exact (goes_stepAt callbacks there truthful).of_enter

theorem keeps_deed (d : Deed ω κ α) :
    Keeps none (d.perform works callbacks : Action (Logbook σ ω κ α) Unit) := by
  have honest := honest_office works callbacks
  cases d with
  | dispatch label w callback home => exact keeps_order label w callback home
  | deliver label callback result home => exact honest.keeps_deliver label callback result home
  | shutdown wait => exact honest.keeps_shutdown wait
  | work k => exact (honest.keeps_workerStepAt k).bind fun _ => keeps_pure ()
  | begin k => exact keeps_beginAt works k
  | step i => exact keeps_stepAt callbacks i
  | turn k => exact (honest.keeps_loopStepAt k).bind fun _ => keeps_pure ()
  | draw =>
    refine (keeps_onDesk rfl (fun _ => List.Subset.refl _) fun d => ?_).bind fun _ => keeps_pure ()
    exact Nat.le_succ d.drawn

theorem truthful_after (deeds : List (Option Text × Deed ω κ α)) (r : Run (Logbook σ ω κ α))
    (truthful : r.state.Truthful) : (after works callbacks deeds r).state.Truthful := by
  induction deeds generalizing r with
  | nil => exact truthful
  | cons d rest ih =>
    exact ih _ (keeps_deed works callbacks d.2 (amid d.1 r) truthful serves_none).truthful

theorem shown_eq_iff {σ' ω' κ' α' : Type} {l' : Logbook σ' ω' κ' α'} (h : l.Truthful)
    (h' : l'.Truthful) {s s' : Sight} (hs : s ∈ l.sights) (hs' : s' ∈ l'.sights) {x : Order ω}
    {x' : Order ω'} (at_ : l.orders[s.order]? = some x) (at_' : l'.orders[s'.order]? = some x') :
    s.shown = s'.shown ↔ x.draw = x'.draw := by
  obtain ⟨y, at_y, shown⟩ := h.sights s hs
  obtain ⟨y', at_y', shown'⟩ := h'.sights s' hs'
  cases at_y.symm.trans at_
  cases at_y'.symm.trans at_'
  rw [shown, shown']
  constructor
  · intro same
    exact Desk.idOf_injective (Option.some.inj same)
  · intro same
    rw [Order.id, Order.id, same]

/-- Whatever is done at an office, in any order and from any contexts, and whatever work and
callbacks do: the operation that is shown to work, and on its lines, is the one whose id was drawn
when it was dispatched, from the first moment and at every later turn; dispatching leaves the
operation of the dispatching context, and so does all that is done afterwards; different dispatches
have different ids; and in two such runs, however they differ otherwise, work is shown the same
operation exactly where the same id was drawn for it. -/
theorem shows_own_id (deeds : List (Option Text × Deed ω κ α)) (rest : σ) (journal : Journal) :
    let r := after works callbacks deeds ⟨blank rest, journal, none⟩
    (∀ s ∈ r.state.sights, ∃ x, r.state.orders[s.order]? = some x ∧ s.shown = some x.id ∧
      ∀ extra, Value.field? Journal.operationField (.object (Journal.tagged s.shown extra)) =
        some (.text x.id)) ∧
    (∀ k j, r.state.desk.queue[k]? = some j → ∀ context,
      r.state.sights ++ [⟨j.work, some j.id⟩] <+:
        (start ((Deed.work k).perform works callbacks) (amid context r)).2.state.sights) ∧
    (∀ i u, r.state.underway[i]? = some u → ∀ context,
      r.state.sights ++ [⟨u.job.work, some u.job.id⟩] <+:
        (start ((Deed.step i).perform works callbacks) (amid context r)).2.state.sights) ∧
    (∀ x ∈ r.state.orders, x.after = x.before) ∧
    (∀ (d : Deed ω κ α) context,
      (start (d.perform works callbacks) (amid context r)).2.operation = context) ∧
    (r.state.orders.map Order.id).Nodup ∧
    ∀ (works' : ω → Script σ ω κ α) (callbacks' : κ → Place → Except Fault α → Script σ ω κ Unit)
      (deeds' : List (Option Text × Deed ω κ α)) (rest' : σ) (journal' : Journal),
      let r' := after works' callbacks' deeds' ⟨blank rest', journal', none⟩
      ∀ s ∈ r.state.sights, ∀ s' ∈ r'.state.sights, ∀ x x', r.state.orders[s.order]? = some x →
        r'.state.orders[s'.order]? = some x' → (s.shown = s'.shown ↔ x.draw = x'.draw) := by
  intro r
  have truthful : r.state.Truthful := truthful_after works callbacks deeds _ (truthful_blank rest)
  refine ⟨fun s hs => ?_, fun k j waiting context => ?_, fun i u there context => ?_,
    truthful.undisturbed, fun d context => ?_, ?_, ?_⟩
  · obtain ⟨x, at_, shown⟩ := truthful.sights s hs
    refine ⟨x, at_, shown, fun extra => ?_⟩
    rw [shown]
    exact Journal.field?_tagged (Desk.idOf_ne_nil x.draw) extra
  · have worked := (honest_office works callbacks).goes_workerStepAt (r := amid context r) waiting
      truthful
    show _ <+: (start ((office works callbacks).workerStepAt k >>= fun _ => pure ())
      (amid context r)).2.state.sights
    rw [Action.state_map]
    exact worked.sights
  · exact (goes_stepAt callbacks (r := amid context r) there truthful).sights
  · exact (keeps_deed works callbacks d (amid context r) truthful serves_none).operation
  · have apart : ((r.state.orders.map Order.draw).map Desk.idOf).Nodup :=
      List.Pairwise.map Desk.idOf (fun _ _ differ same => differ (Desk.idOf_injective same))
        truthful.apart
    rwa [List.map_map] at apart
  · intro works' callbacks' deeds' rest' journal' r' s hs s' hs' x x' at_ at_'
    exact shown_eq_iff truthful (truthful_after works' callbacks' deeds' _ (truthful_blank rest'))
      hs hs' at_ at_'

/-! ### A nested dispatch -/

/-- Work that dispatches other work, which fails. -/
def nesting : Bool → Script Unit Bool Unit Nat
  | true => .step (.say .info "first") fun _ =>
      .step (.dispatch "inner" false () .plain) fun _ => .step (.say .info "last") fun _ =>
        .done (.ok 7)
  | false => .done (.error (Fault.value "no number"))

/-- Callbacks dispatch once more. -/
def insisting : Unit → Place → Except Fault Nat → Script Unit Bool Unit Unit :=
  fun _ _ _ => .step (.dispatch "again" false () .loop) fun heard => .done heard.outcome

/-- Two workers: the inner work is done from beginning to end between two acts of the outer. -/
def nested : Logbook Unit Bool Unit Nat :=
  let deeds : List (Option Text × Deed Bool Unit Nat) :=
    [(some "caller", .dispatch "outer" true () .closedLoop), (none, .begin 0), (none, .step 0),
      (none, .step 0), (none, .work 0), (none, .step 0), (none, .step 0)]
  (after nesting insisting deeds ⟨blank (), [], none⟩).state

theorem nested_shows_own_id : nested.sights.map Sight.order = [0, 0, 0, 1, 0, 0, 0] ∧
    nested.orders.map Order.draw = [1, 2, 3, 4] ∧
    ∀ s ∈ nested.sights, ∃ x, nested.orders[s.order]? = some x ∧ s.shown = some x.id := by
  refine ⟨rfl, rfl, fun s hs => ?_⟩
  obtain ⟨x, at_, shown, _⟩ := (shows_own_id nesting insisting _ () []).1 s hs
  exact ⟨x, at_, shown⟩

end Logbook

end Dispatch

end CertKeeper
