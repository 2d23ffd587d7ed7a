import CertKeeper.Proofs.Dispatch.Moves
import Mathlib.Data.List.Induction

/-!
# Told once

Whatever is asked of an office, in any order, its callbacks are told exactly what they are owed.
Main statement: `Hall.accounted_after`.
-/

namespace CertKeeper.Dispatch

open CertKeeper.Action (Leads)

variable {W σ ω κ α β : Type}

/-! ### Runs -/

namespace Office

def after (o : Office W ω κ α) (moves : List (Move ω κ α)) (r : Run W) : Run W :=
  moves.foldl (fun r m => ((m.perform o).start r).2) r

theorem after_append (o : Office W ω κ α) (moves : List (Move ω κ α)) (m : Move ω κ α)
    (r : Run W) : o.after (moves ++ [m]) r = ((m.perform o).start (o.after moves r)).2 := by
  rw [after, List.foldl_append]
  rfl

variable {o : Office W ω κ α} {note : ω → Except Fault α → List β} {view : W → Scene ω κ α β}

theorem Shows.opened (h : o.Shows note view) {workers : Int} (positive : 0 < workers) (r : Run W) :
    view ((o.start workers).start r).2.state = { view r.state with desk := Desk.empty } := by
  have some_ : ¬ workers ≤ 0 := by omega
  have opens : Leads (view · = view r.state) (o.start workers)
      fun _ w => view w = { view r.state with desk := Desk.empty } := by
    rw [start, if_neg some_]
    refine (h.leads_changeDesk fun _ => Desk.empty).bind_ok ?_
    exact Action.leads_log fun w seen => seen
  exact opens r rfl

/-- Every run of an office is a run of what it shows. -/
theorem Shows.steps (h : o.Shows note view) (moves : List (Move ω κ α)) (r : Run W) :
    (view r.state).Steps note moves (view (o.after moves r).state) := by
  induction moves using List.reverseRecOn with
  | nil => exact .begun
  | append_singleton moves m ih =>
    rw [after_append]
    exact .next ih (h.leads_perform m (o.after moves r) rfl)

theorem Shows.length_works (h : o.Shows note view) (n : Nat) (r : Run W) :
    (view (o.after (List.replicate n (.work 0)) r).state).desk.queue.length =
      (view r.state).desk.queue.length - n := by
  induction n generalizing r with
  | zero => rfl
  | succ n ih =>
    have fewer := ih (((Move.work 0).perform o).start r).2
    rw [(h.leads_perform (.work 0) r rfl).of_work] at fewer
    refine fewer.trans ?_
    omega

theorem Shows.length_turns (h : o.Shows note view) (n : Nat) (r : Run W) :
    (view (o.after (List.replicate n (.turn 0)) r).state).desk.scheduled.length =
        (view r.state).desk.scheduled.length - n ∧
      (view (o.after (List.replicate n (.turn 0)) r).state).desk.queue =
        (view r.state).desk.queue := by
  induction n generalizing r with
  | zero => exact ⟨rfl, rfl⟩
  | succ n ih =>
    obtain ⟨fewer, same⟩ := ih (((Move.turn 0).perform o).start r).2
    obtain ⟨first, first'⟩ := (h.leads_perform (.turn 0) r rfl).of_turn
    rw [first] at fewer
    refine ⟨fewer.trans ?_, same.trans first'⟩
    omega

/-- Workers and loops can always go on until nothing is left to do. -/
theorem Shows.comes_to_rest (h : o.Shows note view) (r : Run W) : ∃ works turns : Nat,
    let rested := o.after (List.replicate works (.work 0) ++ List.replicate turns (.turn 0)) r
    (view rested.state).desk.queue = [] ∧ (view rested.state).desk.scheduled = [] := by
  have worked := h.length_works (view r.state).desk.queue.length r
  generalize jobs : (view r.state).desk.queue.length = works at worked
  obtain ⟨turned, same⟩ := h.length_turns
    (view (o.after (List.replicate works (.work 0)) r).state).desk.scheduled.length
    (o.after (List.replicate works (.work 0)) r)
  generalize (view (o.after (List.replicate works (.work 0)) r).state).desk.scheduled.length
    = turns at turned same
  rw [Nat.sub_self] at worked turned
  refine ⟨works, turns, ?_, ?_⟩
  · rw [after, List.foldl_append]
    exact same.trans (List.length_eq_zero_iff.mp worked)
  · rw [after, List.foldl_append]
    exact List.length_eq_zero_iff.mp turned

end Office

/-! ### A world that remembers -/

/-- A world with a desk in it that remembers what work came to and what callbacks were told. -/
structure Hall (σ ω κ α : Type) where
  rest : σ
  desk : Desk ω κ α
  worked : List (ω × Except Fault α)
  told : List (κ × Except Fault α)

namespace Hall

def restPart : Action.Part (Hall σ ω κ α) σ := ⟨rest, fun s h => { h with rest := s }⟩

def deskPart : Action.Part (Hall σ ω κ α) (Desk ω κ α) := ⟨desk, fun d h => { h with desk := d }⟩

/-- Remembers that a callback is told, and lets it do what it does to the rest of the world. -/
def tell (notify : κ → Place → Except Fault α → Action σ Unit) (callback : κ) (place : Place)
    (result : Except Fault α) : Action (Hall σ ω κ α) Unit := do
  Action.change fun h => { h with told := h.told ++ [(callback, result)] }
  (notify callback place result).on restPart

def work (perform : ω → Action σ α) (w : ω) : Action (Hall σ ω κ α) α := do
  let outcome ← Action.attempt ((perform w).on restPart)
  Action.change fun h => { h with worked := h.worked ++ [(w, outcome)] }
  Action.ofExcept outcome

def office (perform : ω → Action σ α) (notify : κ → Place → Except Fault α → Action σ Unit) :
    Office (Hall σ ω κ α) ω κ α :=
  ⟨deskPart, work perform, tell notify⟩

variable (perform : ω → Action σ α) (notify : κ → Place → Except Fault α → Action σ Unit)

theorem shows_office : (office perform notify).Shows (fun w outcome => [(w, outcome)])
    fun h => ⟨h.desk, h.told, h.worked⟩ := by
  refine ⟨fun h => rfl, fun d h => rfl, fun w r => ?_, fun callback place result r => rfl⟩
  simp only [office, work, Action.start_bind, Action.start_attempt, Action.start_change,
    Action.start_ofExcept, Action.start_on]
  rfl

/-- The accounts of a world after some moves.  `outcomes` tells in which order the work was done and
what it came to. -/
structure Accounted (alone : Prop) (moves : List (Move ω κ α)) (h : Hall σ ω κ α)
    (outcomes : List (Agreement ω κ × Except Fault α)) : Prop where
  worked : h.worked = outcomes.map fun p => (p.1.work, p.2)
  accepted : (outcomes.map Prod.fst ++ h.desk.waiting).Perm (Move.accepted moves)
  inOrder : alone → outcomes.map Prod.fst ++ h.desk.waiting = Move.accepted moves
  told : (h.told ++ h.desk.due).Perm (outcomes.filterMap Scene.notice ++ Move.announced moves)

variable {alone : Prop} {moves : List (Move ω κ α)} {h : Hall σ ω κ α}
  {outcomes : List (Agreement ω κ × Except Fault α)}

theorem Accounted.done_subperm {γ : Type} (accounted : Accounted alone moves h outcomes)
    (f : Agreement ω κ → γ) :
    (outcomes.map fun p => f p.1).Subperm ((Move.accepted moves).map f) := by
  have all := accounted.accepted.map f
  rw [List.map_append, List.map_map] at all
  exact (List.sublist_append_left _ _).subperm.trans all.subperm

theorem Accounted.worked_subperm (accounted : Accounted alone moves h outcomes) :
    (h.worked.map Prod.fst).Subperm ((Move.accepted moves).map Agreement.work) := by
  rw [accounted.worked, List.map_map]
  exact accounted.done_subperm Agreement.work

/-- The callbacks that there is something to tell are some of those that wait. -/
theorem map_notice_sublist (outcomes : List (Agreement ω κ × Except Fault α)) :
    ((outcomes.filterMap Scene.notice).map Prod.fst).Sublist
      (outcomes.map fun p => p.1.callback) := by
  induction outcomes with
  | nil => exact .slnil
  | cons p rest ih =>
    rw [List.filterMap_cons, Scene.notice]
    cases settled p.1.label p.2 with
    | none => exact ih.cons _
    | some result => exact ih.cons_cons _

/-- There is something to tell all of them exactly where every foreign fault prints. -/
theorem map_notice_perm_iff (outcomes : List (Agreement ω κ × Except Fault α)) :
    ((outcomes.filterMap Scene.notice).map Prod.fst).Perm (outcomes.map fun p => p.1.callback) ↔
      ∀ p ∈ outcomes, Speaks p.2 := by
  have size : ((outcomes.filterMap Scene.notice).map Prod.fst).length
      = outcomes.countP fun p => (Scene.notice p).isSome := by
    rw [List.length_map, List.length_filterMap_eq_countP]
  have all : (outcomes.countP fun p => (Scene.notice p).isSome) = outcomes.length ↔
      ∀ p ∈ outcomes, Speaks p.2 := by
    rw [List.countP_eq_length]
    refine forall₂_congr fun p _ => ?_
    rw [← isSome_settled p.1.label, Scene.notice, Option.isSome_map]
  rw [← all, ← size]
  constructor
  · intro same
    exact same.length_eq.trans (List.length_map _)
  · intro same
    exact .of_eq ((map_notice_sublist outcomes).eq_of_length (same.trans (List.length_map _).symm))

theorem Accounted.told_subperm (accounted : Accounted alone moves h outcomes) :
    (h.told.map Prod.fst).Subperm
      ((Move.accepted moves).map Agreement.callback ++ (Move.announced moves).map Prod.fst) := by
  have all := accounted.told.map Prod.fst
  rw [List.map_append, List.map_append] at all
  refine ((List.sublist_append_left _ _).subperm.trans all.subperm).trans ?_
  refine (List.subperm_append_right _).mpr ?_
  exact (map_notice_sublist outcomes).subperm.trans (accounted.done_subperm Agreement.callback)

theorem Accounted.at_rest (accounted : Accounted alone moves h outcomes)
    (queue : h.desk.queue = []) (scheduled : h.desk.scheduled = []) :
    (outcomes.map Prod.fst).Perm (Move.accepted moves) ∧
      (alone → outcomes.map Prod.fst = Move.accepted moves) ∧
      h.told.Perm (outcomes.filterMap Scene.notice ++ Move.announced moves) ∧
      ((h.told.map Prod.fst).Perm ((Move.accepted moves).map Agreement.callback ++
        (Move.announced moves).map Prod.fst) ↔ ∀ p ∈ outcomes, Speaks p.2) := by
  have waiting : h.desk.waiting = [] := by rw [Desk.waiting, queue, List.filterMap_nil]
  have due : h.desk.due = [] := by rw [Desk.due, scheduled, List.filterMap_nil]
  have all := accounted.accepted
  have inOrder := accounted.inOrder
  have told := accounted.told
  rw [waiting, List.append_nil] at all inOrder
  rw [due, List.append_nil] at told
  refine ⟨all, inOrder, told, ?_⟩
  have callbacks := told.map Prod.fst
  have asked := all.map Agreement.callback
  rw [List.map_append] at callbacks
  rw [List.map_map] at asked
  refine Iff.trans ?_ ((List.perm_append_right_iff ((Move.announced moves).map Prod.fst)).trans
    (map_notice_perm_iff outcomes))
  exact ⟨fun same => (callbacks.symm.trans same).trans (asked.symm.append_right _),
    fun same => (callbacks.trans same).trans (asked.append_right _)⟩

theorem first_of_alone {workers : Int} (one : workers = 1)
    (within : ∀ m ∈ moves, m.Within workers) :
    ∀ m ∈ moves, ∀ k, m = .work k → k = 0 := by
  intro m inside k same
  have few := within m inside k same
  omega

theorem accounted_of_balanced {s : Hall σ ω κ α} (balanced : Scene.Balanced
    (fun w outcome => [(w, outcome)]) alone (Move.accepted moves) (Move.announced moves) outcomes
    ⟨s.desk, s.told, s.worked⟩) : Accounted alone moves s outcomes := by
  refine ⟨balanced.noted.trans ?_, balanced.agreed, balanced.ordered, balanced.paid⟩
  rw [List.map_eq_flatMap]

/-- Whatever is asked of an office, in any order and whatever work and callbacks do: work is refused
exactly after a shutdown; no work is done twice and no callback told twice, and neither where the
work was refused; what was accepted waits or has been done, by one worker in turn; where nothing
waits and nothing is due, everything that was accepted has been done and the callbacks have been
told what there was to tell of it, which is every callback exactly where no work ended in a foreign
fault that does not print; and it always comes to that. -/
theorem accounted_after {workers : Int} (positive : 0 < workers) (moves : List (Move ω κ α))
    (r : Run (Hall σ ω κ α)) (unworked : r.state.worked = []) (untold : r.state.told = []) :
    let o := office perform notify
    let opened := ((o.start workers).start r).2
    let reached := o.after moves opened
    let alone := workers = 1 ∧ ∀ m ∈ moves, m.Within workers
    (∀ m : Move ω κ α, ((m.perform o).start reached).1 = m.answer (Move.shut moves)) ∧
    (reached.state.worked.map Prod.fst).Subperm ((Move.accepted moves).map Agreement.work) ∧
    (reached.state.told.map Prod.fst).Subperm
      ((Move.accepted moves).map Agreement.callback ++ (Move.announced moves).map Prod.fst) ∧
    (∃ outcomes, Accounted alone moves reached.state outcomes ∧
      (reached.state.desk.queue = [] → reached.state.desk.scheduled = [] →
        (outcomes.map Prod.fst).Perm (Move.accepted moves) ∧
        (alone → outcomes.map Prod.fst = Move.accepted moves) ∧
        reached.state.told.Perm (outcomes.filterMap Scene.notice ++ Move.announced moves) ∧
        ((reached.state.told.map Prod.fst).Perm ((Move.accepted moves).map Agreement.callback ++
          (Move.announced moves).map Prod.fst) ↔ ∀ p ∈ outcomes, Speaks p.2))) ∧
    (((o.shutdown true).start reached).2.state.desk.queue = []) ∧
    ∃ works turns : Nat,
      let more := List.replicate works (.work 0) ++ List.replicate turns (.turn 0)
      (o.after (moves ++ more) opened).state.desk.queue = [] ∧
      (o.after (moves ++ more) opened).state.desk.scheduled = [] := by
  intro o opened reached alone
  have shown := shows_office perform notify
  have begun := shown.opened positive r
  rw [unworked, untold] at begun
  have first : alone → ∀ m ∈ moves, ∀ k, m = .work k → k = 0 :=
    fun one => first_of_alone one.1 one.2
  have steps := shown.steps moves opened
  rw [begun] at steps
  obtain ⟨closed, outcomes, balanced⟩ := Scene.balanced_steps steps first
  have accounted := accounted_of_balanced balanced
  refine ⟨fun m => ?_, accounted.worked_subperm, accounted.told_subperm,
    ⟨outcomes, accounted, accounted.at_rest⟩, ?_, ?_⟩
  · have step := shown.leads_perform m reached rfl
    obtain ⟨_, _, balanced'⟩ := Scene.balanced_steps steps fun no : False => no.elim
    obtain ⟨answer, _⟩ := Scene.balanced_step step balanced' fun no => no.elim
    rw [← closed]
    exact answer
  · have step := shown.leads_shutdown true reached rfl
    generalize ((o.shutdown true).start reached).1 = out at step
    generalize drained : ((o.shutdown true).start reached).2.state = s' at step
    cases step with
    | drained _ done =>
      have left : s'.desk.queue.length + reached.state.desk.queue.length =
          reached.state.desk.queue.length := done.length_queue
      exact List.length_eq_zero_iff.mp (by omega)
  · obtain ⟨works, turns, queue, scheduled⟩ := shown.comes_to_rest reached
    refine ⟨works, turns, ?_, ?_⟩
    · rw [Office.after, List.foldl_append]
      exact queue
    · rw [Office.after, List.foldl_append]
      exact scheduled

/-! ### An afternoon -/

def sums : Bool → Action Unit Nat
  | true => pure 7
  | false => throw Fault.endless

def grumble : Nat → Place → Except Fault Nat → Action Unit Unit :=
  fun _ _ _ => throw (Fault.value "not now")

/-- Two pieces of work before the end of the day and one after it; a loop is closed meanwhile, and
the other callbacks are told the wrong way round. -/
def afternoon : List (Move Bool Nat Nat) :=
  [.dispatch "first" true 0 .loop, .deliver "known" 1 (.ok 3) .loop,
    .dispatch "second" false 2 .closedLoop, .shutdown false, .dispatch "late" true 3 .plain,
    .work 0, .work 0, .turn 1, .turn 0]

def morning : Run (Hall Unit Bool Nat Nat) := ⟨⟨(), Desk.empty, [], []⟩, [], none⟩

def evening : Hall Unit Bool Nat Nat :=
  let o := office sums grumble
  (o.after afternoon ((o.start 1).start morning).2).state

/-- The second piece of work is accepted and done, and ends in what does not print: nobody is ever
told of it. -/
theorem evening_accounted : evening.told = [(0, .ok 7), (1, .ok 3)] ∧
    ∃ outcomes : List (Agreement Bool Nat × Except Fault Nat),
      outcomes.map Prod.fst = [⟨"first", true, 0⟩, ⟨"second", false, 2⟩] ∧
      evening.worked = outcomes.map (fun p => (p.1.work, p.2)) ∧
      evening.told.Perm (outcomes.filterMap Scene.notice ++ [(1, .ok 3)]) ∧
      ¬ ∀ p ∈ outcomes, Speaks p.2 := by
  have one : ∀ m ∈ afternoon, m.Within 1 := by
    intro m inside k same
    subst same
    simp only [afternoon, List.mem_cons, reduceCtorEq, Move.work.injEq, List.not_mem_nil,
      false_or, or_false] at inside
    omega
  obtain ⟨_, _, _, ⟨outcomes, accounted, atRest⟩, _⟩ :=
    accounted_after sums grumble (show (0 : Int) < 1 by decide) afternoon morning rfl rfl
  obtain ⟨_, inOrder, told, everybody⟩ := atRest rfl rfl
  refine ⟨rfl, outcomes, inOrder ⟨rfl, one⟩, accounted.worked, told, fun speak => ?_⟩
  have fewer := (everybody.mpr speak).length_eq
  cases fewer

end Hall

end CertKeeper.Dispatch
