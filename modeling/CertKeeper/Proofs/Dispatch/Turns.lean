import CertKeeper.Proofs.Dispatch.Logbook

/-!
# Taking turns

A job that is begun and then goes on act by act, while nobody else has a turn, comes to what a
worker comes to that does the job at once.  Main statement: `Logbook.after_turns`.
-/

namespace CertKeeper.Dispatch

open CertKeeper.Action (start)

variable {σ ω κ α β : Type}

namespace Logbook

def aside (u : Underway σ ω κ α) (r : Run (Logbook σ ω κ α)) : Run (Logbook σ ω κ α) :=
  ⟨{ r.state with underway := r.state.underway ++ [u] }, r.journal, r.operation⟩

/-- Acts do not look at the jobs that are under way, and leave them. -/
structure Turns (a : Action (Logbook σ ω κ α) β) : Prop where
  underway (r : Run (Logbook σ ω κ α)) : (start a r).2.state.underway = r.state.underway
  operation (r : Run (Logbook σ ω κ α)) : (start a r).2.operation = r.operation
  aside (u : Underway σ ω κ α) (r : Run (Logbook σ ω κ α)) :
    start a (aside u r) = ((start a r).1, Logbook.aside u (start a r).2)

theorem turns_noteContext (who : Option Nat) :
    Turns (noteContext who : Action (Logbook σ ω κ α) Unit) := by
  cases who with
  | none => exact ⟨fun _ => rfl, fun _ => rfl, fun _ _ => rfl⟩
  | some n => exact ⟨fun _ => rfl, fun _ => rfl, fun _ _ => rfl⟩

end Logbook

open Logbook (Turns aside)

theorem Act.turns_effect (who : Option Nat) (act : Act σ ω κ) :
    Turns (act.effect who : Action (Logbook σ ω κ α) Unit) := by
  cases act with
  | say level message =>
    cases who with
    | none => exact ⟨fun _ => rfl, fun _ => rfl, fun _ _ => rfl⟩
    | some n => exact ⟨fun _ => rfl, fun _ => rfl, fun _ _ => rfl⟩
  | touch f => exact ⟨fun _ => rfl, fun _ => rfl, fun _ _ => rfl⟩
  | dispatch label work callback home =>
    have ordered := Logbook.start_order (σ := σ) (α := α) label work callback home
    refine ⟨fun r => ?_, fun r => ?_, fun u r => ?_⟩
    · exact congrArg (fun p => p.2.state.underway) (ordered r)
    · exact congrArg (fun p => p.2.operation) (ordered r)
    · show start (Logbook.order label work callback home) _ = _
      rw [ordered]
      show _ = ((start (Logbook.order label work callback home) r).1,
        aside u (start (Logbook.order label work callback home) r).2)
      rw [ordered]
      rfl

theorem Act.start_perform (who : Option Nat) (act : Act σ ω κ) (r : Run (Logbook σ ω κ α)) :
    ∃ heard r', start (act.perform who) r = (.ok heard, r') ∧ r'.operation = r.operation ∧
      r'.state.underway = r.state.underway ∧
      ∀ u, start (act.perform who) (aside u r) = (.ok heard, aside u r') := by
  let noted := (start (Logbook.noteContext who) r).2
  have heard := act.turns_effect (α := α) who
  have noting := Logbook.turns_noteContext (σ := σ) (ω := ω) (κ := κ) (α := α) who
  refine ⟨_, (start (act.effect who) noted).2, rfl, ?_, ?_, fun u => ?_⟩
  · exact (heard.operation noted).trans (noting.operation r)
  · exact (heard.underway noted).trans (noting.underway r)
  · have first : start (Logbook.noteContext who) (aside u r) = (.ok (), aside u noted) :=
      noting.aside u r
    rw [Act.perform, Action.start_bind_ok first, Act.hear, Action.start_bind, Action.start_attempt,
      heard.aside u noted]
    rfl

namespace Logbook

variable (works : ω → Script σ ω κ α)
  (callbacks : κ → Place → Except Fault α → Script σ ω κ Unit)

theorem start_within_amid {a : Action (Logbook σ ω κ α) β} {r r' : Run (Logbook σ ω κ α)}
    {outcome : Except Fault β} {id : Option Text} (own : r.operation = id)
    (ended : start a r = (outcome, r')) (context : Option Text) :
    start (Action.within id a) (amid context r) = (outcome, amid context r') := by
  obtain ⟨state, journal, operation⟩ := r
  cases own
  rw [Action.start_within]
  show ((start a ⟨state, journal, operation⟩).1, _) = _
  simp only [amid, ended]

theorem underway_last (u : Underway σ ω κ α) (r : Run (Logbook σ ω κ α)) (context : Option Text) :
    (amid context (aside u r)).state.underway[r.state.underway.length]? = some u :=
  List.getElem?_concat_length

theorem stepAt_step {j : Job Nat} {act : Act σ ω κ} {next : Heard σ → Script σ ω κ α}
    {r r' : Run (Logbook σ ω κ α)} {heard : Heard σ} (own : r.operation = some j.id)
    (underway : r'.state.underway = r.state.underway)
    (acted : ∀ u, start (act.perform (some j.work)) (aside u r) = (.ok heard, aside u r'))
    (context : Option Text) :
    (start (stepAt callbacks r.state.underway.length)
        (amid context (aside ⟨j, .step act next⟩ r))).2 =
      amid context (aside ⟨j, next heard⟩ r') := by
  have within := start_within_amid (r := aside ⟨j, .step act next⟩ r) own (acted _) context
  rw [stepAt, Action.start_bind_ok (Action.start_read _), underway_last]
  dsimp only
  rw [Action.start_bind_ok within, Action.start_change, ← underway]
  simp only [amid, aside, List.set_append_right _ _ (Nat.le_refl _), Nat.sub_self,
    List.set_cons_zero]

theorem stepAt_done {j : Job Nat} {outcome : Except Fault α} {r : Run (Logbook σ ω κ α)}
    (own : r.operation = some j.id) (context : Option Text) :
    (start (stepAt callbacks r.state.underway.length)
        (amid context (aside ⟨j, .done outcome⟩ r))).2 =
      amid context (start ((closing callbacks outcome).conclude j) r).2 := by
  have left : (start (Action.change fun l : Logbook σ ω κ α =>
      { l with underway := l.underway.eraseIdx r.state.underway.length })
        (amid context (aside ⟨j, .done outcome⟩ r))) = (.ok (), amid context r) := by
    rw [Action.start_change]
    simp only [amid, aside, List.eraseIdx_append_of_length_le (Nat.le_refl _), Nat.sub_self,
      List.eraseIdx_cons_zero, List.append_nil]
  rw [stepAt, Action.start_bind_ok (Action.start_read _), underway_last]
  dsimp only
  rw [Action.start_bind_ok left]
  cases ended : start ((closing callbacks outcome).conclude j) r with
  | mk result r' => rw [start_within_amid own ended context]

end Logbook

open Logbook (after amid)

/-- A script that is followed comes to an outcome, and so does a job that goes on act by act. -/
theorem Script.follow_turns (works : ω → Script σ ω κ α)
    (callbacks : κ → Place → Except Fault α → Script σ ω κ Unit) (j : Job Nat)
    (s : Script σ ω κ α) (r : Run (Logbook σ ω κ α)) (own : r.operation = some j.id)
    (context : Option Text) : ∃ n outcome r',
      start (s.follow (some j.work)) r = start ((done outcome).follow (some j.work)) r' ∧
      r'.operation = some j.id ∧ r'.state.underway = r.state.underway ∧
      after works callbacks (List.replicate n (context, .step r.state.underway.length))
          (amid context (aside ⟨j, s⟩ r)) =
        amid context (aside ⟨j, .done outcome⟩ r') := by
  -- Acts begin no jobs, so that the job stays the last one under way from turn to turn.
  induction s generalizing r with
  | done outcome => exact ⟨0, outcome, r, rfl, own, rfl, rfl⟩
  | step act next ih =>
    obtain ⟨heard, r₁, acted, same, underway, turned⟩ := act.start_perform (some j.work) r
    obtain ⟨n, outcome, r', followed, own', underway', stepped⟩ := ih heard r₁ (same.trans own)
    refine ⟨n + 1, outcome, r', ?_, own', underway'.trans underway, ?_⟩
    · show start (act.perform (some j.work) >>= _) r = _
      rw [Action.start_bind_ok acted]
      exact followed
    · rw [List.replicate_succ, Logbook.after_cons]
      show after _ _ _ (start (Logbook.stepAt callbacks r.state.underway.length)
        (amid context (aside ⟨j, .step act next⟩ r))).2 = _
      rw [Logbook.stepAt_step callbacks own underway turned context, ← underway]
      exact stepped

namespace Logbook

variable (works : ω → Script σ ω κ α)
  (callbacks : κ → Place → Except Fault α → Script σ ω κ Unit)

theorem conclude_office {j : Job Nat} {x : Order ω} {outcome : Except Fault α}
    {r r' : Run (Logbook σ ω κ α)} (at_ : r.state.orders[j.work]? = some x)
    (followed : start ((works x.work).follow (some j.work)) r =
      start ((Script.done outcome).follow (some j.work)) r') :
    start ((office works callbacks).conclude j) r =
      start ((closing callbacks outcome).conclude j) r' := by
  have performed : start ((office works callbacks).perform j.work) r =
      start ((closing callbacks outcome).perform j.work) r' := by
    show start (Action.read >>= _) r = _
    rw [Action.start_bind_ok (Action.start_read r), at_]
    exact followed
  have told : start ((office works callbacks).outcome j.label j.work) r =
      start ((closing callbacks outcome).outcome j.label j.work) r' := by
    rw [Office.outcome, Office.outcome, Action.start_bind, Action.start_attempt, performed,
      Action.start_bind, Action.start_attempt]
  rw [Office.conclude, Action.start_bind, told, Office.conclude, Action.start_bind]
  rfl

/-- A job that is begun and then has every turn comes to what it comes to where it is done at
once. -/
theorem after_turns {k : Nat} {j : Job Nat} {x : Order ω} {r : Run (Logbook σ ω κ α)}
    (waiting : r.state.desk.queue[k]? = some j) (at_ : r.state.orders[j.work]? = some x)
    (context : Option Text) : ∃ n,
      after works callbacks ((context, .begin k) ::
          List.replicate n (context, .step r.state.underway.length)) r =
        after works callbacks [(context, .work k)] r := by
  let begun : Run (Logbook σ ω κ α) :=
    ⟨r.state.without k, r.journal ++ [⟨.debug, "Running " ++ j.label, some j.id⟩], some j.id⟩
  obtain ⟨n, outcome, r', followed, own, underway, stepped⟩ :=
    (works x.work).follow_turns works callbacks j begun rfl context
  refine ⟨n + 1, ?_⟩
  have first : (start (beginAt works k) (amid context r)).2 =
      amid context (aside ⟨j, works x.work⟩ begun) := by
    rw [start_beginAt works (r := amid context r) waiting at_]
    rfl
  have last : start ((office works callbacks).conclude j) begun =
      start ((closing callbacks outcome).conclude j) r' :=
    conclude_office works callbacks (r := begun) at_ followed
  have worked : (start ((Deed.work k).perform works callbacks) (amid context r)).2 =
      amid context (start ((office works callbacks).conclude j) begun).2 := by
    show (start ((office works callbacks).workerStepAt k >>= _) _).2 = _
    rw [Action.state_map _ fun _ => (), Office.workerStepAt,
      Action.start_bind_ok (start_takeJobAt rfl k (amid context r))]
    have waiting' : (amid context r).state.desk.queue[k]? = some j := waiting
    rw [waiting']
    dsimp only
    rw [Action.state_map _ fun _ => true]
    rfl
  have sent : (start (stepAt callbacks r.state.underway.length)
      (amid context (aside ⟨j, .done outcome⟩ r'))).2 =
        amid context (start ((closing callbacks outcome).conclude j) r').2 := by
    rw [← stepAt_done callbacks own context, underway]
    rfl
  rw [after_cons, List.replicate_succ', after_append]
  show (start (stepAt callbacks r.state.underway.length) (amid context
    (after works callbacks _ (start (beginAt works k) (amid context r)).2))).2 = _
  rw [first]
  have reached := congrArg (amid context) stepped
  show (start (stepAt callbacks r.state.underway.length) (amid context
    (after works callbacks
      (List.replicate n (context, .step begun.state.underway.length)) _))).2 = _
  rw [reached]
  exact sent.trans ((congrArg (fun p => amid context p.2) last).symm.trans worked.symm)

end Logbook

end CertKeeper.Dispatch
