import CertKeeper.Dispatch.Basic
import CertKeeper.Proofs.Action

/-!
# What an office shows

An office whose work and callbacks leave the desk alone, as it is seen from outside: the desk, whom
it told what, and what was noted of the work that it did.  Whatever work and callbacks do, every
move of the office is a step of this scene.
-/

namespace CertKeeper.Dispatch

open CertKeeper.Action (Leads leads_pure leads_log leads_log_bind)

variable {W ω κ α β γ : Type}

structure Scene (ω κ α β : Type) where
  desk : Desk ω κ α
  told : List (κ × Except Fault α)
  noted : List β

/-- What a callback is told about work with an outcome: a fault that is none of the lifecycle's is
wrapped up in one.  Nobody is told anything of such a fault where it does not print. -/
def settled (label : Text) : Except Fault α → Option (Except Fault α)
  | .ok a => some (.ok a)
  | .error e =>
    if e.failure.lifecycle?.isSome then some (.error e)
    else
      match e.asText with
      | .ok text => some (.error (Fault.because
          (.lifecycle .storeUnavailable (label ++ " failed unexpectedly: " ++ text)) e))
      | .error _ => none

/-- The foreign fault that work ended in, if it did, prints. -/
def Speaks (outcome : Except Fault α) : Prop :=
  ∀ e, outcome = .error e → e.failure.lifecycle? = none → e.HasText

theorem isSome_settled (label : Text) (outcome : Except Fault α) :
    (settled label outcome).isSome = true ↔ Speaks outcome := by
  cases outcome with
  | ok a => exact iff_of_true rfl nofun
  | error e =>
    rw [settled]
    split
    · next known =>
      refine iff_of_true rfl fun f same foreign => ?_
      cases same
      rw [foreign] at known
      cases known
    · next unknown =>
      rw [Bool.not_eq_true, Option.isSome_eq_false_iff, Option.isNone_iff_eq_none] at unknown
      rcases e.asText_cases with text | ⟨kind, m, thrown⟩
      · rw [text.asText]
        exact iff_of_true rfl fun f same _ => Except.error.inj same ▸ text
      · rw [thrown]
        refine iff_of_false Bool.false_ne_true fun speaks => ?_
        exact Fault.not_hasText_of_asText thrown (speaks e rfl unknown)

theorem lifecycle_of_settled {label : Text} {outcome : Except Fault α} {e : Fault}
    (h : settled label outcome = some (.error e)) : e.failure.lifecycle?.isSome = true := by
  cases outcome with
  | ok a => cases h
  | error f =>
    simp only [settled] at h
    split at h
    · next known =>
      cases h
      exact known
    · split at h
      · cases h
        rfl
      · cases h

/-! ### Moves -/

namespace Desk

def takeJobAt (k : Nat) (d : Desk ω κ α) : Option (Job ω) × Desk ω κ α :=
  match d.queue[k]? with
  | none => (none, d)
  | some j => (some j, { d with queue := d.queue.eraseIdx k })

def takeScheduledAt (k : Nat) (d : Desk ω κ α) : Option (Scheduled α) × Desk ω κ α :=
  match d.scheduled[k]? with
  | none => (none, d)
  | some s => (some s, { d with scheduled := d.scheduled.eraseIdx k })

theorem takeJobAt_zero : (takeJobAt 0 : Desk ω κ α → _) = takeJob := by
  funext d
  obtain ⟨closed, drawn, queue, scheduled, shots⟩ := d
  cases queue <;> rfl

theorem takeScheduledAt_zero : (takeScheduledAt 0 : Desk ω κ α → _) = takeScheduled := by
  funext d
  obtain ⟨closed, drawn, queue, scheduled, shots⟩ := d
  cases scheduled <;> rfl

end Desk

namespace Office

/-- A worker ends the job at a place of the queue.  Where `n` workers run, the first `n` jobs are
under way and any of them may be the next that ends. -/
def workerStepAt (o : Office W ω κ α) (k : Nat) : Action W Bool := do
  match ← o.onDesk (Desk.takeJobAt k) with
  | none => return false
  | some j =>
    let _ ← Action.attempt (o.execute j)
    return true

/-- Some loop runs the callback at a place of the list; every loop keeps to the order of its own. -/
def loopStepAt (o : Office W ω κ α) (k : Nat) : Action W Bool := do
  match ← o.onDesk (Desk.takeScheduledAt k) with
  | none => return false
  | some s =>
    Action.within s.operation (o.fire s.shot .caller s.result)
    return true

theorem workerStepAt_zero (o : Office W ω κ α) : o.workerStepAt 0 = o.workerStep := by
  rw [workerStepAt, Desk.takeJobAt_zero]
  rfl

theorem loopStepAt_zero (o : Office W ω κ α) : o.loopStepAt 0 = o.loopStep := by
  rw [loopStepAt, Desk.takeScheduledAt_zero]
  rfl

end Office

inductive Move (ω κ α : Type) where
  | dispatch (label : Text) (work : ω) (callback : κ) (home : Home)
  | deliver (label : Text) (callback : κ) (result : Except Fault α) (home : Home)
  | shutdown (wait : Bool)
  | work (k : Nat)
  | turn (k : Nat)

def Move.perform (o : Office W ω κ α) : Move ω κ α → Action W Unit
  | .dispatch label w callback home => o.dispatch label w callback home
  | .deliver label callback result home => o.deliver label callback result home
  | .shutdown wait => o.shutdown wait
  | .work k => do
    let _ ← o.workerStepAt k
    return ()
  | .turn k => do
    let _ ← o.loopStepAt k
    return ()

/-! ### Steps of a scene -/

namespace Scene

def fire (shot : Nat) (result : Except Fault α) (s : Scene ω κ α β) : Scene ω κ α β :=
  match s.desk.shots[shot]? with
  | none => s
  | some c =>
    if c.fired then s
    else { s with desk := s.desk.markFired shot, told := s.told ++ [(c.callback, result)] }

def schedule (shot : Nat) (result : Except Fault α) (operation : Option Text)
    (s : Scene ω κ α β) : Scene ω κ α β :=
  { s with desk := s.desk.schedule ⟨shot, result, operation⟩ }

inductive Passes (shot : Nat) (result : Except Fault α) (s : Scene ω κ α β) :
    Scene ω κ α β → Prop
  | atOnce : Passes shot result s (s.fire shot result)
  | later (operation : Option Text) : Passes shot result s (s.schedule shot result operation)

/-- What there is to tell is passed on. -/
inductive Closes (shot : Nat) (s : Scene ω κ α β) :
    Option (Except Fault α) → Scene ω κ α β → Prop
  | passed {result : Except Fault α} {s' : Scene ω κ α β} (passed : Passes shot result s s') :
      Closes shot s (some result) s'
  | silent : Closes shot s none s

inductive Works (note : ω → Except Fault α → List β) (k : Nat) (s : Scene ω κ α β) :
    Scene ω κ α β → Prop
  | ended (j : Job ω) (outcome : Except Fault α) (s' : Scene ω κ α β)
      (waiting : s.desk.queue[k]? = some j)
      (closed : Closes j.shot
        { s with desk := { s.desk with queue := s.desk.queue.eraseIdx k },
                 noted := s.noted ++ note j.work outcome } (settled j.label outcome) s') :
      Works note k s s'

inductive Turns (k : Nat) (s : Scene ω κ α β) : Scene ω κ α β → Prop
  | told (c : Scheduled α) (due : s.desk.scheduled[k]? = some c) :
      Turns k s (Scene.fire c.shot c.result
        { s with desk := { s.desk with scheduled := s.desk.scheduled.eraseIdx k } })

inductive Drains (note : ω → Except Fault α → List β) :
    Nat → Scene ω κ α β → Scene ω κ α β → Prop
  | none (s : Scene ω κ α β) : Drains note 0 s s
  | next {n : Nat} {s s' s'' : Scene ω κ α β} (first : Works note 0 s s')
      (rest : Drains note n s' s'') : Drains note (n + 1) s s''

def close (s : Scene ω κ α β) : Scene ω κ α β := { s with desk := { s.desk with closed := true } }

def asked (label : Text) (callback : κ) (s : Scene ω κ α β) : Scene ω κ α β :=
  { s with desk := ((s.desk.register callback label).2.drawId).2 }

def enqueue (j : Job ω) (s : Scene ω κ α β) : Scene ω κ α β :=
  { s with desk := s.desk.enqueue j }

/-- What a move makes of a scene, and what it answers. -/
inductive Step (note : ω → Except Fault α → List β) (s : Scene ω κ α β) :
    Move ω κ α → Except Fault Unit → Scene ω κ α β → Prop
  | refused {label : Text} {work : ω} {callback : κ} {home : Home}
      (closed : s.desk.closed = true) :
      Step note s (.dispatch label work callback home) (.error Office.shutDown)
        (s.asked label callback)
  | accepted {label : Text} {work : ω} {callback : κ} {home : Home} (id : Text)
      (opened : s.desk.closed = false) :
      Step note s (.dispatch label work callback home) (.ok ())
        ((s.asked label callback).enqueue ⟨label, id, work, s.desk.shots.length, home⟩)
  | delivered {label : Text} {callback : κ} {result : Except Fault α} {home : Home}
      (s' : Scene ω κ α β)
      (passed : Passes s.desk.shots.length result
        { s with desk := (s.desk.register callback label).2 } s') :
      Step note s (.deliver label callback result home) (.ok ()) s'
  | closed : Step note s (.shutdown false) (.ok ()) s.close
  | drained (s' : Scene ω κ α β) (done : Drains note s.desk.queue.length s.close s') :
      Step note s (.shutdown true) (.ok ()) s'
  | idle {k : Nat} (empty : s.desk.queue[k]? = none) : Step note s (.work k) (.ok ()) s
  | worked {k : Nat} (s' : Scene ω κ α β) (did : Works note k s s') :
      Step note s (.work k) (.ok ()) s'
  | quiet {k : Nat} (empty : s.desk.scheduled[k]? = none) : Step note s (.turn k) (.ok ()) s
  | turned {k : Nat} (s' : Scene ω κ α β) (told : Turns k s s') :
      Step note s (.turn k) (.ok ()) s'

/-! ### What is left -/

theorem fire_desk (s : Scene ω κ α β) (shot : Nat) (result : Except Fault α) :
    (s.fire shot result).desk.queue = s.desk.queue ∧
      (s.fire shot result).desk.scheduled = s.desk.scheduled := by
  rw [fire]
  split
  · exact ⟨rfl, rfl⟩
  · split <;> exact ⟨rfl, rfl⟩

theorem Passes.queue {shot : Nat} {result : Except Fault α} {s s' : Scene ω κ α β}
    (h : Passes shot result s s') : s'.desk.queue = s.desk.queue := by
  cases h with
  | atOnce => exact (fire_desk s shot result).1
  | later operation => rfl

theorem Closes.queue {shot : Nat} {told : Option (Except Fault α)} {s s' : Scene ω κ α β}
    (h : Closes shot s told s') : s'.desk.queue = s.desk.queue := by
  cases h with
  | passed passed => exact passed.queue
  | silent => rfl

theorem Works.length_queue {note : ω → Except Fault α → List β} {k : Nat} {s s' : Scene ω κ α β}
    (h : Works note k s s') : s'.desk.queue.length + 1 = s.desk.queue.length := by
  cases h with
  | ended j outcome s' waiting closed =>
    obtain ⟨inside, _⟩ := List.getElem?_eq_some_iff.mp waiting
    rw [closed.queue, List.length_eraseIdx_of_lt inside]
    omega

theorem Turns.length_scheduled {k : Nat} {s s' : Scene ω κ α β} (h : Turns k s s') :
    s'.desk.scheduled.length + 1 = s.desk.scheduled.length := by
  cases h with
  | told c due =>
    obtain ⟨inside, _⟩ := List.getElem?_eq_some_iff.mp due
    rw [(fire_desk _ c.shot c.result).2, List.length_eraseIdx_of_lt inside]
    omega

theorem Turns.queue {k : Nat} {s s' : Scene ω κ α β} (h : Turns k s s') :
    s'.desk.queue = s.desk.queue := by
  cases h with
  | told c due => exact (fire_desk _ c.shot c.result).1

theorem Drains.length_queue {note : ω → Except Fault α → List β} {n : Nat} {s s' : Scene ω κ α β}
    (h : Drains note n s s') : s'.desk.queue.length + n = s.desk.queue.length := by
  induction h with
  | none s => rfl
  | next first rest ih =>
    have shorter := first.length_queue
    omega

/-! ### What a move does to the queue -/

variable {note : ω → Except Fault α → List β} {s s' : Scene ω κ α β} {label : Text} {work : ω}
  {callback : κ} {home : Home} {out : Except Fault Unit}

theorem Step.of_deliver {result : Except Fault α}
    (h : Step note s (.deliver label callback result home) out s') :
    out = .ok () ∧ s'.desk.queue = s.desk.queue := by
  cases h with
  | delivered s' passed => exact ⟨rfl, passed.queue⟩

theorem Step.of_work (h : Step note s (.work 0) out s') :
    s'.desk.queue.length = s.desk.queue.length - 1 := by
  cases h with
  | idle empty =>
    have none_ := List.getElem?_eq_none_iff.mp empty
    omega
  | worked s' did =>
    have shorter := did.length_queue
    omega

theorem Step.of_turn (h : Step note s (.turn 0) out s') :
    s'.desk.scheduled.length = s.desk.scheduled.length - 1 ∧ s'.desk.queue = s.desk.queue := by
  cases h with
  | quiet empty =>
    have none_ := List.getElem?_eq_none_iff.mp empty
    exact ⟨by omega, rfl⟩
  | turned s' told =>
    have shorter := told.length_scheduled
    exact ⟨by omega, told.queue⟩

theorem Step.of_dispatch_closed (h : Step note s (.dispatch label work callback home) out s')
    (closed : s.desk.closed = true) :
    out = .error Office.shutDown ∧ s'.desk.queue = s.desk.queue := by
  cases h with
  | refused closed' => exact ⟨rfl, rfl⟩
  | accepted id opened =>
    rw [closed] at opened
    cases opened

theorem Step.of_dispatch_open (h : Step note s (.dispatch label work callback home) out s')
    (opened : s.desk.closed = false) :
    out = .ok () ∧ ∃ j, s'.desk.queue = s.desk.queue ++ [j] ∧ j.work = work := by
  cases h with
  | refused closed =>
    rw [opened] at closed
    cases closed
  | accepted id opened' => exact ⟨rfl, _, rfl, rfl⟩

end Scene

/-! ### An office that shows a scene -/

/-- The work and the callbacks of an office leave its desk alone; `view` is what is seen of the
office, and `note` what is noted of work with an outcome. -/
structure Office.Shows (o : Office W ω κ α) (note : ω → Except Fault α → List β)
    (view : W → Scene ω κ α β) : Prop where
  desk (w : W) : o.desk.get w = (view w).desk
  set (d : Desk ω κ α) (w : W) : view (o.desk.set d w) = { view w with desk := d }
  performs (work : ω) (r : Run W) : view ((o.perform work).start r).2.state =
    { view r.state with
      noted := (view r.state).noted ++ note work ((o.perform work).start r).1 }
  notifies (callback : κ) (place : Place) (result : Except Fault α) (r : Run W) :
    view ((o.notify callback place result).start r).2.state =
      { view r.state with told := (view r.state).told ++ [(callback, result)] }

namespace Office.Shows

variable {o : Office W ω κ α} {note : ω → Except Fault α → List β} {view : W → Scene ω κ α β}
  {s : Scene ω κ α β}

theorem leads_onDesk (h : o.Shows note view) (f : Desk ω κ α → γ × Desk ω κ α) :
    Leads (view · = s) (o.onDesk f)
      fun out w => view w = { s with desk := (f s.desk).2 } ∧ out = .ok (f s.desk).1 := by
  intro r seen
  simp only [onDesk, Action.start_take, h.set, h.desk, seen, and_self]

theorem leads_changeDesk (h : o.Shows note view) (f : Desk ω κ α → Desk ω κ α) :
    Leads (view · = s) (o.changeDesk f)
      fun out w => view w = { s with desk := f s.desk } ∧ out = .ok () := by
  intro r seen
  simp only [changeDesk, Action.start_change, h.set, h.desk, seen, and_self]

theorem leads_within {P : W → Prop} {Q : Except Fault γ → W → Prop} {a : Action W γ}
    (id : Option Text) (h : Leads P a Q) : Leads P (Action.within id a) Q :=
  fun r hr => h ⟨r.state, r.journal, id⟩ hr

theorem leads_fire (h : o.Shows note view) (shot : Nat) (place : Place)
    (result : Except Fault α) : Leads (view · = s) (o.fire shot place result)
      fun out w => view w = s.fire shot result ∧ out = .ok () := by
  intro r seen
  rw [fire, Action.start_bind, Action.start_read]
  simp only [h.desk, seen, Scene.fire]
  cases s.desk.shots[shot]? with
  | none => exact ⟨seen, rfl⟩
  | some c =>
    dsimp only
    split
    · exact ⟨seen, rfl⟩
    · refine Leads.bind_ok (Q := fun out w => view w = _ ∧ out = .ok ())
        (h.leads_changeDesk (Desk.markFired shot)) ?_ r seen
      refine Leads.bind_answer (R := fun _ w => view w =
          { s with desk := s.desk.markFired shot, told := s.told ++ [(c.callback, result)] })
        (Leads.attempt fun r seen => ⟨_, rfl, ?_⟩) fun out => ?_
      · rw [h.notifies, seen]
      · cases out with
        | ok u => exact leads_pure fun w seen => ⟨seen, rfl⟩
        | error e => exact leads_log fun w seen => ⟨seen, rfl⟩

theorem leads_outcome (h : o.Shows note view) (label : Text) (work : ω) :
    Leads (view · = s) (o.outcome label work) fun out w => ∃ outcome : Except Fault α,
      out.toOption = settled label outcome ∧
        view w = { s with noted := s.noted ++ note work outcome } := by
  refine Leads.bind_answer (R := fun outcome w =>
      view w = { s with noted := s.noted ++ note work outcome })
    (Leads.attempt fun r seen => ⟨_, rfl, ?_⟩) fun outcome => ?_
  · rw [h.performs, seen]
  · cases outcome with
    | ok a => exact leads_pure fun w seen => ⟨.ok a, rfl, seen⟩
    | error e =>
      dsimp only
      split
      · next known =>
        refine leads_log_bind (leads_pure fun w seen => ⟨.error e, ?_, seen⟩)
        rw [settled, if_pos known]
        rfl
      · next unknown =>
        refine leads_log_bind fun r seen => ⟨.error e, ?_, ?_⟩
        · rw [settled, if_neg unknown, Action.start_bind, Action.start_ofExcept]
          cases e.asText with
          | ok text => rfl
          | error f => rfl
        · rw [Action.start_bind, Action.start_ofExcept]
          cases e.asText with
          | ok text => exact seen
          | error f => exact seen

theorem leads_schedule (h : o.Shows note view) (shot : Nat) (result : Except Fault α) :
    Leads (view · = s) (do
        let operation ← Action.operation
        o.changeDesk (Desk.schedule ⟨shot, result, operation⟩))
      fun out w => s.Passes shot result (view w) ∧ out = .ok () := by
  intro r seen
  rw [Action.start_bind, Action.start_operation]
  obtain ⟨seen', answer⟩ := h.leads_changeDesk (Desk.schedule ⟨shot, result, r.operation⟩) r seen
  exact ⟨seen' ▸ .later r.operation, answer⟩

theorem leads_send (h : o.Shows note view) (j : Job ω) (result : Except Fault α) :
    Leads (view · = s) (o.send j result)
      fun out w => s.Passes j.shot result (view w) ∧ out = .ok () := by
  have fired : Leads (view · = s) (o.fire j.shot .worker result)
      fun out w => s.Passes j.shot result (view w) ∧ out = .ok () :=
    (h.leads_fire j.shot .worker result).post fun _ _ ended => ⟨ended.1 ▸ .atOnce, ended.2⟩
  rw [send]
  cases j.home with
  | plain => exact fired
  | loop => exact h.leads_schedule j.shot result
  | closedLoop => exact leads_log_bind fired

theorem leads_execute (h : o.Shows note view) (j : Job ω) :
    Leads (view · = s) (o.execute j) fun _ w => ∃ outcome, Scene.Closes j.shot
      { s with noted := s.noted ++ note j.work outcome } (settled j.label outcome) (view w) := by
  refine leads_within _ (leads_log_bind ?_)
  refine (h.leads_outcome j.label j.work).bind (fun e w reached => ?_) fun result r reached => ?_
  · obtain ⟨outcome, told, seen⟩ := reached
    rw [seen]
    exact ⟨outcome, told ▸ .silent⟩
  · obtain ⟨outcome, told, seen⟩ := reached
    obtain ⟨passed, _⟩ := h.leads_send j result r seen
    exact ⟨outcome, told ▸ .passed passed⟩

theorem leads_workerStepAt (h : o.Shows note view) (k : Nat) :
    Leads (view · = s) (o.workerStepAt k) fun out w => ∃ did, out = .ok did ∧
      ((did = false ∧ s.desk.queue[k]? = none ∧ view w = s) ∨
        (did = true ∧ s.Works note k (view w))) := by
  refine (h.leads_onDesk (Desk.takeJobAt k)).bind_ok ?_
  simp only [Desk.takeJobAt]
  cases waiting : s.desk.queue[k]? with
  | none => exact leads_pure fun w seen => ⟨false, rfl, .inl ⟨rfl, rfl, seen⟩⟩
  | some j =>
    refine Leads.bind_answer (Leads.attempt ((h.leads_execute j).post fun out w reached =>
      ⟨out, rfl, reached⟩)) fun out => leads_pure fun w reached => ⟨true, rfl, .inr ⟨rfl, ?_⟩⟩
    obtain ⟨outcome, closed⟩ := reached
    exact .ended j outcome _ waiting closed

theorem leads_loopStepAt (h : o.Shows note view) (k : Nat) :
    Leads (view · = s) (o.loopStepAt k) fun out w => ∃ did, out = .ok did ∧
      ((did = false ∧ s.desk.scheduled[k]? = none ∧ view w = s) ∨
        (did = true ∧ s.Turns k (view w))) := by
  refine (h.leads_onDesk (Desk.takeScheduledAt k)).bind_ok ?_
  simp only [Desk.takeScheduledAt]
  cases due : s.desk.scheduled[k]? with
  | none => exact leads_pure fun w seen => ⟨false, rfl, .inl ⟨rfl, rfl, seen⟩⟩
  | some c =>
    refine (leads_within _ (h.leads_fire c.shot .caller c.result)).bind_ok ?_
    exact leads_pure fun w seen => ⟨true, rfl, .inr ⟨rfl, seen ▸ .told c due⟩⟩

theorem leads_work (h : o.Shows note view) {n : Nat} (enough : n ≤ s.desk.queue.length) :
    Leads (view · = s) (o.work n)
      fun out w => s.Drains note n (view w) ∧ out = .ok () := by
  -- A job leaves one less to do, so that the number never runs ahead of the queue.
  induction n generalizing s with
  | zero => exact leads_pure fun w seen => ⟨seen.symm ▸ .none s, rfl⟩
  | succ n ih =>
    rw [work, ← workerStepAt_zero]
    refine (h.leads_workerStepAt 0).bind_answer fun more r reached => ?_
    obtain ⟨_, empty, _⟩ | ⟨rfl, did⟩ := reached
    · have none_ := List.getElem?_eq_none_iff.mp empty
      omega
    · have shorter := did.length_queue
      obtain ⟨rest, ended⟩ := ih (by omega) r rfl
      exact ⟨.next did rest, ended⟩

theorem leads_dispatch (h : o.Shows note view) (label : Text) (work : ω) (callback : κ)
    (home : Home) : Leads (view · = s) (o.dispatch label work callback home)
      fun out w => s.Step note (.dispatch label work callback home) out (view w) := by
  refine (h.leads_onDesk (Desk.register callback label)).bind_ok ?_
  refine (h.leads_onDesk Desk.drawId).bind_ok ?_
  intro r seen
  rw [Action.start_bind, Action.start_read]
  simp only [h.desk, seen]
  have same : (Desk.register callback label s.desk).2.drawId.2.closed = s.desk.closed := rfl
  rw [same]
  cases state : s.desk.closed with
  | true =>
    change s.Step note _ (.error shutDown) (view r.state)
    exact seen ▸ .refused state
  | false =>
    rw [if_neg Bool.false_ne_true]
    obtain ⟨seen', answer⟩ := h.leads_changeDesk (Desk.enqueue ⟨label, _, work, _, home⟩) r seen
    rw [answer, seen']
    exact .accepted _ state

theorem leads_deliver (h : o.Shows note view) (label : Text) (callback : κ)
    (result : Except Fault α) (home : Home) :
    Leads (view · = s) (o.deliver label callback result home)
      fun out w => s.Step note (.deliver label callback result home) out (view w) := by
  refine (h.leads_onDesk (Desk.register callback label)).bind_ok ?_
  cases home with
  | plain =>
    refine (h.leads_fire _ .caller result).post fun out w ended => ?_
    rw [ended.1, ended.2]
    exact .delivered _ .atOnce
  | loop | closedLoop =>
    refine (h.leads_schedule _ result).post fun out w ended => ?_
    rw [ended.2]
    exact .delivered _ ended.1

theorem leads_shutdown (h : o.Shows note view) (wait : Bool) :
    Leads (view · = s) (o.shutdown wait) fun out w =>
      s.Step note (.shutdown wait) out (view w) := by
  refine (h.leads_changeDesk _).bind_ok ?_
  cases wait with
  | false => exact leads_log fun w seen => seen ▸ .closed
  | true =>
    intro r seen
    simp only [if_true]
    rw [Action.start_bind, Action.start_read]
    simp only [h.desk, seen]
    refine Leads.bind (Q := fun out w => s.Step note (.shutdown true) out (view w))
      (h.leads_work (s := s.close) (Nat.le_refl _)) (fun e w impossible => nomatch impossible.2)
      (fun u => ?_) r seen
    exact leads_log fun w reached => .drained _ reached.1

/-- Every move of the office is a step of what it shows. -/
theorem leads_perform (h : o.Shows note view) (m : Move ω κ α) :
    Leads (view · = s) (m.perform o) fun out w => s.Step note m out (view w) := by
  cases m with
  | dispatch label work callback home => exact h.leads_dispatch label work callback home
  | deliver label callback result home => exact h.leads_deliver label callback result home
  | shutdown wait => exact h.leads_shutdown wait
  | work k =>
    refine (h.leads_workerStepAt k).bind_answer fun did => leads_pure fun w reached => ?_
    obtain ⟨_, empty, same⟩ | ⟨_, did⟩ := reached
    · exact same.symm ▸ .idle empty
    · exact .worked _ did
  | turn k =>
    refine (h.leads_loopStepAt k).bind_answer fun did => leads_pure fun w reached => ?_
    obtain ⟨_, empty, same⟩ | ⟨_, told⟩ := reached
    · exact same.symm ▸ .quiet empty
    · exact .turned _ told

end Office.Shows

end CertKeeper.Dispatch
