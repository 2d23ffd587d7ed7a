import CertKeeper.Action

/-!
# What actions lead to

A condition on the state before an action, and one on its outcome and the state after it.  The
journal plays no part in either.
-/

namespace CertKeeper.Action

variable {σ α β : Type}

/-- Started where `P` holds, an action ends as `Q` says. -/
def Leads (P : σ → Prop) (a : Action σ α) (Q : Except Fault α → σ → Prop) : Prop :=
  ∀ r : Run σ, P r.state → Q (start a r).1 (start a r).2.state

variable {P P' : σ → Prop} {Q Q' : Except Fault α → σ → Prop}

theorem Leads.mono {a : Action σ α} (h : Leads P a Q) (before : ∀ s, P' s → P s)
    (after : ∀ o s, Q o s → Q' o s) : Leads P' a Q' :=
  fun r hr => after _ _ (h r (before _ hr))

theorem Leads.post {a : Action σ α} (h : Leads P a Q) (after : ∀ o s, Q o s → Q' o s) :
    Leads P a Q' := h.mono (fun _ hs => hs) after

theorem leads_of {p : Prop} {a : Action σ α} (h : p → Leads P a Q) :
    Leads (fun s => P s ∧ p) a Q := fun r hr => h hr.2 r hr.1

theorem leads_pure {a : α} (h : ∀ s, P s → Q (.ok a) s) : Leads P (pure a) Q :=
  fun r hr => h r.state hr

theorem leads_throw {e : Fault} (h : ∀ s, P s → Q (.error e) s) : Leads P (throw e) Q :=
  fun r hr => h r.state hr

theorem Leads.bind {a : Action σ β} {f : β → Action σ α} {R : Except Fault β → σ → Prop}
    (first : Leads P a R) (fault : ∀ e s, R (.error e) s → Q (.error e) s)
    (next : ∀ v, Leads (R (.ok v)) (f v) Q) : Leads P (a >>= f) Q := by
  intro r hr
  have reached := first r hr
  rw [start_bind]
  cases ended : start a r with
  | mk outcome r' =>
    rw [ended] at reached
    cases outcome with
    | error e => exact fault e r'.state reached
    | ok v => exact next v r' reached

theorem Leads.bind_ok {a : Action σ β} {f : β → Action σ α} {v : β}
    (first : Leads P a fun o s => P' s ∧ o = .ok v) (next : Leads P' (f v) Q) :
    Leads P (a >>= f) Q := by
  refine first.bind (fun e s impossible => nomatch impossible.2) fun w => ?_
  rintro r ⟨held, answer⟩
  cases answer
  exact next r held

theorem Leads.bind_answer {a : Action σ β} {f : β → Action σ α} {R : β → σ → Prop}
    (first : Leads P a fun o s => ∃ v, o = .ok v ∧ R v s) (next : ∀ v, Leads (R v) (f v) Q) :
    Leads P (a >>= f) Q := by
  refine first.bind (fun e s impossible => ?_) fun v r reached => ?_
  · obtain ⟨v, answer, _⟩ := impossible
    cases answer
  · obtain ⟨v', answer, known⟩ := reached
    cases answer
    exact next v r known

theorem state_map (a : Action σ β) (f : β → α) (r : Run σ) :
    (start (a >>= fun v => pure (f v)) r).2 = (start a r).2 := by
  rw [start_bind]
  cases start a r with
  | mk outcome r' =>
    cases outcome with
    | error e => rfl
    | ok v => rfl

theorem answer_map (a : Action σ β) (f : β → α) (r : Run σ) :
    (start (a >>= fun v => pure (f v)) r).1 = (start a r).1.map f := by
  rw [start_bind]
  cases start a r with
  | mk outcome r' =>
    cases outcome with
    | error e => rfl
    | ok v => rfl

theorem leads_log {Q : Except Fault Unit → σ → Prop} {level : Level} {message : Text}
    (h : ∀ s, P s → Q (.ok ()) s) : Leads P (log level message) Q := fun r hr => h r.state hr

theorem leads_ofExcept {outcome : Except Fault α} (h : ∀ s, P s → Q outcome s) :
    Leads P (ofExcept outcome) Q := by
  intro r hr
  rw [start_ofExcept]
  exact h r.state hr

theorem Leads.attempt {a : Action σ α} {Q : Except Fault (Except Fault α) → σ → Prop}
    (h : Leads P a fun o s => Q (.ok o) s) : Leads P (attempt a) Q := fun r hr => h r hr

theorem Leads.refine {a : Action σ α} {handler : Fault → Option Fault}
    (h : Leads P a fun o s => Q (o.mapError fun e => (handler e).getD e) s) :
    Leads P (Action.refine a handler) Q := by
  intro r hr
  rw [start_refine]
  exact h r hr

theorem leads_log_bind {level : Level} {message : Text} {a : Unit → Action σ α}
    (h : Leads P (a ()) Q) : Leads P (log level message >>= a) Q :=
  (leads_log (Q := fun o s => o = .ok () ∧ P s) fun _ hs => ⟨rfl, hs⟩).bind
    (fun _ _ impossible => nomatch impossible.1)
    fun _ => h.mono (fun _ hs => hs.2) fun _ _ hq => hq

end CertKeeper.Action
