import CertKeeper.Proofs.Dispatch.Scene
import Mathlib.Data.List.Perm.Basic

/-!
# What an office owes

The accounts of an office: work that was accepted has been done or waits, and for work that has
been done and for results that were to be delivered the callback has been told or is on the list of
a loop.  Main statement: `Scene.balanced_step`, every step keeps the accounts balanced.
-/

namespace CertKeeper.Dispatch

variable {ω κ α β : Type}

structure Agreement (ω κ : Type) where
  label : Text
  work : ω
  callback : κ

namespace Desk

def callbackOf (d : Desk ω κ α) (shot : Nat) : Option κ := (d.shots[shot]?).map Shot.callback

def waiting (d : Desk ω κ α) : List (Agreement ω κ) :=
  d.queue.filterMap fun j => (d.callbackOf j.shot).map (⟨j.label, j.work, ·⟩)

def due (d : Desk ω κ α) : List (κ × Except Fault α) :=
  d.scheduled.filterMap fun c => (d.callbackOf c.shot).map (·, c.result)

def pending (d : Desk ω κ α) : List Nat :=
  d.queue.map Job.shot ++ d.scheduled.map Scheduled.shot

/-- No callback is pending twice, and none has been told that is pending. -/
structure Orderly (d : Desk ω κ α) : Prop where
  nodup : d.pending.Nodup
  untold : ∀ shot ∈ d.pending, ∃ c, d.shots[shot]? = some c ∧ c.fired = false

/-- A callback that has not been told and that nothing is pending for. -/
structure Idle (d : Desk ω κ α) (shot : Nat) (callback : κ) : Prop where
  fresh : shot ∉ d.pending
  untold : ∃ c, d.shots[shot]? = some c ∧ c.fired = false ∧ c.callback = callback

variable {d d' : Desk ω κ α} {shot : Nat} {callback : κ}

theorem Idle.callbackOf (h : d.Idle shot callback) : d.callbackOf shot = some callback := by
  obtain ⟨c, at_, _, same⟩ := h.untold
  rw [Desk.callbackOf, at_, Option.map_some, same]

theorem callbackOf_markFired (d : Desk ω κ α) (shot other : Nat) :
    (d.markFired shot).callbackOf other = d.callbackOf other := by
  rw [Desk.callbackOf, shots_markFired, Option.map_map, Desk.callbackOf]
  congr 1
  funext c
  simp only [Function.comp_apply]
  split <;> rfl

theorem waiting_congr (queue : d'.queue = d.queue)
    (same : ∀ j ∈ d.queue, d'.callbackOf j.shot = d.callbackOf j.shot) :
    d'.waiting = d.waiting := by
  rw [waiting, waiting, queue]
  exact List.filterMap_congr fun j inside => by rw [same j inside]

theorem due_congr (scheduled : d'.scheduled = d.scheduled)
    (same : ∀ c ∈ d.scheduled, d'.callbackOf c.shot = d.callbackOf c.shot) :
    d'.due = d.due := by
  rw [due, due, scheduled]
  exact List.filterMap_congr fun c inside => by rw [same c inside]

theorem shot_mem_of_queue {j : Job ω} (h : j ∈ d.queue) : j.shot ∈ d.pending :=
  List.mem_append_left _ (List.mem_map_of_mem h)

theorem shot_mem_of_scheduled {c : Scheduled α} (h : c ∈ d.scheduled) : c.shot ∈ d.pending :=
  List.mem_append_right _ (List.mem_map_of_mem h)

/-! ### Registering -/

theorem Orderly.register (h : d.Orderly) (callback : κ) (label : Text) :
    let d' := (d.register callback label).2
    d'.Orderly ∧ d'.Idle d.shots.length callback ∧ d'.waiting = d.waiting ∧ d'.due = d.due := by
  have inside : ∀ shot ∈ d.pending, shot < d.shots.length := by
    intro shot hs
    obtain ⟨c, at_, _⟩ := h.untold shot hs
    exact (List.getElem?_eq_some_iff.mp at_).1
  have kept : ∀ shot ∈ d.pending,
      (d.shots ++ [⟨callback, label, false⟩])[shot]? = d.shots[shot]? :=
    fun shot hs => List.getElem?_append_left (inside shot hs)
  refine ⟨⟨h.nodup, ?_⟩, ⟨?_, ⟨callback, label, false⟩, ?_, rfl, rfl⟩, ?_, ?_⟩
  · intro shot hs
    obtain ⟨c, at_, untold⟩ := h.untold shot hs
    exact ⟨c, (kept shot hs).trans at_, untold⟩
  · intro hs
    exact Nat.lt_irrefl _ (inside _ hs)
  · exact List.getElem?_concat_length
  · refine waiting_congr rfl fun j hj => ?_
    exact congrArg (Option.map Shot.callback) (kept j.shot (shot_mem_of_queue hj))
  · refine due_congr rfl fun c hc => ?_
    exact congrArg (Option.map Shot.callback) (kept c.shot (shot_mem_of_scheduled hc))

/-! ### Taking -/

theorem Orderly.of_perm (h : d.Orderly) (d' : Desk ω κ α) {shot : Nat}
    (shots : d'.shots = d.shots) (less : d.pending.Perm (shot :: d'.pending)) :
    d'.Orderly ∧ ∃ callback, d'.Idle shot callback := by
  have nodup : (shot :: d'.pending).Nodup := less.nodup_iff.mp h.nodup
  obtain ⟨fresh, rest⟩ := List.nodup_cons.mp nodup
  obtain ⟨c, at_, untold⟩ := h.untold shot (less.mem_iff.mpr List.mem_cons_self)
  refine ⟨⟨rest, fun other ho => ?_⟩, c.callback, fresh, c, shots ▸ at_, untold, rfl⟩
  obtain ⟨c', at_', untold'⟩ := h.untold other (less.mem_iff.mpr (List.mem_cons_of_mem _ ho))
  exact ⟨c', shots ▸ at_', untold'⟩

theorem perm_eraseIdx {γ : Type} {l : List γ} {k : Nat} {x : γ} (h : l[k]? = some x) :
    l.Perm (x :: l.eraseIdx k) := by
  obtain ⟨inside, same⟩ := List.getElem?_eq_some_iff.mp h
  rw [← same]
  exact (List.getElem_cons_eraseIdx_perm inside).symm

theorem Orderly.takeJob (h : d.Orderly) {k : Nat} {j : Job ω} (waits : d.queue[k]? = some j) :
    let d' := { d with queue := d.queue.eraseIdx k }
    d'.Orderly ∧ ∃ callback, d'.Idle j.shot callback ∧
      d.waiting.Perm (⟨j.label, j.work, callback⟩ :: d'.waiting) ∧
      (k = 0 → d.waiting = ⟨j.label, j.work, callback⟩ :: d'.waiting) ∧ d'.due = d.due := by
  intro d'
  have less : d.pending.Perm (j.shot :: d'.pending) :=
    ((perm_eraseIdx waits).map Job.shot).append_right _
  obtain ⟨orderly, callback, idle⟩ := h.of_perm d' rfl less
  have told : d.callbackOf j.shot = some callback := idle.callbackOf
  have ahead : List.filterMap (fun j => (d.callbackOf j.shot).map (Agreement.mk j.label j.work ·))
      (j :: d.queue.eraseIdx k) = ⟨j.label, j.work, callback⟩ :: d'.waiting := by
    rw [List.filterMap_cons, told]
    rfl
  refine ⟨orderly, callback, idle, ?_, ?_, rfl⟩
  · rw [← ahead]
    exact (perm_eraseIdx waits).filterMap _
  · intro first
    subst first
    rw [← ahead, waiting]
    cases queue : d.queue with
    | nil =>
      rw [queue] at waits
      cases waits
    | cons j' rest =>
      rw [queue] at waits
      cases waits
      rfl

theorem Orderly.takeScheduled (h : d.Orderly) {k : Nat} {c : Scheduled α}
    (listed : d.scheduled[k]? = some c) :
    let d' := { d with scheduled := d.scheduled.eraseIdx k }
    d'.Orderly ∧ ∃ callback, d'.Idle c.shot callback ∧
      d.due.Perm ((callback, c.result) :: d'.due) ∧ d'.waiting = d.waiting := by
  intro d'
  have less : d.pending.Perm (c.shot :: d'.pending) :=
    (((perm_eraseIdx listed).map Scheduled.shot).append_left _).trans List.perm_middle
  obtain ⟨orderly, callback, idle⟩ := h.of_perm d' rfl less
  have told : d.callbackOf c.shot = some callback := idle.callbackOf
  refine ⟨orderly, callback, idle, ?_, rfl⟩
  have ahead : List.filterMap (fun c => (d.callbackOf c.shot).map (·, c.result))
      (c :: d.scheduled.eraseIdx k) = (callback, c.result) :: d'.due := by
    rw [List.filterMap_cons, told]
    rfl
  rw [← ahead]
  exact (perm_eraseIdx listed).filterMap _

/-! ### Telling -/

theorem Orderly.markFired (h : d.Orderly) (fresh : shot ∉ d.pending) :
    (d.markFired shot).Orderly := by
  refine ⟨h.nodup, fun other ho => ?_⟩
  obtain ⟨c, at_, untold⟩ := h.untold other ho
  have apart : shot ≠ other := fun same => fresh (same ▸ ho)
  exact ⟨c, by rw [shots_markFired, at_, Option.map_some, if_neg apart], untold⟩

theorem Orderly.add (h : d.Orderly) (idle : d.Idle shot callback) (shots : d'.shots = d.shots)
    (more : d'.pending.Perm (shot :: d.pending)) : d'.Orderly := by
  refine ⟨more.nodup_iff.mpr (List.nodup_cons.mpr ⟨idle.fresh, h.nodup⟩), fun other ho => ?_⟩
  rw [shots]
  cases List.mem_cons.mp (more.mem_iff.mp ho) with
  | inl same =>
    obtain ⟨c, at_, untold, _⟩ := idle.untold
    exact ⟨c, same ▸ at_, untold⟩
  | inr old => exact h.untold other old

end Desk

/-! ### Balanced accounts -/

namespace Scene

open Desk

variable {note : ω → Except Fault α → List β} {s s' : Scene ω κ α β}

theorem Passes.told {shot : Nat} {result : Except Fault α} {callback : κ}
    (h : Passes shot result s s') (orderly : s.desk.Orderly) (idle : s.desk.Idle shot callback) :
    s'.desk.Orderly ∧ s'.desk.waiting = s.desk.waiting ∧ s'.noted = s.noted ∧
      s'.desk.closed = s.desk.closed ∧
      (s'.told ++ s'.desk.due).Perm ((callback, result) :: (s.told ++ s.desk.due)) := by
  cases h with
  | atOnce =>
    obtain ⟨c, at_, untold, same⟩ := idle.untold
    have fired : s.fire shot result = { s with
        desk := s.desk.markFired shot, told := s.told ++ [(callback, result)] } := by
      simp only [fire, at_, untold, same, Bool.false_eq_true, if_false]
    rw [fired]
    refine ⟨orderly.markFired idle.fresh, ?_, rfl, rfl, ?_⟩
    · exact waiting_congr rfl fun j _ => callbackOf_markFired _ _ _
    · have due : (s.desk.markFired shot).due = s.desk.due :=
        due_congr rfl fun c _ => callbackOf_markFired _ _ _
      rw [due, List.append_assoc]
      exact List.perm_middle
  | later operation =>
    refine ⟨orderly.add idle rfl ?_, rfl, rfl, rfl, ?_⟩
    · simp only [schedule, Desk.schedule, pending, List.map_append, List.map_cons, List.map_nil,
        ← List.append_assoc]
      exact List.perm_append_singleton _ _
    · have due : (s.desk.schedule ⟨shot, result, operation⟩).due
          = s.desk.due ++ [(callback, result)] := by
        have told : s.desk.callbackOf shot = some callback := idle.callbackOf
        rw [Desk.due, Desk.schedule, List.filterMap_append]
        congr 1
        change List.filterMap (fun c : Scheduled α =>
          (s.desk.callbackOf c.shot).map (·, c.result)) _ = _
        rw [List.filterMap_cons, told]
        rfl
      simp only [schedule, due, ← List.append_assoc]
      exact List.perm_append_singleton _ _

theorem Closes.told {shot : Nat} {result : Option (Except Fault α)} {callback : κ}
    (h : Closes shot s result s') (orderly : s.desk.Orderly) (idle : s.desk.Idle shot callback) :
    s'.desk.Orderly ∧ s'.desk.waiting = s.desk.waiting ∧ s'.noted = s.noted ∧
      s'.desk.closed = s.desk.closed ∧ (s'.told ++ s'.desk.due).Perm
        ((result.map (callback, ·)).toList ++ (s.told ++ s.desk.due)) := by
  cases h with
  | passed passed => exact passed.told orderly idle
  | silent => exact ⟨orderly, rfl, rfl, rfl, .refl _⟩

/-- Who is told what of work that came to an outcome. -/
def notice (p : Agreement ω κ × Except Fault α) : Option (κ × Except Fault α) :=
  (settled p.1.label p.2).map (p.1.callback, ·)

/-- The accounts after some work came to its outcomes: `accepted` is all work that was accepted and
`announced` all results that were to be delivered.  With `alone`, there is one worker. -/
structure Balanced (note : ω → Except Fault α → List β) (alone : Prop)
    (accepted : List (Agreement ω κ)) (announced : List (κ × Except Fault α))
    (outcomes : List (Agreement ω κ × Except Fault α)) (s : Scene ω κ α β) : Prop where
  orderly : s.desk.Orderly
  agreed : (outcomes.map Prod.fst ++ s.desk.waiting).Perm accepted
  ordered : alone → outcomes.map Prod.fst ++ s.desk.waiting = accepted
  noted : s.noted = outcomes.flatMap fun p => note p.1.work p.2
  paid : (s.told ++ s.desk.due).Perm (outcomes.filterMap notice ++ announced)

variable {alone : Prop} {accepted : List (Agreement ω κ)} {announced : List (κ × Except Fault α)}
  {outcomes : List (Agreement ω κ × Except Fault α)}

theorem balanced_works {k : Nat} (h : Balanced note alone accepted announced outcomes s)
    (did : Works note k s s') (first : alone → k = 0) :
    s'.desk.closed = s.desk.closed ∧
      ∃ outcomes', Balanced note alone accepted announced outcomes' s' := by
  cases did with
  | ended j outcome s' waits closes =>
    obtain ⟨orderly, callback, idle, taken, inOrder, due⟩ := h.orderly.takeJob waits
    obtain ⟨orderly', waiting, noted, closed, told⟩ := closes.told orderly idle
    refine ⟨closed, outcomes ++ [(⟨j.label, j.work, callback⟩, outcome)], orderly', ?_, ?_, ?_, ?_⟩
    · rw [waiting, List.map_append, List.append_assoc]
      exact (taken.symm.append_left _).trans h.agreed
    · intro one
      rw [waiting, List.map_append, List.append_assoc, ← h.ordered one, inOrder (first one)]
      rfl
    · rw [noted, h.noted, List.flatMap_append]
      simp only [List.flatMap_cons, List.flatMap_nil, List.append_nil]
    · refine told.trans (((due ▸ h.paid).append_left _).trans ?_)
      have last :
          [(⟨⟨j.label, j.work, callback⟩, outcome⟩ : Agreement ω κ × Except Fault α)].filterMap
            notice = ((settled j.label outcome).map (callback, ·)).toList := by
        rw [List.filterMap_cons, List.filterMap_nil, notice]
        cases (settled j.label outcome).map (callback, ·) <;> rfl
      rw [List.filterMap_append, last, ← List.append_assoc]
      exact (List.perm_append_comm).append_right _

theorem balanced_drains {n : Nat} (did : Drains note n s s')
    (h : Balanced note alone accepted announced outcomes s) :
    s'.desk.closed = s.desk.closed ∧
      ∃ outcomes', Balanced note alone accepted announced outcomes' s' := by
  induction did generalizing outcomes with
  | none s => exact ⟨rfl, outcomes, h⟩
  | next first rest ih =>
    obtain ⟨closed, _, once⟩ := balanced_works h first fun _ => rfl
    obtain ⟨closed', balanced⟩ := ih once
    exact ⟨closed'.trans closed, balanced⟩

theorem balanced_turns {k : Nat} (h : Balanced note alone accepted announced outcomes s)
    (told : Turns k s s') :
    s'.desk.closed = s.desk.closed ∧ Balanced note alone accepted announced outcomes s' := by
  cases told with
  | told c due =>
    obtain ⟨orderly, callback, idle, taken, waiting⟩ := h.orderly.takeScheduled due
    let called := { s with desk := { s.desk with scheduled := s.desk.scheduled.eraseIdx k } }
    have passes : Passes c.shot c.result called (called.fire c.shot c.result) := .atOnce
    obtain ⟨orderly', waiting', noted, closed, told⟩ := passes.told orderly idle
    have same := waiting'.trans waiting
    refine ⟨closed, orderly', same ▸ h.agreed, same ▸ h.ordered, noted.trans h.noted, ?_⟩
    refine (told.trans ?_).trans h.paid
    exact List.perm_middle.symm.trans (taken.symm.append_left _)

/-! ### One callback -/

variable [DecidableEq κ] {c : κ}

theorem filter_notice (outcomes : List (Agreement ω κ × Except Fault α)) (c : κ) :
    (outcomes.filterMap notice).filter (·.1 = c) =
      (outcomes.filter (·.1.callback = c)).filterMap notice := by
  rw [List.filter_filterMap, List.filterMap_filter]
  refine List.filterMap_congr fun p _ => ?_
  rw [notice]
  cases settled p.1.label p.2 with
  | none => split <;> rfl
  | some result => exact Option.filter_some

/-- A callback that waits for no work is told what was announced to it. -/
theorem Balanced.told_announced (h : Balanced note alone accepted announced outcomes s)
    (unasked : accepted.filter (·.callback = c) = []) :
    s.desk.waiting.filter (·.callback = c) = [] ∧
      (s.told.filter (·.1 = c) ++ s.desk.due.filter (·.1 = c)).Perm
        (announced.filter (·.1 = c)) := by
  have agreed := h.agreed.filter (·.callback = c)
  rw [unasked, List.filter_append, List.filter_map] at agreed
  obtain ⟨undone, waiting⟩ := List.append_eq_nil_iff.mp (List.perm_nil.mp agreed)
  have all := h.paid.filter (·.1 = c)
  have none_ : outcomes.filter (·.1.callback = c) = [] := List.map_eq_nil_iff.mp undone
  rw [List.filter_append, List.filter_append, filter_notice, none_, List.filterMap_nil,
    List.nil_append] at all
  exact ⟨waiting, all⟩

/-- A callback that waits for one piece of work is told what that came to, once, or never where
there is nothing to tell. -/
theorem Balanced.told_settled (h : Balanced note alone accepted announced outcomes s)
    {a : Agreement ω κ} (asked : accepted.filter (·.callback = c) = [a])
    (unannounced : announced.filter (·.1 = c) = []) :
    (s.told.filter (·.1 = c)).length ≤ 1 ∧ (s.desk.queue = [] → s.desk.scheduled = [] →
      ∃ outcome, (a, outcome) ∈ outcomes ∧
        s.told.filter (·.1 = c) = ((settled a.label outcome).map (c, ·)).toList) := by
  have did : ((outcomes.filter (·.1.callback = c)).map Prod.fst ++
      s.desk.waiting.filter (·.callback = c)).Perm [a] := by
    have all := h.agreed.filter (·.callback = c)
    rw [asked, List.filter_append, List.filter_map] at all
    exact all
  have told : (s.told.filter (·.1 = c) ++ s.desk.due.filter (·.1 = c)).Perm
      ((outcomes.filter (·.1.callback = c)).filterMap notice) := by
    have all := h.paid.filter (·.1 = c)
    rw [List.filter_append, List.filter_append, unannounced, List.append_nil, filter_notice] at all
    exact all
  have size := told.length_eq
  have size' := did.length_eq
  have fewer := List.length_filterMap_le notice (outcomes.filter (·.1.callback = c))
  simp only [List.length_append, List.length_map, List.length_singleton] at size size'
  refine ⟨by omega, fun queue scheduled => ?_⟩
  have waiting : s.desk.waiting = [] := by rw [Desk.waiting, queue, List.filterMap_nil]
  have due : s.desk.due = [] := by rw [Desk.due, scheduled, List.filterMap_nil]
  rw [waiting, List.filter_nil, List.append_nil] at did
  rw [due, List.filter_nil, List.append_nil] at told
  have one := List.perm_singleton.mp did
  obtain ⟨⟨a', outcome⟩, only, same⟩ := List.map_eq_singleton_iff.mp one
  obtain rfl : a' = a := same
  have inside : (a', outcome) ∈ outcomes.filter (·.1.callback = c) :=
    only ▸ List.mem_singleton_self _
  obtain ⟨member, mine⟩ := List.mem_filter.mp inside
  have mine : a'.callback = c := of_decide_eq_true mine
  refine ⟨outcome, member, ?_⟩
  rw [only, List.filterMap_cons, List.filterMap_nil, notice, mine] at told
  cases what : settled a'.label outcome with
  | none =>
    rw [what] at told
    exact List.perm_nil.mp told
  | some result =>
    rw [what] at told
    exact List.perm_singleton.mp told

end Scene

end CertKeeper.Dispatch
