import CertKeeper.Proofs.Dispatch.Accounts

/-!
# What moves ask for

Which work is accepted and which results are announced by the moves that are made at an office, and
that the accounts are kept of exactly that.  Main statements: `Scene.balanced_steps` for all
callbacks and `Scene.Steps.told_settled` for one of them.
-/

namespace CertKeeper.Dispatch

variable {ω κ α β : Type}

namespace Move

def isShutdown : Move ω κ α → Bool
  | .shutdown _ => true
  | _ => false

def agreement? : Move ω κ α → Option (Agreement ω κ)
  | .dispatch label w callback _ => some ⟨label, w, callback⟩
  | _ => none

def announced? : Move ω κ α → Option (κ × Except Fault α)
  | .deliver _ callback result _ => some (callback, result)
  | _ => none

def callback? : Move ω κ α → Option κ
  | .dispatch _ _ callback _ | .deliver _ callback _ _ => some callback
  | _ => none

/-- Only the first `n` jobs are under way while `n` workers run. -/
def Within (workers : Int) (m : Move ω κ α) : Prop := ∀ k, m = .work k → (k : Int) < workers

def shut (moves : List (Move ω κ α)) : Bool := moves.any isShutdown

/-- The work that is asked for before the first shutdown. -/
def accepted (moves : List (Move ω κ α)) : List (Agreement ω κ) :=
  (moves.takeWhile (!·.isShutdown)).filterMap agreement?

def announced (moves : List (Move ω κ α)) : List (κ × Except Fault α) := moves.filterMap announced?

def answer (closed : Bool) (m : Move ω κ α) : Except Fault Unit :=
  if closed && m.agreement?.isSome then .error Office.shutDown else .ok ()

theorem accepted_append (moves more : List (Move ω κ α)) :
    accepted (moves ++ more) = accepted moves ++ if shut moves then [] else accepted more := by
  rw [accepted, accepted, shut]
  induction moves with
  | nil => rfl
  | cons first rest ih =>
    cases ended : first.isShutdown with
    | true => simp [ended]
    | false =>
      rw [List.cons_append, List.takeWhile_cons_of_pos (by rw [ended]; rfl),
        List.takeWhile_cons_of_pos (by rw [ended]; rfl), List.any_cons, ended, Bool.false_or,
        ← List.singleton_append, List.filterMap_append, ih, ← List.append_assoc,
        ← List.filterMap_append, List.singleton_append]

theorem accepted_singleton (m : Move ω κ α) : accepted [m] = m.agreement?.toList := by
  cases m <;> rfl

theorem announced_append (moves more : List (Move ω κ α)) :
    announced (moves ++ more) = announced moves ++ announced more := List.filterMap_append

theorem announced_singleton (m : Move ω κ α) : announced [m] = m.announced?.toList := by
  rw [announced, List.filterMap_cons]
  cases m.announced? <;> rfl

theorem shut_append (moves more : List (Move ω κ α)) :
    shut (moves ++ more) = (shut moves || shut more) := List.any_append

theorem callback_of_accepted {moves : List (Move ω κ α)} {a : Agreement ω κ}
    (h : a ∈ accepted moves) : ∃ m ∈ moves, m.callback? = some a.callback := by
  obtain ⟨m, inside, agreed⟩ := List.mem_filterMap.mp h
  refine ⟨m, (List.takeWhile_sublist _).subset inside, ?_⟩
  cases m with
  | dispatch label w callback home =>
    cases agreed
    rfl
  | deliver label callback result home => cases agreed
  | shutdown wait => cases agreed
  | work k => cases agreed
  | turn k => cases agreed

theorem callback_of_announced {moves : List (Move ω κ α)} {p : κ × Except Fault α}
    (h : p ∈ announced moves) : ∃ m ∈ moves, m.callback? = some p.1 := by
  obtain ⟨m, inside, brought⟩ := List.mem_filterMap.mp h
  refine ⟨m, inside, ?_⟩
  cases m with
  | deliver label callback result home =>
    cases brought
    rfl
  | dispatch label w callback home => cases brought
  | shutdown wait => cases brought
  | work k => cases brought
  | turn k => cases brought

theorem filter_accepted [DecidableEq κ] {moves : List (Move ω κ α)} {c : κ}
    (silent : ∀ m ∈ moves, m.callback? ≠ some c) :
    (accepted moves).filter (·.callback = c) = [] := by
  refine List.filter_eq_nil_iff.mpr fun a agreed => ?_
  obtain ⟨m, inside, brings⟩ := callback_of_accepted agreed
  have other : a.callback ≠ c := fun same => silent m inside (same ▸ brings)
  simpa using other

theorem filter_announced [DecidableEq κ] {moves : List (Move ω κ α)} {c : κ}
    (silent : ∀ m ∈ moves, m.callback? ≠ some c) :
    (announced moves).filter (·.1 = c) = [] := by
  refine List.filter_eq_nil_iff.mpr fun p brought => ?_
  obtain ⟨m, inside, brings⟩ := callback_of_announced brought
  have other : p.1 ≠ c := fun same => silent m inside (same ▸ brings)
  simpa using other

theorem answer_of_none {m : Move ω κ α} (h : m.agreement? = none) (closed : Bool) :
    m.answer closed = .ok () := by
  rw [answer, h, Option.isSome_none, Bool.and_false]
  rfl

end Move

namespace Scene

variable {note : ω → Except Fault α → List β} {s s' : Scene ω κ α β} {alone : Prop}
  {accepted : List (Agreement ω κ)} {announced : List (κ × Except Fault α)}
  {outcomes : List (Agreement ω κ × Except Fault α)}

theorem balanced_asked (h : Balanced note alone accepted announced outcomes s) (label : Text)
    (callback : κ) : Balanced note alone accepted announced outcomes (s.asked label callback) ∧
      (s.asked label callback).desk.Idle s.desk.shots.length callback := by
  obtain ⟨orderly, idle, waiting, due⟩ := h.orderly.register callback label
  exact ⟨⟨⟨orderly.nodup, orderly.untold⟩, waiting ▸ h.agreed, waiting ▸ h.ordered, h.noted,
    due ▸ h.paid⟩, idle.fresh, idle.untold⟩

theorem balanced_close (h : Balanced note alone accepted announced outcomes s) :
    Balanced note alone accepted announced outcomes s.close :=
  ⟨⟨h.orderly.nodup, h.orderly.untold⟩, h.agreed, h.ordered, h.noted, h.paid⟩

theorem balanced_enqueue (h : Balanced note alone accepted announced outcomes s) {j : Job ω}
    {callback : κ} (idle : s.desk.Idle j.shot callback) :
    Balanced note alone (accepted ++ [⟨j.label, j.work, callback⟩]) announced outcomes
      (s.enqueue j) := by
  have waiting : (s.enqueue j).desk.waiting = s.desk.waiting ++ [⟨j.label, j.work, callback⟩] := by
    have told : s.desk.callbackOf j.shot = some callback := idle.callbackOf
    rw [enqueue, Desk.waiting, Desk.enqueue, List.filterMap_append]
    congr 1
    change List.filterMap (fun j : Job ω =>
      (s.desk.callbackOf j.shot).map (Agreement.mk j.label j.work ·)) _ = _
    rw [List.filterMap_cons, told]
    rfl
  refine ⟨h.orderly.add idle rfl ?_, ?_, fun one => ?_, h.noted, h.paid⟩
  · simp only [enqueue, Desk.enqueue, Desk.pending, List.map_append, List.map_cons, List.map_nil,
      List.append_assoc]
    exact List.perm_middle
  · rw [waiting, ← List.append_assoc]
    exact h.agreed.append_right _
  · rw [waiting, ← List.append_assoc, h.ordered one]

theorem balanced_of_none {m : Move ω κ α} (work : m.agreement? = none)
    (result : m.announced? = none) (closed : Bool)
    (h : ∃ outcomes', Balanced note alone accepted announced outcomes' s') :
    ∃ outcomes', Balanced note alone (accepted ++ if closed then [] else m.agreement?.toList)
      (announced ++ m.announced?.toList) outcomes' s' := by
  rw [work, result, Option.toList_none, Option.toList_none, ite_self, List.append_nil,
    List.append_nil]
  exact h

/-- The accounts after every step are those before it and what the step adds. -/
theorem balanced_step {m : Move ω κ α} {out : Except Fault Unit} (step : Step note s m out s')
    (h : Balanced note alone accepted announced outcomes s)
    (first : alone → ∀ k, m = .work k → k = 0) :
    out = m.answer s.desk.closed ∧ s'.desk.closed = (s.desk.closed || m.isShutdown) ∧
      ∃ outcomes', Balanced note alone
        (accepted ++ if s.desk.closed then [] else m.agreement?.toList)
        (announced ++ m.announced?.toList) outcomes' s' := by
  cases step with
  | refused closed =>
    rw [Move.answer, closed]
    refine ⟨rfl, closed, outcomes, ?_⟩
    simp only [if_true, Move.announced?, Option.toList_none, List.append_nil]
    exact (balanced_asked h _ _).1
  | @accepted label work callback home id opened =>
    rw [Move.answer, opened]
    obtain ⟨balanced, idle⟩ := balanced_asked h label callback
    refine ⟨rfl, opened, outcomes, ?_⟩
    simp only [Bool.false_eq_true, if_false, Move.announced?, Option.toList_none, List.append_nil]
    exact balanced_enqueue (j := ⟨label, id, work, s.desk.shots.length, home⟩) balanced idle
  | delivered s' passed =>
    obtain ⟨orderly, idle, waiting, due⟩ := h.orderly.register _ _
    obtain ⟨orderly', waiting', noted, closed, told⟩ := passed.told orderly idle
    have same := waiting'.trans waiting
    refine ⟨(Move.answer_of_none rfl _).symm, closed.trans (Bool.or_false _).symm, outcomes, ?_⟩
    simp only [Move.agreement?, Option.toList_none, ite_self, List.append_nil]
    refine ⟨orderly', same ▸ h.agreed, same ▸ h.ordered, noted.trans h.noted, told.trans ?_⟩
    rw [due, ← List.append_assoc]
    exact (h.paid.cons _).trans (List.perm_append_singleton _ _).symm
  | closed =>
    exact ⟨(Move.answer_of_none rfl _).symm, (Bool.or_true _).symm,
      balanced_of_none rfl rfl _ ⟨outcomes, balanced_close h⟩⟩
  | drained s' done =>
    obtain ⟨closed, balanced⟩ := balanced_drains done (balanced_close h)
    exact ⟨(Move.answer_of_none rfl _).symm, closed.trans (Bool.or_true _).symm,
      balanced_of_none rfl rfl _ balanced⟩
  | idle empty | quiet empty =>
    exact ⟨(Move.answer_of_none rfl _).symm, (Bool.or_false _).symm,
      balanced_of_none rfl rfl _ ⟨outcomes, h⟩⟩
  | worked s' did =>
    obtain ⟨closed, balanced⟩ := balanced_works h did fun one => first one _ rfl
    exact ⟨(Move.answer_of_none rfl _).symm, closed.trans (Bool.or_false _).symm,
      balanced_of_none rfl rfl _ balanced⟩
  | turned s' told =>
    obtain ⟨closed, balanced⟩ := balanced_turns h told
    exact ⟨(Move.answer_of_none rfl _).symm, closed.trans (Bool.or_false _).symm,
      balanced_of_none rfl rfl _ ⟨outcomes, balanced⟩⟩

inductive Steps (note : ω → Except Fault α → List β) (s : Scene ω κ α β) :
    List (Move ω κ α) → Scene ω κ α β → Prop
  | begun : Steps note s [] s
  | next {moves : List (Move ω κ α)} {m : Move ω κ α} {out : Except Fault Unit}
      {s' s'' : Scene ω κ α β} (reached : Steps note s moves s') (step : Step note s' m out s'') :
      Steps note s (moves ++ [m]) s''

theorem Steps.append {moves more : List (Move ω κ α)} {s'' : Scene ω κ α β}
    (h : Steps note s moves s') (h' : Steps note s' more s'') :
    Steps note s (moves ++ more) s'' := by
  induction h' with
  | begun => exact (List.append_nil moves).symm ▸ h
  | next reached step ih => exact (List.append_assoc _ _ _) ▸ .next ih step

theorem balanced_steps {moves : List (Move ω κ α)}
    (steps : Steps note ⟨Desk.empty, [], []⟩ moves s)
    (first : alone → ∀ m ∈ moves, ∀ k, m = .work k → k = 0) :
    s.desk.closed = Move.shut moves ∧
      ∃ outcomes, s.Balanced note alone (Move.accepted moves) (Move.announced moves) outcomes := by
  -- The shutdowns so far decide what the next move adds to what was accepted.
  induction steps with
  | begun =>
    refine ⟨rfl, [], ⟨List.nodup_nil, ?_⟩, List.Perm.nil, fun _ => rfl, rfl, List.Perm.nil⟩
    intro shot impossible
    cases impossible
  | next reached step ih =>
    obtain ⟨closed, outcomes, balanced⟩ :=
      ih fun one m' inside => first one m' (List.mem_append_left _ inside)
    obtain ⟨_, closed', balanced'⟩ := balanced_step step balanced
      fun one => first one _ (List.mem_append_right _ List.mem_cons_self)
    rw [Move.accepted_append, Move.accepted_singleton, Move.announced_append,
      Move.announced_singleton, Move.shut_append]
    rw [closed] at closed' balanced'
    refine ⟨closed'.trans ?_, balanced'⟩
    rw [Move.shut, Move.shut, List.any_cons, List.any_nil, Bool.or_false]

/-! ### One callback -/

variable [DecidableEq κ] {c : κ} {moves others : List (Move ω κ α)} {m : Move ω κ α}

/-- A callback that is brought once, with a result, is told that result, and no work is done for
it. -/
theorem Steps.told_announced (steps : Steps note ⟨Desk.empty, [], []⟩ (moves ++ ([m] ++ others)) s)
    (silent : ∀ m' ∈ moves, m'.callback? ≠ some c) (silent' : ∀ m' ∈ others, m'.callback? ≠ some c)
    {result : Except Fault α} (work : m.agreement? = none)
    (brought : m.announced? = some (c, result)) :
    s.desk.waiting.filter (·.callback = c) = [] ∧ (s.told.filter (·.1 = c)).length ≤ 1 ∧
      (s.desk.scheduled = [] → s.told.filter (·.1 = c) = [(c, result)]) := by
  obtain ⟨_, outcomes, balanced⟩ := balanced_steps steps fun no : False => no.elim
  have unasked : (Move.accepted (moves ++ ([m] ++ others))).filter (·.callback = c) = [] := by
    rw [Move.accepted_append, Move.accepted_append, Move.accepted_singleton, work,
      Option.toList_none, List.nil_append, List.filter_append, Move.filter_accepted silent,
      List.nil_append]
    split
    · rfl
    · split
      · rfl
      · exact Move.filter_accepted silent'
  have mine : (Move.announced (moves ++ ([m] ++ others))).filter (·.1 = c) = [(c, result)] := by
    rw [Move.announced_append, Move.announced_append, Move.announced_singleton, brought,
      List.filter_append, List.filter_append, Move.filter_announced silent,
      Move.filter_announced silent', List.append_nil, List.nil_append, Option.toList_some,
      List.filter_cons_of_pos (by rw [decide_eq_true_iff]), List.filter_nil]
  obtain ⟨waiting, told⟩ := balanced.told_announced unasked
  rw [mine] at told
  have one := List.perm_singleton.mp told
  refine ⟨waiting, ?_, fun scheduled => ?_⟩
  · have size := congrArg List.length one
    rw [List.length_append, List.length_singleton] at size
    omega
  · have due : s.desk.due = [] := by rw [Desk.due, scheduled, List.filterMap_nil]
    rwa [due, List.filter_nil, List.append_nil] at one

/-- A callback that is brought once, with work before any shutdown, is told what that work came
to, or nothing where there is nothing to tell. -/
theorem Steps.told_settled (steps : Steps note ⟨Desk.empty, [], []⟩ (moves ++ ([m] ++ others)) s)
    (silent : ∀ m' ∈ moves, m'.callback? ≠ some c) (silent' : ∀ m' ∈ others, m'.callback? ≠ some c)
    {a : Agreement ω κ} (opened : Move.shut moves = false) (stays : m.isShutdown = false)
    (work : m.agreement? = some a) (waits : a.callback = c) (unannounced : m.announced? = none) :
    (s.told.filter (·.1 = c)).length ≤ 1 ∧ (s.desk.queue = [] → s.desk.scheduled = [] →
      ∃ outcome, (∀ b ∈ note a.work outcome, b ∈ s.noted) ∧
        s.told.filter (·.1 = c) = ((settled a.label outcome).map (c, ·)).toList) := by
  obtain ⟨_, outcomes, balanced⟩ := balanced_steps steps fun no : False => no.elim
  have goes : Move.shut [m] = false := by rw [Move.shut, List.any_cons, stays, List.any_nil]; rfl
  suffices told : (s.told.filter (·.1 = c)).length ≤ 1 ∧ (s.desk.queue = [] →
      s.desk.scheduled = [] → ∃ outcome, (a, outcome) ∈ outcomes ∧
        s.told.filter (·.1 = c) = ((settled a.label outcome).map (c, ·)).toList) by
    refine told.imp_right fun atRest queue scheduled => ?_
    obtain ⟨outcome, member, told⟩ := atRest queue scheduled
    refine ⟨outcome, fun b hb => ?_, told⟩
    rw [balanced.noted]
    exact List.mem_flatMap_of_mem member hb
  refine balanced.told_settled ?_ ?_
  · rw [Move.accepted_append, opened, if_neg Bool.false_ne_true, Move.accepted_append, goes,
      if_neg Bool.false_ne_true, Move.accepted_singleton, work, List.filter_append,
      List.filter_append, Move.filter_accepted silent, Move.filter_accepted silent',
      List.append_nil, List.nil_append, Option.toList_some,
      List.filter_cons_of_pos (by rw [decide_eq_true_iff, waits]), List.filter_nil]
  · rw [Move.announced_append, Move.announced_append, Move.announced_singleton, unannounced,
      Option.toList_none, List.nil_append, List.filter_append, Move.filter_announced silent,
      Move.filter_announced silent', List.append_nil]

/-- A callback that is never brought is never told, and no work is done for it. -/
theorem Steps.untold_of_silent (steps : Steps note ⟨Desk.empty, [], []⟩ moves s)
    (silent : ∀ m ∈ moves, m.callback? ≠ some c) :
    s.desk.waiting.filter (·.callback = c) = [] ∧ s.told.filter (·.1 = c) = [] := by
  obtain ⟨_, outcomes, balanced⟩ := balanced_steps steps fun no : False => no.elim
  obtain ⟨waiting, told⟩ := balanced.told_announced (Move.filter_accepted silent)
  rw [Move.filter_announced silent] at told
  exact ⟨waiting, (List.append_eq_nil_iff.mp (List.perm_nil.mp told)).1⟩

/-- A callback that is brought once, with work after a shutdown, is never told, and no work is done
for it. -/
theorem Steps.untold (steps : Steps note ⟨Desk.empty, [], []⟩ (moves ++ ([m] ++ others)) s)
    (silent : ∀ m' ∈ moves, m'.callback? ≠ some c) (silent' : ∀ m' ∈ others, m'.callback? ≠ some c)
    (shut : Move.shut moves = true) (unannounced : m.announced? = none) :
    s.desk.waiting.filter (·.callback = c) = [] ∧ s.told.filter (·.1 = c) = [] := by
  obtain ⟨_, outcomes, balanced⟩ := balanced_steps steps fun no : False => no.elim
  have unasked : (Move.accepted (moves ++ ([m] ++ others))).filter (·.callback = c) = [] := by
    rw [Move.accepted_append, shut, if_pos rfl, List.append_nil, Move.filter_accepted silent]
  obtain ⟨waiting, told⟩ := balanced.told_announced unasked
  rw [Move.announced_append, Move.announced_append, Move.announced_singleton, unannounced,
    Option.toList_none, List.nil_append, List.filter_append, Move.filter_announced silent,
    Move.filter_announced silent', List.append_nil] at told
  exact ⟨waiting, (List.append_eq_nil_iff.mp (List.perm_nil.mp told)).1⟩

end Scene

end CertKeeper.Dispatch
