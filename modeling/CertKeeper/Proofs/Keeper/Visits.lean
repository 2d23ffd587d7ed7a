import CertKeeper.Proofs.Dispatch.Delivery
import CertKeeper.Proofs.Keeper.Outcome
import CertKeeper.Proofs.Keeper.Part
import CertKeeper.Proofs.Laws
import CertKeeper.Store.Scripted

/-!
# Requests at the service

Whatever a store, a prompt and callbacks do, the callback of a request is told at most once, and
exactly once unless a foreign fault does not print.  Main statement: `Service.told_once`.
-/

namespace CertKeeper

open Dispatch

variable {σ κ : Type}

/-! ### Visits -/

inductive Errand where
  | obtain
  | remove
deriving DecidableEq, Repr

namespace Errand

def request : Errand → Text → Request
  | .obtain, name => .obtain name
  | .remove, name => .remove name

def ask {W : Type} (s : Service W κ) (name : Value) (callback : Option κ) (home : Home) :
    Errand → Action W Unit
  | .obtain => s.obtain name callback home
  | .remove => s.remove name callback home

end Errand

inductive Visit (κ : Type) where
  | ask (errand : Errand) (name : Value) (callback : Option κ) (home : Home)
  | close (wait : Bool)
  | work (k : Nat)
  | turn (k : Nat)

/-- The office of a service in a world that remembers what work came to. -/
def Service.watched (s : Service (Hall σ Request κ (Option Entry)) κ) :
    Office (Hall σ Request κ (Option Entry)) Request κ (Option Entry) :=
  { s.office with
    perform := fun request => do
      let outcome ← Action.attempt (s.office.perform request)
      Action.change fun h => { h with worked := h.worked ++ [(request, outcome)] }
      Action.ofExcept outcome }

namespace Visit

def perform (s : Service (Hall σ Request κ (Option Entry)) κ) :
    Visit κ → Action (Hall σ Request κ (Option Entry)) Unit
  | .ask errand name callback home => errand.ask s name callback home
  | .close wait => s.watched.shutdown wait
  | .work k => (Move.work k).perform s.watched
  | .turn k => (Move.turn k).perform s.watched

def callback? : Visit κ → Option κ
  | .ask _ _ callback _ => callback
  | _ => none

def isClose : Visit κ → Bool
  | .close _ => true
  | _ => false

end Visit

namespace Service

def after (s : Service (Hall σ Request κ (Option Entry)) κ) (visits : List (Visit κ))
    (r : Run (Hall σ Request κ (Option Entry))) : Run (Hall σ Request κ (Option Entry)) :=
  visits.foldl (fun r v => ((v.perform s).start r).2) r

/-- A keeper's service in a world that remembers what callbacks are told.  Store, prompt and
callbacks do what they like to the rest of that world. -/
def serving (k : Keeper σ)
    (notify : κ → Place → Except Fault (Option Entry) → Action σ Unit) :
    Service (Hall σ Request κ (Option Entry)) κ :=
  ⟨k.on Hall.restPart, Hall.deskPart, Hall.tell notify⟩

def view (h : Hall σ Request κ (Option Entry)) :
    Scene Request κ (Option Entry) (Request × Except Fault (Option Entry)) :=
  ⟨h.desk, h.told, h.worked⟩

def note (request : Request) (outcome : Except Fault (Option Entry)) :
    List (Request × Except Fault (Option Entry)) := [(request, outcome)]

theorem lawful_restPart {ω α : Type} : (Hall.restPart : Action.Part (Hall σ ω κ α) σ).Lawful :=
  ⟨fun _ _ => rfl, fun _ => rfl, fun _ _ _ => rfl⟩

variable (k : Keeper σ) (notify : κ → Place → Except Fault (Option Entry) → Action σ Unit)

theorem shows_watched : (serving k notify).watched.Shows note view := by
  refine ⟨fun h => rfl, fun d h => rfl, fun request r => ?_, fun callback place result r => rfl⟩
  have same : (serving k notify).office.perform request = (request.perform k).on Hall.restPart :=
    Keeper.perform_on lawful_restPart k request
  simp only [watched, same, Action.start_bind, Action.start_attempt, Action.start_change,
    Action.start_ofExcept, Action.start_on]
  rfl

/-! ### The moves of a visit -/

def unlocking (r : Run (Hall σ Request κ (Option Entry))) : Except Fault Unit × Run σ :=
  k.ensureUnlocked.start ⟨r.state.rest, r.journal, r.operation⟩

def unlocked (r : Run (Hall σ Request κ (Option Entry))) : Run (Hall σ Request κ (Option Entry)) :=
  let left := (unlocking k r).2
  ⟨{ r.state with rest := left.state }, left.journal, left.operation⟩

variable {k notify} {r : Run (Hall σ Request κ (Option Entry))} {name : Value} {t : Text}
  {callback : Option κ} {c : κ} {home : Home} {errand : Errand}

theorem start_attempt_ensureUnlocked :
    (Action.attempt (serving k notify).keeper.ensureUnlocked).start r =
      (.ok (unlocking k r).1, unlocked k r) := by
  change (Action.attempt (k.on Hall.restPart).ensureUnlocked).start r = _
  rw [Keeper.ensureUnlocked_on lawful_restPart, Action.start_attempt, Action.start_on]
  rfl

theorem start_reportRefusal {W : Type} (label : Text) (e : Fault) (r : Run W) : ∃ journal,
    (reportRefusal label e).start r = (.ok (), ⟨r.state, journal, r.operation⟩) := by
  rw [reportRefusal]
  split <;> exact ⟨_, Action.start_log _ _ _⟩

theorem callback_of_checkRequest (checked : checkRequest name callback = .ok (t, c)) :
    callback = some c := by
  rw [checkRequest] at checked
  cases named : Identity.check name with
  | error e =>
    rw [named] at checked
    cases checked
  | ok t' =>
    rw [named] at checked
    cases callback with
    | none => cases checked
    | some c' =>
      cases checked
      rfl

theorem start_ask {W : Type} (s : Service W κ) (r : Run W) :
    (errand.ask s name callback home).start r = match checkRequest name callback with
      | .ok p => (s.submit (errand.request p.1) p.2 home).start r
      | .error e => (.error e, r) := by
  have asked : errand.ask s name callback home =
      Action.ofExcept (checkRequest name callback) >>= fun p =>
        s.submit (errand.request p.1) p.2 home := by cases errand <;> rfl
  rw [asked, Action.start_bind, Action.start_ofExcept]
  cases checkRequest name callback <;> rfl

/-- A fault that is told as a foreign one and cannot be spelled. -/
def Unspoken (e : Fault) : Prop :=
  e.failure.lifecycle? ≠ some .authDenied ∧ e.failure.lifecycle? ≠ some .storeUnavailable ∧
    ¬ e.HasValue

/-- A fault of a store that could not be unlocked, and what the callback is told. -/
def Refused (e f : Fault) : Prop :=
  if e.failure.lifecycle? = some .authDenied ∨ e.failure.lifecycle? = some .storeUnavailable
  then f = e
  else f.failure.lifecycle? = some .storeUnavailable ∧ f.causes = e.failure :: e.causes

theorem refusal_of_spoken {e : Fault} (spoken : ¬ Unspoken e) :
    ∃ f, refusal e = .ok f ∧ Refused e f := by
  rw [refusal]
  split
  · next known => exact ⟨e, rfl, by rw [Refused, if_pos (.inl known)]⟩
  · next known => exact ⟨e, rfl, by rw [Refused, if_pos (.inr known)]⟩
  · next unknown unknown' =>
    have value : e.HasValue := by_contra fun no => spoken ⟨unknown, unknown', no⟩
    rw [value.asValue]
    refine ⟨_, rfl, ?_⟩
    rw [Refused, if_neg fun known => known.elim unknown unknown']
    exact ⟨rfl, rfl⟩

theorem refusal_of_unspoken {e : Fault} (unspoken : Unspoken e) :
    ∃ kind m, refusal e = .error (Fault.plain kind m) := by
  obtain ⟨unknown, unknown', value⟩ := unspoken
  obtain ⟨kind, m, thrown⟩ := e.asValue_cases.resolve_left value
  rw [refusal]
  split
  · next known => exact absurd known unknown
  · next known => exact absurd known unknown'
  · rw [thrown]
    exact ⟨kind, m, rfl⟩

theorem lifecycle_of_refused {e f : Fault} (h : Refused e f) :
    f.failure.lifecycle?.isSome = true := by
  rw [Refused] at h
  split at h
  · next known =>
    subst h
    cases known with
    | inl known => rw [known]; rfl
    | inr known => rw [known]; rfl
  · rw [h.1]
    rfl

variable (notify home errand) in
theorem ask_refused (checked : checkRequest name callback = .ok (t, c)) {e f : Fault}
    (refused : (unlocking k r).1 = .error e) (told : refusal e = .ok f) : ∃ journal,
    (errand.ask (serving k notify) name callback home).start r =
      ((Move.deliver (errand.request t).label c (.error f) home).perform
        (serving k notify).watched).start
          ⟨(unlocked k r).state, journal, (unlocked k r).operation⟩ := by
  rw [start_ask, checked]
  dsimp only
  rw [submit, Action.start_bind, start_attempt_ensureUnlocked, refused]
  dsimp only
  obtain ⟨journal, reported⟩ := start_reportRefusal (errand.request t).label e (unlocked k r)
  rw [Action.start_bind, reported, told]
  exact ⟨journal, rfl⟩

variable (notify home errand) in
theorem ask_unspoken (checked : checkRequest name callback = .ok (t, c)) {e f : Fault}
    (refused : (unlocking k r).1 = .error e) (thrown : refusal e = .error f) : ∃ journal,
    (errand.ask (serving k notify) name callback home).start r =
      (.error f, ⟨(unlocked k r).state, journal, (unlocked k r).operation⟩) := by
  rw [start_ask, checked]
  dsimp only
  rw [submit, Action.start_bind, start_attempt_ensureUnlocked, refused]
  dsimp only
  obtain ⟨journal, reported⟩ := start_reportRefusal (errand.request t).label e (unlocked k r)
  rw [Action.start_bind, reported, thrown]
  exact ⟨journal, rfl⟩

variable (notify home errand) in
theorem ask_unlocked (checked : checkRequest name callback = .ok (t, c)) {u : Unit}
    (free : (unlocking k r).1 = .ok u) :
    (errand.ask (serving k notify) name callback home).start r =
      ((Move.dispatch (errand.request t).label (errand.request t) c home).perform
        (serving k notify).watched).start (unlocked k r) := by
  rw [start_ask, checked]
  dsimp only
  rw [submit, Action.start_bind, start_attempt_ensureUnlocked, free]
  rfl

/-- Moves that some visits come to: they bring no callback of their own, they close the service
where a visit does, and they announce no foreign faults. -/
structure Comes (visits : List (Visit κ)) (moves : List (Move Request κ (Option Entry))) :
    Prop where
  callback : ∀ m ∈ moves, ∀ c, m.callback? = some c → ∃ v ∈ visits, v.callback? = some c
  shut : Move.shut moves = visits.any Visit.isClose
  known : ∀ c e, (c, .error e) ∈ Move.announced moves → e.failure.lifecycle?.isSome = true

theorem comes_nil {visits : List (Visit κ)} (stays : visits.any Visit.isClose = false) :
    Comes visits [] := by
  refine ⟨fun m impossible => ?_, stays.symm, fun c e impossible => ?_⟩
  · cases impossible
  · cases impossible

theorem comes_singleton {v : Visit κ} {m : Move Request κ (Option Entry)}
    (brings : ∀ c, m.callback? = some c → v.callback? = some c)
    (closes : m.isShutdown = v.isClose)
    (known : ∀ c e, m.announced? = some (c, .error e) → e.failure.lifecycle?.isSome = true) :
    Comes [v] [m] := by
  refine ⟨fun m' inside c mine => ?_, ?_, fun c e inside => ?_⟩
  · rw [List.mem_singleton.mp inside] at mine
    exact ⟨v, List.mem_singleton_self v, brings c mine⟩
  · rw [Move.shut, List.any_cons, List.any_cons, closes, List.any_nil, List.any_nil]
  · rw [Move.announced_singleton] at inside
    exact known c e (Option.mem_toList.mp inside)

theorem Comes.append {visits more : List (Visit κ)}
    {moves others : List (Move Request κ (Option Entry))} (h : Comes visits moves)
    (h' : Comes more others) : Comes (visits ++ more) (moves ++ others) := by
  refine ⟨fun m inside c brings => ?_, ?_, fun c e inside => ?_⟩
  · cases List.mem_append.mp inside with
    | inl first =>
      obtain ⟨v, visited, brings⟩ := h.callback m first c brings
      exact ⟨v, List.mem_append_left _ visited, brings⟩
    | inr later =>
      obtain ⟨v, visited, brings⟩ := h'.callback m later c brings
      exact ⟨v, List.mem_append_right _ visited, brings⟩
  · rw [Move.shut_append, h.shut, h'.shut, List.any_append]
  · rw [Move.announced_append] at inside
    cases List.mem_append.mp inside with
    | inl first => exact h.known c e first
    | inr later => exact h'.known c e later

theorem steps_move (m : Move Request κ (Option Entry))
    {r r' : Run (Hall σ Request κ (Option Entry))} (same : view r'.state = view r.state) :
    (view r.state).Steps note [m]
      (view ((m.perform (serving k notify).watched).start r').2.state) := by
  have step := (shows_watched k notify).leads_perform m r' rfl
  rw [same] at step
  exact .next .begun step

variable (k notify home errand) in
theorem steps_ask (r : Run (Hall σ Request κ (Option Entry))) : ∃ moves,
    (view r.state).Steps note moves
        (view
          (((Visit.ask errand name callback home).perform (serving k notify)).start r).2.state) ∧
      Comes [Visit.ask errand name callback home] moves := by
  cases checked : checkRequest name callback with
  | error e =>
    rw [Visit.perform, start_ask, checked]
    exact ⟨[], .begun, comes_nil rfl⟩
  | ok p =>
    obtain ⟨t, c⟩ := p
    have given : callback = some c := callback_of_checkRequest checked
    cases outcome : (unlocking k r).1 with
    | error e =>
      by_cases spoken : Unspoken e
      · obtain ⟨kind, m, thrown⟩ := refusal_of_unspoken spoken
        obtain ⟨journal, same⟩ := ask_unspoken notify home errand checked outcome thrown
        rw [Visit.perform, same]
        exact ⟨[], .begun, comes_nil rfl⟩
      obtain ⟨f, told, why⟩ := refusal_of_spoken spoken
      obtain ⟨journal, same⟩ := ask_refused notify home errand checked outcome told
      refine ⟨[.deliver (errand.request t).label c (.error f) home], ?_,
        comes_singleton (fun c' brings => given.trans brings) rfl fun c' f' announced => ?_⟩
      · rw [Visit.perform, same]
        exact steps_move _ rfl
      · cases announced
        exact lifecycle_of_refused why
    | ok u =>
      refine ⟨[.dispatch (errand.request t).label (errand.request t) c home], ?_,
        comes_singleton (fun c' brings => given.trans brings) rfl fun c' f impossible => ?_⟩
      · rw [Visit.perform, ask_unlocked notify home errand checked outcome]
        exact steps_move _ rfl
      · cases impossible

variable (k notify) in
theorem steps_visit (v : Visit κ) (r : Run (Hall σ Request κ (Option Entry))) : ∃ moves,
    (view r.state).Steps note moves (view ((v.perform (serving k notify)).start r).2.state) ∧
      Comes [v] moves := by
  have plain : ∀ m : Move Request κ (Option Entry), v.perform (serving k notify) =
      m.perform (serving k notify).watched → m.callback? = none → m.announced? = none →
      m.isShutdown = v.isClose →
      ∃ moves, (view r.state).Steps note moves
        (view ((v.perform (serving k notify)).start r).2.state) ∧ Comes [v] moves := by
    intro m same silent unannounced closes
    refine ⟨[m], same ▸ steps_move m rfl,
      comes_singleton (fun c brings => ?_) closes fun c e announced => ?_⟩
    · cases silent.symm.trans brings
    · cases unannounced.symm.trans announced
  cases v with
  | close wait => exact plain (.shutdown wait) rfl rfl rfl rfl
  | work k => exact plain (.work k) rfl rfl rfl rfl
  | turn k => exact plain (.turn k) rfl rfl rfl rfl
  | ask errand name callback home => exact steps_ask k notify home errand r

variable (k notify) in
theorem steps_after (visits : List (Visit κ)) (r : Run (Hall σ Request κ (Option Entry))) :
    ∃ moves, (view r.state).Steps note moves (view ((serving k notify).after visits r).state) ∧
      Comes visits moves := by
  induction visits generalizing r with
  | nil => exact ⟨[], .begun, comes_nil rfl⟩
  | cons v rest ih =>
    obtain ⟨moves, steps, comes⟩ := steps_visit k notify v r
    obtain ⟨others, steps', comes'⟩ := ih ((v.perform (serving k notify)).start r).2
    exact ⟨moves ++ others, steps.append steps', comes.append comes'⟩

/-! ### The world of a visit -/

theorem rest_deliver_later {result : Except Fault (Option Entry)} (looped : home ≠ .plain)
    (label : Text) (r : Run (Hall σ Request κ (Option Entry))) :
    (((serving k notify).watched.deliver label c result home).start r).2.state.rest =
      r.state.rest := by
  cases home with
  | plain => exact absurd rfl looped
  | loop => rfl
  | closedLoop => rfl

theorem rest_deliver_atOnce {result : Except Fault (Option Entry)} (label : Text)
    (r : Run (Hall σ Request κ (Option Entry))) :
    (((serving k notify).watched.deliver label c result .plain).start r).2.state.rest =
      ((notify c .caller result).start ⟨r.state.rest, r.journal, r.operation⟩).2.state := by
  have new : (r.state.desk.shots ++ [⟨c, label, false⟩])[r.state.desk.shots.length]? =
      some ⟨c, label, false⟩ := List.getElem?_concat_length
  rw [Office.deliver, Action.start_bind, Office.onDesk, Action.start_take]
  simp only [Desk.register]
  rw [Office.fire, Action.start_bind, Action.start_read]
  simp only [watched, office, serving, Hall.deskPart, new, Bool.false_eq_true, if_false]
  rw [Action.start_bind, Office.changeDesk, Action.start_change]
  simp only
  rw [Action.start_bind, Action.start_attempt, Hall.tell, Action.start_bind, Action.start_change]
  simp only [Action.start_on, Hall.restPart]
  split <;> rfl

theorem rest_dispatch (label : Text) (request : Request)
    (r : Run (Hall σ Request κ (Option Entry))) :
    (((serving k notify).watched.dispatch label request c home).start r).2.state.rest =
      r.state.rest := by
  rw [Office.dispatch, Action.start_bind, Office.onDesk, Action.start_take]
  simp only
  rw [Action.start_bind, Office.onDesk, Action.start_take]
  simp only
  rw [Action.start_bind, Action.start_read]
  simp only
  split <;> rfl

/-! ### Told once -/

theorem view_start {workers : Int} (positive : 0 < workers)
    (r : Run (Hall σ Request κ (Option Entry))) (unworked : r.state.worked = [])
    (untold : r.state.told = []) :
    view (((serving k notify).start workers).start r).2.state = ⟨Desk.empty, [], []⟩ := by
  have opened : view (((serving k notify).office.start workers).start r).2.state = _ :=
    (shows_watched k notify).opened positive r
  rw [start, Action.start_bind]
  cases begun : ((serving k notify).office.start workers).start r with
  | mk out r' =>
    rw [begun] at opened
    have empty : view r'.state = ⟨Desk.empty, [], []⟩ := by
      rw [opened, view, untold, unworked]
    cases out with
    | error e => exact empty
    | ok u => exact empty

theorem after_replicate {s : Service (Hall σ Request κ (Option Entry)) κ} {v : Visit κ}
    {m : Move Request κ (Option Entry)} (same : v.perform s = m.perform s.watched) (n : Nat)
    (r : Run (Hall σ Request κ (Option Entry))) :
    s.after (List.replicate n v) r = s.watched.after (List.replicate n m) r := by
  induction n generalizing r with
  | zero => rfl
  | succ n ih =>
    refine (ih _).trans ?_
    change s.watched.after _ ((v.perform s).start r).2
      = s.watched.after _ ((m.perform s.watched).start r).2
    rw [same]

theorem comes_to_rest (visits : List (Visit κ)) (r : Run (Hall σ Request κ (Option Entry))) :
    ∃ works turns : Nat,
      let more := List.replicate works (.work 0) ++ List.replicate turns (.turn 0)
      ((serving k notify).after (visits ++ more) r).state.desk.queue = [] ∧
      ((serving k notify).after (visits ++ more) r).state.desk.scheduled = [] := by
  obtain ⟨works, turns, queue, scheduled⟩ :=
    (shows_watched k notify).comes_to_rest ((serving k notify).after visits r)
  have same : (serving k notify).after (visits ++
      (List.replicate works (.work 0) ++ List.replicate turns (.turn 0))) r =
      (serving k notify).watched.after (List.replicate works (.work 0) ++
        List.replicate turns (.turn 0)) ((serving k notify).after visits r) := by
    rw [Office.after, List.foldl_append]
    change _ = (serving k notify).watched.after (List.replicate turns (.turn 0))
      ((serving k notify).watched.after (List.replicate works (.work 0)) _)
    rw [← after_replicate (v := .work 0) (m := .work 0) rfl,
      ← after_replicate (v := .turn 0) (m := .turn 0) rfl, after,
      List.foldl_append, List.foldl_append]
    rfl
  refine ⟨works, turns, ?_, ?_⟩
  · rw [same]
    exact queue
  · rw [same]
    exact scheduled

theorem Comes.silent {visits more : List (Visit κ)} {moves : List (Move Request κ (Option Entry))}
    (h : Comes visits moves) (within : ∀ v ∈ visits, v ∈ more)
    (fresh : ∀ v ∈ more, v.callback? ≠ some c) : ∀ m ∈ moves, m.callback? ≠ some c := by
  intro m inside brings
  obtain ⟨v, visited, mine⟩ := h.callback m inside c brings
  exact fresh v (within v visited) mine

/-- What is asked between visits makes one move or none of a run of the desk, in which nobody else
brings the callback. -/
theorem steps_around {workers : Int} (positive : 0 < workers) (before later : List (Visit κ))
    (fresh : ∀ v ∈ before ++ later, v.callback? ≠ some c)
    (r : Run (Hall σ Request κ (Option Entry))) (unworked : r.state.worked = [])
    (untold : r.state.told = [])
    (asked : Except Fault Unit × Run (Hall σ Request κ (Option Entry))) :
    let s := serving k notify
    let here := s.after before ((s.start workers).start r).2
    ∃ moves others : List (Move Request κ (Option Entry)),
      (∀ m ∈ moves, m.callback? ≠ some c) ∧ (∀ m ∈ others, m.callback? ≠ some c) ∧
      Move.shut moves = before.any Visit.isClose ∧
      here.state.desk.closed = before.any Visit.isClose ∧
      (view asked.2.state = view here.state → Scene.Steps note ⟨Desk.empty, [], []⟩
        (moves ++ others) (view (s.after later asked.2).state)) ∧
      ∀ (m : Move Request κ (Option Entry)) (r' : Run (Hall σ Request κ (Option Entry))),
        view r'.state = view here.state → asked = (m.perform s.watched).start r' →
        Scene.Step note (view here.state) m asked.1 (view asked.2.state) ∧
          Scene.Steps note ⟨Desk.empty, [], []⟩ (moves ++ ([m] ++ others))
            (view (s.after later asked.2).state) := by
  intro s here
  obtain ⟨moves, steps, comes⟩ := steps_after k notify before ((s.start workers).start r).2
  obtain ⟨others, steps', comes'⟩ := steps_after k notify later asked.2
  rw [view_start positive r unworked untold] at steps
  have closed : here.state.desk.closed = Move.shut moves :=
    (Scene.balanced_steps steps fun no : False => no.elim).1
  refine ⟨moves, others, comes.silent (fun _ => List.mem_append_left _) fresh,
    comes'.silent (fun _ => List.mem_append_right _) fresh, comes.shut, closed.trans comes.shut,
    fun same => steps.append (same ▸ steps'), fun m r' same does => ?_⟩
  have step := (shows_watched k notify).leads_perform m r' rfl
  rw [same] at step
  have made : Scene.Step note (view here.state) m asked.1 (view asked.2.state) := does ▸ step
  exact ⟨made, steps.append ((Scene.Steps.begun.next made).append steps')⟩

theorem told_of_settled [DecidableEq κ] {told : List (κ × Except Fault (Option Entry))}
    {label : Text} {outcome : Except Fault (Option Entry)}
    (mine : told.filter (·.1 = c) = ((settled label outcome).map (c, ·)).toList) :
    ((told.filter (·.1 = c)).length = 1 ↔ Speaks outcome) ∧
      ∀ e, (c, .error e) ∈ told → e.failure.lifecycle?.isSome = true := by
  refine ⟨?_, fun e member => ?_⟩
  · rw [← isSome_settled label, mine]
    cases settled label outcome with
    | none => exact iff_of_false Nat.zero_ne_one Bool.false_ne_true
    | some result => exact iff_of_true rfl rfl
  · have member : (c, .error e) ∈ told.filter (·.1 = c) :=
      List.mem_filter.mpr ⟨member, decide_eq_true rfl⟩
    rw [mine, Option.mem_toList, Option.map_eq_some_iff] at member
    obtain ⟨result, tells, same⟩ := member
    obtain rfl := (Prod.mk.inj same).2
    exact lifecycle_of_settled tells

/-- What becomes of a request that is made at a point of a run: how the request itself ends, and
what the callback has been told at a later point.  `closed` tells whether the service was closed
before. -/
structure Told [DecidableEq κ] (k : Keeper σ)
    (notify : κ → Place → Except Fault (Option Entry) → Action σ Unit) (request : Request) (c : κ)
    (home : Home) (closed : Bool) (here : Run (Hall σ Request κ (Option Entry)))
    (asked : Except Fault Unit × Run (Hall σ Request κ (Option Entry)))
    (reached : Hall σ Request κ (Option Entry)) : Prop where
  /-- Where the store cannot be unlocked nothing is done, and the callback is told why. -/
  refused : ∀ e, (unlocking k here).1 = .error e → ¬ Unspoken e → ∃ f, Refused e f ∧
    asked.1 = .ok () ∧ asked.2.state.desk.queue = here.state.desk.queue ∧
    (home ≠ .plain → asked.2.state.rest = (unlocking k here).2.state) ∧
    (home = .plain → ∃ journal operation, asked.2.state.rest =
      ((notify c .caller (.error f)).start
        ⟨(unlocking k here).2.state, journal, operation⟩).2.state) ∧
    reached.desk.waiting.filter (·.callback = c) = [] ∧
    (reached.told.filter (·.1 = c)).length ≤ 1 ∧
    (reached.desk.queue = [] → reached.desk.scheduled = [] →
      reached.told.filter (·.1 = c) = [(c, .error f)])
  /-- A foreign fault that cannot be spelled makes the request fail, and nobody is told. -/
  unspoken : ∀ e, (unlocking k here).1 = .error e → Unspoken e →
    (∃ kind m, asked.1 = .error (Fault.plain kind m)) ∧
    asked.2.state.desk.queue = here.state.desk.queue ∧
    asked.2.state.rest = (unlocking k here).2.state ∧
    reached.desk.waiting.filter (·.callback = c) = [] ∧ reached.told.filter (·.1 = c) = []
  /-- Where the store can be unlocked the request is served, and the callback is told what it came
  to, unless that is a foreign fault that does not print. -/
  served : (unlocking k here).1 = .ok () → closed = false → asked.1 = .ok () ∧
    (∃ j, asked.2.state.desk.queue = here.state.desk.queue ++ [j] ∧ j.work = request) ∧
    (reached.told.filter (·.1 = c)).length ≤ 1 ∧
    (reached.desk.queue = [] → reached.desk.scheduled = [] →
      ∃ outcome, (request, outcome) ∈ reached.worked ∧
        reached.told.filter (·.1 = c) = ((settled request.label outcome).map (c, ·)).toList ∧
        ((reached.told.filter (·.1 = c)).length = 1 ↔ Speaks outcome) ∧
        ∀ e, (c, .error e) ∈ reached.told → e.failure.lifecycle?.isSome = true)
  /-- After the service was closed the request is refused, and nobody is told. -/
  shut : (unlocking k here).1 = .ok () → closed = true → asked.1 = .error Office.shutDown ∧
    asked.2.state.desk.queue = here.state.desk.queue ∧
    asked.2.state.rest = (unlocking k here).2.state ∧
    reached.desk.waiting.filter (·.callback = c) = [] ∧ reached.told.filter (·.1 = c) = []

/-- What is asked for a name is told at most once, whatever store, prompt and callbacks do, and
whatever else is asked before and after; and exactly once, unless it is refused after the service
was closed or ends in a foreign fault that does not print. -/
theorem told_once [DecidableEq κ] (k : Keeper σ)
    (notify : κ → Place → Except Fault (Option Entry) → Action σ Unit) {workers : Int}
    (positive : 0 < workers) (errand : Errand) {name : Value} {t : Text}
    (valid : Identity.check name = .ok t) (c : κ) (home : Home) (before later : List (Visit κ))
    (fresh : ∀ v ∈ before ++ later, v.callback? ≠ some c)
    (r : Run (Hall σ Request κ (Option Entry))) (unworked : r.state.worked = [])
    (untold : r.state.told = []) :
    let s := serving k notify
    let here := s.after before ((s.start workers).start r).2
    let asked := (errand.ask s name (some c) home).start here
    Told k notify (errand.request t) c home (before.any Visit.isClose) here asked
        (s.after later asked.2).state ∧
      ∃ works turns : Nat,
        let more := List.replicate works (.work 0) ++ List.replicate turns (.turn 0)
        (s.after (later ++ more) asked.2).state.desk.queue = [] ∧
        (s.after (later ++ more) asked.2).state.desk.scheduled = [] := by
  intro s here asked
  have checked : checkRequest name (some c) = .ok (t, c) := by rw [checkRequest, valid]; rfl
  obtain ⟨moves, others, silent, silent', shuts, closed, none_, all⟩ :=
    @steps_around σ κ k notify c workers positive before later fresh r unworked untold asked
  -- A request is delivered as refused, or comes to nothing, or it is dispatched, before a shutdown
  -- or after it.
  refine ⟨⟨fun e refused spoken => ?_, fun e refused unspoken => ?_, fun free opened => ?_,
    fun free shut => ?_⟩, comes_to_rest later asked.2⟩
  · obtain ⟨f, tells, why⟩ := refusal_of_spoken spoken
    obtain ⟨journal, same⟩ := ask_refused notify home errand checked refused tells
    obtain ⟨step, run⟩ :=
      all _ ⟨(unlocked k here).state, journal, (unlocked k here).operation⟩ rfl same
    obtain ⟨answer, queue⟩ := step.of_deliver
    obtain ⟨waiting, once, told⟩ := run.told_announced silent silent' rfl rfl
    refine ⟨f, why, answer, queue, fun looped => ?_, fun plain => ?_, waiting, once,
      fun _ scheduled => told scheduled⟩
    · exact (congrArg (·.2.state.rest) same).trans (rest_deliver_later looped _ _)
    · subst plain
      exact ⟨_, _, (congrArg (·.2.state.rest) same).trans (rest_deliver_atOnce _ _)⟩
  · obtain ⟨kind, m, thrown⟩ := refusal_of_unspoken unspoken
    obtain ⟨journal, same⟩ := ask_unspoken notify home errand checked refused thrown
    have same : asked = _ := same
    have left : view asked.2.state = view here.state := by
      rw [same]
      rfl
    obtain ⟨waiting, told⟩ := (none_ left).untold_of_silent fun m inside =>
      (List.mem_append.mp inside).elim (silent m) (silent' m)
    exact ⟨⟨kind, m, congrArg Prod.fst same⟩, congrArg (·.2.state.desk.queue) same,
      congrArg (·.2.state.rest) same, waiting, told⟩
  · have same := ask_unlocked notify home errand checked free
    obtain ⟨step, run⟩ := all _ (unlocked k here) rfl same
    obtain ⟨answer, queue⟩ := step.of_dispatch_open (closed.trans opened)
    obtain ⟨once, atRest⟩ := run.told_settled silent silent' (shuts.trans opened) rfl rfl rfl rfl
    refine ⟨answer, queue, once, fun queue scheduled => ?_⟩
    obtain ⟨outcome, noted, mine⟩ := atRest queue scheduled
    exact ⟨outcome, noted _ (List.mem_singleton_self _), mine, told_of_settled mine⟩
  · have same := ask_unlocked notify home errand checked free
    obtain ⟨step, run⟩ := all _ (unlocked k here) rfl same
    obtain ⟨answer, queue⟩ := step.of_dispatch_closed (closed.trans shut)
    obtain ⟨waiting, told⟩ := run.untold silent silent' (shuts.trans shut) rfl
    exact ⟨answer, queue, (congrArg (·.2.state.rest) same).trans (rest_dispatch _ _ _), waiting,
      told⟩

/-! ### A store that is out of order -/

abbrev Broken : Type := Scripted.State Memory.State

/-- A store in memory that throws what does not print, be it at once or only when it is used. -/
def outOfOrder (opens : Bool) : Broken :=
  ⟨Keeper.inMemory,
    [(if opens then .findByName else .isAvailable, .always (.refuse Fault.endless))]⟩

def keeperOfBroken : Keeper Broken :=
  ⟨Scripted.keyStore (Memory.keyStore Suite.lenient), Prompt.absent, fun _ => ⟨0, none⟩,
    Suite.lenient, Policy.standard⟩

def closedDoor (opens : Bool) : Run (Hall Broken Request Nat (Option Entry)) :=
  ⟨⟨outOfOrder opens, Desk.empty, [], []⟩, [], none⟩

def counter : Service (Hall Broken Request Nat (Option Entry)) Nat :=
  serving keeperOfBroken fun _ _ _ => throw Office.shutDown

/-- Somebody else has asked already. -/
def arrival (opens : Bool) : Run (Hall Broken Request Nat (Option Entry)) :=
  counter.after [.ask .remove (.text "client") (some 1) .plain]
    ((counter.start 2).start (closedDoor opens)).2

/-- A request from a loop at the broken store. -/
def visit (opens : Bool) : Except Fault Unit × Run (Hall Broken Request Nat (Option Entry)) :=
  (Errand.obtain.ask counter (.text "server") (some 0) .loop).start (arrival opens)

def departure (opens : Bool) : Hall Broken Request Nat (Option Entry) :=
  (counter.after [.close true, .turn 0, .turn 0] (visit opens).2).state

/-- The request fails itself where the store does not even open; where it does, the request is
accepted and served.  Its callback is told nothing either way. -/
theorem told_once_broken : Identity.check (.text "server") = .ok (Text.ofString "server") ∧
    ((∃ kind m, (visit false).1 = .error (Fault.plain kind m)) ∧
      (departure false).told.filter (·.1 = 0) = []) ∧
    (visit true).1 = .ok () ∧ (departure true).told.filter (·.1 = 0) = [] ∧
      ∃ outcome, (Request.obtain "server", outcome) ∈ (departure true).worked ∧
        ¬ Speaks outcome := by
  have valid : Identity.check (.text "server") = .ok (Text.ofString "server") := rfl
  have fresh : ∀ v ∈ ([.ask .remove (.text "client") (some 1) .plain] ++
      [.close true, .turn 0, .turn 0] : List (Visit Nat)), v.callback? ≠ some 0 := by
    intro v inside
    simp only [List.cons_append, List.nil_append, List.mem_cons, List.not_mem_nil, or_false]
      at inside
    obtain rfl | rfl | rfl | rfl := inside <;> decide
  have told (opens : Bool) : Told keeperOfBroken (fun _ _ _ => throw Office.shutDown)
      (.obtain "server") 0 .loop false (arrival opens) (visit opens) (departure opens) :=
    (told_once keeperOfBroken (fun _ _ _ => throw Office.shutDown)
      (show (0 : Int) < 2 by decide) .obtain valid 0 .loop _ _ fresh (closedDoor opens) rfl rfl).1
  have queue : (departure true).desk.queue.isEmpty = true := by decide +kernel
  have scheduled : (departure true).desk.scheduled.isEmpty = true := by decide +kernel
  have nobody : ((departure true).told.filter (·.1 = 0)).isEmpty = true := by decide +kernel
  have untold := List.isEmpty_iff.mp nobody
  obtain ⟨fails, _, _, _, untold'⟩ :=
    (told false).unspoken Fault.endless rfl ⟨nofun, nofun, nofun⟩
  obtain ⟨answer, _, _, atRest⟩ := (told true).served rfl rfl
  obtain ⟨outcome, worked, _, speaks, _⟩ :=
    atRest (List.isEmpty_iff.mp queue) (List.isEmpty_iff.mp scheduled)
  refine ⟨valid, ⟨fails, untold'⟩, answer, untold, outcome, worked, fun spoken => ?_⟩
  have one := (congrArg List.length untold).symm.trans (speaks.mpr spoken)
  cases one

end Service

end CertKeeper
