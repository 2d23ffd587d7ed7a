import CertKeeper.Proofs.Encoding.Faults
import CertKeeper.Proofs.Keeper.Clearing
import CertKeeper.Proofs.Keeper.Part
import CertKeeper.Proofs.Store.Crowd

/-!
# Sweeps among other callers

A sweep of a store in memory goes through, or stops at an entry of another's, whatever other callers
delete and import between its calls: it takes none of their deletions for a store that fails, and
counts none of them.  Main statement: `Keeper.settled_of_sweep`.
-/

namespace CertKeeper

open CertKeeper.Action (Leads start)
open Memory (Crowd)
open Memory.Crowd (Later)

/-! ### Faults of the identity check -/

namespace Validation

/-- What a check can fail with: a reason, or something in a certificate or a name that cannot be
read. -/
def Declined (f : Fault) : Prop := (∃ reason, reason? f = some reason) ∨ X509.Refused f

theorem declined_unfit (reason : Unfit) (m : Text) : Declined (unfit reason m) := .inl ⟨_, rfl⟩

theorem declined_of_bind {α β : Type} {x : Except Fault α} {g : α → Except Fault β} {f : Fault}
    (first : ∀ e, x = .error e → Declined e) (second : ∀ a e, g a = .error e → Declined e)
    (failed : (x >>= g) = .error f) : Declined f := by
  cases x with
  | error e =>
    cases failed
    exact first _ rfl
  | ok a => exact second a f failed

theorem declined_selfSigned {suite : Suite} {c : X509.Certificate} {f : Fault}
    (failed : suite.selfSigned c = .error f) : Declined f :=
  declined_of_bind (fun _ unread => .inr (X509.PublicKey.refused_ofInfo unread))
    (fun _ _ impossible => by cases impossible) failed

theorem declined_checkIdentity {suite : Suite} {c : X509.Certificate} {name : Text} {f : Fault}
    (failed : checkIdentity suite c (.text name) = .error f) : Declined f := by
  refine declined_of_bind (fun _ => declined_selfSigned) (fun signs f failed => ?_) failed
  split at failed
  · cases failed
    exact declined_unfit _ _
  refine declined_of_bind (fun _ unread => .inr (X509.Name.refused_read unread))
    (fun subject f failed => ?_) failed
  refine declined_of_bind (fun _ unread => .inr (X509.Name.refused_read unread))
    (fun issuer f failed => ?_) failed
  split at failed
  · cases failed
    exact declined_unfit _ _
  refine declined_of_bind (fun _ unread => .inr (X509.refused_identitySubject unread))
    (fun own f failed => ?_) failed
  refine declined_of_bind (fun _ unread => .inr (X509.Name.refused_read unread))
    (fun wanted f failed => ?_) failed
  split at failed
  · cases failed
    exact declined_unfit _ _
  · cases failed

end Validation

namespace Keeper

variable {k : Keeper Crowd} {suite : Suite} {name : Text} {before : List Entry} {w₀ : Crowd}
  {e : Entry} {p : Progress}

theorem refusal_lifecycle?_ne {failed : Fault}
    (foreign : Validation.checkIdentity k.suite e.certificate (.text name) = .error failed) :
    (refusal name e failed).failure.lifecycle? ≠ some .storeUnavailable := by
  unfold refusal
  cases known : Validation.reason? failed with
  | some reason => exact fun impossible => nomatch impossible
  | none =>
    rcases Validation.declined_checkIdentity foreign with ⟨reason, known'⟩ | refused
    · rw [known] at known'
      cases known'
    · exact refused.lifecycle?_ne

/-! ### A round -/

theorem leads_find_crowd (store : k.store = Crowd.keyStore suite)
    (accounted : w₀.Accounted before) :
    Leads (· = w₀) (k.find name) fun o w =>
      (w.Accounted before ∧ Later w₀ 0 w) ∧ o = .ok (w.entries.find? (·.name = name)) ∧
        w.happenings.getLast? = some (.looked name (w.entries.find? (·.name = name))) := by
  have found := @Memory.Crowd.leads_find before suite name w₀
  refine Leads.refine (store ▸ found.mono ?_ ?_)
  · rintro w rfl
    exact ⟨accounted, Memory.Crowd.later_refl w⟩
  · rintro o w ⟨held, rfl, looked⟩
    exact ⟨held, rfl, looked⟩

theorem leads_isStillStored_crowd (store : k.store = Crowd.keyStore suite) {w₁ : Crowd}
    (accounted : w₁.Accounted before) (gone : e ∈ w₁.removed ++ w₁.taken) :
    Leads (· = w₁) (k.isStillStored name e) fun o w =>
      (w.Accounted before ∧ Later w₁ 0 w) ∧ o = .ok false := by
  refine (leads_find_crowd store accounted).bind ?_ fun current => ?_
  · rintro f w ⟨_, impossible, _⟩
    cases impossible
  rintro r ⟨⟨accounted', later⟩, answer, _⟩
  cases answer
  refine ⟨⟨accounted', later⟩, congrArg Except.ok ?_⟩
  cases current : r.state.entries.find? (·.name = name) with
  | none => rfl
  | some x =>
    have apart := accounted'.handle_ne (later.gone e gone) (List.mem_of_find?_eq_some current)
    simp [apart]

/-- A deletion has ended: the entry is gone, with the sweep or with another caller, and less is
pending. -/
structure Ended (before : List Entry) (w₁ : Crowd) (e : Entry) (own : Bool) (w : Crowd) : Prop where
  accounted : w.Accounted before
  less : w.pending < w₁.pending
  gone : ∀ x ∈ w₁.removed ++ w₁.taken, x ∈ w.removed ++ w.taken
  this : e ∈ w.removed ++ w.taken
  removed : w.removed = w₁.removed ++ if own then [e] else []

theorem leads_deleteEntry_crowd (store : k.store = Crowd.keyStore suite) {w₁ : Crowd}
    (there : e ∈ w₁.entries) (accounted : w₁.Accounted before) :
    Leads (· = w₁) (k.deleteEntry name e) fun o w =>
      ∃ own, o = .ok own ∧ Ended before w₁ e own w := by
  have known : e ∈ before ++ w₁.added := accounted.mem_iff.mpr (.inl there)
  have tried : Leads (· = w₁) (Action.attempt (k.store.delete e)) fun o w =>
      ∃ o', o = .ok o' ∧ w.Accounted before ∧
        ((o' = .ok () ∧ w.removed = w₁.removed ++ [e] ∧ w.pending < w₁.pending ∧
            ∀ x ∈ w₁.removed ++ w₁.taken, x ∈ w.removed ++ w.taken) ∨
          ((∃ f, o' = .error f ∧ f.failure.isKeyStore = true) ∧ Later w₁ 0 w ∧
            e ∈ w.removed ++ w.taken)) := by
    rw [store]
    refine Leads.attempt ((Memory.Crowd.leads_delete w₁ known).mono ?_ fun o w ended =>
      ⟨o, rfl, ended⟩)
    rintro w rfl
    exact ⟨accounted, Memory.Crowd.later_refl w⟩
  refine tried.bind_answer ?_
  rintro o r ⟨accounted', ended⟩
  rcases ended with ⟨rfl, removed, less, gone⟩ | ⟨⟨f, rfl, own⟩, later, gone⟩
  · have this : e ∈ r.state.removed ++ r.state.taken := by
      rw [removed]
      simp
    exact ⟨true, rfl, accounted', less, gone, this, removed⟩
  · -- Another caller was faster; what is under the name now is another entry.
    have less : r.state.pending < w₁.pending := by
      refine Nat.lt_of_le_of_ne later.pending fun same => ?_
      exact accounted'.handle_ne gone (later.kept same e there) rfl
    simp only [own, Bool.not_true, Bool.false_eq_true, if_false]
    refine Leads.bind_ok (Q := fun o w => ∃ own, o = .ok own ∧ Ended before w₁ e own w)
      (leads_isStillStored_crowd store accounted' gone) ?_ r rfl
    rintro s ⟨accounted'', later'⟩
    have both := later.trans later'
    exact ⟨false, rfl, accounted'', Nat.lt_of_le_of_lt later'.pending less, both.gone,
      later'.gone e gone, by simpa using both.removed⟩

/-- A sweep has come so far, and the last entry it deleted is gone. -/
structure Standing (before : List Entry) (p : Progress) (w : Crowd) : Prop where
  accounted : w.Accounted before
  removed : p.removed = w.removed.length
  last : ∀ handle, p.last = some handle → ∃ x ∈ w.removed ++ w.taken, x.handle = handle

theorem Standing.later {w : Crowd} (standing : Standing before p w₀)
    (accounted : w.Accounted before) (later : Later w₀ 0 w) : Standing before p w := by
  refine ⟨accounted, later.removed ▸ standing.removed, fun handle same => ?_⟩
  obtain ⟨x, gone, same⟩ := standing.last handle same
  exact ⟨x, later.gone x gone, same⟩

/-- How a sweep ends: nothing is under the name any more and what the sweep deleted is counted, or
what was found cannot be one of the keeper's. -/
inductive Settled (k : Keeper Crowd) (name : Text) : Except Fault Nat → Crowd → Prop
  | cleared (w : Crowd) (looked : w.happenings.getLast? = some (.looked name none))
      (empty : ∀ e ∈ w.entries, e.name ≠ name) : Settled k name (.ok w.removed.length) w
  | stopped (w : Crowd) (e : Entry) (looked : w.happenings.getLast? = some (.looked name (some e)))
      (failed : Fault)
      (foreign : Validation.checkIdentity k.suite e.certificate (.text name) = .error failed) :
      Settled k name (.error (refusal name e failed)) w

theorem Settled.lifecycle?_ne {o : Except Fault Nat} {w : Crowd} {f : Fault}
    (how : Settled k name o w) (failed : o = .error f) :
    f.failure.lifecycle? ≠ some .storeUnavailable := by
  cases how with
  | cleared => cases failed
  | stopped w e looked failed' foreign =>
    cases failed
    exact refusal_lifecycle?_ne foreign

def Turned (k : Keeper Crowd) (name : Text) (before : List Entry) (w₀ : Crowd)
    (o : Except Fault Round) (w : Crowd) : Prop :=
  (∃ o', o = o'.map .finished ∧ w.Accounted before ∧ Settled k name o' w) ∨
    ∃ q, o = .ok (.again q) ∧ Standing before q w ∧ w.pending < w₀.pending

theorem Standing.deleted {w₁ w : Crowd} (standing : Standing before p w₁)
    (ended : Ended before w₁ e true w) : Standing before ⟨p.removed + 1, some e.handle⟩ w := by
  refine ⟨ended.accounted, ?_, fun handle same => ⟨e, ended.this, Option.some.inj same⟩⟩
  rw [ended.removed, standing.removed, List.length_append]
  rfl

theorem Standing.missed {w₁ w : Crowd} (standing : Standing before p w₁)
    (ended : Ended before w₁ e false w) : Standing before p w := by
  refine ⟨ended.accounted, ?_, fun handle same => ?_⟩
  · rw [ended.removed, standing.removed, List.length_append]
    rfl
  · obtain ⟨x, gone, same⟩ := standing.last handle same
    exact ⟨x, ended.gone x gone, same⟩

theorem leads_sweepRound_crowd (store : k.store = Crowd.keyStore suite)
    (standing : Standing before p w₀) :
    Leads (· = w₀) (k.sweepRound name p) (Turned k name before w₀) := by
  refine (leads_find_crowd store standing.accounted).bind ?_ fun current => ?_
  · rintro f w ⟨_, impossible, _⟩
    cases impossible
  rintro r ⟨⟨accounted, later⟩, answer, looked⟩
  have standing' : Standing before p r.state := standing.later accounted later
  cases answer
  cases current : r.state.entries.find? (·.name = name) with
  | none =>
    rw [current] at looked
    have empty : ∀ e ∈ r.state.entries, e.name ≠ name := fun e there named =>
      List.find?_eq_none.mp current e there (decide_eq_true named)
    have counted : Turned k name before w₀ (.ok (.finished p.removed)) r.state :=
      .inl ⟨.ok p.removed, rfl, accounted, standing'.removed ▸ .cleared r.state looked empty⟩
    by_cases removed : p.removed ≠ 0
    · simp only [removed, ne_eq, not_false_eq_true, if_true]
      exact counted
    · simp only [removed, if_false]
      exact counted
  | some x =>
    rw [current] at looked
    have there := List.mem_of_find?_eq_some current
    have new : p.last ≠ some x.handle := by
      intro same
      obtain ⟨y, gone, handle⟩ := standing'.last _ same
      exact accounted.handle_ne gone there handle.symm
    simp only [new, if_false]
    refine Leads.bind (Q := Turned k name before w₀) (leads_requireOwn name x (· = r.state)) ?_
      (fun _ => ?_) r rfl
    · rintro f w ⟨rfl, refused⟩
      cases failed : Validation.checkIdentity k.suite x.certificate (.text name) with
      | ok u =>
        rw [failed] at refused
        cases refused
      | error f' =>
        rw [failed] at refused
        cases refused
        exact .inl ⟨.error _, rfl, accounted, .stopped r.state x looked f' failed⟩
    · have deleted := @leads_deleteEntry_crowd k suite name before x store _ there accounted
      refine (deleted.mono (fun w held => held.1) fun _ _ ended => ended).bind_answer ?_
      rintro own s ended
      have less := Nat.lt_of_lt_of_le ended.less later.pending
      cases own with
      | true => exact .inr ⟨_, rfl, standing'.deleted ended, less⟩
      | false => exact .inr ⟨p, rfl, standing'.missed ended, less⟩

theorem leads_sweepRounds_crowd (store : k.store = Crowd.keyStore suite) {fuel : Nat}
    (standing : Standing before p w₀) (enough : w₀.pending < fuel) :
    Leads (· = w₀) (k.sweepRounds name fuel p) fun o w =>
      w.Accounted before ∧ Settled k name o w := by
  -- Every round but the last leaves less pending, so the fuel outlasts the others.
  induction fuel generalizing w₀ p with
  | zero => cases enough
  | succ fuel ih =>
    refine (leads_sweepRound_crowd store standing).bind ?_ fun v => ?_
    · rintro f w (⟨o | n, same, accounted, how⟩ | ⟨q, same, _⟩)
      · cases same
        exact ⟨accounted, how⟩
      · cases same
      · cases same
    · rintro r (⟨o | n, same, accounted, how⟩ | ⟨q, same, standing, less⟩)
      · cases same
      · cases same
        exact ⟨accounted, how⟩
      · cases same
        exact ih standing (by omega) r rfl

/-- Where others delete and import before each call to the store, a sweep ends.  No entry is lost or
goes twice; the sweep gives the number of those that it deleted, and it fails only at an entry that
it has just found and that its keeper cannot have issued, never because of the store. -/
theorem settled_of_sweep (store : k.store = Crowd.keyStore suite) (name : Text) {s : Memory.State}
    (wellFormed : s.WellFormed) (ahead : List (List Memory.Deed)) {r : Run Crowd}
    (began : r.state = ⟨s, ahead, []⟩) :
    let ended := start (k.removeAll name) r
    let w := ended.2.state
    (s.store.entries ++ w.added).Perm (w.entries ++ (w.removed ++ w.taken)) ∧
      ((s.store.entries ++ w.added).map Entry.handle).Nodup ∧ Settled k name ended.1 w ∧
      ∀ f, ended.1 = .error f → f.failure.lifecycle? ≠ some .storeUnavailable := by
  intro ended w
  have accounted : r.state.Accounted s.store.entries :=
    began ▸ Memory.Crowd.accounted_of_first wellFormed ahead
  have standing : Standing s.store.entries ⟨0, none⟩ r.state := by
    refine ⟨accounted, ?_, fun _ impossible => nomatch impossible⟩
    rw [began]
    rfl
  have horizon : k.store.horizon r.state = r.state.pending + 1 := by rw [store]; rfl
  obtain ⟨accounted', how⟩ : w.Accounted s.store.entries ∧ Settled k name ended.1 w :=
    leads_sweepRounds_crowd store standing (horizon ▸ Nat.lt_succ_self _) r rfl
  exact ⟨accounted'.balance, accounted'.handles, how, fun f failed => how.lifecycle?_ne failed⟩

def ofCrowd : Keeper Crowd :=
  { ofMemory.on Crowd.part with store := Crowd.keyStore Suite.lenient }

/-- Another caller deletes an entry that has been found, deletes the next one and imports a
certificate. -/
def raced : Crowd :=
  let others : List Memory.Deed :=
    [.delete "mem-2", .importCertificate ownEntry.certificate "server"]
  ⟨mixed, [[], [.delete "mem-1"], others], []⟩

/-- Only the entry that came last is deleted by the sweep. -/
theorem settled_of_sweep_raced : mixed.WellFormed ∧
    let ended := start (ofCrowd.removeAll "server") ⟨raced, [], none⟩
    let w := ended.2.state
    ended.1.toOption = some 1 ∧ w.taken.map Entry.handle = ["mem-1", "mem-2"] ∧
      ((mixed.store.entries ++ w.added).map Entry.handle).Nodup ∧
      Settled ofCrowd "server" ended.1 w := by
  obtain ⟨_, nodup, how, _⟩ := @settled_of_sweep ofCrowd Suite.lenient rfl "server" mixed
    wellFormed_mixed raced.ahead ⟨raced, [], none⟩ rfl
  exact ⟨wellFormed_mixed, by decide +kernel, by decide +kernel, nodup, how⟩

end Keeper

end CertKeeper
