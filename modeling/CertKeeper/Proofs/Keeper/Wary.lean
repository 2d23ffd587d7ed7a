import CertKeeper.Proofs.Keeper.Stages

/-!
# Sweeps of stores that promise nothing

Whatever a store answers, a sweep deletes only what it has just looked up and checked, never deletes
twice in a row under one handle, and counts what the store reports.  A sweep that does not end is
seen by its first rounds.  Main statement: `Keeper.wary_of_sweep`.
-/

namespace CertKeeper

open CertKeeper.Action (start)

variable {σ : Type}

/-! ### What the calls tell -/

def Asked.deleted? : Asked → Option Text
  | .delete x (.ok _) => some x.handle
  | _ => none

def lastDeleted (calls : List Asked) : Option Text := (calls.filterMap Asked.deleted?).getLast?

def deletions (calls : List Asked) : Nat := (calls.filterMap Asked.deleted?).length

theorem lastDeleted_append (calls more : List Asked) :
    lastDeleted (calls ++ more) = (lastDeleted more).or (lastDeleted calls) := by
  rw [lastDeleted, List.filterMap_append, List.getLast?_append]
  rfl

theorem deletions_append (calls more : List Asked) :
    deletions (calls ++ more) = deletions calls + deletions more := by
  rw [deletions, List.filterMap_append, List.length_append]
  rfl

/-- A property of every call, by the calls before it and after it. -/
def Throughout (P : List Asked → Asked → List Asked → Prop) (past calls : List Asked) : Prop :=
  ∀ before c after, calls = before ++ c :: after → P (past ++ before) c after

theorem throughout_nil {P : List Asked → Asked → List Asked → Prop} {past : List Asked} :
    Throughout P past [] := by
  intro before c after split
  simp at split

theorem throughout_cons {P : List Asked → Asked → List Asked → Prop} {past calls : List Asked}
    {c : Asked} (first : P past c calls) (rest : Throughout P (past ++ [c]) calls) :
    Throughout P past (c :: calls) := by
  intro before d after split
  cases before with
  | nil =>
    obtain ⟨rfl, rfl⟩ := List.cons.inj split
    rw [List.append_nil]
    exact first
  | cons b before =>
    obtain ⟨rfl, later⟩ := List.cons.inj split
    rw [List.append_cons]
    exact rest before d after later

namespace Keeper

/-! ### The first rounds -/

/-- The first rounds of a sweep. -/
def sweepFor (k : Keeper σ) (name : Text) : Nat → Progress → Action σ Round
  | 0, p => return .again p
  | n + 1, p => do
    match ← k.sweepRound name p with
    | .finished removed => return .finished removed
    | .again p => sweepFor k name n p

/-- What a sweep gives after its last round; one that would go on is given up. -/
def conclude (name : Text) : Round → Action σ Nat
  | .finished removed => return removed
  | .again _ => throw (unavailable ("The entries for " ++ name.quoted ++ " do not end"))

theorem sweepRounds_eq (k : Keeper σ) (name : Text) (n : Nat) (p : Progress) :
    k.sweepRounds name n p = k.sweepFor name n p >>= conclude name := by
  induction n generalizing p with
  | zero => rfl
  | succ n ih =>
    rw [sweepRounds, sweepFor, bind_assoc]
    refine bind_congr fun round => ?_
    cases round with
    | finished removed => exact (pure_bind _ _).symm
    | again p => exact ih p

theorem start_removeAll (k : Keeper σ) (name : Text) (r : Run σ) : start (k.removeAll name) r
    = start (k.sweepFor name (k.store.horizon r.state) ⟨0, none⟩ >>= conclude name) r := by
  rw [← sweepRounds_eq]
  rfl

/-! ### A call of a sweep -/

/-- The sweep ended because the store could not be used. -/
def GaveOut (o : Except Fault Round) : Prop :=
  ∃ f, o = .error f ∧ f.failure.lifecycle? = some .storeUnavailable

/-- A lookup that tells nothing or tells that an entry is still there. -/
def Bars (x : Entry) : Except Fault (Option Entry) → Prop
  | .error _ => True
  | .ok found => ∃ y, found = some y ∧ y.handle = x.handle

/-- What holds of a call of a sweep, by the calls before it, those after it and how the sweep ended;
one of which only the first rounds were looked at goes on. -/
structure Proper (k : Keeper σ) (name : Text) (o : Except Fault Round) (before : List Asked)
    (c : Asked) (after : List Asked) : Prop where
  kind : (∃ answer, c = .findByName name answer) ∨ ∃ x report, c = .delete x report
  /-- What is deleted was looked up just before and passed the check. -/
  verified : ∀ x report, c = .delete x report →
    k.Owns name x ∧ ∃ earlier, before = earlier ++ [.findByName name (.ok (some x))]
  notAgain : ∀ x report, c = .delete x report → lastDeleted before ≠ some x.handle
  /-- The entry that was deleted last is found again: the sweep is over. -/
  back : ∀ x, c = .findByName name (.ok (some x)) → lastDeleted before = some x.handle →
    (∀ earlier y e, before ≠ earlier ++ [.delete y (.error e)]) → after = [] ∧ GaveOut o
  /-- After a deletion that failed, the entry is looked for once. -/
  failed : ∀ x e, c = .delete x (.error e) → ∃ answer rest,
    after = .findByName name answer :: rest ∧ (rest = [] ∧ GaveOut o ↔ Bars x answer) ∧
    (¬ Bars x answer → (rest = [] ∧ ∃ p, o = .ok (.again p)) ∨
      ∃ next more, rest = .findByName name next :: more)

/-! ### A round -/

/-- The calls of a round and how it ends, by the progress before it. -/
inductive Turn (k : Keeper σ) (name : Text) (p : Progress) : Except Fault Round → List Asked → Prop
  | unknown (f e : Fault) (kind : f.failure.lifecycle? = some .storeUnavailable) :
      Turn k name p (.error f) [.findByName name (.error e)]
  | nothing : Turn k name p (.ok (.finished p.removed)) [.findByName name (.ok none)]
  | back (x : Entry) (same : p.last = some x.handle) (f : Fault)
      (kind : f.failure.lifecycle? = some .storeUnavailable) :
      Turn k name p (.error f) [.findByName name (.ok (some x))]
  | foreign (x : Entry) (new : p.last ≠ some x.handle) (f : Fault) :
      Turn k name p (.error f) [.findByName name (.ok (some x))]
  | deleted (x : Entry) (new : p.last ≠ some x.handle) (own : k.Owns name x) :
      Turn k name p (.ok (.again ⟨p.removed + 1, some x.handle⟩))
        [.findByName name (.ok (some x)), .delete x (.ok ())]
  | barred (x : Entry) (new : p.last ≠ some x.handle) (own : k.Owns name x) (e : Fault)
      (answer : Except Fault (Option Entry)) (bars : Bars x answer) (f : Fault)
      (kind : f.failure.lifecycle? = some .storeUnavailable) :
      Turn k name p (.error f) [.findByName name (.ok (some x)), .delete x (.error e),
        .findByName name answer]
  | gone (x : Entry) (new : p.last ≠ some x.handle) (own : k.Owns name x) (e : Fault)
      (found : Option Entry) (other : ¬ Bars x (.ok found)) :
      Turn k name p (.ok (.again p)) [.findByName name (.ok (some x)), .delete x (.error e),
        .findByName name (.ok found)]

variable {k : Keeper σ} {name : Text}

theorem asks_requireOwn_owns (x : Entry) : Asks (k.observed.requireOwn name x) (Either
    (fun _ l => l = [] ∧ k.Owns name x) fun _ l => l = []) := by
  unfold requireOwn Owns
  simp only [Keeper.observed]
  cases Validation.checkIdentity k.suite x.certificate (.text name) with
  | ok u => exact asks_pure ⟨rfl, rfl⟩
  | error e =>
    cases known : Validation.reason? e with
    | none =>
      simp only [known]
      exact asks_throw rfl
    | some reason =>
      simp only [known]
      exact Asks.after_log (asks_throw rfl)

/-- Whatever the store answers, as long as it fails with faults of its own. -/
theorem asks_turn (finds : Plainly (k.store.findByName name))
    (deletes : ∀ x, Plainly (k.store.delete x)) (p : Progress) :
    Asks (k.observed.sweepRound name p) (Turn k name p) := by
  refine (asks_lookup finds).bind (fun f l failed => ?_) fun found l looked => ?_
  · obtain ⟨e, kind, rfl⟩ := failed
    exact .unknown f e kind
  obtain rfl := looked
  cases found with
  | none =>
    dsimp only
    split
    · exact Asks.after_log (asks_pure .nothing)
    · exact asks_pure .nothing
  | some x =>
    dsimp only
    split
    · next same => exact asks_throw (.back x same _ rfl)
    next new =>
    refine (asks_requireOwn_owns x).bind (fun f l refused => ?_) fun u l passed => ?_
    · obtain rfl := refused
      exact .foreign x new f
    obtain ⟨rfl, own⟩ := passed
    refine (asks_deleteEntry finds (deletes x)).bind (fun f l ended => ?_) fun removed l ended => ?_
    · cases ended with
      | kept e f kind current first =>
        exact .barred x new own e (.ok (some current)) ⟨current, rfl, first⟩ f kind
      | uncertain e f e' kind => exact .barred x new own e (.error e') trivial f kind
    · cases ended with
      | deleted =>
        rw [if_pos rfl]
        exact Asks.after_log (asks_pure (.deleted x new own))
      | gone e found other =>
        rw [if_neg Bool.false_ne_true]
        refine Asks.after_log (asks_pure (.gone x new own e found ?_))
        rintro ⟨y, same, handle⟩
        exact other y same handle

/-! ### The calls of a round are proper -/

section

variable {o : Except Fault Round} {past after : List Asked} {x : Entry}

theorem lastDeleted_found (answer : Except Fault (Option Entry)) :
    lastDeleted (past ++ [.findByName name answer]) = lastDeleted past := lastDeleted_append _ _

theorem proper_lookup {answer : Except Fault (Option Entry)}
    (new : ∀ x, answer = .ok (some x) → lastDeleted past ≠ some x.handle) :
    Proper k name o past (.findByName name answer) after where
  kind := .inl ⟨answer, rfl⟩
  verified _ _ impossible := nomatch impossible
  notAgain _ _ impossible := nomatch impossible
  back x same := by
    injection same with _ found
    exact fun again => absurd again (new x found)
  failed _ _ impossible := nomatch impossible

theorem proper_lookup_last {answer : Except Fault (Option Entry)} (out : GaveOut o) :
    Proper k name o past (.findByName name answer) [] where
  kind := .inl ⟨answer, rfl⟩
  verified _ _ impossible := nomatch impossible
  notAgain _ _ impossible := nomatch impossible
  back _ _ _ _ := ⟨rfl, out⟩
  failed _ _ impossible := nomatch impossible

theorem proper_second_lookup {answer : Except Fault (Option Entry)} (e : Fault) :
    Proper k name o (past ++ [.delete x (.error e)]) (.findByName name answer) after where
  kind := .inl ⟨answer, rfl⟩
  verified _ _ impossible := nomatch impossible
  notAgain _ _ impossible := nomatch impossible
  back _ _ _ first := absurd rfl (first past x e)
  failed _ _ impossible := nomatch impossible

theorem proper_delete (own : k.Owns name x) (new : lastDeleted past ≠ some x.handle)
    {report : Except Fault Unit}
    (failed : ∀ e, report = .error e → ∃ answer rest, after = .findByName name answer :: rest ∧
      (rest = [] ∧ GaveOut o ↔ Bars x answer) ∧
      (¬ Bars x answer → (rest = [] ∧ ∃ p, o = .ok (.again p)) ∨
        ∃ next more, rest = .findByName name next :: more)) :
    Proper k name o (past ++ [.findByName name (.ok (some x))]) (.delete x report) after where
  kind := .inr ⟨x, report, rfl⟩
  verified y _ same := by
    injection same with entry
    exact entry ▸ ⟨own, past, rfl⟩
  notAgain y _ same := by
    injection same with entry
    rw [lastDeleted_found]
    exact entry ▸ new
  back _ impossible := nomatch impossible
  failed y e same := by
    injection same with entry reported
    exact entry ▸ failed e reported

end

/-! ### Runs -/

/-- What the calls so far make the progress of a sweep. -/
def Progress.told (past : List Asked) : Progress := ⟨deletions past, lastDeleted past⟩

/-- What holds of the calls of a sweep that follow some others, and of its end. -/
structure Wary (k : Keeper σ) (name : Text) (past : List Asked) (o : Except Fault Round)
    (calls : List Asked) : Prop where
  proper : Throughout (Proper k name o) past calls
  /-- It begins with a lookup, where it was looked at at all. -/
  opening : (calls = [] ∧ ∃ p, o = .ok (.again p)) ∨
    ∃ answer rest, calls = .findByName name answer :: rest
  /-- A sweep that is through gives the number of deletions, and its last lookup found nothing. -/
  counted : ∀ m, o = .ok (.finished m) → m = deletions (past ++ calls) ∧
    ∃ earlier, calls = earlier ++ [.findByName name (.ok none)]

variable {past l more : List Asked} {o : Except Fault Round}

theorem wary_single {answer : Except Fault (Option Entry)}
    (proper : Proper k name o past (.findByName name answer) [])
    (counted : ∀ m, o = .ok (.finished m) → m = deletions past ∧ answer = .ok none) :
    Wary k name past o [.findByName name answer] where
  proper := throughout_cons proper throughout_nil
  opening := .inr ⟨answer, [], rfl⟩
  counted m ended := by
    obtain ⟨count, rfl⟩ := counted m ended
    refine ⟨?_, [], rfl⟩
    rw [count, deletions_append]
    rfl

theorem Turn.wary (turn : Turn k name (.told past) o l) (last : ∀ p, o ≠ .ok (.again p)) :
    Wary k name past o l := by
  cases turn with
  | unknown f e kind =>
    exact wary_single (proper_lookup fun _ impossible => nomatch impossible)
      fun _ impossible => nomatch impossible
  | nothing =>
    refine wary_single (proper_lookup fun _ impossible => ?_) fun m ended => ⟨?_, rfl⟩
    · cases impossible
    · cases ended
      rfl
  | back x same f kind =>
    exact wary_single (proper_lookup_last ⟨f, rfl, kind⟩) fun _ impossible => nomatch impossible
  | foreign x new f =>
    refine wary_single (proper_lookup fun y found => ?_) fun _ impossible => nomatch impossible
    cases found
    exact new
  | deleted x new own => exact absurd rfl (last _)
  | barred x new own e answer bars f kind =>
    have out : GaveOut (.error f) := ⟨f, rfl, kind⟩
    refine ⟨throughout_cons (proper_lookup fun y found => ?_) (throughout_cons
      (proper_delete own new fun e' _ => ⟨answer, [], rfl, ⟨fun _ => bars, fun _ => ⟨rfl, out⟩⟩,
        fun free => absurd bars free⟩)
      (throughout_cons (proper_second_lookup e) throughout_nil)), .inr ⟨_, _, rfl⟩,
      fun _ impossible => nomatch impossible⟩
    cases found
    exact new
  | gone x new own e found other => exact absurd rfl (last _)

theorem Turn.told {q : Progress} (turn : Turn k name (.told past) (.ok (.again q)) l) :
    q = .told (past ++ l) := by
  rw [Progress.told, deletions_append, lastDeleted_append]
  cases turn with
  | deleted x new own => rfl
  | gone x new own e found other => rfl

theorem Turn.wary_append {q : Progress} (turn : Turn k name (.told past) (.ok (.again q)) l)
    (rest : Wary k name (past ++ l) o more) : Wary k name past o (l ++ more) := by
  have counted : ∀ m, o = .ok (.finished m) → m = deletions (past ++ (l ++ more)) ∧
      ∃ earlier, l ++ more = earlier ++ [.findByName name (.ok none)] := by
    intro m ended
    obtain ⟨count, earlier, last⟩ := rest.counted m ended
    rw [List.append_assoc] at count
    exact ⟨count, l ++ earlier, by rw [last, List.append_assoc]⟩
  cases turn with
  | deleted x new own =>
    refine ⟨throughout_cons (proper_lookup fun y found => ?_) (throughout_cons
      (proper_delete own new fun _ impossible => nomatch impossible) ?_), .inr ⟨_, _, rfl⟩, counted⟩
    · cases found
      exact new
    · rw [List.append_assoc]
      exact rest.proper
  | gone x new own e found other =>
    refine ⟨throughout_cons (proper_lookup fun y found => ?_) (throughout_cons
      (proper_delete own new fun e' _ => ⟨.ok found, more, rfl, ?_, fun _ => ?_⟩)
      (throughout_cons (proper_second_lookup e) ?_)), .inr ⟨_, _, rfl⟩, counted⟩
    · cases found
      exact new
    · refine ⟨?_, fun bars => absurd bars other⟩
      rintro ⟨rfl, f, failed, _⟩
      obtain ⟨_, p, goes⟩ | ⟨_, _, impossible⟩ := rest.opening
      · rw [goes] at failed
        cases failed
      · cases impossible
    · exact rest.opening
    · rw [List.append_assoc, List.append_assoc]
      exact rest.proper

/-- The first rounds of a sweep, however many. -/
theorem asks_sweepFor (finds : Plainly (k.store.findByName name))
    (deletes : ∀ x, Plainly (k.store.delete x)) (n : Nat) (past : List Asked) :
    Asks (k.observed.sweepFor name n (.told past)) (Wary k name past) := by
  -- The calls so far tell the progress, so that nothing else is known of the rounds before.
  induction n generalizing past with
  | zero =>
    exact asks_pure ⟨throughout_nil, .inl ⟨rfl, _, rfl⟩, fun _ impossible => nomatch impossible⟩
  | succ n ih =>
    refine (asks_turn finds deletes _).bind (fun f l turn => ?_) fun round l turn => ?_
    · exact turn.wary fun _ impossible => nomatch impossible
    cases round with
    | finished removed =>
      refine asks_pure ?_
      rw [List.append_nil]
      exact turn.wary fun _ impossible => nomatch impossible
    | again q =>
      obtain rfl := turn.told
      exact (ih (past ++ l)).mono fun o more rest => turn.wary_append rest

/-- Whatever a store answers, as long as it fails with faults of its own, and however much of a
sweep is looked at: the calls are proper, and a sweep that is through has counted what the store
reported as deleted and found nothing at last.  A sweep is its first rounds, as many as the store
may need. -/
theorem wary_of_sweep (finds : Plainly (k.store.findByName name))
    (deletes : ∀ x, Plainly (k.store.delete x)) {r : Run (Observed σ)}
    (unasked : r.state.calls = []) :
    (∀ n, let ended := start (k.observed.sweepFor name n ⟨0, none⟩) r
      Wary k name [] ended.1 ended.2.state.calls) ∧
    start (k.observed.removeAll name) r
      = start (k.observed.sweepFor name (k.store.horizon r.state.state) ⟨0, none⟩ >>=
          conclude name) r := by
  refine ⟨fun n => ?_, start_removeAll k.observed name r⟩
  obtain ⟨calls, asked, wary⟩ := asks_sweepFor finds deletes n [] r
  rw [unasked, List.nil_append] at asked
  simp only [Progress.told] at asked
  rw [← asked] at wary
  exact wary

/-! ### A store that only says that it deletes -/

/-- It finds one entry whatever happens, and says that it deletes it. -/
def stubborn (x : Entry) : KeyStore Unit :=
  { spoiltStore with findByName := fun _ => return some x, delete := fun _ => return () }

def keeperOfStubborn (x : Entry) : Keeper Unit := { keeperOfSpoilt with store := stubborn x }

theorem asks_find_stubborn (x : Entry) : Asks ((keeperOfStubborn x).observed.find name) (Either
    (fun found l => found = some x ∧ l = [.findByName name (.ok (some x))]) fun _ _ => False) :=
  Asks.refine (asks_watch (fun o _ => .findByName name o) fun _ => ⟨rfl, rfl⟩)

theorem asks_requireOwn_stubborn {x : Entry} (own : (keeperOfStubborn x).Owns name x) :
    Asks ((keeperOfStubborn x).observed.requireOwn name x) (Either (fun _ l => l = [])
      fun _ _ => False) := by
  have passed : Validation.checkIdentity (keeperOfStubborn x).observed.suite x.certificate
      (.text name) = .ok () := own
  rw [requireOwn, passed]
  exact asks_pure rfl

theorem asks_sweepRound_stubborn {x : Entry} (own : (keeperOfStubborn x).Owns name x) :
    Asks ((keeperOfStubborn x).observed.sweepRound name ⟨0, none⟩) (Either
      (fun round l => round = .again ⟨1, some x.handle⟩ ∧
        l = [.findByName name (.ok (some x)), .delete x (.ok ())]) fun _ _ => False) := by
  refine (asks_find_stubborn x).bind (fun _ _ impossible => impossible.elim)
    fun found l looked => ?_
  obtain ⟨rfl, rfl⟩ := looked
  refine (asks_requireOwn_stubborn own).bind (fun _ _ impossible => impossible.elim)
    fun u l passed => ?_
  obtain rfl := passed
  have deleted : Asks ((keeperOfStubborn x).observed.deleteEntry name x) (Either
      (fun removed l => removed = true ∧ l = [.delete x (.ok ())]) fun _ _ => False) :=
    (Asks.attempt (asks_watch (fun o _ => .delete x o) fun _ => ⟨rfl, rfl⟩)).bind
      (R := Either (fun o l => o = .ok () ∧ l = [.delete x (.ok ())]) fun _ _ => False)
      (fun _ _ impossible => impossible.elim) fun o l ended => by
        obtain ⟨rfl, rfl⟩ := ended
        exact asks_pure ⟨rfl, rfl⟩
  refine deleted.bind (fun _ _ impossible => impossible.elim) fun removed l ended => ?_
  obtain ⟨rfl, rfl⟩ := ended
  exact Asks.after_log (asks_pure ⟨rfl, rfl⟩)

theorem asks_sweepFor_stubborn {x : Entry} (own : (keeperOfStubborn x).Owns name x) :
    Asks ((keeperOfStubborn x).observed.sweepFor name 2 ⟨0, none⟩) fun o l => GaveOut o ∧
      l = [.findByName name (.ok (some x)), .delete x (.ok ()),
        .findByName name (.ok (some x))] := by
  refine (asks_sweepRound_stubborn own).bind (fun _ _ impossible => impossible.elim)
    fun round l ended => ?_
  obtain ⟨rfl, rfl⟩ := ended
  refine Asks.bind (R := fun o l => GaveOut o ∧ l = [.findByName name (.ok (some x))]) ?_
    (fun f l ended => ⟨?_, ?_⟩) fun round l ended => ?_
  · refine (asks_find_stubborn x).bind (fun _ _ impossible => impossible.elim)
      fun found l looked => ?_
    obtain ⟨rfl, rfl⟩ := looked
    simp only [if_true]
    exact asks_throw ⟨⟨_, rfl, rfl⟩, rfl⟩
  · obtain ⟨⟨_, same, kind⟩, _⟩ := ended
    cases same
    exact ⟨_, rfl, kind⟩
  · rw [ended.2]
    rfl
  · obtain ⟨⟨_, impossible, _⟩, _⟩ := ended
    cases impossible

/-- An entry that is its keeper's is deleted once, and the sweep ends when it is back. -/
theorem wary_of_stubborn : ∃ x : Entry,
    let k := keeperOfStubborn x
    let ended := start (k.observed.sweepFor "server" 2 ⟨0, none⟩) unasked
    Plainly (k.store.findByName "server") ∧ (∀ y, Plainly (k.store.delete y)) ∧
      GaveOut ended.1 ∧ deletions ended.2.state.calls = 1 ∧
      Wary k "server" [] ended.1 ended.2.state.calls := by
  have valid : (⟨.p256, 1⟩ : PrivateKey).Valid := ⟨by decide, by decide⟩
  obtain ⟨c, issued⟩ := @exists_issued Suite.lenient Suite.lawful_lenient _ valid "server" rfl
  obtain ⟨x, isX⟩ : ∃ x : Entry, x = ⟨"a", "server", c, .null⟩ := ⟨_, rfl⟩
  have own : (keeperOfStubborn x).Owns "server" x := isX ▸ issued.identity
  have finds : Plainly ((stubborn x).findByName "server") := fun r e failed => by cases failed
  have deletes : ∀ y, Plainly ((stubborn x).delete y) := fun y r e failed => by cases failed
  obtain ⟨calls, asked, out, all⟩ := asks_sweepFor_stubborn own unasked
  refine ⟨x, finds, deletes, out, ?_, (wary_of_sweep finds deletes rfl).1 2⟩
  rw [asked, all]
  rfl

end Keeper

end CertKeeper
