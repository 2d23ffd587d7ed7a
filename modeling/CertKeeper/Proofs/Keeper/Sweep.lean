import CertKeeper.Keeper.Obtain
import CertKeeper.Proofs.Store.Book

/-!
# What a sweep leaves

Over a store that keeps its books, a sweep of a name takes out the entries before the first one
that the keeper cannot have issued, and their keys, and nothing else.  Main statement:
`Keeper.leads_removeAll`.
-/

namespace CertKeeper.Keeper

open CertKeeper.Action (Leads)

variable {σ : Type} {k : Keeper σ} {suite : Suite} {shows_ : σ → Book → Prop}
  {ready newest : Book → Prop}

/-! ### Looking -/

theorem leads_find_of (clears : k.store.Clears shows_) (b : Book) (name : Text) :
    Leads (shows_ · b) (k.find name) fun o s => shows_ s b ∧ o = .ok (b.first? name) := by
  refine Leads.refine ((clears.findByName b name).post ?_)
  rintro o s ⟨held, rfl⟩
  exact ⟨held, rfl⟩

theorem leads_find (keeps : k.store.Keeps suite shows_ ready newest) (b : Book) (name : Text) :
    Leads (shows_ · b) (k.find name) fun o s => shows_ s b ∧ o = .ok (b.first? name) :=
  leads_find_of keeps.clears b name

theorem leads_acquire (keeps : k.store.Keeps suite shows_ ready newest) (b : Book) :
    Leads (shows_ · b) k.acquire fun o s => shows_ s b ∧ o = if b.available then .ok ()
      else .error (unavailable "Key store is not available") := by
  have asked : Leads (shows_ · b) (guarded "Key store check failed" k.store.isAvailable)
      fun o s => shows_ s b ∧ o = .ok (.bool b.available) := by
    refine Leads.refine ((keeps.isAvailable b).post ?_)
    rintro o s ⟨held, rfl⟩
    exact ⟨held, rfl⟩
  refine asked.bind_ok ?_
  intro r held
  cases available : b.available with
  | true => exact ⟨held, rfl⟩
  | false => exact ⟨held, rfl⟩

/-! ### Ownership -/

/-- The certificate of an entry passes for one of the keeper's. -/
def Owns (k : Keeper σ) (name : Text) (e : Entry) : Prop :=
  Validation.checkIdentity k.suite e.certificate (.text name) = .ok ()

/-- The fault that ends a sweep at an entry whose check failed. -/
def refusal (name : Text) (e : Entry) (failed : Fault) : Fault :=
  match Validation.reason? failed with
  | some _ => Fault.because (.lifecycle (.unexpectedCertificate name e.certificate.serialText)
      ("Certificate " ++ e.certificate.serialText ++ " under " ++ name.quoted ++
        " was not issued by this manager: " ++ failed.message)) failed
  | none => failed

theorem leads_requireOwn (name : Text) (e : Entry) (P : σ → Prop) :
    Leads P (k.requireOwn name e) fun o s => P s ∧
      o = (Validation.checkIdentity k.suite e.certificate (.text name)).mapError
        (refusal name e) := by
  intro r hr
  unfold requireOwn
  cases Validation.checkIdentity k.suite e.certificate (.text name) with
  | ok u => exact ⟨hr, rfl⟩
  | error failed =>
    simp only [Except.mapError, refusal]
    cases Validation.reason? failed with
    | none => exact ⟨hr, rfl⟩
    | some reason => exact ⟨hr, rfl⟩

theorem owns_of_passed {name : Text} {e : Entry} {u : Unit}
    (passed : .ok u = (Validation.checkIdentity k.suite e.certificate (.text name)).mapError
      (refusal name e)) : k.Owns name e := by
  unfold Owns
  cases checked : Validation.checkIdentity k.suite e.certificate (.text name) with
  | ok u => rfl
  | error f =>
    rw [checked] at passed
    cases passed

theorem leads_deleteEntry (clears : k.store.Clears shows_) {b : Book}
    (name : Text) {e : Entry} (stored : e ∈ b.entries) :
    Leads (shows_ · b) (k.deleteEntry name e) fun o s =>
      shows_ s (b.remove [e]) ∧ o = .ok true := by
  have attempted : Leads (shows_ · b) (Action.attempt (k.store.delete e)) fun o s =>
      shows_ s (b.remove [e]) ∧ o = .ok (.ok ()) := by
    refine Leads.attempt ((clears.delete b e stored).post ?_)
    rintro o s ⟨held, rfl⟩
    exact ⟨held, rfl⟩
  exact attempted.bind_ok fun r held => ⟨held, rfl⟩

/-! ### Rounds -/

theorem leads_sweepRound_none {P : σ → Prop} {name : Text}
    (found : Leads P (k.find name) fun o s => P s ∧ o = .ok none) (p : Progress) :
    Leads P (k.sweepRound name p) fun o s => P s ∧ o = .ok (.finished p.removed) := by
  refine found.bind_ok ?_
  intro r held
  by_cases removed : p.removed ≠ 0
  · simp only [removed, ne_eq, not_false_eq_true, if_true]
    exact ⟨held, rfl⟩
  · simp only [removed, if_false]
    exact ⟨held, rfl⟩

theorem leads_sweepRound_foreign {P : σ → Prop} {name : Text} {e : Entry} {failed : Fault}
    (found : Leads P (k.find name) fun o s => P s ∧ o = .ok (some e))
    (foreign : Validation.checkIdentity k.suite e.certificate (.text name) = .error failed)
    {p : Progress} (new : p.last ≠ some e.handle) :
    Leads P (k.sweepRound name p) fun o s => P s ∧ o = .error (refusal name e failed) := by
  refine found.bind_ok ?_
  simp only [new, if_false]
  refine (leads_requireOwn name e P).bind ?_ fun u => ?_
  · rintro f s ⟨held, refused⟩
    rw [foreign] at refused
    cases refused
    exact ⟨held, rfl⟩
  · rintro r ⟨_, impossible⟩
    rw [foreign] at impossible
    cases impossible

theorem leads_sweepRound_nil (clears : k.store.Clears shows_) {b : Book}
    {name : Text} (none_ : b.under name = []) (p : Progress) :
    Leads (shows_ · b) (k.sweepRound name p) fun o s =>
      shows_ s b ∧ o = .ok (.finished p.removed) := by
  have found := leads_find_of clears b name
  rw [b.first?_eq, none_] at found
  exact leads_sweepRound_none found p

/-- A round that finds an entry takes it out or is ended by it. -/
theorem leads_sweepRound_cons (clears : k.store.Clears shows_) {b : Book}
    {name : Text} {e : Entry} {rest : List Entry} (first : b.under name = e :: rest) {p : Progress}
    (new : p.last ≠ some e.handle) :
    Leads (shows_ · b) (k.sweepRound name p) fun o s =>
      (k.Owns name e ∧ shows_ s (b.remove [e]) ∧
        o = .ok (.again ⟨p.removed + 1, some e.handle⟩)) ∨
      ∃ failed, Validation.checkIdentity k.suite e.certificate (.text name) = .error failed ∧
        shows_ s b ∧ o = .error (refusal name e failed) := by
  have stored : e ∈ b.entries := by
    have member : e ∈ b.under name := by rw [first]; exact List.mem_cons_self
    exact (List.mem_filter.mp member).1
  have found := leads_find_of clears b name
  rw [b.first?_eq, first] at found
  refine found.bind_ok ?_
  simp only [List.head?_cons, new, if_false]
  refine (leads_requireOwn name e (shows_ · b)).bind ?_ fun u => ?_
  · rintro f s ⟨held, checked⟩
    cases failed : Validation.checkIdentity k.suite e.certificate (.text name) with
    | ok u =>
      rw [failed] at checked
      cases checked
    | error f' =>
      rw [failed] at checked
      cases checked
      exact Or.inr ⟨f', rfl, held, rfl⟩
  · refine Action.leads_of fun checked => ?_
    have owns := owns_of_passed checked
    refine (leads_deleteEntry clears name stored).bind_ok ?_
    exact fun r held => Or.inl ⟨owns, held, rfl⟩

/-- How a sweep ends: everything under the name is out, or everything before an entry that fails
the check. -/
def Swept (k : Keeper σ) (shows_ : σ → Book → Prop) (b : Book) (name : Text) (removed : Nat)
    (o : Except Fault Nat) (s : σ) : Prop :=
  (o = .ok (removed + (b.under name).length) ∧ shows_ s (b.remove (b.under name)) ∧
    ∀ e ∈ b.under name, k.Owns name e) ∨
  ∃ own e rest failed, b.under name = own ++ e :: rest ∧ (∀ x ∈ own, k.Owns name x) ∧
    Validation.checkIdentity k.suite e.certificate (.text name) = .error failed ∧
    shows_ s (b.remove own) ∧ o = .error (refusal name e failed)

/-- What a sweep goes on with once the first entry is out. -/
theorem Swept.cons {b : Book} {name : Text} {e : Entry} {rest : List Entry}
    (listed : b.under name = e :: rest) (listed' : (b.remove [e]).under name = rest)
    (owns : k.Owns name e) {removed : Nat} {o : Except Fault Nat} {s : σ}
    (h : k.Swept shows_ (b.remove [e]) name (removed + 1) o s) :
    k.Swept shows_ b name removed o s := by
  rcases h with ⟨ended, held, all⟩ | ⟨own, x, more, failed, split, all, checked, held, refused⟩
  · refine Or.inl ⟨?_, ?_, ?_⟩
    · rw [listed, List.length_cons, ended, listed']
      congr 1
      omega
    · rw [listed]
      rw [Book.remove_remove, listed'] at held
      exact held
    · rw [listed]
      rw [listed'] at all
      exact List.forall_mem_cons.mpr ⟨owns, all⟩
  · refine Or.inr ⟨e :: own, x, more, failed, ?_, List.forall_mem_cons.mpr ⟨owns, all⟩,
      checked, ?_, refused⟩
    · rw [listed, ← listed', split, List.cons_append]
    · rw [Book.remove_remove] at held
      exact held

/-- The rounds go through the entries under the name, one a round. -/
theorem leads_sweepRounds (clears : k.store.Clears shows_) {name : Text}
    {es : List Entry} {b : Book} (sound : b.Sound) (listed : b.under name = es) {fuel : Nat}
    (enough : es.length < fuel) {p : Progress}
    (new : ∀ handle, p.last = some handle → handle ∉ es.map Entry.handle) :
    Leads (shows_ · b) (k.sweepRounds name fuel p) (k.Swept shows_ b name p.removed) := by
  -- On the entries that are still there: each round takes one of them and one unit of fuel.  That
  -- the last one taken is not among them (`new`) keeps the loop from stopping at it.
  induction es generalizing b fuel p with
  | nil =>
    cases fuel with
    | zero => cases enough
    | succ fuel =>
      refine (leads_sweepRound_nil clears listed p).bind_ok ?_
      intro r held
      refine Or.inl ⟨?_, ?_, ?_⟩
      · rw [listed]
        rfl
      · rw [listed, Book.remove_nil]
        exact held
      · rw [listed]
        exact List.forall_mem_nil _
  | cons e rest ih =>
    cases fuel with
    | zero => cases enough
    | succ fuel =>
      have first : p.last ≠ some e.handle := fun same =>
        new e.handle same List.mem_cons_self
      refine (leads_sweepRound_cons clears listed first).bind ?_ fun v => ?_
      · rintro f s (⟨_, _, impossible⟩ | ⟨failed, checked, held, refused⟩)
        · cases impossible
        · cases refused
          refine Or.inr ⟨[], e, rest, failed, listed, List.forall_mem_nil _, checked, ?_, rfl⟩
          rw [Book.remove_nil]
          exact held
      · rintro r (⟨owns, held, again⟩ | ⟨_, _, _, impossible⟩)
        · cases again
          have listed' := Book.under_remove sound listed
          have onward := ih (sound.remove [e]) listed' (Nat.lt_of_succ_lt_succ enough)
            (p := ⟨p.removed + 1, some e.handle⟩)
            (fun handle same => Option.some.inj same ▸ sound.apart_of_under listed) r held
          exact onward.cons listed listed' owns
        · cases impossible

theorem leads_removeAll_of (clears : k.store.Clears shows_) (b : Book) (name : Text) :
    Leads (shows_ · b) (k.removeAll name) (k.Swept shows_ b name 0) := by
  intro r held
  have few : (b.under name).length < k.store.horizon r.state :=
    Nat.lt_of_le_of_lt (List.length_filter_le _ _) (clears.horizon held)
  have swept := leads_sweepRounds clears (clears.sound held) rfl few
    (p := ⟨0, none⟩) (fun _ impossible => nomatch impossible)
  exact swept r held

theorem leads_removeAll (keeps : k.store.Keeps suite shows_ ready newest) (b : Book)
    (name : Text) : Leads (shows_ · b) (k.removeAll name) (k.Swept shows_ b name 0) :=
  leads_removeAll_of keeps.clears b name

end CertKeeper.Keeper
