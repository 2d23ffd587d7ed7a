import CertKeeper.Proofs.Keeper.Orderly
import CertKeeper.Proofs.Keeper.Outcome

/-!
# Runs of requests

What holds of a store that began empty and that only keepers have worked on, after any requests in
any order and with any outcome.  Main statement: `Keeper.inOrder_of_reachable`.
-/

namespace CertKeeper

open CertKeeper.Action (start)

namespace Request

def name : Request → Text
  | obtain name | remove name => name

end Request

namespace Keeper

variable {suite : Suite} {p : Provider}

/-- A keeper that works on the store of a provider; whatever its clock reads, the calendar holds
the window of a new certificate. -/
structure Serves (suite : Suite) (p : Provider) (k : Keeper p.State) : Prop where
  store : k.store = p.keyStore suite
  suite : k.suite = suite
  fits : ∀ s, k.policy.Fits (k.clock s)

/-- What may come of asking for a key while a request is served: a fault that is none of the
lifecycle's, or a key that is not held once the entries under the name are gone. -/
def Draws (suite : Suite) (b : Book) : Request → Prop
  | .obtain name => (b.remove (b.under name)).Draws suite
  | .remove _ => True

/-- A request that ends with an outcome and takes one state of a store to the next; it is served in
surroundings of its own. -/
inductive Step (suite : Suite) (p : Provider) (s : p.State) :
    Except Fault (Option Entry) → p.State → Prop
  | serve (k : Keeper p.State) (request : Request) (a : Surroundings) (journal : Journal)
      (operation : Option Text) (serves : Serves suite p k)
      (accepted : Identity.check (.text request.name) = .ok request.name)
      (ready : p.Ready (fun _ => True) (p.book suite (p.amid s a)))
      (draws : Draws suite (p.book suite (p.amid s a)) request) :
      Step suite p s (start (request.perform k) ⟨p.amid s a, journal, operation⟩).1
        (start (request.perform k) ⟨p.amid s a, journal, operation⟩).2.state

/-- A state that comes of a new store with the empty password by requests. -/
inductive Reachable (suite : Suite) (p : Provider) : p.State → Prop
  | begun (r : Run p.State) (blank : p.Blank r.state) :
      Reachable suite p (start (p.initialise suite) r).2.state
  | served {s s' : p.State} {o : Except Fault (Option Entry)} (reached : Reachable suite p s)
      (step : Step suite p s o s') : Reachable suite p s'

theorem orderly_of_empty {b : Book} (h : b.Empty) : b.Orderly suite := by
  refine ⟨h.locked, ?_, ?_, ?_, ?_⟩
  · rw [h.entries]
    exact List.nodup_nil
  · rw [h.entries]
    exact List.forall_mem_nil _
  · rw [h.entries]
    exact List.nodup_nil
  · intro id held
    rw [h.held id] at held
    cases held

/-- One request keeps a store in order, and does not find it out of order. -/
theorem orderly_of_step (laws : suite.Lawful) {s s' : p.State}
    {o : Except Fault (Option Entry)} (step : Step suite p s o s')
    (sound : p.Sound (fun _ => True) s) (orderly : (p.book suite s).Orderly suite) :
    p.Sound (fun _ => True) s' ∧ (p.book suite s').Orderly suite ∧
      ∀ f, o = .error f → ¬ f.IsUnexpected := by
  cases step with
  | serve k request a journal operation serves accepted ready draws =>
    have shows_ : p.Shows (fun _ => True) suite (p.amid s a) ((p.book suite s).amid a) :=
      Provider.shows_amid ⟨sound, rfl⟩ a
    have same : p.book suite (p.amid s a) = (p.book suite s).amid a := shows_.2
    rw [same] at ready draws
    have keeps : k.store.Keeps suite (p.Shows (fun _ => True) suite) (p.Ready fun _ => True)
        p.Newest := by
      rw [serves.store]
      exact Provider.keeps laws _ p
    have begun := orderly.amid a
    have performed : Action.Leads (p.Shows (fun _ => True) suite · ((p.book suite s).amid a))
        (request.perform k) fun o s' => ∃ b', p.Shows (fun _ => True) suite s' b' ∧
          b'.Orderly suite ∧ ∀ f, o = .error f → ¬ f.IsUnexpected := by
      cases request with
      | obtain name =>
        refine (begun.obtain keeps laws ready serves.suite serves.fits accepted draws).bind ?_
          fun e => Action.leads_pure ?_
        · rintro f s' ⟨b', held, orderly', plain⟩
          exact ⟨b', held, orderly', fun f' same => Except.error.inj same ▸ plain f rfl⟩
        · rintro s' ⟨b', held, orderly', _⟩
          exact ⟨b', held, orderly', fun _ impossible => nomatch impossible⟩
      | remove name =>
        refine (begun.remove keeps (keeps.sound shows_) serves.suite accepted).bind ?_
          fun u => Action.leads_pure ?_
        · rintro f s' ⟨_, _, _, impossible⟩
          cases impossible
        · rintro s' ⟨b', held, orderly', _⟩
          exact ⟨b', held, orderly', fun _ impossible => nomatch impossible⟩
    obtain ⟨b', ⟨sound', holds⟩, orderly', plain⟩ :=
      performed ⟨p.amid s a, journal, operation⟩ shows_
    exact ⟨sound', holds ▸ orderly', plain⟩

theorem orderly_of_reachable (laws : suite.Lawful) {s : p.State} (h : Reachable suite p s) :
    p.Sound (fun _ => True) s ∧ (p.book suite s).Orderly suite := by
  induction h with
  | begun r blank =>
    obtain ⟨s, journal, initialised, sound, empty⟩ := @Provider.start_initialise suite p r blank
    rw [initialised]
    exact ⟨sound, orderly_of_empty empty⟩
  | served reached step ih =>
    obtain ⟨sound, orderly, _⟩ := orderly_of_step laws step ih.1 ih.2
    exact ⟨sound, orderly⟩

/-- After any run of requests every name has at most one entry, every entry has a certificate of
the keeper's and a key of its own, and there is no other key; and no request finds a certificate
that is not the keeper's. -/
theorem inOrder_of_reachable (laws : suite.Lawful) {s : p.State} (h : Reachable suite p s) :
    ((p.book suite s).entries.map Entry.name).Nodup ∧
    (∀ e ∈ (p.book suite s).entries, ∃ id, (p.book suite s).Own suite e id) ∧
    ((p.book suite s).entries.map Entry.keyId).Nodup ∧
    (∀ id, (p.book suite s).held id = true →
      ∃! e, e ∈ (p.book suite s).entries ∧ e.keyId = .text id) ∧
    ∀ o s', Step suite p s o s' → ∀ f, o = .error f → ¬ f.IsUnexpected := by
  obtain ⟨sound, orderly⟩ := orderly_of_reachable laws h
  refine ⟨orderly.single, orderly.own, orderly.distinct, ?_, ?_⟩
  · intro id held
    obtain ⟨e, stored, bound⟩ := orderly.bound id held
    refine ⟨e, ⟨stored, bound⟩, ?_⟩
    rintro x ⟨inside, bound'⟩
    exact List.inj_on_of_nodup_map orderly.distinct inside stored (bound'.trans bound.symm)
  · intro o s' step
    exact (orderly_of_step laws step sound orderly).2.2

/-! ### A run -/

theorem serves_ofMemory : Serves Suite.lenient .memory ofMemory := by
  have fits : Policy.standard.Fits noon := ⟨_, _, rfl, rfl, by decide, by decide⟩
  exact ⟨rfl, rfl, fun _ => fits⟩

def afterFirst : Memory.State :=
  let r : Run Memory.State := ⟨inMemory, [], none⟩
  (start ((Request.obtain "server").perform ofMemory) r).2.state

theorem inOrder_afterFirst : (afterFirst.book.entries.map Entry.name).Nodup ∧
    ∀ id, afterFirst.book.held id = true →
      ∃! e, e ∈ afterFirst.book.entries ∧ e.keyId = .text id := by
  have begun : Reachable Suite.lenient .memory inMemory :=
    @Reachable.begun Suite.lenient .memory (⟨⟨Memory.Store.new none, quiet⟩, [], none⟩ :
      Run Memory.State) ⟨rfl, rfl, rfl, rfl, rfl⟩
  have served : Step Suite.lenient .memory inMemory _ afterFirst :=
    @Step.serve Suite.lenient .memory inMemory ofMemory (.obtain "server") inMemory.around [] none
      serves_ofMemory rfl trivial (draws_inMemory.remove _)
  obtain ⟨single, _, _, bound, _⟩ :=
    inOrder_of_reachable Suite.lawful_lenient (.served begun served)
  exact ⟨single, bound⟩

end Keeper

end CertKeeper
