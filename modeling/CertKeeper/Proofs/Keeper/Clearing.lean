import CertKeeper.Proofs.Keeper.Sharing
import CertKeeper.Proofs.Store.Directory.Clearing

/-!
# Which entries a sweep takes

Of the entries under a name, a sweep takes out the longest run from the oldest on that passes the
check, with the keys these are bound to, and nothing else; a second sweep changes nothing.  Main
statement: `Keeper.clears_own`.
-/

namespace CertKeeper

open CertKeeper.Action (Leads start)

/-! ### Stores that can be swept -/

namespace Provider

variable {suite : Suite} {p : Provider} {s : p.State} {b : Book}

/-- A store whose entries can be read and deleted. -/
def Clearable : (p : Provider) → p.State → Prop
  | directory => fun s => ∃ l, s.Clearable l
  | memory => Memory.State.WellFormed

/-- A store holds the entries and the keys of a book. -/
def Stocks : (p : Provider) → p.State → Book → Prop
  | directory => Directory.State.Stocks
  | memory => Memory.State.Shows

variable (suite p) in
theorem clears : (p.keyStore suite).Clears p.Stocks := by
  cases p with
  | directory => exact Directory.clears suite
  | memory => exact (Memory.keeps suite).clears

theorem stocks_book (h : p.Clearable s) : p.Stocks s (p.book suite s) := by
  cases p with
  | directory =>
    obtain ⟨l, at_l⟩ := h
    exact at_l.stocks
  | memory => exact ⟨h, rfl⟩

theorem Stocks.contents (h : p.Stocks s b) : p.Clearable s ∧
    (p.book suite s).entries = b.entries ∧ (p.book suite s).held = b.held := by
  cases p with
  | directory => exact ⟨h.clearable, h.entries.symm, h.held.symm⟩
  | memory => exact ⟨h.1, congrArg Book.entries h.2, congrArg Book.held h.2⟩

theorem leads_findByName_still (b : Book) (name : Text) :
    Leads (fun s => p.Clearable s ∧ p.book suite s = b) ((p.keyStore suite).findByName name)
      fun o s => (p.Clearable s ∧ p.book suite s = b) ∧ o = .ok (b.first? name) := by
  cases p with
  | directory =>
    refine Directory.leads_ask fun s h => ⟨h, ?_⟩
    obtain ⟨⟨l, at_l⟩, rfl⟩ := h
    exact at_l.shelf.find_eq name
  | memory => exact (Memory.keeps suite).findByName b name

end Provider

namespace Keeper

section

variable {σ : Type} {k : Keeper σ} {P : σ → Prop} {name : Text}

/-! ### Sweeps that take nothing -/

theorem leads_removeAll_rounds {Q : Except Fault Nat → σ → Prop}
    (some_ : ∀ s, P s → 0 < k.store.horizon s)
    (rounds : ∀ fuel, Leads P (k.sweepRounds name (fuel + 1) ⟨0, none⟩) Q) :
    Leads P (k.removeAll name) Q := by
  intro r held
  obtain ⟨fuel, bound⟩ := Nat.exists_eq_add_of_lt (some_ _ held)
  have swept := rounds fuel r held
  rw [← Nat.zero_add fuel, ← bound] at swept
  exact swept

theorem leads_removeAll_none (some_ : ∀ s, P s → 0 < k.store.horizon s)
    (found : Leads P (k.find name) fun o s => P s ∧ o = .ok none) :
    Leads P (k.removeAll name) fun o s => P s ∧ o = .ok 0 :=
  leads_removeAll_rounds some_ fun _ =>
    (leads_sweepRound_none found ⟨0, none⟩).bind_ok fun _ held => ⟨held, rfl⟩

theorem leads_removeAll_foreign (some_ : ∀ s, P s → 0 < k.store.horizon s) {e : Entry}
    {failed : Fault} (found : Leads P (k.find name) fun o s => P s ∧ o = .ok (some e))
    (foreign : Validation.checkIdentity k.suite e.certificate (.text name) = .error failed) :
    Leads P (k.removeAll name) fun o s => P s ∧ o = .error (refusal name e failed) := by
  refine leads_removeAll_rounds some_ fun _ =>
    (leads_sweepRound_foreign found foreign (p := ⟨0, none⟩)
      fun impossible => nomatch impossible).bind ?_ fun _ => ?_
  · rintro f s ⟨held, refused⟩
    cases refused
    exact ⟨held, rfl⟩
  · rintro r ⟨_, impossible⟩
    cases impossible

end

/-! ### A sweep and another one -/

section

variable {suite : Suite} {p : Provider} {k : Keeper p.State} {name : Text} {b : Book}

theorem leads_find_still (store : k.store = p.keyStore suite) (b : Book) (name : Text) :
    Leads (fun s => p.Clearable s ∧ p.book suite s = b) (k.find name) fun o s =>
      (p.Clearable s ∧ p.book suite s = b) ∧ o = .ok (b.first? name) := by
  refine Leads.refine (store ▸ (Provider.leads_findByName_still b name).post ?_)
  rintro o s ⟨still, rfl⟩
  exact ⟨still, rfl⟩

theorem horizon_pos (store : k.store = p.keyStore suite) {s : p.State} (h : p.Clearable s) :
    0 < k.store.horizon s := by
  have more := (Provider.clears suite p).horizon (@Provider.stocks_book suite p s h)
  rw [store]
  exact Nat.zero_lt_of_lt more

theorem left_of_stocks {own rest : List Entry} (sound : b.Sound)
    (split : b.under name = own ++ rest) {s : p.State} (stocks : p.Stocks s (b.remove own)) :
    (p.book suite s).under name = rest ∧
      (∀ other, other ≠ name → (p.book suite s).under other = b.under other) ∧
      ∀ id, (p.book suite s).held id = true ↔ b.held id = true ∧ ∀ x ∈ own, x.keyId ≠ .text id := by
  obtain ⟨_, entries, held⟩ := @Provider.Stocks.contents suite p s _ stocks
  have under (n : Text) : (p.book suite s).under n = (b.remove own).under n := by
    rw [Book.under, entries]
    rfl
  refine ⟨?_, fun other ne => ?_, fun id => ?_⟩
  · rw [under, Book.under_remove_append sound split]
  · refine (under other).trans (Book.under_remove_other sound ne fun x hx => ?_)
    have inside : x ∈ b.under name := split ▸ List.mem_append_left rest hx
    obtain ⟨stored, named⟩ := List.mem_filter.mp inside
    exact ⟨stored, of_decide_eq_true named⟩
  · rw [held]
    exact Book.held_remove

/-- A sweep takes out the entries before the first one that the keeper cannot have issued, with
their keys.  It gives their number where there is no such entry and fails with the fault that names
this one otherwise; another sweep does the same and changes nothing. -/
theorem clears_own (store : k.store = p.keyStore suite)
    (accepted : Identity.check (.text name) = .ok name) {r : Run p.State}
    (clearable : p.Clearable r.state) (was : b = p.book suite r.state)
    (readable : ∀ e ∈ b.under name, e.certificate.Readable) :
    let own := k.sweeps name (b.under name)
    let rest := (b.under name).drop own.length
    let ended := start (k.removeAll name) r
    let again := start (k.removeAll name) ended.2
    let b' := p.book suite ended.2.state
    b'.under name = rest ∧ (∀ other, other ≠ name → b'.under other = b.under other) ∧
      (∀ id, b'.held id = true ↔ b.held id = true ∧ ∀ x ∈ own, x.keyId ≠ .text id) ∧
      p.book suite again.2.state = b' ∧
      match rest with
      | [] => ended.1 = .ok (b.under name).length ∧ again.1 = .ok 0
      | e :: _ => ∃ f, ended.1 = .error f ∧ again.1 = .error f ∧
          f.failure.lifecycle? = some (.unexpectedCertificate name e.certificate.serialText) := by
  intro own rest ended again b'
  have clears : k.store.Clears p.Stocks := store ▸ Provider.clears suite p
  have held : p.Stocks r.state b := was ▸ Provider.stocks_book clearable
  have sound := clears.sound held
  have found := leads_find_still store b' name
  have some_ : ∀ s : p.State, p.Clearable s ∧ p.book suite s = b' → 0 < k.store.horizon s :=
    fun s h => horizon_pos store h.1
  rcases leads_removeAll_of clears b name r held with
    ⟨through, stocks, owns⟩ | ⟨gone, e, left, failed, split, owns, foreign, stocks, refused⟩
  · have all : own = b.under name := sweeps_of_owns owns
    have none_ : rest = [] := by
      change (b.under name).drop own.length = []
      rw [all, List.drop_length]
    have split : b.under name = own ++ [] := by rw [all, List.append_nil]
    rw [← all] at stocks
    obtain ⟨under, others, keys⟩ := @left_of_stocks suite p name b own [] sound split _ stocks
    rw [b'.first?_eq, under] at found
    obtain ⟨⟨_, same⟩, zero⟩ := leads_removeAll_none some_ found ended.2
      ⟨(@Provider.Stocks.contents suite p _ _ stocks).1, rfl⟩
    rw [none_]
    refine ⟨under, others, keys, same, ?_, zero⟩
    rw [Nat.zero_add] at through
    exact through
  · have before : own = gone := by
      change k.sweeps name (b.under name) = gone
      rw [split, sweeps_of_foreign owns foreign]
    have rest_ : rest = e :: left := by
      change (b.under name).drop own.length = e :: left
      rw [split, before, List.drop_left]
    rw [← before] at split stocks
    obtain ⟨under, others, keys⟩ :=
      @left_of_stocks suite p name b own (e :: left) sound split _ stocks
    rw [b'.first?_eq, under] at found
    obtain ⟨⟨_, same⟩, refused'⟩ := leads_removeAll_foreign some_ found foreign ended.2
      ⟨(@Provider.Stocks.contents suite p _ _ stocks).1, rfl⟩
    have inside : e ∈ b.under name := split ▸ List.mem_append_right own List.mem_cons_self
    have halted :=
      halted_of_stopped sound accepted (readable e inside) split (before ▸ owns) foreign
    rw [rest_]
    exact ⟨under, others, keys, same, _, refused, refused', halted.named⟩

end

/-! ### A store with an entry of another's -/

/-- The older entry goes, and the other one is named and stays. -/
theorem clears_own_mixed : mixed.WellFormed ∧
    let ended := start (ofMemory.removeAll "server") ⟨mixed, [], none⟩
    ended.2.state.book.under "server" = [foreignEntry] ∧ ∃ f, ended.1 = .error f ∧
      f.failure.lifecycle? = some (.unexpectedCertificate "server" "7") := by
  have readable : ∀ e ∈ mixed.book.under "server", e.certificate.Readable :=
    List.forall_mem_cons.mpr ⟨⟨⟨_, rfl⟩, ⟨_, rfl⟩, ⟨_, rfl⟩⟩,
      List.forall_mem_singleton.mpr ⟨⟨_, rfl⟩, ⟨_, rfl⟩, ⟨_, rfl⟩⟩⟩
  obtain ⟨under, _, _, _, f, refused, _, named⟩ :=
    @clears_own Suite.lenient .memory ofMemory "server" _ rfl rfl ⟨mixed, [], none⟩
      wellFormed_mixed rfl readable
  have serial : foreignEntry.certificate.serialText = "7" := by decide +kernel
  exact ⟨wellFormed_mixed, under, f, refused, serial ▸ named⟩

end Keeper

end CertKeeper
