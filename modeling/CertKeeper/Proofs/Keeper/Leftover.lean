import CertKeeper.Proofs.Keeper.Outcome
import CertKeeper.Proofs.Store.Directory.Troubled

/-!
# Keys that a sweep leaves behind

In a directory the file of an entry goes before the file of its key.  A deletion that fails in
between looks, afterwards, like one that another caller has made, and the sweep goes on.  Main
statement: `Keeper.left_iff`.
-/

namespace CertKeeper

open CertKeeper.Action (Leads start)

namespace Directory

variable {l : Location} {s s' : State} {e : Entry} {es : List Entry}
  {troubles : List (Option SystemCode)}

/-- The files of entries run into nothing when they are to be taken away. -/
def Unhindered (es : List Entry) (troubles : List (Option SystemCode)) : Prop :=
  ∀ handle code, (.entry handle, some code) ∉ meets (aims es) troubles

theorem aims_cons (e : Entry) (es : List Entry) : aims (e :: es) = aims [e] ++ aims es := by
  simp only [aims, List.flatMap_cons, List.flatMap_nil, List.append_nil]

theorem unhindered_one :
    Unhindered [e] troubles ↔ troubles.head?.join = none := by
  have met : meets (aims [e]) troubles
      = (.entry e.handle, troubles.head?.join) :: meets (e.key?.map Aim.key).toList troubles.tail :=
    by simp [aims, meets]
  unfold Unhindered
  rw [met]
  constructor
  · intro free
    cases first : troubles.head?.join with
    | none => rfl
    | some code =>
      rw [first] at free
      exact absurd List.mem_cons_self (free e.handle code)
  · intro calm handle code member
    rw [calm, List.mem_cons, Prod.mk.injEq] at member
    rcases member with ⟨_, impossible⟩ | later
    · cases impossible
    · cases key : e.key? with
      | none =>
        rw [key] at later
        cases later
      | some id =>
        rw [key] at later
        simp [meets] at later

theorem unhindered_cons : Unhindered (e :: es) troubles ↔ troubles.head?.join = none ∧
    Unhindered es (troubles.drop (aims [e]).length) := by
  rw [← @unhindered_one e]
  unfold Unhindered
  rw [aims_cons, meets_append]
  simp only [List.mem_append, not_or]
  exact ⟨fun h => ⟨fun x c => (h x c).1, fun x c => (h x c).2⟩, fun h x c => ⟨h.1 x c, h.2 x c⟩⟩

theorem State.Shelf.first_apart (h : s.Shelf l) {name : Text}
    (first : s.entries.filter (·.name = name) = e :: es) : ∀ x ∈ es, x.handle ≠ e.handle := by
  have nodup : ((e :: es).map Entry.handle).Nodup := by
    rw [← first]
    exact h.handles_nodup.sublist (List.filter_sublist.map _)
  exact fun x hx same => (List.nodup_cons.mp nodup).1 (same ▸ List.mem_map_of_mem hx)

theorem under_of_cleared (h : s.Shelf l) {name : Text}
    (first : s.entries.filter (·.name = name) = e :: es) (cleared : Cleared l s (aims [e]) s') :
    s'.entries.filter (·.name = name) = es := by
  have gone (x : Entry) : Aim.entry x.handle ∈ aims [e] ↔ x.handle = e.handle := by
    cases key : e.key? <;> simp [aims, key]
  rw [cleared.entries, List.filter_filter]
  simp only [gone]
  calc s.entries.filter (fun x => decide (x.name = name) && decide (x.handle ≠ e.handle))
      = (e :: es).filter fun x => x.handle ≠ e.handle := by
        rw [← first, List.filter_filter]
        exact List.filter_congr fun x _ => Bool.and_comm _ _
    _ = es.filter fun x => x.handle ≠ e.handle := List.filter_cons_of_neg (by simp)
    _ = es := List.filter_eq_self.mpr fun x hx => decide_eq_true (h.first_apart first x hx)

end Directory

namespace Keeper

open Directory

variable {k : Keeper Directory.State} {suite : Suite} {l : Location} {s : Directory.State}
  {name : Text} {e : Entry} {es : List Entry}

/-! ### A round -/

theorem leads_find_shelf (store : k.store = Directory.keyStore suite) (h : s.Shelf l) :
    Leads (· = s) (k.find name) fun o s' => s' = s ∧
      o = .ok (s.entries.filter (·.name = name)).head? := by
  refine Leads.refine (store ▸ (leads_findByName_shelf h name).post ?_)
  rintro o s' ⟨same, rfl⟩
  exact ⟨same, congrArg Except.ok ((s.book suite).first?_eq name)⟩

theorem leads_isStillStored_shelf (store : k.store = Directory.keyStore suite) (h : s.Shelf l)
    (e : Entry) : Leads (· = s) (k.isStillStored name e) fun o s' => s' = s ∧
      o = .ok ((s.entries.filter (·.name = name)).head?.any fun x => x.handle = e.handle) :=
  (leads_find_shelf store h).bind_ok fun _ same => ⟨same, rfl⟩

/-- The deletion of the first entry under a name counts as made unless the entry's own file could
not be taken away. -/
theorem leads_deleteEntry_shelf (store : k.store = Directory.keyStore suite) (h : s.Shelf l)
    (nameable : s.base.isUnnameable = false)
    (first : s.entries.filter (·.name = name) = e :: es) :
    Leads (· = s) (k.deleteEntry name e) fun o s' =>
      (s.tree.ahead = none ∧ Cleared l s (aims [e]) s' ∧ ∃ gone, o = .ok gone) ∨
        (s.tree.ahead ≠ none ∧ ∃ f, o = .error f) := by
  have member : e ∈ s.entries.filter (·.name = name) := first ▸ List.mem_cons_self
  have attempted : Leads (· = s) (Action.attempt (k.store.delete e)) fun o s' =>
      (s.tree.ahead = none ∧ Cleared l s (aims [e]) s' ∧
        (o = .ok (.ok ()) ∨ ∃ f, o = .ok (.error f) ∧ f.failure.isKeyStore = true)) ∨
      (s.tree.ahead ≠ none ∧ s' = s.onto s.tree.spent s.around ∧
        ∃ f, o = .ok (.error f) ∧ f.failure.isKeyStore = true) := by
    refine Leads.attempt ?_
    rintro r rfl
    rw [store]
    rcases start_delete h nameable (List.mem_filter.mp member).1 with
      ⟨code, f, trouble, own, deleted⟩ | ⟨calm, cleared, ended⟩
    · have deleted' : start ((Directory.keyStore suite).delete e) r = _ := deleted
      rw [deleted']
      exact Or.inr ⟨fun calm => (nomatch trouble.symm.trans calm), rfl, f, rfl, own⟩
    · refine Or.inl ⟨calm, cleared, ?_⟩
      rcases ended with through | ⟨f, failed, own, _⟩
      · exact Or.inl (congrArg Except.ok through)
      · exact Or.inr ⟨f, congrArg Except.ok failed, own⟩
  refine attempted.bind ?_ fun v => ?_
  · rintro f s' (⟨_, _, through | ⟨_, failed, _⟩⟩ | ⟨_, _, _, failed, _⟩)
    · cases through
    · cases failed
    · cases failed
  · rintro r (⟨calm, cleared, through | ⟨f, failed, own⟩⟩ | ⟨trouble, same, f, failed, own⟩)
    · cases through
      exact Or.inl ⟨calm, cleared, true, rfl⟩
    · -- The entry is gone with its file, so that the fault is dropped.
      cases failed
      obtain ⟨same, answer⟩ :=
        @leads_isStillStored_shelf k suite l _ name store cleared.shelf e r rfl
      have gone : (es.head?.any fun x => decide (x.handle = e.handle)) = false := by
        cases es with
        | nil => rfl
        | cons x es => exact decide_eq_false (h.first_apart first x List.mem_cons_self)
      rw [under_of_cleared h first cleared, gone] at answer
      have looked : start (k.isStillStored name e) r = (.ok false, _) := Prod.ext answer rfl
      simp only [own, Bool.not_true, Bool.false_eq_true, if_false]
      rw [Action.start_bind_ok looked]
      exact Or.inl ⟨calm, same.symm ▸ cleared, false, rfl⟩
    · cases failed
      obtain ⟨shelf, entries⟩ := h.beset s.tree.troubles.tail s.around
      obtain ⟨_, answer⟩ := @leads_isStillStored_shelf k suite l _ name store shelf e r same
      rw [entries, first, List.head?_cons, Option.any_some, decide_eq_true rfl] at answer
      have looked : start (k.isStillStored name e) r = (.ok true, _) := Prod.ext answer rfl
      simp only [own, Bool.not_true, Bool.false_eq_true, if_false]
      rw [Action.start_bind_ok looked]
      exact Or.inr ⟨trouble, _, rfl⟩

theorem leads_sweepRound_shelf (store : k.store = Directory.keyStore suite) (h : s.Shelf l)
    (nameable : s.base.isUnnameable = false)
    (first : s.entries.filter (·.name = name) = e :: es) {p : Progress}
    (new : p.last ≠ some e.handle) :
    Leads (· = s) (k.sweepRound name p) fun o s' =>
      (k.Owns name e ∧ s.tree.ahead = none ∧ Cleared l s (aims [e]) s' ∧
        ∃ q, o = .ok (.again q) ∧ (q.last = p.last ∨ q.last = some e.handle)) ∨
      (¬ (k.Owns name e ∧ s.tree.ahead = none) ∧ ∃ f, o = .error f) := by
  have found := @leads_find_shelf k suite l s name store h
  rw [first] at found
  refine found.bind_ok ?_
  simp only [List.head?_cons, new, if_false]
  refine (leads_requireOwn name e (· = s)).bind ?_ fun u => ?_
  · rintro f s' ⟨_, checked⟩
    refine Or.inr ⟨fun own => ?_, f, rfl⟩
    rw [own.1] at checked
    cases checked
  · refine Action.leads_of fun checked => ?_
    have owns := owns_of_passed checked
    refine (leads_deleteEntry_shelf store h nameable first).bind ?_ fun gone => ?_
    · rintro f s' (⟨_, _, _, impossible⟩ | ⟨trouble, _⟩)
      · cases impossible
      · exact Or.inr ⟨fun own => trouble own.2, f, rfl⟩
    · rintro r (⟨calm, cleared, _⟩ | ⟨_, _, impossible⟩)
      · cases gone with
        | true => exact Or.inl ⟨owns, calm, cleared, _, rfl, Or.inr rfl⟩
        | false => exact Or.inl ⟨owns, calm, cleared, _, rfl, Or.inl rfl⟩
      · cases impossible

/-! ### A sweep -/

/-- The rounds go through all the entries under a name, or one of them is not the keeper's, or its
file stays. -/
theorem leads_sweepRounds_shelf (store : k.store = Directory.keyStore suite) (h : s.Shelf l)
    (nameable : s.base.isUnnameable = false) (listed : s.entries.filter (·.name = name) = es)
    {fuel : Nat} (enough : es.length < fuel) {p : Progress}
    (new : ∀ handle, p.last = some handle → handle ∉ es.map Entry.handle) :
    Leads (· = s) (k.sweepRounds name fuel p) fun o s' =>
      ((∀ e ∈ es, k.Owns name e) ∧ Unhindered es s.tree.troubles ∧ Cleared l s (aims es) s' ∧
        ∃ n, o = .ok n) ∨
      (¬ ((∀ e ∈ es, k.Owns name e) ∧ Unhindered es s.tree.troubles) ∧ ∃ f, o = .error f) := by
  -- On the entries that are still there, as for a calm store; the troubles go with the files that
  -- a round takes away, so that the rest of the sweep meets the rest of them.
  induction es generalizing s fuel p with
  | nil =>
    cases fuel with
    | zero => cases enough
    | succ fuel =>
      have found := @leads_find_shelf k suite l s name store h
      rw [listed] at found
      refine (leads_sweepRound_none found p).bind_ok ?_
      rintro r rfl
      exact Or.inl ⟨List.forall_mem_nil _, fun _ _ => List.not_mem_nil, cleared_nil h, _, rfl⟩
  | cons e es ih =>
    cases fuel with
    | zero => cases enough
    | succ fuel =>
      have first : p.last ≠ some e.handle := fun same => new e.handle same List.mem_cons_self
      refine (leads_sweepRound_shelf store h nameable listed first).bind ?_ fun v => ?_
      · rintro f s' (⟨_, _, _, _, impossible, _⟩ | ⟨refused, _⟩)
        · cases impossible
        · refine Or.inr ⟨fun all => refused ⟨all.1 e List.mem_cons_self, ?_⟩, f, rfl⟩
          exact (unhindered_cons.mp all.2).1
      · rintro r (⟨owns, calm, cleared, q, again, last⟩ | ⟨_, _, impossible⟩)
        · cases again
          have new' : ∀ handle, q.last = some handle → handle ∉ es.map Entry.handle := by
            intro handle same member
            rcases last with old | this
            · exact new handle (old.symm.trans same) (List.mem_cons_of_mem _ member)
            · obtain ⟨x, hx, named⟩ := List.mem_map.mp member
              exact h.first_apart listed x hx (named.trans (Option.some.inj (same.symm.trans this)))
          rcases ih cleared.shelf (cleared.base ▸ nameable) (under_of_cleared h listed cleared)
              (Nat.lt_of_succ_lt_succ enough) new' r rfl with
            ⟨all, free, cleared', through⟩ | ⟨refused, failed⟩
          · refine Or.inl ⟨List.forall_mem_cons.mpr ⟨owns, all⟩, ?_, ?_, through⟩
            · exact unhindered_cons.mpr ⟨calm, cleared.troubles ▸ free⟩
            · rw [aims_cons]
              exact cleared.trans cleared'
          · refine Or.inr ⟨fun all => refused ⟨(List.forall_mem_cons.mp all.1).2, ?_⟩, failed⟩
            rw [cleared.troubles]
            exact (unhindered_cons.mp all.2).2
        · cases impossible

/-- A sweep goes through exactly where every entry under the name is the keeper's and its file can
be taken away.  No entry is left under the name then, and of the keys that the entries were bound
to the files are left that are directories or that could not be taken away. -/
theorem left_iff (store : k.store = Directory.keyStore suite) {r : Run Directory.State}
    (h : r.state.Shelf l) (nameable : r.state.base.isUnnameable = false) (name : Text) :
    let es := r.state.entries.filter (·.name = name)
    let ended := start (k.removeAll name) r
    let s := ended.2.state
    ((∃ n, ended.1 = .ok n) ↔
      (∀ e ∈ es, k.Owns name e) ∧ Unhindered es r.state.tree.troubles) ∧
    ((∃ n, ended.1 = .ok n) → s.find name = .ok none ∧ ∀ e ∈ es, ∀ id, e.key? = some id →
      (s.tree.exists? (s.keyPath id) = .ok true ↔
        r.state.tree.exists? (r.state.keyPath id) = .ok true ∧
          (r.state.tree.isDirectory (r.state.keyPath id) = .ok true ∨
            (.key id, none) ∉ meets (aims es) r.state.tree.troubles))) := by
  intro es ended s
  have few : es.length < k.store.horizon r.state := by
    rw [store]
    exact Nat.lt_succ_of_le (Nat.le_trans (List.length_filter_le _ _) h.length_entries_le)
  have swept : ((∀ e ∈ es, k.Owns name e) ∧ Unhindered es r.state.tree.troubles ∧
        Cleared l r.state (aims es) s ∧ ∃ n, ended.1 = .ok n) ∨
      (¬ ((∀ e ∈ es, k.Owns name e) ∧ Unhindered es r.state.tree.troubles) ∧
        ∃ f, ended.1 = .error f) :=
    leads_sweepRounds_shelf store h nameable rfl few (p := ⟨0, none⟩)
      (fun _ impossible => nomatch impossible) r rfl
  rcases swept with ⟨owns, free, cleared, through⟩ | ⟨refused, f, failed⟩
  · refine ⟨⟨fun _ => ⟨owns, free⟩, fun _ => through⟩, fun _ => ⟨?_, fun e he id bound => ?_⟩⟩
    · have out : ∀ x ∈ s.entries, ¬ x.name = name := by
        intro x hx named
        have left : x ∈ r.state.entries.filter fun y => .entry y.handle ∉ aims es :=
          cleared.entries ▸ hx
        obtain ⟨before, stays⟩ := List.mem_filter.mp left
        have aimed : Aim.entry x.handle ∈ aims es := List.mem_flatMap.mpr
          ⟨x, List.mem_filter.mpr ⟨before, decide_eq_true named⟩, List.mem_cons_self⟩
        exact of_decide_eq_true stays aimed
      rw [cleared.shelf.find_eq, List.find?_eq_none.mpr fun x hx => by simpa using out x hx]
    · have key := h.isKeyId (List.mem_filter.mp he).1 bound
      rw [Tree.exists?_eq (cleared.shelf.keyPath key), Tree.exists?_eq (h.keyPath key),
        Tree.isDirectory_iff (h.keyPath key)]
      by_cases freed : (.key id, none) ∈ meets (aims es) r.state.tree.troubles
      · by_cases directory : r.state.tree.IsDirectory (keyAt l id)
        · rw [cleared.kept id (Or.inr directory)]
          simp [directory]
        · rw [cleared.freed id freed directory]
          simp [directory, freed]
      · rw [cleared.kept id (Or.inl freed)]
        simp [freed]
  · refine ⟨⟨?_, fun all => absurd all refused⟩, ?_⟩
    · rintro ⟨n, through⟩
      cases through.symm.trans failed
    · rintro ⟨n, through⟩
      cases through.symm.trans failed

/-! ### A key that stays -/

def ofDirectory : Keeper Directory.State :=
  ⟨Directory.keyStore Suite.lenient, Prompt.absent, fun _ => noon, Suite.lenient, Policy.standard⟩

theorem exists_ready : ∃ (s : Directory.State) (b : Book),
    Provider.directory.Shows (fun _ => True) Suite.lenient s b ∧ b.around = Provider.atTime 0 ∧
      b.entries = [] ∧ b.locked = none ∧ Directory.Ready (fun _ => True) b := by
  have token : Directory.isToken (Provider.atTime 0).token = true := by decide +kernel
  obtain ⟨s, _, _, sound, empty⟩ := @Provider.start_initialise Suite.lenient .directory
    ⟨Provider.emptyDirectory, [], none⟩ Provider.blank_emptyDirectory
  have shows_ : Provider.directory.Shows (fun _ => True) Suite.lenient
      (Provider.directory.amid s (Provider.atTime 0))
      ((Provider.directory.book Suite.lenient s).amid (Provider.atTime 0)) :=
    Provider.shows_amid ⟨sound, rfl⟩ _
  have early : (Provider.atTime 0).ticks.natAbs < 10 ^ 100 := by decide
  refine ⟨_, _, shows_, rfl, empty.entries, empty.locked, ⟨token, trivial, early, ?_⟩⟩
  change _ ∉ List.map Entry.handle (Provider.directory.book Suite.lenient s).entries
  rw [empty.entries]
  exact List.not_mem_nil

theorem exists_bound (troubles : List (Option SystemCode)) :
    ∃ (s : Directory.State) (l : Location) (e : Entry) (id : Text),
      s.Shelf l ∧ s.base.isUnnameable = false ∧ s.tree.troubles = troubles ∧ s.entries = [e] ∧
        e.name = "server" ∧ ofDirectory.Owns "server" e ∧ e.key? = some id ∧
        s.tree.exists? (s.keyPath id) = .ok true := by
  have keeps := Provider.keeps Suite.lawful_lenient (fun _ => True) .directory
  have valid : (⟨.p256, 1⟩ : PrivateKey).Valid := ⟨by decide, by decide⟩
  obtain ⟨c, issued⟩ := @exists_issued Suite.lenient Suite.lawful_lenient _ valid "server" rfl
  obtain ⟨id, own⟩ : ∃ id, id = (Suite.lenient.publicKey ⟨.p256, 1⟩).id := ⟨_, rfl⟩
  have keyed : c.keyId = .ok id := own ▸ issued.keyId
  obtain ⟨s₀, b₀, shows₀, around₀, entries₀, locked₀, ready₀⟩ := exists_ready
  have drew : b₀.around.drawKey .p256
      = (.ok ⟨.p256, 1⟩, { Provider.atTime 0 with nextScalar := 2 }) := by
    rw [around₀]
    rfl
  obtain ⟨shows₁, _⟩ := keeps.generateKey _ .p256 ⟨.p256, 1⟩ _ ready₀ locked₀ drew valid
    ⟨s₀, [], none⟩ shows₀
  rw [← own] at shows₁
  have ready₁ : Directory.Ready (fun _ => True) ((b₀.amid { Provider.atTime 0 with
      nextScalar := 2 }).putKey id ⟨.p256, 1⟩) :=
    keeps.ready_mono ready₀ (fun _ he => he) (around₀ ▸ rfl) (around₀ ▸ rfl)
  obtain ⟨e, b, _, ⟨⟨l, layout⟩, holds⟩, gains, named, certificate, bound, last⟩ :=
    keeps.importCertificate _ c "server" id ready₁ issued.readable keyed (Text.valid_ofString _)
      ⟨_, [], none⟩ shows₁
  have held : b.held id = true := by simp [gains.held, Book.putKey]
  have newest : Provider.directory.Newest ((b₀.amid { Provider.atTime 0 with
      nextScalar := 2 }).putKey id ⟨.p256, 1⟩) := by
    intro x hx
    have impossible : x ∈ b₀.entries := hx
    rw [entries₀] at impossible
    cases impossible
  have only : b.entries = b₀.entries ++ [e] := last newest
  rw [entries₀, ← holds] at only
  obtain ⟨shelf, same⟩ := layout.shelf.beset troubles (Provider.atTime 0)
  refine ⟨_, l, e, id, shelf, layout.nameable, rfl, same.trans only, named, ?_, ?_, ?_⟩
  · unfold Owns
    rw [certificate]
    exact issued.identity
  · rw [Entry.key?_eq_some, bound, if_pos]
    simp [Book.putKey]
  · have key : Book.isKeyId id = true := own ▸ Suite.isKeyId_handleOf Suite.lenient ⟨.p256, 1⟩
    rw [← holds] at held
    have present := (Tree.exists?_eq (layout.keyPath key)).trans
      (congrArg Except.ok ((layout.hasKey_eq key).symm.trans held))
    exact (Tree.exists?_beset troubles _).trans present

/-- The file of an entry is taken away, and that of its key cannot be: the sweep goes through, and
the key stays. -/
theorem key_left_of_trouble : ∃ (s : Directory.State) (e : Entry) (id : Text),
    s.entries = [e] ∧ e.key? = some id ∧
      let ended := start (ofDirectory.removeAll "server") ⟨s, [], none⟩
      (∃ n, ended.1 = .ok n) ∧ ended.2.state.find "server" = .ok none ∧
        ended.2.state.tree.exists? (ended.2.state.keyPath id) = .ok true := by
  obtain ⟨s, l, e, id, shelf, nameable, ahead, only, named, owns, bound, present⟩ :=
    exists_bound [none, some .inputOutput]
  have under : s.entries.filter (fun x => x.name = Text.ofString "server") = [e] := by
    simp [only, named]
  have met : meets (aims [e]) s.tree.troubles
      = [(.entry e.handle, none), (.key id, some .inputOutput)] := by
    simp [aims, bound, meets, ahead]
  obtain ⟨through, left⟩ := @left_iff ofDirectory Suite.lenient l rfl ⟨s, [], none⟩ shelf nameable
    "server"
  simp only [under] at through left
  have ended := through.mpr ⟨List.forall_mem_singleton.mpr owns, by simp [Unhindered, met]⟩
  obtain ⟨gone, keys⟩ := left ended
  refine ⟨s, e, id, only, bound, ended, gone,
    (keys e List.mem_cons_self id bound).mpr ⟨present, ?_⟩⟩
  rw [met]
  exact Or.inr (by simp)

end Keeper

end CertKeeper
