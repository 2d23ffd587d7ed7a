import CertKeeper.Proofs.Store.Memory
import Mathlib.Data.List.Perm.Basic

/-!
# A store that others use too

A store in memory whose other callers delete and import entries before each of its calls, as long as
they have something to do.  Whatever they do, an entry that was ever there is there or was taken out
once.  Main statements: `Crowd.leads_find` and `Crowd.leads_delete`.
-/

namespace CertKeeper.Memory

open CertKeeper.Action (Leads start)

/-- What another caller does: it deletes the entry with a handle, if there is one, or it imports a
certificate. -/
inductive Deed where
  | delete (handle : Text)
  | importCertificate (c : X509.Certificate) (name : Text)

/-- What has happened, by the one caller that is watched and by others. -/
inductive Happening where
  | looked (name : Text) (found : Option Entry)
  | removed (e : Entry)
  | missed (e : Entry)
  | taken (e : Entry)
  | added (e : Entry)

namespace Happening

@[simp]
def removed? : Happening → Option Entry
  | removed e => some e
  | _ => none

@[simp]
def taken? : Happening → Option Entry
  | taken e => some e
  | _ => none

@[simp]
def added? : Happening → Option Entry
  | added e => some e
  | _ => none

end Happening

/-- A store in memory with what others do before each of the next calls and what has happened. -/
structure Crowd where
  inner : State
  ahead : List (List Deed)
  happenings : List Happening

namespace Crowd

/-! ### Calls -/

def part : Action.Part Crowd State := ⟨inner, fun s w => { w with inner := s }⟩

def note (h : Happening) : Action Crowd Unit :=
  Action.change fun w => { w with happenings := w.happenings ++ [h] }

def entries (w : Crowd) : List Entry := w.inner.store.entries

def act : Deed → Action Crowd Unit
  | .delete handle => do
    match (← Action.read).entries.find? (·.handle = handle) with
    | none => return ()
    | some e =>
      match ← Action.attempt ((Memory.delete e).on part) with
      | .ok () => note (.taken e)
      | .error _ => return ()
  | .importCertificate c name => do
    match ← Action.attempt ((Memory.importCertificate c name).on part) with
    | .ok e => note (.added e)
    | .error _ => return ()

def actAll : List Deed → Action Crowd Unit
  | [] => return ()
  | d :: rest => do
    act d
    actAll rest

def turn : Action Crowd Unit := do
  let deeds ← Action.take fun w => (w.ahead.headD [], { w with ahead := w.ahead.tail })
  actAll deeds

/-- The number of entries that are there or may still come, and of what may still be done. -/
def pending (w : Crowd) : Nat := w.ahead.flatten.length + w.entries.length

def find (suite : Suite) (name : Text) : Action Crowd (Option Entry) := do
  turn
  let found ← ((Memory.keyStore suite).findByName name).on part
  note (.looked name found)
  return found

def delete (e : Entry) : Action Crowd Unit := do
  turn
  match ← Action.attempt ((Memory.delete e).on part) with
  | .ok () => note (.removed e)
  | .error f =>
    note (.missed e)
    throw f

def keyStore (suite : Suite) : KeyStore Crowd :=
  { (Memory.keyStore suite).on part with
    findByName := find suite
    delete := delete
    horizon := fun w => w.pending + 1 }

/-! ### Accounts -/

def removed (w : Crowd) : List Entry := w.happenings.filterMap Happening.removed?

def taken (w : Crowd) : List Entry := w.happenings.filterMap Happening.taken?

def added (w : Crowd) : List Entry := w.happenings.filterMap Happening.added?

def noted (w : Crowd) (s : State) (h : Happening) : Crowd := ⟨s, w.ahead, w.happenings ++ [h]⟩

section

variable (w : Crowd) (s : State) (h : Happening)

@[simp] theorem removed_noted : (w.noted s h).removed = w.removed ++ h.removed?.toList := by
  cases h <;> simp [noted, removed, Happening.removed?]

@[simp] theorem taken_noted : (w.noted s h).taken = w.taken ++ h.taken?.toList := by
  cases h <;> simp [noted, taken, Happening.taken?]

@[simp] theorem added_noted : (w.noted s h).added = w.added ++ h.added?.toList := by
  cases h <;> simp [noted, added, Happening.added?]

end

/-- The entries that were there at first or came, and the entries that are there or went, are the
same; a number is given to no second entry. -/
structure Accounted (before : List Entry) (w : Crowd) : Prop where
  balance : (before ++ w.added).Perm (w.entries ++ (w.removed ++ w.taken))
  handles : ((before ++ w.added).map Entry.handle).Nodup
  numbered : ∀ e ∈ before ++ w.added,
    ∃ n, n < w.inner.store.imported ∧ e.handle = "mem-" ++ Text.decimal (n + 1)

theorem accounted_of_first {s : State} (h : s.WellFormed) (ahead : List (List Deed)) :
    (⟨s, ahead, []⟩ : Crowd).Accounted s.store.entries := by
  refine ⟨?_, ?_, ?_⟩
  all_goals simp only [added, removed, taken, List.filterMap_nil, List.append_nil]
  · exact List.Perm.refl _
  · exact h.sound.handles
  · exact h.numbered

variable {before : List Entry} {w w' w'' : Crowd} {e x : Entry}

namespace Accounted

theorem mem_iff (h : w.Accounted before) :
    e ∈ before ++ w.added ↔ e ∈ w.entries ∨ e ∈ w.removed ++ w.taken := by
  rw [h.balance.mem_iff, List.mem_append]

theorem eq_of_handle (h : w.Accounted before) (he : e ∈ before ++ w.added)
    (hx : x ∈ before ++ w.added) (same : e.handle = x.handle) : e = x :=
  List.inj_on_of_nodup_map h.handles he hx same

theorem handles_nodup (h : w.Accounted before) :
    ((w.entries ++ (w.removed ++ w.taken)).map Entry.handle).Nodup :=
  ((h.balance.map Entry.handle).nodup_iff).mp h.handles

theorem handle_ne (h : w.Accounted before) (gone : x ∈ w.removed ++ w.taken) (he : e ∈ w.entries) :
    e.handle ≠ x.handle := by
  have nodup := h.handles_nodup
  rw [List.map_append] at nodup
  exact (List.nodup_append.mp nodup).2.2 _ (List.mem_map_of_mem he) _ (List.mem_map_of_mem gone)

end Accounted

theorem perm_cons_filter {l : List Entry} (nodup : (l.map Entry.handle).Nodup) (he : e ∈ l) :
    l.Perm (e :: l.filter fun x => x.handle ≠ e.handle) := by
  induction l with
  | nil => cases he
  | cons y l ih =>
    obtain ⟨apart, nodup⟩ := List.nodup_cons.mp nodup
    rcases List.mem_cons.mp he with rfl | later
    · have rest : l.filter (fun x => x.handle ≠ e.handle) = l :=
        List.filter_eq_self.mpr fun x hx => decide_eq_true fun same =>
          apart (same ▸ List.mem_map_of_mem hx)
      rw [List.filter_cons_of_neg (by simp), rest]
    · have ne : y.handle ≠ e.handle := fun same => apart (same ▸ List.mem_map_of_mem later)
      rw [List.filter_cons_of_pos (by simpa using ne)]
      exact ((ih nodup later).cons y).trans (List.Perm.swap e y _)

namespace Accounted

/-- The accounts still balance where an entry is found neither there nor anywhere else than among
those that went. -/
theorem goes (h : w.Accounted before) (he : e ∈ w.entries)
    (entries : w'.entries = w.entries.filter fun x => x.handle ≠ e.handle)
    (imported : w'.inner.store.imported = w.inner.store.imported) (added : w'.added = w.added)
    (gone : (w'.removed ++ w'.taken).Perm (e :: (w.removed ++ w.taken))) :
    w'.Accounted before := by
  have nodup : (w.entries.map Entry.handle).Nodup :=
    h.handles_nodup.sublist ((List.sublist_append_left _ _).map _)
  refine ⟨?_, added ▸ h.handles, added ▸ imported ▸ h.numbered⟩
  rw [added, entries]
  refine h.balance.trans (((perm_cons_filter nodup he).append_right _).trans ?_)
  exact (List.perm_middle.symm).trans (gone.symm.append_left _)

theorem comes (h : w.Accounted before) (handle : e.handle = w.inner.store.nextHandle)
    (entries : w'.entries = w.entries ++ [e])
    (imported : w'.inner.store.imported = w.inner.store.imported + 1)
    (added : w'.added = w.added ++ [e]) (removed : w'.removed = w.removed)
    (taken : w'.taken = w.taken) : w'.Accounted before := by
  have new : e.handle ∉ (before ++ w.added).map Entry.handle := by
    intro member
    obtain ⟨x, hx, same⟩ := List.mem_map.mp member
    obtain ⟨n, less, own⟩ := h.numbered x hx
    rw [own, handle, Store.nextHandle] at same
    have numbers := Text.decimal_injective (List.append_cancel_left same)
    omega
  refine ⟨?_, ?_, ?_⟩
  · rw [added, entries, removed, taken, ← List.append_assoc, List.append_assoc w.entries]
    exact (h.balance.append_right [e]).trans (by
      rw [List.append_assoc]
      exact List.perm_append_comm.append_left w.entries)
  · rw [added, ← List.append_assoc, List.map_append, List.map_cons, List.map_nil,
      ← List.concat_eq_append, List.nodup_concat]
    exact ⟨new, h.handles⟩
  · rw [added, imported, ← List.append_assoc]
    intro x hx
    rcases List.mem_append.mp hx with old | this
    · obtain ⟨n, less, own⟩ := h.numbered x old
      exact ⟨n, Nat.lt_succ_of_lt less, own⟩
    · rw [List.mem_singleton.mp this]
      exact ⟨_, Nat.lt_succ_self _, handle⟩

end Accounted

/-! ### What comes of calls -/

theorem start_delete_on (e : Entry) (r : Run Crowd) :
    ∃ s o, start (Action.attempt ((Memory.delete e).on part)) r
        = (.ok o, ⟨{ r.state with inner := s }, r.journal, r.operation⟩) ∧
      s.store.imported = r.state.inner.store.imported ∧
      s.store.entries = r.state.entries.filter (fun x => x.handle ≠ e.handle) ∧
      ((o = .ok () ∧ ∃ x ∈ r.state.entries, x.handle = e.handle) ∨
        ((∃ f, o = .error f ∧ f.failure.isKeyStore = true) ∧
          ∀ x ∈ r.state.entries, x.handle ≠ e.handle)) := by
  rw [Action.start_attempt, Action.start_on, start_delete]
  cases known : (part.get r.state).store.entries.any (fun x => decide (x.handle = e.handle)) with
  | true =>
    rw [if_pos rfl]
    obtain ⟨x, hx, same⟩ := List.any_eq_true.mp known
    refine ⟨_, .ok (), rfl, ?_, ?_, .inl ⟨rfl, x, hx, of_decide_eq_true same⟩⟩
    · exact imported_remove r.state.inner.store.touch e
    · exact entries_remove r.state.inner.store.touch e
  | false =>
    rw [if_neg Bool.false_ne_true]
    have apart : ∀ x ∈ r.state.entries, x.handle ≠ e.handle := by
      intro x hx same
      have some_ := List.any_eq_false.mp known x hx
      exact some_ (decide_eq_true same)
    refine ⟨⟨r.state.inner.store.touch, r.state.inner.around⟩, _, rfl, rfl, ?_,
      .inr ⟨⟨_, rfl, rfl⟩, apart⟩⟩
    exact (List.filter_eq_self.mpr fun x hx => decide_eq_true (apart x hx)).symm

theorem start_import_on (c : X509.Certificate) (name : Text) (r : Run Crowd) :
    ∃ s o, start (Action.attempt ((Memory.importCertificate c name).on part)) r
        = (.ok o, ⟨{ r.state with inner := s }, r.journal, r.operation⟩) ∧
      ((∃ e, o = .ok e ∧ e.handle = r.state.inner.store.nextHandle ∧
          s.store.imported = r.state.inner.store.imported + 1 ∧
          s.store.entries = r.state.entries ++ [e]) ∨
        (∃ f, o = .error f) ∧ s.store.imported = r.state.inner.store.imported ∧
          s.store.entries = r.state.entries) := by
  rw [Action.start_attempt, Action.start_on]
  unfold Memory.importCertificate
  rw [Action.start_bind_ok (start_touch _)]
  cases key : c.keyId with
  | error f =>
    have failed : ∀ r : Run State, start (Action.ofExcept (Except.error f : Except Fault Text)) r
        = (.error f, r) := fun _ => rfl
    rw [Action.start_bind_error (failed _)]
    exact ⟨_, _, rfl, .inr ⟨⟨f, rfl⟩, rfl, rfl⟩⟩
  | ok id =>
    have named : ∀ r : Run State, start (Action.ofExcept (Except.ok id : Except Fault Text)) r
        = (.ok id, r) := fun _ => rfl
    rw [Action.start_bind_ok (named _)]
    exact ⟨_, _, rfl, .inl ⟨_, rfl, rfl, rfl, rfl⟩⟩

/-! ### What others do -/

/-- A state comes after another one, and others had a number of things to do in between. -/
structure Later (w : Crowd) (n : Nat) (w' : Crowd) : Prop where
  added : ∀ e ∈ w.added, e ∈ w'.added
  gone : ∀ e ∈ w.removed ++ w.taken, e ∈ w'.removed ++ w'.taken
  removed : w'.removed = w.removed
  pending : w'.pending ≤ w.pending + n
  /-- As long as nothing has been lost of what is pending, no entry has gone. -/
  kept : w'.pending = w.pending + n → ∀ e ∈ w.entries, e ∈ w'.entries

theorem later_refl (w : Crowd) : Later w 0 w :=
  ⟨fun _ h => h, fun _ h => h, rfl, Nat.le_refl _, fun _ _ h => h⟩

theorem Later.trans {n m : Nat} (h : Later w n w') (h' : Later w' m w'') : Later w (n + m) w'' := by
  have first := h.pending
  have second := h'.pending
  refine ⟨fun e he => h'.added e (h.added e he), fun e he => h'.gone e (h.gone e he),
    h'.removed.trans h.removed, by omega, fun all e he => ?_⟩
  exact h'.kept (by omega) e (h.kept (by omega) e he)

theorem length_filter_lt {l : List Entry} (he : e ∈ l) :
    (l.filter fun x => x.handle ≠ e.handle).length < l.length :=
  List.length_filter_lt_length_iff_exists.mpr ⟨e, he, by simp⟩

section

variable {s : State}

theorem Accounted.noted_taken (h : w.Accounted before) (he : e ∈ w.entries)
    (entries : s.store.entries = w.entries.filter fun x => x.handle ≠ e.handle)
    (imported : s.store.imported = w.inner.store.imported) :
    (w.noted s (.taken e)).Accounted before ∧ Later w 1 (w.noted s (.taken e)) := by
  have fewer : (w.noted s (.taken e)).pending < w.pending := by
    have lost := length_filter_lt he
    rw [← entries] at lost
    exact Nat.add_lt_add_left lost _
  refine ⟨h.goes he entries imported (by simp) ?_, ?_, ?_, ?_, ?_, ?_⟩
  · simp only [removed_noted, taken_noted, Happening.removed?, Happening.taken?,
      Option.toList_none, Option.toList_some, List.append_nil, ← List.append_assoc]
    exact List.perm_append_comm
  · simp
  · intro x hx
    simp only [List.mem_append] at hx
    rcases hx with own | other
    · simp [own]
    · simp [other]
  · simp
  · omega
  · intro same
    omega

theorem Accounted.noted_added (h : w.Accounted before)
    (handle : e.handle = w.inner.store.nextHandle)
    (entries : s.store.entries = w.entries ++ [e])
    (imported : s.store.imported = w.inner.store.imported + 1) :
    (w.noted s (.added e)).Accounted before ∧ Later w 1 (w.noted s (.added e)) := by
  have more : (w.noted s (.added e)).pending = w.pending + 1 := by
    have gained := congrArg List.length entries
    rw [List.length_append] at gained
    exact congrArg (w.ahead.flatten.length + ·) gained
  refine ⟨h.comes handle entries imported (by simp) (by simp) (by simp), ?_, ?_, ?_, ?_, ?_⟩
  · intro x hx
    simp [hx]
  · simp
  · simp
  · exact Nat.le_of_eq more
  · intro _ x hx
    change x ∈ s.store.entries
    rw [entries]
    exact List.mem_append_left _ hx

theorem Accounted.still (h : w.Accounted before) (entries : w'.entries = w.entries)
    (imported : w'.inner.store.imported = w.inner.store.imported) (added : w'.added = w.added)
    (removed : w'.removed = w.removed) (taken : w'.taken = w.taken) (ahead : w'.ahead = w.ahead) :
    w'.Accounted before ∧ Later w 0 w' := by
  have same : w'.pending = w.pending := by rw [pending, pending, ahead, entries]
  refine ⟨⟨?_, added ▸ h.handles, added ▸ imported ▸ h.numbered⟩, ?_, ?_, removed,
    Nat.le_of_eq same, ?_⟩
  · rw [added, entries, removed, taken]
    exact h.balance
  · rw [added]
    exact fun _ hx => hx
  · rw [removed, taken]
    exact fun _ hx => hx
  · rw [entries]
    exact fun _ _ hx => hx

end

theorem leads_act (d : Deed) (w₀ : Crowd) (n : Nat) :
    Leads (fun w => w.Accounted before ∧ Later w₀ n w) (act d) fun o w =>
      (w.Accounted before ∧ Later w₀ (n + 1) w) ∧ o = .ok () := by
  rintro r ⟨accounted, later⟩
  have idle {w : Crowd} (h : Later r.state 0 w) : Later w₀ (n + 1) w :=
    later.trans ⟨h.added, h.gone, h.removed, Nat.le_succ_of_le h.pending, fun more => by
      have := h.pending
      omega⟩
  cases d with
  | delete handle =>
    simp only [act]
    rw [Action.start_bind_ok (Action.start_read r)]
    cases found : r.state.entries.find? (fun x => x.handle = handle) with
    | none => exact ⟨⟨accounted, idle (later_refl _)⟩, rfl⟩
    | some e =>
      have he : e ∈ r.state.entries := List.mem_of_find?_eq_some found
      obtain ⟨s, o, ran, imported, entries, ended⟩ := start_delete_on e r
      simp only
      rw [Action.start_bind_ok ran]
      obtain ⟨rfl, _⟩ := ended.resolve_right fun failed => failed.2 e he rfl
      obtain ⟨accounted', taken⟩ := accounted.noted_taken he entries imported
      exact ⟨⟨accounted', later.trans taken⟩, rfl⟩
  | importCertificate c name =>
    simp only [act]
    obtain ⟨s, o, ran, ended⟩ := start_import_on c name r
    rw [Action.start_bind_ok ran]
    rcases ended with ⟨e, rfl, handle, imported, entries⟩ | ⟨⟨f, rfl⟩, imported, entries⟩
    · obtain ⟨accounted', added⟩ := accounted.noted_added handle entries imported
      exact ⟨⟨accounted', later.trans added⟩, rfl⟩
    · obtain ⟨accounted', still⟩ :=
        @Accounted.still _ _ { r.state with inner := s } accounted entries imported rfl rfl rfl rfl
      exact ⟨⟨accounted', idle still⟩, rfl⟩

theorem leads_actAll (deeds : List Deed) (w₀ : Crowd) (n : Nat) :
    Leads (fun w => w.Accounted before ∧ Later w₀ n w) (actAll deeds) fun o w =>
      (w.Accounted before ∧ Later w₀ (n + deeds.length) w) ∧ o = .ok () := by
  induction deeds generalizing n with
  | nil => exact Action.leads_pure fun _ h => ⟨h, rfl⟩
  | cons d deeds ih =>
    refine (leads_act d w₀ n).bind_ok ?_
    rw [List.length_cons, Nat.add_comm deeds.length, ← Nat.add_assoc]
    exact ih (n + 1)

theorem leads_turn (w₀ : Crowd) :
    Leads (fun w => w.Accounted before ∧ Later w₀ 0 w) turn fun o w =>
      (w.Accounted before ∧ Later w₀ 0 w) ∧ o = .ok () := by
  rintro r ⟨accounted, later⟩
  obtain ⟨deeds, first⟩ : ∃ deeds, deeds = r.state.ahead.headD [] := ⟨_, rfl⟩
  obtain ⟨w, next⟩ : ∃ w : Crowd, w = { r.state with ahead := r.state.ahead.tail } := ⟨_, rfl⟩
  have began : start turn r = start (actAll deeds) ⟨w, r.journal, r.operation⟩ := by
    rw [first, next]
    exact Action.start_bind_ok (Action.start_take _ r) _
  have fewer : w.pending + deeds.length = r.state.pending := by
    rw [next, first]
    cases ahead : r.state.ahead with
    | nil => simp [pending, ahead, entries]
    | cons d rest =>
      simp only [pending, entries, ahead, List.tail_cons, List.headD_cons, List.flatten_cons,
        List.length_append]
      omega
  have accounted₁ : w.Accounted before := by
    rw [next]
    exact ⟨accounted.balance, accounted.handles, accounted.numbered⟩
  obtain ⟨⟨accounted₂, after⟩, done⟩ := leads_actAll deeds w 0 ⟨w, r.journal, r.operation⟩
    ⟨accounted₁, later_refl w⟩
  rw [began]
  refine ⟨⟨accounted₂, later.trans (m := 0) ?_⟩, done⟩
  have less := after.pending
  subst next
  exact ⟨after.added, after.gone, after.removed, by omega, fun same => after.kept (by omega)⟩

/-! ### What the caller that is watched does -/

/-- A lookup finds the first entry under a name that is there then. -/
theorem leads_find (suite : Suite) (name : Text) (w₀ : Crowd) :
    Leads (fun w => w.Accounted before ∧ Later w₀ 0 w) (find suite name) fun o w =>
      (w.Accounted before ∧ Later w₀ 0 w) ∧ o = .ok (w.entries.find? (·.name = name)) ∧
        w.happenings.getLast? = some (.looked name (w.entries.find? (·.name = name))) := by
  refine (leads_turn w₀).bind_ok ?_
  rintro r ⟨accounted, later⟩
  obtain ⟨w, looked⟩ : ∃ w, w = r.state.noted ⟨r.state.inner.store.touch, r.state.inner.around⟩
    (.looked name (r.state.entries.find? (·.name = name))) := ⟨_, rfl⟩
  obtain ⟨accounted', still⟩ : w.Accounted before ∧ Later r.state 0 w := by
    rw [looked]
    exact accounted.still rfl rfl (by simp [Happening.added?]) (by simp [Happening.removed?])
      (by simp [Happening.taken?]) rfl
  have ended : start (do
      let found ← ((Memory.keyStore suite).findByName name).on part
      note (.looked name found)
      return found) r = (.ok (w.entries.find? (·.name = name)), ⟨w, r.journal, r.operation⟩) := by
    rw [looked]
    rfl
  rw [ended]
  refine ⟨⟨accounted', later.trans still⟩, rfl, ?_⟩
  rw [looked]
  exact List.getLast?_concat

/-- A deletion takes an entry out that was looked up before, or another caller has. -/
theorem leads_delete (w₀ : Crowd) (known : e ∈ before ++ w₀.added) :
    Leads (fun w => w.Accounted before ∧ Later w₀ 0 w) (delete e) fun o w =>
      w.Accounted before ∧
      ((o = .ok () ∧ w.removed = w₀.removed ++ [e] ∧ w.pending < w₀.pending ∧
          ∀ x ∈ w₀.removed ++ w₀.taken, x ∈ w.removed ++ w.taken) ∨
        ((∃ f, o = .error f ∧ f.failure.isKeyStore = true) ∧ Later w₀ 0 w ∧
          e ∈ w.removed ++ w.taken)) := by
  refine (leads_turn w₀).bind_ok ?_
  rintro r ⟨accounted, later⟩
  have known' : e ∈ before ++ r.state.added := by
    rcases List.mem_append.mp known with old | new
    · exact List.mem_append_left _ old
    · exact List.mem_append_right _ (later.added e new)
  obtain ⟨s, o, ran, imported, entries, ended⟩ := start_delete_on e r
  rw [Action.start_bind_ok ran]
  rcases ended with ⟨rfl, x, hx, same⟩ | ⟨⟨f, rfl, own⟩, apart⟩
  · -- an entry with the handle is the entry that was looked up, since no number is given twice
    obtain rfl : x = e := accounted.eq_of_handle (accounted.mem_iff.mpr (.inl hx)) known' same
    have accounted' : (r.state.noted s (.removed x)).Accounted before := by
      refine accounted.goes hx entries imported (by simp [Happening.added?]) ?_
      simp only [removed_noted, taken_noted, Happening.removed?, Happening.taken?,
        Option.toList_none, Option.toList_some, List.append_nil, List.append_assoc]
      exact List.perm_middle
    have fewer : (r.state.noted s (.removed x)).pending < r.state.pending := by
      have lost := length_filter_lt hx
      rw [← entries] at lost
      exact Nat.add_lt_add_left lost _
    refine ⟨accounted', .inl ⟨rfl, ?_, Nat.lt_of_lt_of_le fewer later.pending, fun y hy => ?_⟩⟩
    · change (r.state.noted s (.removed x)).removed = _
      rw [removed_noted, later.removed]
      rfl
    · have gone := later.gone y hy
      change y ∈ (r.state.noted s (.removed x)).removed ++ (r.state.noted s (.removed x)).taken
      rw [removed_noted, taken_noted]
      simp only [List.mem_append] at gone ⊢
      exact gone.imp Or.inl Or.inl
  · have gone : e ∈ r.state.removed ++ r.state.taken :=
      (accounted.mem_iff.mp known').resolve_left fun there => apart e there rfl
    have untouched : s.store.entries = r.state.entries :=
      entries.trans (List.filter_eq_self.mpr fun x hx => decide_eq_true (apart x hx))
    obtain ⟨accounted', still⟩ : (r.state.noted s (.missed e)).Accounted before ∧
        Later r.state 0 (r.state.noted s (.missed e)) :=
      accounted.still untouched imported (by simp [Happening.added?]) (by simp [Happening.removed?])
        (by simp [Happening.taken?]) rfl
    exact ⟨accounted', .inr ⟨⟨f, rfl, own⟩, later.trans still, still.gone e gone⟩⟩

end Crowd

end CertKeeper.Memory
