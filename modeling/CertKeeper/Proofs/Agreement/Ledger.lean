import CertKeeper.Proofs.Store.Book

/-!
# A ledger of entries

What a store is asked about keys and entries, and what is to be answered: the entries stand in a
ledger in the order of their imports, where they are crossed out and never forgotten.  Main
statement: what every call makes of a ledger and of the contents of a store goes together.
-/

namespace CertKeeper

open X509

namespace Ledger

/-- An entry by the number of its import. -/
structure Item where
  number : Nat
  name : Text
  certificate : Certificate
  keyId : Value

def Item.entry (handles : List Text) (i : Item) : Entry :=
  ⟨handles.getD i.number [], i.name, i.certificate, i.keyId⟩

/-! ### Questions and answers -/

/-- What a store is asked; an entry that it gave back is meant by its place among all of them. -/
inductive Call where
  | find (name : Text)
  | importCertificate (c : Certificate) (name : Text)
  | delete (place : Nat)
  | deleteKey (id : Text)
  | generateKey (c : Crypto.Curve)
  | sign (id : Text) (t : Template) (choice : Template.DigestChoice)

/-- What may be asked: names are Unicode, certificates are what their bytes say, and identifiers of
keys are of their kind. -/
def Call.Askable : Call → Prop
  | importCertificate c name => name.Valid ∧ Certificate.ofDer c.der = .ok c
  | deleteKey id => Book.isKeyId id = true
  | sign id _ _ => Book.isKeyId id = true
  | _ => True

def Call.tick? (now : Int) : Call → Option Int
  | importCertificate _ _ => some now
  | _ => none

inductive Answer (ε : Type) where
  | found (e : Option ε)
  | imported (e : ε)
  | key (k : KeyHandle)
  | certificate (c : Certificate)
  | done

namespace Answer

variable {ε : Type}

def entries : Answer ε → List ε
  | found e => e.toList
  | imported e => [e]
  | _ => []

def map {δ : Type} (f : ε → δ) : Answer ε → Answer δ
  | found e => .found (e.map f)
  | imported e => .imported (f e)
  | key k => .key k
  | certificate c => .certificate c
  | done => .done

def given : Except Fault (Answer ε) → List ε
  | .ok a => a.entries
  | .error _ => []

theorem entries_map {δ : Type} (f : ε → δ) (a : Answer ε) :
    (a.map f).entries = a.entries.map f := by
  cases a with
  | found e => cases e <;> rfl
  | _ => rfl

end Answer

def Call.perform {σ : Type} (store : KeyStore σ) (returned : List Entry) :
    Call → Action σ (Answer Entry)
  | find name => do return .found (← store.findByName name)
  | importCertificate c name => do return .imported (← store.importCertificate c name)
  | delete place => do
    match returned[place]? with
    | some e => store.delete e
    | none => pure ()
    return .done
  | deleteKey id => do
    store.deleteKey id
    return .done
  | generateKey c => do return .key (← store.generateKey c)
  | sign id t choice => do return .certificate (← store.sign id t choice)

end Ledger

structure Ledger where
  /-- Every entry that was imported, in the order of the imports. -/
  items : List Ledger.Item
  /-- The numbers of those that were deleted. -/
  gone : List Nat
  key? : Text → Option PrivateKey
  /-- What was given back so far. -/
  returned : List Ledger.Item

namespace Ledger

def new : Ledger := ⟨[], [], fun _ => none, []⟩

def surviving (g : Ledger) : List Item := g.items.filter (·.number ∉ g.gone)

def first? (g : Ledger) (name : Text) : Option Item := g.surviving.find? (·.name = name)

def dropKey (g : Ledger) (id : Text) : Ledger :=
  { g with key? := fun x => if x = id then none else g.key? x }

def putKey (g : Ledger) (id : Text) (k : PrivateKey) : Ledger :=
  { g with key? := fun x => if x = id then some k else g.key? x }

def give (g : Ledger) (is : List Item) : Ledger := { g with returned := g.returned ++ is }

/-- Crosses an item out; the key that it is bound to goes with it. -/
def cross (g : Ledger) (i : Item) : Ledger :=
  { g with
    gone := g.gone ++ [i.number]
    key? := fun x => if i.keyId.text? = some x then none else g.key? x }

def next (g : Ledger) (c : Certificate) (name id : Text) : Item :=
  ⟨g.items.length, name, c, if (g.key? id).isSome then .text id else .null⟩

def add (g : Ledger) (i : Item) : Ledger := { g with items := g.items ++ [i] }

/-- What is to be answered, and what becomes of the ledger. -/
def answer (suite : Suite) (draw : Crypto.Curve → Except Fault PrivateKey) (g : Ledger) :
    Call → Except Fault (Answer Item) × Ledger
  | .find name => (.ok (.found (g.first? name)), g.give (g.first? name).toList)
  | .importCertificate c name =>
    match c.keyId with
    | .error e => (.error e, g)
    | .ok id => (.ok (.imported (g.next c name id)),
        (g.add (g.next c name id)).give [g.next c name id])
  | .delete place =>
    match g.returned[place]? with
    | none => (.ok .done, g)
    | some i =>
      if i.number ∈ g.gone then (.error (Fault.keyStore "Unknown certificate entry"), g)
      else (.ok .done, g.cross i)
  | .deleteKey id => (.ok .done, g.dropKey id)
  | .generateKey c =>
    match draw c with
    | .error e => (.error ((StoreFault.ofGeneration e).getD e), g)
    | .ok k => (.ok (.key (suite.handleOf k)), g.putKey (suite.handleOf k).keyId k)
  | .sign id t choice =>
    match g.key? id with
    | none => (.error (Fault.keyStore ("Unknown key " ++ id)), g)
    | some k => (((t.sign suite k choice).mapError fun e => (StoreFault.ofSigning e).getD e).map
        .certificate, g)

/-! ### Ledgers of a store -/

/-- Items are numbered in their order, and only items are given back and crossed out. -/
structure Sound (g : Ledger) : Prop where
  numbers : g.items.map Item.number = List.range g.items.length
  returned : ∀ i ∈ g.returned, i ∈ g.items
  gone : ∀ n ∈ g.gone, n < g.items.length

/-- A store that has given out handles holds what is in a ledger. -/
structure Tells (g : Ledger) (handles : List Text) (b : Book) : Prop where
  sound : g.Sound
  count : handles.length = g.items.length
  distinct : handles.Nodup
  entries : b.entries = g.surviving.map (Item.entry handles)
  held : ∀ id, b.held id = (g.key? id).isSome
  key? : ∀ id, b.key? id = g.key? id
  locked : b.locked = none

variable {g : Ledger} {handles : List Text} {b b' : Book} {i j : Item}

theorem Sound.less (h : g.Sound) (inside : i ∈ g.items) : i.number < g.items.length := by
  have member : i.number ∈ g.items.map Item.number := List.mem_map_of_mem inside
  rw [h.numbers] at member
  exact List.mem_range.mp member

theorem Sound.eq_of_number (h : g.Sound) (hi : i ∈ g.items) (hj : j ∈ g.items)
    (same : i.number = j.number) : i = j := by
  have nodup : (g.items.map Item.number).Nodup := by
    rw [h.numbers]
    exact List.nodup_range
  exact List.inj_on_of_nodup_map nodup hi hj same

/-- Handles that are given out later change no entry. -/
theorem Item.entry_append (less : i.number < handles.length) (more : List Text) :
    i.entry (handles ++ more) = i.entry handles := by
  have same : (handles ++ more).getD i.number [] = handles.getD i.number [] := by
    rw [List.getD_eq_getElem?_getD, List.getD_eq_getElem?_getD, List.getElem?_append_left less]
  rw [Item.entry, same]
  rfl

theorem Tells.eq_of_handle (h : g.Tells handles b) (hi : i ∈ g.items) (hj : j ∈ g.items)
    (same : (i.entry handles).handle = (j.entry handles).handle) : i = j := by
  have li : i.number < handles.length := h.count ▸ h.sound.less hi
  have lj : j.number < handles.length := h.count ▸ h.sound.less hj
  simp only [Item.entry, List.getD_eq_getElem?_getD, List.getElem?_eq_getElem li,
    List.getElem?_eq_getElem lj, Option.getD_some] at same
  exact h.sound.eq_of_number hi hj ((List.Nodup.getElem_inj_iff h.distinct).mp same)

theorem Tells.handle_mem (h : g.Tells handles b) (inside : i ∈ g.items) :
    (i.entry handles).handle ∈ handles := by
  have less : i.number < handles.length := h.count ▸ h.sound.less inside
  simp only [Item.entry, List.getD_eq_getElem?_getD, List.getElem?_eq_getElem less,
    Option.getD_some]
  exact List.getElem_mem less

theorem Tells.mem_handles (h : g.Tells handles b) {e : Entry} (stored : e ∈ b.entries) :
    e.handle ∈ handles := by
  rw [h.entries, List.mem_map] at stored
  obtain ⟨i, survives, rfl⟩ := stored
  exact h.handle_mem (List.mem_filter.mp survives).1

theorem mem_surviving : i ∈ g.surviving ↔ i ∈ g.items ∧ i.number ∉ g.gone := by
  rw [surviving, List.mem_filter, decide_eq_true_eq]

/-- An item that was crossed out is no entry any more. -/
theorem Tells.not_mem_of_gone (h : g.Tells handles b) (inside : i ∈ g.items)
    (gone : i.number ∈ g.gone) :
    (i.entry handles).handle ∉ b.entries.map Entry.handle := by
  intro member
  obtain ⟨e, stored, same⟩ := List.mem_map.mp member
  rw [h.entries, List.mem_map] at stored
  obtain ⟨j, survives, rfl⟩ := stored
  obtain ⟨there, left⟩ := mem_surviving.mp survives
  exact left (h.eq_of_handle there inside same ▸ gone)

/-! ### Changes that go together -/

theorem Tells.first? (h : g.Tells handles b) (name : Text) :
    b.first? name = (g.first? name).map (Item.entry handles) := by
  rw [Book.first?, h.entries, List.find?_map]
  rfl

theorem Tells.give (h : g.Tells handles b) {is : List Item} (inside : ∀ i ∈ is, i ∈ g.items) :
    (g.give is).Tells handles b := by
  refine ⟨⟨h.sound.numbers, fun i member => ?_, h.sound.gone⟩, h.count, h.distinct, h.entries,
    h.held, h.key?, h.locked⟩
  rcases List.mem_append.mp member with old | new
  · exact h.sound.returned i old
  · exact inside i new

theorem Tells.amid (h : g.Tells handles b) (a : Surroundings) : g.Tells handles (b.amid a) :=
  ⟨h.sound, h.count, h.distinct, h.entries, h.held, h.key?, h.locked⟩

theorem Tells.dropKey (h : g.Tells handles b) (id : Text) :
    (g.dropKey id).Tells handles (b.dropKey id) := by
  refine ⟨⟨h.sound.numbers, h.sound.returned, h.sound.gone⟩, h.count, h.distinct, h.entries,
    fun x => ?_, fun x => ?_, h.locked⟩
  · change (b.held x && decide (x ≠ id)) = (if x = id then none else g.key? x).isSome
    by_cases same : x = id
    · simp [same]
    · simp [same, h.held x]
  · change (if x = id then none else b.key? x) = if x = id then none else g.key? x
    rw [h.key? x]

theorem Tells.putKey (h : g.Tells handles b) (id : Text) (k : PrivateKey) :
    (g.putKey id k).Tells handles (b.putKey id k) := by
  refine ⟨⟨h.sound.numbers, h.sound.returned, h.sound.gone⟩, h.count, h.distinct, h.entries,
    fun x => ?_, fun x => ?_, h.locked⟩
  · change (b.held x || decide (x = id)) = (if x = id then some k else g.key? x).isSome
    by_cases same : x = id
    · simp [same]
    · simp [same, h.held x]
  · change (if x = id then some k else b.key? x) = if x = id then some k else g.key? x
    rw [h.key? x]

theorem Tells.cross (h : g.Tells handles b) (inside : i ∈ g.items) (left : i.number ∉ g.gone) :
    i.entry handles ∈ b.entries ∧ (g.cross i).Tells handles (b.remove [i.entry handles]) := by
  have survives : i ∈ g.surviving := mem_surviving.mpr ⟨inside, left⟩
  refine ⟨h.entries ▸ List.mem_map_of_mem survives,
    ⟨h.sound.numbers, h.sound.returned, fun n member => ?_⟩, h.count, h.distinct, ?_,
    fun x => ?_, fun x => ?_, h.locked⟩
  · rcases List.mem_append.mp member with old | new
    · exact h.sound.gone n old
    · rw [List.mem_singleton.mp new]
      exact h.sound.less inside
  · have kept : ∀ j ∈ g.items, decide (j.number ∉ (g.cross i).gone)
        = (decide ((j.entry handles).handle ∉ [i.entry handles].map Entry.handle)
          && decide (j.number ∉ g.gone)) := by
      intro j hj
      rw [← Bool.decide_and]
      refine decide_eq_decide.mpr ?_
      simp only [Ledger.cross, List.mem_append, List.mem_singleton, List.map_cons, List.map_nil,
        not_or]
      refine ⟨fun ⟨there, other⟩ => ⟨fun same => other ?_, there⟩,
        fun ⟨other, there⟩ => ⟨there, fun same => other ?_⟩⟩
      · rw [h.eq_of_handle hj inside same]
      · rw [h.sound.eq_of_number hj inside same]
    have listed : (g.cross i).surviving = g.surviving.filter fun j =>
        decide ((j.entry handles).handle ∉ [i.entry handles].map Entry.handle) := by
      rw [surviving, surviving, List.filter_filter]
      exact List.filter_congr kept
    change b.entries.filter _ = _
    rw [h.entries, listed, List.filter_map]
    rfl
  · change (b.held x && decide (some x ∉ [i.entry handles].map Entry.key?))
      = (if i.keyId.text? = some x then none else g.key? x).isSome
    by_cases bound : i.keyId.text? = some x
    · simp [bound, Item.entry, Entry.key?]
    · have other : ¬ some x = i.keyId.text? := fun same => bound same.symm
      simp [bound, other, Item.entry, Entry.key?, h.held x]
  · change (if some x ∈ [i.entry handles].map Entry.key? then none else b.key? x)
      = if i.keyId.text? = some x then none else g.key? x
    simp only [List.map_cons, List.map_nil, List.mem_singleton, Item.entry, Entry.key?, h.key? x,
      eq_comm]

theorem Tells.add (h : g.Tells handles b) {e : Entry} {c : Certificate} {name id : Text}
    (gains : b.Gains e b') (last : b'.entries = b.entries ++ [e]) (new : e.handle ∉ handles)
    (named : e.name = name) (certificate : e.certificate = c)
    (bound : e.keyId = if b.held id then .text id else .null) :
    (g.next c name id).entry (handles ++ [e.handle]) = e ∧
      (g.add (g.next c name id)).Tells (handles ++ [e.handle]) b' := by
  obtain ⟨i, item⟩ : ∃ i, i = g.next c name id := ⟨_, rfl⟩
  have number : i.number = g.items.length := by rw [item]; rfl
  have entry : i.entry (handles ++ [e.handle]) = e := by
    have handle : (handles ++ [e.handle]).getD i.number [] = e.handle := by
      rw [number, ← h.count, List.getD_eq_getElem?_getD, List.getElem?_concat_length]
      rfl
    rw [Item.entry, handle, item, Ledger.next, ← h.held id, ← bound, ← named, ← certificate]
  rw [← item]
  refine ⟨entry, ⟨?_, fun j hj => List.mem_append_left _ (h.sound.returned j hj), fun n hn => ?_⟩,
    ?_, ?_, ?_, fun x => ?_, fun x => ?_, gains.locked.trans h.locked⟩
  · simp only [Ledger.add, List.map_append, h.sound.numbers, List.map_cons, List.map_nil, number,
      List.length_append, List.length_cons, List.length_nil, List.range_succ]
  · have less := h.sound.gone n hn
    simp only [Ledger.add, List.length_append, List.length_cons, List.length_nil]
    omega
  · simp only [Ledger.add, List.length_append, List.length_cons, List.length_nil, h.count]
  · rw [← List.concat_eq_append, List.nodup_concat]
    exact ⟨new, h.distinct⟩
  · have stays : i.number ∉ g.gone := fun gone => by
      have less := h.sound.gone _ gone
      omega
    have listed : (g.add i).surviving = g.surviving ++ [i] := by
      have alone : [i].filter (fun j => decide (j.number ∉ g.gone)) = [i] := by
        refine List.filter_eq_self.mpr fun j hj => ?_
        rw [List.mem_singleton.mp hj]
        exact decide_eq_true stays
      rw [surviving, Ledger.add, List.filter_append, alone]
      rfl
    rw [last, listed, List.map_append, h.entries, List.map_cons, List.map_nil, entry]
    refine congrArg (· ++ [e]) (List.map_congr_left fun j hj => ?_)
    have less := h.sound.less (mem_surviving.mp hj).1
    exact (Item.entry_append (h.count ▸ less) _).symm
  · rw [gains.held]
    exact h.held x
  · rw [gains.key?]
    exact h.key? x

end Ledger

end CertKeeper
