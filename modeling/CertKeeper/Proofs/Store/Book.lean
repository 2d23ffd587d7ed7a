import CertKeeper.Proofs.Action
import CertKeeper.Proofs.Encoding.KeyFile
import CertKeeper.Proofs.Encoding.Record
import Mathlib.Data.List.Nodup

/-!
# What a store holds

The contents of a store, whichever way it keeps them: its entries, oldest first, and its keys.
`KeyStore.Keeps` says what every call makes of them; all that is proved of keepers rests on it and
on nothing else that a store does.
-/

namespace CertKeeper

open X509

def Entry.key? (e : Entry) : Option Text := e.keyId.text?

@[ext]
structure Book where
  entries : List Entry
  /-- Whether there is a key of an identifier. -/
  held : Text → Bool
  /-- The key that signs for an identifier. -/
  key? : Text → Option PrivateKey
  /-- Why keys cannot be used, where they cannot. -/
  locked : Option Fault
  available : Bool
  around : Surroundings

namespace Book

/-- Nothing is held and keys can be made. -/
structure Empty (b : Book) : Prop where
  entries : b.entries = []
  held : ∀ id, b.held id = false
  locked : b.locked = none

/-! ### Changes -/

/-- Without entries, and without the keys that are bound to them. -/
def remove (b : Book) (es : List Entry) : Book :=
  { b with
    entries := b.entries.filter fun e => e.handle ∉ es.map Entry.handle
    held := fun id => b.held id && decide (some id ∉ es.map Entry.key?)
    key? := fun id => if some id ∈ es.map Entry.key? then none else b.key? id }

def dropKey (b : Book) (id : Text) : Book :=
  { b with
    held := fun x => b.held x && decide (x ≠ id)
    key? := fun x => if x = id then none else b.key? x }

def putKey (b : Book) (id : Text) (k : PrivateKey) : Book :=
  { b with
    held := fun x => b.held x || decide (x = id)
    key? := fun x => if x = id then some k else b.key? x }

def amid (b : Book) (a : Surroundings) : Book := { b with around := a }

/-- With one more entry, and nothing else changed but the surroundings. -/
structure Gains (b : Book) (e : Entry) (b' : Book) : Prop where
  entries : ∃ before after, b.entries = before ++ after ∧ b'.entries = before ++ e :: after
  held : b'.held = b.held
  key? : b'.key? = b.key?
  locked : b'.locked = b.locked
  available : b'.available = b.available

/-! ### Looking -/

def under (b : Book) (name : Text) : List Entry := b.entries.filter (·.name = name)

def first? (b : Book) (name : Text) : Option Entry := b.entries.find? (·.name = name)

theorem first?_eq (b : Book) (name : Text) : b.first? name = (b.under name).head? := by
  rw [first?, under, List.head?_filter]

/-! ### Sound contents -/

def isDigit (c : CodePoint) : Bool :=
  (48 ≤ c.val && c.val ≤ 57) || (97 ≤ c.val && c.val ≤ 102)

/-- An identifier of a key: 64 lower-case hexadecimal digits. -/
def isKeyId (id : Text) : Bool := id.length = 64 && id.all isDigit

/-- Entries have handles of their own and are bound to nothing but keys; what is not held does not
sign. -/
structure Sound (b : Book) : Prop where
  handles : (b.entries.map Entry.handle).Nodup
  keyIds : ∀ e ∈ b.entries, e.keyId = .null ∨ ∃ id, e.keyId = .text id ∧ isKeyId id = true
  keys : ∀ id, b.held id = false → b.key? id = none

theorem remove_nil (b : Book) : b.remove [] = b := by
  simp only [remove, List.map_nil, List.not_mem_nil, not_false_eq_true, decide_true,
    List.filter_true, Bool.and_true, if_false]

theorem remove_remove (b : Book) (es fs : List Entry) :
    (b.remove es).remove fs = b.remove (es ++ fs) := by
  have held : ∀ id, (b.held id && decide (some id ∉ es.map Entry.key?)
      && decide (some id ∉ fs.map Entry.key?))
      = (b.held id && decide (some id ∉ (es ++ fs).map Entry.key?)) := by
    intro id
    rw [List.map_append, Bool.and_assoc]
    congr 1
    simp only [List.mem_append, not_or, Bool.decide_and]
  simp only [remove, Book.mk.injEq, List.filter_filter, and_true]
  refine ⟨?_, funext held, ?_⟩
  · refine List.filter_congr fun e _ => ?_
    simp only [List.map_append, List.mem_append, not_or, Bool.decide_and]
    exact Bool.and_comm _ _
  · funext id
    simp only [List.map_append, List.mem_append]
    by_cases first : some id ∈ es.map Entry.key?
    · simp only [first, true_or, if_true, ite_self]
    · simp only [first, false_or, if_false]

theorem remove_unbound (b : Book) {e : Entry} (unbound : e.key? = none) :
    b.remove [e] = { b with entries := (b.remove [e]).entries } := by
  have held : (b.remove [e]).held = b.held := by
    funext id
    simp [remove, unbound]
  have keys : (b.remove [e]).key? = b.key? := by
    funext id
    simp [remove, unbound]
  exact Book.ext rfl held keys rfl rfl rfl

theorem remove_bound (b : Book) {e : Entry} {id : Text} (own : e.key? = some id) :
    b.remove [e] = ({ b with entries := (b.remove [e]).entries } : Book).dropKey id := by
  have held : (b.remove [e]).held = fun x => b.held x && decide (x ≠ id) := by
    funext x
    simp [remove, own]
  have keys : (b.remove [e]).key? = fun x => if x = id then none else b.key? x := by
    funext x
    simp [remove, own]
  exact Book.ext rfl held keys rfl rfl rfl

theorem Sound.remove {b : Book} (h : b.Sound) (es : List Entry) : (b.remove es).Sound := by
  have sub : List.Sublist (b.remove es).entries b.entries := List.filter_sublist
  refine ⟨h.handles.sublist (sub.map _), fun e he => h.keyIds e (sub.subset he), ?_⟩
  intro id gone
  by_cases bound : some id ∈ es.map Entry.key?
  · exact if_pos bound
  · change (b.held id && decide (some id ∉ es.map Entry.key?)) = false at gone
    rw [decide_eq_true bound, Bool.and_true] at gone
    exact (if_neg bound).trans (h.keys id gone)

theorem Sound.amid {b : Book} (h : b.Sound) (a : Surroundings) : (b.amid a).Sound :=
  ⟨h.handles, h.keyIds, h.keys⟩

theorem dropKey_putKey {b : Book} (h : b.Sound) {id : Text} (new : b.held id = false)
    (k : PrivateKey) : (b.putKey id k).dropKey id = b := by
  have held : (fun x => (b.held x || decide (x = id)) && decide (x ≠ id)) = b.held := by
    funext x
    by_cases same : x = id
    · rw [same, new]
      simp
    · simp [same]
  have keys : (fun x => if x = id then none else if x = id then some k else b.key? x)
      = b.key? := by
    funext x
    by_cases same : x = id
    · rw [if_pos same, same, h.keys id new]
    · rw [if_neg same, if_neg same]
  exact Book.ext rfl held keys rfl rfl rfl

theorem Sound.apart_of_under {b : Book} (h : b.Sound) {name : Text} {e : Entry} {rest : List Entry}
    (first : b.under name = e :: rest) : e.handle ∉ rest.map Entry.handle := by
  have nodup : ((e :: rest).map Entry.handle).Nodup := by
    rw [← first]
    exact h.handles.sublist (List.filter_sublist.map _)
  exact (List.nodup_cons.mp nodup).1

theorem under_remove {b : Book} (h : b.Sound) {name : Text} {e : Entry} {rest : List Entry}
    (first : b.under name = e :: rest) : (b.remove [e]).under name = rest := by
  have commuted : (b.remove [e]).under name
      = (b.under name).filter fun x => x.handle ∉ [e].map Entry.handle := by
    simp only [under, Book.remove, List.filter_filter]
    exact List.filter_congr fun x _ => Bool.and_comm _ _
  rw [commuted, first]
  have gone : decide (e.handle ∉ [e].map Entry.handle) = false := by simp
  rw [List.filter_cons_of_neg (by rw [gone]; decide), List.filter_eq_self]
  intro x hx
  refine decide_eq_true fun member => ?_
  rw [List.map_cons, List.map_nil, List.mem_singleton] at member
  exact h.apart_of_under first (member ▸ List.mem_map_of_mem hx)

theorem under_remove_under (b : Book) (name : Text) :
    (b.remove (b.under name)).under name = [] := by
  refine List.filter_eq_nil_iff.mpr fun x hx => ?_
  intro named
  obtain ⟨stored, kept⟩ := List.mem_filter.mp hx
  have member : x ∈ b.under name := List.mem_filter.mpr ⟨stored, named⟩
  exact of_decide_eq_true kept (List.mem_map_of_mem member)

theorem Gains.under_eq {b b' : Book} {e : Entry} (gains : b.Gains e b') {name : Text}
    (named : e.name = name) (none_ : b.under name = []) : b'.under name = [e] := by
  obtain ⟨before, after, was, is⟩ := gains.entries
  rw [under, was, List.filter_append, List.append_eq_nil_iff] at none_
  rw [under, is, List.filter_append, List.filter_cons, if_pos (decide_eq_true named), none_.1,
    none_.2]
  rfl

theorem under_remove_other {b : Book} (h : b.Sound) {name other : Text} (ne : other ≠ name)
    {es : List Entry} (own : ∀ e ∈ es, e ∈ b.entries ∧ e.name = name) :
    (b.remove es).under other = b.under other := by
  simp only [under, Book.remove, List.filter_filter]
  refine List.filter_congr fun x hx => ?_
  by_cases named : x.name = other
  · have kept : x.handle ∉ es.map Entry.handle := by
      intro member
      obtain ⟨e, he, same⟩ := List.mem_map.mp member
      obtain ⟨stored, belongs⟩ := own e he
      have eq := List.inj_on_of_nodup_map h.handles stored hx same
      exact ne (by rw [← named, ← eq, belongs])
    simp [named, kept]
  · simp [named]

end Book

/-! ### Identifiers of keys -/

namespace X509.PublicKey

theorem isKeyId_id (k : PublicKey) : Book.isKeyId k.id = true := by
  have length : (Crypto.sha256 k.info.bytes).length = 32 := rfl
  have digit : ∀ n, n < 16 → Book.isDigit (Text.hexPoint n) = true := by
    have all : ∀ m : Fin 16, Book.isDigit (Text.hexPoint m.val) = true := by decide +kernel
    exact fun n h => all ⟨n, h⟩
  rw [id, Book.isKeyId, HexText.length_hex, length, Bool.and_eq_true, List.all_eq_true]
  exact ⟨rfl, HexText.forall_mem_hex digit _⟩

end X509.PublicKey

theorem X509.Certificate.isKeyId_of_keyId {c : Certificate} {id : Text} (h : c.keyId = .ok id) :
    Book.isKeyId id = true := by
  unfold keyId at h
  cases key : c.publicKey with
  | error e =>
    rw [key] at h
    cases h
  | ok k =>
    rw [key] at h
    cases h
    exact k.isKeyId_id

def Suite.handleOf (suite : Suite) (k : PrivateKey) : KeyHandle :=
  ⟨(suite.publicKey k).id, suite.publicKey k⟩

theorem Suite.isKeyId_handleOf (suite : Suite) (k : PrivateKey) :
    Book.isKeyId (suite.handleOf k).keyId = true := (suite.publicKey k).isKeyId_id

/-! ### Locked stores -/

/-- A fault of a store that has no password yet, or that nobody has logged in to. -/
def Fault.IsShut (e : Fault) : Prop :=
  e = Fault.keyStore "Key store has not been initialized" ∨ e = Fault.keyStore "Key store is locked"

theorem not_isShut_of_foreign {e : Fault} (foreign : e.failure.isKeyStore = false) :
    ¬ e.IsShut := by
  rintro (rfl | rfl) <;> cases foreign

theorem not_isShut_explain (context : Text) (e : Fault) :
    ¬ (StoreFault.explain context e).IsShut := by
  by_cases text : e.HasText
  · rw [StoreFault.explain_of_hasText text]
    rintro (same | same) <;> cases congrArg Fault.causes same
  · obtain ⟨kind, m, thrown⟩ := StoreFault.explain_of_not_hasText text context
    exact not_isShut_of_foreign (thrown ▸ rfl)

theorem not_isShut_unknownKey (id : Text) : ¬ (Fault.keyStore ("Unknown key " ++ id)).IsShut := by
  rintro (same | same) <;> cases congrArg (fun e => e.message.head?) same

theorem not_isShut_ofGeneration {e : Fault} (foreign : e.failure.isKeyStore = false) :
    ¬ ((StoreFault.ofGeneration e).getD e).IsShut := by
  unfold StoreFault.ofGeneration
  split
  · exact not_isShut_explain _ e
  · exact not_isShut_of_foreign foreign

theorem not_isShut_ofSigning {e : Fault} (foreign : e.failure.isKeyStore = false) :
    ¬ ((StoreFault.ofSigning e).getD e).IsShut := by
  unfold StoreFault.ofSigning
  split
  · exact not_isShut_explain _ e
  · exact not_isShut_of_foreign foreign

/-! ### Calls of a store -/

namespace KeyStore

open CertKeeper.Action (Leads)

variable {σ : Type}

/-- What the calls of a store make of its contents.  `shows s b` says that the state `s` holds
what is in `b`; `ready` says that the surroundings are fit for writing, and `newest` that a new
entry comes last. -/
structure Keeps (store : KeyStore σ) (suite : Suite) (shows_ : σ → Book → Prop)
    (ready newest : Book → Prop) : Prop where
  sound : ∀ {s b}, shows_ s b → b.Sound
  horizon : ∀ {s b}, shows_ s b → b.entries.length < store.horizon s
  ready_mono : ∀ {b b' : Book}, ready b → (∀ e ∈ b'.entries, e ∈ b.entries) →
    b'.around.ticks = b.around.ticks → b'.around.token = b.around.token → ready b'
  lockedFault : ∀ {s b e}, shows_ s b → b.locked = some e → e.failure.lifecycle? = none
  isAvailable : ∀ b, Leads (shows_ · b) store.isAvailable fun o s =>
    shows_ s b ∧ o = .ok (.bool b.available)
  findByName : ∀ b name, Leads (shows_ · b) (store.findByName name) fun o s =>
    shows_ s b ∧ o = .ok (b.first? name)
  delete : ∀ b, ∀ e ∈ b.entries, Leads (shows_ · b) (store.delete e) fun o s =>
    shows_ s (b.remove [e]) ∧ o = .ok ()
  deleteKey : ∀ b id, Book.isKeyId id = true → Leads (shows_ · b) (store.deleteKey id) fun o s =>
    shows_ s (b.dropKey id) ∧ o = .ok ()
  generateLocked : ∀ b c e, b.locked = some e → Leads (shows_ · b) (store.generateKey c) fun o s =>
    shows_ s b ∧ o = .error e
  generateRefused : ∀ b c e a, b.locked = none → b.around.drawKey c = (.error e, a) →
    Leads (shows_ · b) (store.generateKey c) fun o s =>
      shows_ s (b.amid a) ∧ o = .error ((StoreFault.ofGeneration e).getD e)
  generateKey : ∀ b c k a, ready b → b.locked = none → b.around.drawKey c = (.ok k, a) → k.Valid →
    Leads (shows_ · b) (store.generateKey c) fun o s =>
      shows_ s ((b.amid a).putKey (suite.publicKey k).id k) ∧
        o = .ok ⟨(suite.publicKey k).id, suite.publicKey k⟩
  sign : ∀ b id k t choice, b.locked = none → b.key? id = some k →
    Leads (shows_ · b) (store.sign id t choice) fun o s =>
      shows_ s b ∧ o = (t.sign suite k choice).mapError fun e => (StoreFault.ofSigning e).getD e
  importRefused : ∀ b c name e, c.keyId = .error e →
    Leads (shows_ · b) (store.importCertificate c name) fun o s => shows_ s b ∧ o = .error e
  importCertificate : ∀ b c name id, ready b → Certificate.ofDer c.der = .ok c →
    c.keyId = .ok id → name.Valid →
    Leads (shows_ · b) (store.importCertificate c name) fun o s => ∃ e b',
      o = .ok e ∧ shows_ s b' ∧ b.Gains e b' ∧ e.name = name ∧ e.certificate = c ∧
        e.keyId = (if b.held id then .text id else .null) ∧
        (newest b → b'.entries = b.entries ++ [e])
  randomBytes : ∀ b n, Leads (shows_ · b) (store.randomBytes n) fun o s =>
    shows_ s (b.amid (b.around.draw n).2) ∧ o = (b.around.draw n).1.map Value.bytes

/-- What a sweep rests on: a store finds the first entry under a name and deletes entries. -/
structure Clears (store : KeyStore σ) (shows_ : σ → Book → Prop) : Prop where
  sound : ∀ {s b}, shows_ s b → b.Sound
  horizon : ∀ {s b}, shows_ s b → b.entries.length < store.horizon s
  findByName : ∀ b name, Leads (shows_ · b) (store.findByName name) fun o s =>
    shows_ s b ∧ o = .ok (b.first? name)
  delete : ∀ b, ∀ e ∈ b.entries, Leads (shows_ · b) (store.delete e) fun o s =>
    shows_ s (b.remove [e]) ∧ o = .ok ()

theorem Keeps.clears {store : KeyStore σ} {suite : Suite} {shows_ : σ → Book → Prop}
    {ready newest : Book → Prop} (h : store.Keeps suite shows_ ready newest) :
    store.Clears shows_ := ⟨h.sound, h.horizon, h.findByName, h.delete⟩

end KeyStore

end CertKeeper
