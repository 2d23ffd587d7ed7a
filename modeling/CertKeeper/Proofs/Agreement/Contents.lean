import CertKeeper.Proofs.Agreement.Ledger
import CertKeeper.Proofs.Keeper.Issued
import CertKeeper.Proofs.Provider

/-!
# Both stores tell the same

Whatever the two stores are asked about keys and entries, and in whichever order, both answer what
a ledger answers, and so the same.  Main statement: `Ledger.stores_agree`.
-/

namespace CertKeeper

open X509
open CertKeeper.Action (Leads start)

namespace Provider

variable {p : Provider}

/-! ### Handles that were given out -/

/-- The handles that a store has given out.  In memory they are numbered; those of a directory are
of times before the ones that are `ahead`. -/
def Numbered (ahead : List Int) : (p : Provider) → p.State → List Text → Prop
  | directory => fun _ handles => ∀ handle ∈ handles, ∃ t token,
      handle = Directory.State.nextHandle t token ∧ Directory.isToken token = true ∧ 0 ≤ t ∧
        t < 10 ^ 20 ∧ ∀ u ∈ ahead, t < u
  | memory => fun s handles => ∃ first, s.store.imported = first + handles.length ∧
      handles = (List.range' first handles.length).map fun n => "mem-" ++ Text.decimal (n + 1)

variable {ahead : List Int} {handles : List Text}

theorem numbered_amid {s : p.State} (h : p.Numbered ahead s handles) (a : Surroundings) :
    p.Numbered ahead (p.amid s a) handles := by
  cases p with
  | directory => exact h
  | memory => exact h

theorem canName_of_numbered {s : p.State} (h : p.Numbered ahead s handles) {handle : Text}
    (given : handle ∈ handles) : p.CanName handle := by
  cases p with
  | directory =>
    obtain ⟨t, token, rfl, word, early, late, _⟩ := h handle given
    obtain ⟨points, long, short⟩ :=
      Directory.nextHandle_spec word (show t.natAbs < 10 ^ 100 by omega)
    exact Directory.fileName_of_all points (by omega) (by omega)
  | memory => trivial

theorem directory_later {b : Book} {s : Directory.State} {a : Surroundings}
    (h : directory.Numbered (a.ticks :: ahead) s handles) (word : Directory.isToken a.token = true)
    (early : 0 ≤ a.ticks) (late : a.ticks < 10 ^ 20)
    (stored : ∀ e ∈ b.entries, e.handle ∈ handles) :
    Directory.State.nextHandle a.ticks a.token ∉ handles ∧
      Directory.Ready (fun _ => True) (b.amid a) ∧ Directory.Newest (b.amid a) := by
  have before : ∀ handle ∈ handles, handle ≠ Directory.State.nextHandle a.ticks a.token ∧
      Tree.textBefore (Directory.entryFile handle)
        (Directory.entryFile (Directory.State.nextHandle a.ticks a.token)) = true := by
    intro handle given
    obtain ⟨t, token, rfl, _, early', _, later⟩ := h handle given
    exact Directory.nextHandle_later early' (later _ List.mem_cons_self) late _ _
  have new : Directory.State.nextHandle a.ticks a.token ∉ handles := fun given =>
    (before _ given).1 rfl
  refine ⟨new, ⟨word, trivial, show a.ticks.natAbs < 10 ^ 100 by omega, fun member => ?_⟩, ?_⟩
  · obtain ⟨e, he, same⟩ := List.mem_map.mp member
    exact new (same ▸ stored e he)
  · intro e he
    exact (before _ (stored e he)).2

def nextHandle : (p : Provider) → p.State → Text
  | directory => fun s => Directory.State.nextHandle s.around.ticks s.around.token
  | memory => fun s => s.store.nextHandle

/-- A store that is asked at a time; in memory there is none. -/
def Timed (t : Int) : (p : Provider) → p.State → Prop
  | directory => fun s => s.around.ticks = t ∧ Directory.isToken s.around.token = true ∧ 0 ≤ t ∧
      t < 10 ^ 20
  | memory => fun _ => True

theorem numbered_mono {s : p.State} {ahead' : List Int} (h : p.Numbered ahead' s handles)
    (fewer : ∀ u ∈ ahead, u ∈ ahead') : p.Numbered ahead s handles := by
  cases p with
  | directory =>
    intro handle given
    obtain ⟨t, token, same, word, early, late, before⟩ := h handle given
    exact ⟨t, token, same, word, early, late, fun u hu => before u (fewer u hu)⟩
  | memory => exact h

theorem numbered_next {suite : Suite} {s : p.State} {b : Book} {t : Int}
    (h : p.Numbered (t :: ahead) s handles) (timed : p.Timed t s)
    (shows_ : p.Shows (fun _ => True) suite s b) (stored : ∀ e ∈ b.entries, e.handle ∈ handles) :
    p.nextHandle s ∉ handles ∧ p.Ready (fun _ => True) b ∧ p.Newest b := by
  cases p with
  | directory =>
    obtain ⟨rfl, word, early, late⟩ := timed
    obtain ⟨_, rfl⟩ := shows_
    exact directory_later h word early late stored
  | memory =>
    refine ⟨fun given => ?_, trivial, trivial⟩
    obtain ⟨first, counted, numbered⟩ := h
    rw [numbered, List.mem_map] at given
    obtain ⟨n, less, same⟩ := given
    have number := Text.decimal_injective (List.append_cancel_left same)
    have small := (List.mem_range'_1.mp less).2
    omega

theorem handle_importCertificate {suite : Suite} {c : Certificate} {id : Text}
    (key : c.keyId = .ok id) {name : Text} {r : Run p.State} {e : Entry}
    (ended : (start ((p.keyStore suite).importCertificate c name) r).1 = .ok e) :
    e.handle = p.nextHandle r.state := by
  cases p with
  | directory => exact Directory.handle_importCertificate ended
  | memory => exact (Memory.start_importCertificate key name r).2 e ended

theorem numbered_importCertificate {suite : Suite} {c : Certificate} {id : Text}
    (key : c.keyId = .ok id) (name : Text) {r : Run p.State} {t : Int}
    (h : p.Numbered (t :: ahead) r.state handles) (timed : p.Timed t r.state)
    (later : ∀ u ∈ ahead, t < u) :
    p.Numbered ahead (start ((p.keyStore suite).importCertificate c name) r).2.state
      (handles ++ [p.nextHandle r.state]) := by
  cases p with
  | directory =>
    obtain ⟨rfl, word, early, late⟩ := timed
    intro handle given
    rcases List.mem_append.mp given with old | new
    · obtain ⟨t, token, same, word, early, late, before⟩ := h handle old
      exact ⟨t, token, same, word, early, late, fun u hu => before u (List.mem_cons_of_mem _ hu)⟩
    · exact ⟨_, _, List.mem_singleton.mp new, word, early, late, later⟩
  | memory =>
    obtain ⟨first, counted, numbered⟩ := h
    obtain ⟨after, _⟩ := Memory.start_importCertificate key name r
    have length : (handles ++ [nextHandle memory r.state]).length = handles.length + 1 := by
      rw [List.length_append, List.length_cons, List.length_nil]
    refine ⟨first, ?_, ?_⟩
    · rw [length, ← Nat.add_assoc, ← counted]
      exact after
    · rw [length, List.range'_1_concat, List.map_append, ← numbered, ← counted]
      rfl

end Provider

namespace Ledger

/-! ### Scripts -/

structure Turn where
  call : Call
  memory : Surroundings
  directory : Surroundings

namespace Turn

def around (t : Turn) : Provider → Surroundings
  | .memory => t.memory
  | .directory => t.directory

def tick? (t : Turn) : Option Int := t.call.tick? t.directory.ticks

def draw (t : Turn) (c : Crypto.Curve) : Except Fault PrivateKey := (t.memory.drawKey c).1

/-- Both stores are given the same keys. -/
structure Fair (t : Turn) : Prop where
  token : Directory.isToken t.directory.token = true
  askable : t.call.Askable
  keys : ∀ c, t.call = .generateKey c → (t.directory.drawKey c).1 = t.draw c ∧
    ∀ k, t.draw c = .ok k → k.Valid

end Turn

/-- What the stores answer, turn by turn. -/
def session (suite : Suite) (p : Provider) :
    List Turn → Run p.State → List Entry → List (Except Fault (Answer Entry))
  | [], _, _ => []
  | t :: ts, r, returned =>
    let ended := start (t.call.perform (p.keyStore suite) returned)
      ⟨p.amid r.state (t.around p), r.journal, r.operation⟩
    ended.1 :: session suite p ts ended.2 (returned ++ Answer.given ended.1)

/-- What is to be answered, turn by turn. -/
def answers (suite : Suite) : List Turn → Ledger → List (Except Fault (Answer Item))
  | [], _ => []
  | t :: ts, g =>
    let ended := g.answer suite t.draw t.call
    ended.1 :: answers suite ts ended.2

/-! ### Answers that go together -/

/-- A store that has given out handles answers as the ledger does. -/
inductive Matches (handles : List Text) :
    Except Fault (Answer Item) → Except Fault (Answer Entry) → Prop
  | answered (a : Answer Item) (given : ∀ i ∈ a.entries, i.number < handles.length) :
      Matches handles (.ok a) (.ok (a.map (Item.entry handles)))
  | failed (f : Fault) : Matches handles (.error f) (.error f)
  | refused (f f' : Fault) (own : f.failure.isKeyStore = true)
      (own' : f'.failure.isKeyStore = true) : Matches handles (.error f) (.error f')

variable {handles : List Text} {o : Except Fault (Answer Item)} {o' : Except Fault (Answer Entry)}

theorem Answer.map_congr {ε δ : Type} {f f' : ε → δ} {a : Answer ε}
    (h : ∀ e ∈ a.entries, f e = f' e) : a.map f = a.map f' := by
  cases a with
  | found e =>
    cases e with
    | none => rfl
    | some e => exact congrArg (fun e => Answer.found (some e)) (h e List.mem_cons_self)
  | imported e => exact congrArg Answer.imported (h e List.mem_cons_self)
  | _ => rfl

theorem Matches.append (h : Matches handles o o') (more : List Text) :
    Matches (handles ++ more) o o' := by
  cases h with
  | answered a given =>
    have same : a.map (Item.entry handles) = a.map (Item.entry (handles ++ more)) :=
      Answer.map_congr fun i hi => (Item.entry_append (given i hi) more).symm
    rw [same]
    refine .answered a fun i hi => ?_
    have less := given i hi
    rw [List.length_append]
    omega
  | failed f => exact .failed f
  | refused f f' own own' => exact .refused f f' own own'

theorem Matches.given (h : Matches handles o o') :
    Answer.given o' = (Answer.given o).map (Item.entry handles) := by
  cases h with
  | answered a given => exact a.entries_map _
  | failed f => rfl
  | refused f f' own own' => rfl

theorem returned_answer (suite : Suite) (draw : Crypto.Curve → Except Fault PrivateKey) (g : Ledger)
    (call : Call) : (g.answer suite draw call).2.returned
      = g.returned ++ Answer.given (g.answer suite draw call).1 := by
  cases call with
  | find name => rfl
  | importCertificate c name =>
    simp only [answer]
    split
    · exact (List.append_nil _).symm
    · rfl
  | delete place =>
    simp only [answer]
    split
    · exact (List.append_nil _).symm
    · split
      · exact (List.append_nil _).symm
      · exact (List.append_nil _).symm
  | deleteKey id => exact (List.append_nil _).symm
  | generateKey c =>
    simp only [answer]
    split
    · exact (List.append_nil _).symm
    · exact (List.append_nil _).symm
  | sign id t choice =>
    simp only [answer]
    split
    · exact (List.append_nil _).symm
    · cases t.sign suite _ choice with
      | error e => exact (List.append_nil _).symm
      | ok c => exact (List.append_nil _).symm

/-! ### Calls -/

section Calls

variable {suite : Suite} {p : Provider} {g : Ledger} {b : Book} {returned : List Entry}
  {draw : Crypto.Curve → Except Fault PrivateKey}

/-- A call ends with what the ledger answers, and the store holds what is in the ledger then. -/
def Ends (suite : Suite) (p : Provider) (handles : List Text)
    (out : Except Fault (Answer Item) × Ledger) (o : Except Fault (Answer Entry)) (s : p.State) :
    Prop :=
  Matches handles out.1 o ∧ ∃ b, p.Shows (fun _ => True) suite s b ∧ out.2.Tells handles b

theorem ends_find (laws : suite.Lawful) (tells : g.Tells handles b) (name : Text) :
    Leads (p.Shows (fun _ => True) suite · b)
      ((Call.find name).perform (p.keyStore suite) returned)
      (Ends suite p handles (g.answer suite draw (.find name))) := by
  have keeps := Provider.keeps laws (fun _ => True) p
  refine (keeps.findByName b name).bind_ok ?_
  refine Action.leads_pure fun s shows_ => ?_
  have inside : ∀ i ∈ (g.first? name).toList, i ∈ g.items := by
    intro i hi
    have found : g.surviving.find? (·.name = name) = some i := Option.mem_toList.mp hi
    exact (mem_surviving.mp (List.mem_of_find?_eq_some found)).1
  refine ⟨?_, b, shows_, tells.give inside⟩
  rw [tells.first?]
  refine Matches.answered (.found (g.first? name)) fun i hi => ?_
  rw [tells.count]
  exact tells.sound.less (inside i hi)

theorem ends_importRefused (laws : suite.Lawful) (tells : g.Tells handles b) {c : Certificate}
    {e : Fault} (refused : c.keyId = .error e) (name : Text) :
    Leads (p.Shows (fun _ => True) suite · b)
      ((Call.importCertificate c name).perform (p.keyStore suite) returned)
      (Ends suite p handles (g.answer suite draw (.importCertificate c name))) := by
  have keeps := Provider.keeps laws (fun _ => True) p
  have answered : g.answer suite draw (.importCertificate c name) = (.error e, g) := by
    simp only [answer, refused]
  rw [answered]
  refine (keeps.importRefused b c name e refused).bind ?_ fun e' => ?_
  · rintro f s ⟨shows_, ended⟩
    cases ended
    exact ⟨.failed e, b, shows_, tells⟩
  · rintro r ⟨_, impossible⟩
    cases impossible

theorem ends_delete (laws : suite.Lawful) (tells : g.Tells handles b)
    (same : returned = g.returned.map (Item.entry handles))
    (names : ∀ handle ∈ handles, p.CanName handle) (place : Nat) :
    Leads (p.Shows (fun _ => True) suite · b)
      ((Call.delete place).perform (p.keyStore suite) returned)
      (Ends suite p handles (g.answer suite draw (.delete place))) := by
  have keeps := Provider.keeps laws (fun _ => True) p
  simp only [answer, Call.perform]
  have there : returned[place]? = g.returned[place]?.map (Item.entry handles) := by
    rw [same, List.getElem?_map]
  rw [there]
  cases listed : g.returned[place]? with
  | none =>
    exact Action.leads_pure fun s shows_ =>
      ⟨.answered .done (List.forall_mem_nil _), b, shows_, tells⟩
  | some i =>
    have inside := tells.sound.returned i (List.mem_of_getElem? listed)
    simp only [Option.map_some]
    split
    next gone =>
      refine (Provider.leads_delete_unknown (names _ (tells.handle_mem inside))
        (tells.not_mem_of_gone inside gone)).bind ?_ fun u => ?_
      · rintro f s ⟨shows_, ended⟩
        cases ended
        exact ⟨.refused _ _ rfl rfl, b, shows_, tells⟩
      · rintro r ⟨_, impossible⟩
        cases impossible
    next left =>
      obtain ⟨stored, crossed⟩ := tells.cross inside left
      refine (keeps.delete b _ stored).bind_ok ?_
      exact Action.leads_pure fun s shows_ =>
        ⟨.answered .done (List.forall_mem_nil _), _, shows_, crossed⟩

theorem ends_deleteKey (laws : suite.Lawful) (tells : g.Tells handles b) {id : Text}
    (key : Book.isKeyId id = true) :
    Leads (p.Shows (fun _ => True) suite · b)
      ((Call.deleteKey id).perform (p.keyStore suite) returned)
      (Ends suite p handles (g.answer suite draw (.deleteKey id))) := by
  have keeps := Provider.keeps laws (fun _ => True) p
  refine (keeps.deleteKey b id key).bind_ok ?_
  exact Action.leads_pure fun s shows_ =>
    ⟨.answered .done (List.forall_mem_nil _), _, shows_, tells.dropKey id⟩

theorem ends_generateKey (laws : suite.Lawful) (tells : g.Tells handles b)
    (able : p.Able (fun _ => True) b.around) {c : Crypto.Curve}
    (same : (b.around.drawKey c).1 = draw c) (valid : ∀ k, draw c = .ok k → k.Valid) :
    Leads (p.Shows (fun _ => True) suite · b)
      ((Call.generateKey c).perform (p.keyStore suite) returned)
      (Ends suite p handles (g.answer suite draw (.generateKey c))) := by
  have keeps := Provider.keeps laws (fun _ => True) p
  have drew : b.around.drawKey c = (draw c, (b.around.drawKey c).2) := by rw [← same]
  simp only [answer]
  cases outcome : draw c with
  | error e =>
    rw [outcome] at drew
    refine (keeps.generateRefused b c e _ tells.locked drew).bind ?_ fun k => ?_
    · rintro f s ⟨shows_, ended⟩
      cases ended
      exact ⟨.failed _, _, shows_, tells.amid _⟩
    · rintro r ⟨_, impossible⟩
      cases impossible
  | ok k =>
    rw [outcome] at drew
    refine (Provider.leads_generateKey laws able tells.locked drew (valid k outcome)).bind_ok ?_
    exact Action.leads_pure fun s shows_ => ⟨.answered (.key _) (List.forall_mem_nil _), _, shows_,
      (tells.amid _).putKey _ k⟩

theorem ends_sign (laws : suite.Lawful) (tells : g.Tells handles b) {id : Text}
    (key : Book.isKeyId id = true) (t : Template) (choice : Template.DigestChoice) :
    Leads (p.Shows (fun _ => True) suite · b)
      ((Call.sign id t choice).perform (p.keyStore suite) returned)
      (Ends suite p handles (g.answer suite draw (.sign id t choice))) := by
  have keeps := Provider.keeps laws (fun _ => True) p
  simp only [answer]
  cases known : g.key? id with
  | none =>
    have unknown : b.held id = false := by rw [tells.held, known]; rfl
    refine (Provider.leads_sign_unknown key tells.locked unknown t choice).bind ?_ fun c => ?_
    · rintro f s ⟨shows_, ended⟩
      cases ended
      exact ⟨.failed _, b, shows_, tells⟩
    · rintro r ⟨_, impossible⟩
      cases impossible
  | some k =>
    have found : b.key? id = some k := (tells.key? id).trans known
    simp only
    refine (keeps.sign b id k t choice tells.locked found).bind ?_ fun c => ?_
    · rintro f s ⟨shows_, ended⟩
      rw [← ended]
      exact ⟨.failed _, b, shows_, tells⟩
    · rintro r ⟨shows_, ended⟩
      rw [← ended]
      exact ⟨.answered (.certificate c) (List.forall_mem_nil _), b, shows_, tells⟩

theorem ends_importCertificate (laws : suite.Lawful) (tells : g.Tells handles b) {c : Certificate}
    {name id : Text} (key : c.keyId = .ok id) (valid : name.Valid)
    (readable : Certificate.ofDer c.der = .ok c) {r : Run p.State} {t : Int} {ahead : List Int}
    (shows_ : p.Shows (fun _ => True) suite r.state b)
    (numbered : p.Numbered (t :: ahead) r.state handles) (timed : p.Timed t r.state) :
    Ends suite p (handles ++ [p.nextHandle r.state])
      (g.answer suite draw (.importCertificate c name))
      (start ((Call.importCertificate c name).perform (p.keyStore suite) returned) r).1
      (start ((Call.importCertificate c name).perform (p.keyStore suite) returned) r).2.state := by
  have keeps := Provider.keeps laws (fun _ => True) p
  obtain ⟨new, ready, newest⟩ := Provider.numbered_next numbered timed shows_
    fun e stored => tells.mem_handles stored
  obtain ⟨e, b', ended, shows', gains, named, certificate, bound, last⟩ :=
    keeps.importCertificate b c name id ready readable key valid r shows_
  have handle := Provider.handle_importCertificate key ended
  rw [← handle] at new ⊢
  obtain ⟨entry, added⟩ := tells.add gains (last newest) new named certificate bound
  have answered : g.answer suite draw (.importCertificate c name)
      = (.ok (.imported (g.next c name id)),
          (g.add (g.next c name id)).give [g.next c name id]) := by
    simp only [answer, key]
  have performed : (start ((Call.importCertificate c name).perform (p.keyStore suite) returned) r).1
      = .ok (.imported e) := by
    rw [Call.perform, Action.start_bind_ok (Prod.ext ended rfl)]
    rfl
  rw [answered, performed]
  have inside : ∀ i ∈ [g.next c name id], i ∈ (g.add (g.next c name id)).items := by
    intro i hi
    exact List.mem_append_right _ hi
  refine ⟨?_, b', ?_, added.give inside⟩
  · have matched : Matches (handles ++ [e.handle]) (.ok (.imported (g.next c name id)))
        (.ok ((Answer.imported (g.next c name id)).map (Item.entry (handles ++ [e.handle])))) := by
      refine .answered _ fun i hi => ?_
      rw [List.mem_singleton.mp hi, List.length_append, tells.count]
      exact Nat.lt_succ_self _
    rwa [Answer.map, entry] at matched
  · rw [Call.perform, Action.state_map]
    exact shows'

theorem numbered_perform {call : Call} {ahead : List Int}
    (other : ∀ c name, call = .importCertificate c name → ∃ e, c.keyId = .error e) :
    Leads (p.Numbered ahead · handles) (call.perform (p.keyStore suite) returned)
      fun _ s => p.Numbered ahead s handles := by
  cases p with
  | directory => exact fun r h => h
  | memory =>
    intro r h
    have imported : (start (call.perform (Provider.memory.keyStore suite) returned)
        r).2.state.store.imported = r.state.store.imported := by
      cases call with
      | find name => rfl
      | importCertificate c name =>
        obtain ⟨e, refused⟩ := other c name rfl
        rw [Call.perform, Action.state_map]
        exact Memory.imported_importRefused refused name r
      | delete place =>
        rw [Call.perform]
        cases returned[place]? with
        | none => rfl
        | some e =>
          simp only
          rw [Action.state_map]
          exact Memory.imported_delete e r
      | deleteKey id => rfl
      | generateKey c =>
        rw [Call.perform, Action.state_map]
        exact Memory.imported_generateKey suite c r
      | sign id t choice =>
        rw [Call.perform, Action.state_map]
        exact Memory.imported_sign suite id t choice r
    obtain ⟨first, counted, numbered⟩ := h
    exact ⟨first, imported.trans counted, numbered⟩

end Calls

/-! ### Sessions -/

section Sessions

variable {suite : Suite} {p : Provider} {ahead : List Int} {g : Ledger} {handles : List Text}

/-- A store holds what is in a ledger; its handles are earlier than the times that are `ahead`. -/
structure Follows (suite : Suite) (p : Provider) (ahead : List Int) (g : Ledger)
    (handles : List Text) (s : p.State) : Prop where
  tells : ∃ b, p.Shows (fun _ => True) suite s b ∧ g.Tells handles b
  numbered : p.Numbered ahead s handles

theorem follows_of_ends {call : Call} {draw : Crypto.Curve → Except Fault PrivateKey}
    (other : ∀ c name, call = .importCertificate c name → ∃ e, c.keyId = .error e)
    {returned : List Entry} {b : Book} {times : List Int} (fewer : ∀ u ∈ ahead, u ∈ times)
    (ends : Leads (p.Shows (fun _ => True) suite · b) (call.perform (p.keyStore suite) returned)
      (Ends suite p handles (g.answer suite draw call))) {r : Run p.State}
    (shows_ : p.Shows (fun _ => True) suite r.state b)
    (numbered : p.Numbered times r.state handles) :
    let out := g.answer suite draw call
    let ended := start (call.perform (p.keyStore suite) returned) r
    ∃ more, Matches (handles ++ more) out.1 ended.1 ∧
      Follows suite p ahead out.2 (handles ++ more) ended.2.state := by
  obtain ⟨matched, held⟩ := ends r shows_
  have numbered' := @numbered_perform handles suite p returned call ahead other r
    (Provider.numbered_mono numbered fewer)
  refine ⟨[], ?_, ?_⟩
  · rw [List.append_nil]
    exact matched
  · rw [List.append_nil]
    exact ⟨held, numbered'⟩

theorem follows_call (laws : suite.Lawful) {call : Call} (askable : call.Askable)
    {draw : Crypto.Curve → Except Fault PrivateKey} {b : Book} (tells : g.Tells handles b)
    (able : p.Able (fun _ => True) b.around)
    (keys : ∀ c, call = .generateKey c → (b.around.drawKey c).1 = draw c ∧
      ∀ k, draw c = .ok k → k.Valid) {r : Run p.State}
    (shows_ : p.Shows (fun _ => True) suite r.state b) {u : Int}
    (numbered : p.Numbered ((call.tick? u).toList ++ ahead) r.state handles)
    (timed : call.tick? u = some u → p.Timed u r.state ∧ ∀ v ∈ ahead, u < v) :
    let out := g.answer suite draw call
    let ended := start (call.perform (p.keyStore suite) (g.returned.map (Item.entry handles))) r
    ∃ more, Matches (handles ++ more) out.1 ended.1 ∧
      Follows suite p ahead out.2 (handles ++ more) ended.2.state := by
  have fewer : ∀ v ∈ ahead, v ∈ (call.tick? u).toList ++ ahead :=
    fun v hv => List.mem_append_right _ hv
  cases call with
  | find name =>
    exact follows_of_ends (by simp) fewer (ends_find laws tells name) shows_ numbered
  | importCertificate c name =>
    cases key : c.keyId with
    | error e =>
      have other : ∀ c' name', Call.importCertificate c name = .importCertificate c' name' →
          ∃ e, c'.keyId = .error e := by
        rintro c' name' same
        cases same
        exact ⟨e, key⟩
      exact follows_of_ends other fewer (ends_importRefused laws tells key name) shows_ numbered
    | ok id =>
      obtain ⟨timed, later⟩ := timed rfl
      obtain ⟨matched, held⟩ := @ends_importCertificate handles suite p g b
        (g.returned.map (Item.entry handles)) draw laws tells c name id key askable.1 askable.2 r u
        ahead shows_ numbered timed
      have numbered' := @Provider.numbered_importCertificate p ahead handles suite c id key name r u
        numbered timed later
      refine ⟨[p.nextHandle r.state], matched, held, ?_⟩
      rw [Call.perform, Action.state_map]
      exact numbered'
  | delete place =>
    have names : ∀ handle ∈ handles, p.CanName handle :=
      fun handle given => Provider.canName_of_numbered numbered given
    exact follows_of_ends (by simp) fewer (ends_delete laws tells rfl names place) shows_ numbered
  | deleteKey id =>
    exact follows_of_ends (by simp) fewer (ends_deleteKey laws tells askable) shows_ numbered
  | generateKey c =>
    obtain ⟨same, valid⟩ := keys c rfl
    exact follows_of_ends (by simp) fewer (ends_generateKey laws tells able same valid) shows_
      numbered
  | sign id t choice =>
    exact follows_of_ends (by simp) fewer (ends_sign laws tells askable t choice) shows_ numbered

/-- One turn: the store answers as the ledger does, gives back the same items, and still holds what
is in the ledger.  The time that it reads is used up; the ones `ahead` are later. -/
theorem follows_turn (laws : suite.Lawful) {t : Turn} (fair : t.Fair)
    (increasing : (t.tick?.toList ++ ahead).Pairwise (· < ·))
    (bounded : ∀ u ∈ t.tick?.toList, 0 ≤ u ∧ u < 10 ^ 20) {r : Run p.State}
    (follows : Follows suite p (t.tick?.toList ++ ahead) g handles r.state) :
    let out := g.answer suite t.draw t.call
    let ended := start (t.call.perform (p.keyStore suite) (g.returned.map (Item.entry handles)))
      ⟨p.amid r.state (t.around p), r.journal, r.operation⟩
    ∃ more, Matches (handles ++ more) out.1 ended.1 ∧
      Follows suite p ahead out.2 (handles ++ more) ended.2.state ∧
      out.2.returned.map (Item.entry (handles ++ more))
        = g.returned.map (Item.entry handles) ++ Answer.given ended.1 := by
  intro out ended
  obtain ⟨b, shown, tells⟩ := follows.tells
  obtain ⟨_, _, later⟩ := List.pairwise_append.mp increasing
  have around := Provider.shows_amid shown (t.around p)
  have able : p.Able (fun _ => True) (b.amid (t.around p)).around := by
    cases p with
    | directory => exact ⟨fair.token, trivial⟩
    | memory => trivial
  have keys : ∀ c, t.call = .generateKey c →
      ((b.amid (t.around p)).around.drawKey c).1 = t.draw c ∧
        ∀ k, t.draw c = .ok k → k.Valid := by
    intro c call
    obtain ⟨same, valid⟩ := fair.keys c call
    refine ⟨?_, valid⟩
    cases p with
    | directory => exact same
    | memory => rfl
  have timed : t.call.tick? t.directory.ticks = some t.directory.ticks →
      p.Timed t.directory.ticks (p.amid r.state (t.around p)) ∧
        ∀ v ∈ ahead, t.directory.ticks < v := by
    intro reads
    have first : t.directory.ticks ∈ t.tick?.toList := by
      rw [Turn.tick?, reads]
      exact List.mem_singleton_self _
    obtain ⟨early, late⟩ := bounded _ first
    refine ⟨?_, fun v hv => later _ first v hv⟩
    cases p with
    | directory => exact ⟨rfl, fair.token, early, late⟩
    | memory => trivial
  obtain ⟨more, matched, follows'⟩ := @follows_call suite p ahead g handles laws
    t.call fair.askable t.draw (b.amid (t.around p)) (tells.amid _) able keys
    ⟨p.amid r.state (t.around p), r.journal, r.operation⟩ around t.directory.ticks
    (Provider.numbered_amid follows.numbered _) timed
  refine ⟨more, matched, follows', ?_⟩
  rw [returned_answer, List.map_append, ← matched.given]
  congr 1
  refine List.map_congr_left fun i hi => ?_
  have less := tells.sound.less (tells.sound.returned i hi)
  exact Item.entry_append (tells.count ▸ less) _

/-- What a store answers in a session is what the ledger answers. -/
theorem matches_session (laws : suite.Lawful) {script : List Turn} (fair : ∀ t ∈ script, t.Fair)
    (increasing : (script.filterMap Turn.tick?).Pairwise (· < ·))
    (bounded : ∀ u ∈ script.filterMap Turn.tick?, 0 ≤ u ∧ u < 10 ^ 20) {r : Run p.State}
    (follows : Follows suite p (script.filterMap Turn.tick?) g handles r.state) :
    ∃ given, handles <+: given ∧ given.Nodup ∧ List.Forall₂ (Matches given)
      (answers suite script g)
      (session suite p script r (g.returned.map (Item.entry handles))) := by
  -- On the script; `Follows` is what a turn keeps.  Answers are matched over the handles that are
  -- given out in the end, of which those given out so far are the first.
  induction script generalizing g handles r with
  | nil =>
    obtain ⟨b, _, tells⟩ := follows.tells
    exact ⟨handles, List.prefix_refl _, tells.distinct, .nil⟩
  | cons t ts ih =>
    obtain ⟨fair_t, fair_ts⟩ := List.forall_mem_cons.mp fair
    have ticks : (t :: ts).filterMap Turn.tick? = t.tick?.toList ++ ts.filterMap Turn.tick? := by
      rw [List.filterMap_cons]
      cases t.tick? <;> rfl
    rw [ticks] at increasing bounded follows
    obtain ⟨more, matched, follows', returned⟩ := follows_turn laws fair_t increasing
      (fun u hu => bounded u (List.mem_append_left _ hu)) follows
    obtain ⟨given, before, distinct, rest⟩ := ih fair_ts (List.pairwise_append.mp increasing).2.1
      (fun u hu => bounded u (List.mem_append_right _ hu)) follows'
    rw [returned] at rest
    refine ⟨given, (List.prefix_append _ _).trans before, distinct, ?_⟩
    obtain ⟨later, rfl⟩ := before
    exact .cons (matched.append later) rest

end Sessions

/-! ### Both stores -/

/-- Two stores that have given out handles agree: both fail as stores do, or with the same fault, or
both answer the same about the same items. -/
inductive Agrees (given given' : List Text) :
    Except Fault (Answer Entry) → Except Fault (Answer Entry) → Prop
  | answered (a : Answer Item)
      (known : ∀ i ∈ a.entries, i.number < given.length ∧ i.number < given'.length) :
      Agrees given given' (.ok (a.map (Item.entry given))) (.ok (a.map (Item.entry given')))
  | failed (f : Fault) : Agrees given given' (.error f) (.error f)
  | refused (f f' : Fault) (own : f.failure.isKeyStore = true)
      (own' : f'.failure.isKeyStore = true) : Agrees given given' (.error f) (.error f')

theorem Matches.agrees {given given' : List Text} {o : Except Fault (Answer Item)}
    {o₁ o₂ : Except Fault (Answer Entry)} (h : Matches given o o₁) (h' : Matches given' o o₂) :
    Agrees given given' o₁ o₂ := by
  cases h with
  | answered a known =>
    cases h' with
    | answered a known' => exact .answered a fun i hi => ⟨known i hi, known' i hi⟩
  | failed f =>
    cases h' with
    | failed f => exact .failed f
    | refused f f' own own' => exact .refused f f' own own'
  | refused f f' own own' =>
    cases h' with
    | failed f => exact .refused f' f own' own
    | refused f f'' own own'' => exact .refused f' f'' own' own''

theorem agrees_of_matches {given given' : List Text} {os : List (Except Fault (Answer Item))}
    {os₁ os₂ : List (Except Fault (Answer Entry))} (h : List.Forall₂ (Matches given) os os₁)
    (h' : List.Forall₂ (Matches given') os os₂) : List.Forall₂ (Agrees given given') os₁ os₂ := by
  induction h generalizing os₂ with
  | nil =>
    cases h'
    exact .nil
  | cons first _ ih =>
    cases h' with
    | cons first' rest' => exact .cons (first.agrees first') (ih rest')

theorem follows_new {suite : Suite} {p : Provider} (ahead : List Int) {s : p.State}
    (sound : p.Sound (fun _ => True) s) (empty : (p.book suite s).Empty)
    (unkeyed : ∀ id, (p.book suite s).key? id = none) : Follows suite p ahead new [] s := by
  have tells : new.Tells [] (p.book suite s) := by
    refine ⟨⟨rfl, List.forall_mem_nil _, List.forall_mem_nil _⟩, rfl, List.nodup_nil, ?_, ?_, ?_,
      empty.locked⟩
    · rw [empty.entries]
      rfl
    · exact fun id => empty.held id
    · exact unkeyed
  refine ⟨⟨_, ⟨sound, rfl⟩, tells⟩, ?_⟩
  cases p with
  | directory => exact List.forall_mem_nil _
  | memory => exact ⟨s.store.imported, rfl, rfl⟩

/-- Whatever is asked of a new store in memory and of a new store in a directory, both with the
empty password, in whichever order: both answer what the ledger answers, and so the same; handles
that are given out are never the same. -/
theorem stores_agree {suite : Suite} (laws : suite.Lawful) {script : List Turn}
    (fair : ∀ t ∈ script, t.Fair) (increasing : (script.filterMap Turn.tick?).Pairwise (· < ·))
    (bounded : ∀ u ∈ script.filterMap Turn.tick?, 0 ≤ u ∧ u < 10 ^ 20)
    {m : Run (Provider.State .memory)} (blank : Provider.memory.Blank m.state)
    {d : Run (Provider.State .directory)} (blank' : Provider.directory.Blank d.state) :
    let inMemory := session suite .memory script (start (Provider.initialise suite .memory) m).2 []
    let onDisk := session suite .directory script
      (start (Provider.initialise suite .directory) d).2 []
    ∃ given given' : List Text, given.Nodup ∧ given'.Nodup ∧
      List.Forall₂ (Agrees given given') inMemory onDisk ∧
      List.Forall₂ (Matches given) (answers suite script new) inMemory ∧
      List.Forall₂ (Matches given') (answers suite script new) onDisk := by
  intro inMemory onDisk
  have told {p : Provider} {r : Run p.State} (blank : p.Blank r.state) : ∃ given, given.Nodup ∧
      List.Forall₂ (Matches given) (answers suite script new)
        (session suite p script (start (p.initialise suite) r).2 []) := by
    obtain ⟨s, journal, initialised, sound, empty⟩ := @Provider.start_initialise suite p r blank
    have contents := (Provider.keeps laws (fun _ => True) p).sound ⟨sound, rfl⟩
    obtain ⟨given, _, distinct, matched⟩ := @matches_session suite p new [] laws script fair
      increasing bounded ⟨s, journal, r.operation⟩ (follows_new _ sound empty
        fun id => contents.keys id (empty.held id))
    rw [initialised]
    exact ⟨given, distinct, matched⟩
  obtain ⟨given, distinct, matched⟩ := told blank
  obtain ⟨given', distinct', matched'⟩ := told blank'
  exact ⟨given, given', distinct, distinct', agrees_of_matches matched matched', matched, matched'⟩

/-! ### A session -/

/-- A key is made, and a certificate is imported, found, and deleted twice. -/
def five (c : Certificate) : List Turn :=
  [⟨.generateKey .p256, Provider.atTime 0, Provider.atTime 0⟩,
    ⟨.importCertificate c "server", Provider.atTime 1, Provider.atTime 1⟩,
    ⟨.find "server", Provider.atTime 2, Provider.atTime 2⟩,
    ⟨.delete 1, Provider.atTime 3, Provider.atTime 3⟩,
    ⟨.delete 0, Provider.atTime 4, Provider.atTime 4⟩]

theorem exists_readable : ∃ c : Certificate, Certificate.ofDer c.der = .ok c := by
  obtain ⟨_, content, accepted⟩ := Identity.accepted_of_check
    (show Identity.check (.text "server") = .ok "server" from rfl)
  have valid : PrivateKey.Valid ⟨.p256, 1⟩ := ⟨by decide, by decide⟩
  have writable : (Time.ofWall (Provider.atTime 0).now.wall).Writable :=
    Time.writable_ofWall (by decide) (by decide)
  obtain ⟨c, _, issued⟩ := Keeper.issued_of_sign Suite.lawful_lenient valid accepted
    (t := ⟨some (Name.ofCommonName content), some (Name.ofCommonName content),
      some (Suite.lenient.publicKey ⟨.p256, 1⟩), some 1, some (Provider.atTime 0).now.wall,
      some (Provider.atTime 0).now.wall, _⟩) rfl writable writable (by decide)
  exact ⟨c, issued.readable⟩

theorem fair_five {c : Certificate} (readable : Certificate.ofDer c.der = .ok c) :
    ∀ t ∈ five c, t.Fair := by
  have word (n : Int) : Directory.isToken (Provider.atTime n).token = true := by
    change Directory.isToken "0123456789abcdef0123456789abcdef" = true
    decide +kernel
  obtain ⟨_, _, accepted⟩ := Identity.accepted_of_check
    (show Identity.check (.text "server") = .ok "server" from rfl)
  have drawn : ∀ k, ((Provider.atTime 0).drawKey .p256).1 = .ok k → k.Valid := by
    intro k drew
    cases drew
    exact ⟨by decide, by decide⟩
  have first : Turn.Fair ⟨.generateKey .p256, Provider.atTime 0, Provider.atTime 0⟩ := by
    refine ⟨word 0, trivial, fun c same => ?_⟩
    cases same
    exact ⟨rfl, drawn⟩
  exact List.forall_mem_cons.mpr ⟨first, List.forall_mem_cons.mpr
    ⟨⟨word 1, ⟨accepted.valid, readable⟩, by simp⟩, List.forall_mem_cons.mpr
    ⟨⟨word 2, trivial, by simp⟩, List.forall_mem_cons.mpr
    ⟨⟨word 3, trivial, by simp⟩, List.forall_mem_cons.mpr
    ⟨⟨word 4, trivial, by simp⟩, List.forall_mem_nil _⟩⟩⟩⟩⟩

theorem stores_agree_five :
    let m : Run (Provider.State .memory) :=
      ⟨(⟨Memory.Store.new none, Provider.atTime 0⟩ : Memory.State), [], none⟩
    let d : Run (Provider.State .directory) := ⟨Provider.emptyDirectory, [], none⟩
    ∃ (c : Certificate) (given given' : List Text), given.Nodup ∧ given'.Nodup ∧
      List.Forall₂ (Agrees given given')
        (session Suite.lenient .memory (five c)
          (start (Provider.initialise Suite.lenient .memory) m).2 [])
        (session Suite.lenient .directory (five c)
          (start (Provider.initialise Suite.lenient .directory) d).2 []) := by
  intro m d
  obtain ⟨c, readable⟩ := exists_readable
  have ticks : (five c).filterMap Turn.tick? = [1] := rfl
  have increasing : ((five c).filterMap Turn.tick?).Pairwise (· < ·) := by
    rw [ticks]
    exact List.pairwise_singleton _ _
  have bounded : ∀ u ∈ (five c).filterMap Turn.tick?, 0 ≤ u ∧ u < 10 ^ 20 := by
    rw [ticks]
    decide
  obtain ⟨given, given', distinct, distinct', agrees, _⟩ := stores_agree Suite.lawful_lenient
    (fair_five readable) increasing bounded (m := m) ⟨rfl, rfl, rfl, rfl, rfl⟩ (d := d)
    Provider.blank_emptyDirectory
  exact ⟨c, given, given', distinct, distinct', agrees⟩

end Ledger

end CertKeeper
