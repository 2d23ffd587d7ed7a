import CertKeeper.Proofs.Keeper.Obtain
import CertKeeper.Proofs.Provider

/-!
# One request, from any state

What a request for the certificate of a name makes of a store, whatever else is in it and however
much is under the name.  Main statement: `Keeper.outcome_of_obtain`.
-/

namespace CertKeeper

open CertKeeper.Action (start)

structure X509.Certificate.Readable (c : X509.Certificate) : Prop where
  publicKey : ∃ k, c.publicKey = .ok k
  subject : ∃ n, c.subjectName = .ok n
  issuer : ∃ n, c.issuerName = .ok n

theorem Entry.key?_eq_some {e : Entry} {id : Text} : e.key? = some id ↔ e.keyId = .text id := by
  unfold Entry.key? Value.text?
  split
  next t bound => simp only [bound, Option.some.injEq, Value.text.injEq]
  next other => exact ⟨fun impossible => (nomatch impossible), fun bound => absurd bound (other id)⟩

theorem Validation.reason_of_checkIdentity {suite : Suite} {c : X509.Certificate}
    (h : c.Readable) {name : Text} (accepted : Identity.check (.text name) = .ok name) {f : Fault}
    (failed : checkIdentity suite c (.text name) = .error f) :
    ∃ reason, reason? f = some reason := by
  obtain ⟨_, content, addresses⟩ := Identity.accepted_of_check accepted
  obtain ⟨key, key_⟩ := h.publicKey
  obtain ⟨subject, subject_⟩ := h.subject
  obtain ⟨issuer, issuer_⟩ := h.issuer
  have wanted : Identity.subject (.text name) = .ok (X509.Name.ofCommonName content) :=
    addresses.identitySubject
  have signed : suite.selfSigned c
      = .ok (suite.verifies key c.algorithm c.tbs c.signature) := by
    rw [Suite.selfSigned, key_]
    rfl
  simp only [checkIdentity, signed, subject_, issuer_, wanted, addresses.read, bind,
    Except.bind] at failed
  split at failed
  · cases failed
    exact ⟨_, rfl⟩
  split at failed
  · cases failed
    exact ⟨_, rfl⟩
  split at failed
  · cases failed
    exact ⟨_, rfl⟩
  · cases failed

namespace Book

variable {b b' : Book} {name : Text}

theorem entries_remove_under (h : b.Sound) (name : Text) :
    (b.remove (b.under name)).entries = b.entries.filter (·.name ≠ name) := by
  refine List.filter_congr fun x hx => decide_eq_decide.mpr ?_
  refine not_congr ⟨fun member => ?_, fun named => ?_⟩
  · obtain ⟨e, he, same⟩ := List.mem_map.mp member
    obtain ⟨stored, named⟩ := List.mem_filter.mp he
    have eq := List.inj_on_of_nodup_map h.handles stored hx same
    exact eq ▸ of_decide_eq_true named
  · exact List.mem_map_of_mem (List.mem_filter.mpr ⟨hx, decide_eq_true named⟩)

theorem held_remove {es : List Entry} {id : Text} : (b.remove es).held id = true ↔
    b.held id = true ∧ ∀ x ∈ es, x.keyId ≠ .text id := by
  have bound : some id ∈ es.map Entry.key? ↔ ∃ x ∈ es, x.keyId = .text id := by
    simp only [List.mem_map, Entry.key?_eq_some]
  change (b.held id && decide (some id ∉ es.map Entry.key?)) = true ↔ _
  rw [Bool.and_eq_true, decide_eq_true_eq, bound]
  exact and_congr_right fun _ => ⟨fun none_ x hx same => none_ ⟨x, hx, same⟩,
    fun all ⟨x, hx, same⟩ => all x hx same⟩

theorem under_remove_append {own rest : List Entry} (h : b.Sound)
    (split : b.under name = own ++ rest) : (b.remove own).under name = rest := by
  induction own generalizing b with
  | nil => rwa [remove_nil]
  | cons x own ih =>
    have onward := ih (h.remove [x]) (under_remove h split)
    rwa [remove_remove] at onward

theorem Gains.under_other {e : Entry} (gains : b.Gains e b') {other : Text} (ne : e.name ≠ other) :
    b'.under other = b.under other := by
  obtain ⟨before, after, was, is⟩ := gains.entries
  simp only [under, was, is, List.filter_append]
  rw [List.filter_cons_of_neg (by simpa using ne)]

/-- What is under a name is left alone, and whether the store can be used as well. -/
structure Stays (name : Text) (b b' : Book) : Prop where
  under : b'.under name = b.under name
  locked : b'.locked = b.locked
  available : b'.available = b.available

theorem Stays.trans {b'' : Book} (h : b.Stays name b') (h' : b'.Stays name b'') :
    b.Stays name b'' :=
  ⟨h'.under.trans h.under, h'.locked.trans h.locked, h'.available.trans h.available⟩

theorem stays_remove (h : b.Sound) {other : Text} (ne : other ≠ name) {es : List Entry}
    (own : ∀ e ∈ es, e ∈ b.under name) : b.Stays other (b.remove es) := by
  refine ⟨under_remove_other h ne fun e he => ?_, rfl, rfl⟩
  obtain ⟨stored, named⟩ := List.mem_filter.mp (own e he)
  exact ⟨stored, of_decide_eq_true named⟩

theorem Draws.remove {suite : Suite} (h : b.Draws suite) (es : List Entry) :
    (b.remove es).Draws suite := by
  refine ⟨h.refused, fun k a drew => ?_⟩
  obtain ⟨valid, new⟩ := h.fresh k a drew
  refine ⟨valid, ?_⟩
  change (b.held (suite.handleOf k).keyId && _) = false
  rw [new, Bool.false_and]

end Book

namespace Keeper

variable {σ : Type} {suite : Suite} {k : Keeper σ} {name : Text} {now : Instant} {b b' : Book}
  {e : Entry}

/-- The oldest entry was valid and is given back; the store holds what it held. -/
structure Reused (k : Keeper σ) (name : Text) (now : Instant) (b b' : Book) (e : Entry) : Prop where
  oldest : b.first? name = some e
  valid : k.checked name now e = .ok ()
  entries : b'.entries = b.entries
  held : b'.held = b.held
  keys : b'.key? = b.key?

/-- There was no oldest entry or it was not valid; one entry with a new key stands where those under
the name stood, and their keys are gone. -/
structure Renewed (suite : Suite) (k : Keeper σ) (name : Text) (now : Instant) (b b' : Book)
    (e : Entry) : Prop where
  stale : ∀ x, b.first? name = some x → ∃ f reason, k.checked name now x = .error f ∧
    Validation.reason? f = some reason
  owned : ∀ x ∈ b.under name, Validation.checkIdentity suite x.certificate (.text name) = .ok ()
  entries : ∃ before after, b.entries.filter (·.name ≠ name) = before ++ after ∧
    b'.entries = before ++ e :: after
  only : b'.under name = [e]
  bound : ∃ id key, e.keyId = .text id ∧ b.held id = false ∧ b'.held id = true ∧
    b'.key? id = some key ∧ e.certificate.publicKey = .ok (suite.publicKey key)
  gone : ∀ x ∈ b.under name, ∀ id, x.keyId = .text id → b.held id = true → b'.held id = false
  kept : ∀ id, b.held id = true → (∀ x ∈ b.under name, x.keyId ≠ .text id) → b'.held id = true

/-- The entries before one that is not the keeper's are gone with their keys; it and what comes
after it are left, and no key was drawn. -/
structure Halted (suite : Suite) (name : Text) (b b' : Book) (f : Fault) (own : List Entry)
    (e : Entry) (rest : List Entry) : Prop where
  split : b.under name = own ++ e :: rest
  owned : ∀ x ∈ own, Validation.checkIdentity suite x.certificate (.text name) = .ok ()
  foreign : ∃ failed reason, Validation.checkIdentity suite e.certificate (.text name)
    = .error failed ∧ Validation.reason? failed = some reason
  left : b'.under name = e :: rest
  held : ∀ id, b'.held id = true ↔ b.held id = true ∧ ∀ x ∈ own, x.keyId ≠ .text id
  undrawn : b'.around = b.around
  named : f.failure.lifecycle? = some (.unexpectedCertificate name e.certificate.serialText)

theorem Reused.not_renewed (h : k.Reused name now b b' e) : ¬ k.Renewed suite name now b b' e := by
  intro renewed
  obtain ⟨f, _, failed, _⟩ := renewed.stale e h.oldest
  rw [h.valid] at failed
  cases failed

theorem renewed_of_issued {key : PrivateKey} (sound : b.Sound)
    (stale : ∀ x, b.first? name = some x → ∃ f reason, k.checked name now x = .error f ∧
      Validation.reason? f = some reason)
    (owns : ∀ x ∈ b.under name,
      Validation.checkIdentity suite x.certificate (.text name) = .ok ())
    (new : b.held (suite.handleOf key).keyId = false)
    (public_ : e.certificate.publicKey = .ok (suite.publicKey key))
    (bound : e.keyId = .text (suite.handleOf key).keyId)
    (gains : ((b.remove (b.under name)).putKey (suite.handleOf key).keyId key).Gains e b')
    (only : b'.under name = [e]) : k.Renewed suite name now b b' e := by
  have held' : ∀ id, b'.held id
      = ((b.remove (b.under name)).held id || decide (id = (suite.handleOf key).keyId)) :=
    fun id => congrFun gains.held id
  have key' : b'.key? (suite.handleOf key).keyId = some key :=
    (congrFun gains.key? _).trans (if_pos rfl)
  refine ⟨stale, owns, ?_, only, ⟨_, key, bound, new, ?_, key', public_⟩, ?_, ?_⟩
  · obtain ⟨before, after, was, is⟩ := gains.entries
    exact ⟨before, after, (Book.entries_remove_under sound name).symm.trans was, is⟩
  · rw [held', decide_eq_true rfl, Bool.or_true]
  · intro x hx id bound' held
    have ne : id ≠ (suite.handleOf key).keyId := by
      rintro rfl
      rw [new] at held
      cases held
    rw [held', decide_eq_false ne, Bool.or_false, Bool.eq_false_iff]
    exact fun remains => (Book.held_remove.mp remains).2 x hx bound'
  · intro id held unbound
    rw [held', Book.held_remove.mpr ⟨held, unbound⟩, Bool.true_or]

theorem halted_of_stopped {own rest : List Entry} {failed : Fault} (sound : b.Sound)
    (accepted : Identity.check (.text name) = .ok name) (readable : e.certificate.Readable)
    (split : b.under name = own ++ e :: rest)
    (owns : ∀ x ∈ own, Validation.checkIdentity suite x.certificate (.text name) = .ok ())
    (foreign : Validation.checkIdentity suite e.certificate (.text name) = .error failed) :
    Halted suite name b (b.remove own) (refusal name e failed) own e rest := by
  obtain ⟨reason, why⟩ := Validation.reason_of_checkIdentity readable accepted foreign
  have named : (refusal name e failed).failure.lifecycle?
      = some (.unexpectedCertificate name e.certificate.serialText) := by
    rw [refusal, why]
    rfl
  exact ⟨split, owns, ⟨failed, reason, foreign, why⟩, Book.under_remove_append sound split,
    fun _ => Book.held_remove, rfl, named⟩

theorem Replaced.stays {shows_ : σ → Book → Prop} {o : Except Fault Entry} {s : σ}
    (out : k.Replaced suite shows_ b name o s) (sound : b.Sound) :
    ∃ b', shows_ s b' ∧ ∀ other, other ≠ name → b.Stays other b' := by
  have swept {other : Text} (ne : other ≠ name) : b.Stays other (b.remove (b.under name)) :=
    Book.stays_remove sound ne fun _ hx => hx
  cases out with
  | refused _ held => exact ⟨b, held, fun _ _ => ⟨rfl, rfl, rfl⟩⟩
  | stopped own x rest _ split _ _ held =>
    refine ⟨_, held, fun other ne => Book.stays_remove sound ne fun y hy => ?_⟩
    rw [split]
    exact List.mem_append_left _ hy
  | abandoned _ a _ held =>
    exact ⟨_, held, fun other ne => ⟨(swept ne).under, (swept ne).locked, (swept ne).available⟩⟩
  | stranded _ _ a _ held =>
    exact ⟨_, held, fun other ne => ⟨(swept ne).under, (swept ne).locked, (swept ne).available⟩⟩
  | issued x key a b' _ _ _ named _ _ gains _ held =>
    refine ⟨b', held, fun other ne => (swept ne).trans ?_⟩
    exact ⟨gains.under_other (named ▸ ne.symm), gains.locked, gains.available⟩

theorem Replaced.under_other {shows_ : σ → Book → Prop} {o : Except Fault Entry} {s : σ}
    (out : k.Replaced suite shows_ b name o s) (sound : b.Sound) :
    ∃ b', shows_ s b' ∧ ∀ other, other ≠ name → b'.under other = b.under other := by
  obtain ⟨b', held, stays⟩ := out.stays sound
  exact ⟨b', held, fun other ne => (stays other ne).under⟩

/-- A check without a result has nothing to do with a certificate that is not the keeper's. -/
theorem not_isUnexpected_of_unclear {f : Fault}
    (accepted : Identity.check (.text name) = .ok name) (readable : e.certificate.Readable)
    (failed : k.checked name now e = .error f) (why : Validation.reason? f = none) :
    ¬ f.IsUnexpected := by
  intro unexpected
  rw [checked] at failed
  cases identity : Validation.checkIdentity k.suite e.certificate (.text name) with
  | ok u =>
    rw [Validation.check, identity] at failed
    exact Validation.checkWindow_error failed unexpected
  | error f' =>
    rw [Validation.check, identity] at failed
    cases failed
    obtain ⟨reason, reads⟩ := Validation.reason_of_checkIdentity readable accepted identity
    rw [why] at reads
    cases reads

theorem Replaced.renewed {shows_ : σ → Book → Prop} {o : Except Fault Entry} {s : σ}
    (out : k.Replaced suite shows_ b name o s) (same : k.suite = suite) (sound : b.Sound)
    (draws : b.Draws suite)
    (stale : ∀ x, b.first? name = some x → ∃ f reason, k.checked name now x = .error f ∧
      Validation.reason? f = some reason) (given : o = .ok e) :
    ∃ b', shows_ s b' ∧ b'.first? name = some e ∧
      Validation.checkIdentity suite e.certificate (.text name) = .ok () ∧
      k.Renewed suite name now b b' e := by
  cases out with
  | issued e' key a b' owns unlocked drew named certificate bound gains only held ended =>
    obtain rfl : e' = e := Except.ok.inj (ended.symm.trans given)
    simp only [Keeper.Owns, same] at owns
    exact ⟨b', held, by rw [b'.first?_eq, only]; rfl, certificate.identity,
      renewed_of_issued sound stale owns (draws.fresh key a drew).2 certificate.publicKey bound
        gains only⟩
  | refused _ _ ended => cases ended.symm.trans given
  | stopped _ _ _ _ _ _ _ _ ended => cases ended.symm.trans given
  | abandoned _ _ _ _ _ ended => cases ended.symm.trans given
  | stranded _ _ _ _ _ _ _ ended => cases ended.symm.trans given

theorem Replaced.halted {shows_ : σ → Book → Prop} {o : Except Fault Entry} {s : σ} {f : Fault}
    (out : k.Replaced suite shows_ b name o s) (same : k.suite = suite) (sound : b.Sound)
    (accepted : Identity.check (.text name) = .ok name)
    (readable : ∀ x ∈ b.under name, x.certificate.Readable) (raised : o = .error f)
    (unexpected : f.IsUnexpected) :
    ∃ b', shows_ s b' ∧ ∃ own e rest, Halted suite name b b' f own e rest := by
  cases out with
  | stopped own e rest failed split owns foreign held ended =>
    obtain rfl : refusal name e failed = f := Except.error.inj (ended.symm.trans raised)
    rw [same] at foreign
    simp only [Keeper.Owns, same] at owns
    have inside : e ∈ b.under name := by
      rw [split]
      exact List.mem_append_right _ List.mem_cons_self
    exact ⟨_, held, own, e, rest,
      halted_of_stopped sound accepted (readable e inside) split owns foreign⟩
  | refused _ _ ended =>
    obtain rfl := Except.error.inj (ended.symm.trans raised)
    obtain ⟨_, _, impossible⟩ := unexpected
    cases impossible
  | abandoned _ _ _ _ plain ended =>
    obtain rfl := Except.error.inj (ended.symm.trans raised)
    exact absurd unexpected plain
  | stranded _ _ _ _ _ _ plain ended =>
    obtain rfl := Except.error.inj (ended.symm.trans raised)
    exact absurd unexpected plain
  | issued _ _ _ _ _ _ _ _ _ _ _ _ _ ended => cases ended.symm.trans raised

variable {p : Provider} {fresh : Text → Prop}

/-- What a request for the certificate of a name makes of a store: the certificate that is given
back is the oldest of its name and passes the identity check, and either it was there and valid, or
it is new and alone; a certificate that is not the keeper's is left with all that comes after it. -/
theorem outcome_of_obtain (laws : suite.Lawful) {k : Keeper p.State}
    (store : k.store = p.keyStore suite) (same : k.suite = suite)
    (accepted : Identity.check (.text name) = .ok name) {r : Run p.State} {b b' : Book}
    {o : Except Fault Entry} (was : b = p.book suite r.state)
    (is : b' = p.book suite (start (k.obtain (.text name)) r).2.state)
    (ended : o = (start (k.obtain (.text name)) r).1) (sound : p.Sound fresh r.state)
    (ready : p.Ready fresh b) (readable : ∀ x ∈ b.under name, x.certificate.Readable)
    (draws : b.Draws suite) :
    (∀ e, o = .ok e → b'.first? name = some e ∧
      Validation.checkIdentity suite e.certificate (.text name) = .ok () ∧
      (k.Reused name (k.reading name r) b b' e ∧ ¬ k.Renewed suite name (k.reading name r) b b' e ∨
        k.Renewed suite name (k.reading name r) b b' e ∧
          ¬ k.Reused name (k.reading name r) b b' e)) ∧
    (∀ f, o = .error f → f.IsUnexpected → ∃ own e rest, Halted suite name b b' f own e rest) ∧
    ∀ other, other ≠ name → b'.under other = b.under other := by
  have keeps : k.store.Keeps suite (p.Shows fresh suite) (p.Ready fresh) p.Newest := by
    rw [store]
    exact Provider.keeps laws fresh p
  have held : p.Shows fresh suite r.state b := ⟨sound, was.symm⟩
  have contents := keeps.sound held
  have out := start_obtain keeps laws ready accepted (draws.remove _) held
  rw [← ended] at out
  -- the contents at the end are the ones that the end shows
  have shown {x : Book} (h : p.Shows fresh suite (start (k.obtain (.text name)) r).2.state x) :
      b' = x := is.trans h.2
  cases out with
  | reused e first valid held ended =>
    obtain rfl := shown held
    refine ⟨fun e' given => ?_, fun f raised => ?_, fun _ _ => rfl⟩
    · obtain rfl : e = e' := Except.ok.inj (ended.symm.trans given)
      have reused : k.Reused name (k.reading name r) b' b' e := ⟨first, valid, rfl, rfl, rfl⟩
      rw [checked, same] at valid
      exact ⟨first, (Validation.check_eq_ok_iff.mp valid).1, Or.inl ⟨reused, reused.not_renewed⟩⟩
    · cases ended.symm.trans raised
  | unclear e f first failed why held ended =>
    obtain rfl := shown held
    refine ⟨fun e' given => ?_, fun f' raised unexpected => ?_, fun _ _ => rfl⟩
    · cases ended.symm.trans given
    · obtain rfl : f = f' := Except.error.inj (ended.symm.trans raised)
      rw [b'.first?_eq] at first
      exact absurd unexpected (not_isUnexpected_of_unclear accepted
        (readable e (List.mem_of_mem_head? first)) failed why)
  | replaced stale out =>
    obtain ⟨x, held', others⟩ := out.under_other contents
    obtain rfl := shown held'
    refine ⟨fun e given => ?_, fun f raised unexpected => ?_, others⟩
    · obtain ⟨x, held, first, identity, renewed⟩ :=
        out.renewed same contents draws stale given
      obtain rfl := shown held
      exact ⟨first, identity, Or.inr ⟨renewed, fun reused => reused.not_renewed renewed⟩⟩
    · obtain ⟨x, held, halted⟩ :=
        out.halted same contents accepted readable raised unexpected
      obtain rfl := shown held
      exact halted

/-! ### A request -/

def noon : Instant := ⟨Instant.wallOf 2024 6 1 12 0 0 0, some 0⟩

theorem exists_issued {suite : Suite} (laws : suite.Lawful) {k : PrivateKey} (valid : k.Valid)
    {name : Text} (accepted : Identity.check (.text name) = .ok name) :
    ∃ c, Issued suite name k c := by
  obtain ⟨_, content, accepted⟩ := Identity.accepted_of_check accepted
  obtain ⟨p, whole⟩ : ∃ p, p = parts (X509.Name.ofCommonName content) (suite.publicKey k) 7
    noon.universal noon.universal := ⟨_, rfl⟩
  have writable : (X509.Time.ofWall noon.universal).Writable :=
    X509.Time.writable_ofWall (by decide) (by decide)
  obtain ⟨c, _, issued⟩ := @issued_of_sign 7 suite laws k valid name content accepted _ _
    ⟨some p.subject, some p.issuer, some p.key, some p.serial, some p.notBefore, some p.notAfter,
      p.extensions⟩ (by rw [whole]; rfl) writable writable (by decide)
  exact ⟨c, issued⟩

/-- Surroundings in which the first key is the one of scalar one. -/
def quiet : Surroundings := ⟨noon, [7], 0, [], 1, 0, []⟩

def ofMemory : Keeper Memory.State :=
  ⟨Memory.keyStore Suite.lenient, Prompt.absent, fun _ => noon, Suite.lenient, Policy.standard⟩

def inMemory : Memory.State :=
  let r : Run Memory.State := ⟨⟨Memory.Store.new none, quiet⟩, [], none⟩
  (start (Provider.memory.initialise Suite.lenient) r).2.state

theorem draws_quiet {s : Memory.State} (around : s.around = quiet) (none_ : s.store.keys = []) :
    s.book.Draws Suite.lenient := by
  have same : s.book.around = quiet := around
  have drawn : quiet.drawKey .p256 = (.ok ⟨.p256, 1⟩, { quiet with nextScalar := 2 }) := rfl
  constructor
  · intro e a drew
    rw [same, drawn] at drew
    cases drew
  · intro k a drew
    rw [same, drawn] at drew
    cases drew
    refine ⟨⟨by decide, by decide⟩, ?_⟩
    change s.store.hasKey _ = false
    rw [Memory.Store.hasKey, none_]
    rfl

theorem draws_inMemory : inMemory.book.Draws Suite.lenient := draws_quiet rfl rfl

def saying (content : Bytes) : X509.Certificate :=
  let subject := X509.Name.ofCommonName content
  let time := X509.Time.ofWall noon.universal
  let key := X509.PublicKey.edwards .ed25519 (List.replicate 32 9)
  ⟨[], [], 7, subject, time, time, subject, key.info, ⟨⟨[]⟩, none⟩, []⟩

def ownEntry : Entry := ⟨"mem-1", "server", saying [0x73, 0x65, 0x72, 0x76, 0x65, 0x72], .null⟩

def foreignEntry : Entry := ⟨"mem-2", "server", saying [0x78], .null⟩

def mixed : Memory.State :=
  ⟨{ Memory.Store.new none with entries := [ownEntry, foreignEntry], imported := 2 }, quiet⟩

theorem wellFormed_mixed : mixed.WellFormed := by
  refine ⟨⟨?_, ?_, fun _ _ => rfl⟩, ?_⟩
  · change ([ownEntry, foreignEntry].map Entry.handle).Nodup
    decide
  · exact List.forall_mem_cons.mpr ⟨.inl rfl, List.forall_mem_singleton.mpr (.inl rfl)⟩
  · have first : ownEntry.handle = "mem-" ++ Text.decimal 1 := by decide +kernel
    have second : foreignEntry.handle = "mem-" ++ Text.decimal 2 := by decide +kernel
    exact List.forall_mem_cons.mpr ⟨⟨0, Nat.zero_lt_two, first⟩,
      List.forall_mem_singleton.mpr ⟨1, Nat.one_lt_two, second⟩⟩

/-- A store in which the only entry under the name is out of date. -/
def outdated : Memory.State :=
  ⟨{ inMemory.store with entries := [ownEntry], imported := 1 }, quiet⟩

theorem wellFormed_outdated : outdated.WellFormed := by
  refine ⟨⟨List.nodup_singleton _, List.forall_mem_singleton.mpr (.inl rfl), fun _ _ => rfl⟩, ?_⟩
  have first : ownEntry.handle = "mem-" ++ Text.decimal 1 := by decide +kernel
  exact List.forall_mem_singleton.mpr ⟨0, Nat.zero_lt_one, first⟩

theorem halted_mixed {b' : Book} {f : Fault} {own rest : List Entry} {e : Entry}
    (halted : Halted Suite.lenient "server" mixed.book b' f own e rest) :
    own = [ownEntry] ∧ e = foreignEntry ∧ rest = [] := by
  have split : [ownEntry, foreignEntry] = own ++ e :: rest := halted.split
  cases own with
  | nil =>
    have owned : Validation.checkIdentity Suite.lenient ownEntry.certificate (.text "server")
        = .ok () := rfl
    obtain ⟨failed, _, foreign, _⟩ := halted.foreign
    obtain rfl : ownEntry = e := (List.cons.inj split).1
    cases owned.symm.trans foreign
  | cons x own =>
    obtain ⟨rfl, after⟩ := List.cons.inj split
    cases own with
    | nil =>
      obtain ⟨rfl, rfl⟩ := List.cons.inj after
      exact ⟨rfl, rfl, rfl⟩
    | cons y own =>
      have short : [] = own ++ e :: rest := (List.cons.inj after).2
      exact absurd short.symm (List.append_ne_nil_of_right_ne_nil _ (List.cons_ne_nil e rest))

def fault? : Except Fault Entry → Option LifecycleError
  | .ok _ => none
  | .error f => f.failure.lifecycle?

/-- The only entry is replaced; where an entry of another's comes after it, it goes, and the other
one is named and stays. -/
theorem outcome_outdated : outdated.WellFormed ∧ mixed.WellFormed ∧
    (let ended := start (ofMemory.obtain (.text "server")) ⟨outdated, [], none⟩
      ∃ e, ended.1 = .ok e ∧
        ofMemory.Renewed Suite.lenient "server" noon outdated.book ended.2.state.book e) ∧
    let ended := start (ofMemory.obtain (.text "server")) ⟨mixed, [], none⟩
    ∃ f, ended.1 = .error f ∧
      Halted Suite.lenient "server" mixed.book ended.2.state.book f [ownEntry] foreignEntry [] := by
  have readable : ∀ x ∈ [ownEntry, foreignEntry], x.certificate.Readable :=
    List.forall_mem_cons.mpr ⟨⟨⟨_, rfl⟩, ⟨_, rfl⟩, ⟨_, rfl⟩⟩,
      List.forall_mem_singleton.mpr ⟨⟨_, rfl⟩, ⟨_, rfl⟩, ⟨_, rfl⟩⟩⟩
  obtain ⟨given, _⟩ := @outcome_of_obtain Suite.lenient "server" .memory (fun _ => True)
    Suite.lawful_lenient ofMemory rfl rfl rfl ⟨outdated, [], none⟩ _ _ _ rfl rfl rfl
    wellFormed_outdated trivial (fun x hx => readable x (List.mem_append_left [foreignEntry] hx))
    (draws_quiet rfl rfl)
  obtain ⟨_, raised, _⟩ := @outcome_of_obtain Suite.lenient "server" .memory (fun _ => True)
    Suite.lawful_lenient ofMemory rfl rfl rfl ⟨mixed, [], none⟩ _ _ _ rfl rfl rfl
    wellFormed_mixed trivial readable (draws_quiet rfl rfl)
  refine ⟨wellFormed_outdated, wellFormed_mixed, ?_, ?_⟩
  · have answers :
        (start (ofMemory.obtain (.text "server")) ⟨outdated, [], none⟩).1.isOk = true := by
      decide +kernel
    cases ended : (start (ofMemory.obtain (.text "server")) ⟨outdated, [], none⟩).1 with
    | error f =>
      rw [ended] at answers
      cases answers
    | ok e =>
      obtain ⟨_, _, ⟨reused, _⟩ | ⟨renewed, _⟩⟩ := given e ended
      · obtain rfl : ownEntry = e := Option.some.inj reused.oldest
        have stale : (ofMemory.checked "server" noon ownEntry).isOk = false := by decide +kernel
        have valid : ofMemory.checked "server" noon ownEntry = .ok () := reused.valid
        rw [valid] at stale
        cases stale
      · exact ⟨e, ended, renewed⟩
  · have named : fault? (start (ofMemory.obtain (.text "server")) ⟨mixed, [], none⟩).1
        = some (.unexpectedCertificate "server" "7") := by
      decide +kernel
    cases ended : (start (ofMemory.obtain (.text "server")) ⟨mixed, [], none⟩).1 with
    | ok e =>
      rw [ended] at named
      cases named
    | error f =>
      rw [ended] at named
      obtain ⟨own, e, rest, halted⟩ := raised f ended ⟨_, _, named⟩
      obtain ⟨rfl, rfl, rfl⟩ := halted_mixed halted
      exact ⟨f, ended, halted⟩

end Keeper

end CertKeeper
