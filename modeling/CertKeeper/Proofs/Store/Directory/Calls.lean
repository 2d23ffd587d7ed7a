import CertKeeper.Proofs.Encoding.Faults
import CertKeeper.Proofs.Files.Shape
import CertKeeper.Proofs.Store.Directory.Writing

/-!
# The store in a directory keeps its books

Main statement: every call of the store in a directory does what `KeyStore.Keeps` says.
-/

namespace CertKeeper.Directory

open X509
open CertKeeper.Action (Leads start)
open CertKeeper.Tree (IsDirectory Sets)

variable {fresh : Text → Prop} {suite : Suite} {l : Location} {b : Book}

/-! ### Looking -/

namespace State.Shelf

variable {s : State}

theorem file_of_reads (h : s.Shelf l) {f : Text} {e : Entry} (reads : s.Reads f e) :
    ∃ mode content, s.tree.node? (entryAt l f) = some (.file mode content) := by
  have entry := reads.entry
  have path := h.entryPath reads.name
  cases there : s.tree.node? (entryAt l f) with
  | none =>
    rw [State.stored?, Tree.contentAt, Tree.stat_eq path, there] at entry
    cases entry
  | some n =>
    cases n with
    | file mode content => exact ⟨mode, content, rfl⟩
    | directory mode =>
      rw [State.stored?, Tree.contentAt, Tree.stat_eq path, there] at entry
      cases entry

theorem read_of_reads {f : Text} {e : Entry} (reads : s.Reads f e) (name : Text) :
    EntryRecord.read f name (s.tree.contentAt (s.entriesPath.join f))
      = .ok (if e.name = name then some e else none) := by
  have entry := reads.entry
  unfold State.stored? at entry
  split at entry
  · cases entry
  next v value =>
  split at entry
  next own named =>
    cases found : EntryRecord.entryOf (Path.stem f) own v with
    | error e' =>
      rw [found] at entry
      cases entry
    | ok e' =>
      rw [found] at entry
      obtain rfl : e' = e := Option.some.inj entry
      have owned : e'.name = own := by
        unfold EntryRecord.entryOf at found
        cases certificate : EntryRecord.certificateOf v with
        | error _ =>
          rw [certificate] at found
          cases found
        | ok c =>
          rw [certificate] at found
          cases found
          rfl
      rw [EntryRecord.read_eq value named found, owned]
  · cases entry

theorem find_eq (h : s.Shelf l) (name : Text) :
    s.find name = .ok (s.entries.find? (·.name = name)) := by
  have all : ∀ files : List Text, (∀ f ∈ files, ∃ e, s.Reads f e) →
      s.findAmong name files = .ok ((files.filterMap s.stored?).find? (·.name = name)) := by
    intro files
    induction files with
    | nil => intro _; rfl
    | cons f files ih =>
      intro reads
      obtain ⟨e, he⟩ := reads f List.mem_cons_self
      have rest := ih fun g hg => reads g (List.mem_cons_of_mem _ hg)
      rw [State.findAmong, read_of_reads he, List.filterMap_cons_some he.entry, List.find?_cons]
      by_cases same : e.name = name
      · rw [if_pos same, decide_eq_true same]
        rfl
      · rw [if_neg same, decide_eq_false same]
        exact rest
  have listed : s.listed = .ok s.entryFiles := by
    rw [State.listed, (Tree.isDirectory_iff h.entriesPath).mpr h.certificates]
    rfl
  rw [State.find, listed]
  exact all _ h.entryFiles

theorem length_entries_le (h : s.Shelf l) : s.entries.length ≤ s.tree.nodes.length := by
  obtain ⟨mode, there⟩ := h.certificates
  have listed : s.entryFiles
      = ((s.tree.names (entriesAt l)).filter (Text.endsWith ".json")).mergeSort
          Tree.textBefore := by
    simp only [State.entryFiles, Tree.namesEnding, h.entriesPath, there]
  calc s.entries.length ≤ s.entryFiles.length := List.length_filterMap_le _ _
    _ = ((s.tree.names (entriesAt l)).filter (Text.endsWith ".json")).length := by
        rw [listed, List.length_mergeSort]
    _ ≤ (s.tree.names (entriesAt l)).length := List.length_filter_le _ _
    _ ≤ s.tree.nodes.length := List.length_filterMap_le _ _

end State.Shelf

theorem leads_findByName_shelf {s : State} (h : s.Shelf l) (name : Text) :
    Leads (· = s) ((keyStore suite).findByName name) fun o s' =>
      s' = s ∧ o = .ok ((s.book suite).first? name) :=
  leads_ask fun _ same => ⟨same, same ▸ h.find_eq name⟩

/-! ### Taking away -/

theorem start_unlinkPresent {r : Run State} (h : r.state.Layout fresh l) {id : Text}
    (key : Book.isKeyId id = true) :
    ∃ t, start (unlinkPresent (r.state.keyPath id)) r
        = (.ok (.ok ()), ⟨r.state.onto t r.state.around, r.journal, r.operation⟩) ∧
      Sets r.state.tree (keyAt l id) none t := by
  have path := h.keyPath key
  have nameable : (r.state.keyPath id).isUnnameable = false :=
    Path.isUnnameable_join (fileName_keyFile key) (Path.isUnnameable_join fileName_keys h.nameable)
  unfold unlinkPresent
  rw [nameable]
  cases there : r.state.tree.node? (keyAt l id) with
  | none =>
    have gone := Tree.unlink_none h.quiet path there
    refine ⟨r.state.tree, ?_, there, fun _ _ => rfl, rfl, rfl, fun nodup => nodup, rfl⟩
    simp only [Bool.false_eq_true, if_false]
    rw [Action.start_bind_ok (start_onTree_eq gone)]
    rfl
  | some n =>
    cases n with
    | directory mode => exact absurd ⟨mode, there⟩ (h.keyFiles id key)
    | file mode content =>
      obtain ⟨t, unlinked, sets⟩ := Tree.sets_unlink h.sound h.quiet path there
      refine ⟨t, ?_, sets⟩
      simp only [Bool.false_eq_true, if_false]
      rw [Action.start_bind_ok (start_onTree_eq unlinked)]
      rfl

theorem leads_deleteKey (b : Book) {id : Text} (key : Book.isKeyId id = true) :
    Leads (State.Shows fresh suite · b) (deleteKey id) fun o s =>
      State.Shows fresh suite s (b.dropKey id) ∧ o = .ok () := by
  rintro r ⟨⟨l, h⟩, rfl⟩
  obtain ⟨t, unlinked, sets⟩ := start_unlinkPresent h key
  obtain ⟨h', book⟩ := h.book_unkey suite key sets r.state.around
  unfold deleteKey
  rw [Action.start_bind_ok (Action.start_read r), Action.start_bind_ok unlinked]
  exact ⟨⟨⟨l, h'⟩, book⟩, rfl⟩

theorem leads_delete {b : Book} {e : Entry} (stored : e ∈ b.entries) :
    Leads (State.Shows fresh suite · b) (delete e) fun o s =>
      State.Shows fresh suite s (b.remove [e]) ∧ o = .ok () := by
  rintro r ⟨⟨l, h⟩, rfl⟩
  obtain ⟨_, reads⟩ := h.reads_of_mem stored
  obtain ⟨mode, content, there⟩ := h.shelf.file_of_reads reads
  have path : r.state.tree.resolve (r.state.entryPath e.handle)
      = .ok (entryAt l (entryFile e.handle)) := h.entryPath reads.name
  have present : r.state.tree.exists? (r.state.entryPath e.handle) = .ok true := by
    rw [Tree.exists?_eq path, there]
    rfl
  obtain ⟨t, unlinked, sets⟩ := Tree.sets_unlink h.sound h.quiet path there
  obtain ⟨h', book⟩ := h.book_unentry suite stored sets
    (Tree.not_isDirectory_of_file there) r.state.around
  unfold delete
  rw [Action.start_bind_ok (Action.start_read r)]
  simp only [present]
  rw [Action.start_bind_ok (Action.start_ofExcept _ r)]
  simp only [Bool.not_true, Bool.false_eq_true, if_false]
  rw [Action.start_bind_ok (start_onTree_eq unlinked)]
  rcases reads.keyId with null | ⟨id, bound, key⟩
  · have unbound : e.key? = none := by rw [Entry.key?, null]; rfl
    simp only [boundKeyPath, null]
    exact ⟨⟨⟨l, h'⟩, book.trans ((r.state.book suite).remove_unbound unbound).symm⟩, rfl⟩
  · have own : e.key? = some id := by rw [Entry.key?, bound]; rfl
    obtain ⟨t', taken, sets'⟩ :=
      @start_unlinkPresent _ _ ⟨r.state.onto t r.state.around, r.journal, r.operation⟩ h' id key
    obtain ⟨h'', book'⟩ := h'.book_unkey suite key sets' r.state.around
    simp only [boundKeyPath, bound, Value.spell]
    have taken' : start (unlinkPresent (r.state.keyPath id))
        ⟨r.state.onto t r.state.around, r.journal, r.operation⟩ = _ := taken
    rw [Action.start_bind_ok taken']
    rw [book] at book'
    exact ⟨⟨⟨l, h''⟩, book'.trans ((r.state.book suite).remove_bound own).symm⟩, rfl⟩

theorem leads_delete_unknown {b : Book} {e : Entry} (name : FileName (entryFile e.handle))
    (unknown : e.handle ∉ b.entries.map Entry.handle) :
    Leads (State.Shows fresh suite · b) (delete e) fun o s => State.Shows fresh suite s b ∧
      o = .error (Fault.keyStore ("Unknown certificate entry " ++ e.handle)) := by
  rintro r ⟨⟨l, h⟩, rfl⟩
  have path : r.state.tree.resolve (r.state.entryPath e.handle)
      = .ok (entryAt l (entryFile e.handle)) := h.entryPath name
  have missing : r.state.tree.exists? (r.state.entryPath e.handle) = .ok false := by
    rw [Tree.exists?_eq path, h.shelf.absent_of_new unknown]
    rfl
  unfold delete
  rw [Action.start_bind_ok (Action.start_read r)]
  simp only [missing]
  rw [Action.start_bind_ok (Action.start_ofExcept _ r)]
  exact ⟨⟨⟨l, h⟩, rfl⟩, rfl⟩

/-! ### Keys -/

theorem lockedBy_eq_none {s : State} (h : s.lockedBy = none) : s.requireUnlocked = .ok () := by
  unfold State.lockedBy at h
  split at h
  · assumption
  · cases h

theorem lockedBy_eq_some {s : State} {e : Fault} (h : s.lockedBy = some e) :
    s.requireUnlocked = .error e := by
  unfold State.lockedBy at h
  split at h
  · cases h
  next found => rw [found, Option.some.inj h]

/-- That keys cannot be used is a store's own fault or one of its record's. -/
theorem State.Layout.lockedFault {s : State} (h : s.Layout fresh l) {e : Fault}
    (locked : s.lockedBy = some e) : e.failure.lifecycle? = none := by
  have failed := lockedBy_eq_some locked
  have there := Tree.exists?_eq h.passwordPath
  unfold State.requireUnlocked State.passwordRecord? at failed
  rw [there] at failed
  cases present : (s.tree.node? (passwordAt l)).isSome with
  | false =>
    simp only [present, bind, Except.bind, Bool.false_eq_true, if_false] at failed
    cases failed
    rfl
  | true =>
    simp only [present, bind, Except.bind, if_true] at failed
    cases read : PasswordRecord.read (s.tree.contentAt s.passwordPath) with
    | error e' =>
      simp only [read] at failed
      cases failed
      unfold PasswordRecord.read at read
      split at read
      next e'' unread =>
        cases read
        unfold PasswordRecord.unreadable
        split
        · exact StoreFault.lifecycle?_explain _ _
        · cases content : s.tree.contentAt s.passwordPath with
          | error _ =>
            rw [content] at unread
            cases unread
            obtain ⟨code, rfl⟩ := Tree.contentAt_error content
            rfl
          | ok _ =>
            rw [content] at unread
            exact (Json.ofFile_error_iff unread).2.2.2.1
      · split at read
        · cases read
        · cases read
          rfl
    | ok r =>
      simp only [read, pure, Except.pure] at failed
      split at failed
      · cases failed
        rfl
      · cases failed

theorem State.Layout.amid {s : State} (h : s.Layout fresh l) (a : Surroundings) :
    (s.onto s.tree a).Layout fresh l :=
  ⟨h.sound, h.quiet, h.base, h.nameable, h.room, h.root, h.keys, h.certificates, h.keyFiles,
    fun f hf => (h.entryFiles f hf).imp fun _ he => ⟨he.name, he.entry, he.file, he.keyId⟩,
    h.sealing, h.unused⟩

theorem drawKey_keeps {c : Crypto.Curve} {a a' : Surroundings} {drawn : Except Fault PrivateKey}
    (h : a.drawKey c = (drawn, a')) : a'.ticks = a.ticks ∧ a'.token = a.token := by
  unfold Surroundings.drawKey at h
  split at h <;> cases h <;> exact ⟨rfl, rfl⟩

theorem start_generation {c : Crypto.Curve} {r : Run State} {a : Surroundings}
    {drew : Except Fault PrivateKey} (h : r.state.around.drawKey c = (drew, a)) :
    start (Action.refine (drawn (Surroundings.drawKey c)) StoreFault.ofGeneration) r
      = (drew.mapError fun e => (StoreFault.ofGeneration e).getD e,
        ⟨r.state.onto r.state.tree a, r.journal, r.operation⟩) := by
  rw [Action.start_refine, start_drawn, h]

def keyFile (id : Text) : Text := id ++ ".pem"

theorem keyFile_spec {id : Text} (key : Book.isKeyId id = true) :
    (keyFile id).all isNamePoint = true ∧ (keyFile id).length ≤ 200 := by
  obtain ⟨length, points⟩ := isKeyId_iff key
  have four : (Text.ofString ".pem").length = 4 := rfl
  have ending : (Text.ofString ".pem").all isNamePoint = true := rfl
  rw [keyFile, List.all_append, List.length_append, length, points, ending, four]
  exact ⟨rfl, by decide⟩

theorem start_writeKey {r : Run State} (h : r.state.Layout fresh l)
    (word : isToken r.state.around.token = true) (isFresh : fresh r.state.around.token) {id : Text}
    (key : Book.isKeyId id = true) {content : Bytes} {p : Option Bytes}
    (sealing : r.state.sealingPassword = .ok p) {k : PrivateKey}
    (read : KeyFile.read suite content p = .ok (.curve k)) :
    ∃ t, start (writeWhole (r.state.keyPath id) content 0o600) r
        = (.ok (), ⟨r.state.onto t r.state.around, r.journal, r.operation⟩) ∧
      Sets r.state.tree (keyAt l id) (some (.file 0o600 content)) t ∧
      (r.state.onto t r.state.around).Layout fresh l ∧
      (r.state.onto t r.state.around).book suite = (r.state.book suite).putKey id k := by
  obtain ⟨points, short⟩ := keyFile_spec key
  have temporary := fileName_temporary points short word
  have free : r.state.tree.node? (keysAt l ++ [temporaryName (keyFile id) r.state.around.token])
      = none := h.unused _ isFresh _ (Or.inr (Or.inl rfl)) _
        (endsWith_temporaryName _ _)
  obtain ⟨t, wrote, sets⟩ := start_writeWhole h.sound h.quiet h.keysPath
    (h.room.join fileName_keys) h.keys (fileName_keyFile key) temporary free
    (h.keyFiles id key) content 0o600
  obtain ⟨h', book⟩ := h.book_key key sets sealing read r.state.around
  exact ⟨t, wrote, sets, h', book⟩

theorem start_generateKey (onCurve : suite.OnCurve) (deciphers : suite.Deciphers) {r : Run State}
    (h : r.state.Layout fresh l) (word : isToken r.state.around.token = true)
    (isFresh : fresh r.state.around.token) (unlocked : r.state.requireUnlocked = .ok ())
    {c : Crypto.Curve} {k : PrivateKey} {a : Surroundings}
    (drew : r.state.around.drawKey c = (.ok k, a)) (valid : k.Valid) :
    ∃ t journal, start (generateKey suite c) r
        = (.ok (suite.handleOf k), ⟨r.state.onto t a, journal, r.operation⟩) ∧
      (∀ m, m ≠ keyAt l (suite.handleOf k).keyId → t.node? m = r.state.tree.node? m) ∧
      (r.state.onto t a).Layout fresh l ∧
      (r.state.onto t a).book suite
        = ((r.state.book suite).amid a).putKey (suite.handleOf k).keyId k := by
  obtain ⟨p, sealing, short⟩ := h.sealing
  obtain ⟨text, written, read⟩ := KeyFile.read_write onCurve deciphers valid short
  have token : a.token = r.state.around.token := (drawKey_keeps drew).2
  obtain ⟨t, wrote, sets, h', book⟩ := @start_writeKey _ suite _
    ⟨r.state.onto r.state.tree a, r.journal, r.operation⟩ (h.amid a) (token.symm ▸ word)
    (token.symm ▸ isFresh) _ (suite.isKeyId_handleOf k) _ _ sealing _ read
  have content : (do KeyFile.write suite k (← (r.state.onto r.state.tree a).sealingPassword))
      = .ok text := by
    change r.state.sealingPassword.bind _ = _
    rw [sealing]
    exact written
  have made : start (generateKey suite c) r = (.ok (suite.handleOf k), ⟨r.state.onto t a,
      r.journal ++ [⟨.debug, "Generated " ++ Text.ofString c.name ++ " key "
        ++ (suite.publicKey k).id.take 16, r.operation⟩], r.operation⟩) := by
    unfold generateKey
    rw [Action.start_bind_ok (start_ask_ok unlocked), Action.start_bind_ok (start_generation drew),
      Action.start_bind_ok (start_ask_ok content), Action.start_bind_ok (Action.start_read _)]
    exact Action.start_bind_ok wrote _
  exact ⟨t, _, made, sets.other, h', book⟩

theorem leads_generateKey (onCurve : suite.OnCurve) (deciphers : suite.Deciphers) {b : Book}
    {c : Crypto.Curve} {k : PrivateKey} {a : Surroundings}
    (word : isToken b.around.token = true) (isFresh : fresh b.around.token)
    (open_ : b.locked = none) (drew : b.around.drawKey c = (.ok k, a)) (valid : k.Valid) :
    Leads (State.Shows fresh suite · b) (generateKey suite c) fun o s =>
      State.Shows fresh suite s ((b.amid a).putKey (suite.handleOf k).keyId k) ∧
        o = .ok (suite.handleOf k) := by
  rintro r ⟨⟨l, h⟩, rfl⟩
  obtain ⟨t, journal, made, _, h', book⟩ :=
    start_generateKey onCurve deciphers h word isFresh (lockedBy_eq_none open_) drew valid
  rw [made]
  exact ⟨⟨⟨l, h'⟩, book⟩, rfl⟩

theorem leads_sign {b : Book} {id : Text} {k : PrivateKey} (t : Template)
    (choice : Template.DigestChoice) (open_ : b.locked = none) (key : b.key? id = some k) :
    Leads (State.Shows fresh suite · b) (sign suite id t choice) fun o s =>
      State.Shows fresh suite s b ∧
        o = (t.sign suite k choice).mapError fun e => (StoreFault.ofSigning e).getD e := by
  rintro r ⟨⟨l, h⟩, rfl⟩
  have loaded : r.state.loadKey suite id = .ok k := by
    change r.state.key? suite id = some k at key
    unfold State.key? at key
    split at key
    · cases found : r.state.loadKey suite id with
      | error e =>
        rw [found] at key
        cases key
      | ok k' =>
        rw [found] at key
        rw [Option.some.inj key]
    · cases key
  unfold sign
  rw [Action.start_bind_ok (start_ask_ok (lockedBy_eq_none open_)),
    Action.start_bind_ok (start_ask_ok loaded), Action.start_refine, Action.start_ofExcept]
  exact ⟨⟨⟨l, h⟩, rfl⟩, rfl⟩

theorem leads_sign_unknown {b : Book} {id : Text} (key : Book.isKeyId id = true)
    (open_ : b.locked = none) (unknown : b.held id = false) (t : Template)
    (choice : Template.DigestChoice) :
    Leads (State.Shows fresh suite · b) (sign suite id t choice) fun o s =>
      State.Shows fresh suite s b ∧ o = .error (Fault.keyStore ("Unknown key " ++ id)) := by
  rintro r ⟨⟨l, h⟩, rfl⟩
  have missing : r.state.tree.exists? (r.state.keyPath id) = .ok false := by
    change r.state.hasKey id = false at unknown
    rw [h.hasKey_eq key] at unknown
    rw [Tree.exists?_eq (h.keyPath key), unknown]
  have failed : r.state.loadKey suite id = .error (Fault.keyStore ("Unknown key " ++ id)) := by
    unfold State.loadKey
    simp only [missing]
    rfl
  unfold sign
  rw [Action.start_bind_ok (start_ask_ok (lockedBy_eq_none open_)),
    Action.start_bind_error (start_ask_error failed)]
  exact ⟨⟨⟨l, h⟩, rfl⟩, rfl⟩

/-! ### Entries -/

theorem valid_of_isKeyId {id : Text} (h : Book.isKeyId id = true) : id.Valid := by
  rw [Book.isKeyId, Bool.and_eq_true, List.all_eq_true] at h
  intro c hc
  have digit := h.2 c hc
  simp only [Book.isDigit, Bool.or_eq_true, Bool.and_eq_true, decide_eq_true_eq] at digit
  simp only [CodePoint.isSurrogate, Bool.and_eq_false_iff, decide_eq_false_iff_not]
  omega

theorem start_writeEntry {r : Run State} (h : r.state.Layout fresh l)
    (word : isToken r.state.around.token = true) (isFresh : fresh r.state.around.token) {e : Entry}
    (points : (entryFile e.handle).all isNamePoint = true)
    (long : 6 ≤ (entryFile e.handle).length) (short : (entryFile e.handle).length ≤ 200)
    (new : e.handle ∉ r.state.entries.map Entry.handle) (recordable : EntryRecord.Recordable e)
    (bound : e.keyId = .null ∨ ∃ id, e.keyId = .text id ∧ Book.isKeyId id = true) :
    ∃ s, start (writeWhole (r.state.entryPath e.handle)
        (asciiBytes (EntryRecord.render e r.state.around.now)) 0o644) r
        = (.ok (), ⟨s, r.journal, r.operation⟩) ∧ (∃ l, s.Layout fresh l) ∧
      (r.state.book suite).Gains e (s.book suite) ∧
      ((∀ x ∈ r.state.entries, Tree.textBefore (entryFile x.handle) (entryFile e.handle) = true) →
        s.entries = r.state.entries ++ [e]) := by
  obtain ⟨v, file, named, value⟩ := EntryRecord.value_render recordable r.state.around.now
  have own : FileName (entryFile e.handle) := fileName_of_all points (by omega) (by omega)
  have temporary := fileName_temporary points short word
  have free : r.state.tree.node?
      (entriesAt l ++ [temporaryName (entryFile e.handle) r.state.around.token]) = none :=
    h.unused _ isFresh _ (Or.inr (Or.inr rfl)) _
      (endsWith_temporaryName _ _)
  have absent := Tree.not_isDirectory_of_none (h.shelf.absent_of_new new)
  obtain ⟨t, wrote, sets⟩ := start_writeWhole h.sound h.quiet h.entriesPath
    (h.room.join fileName_certificates) h.certificates own temporary free absent
    (asciiBytes (EntryRecord.render e r.state.around.now)) 0o644
  have reads : t.resolve ((r.state.onto t r.state.around).entriesPath.join (entryFile e.handle))
      = .ok (entryAt l (entryFile e.handle)) →
      (r.state.onto t r.state.around).Reads (entryFile e.handle) e := by
    intro path
    refine ⟨own, ?_, rfl, bound⟩
    have content := Tree.contentAt_file path sets.self
    have found : ((r.state.onto t r.state.around).tree.contentAt
        ((r.state.onto t r.state.around).entriesPath.join (entryFile e.handle))).bind
          Json.ofFile = .ok v := by
      rw [show (r.state.onto t r.state.around).tree.contentAt _ = _ from content]
      exact file
    have stem : Path.stem (entryFile e.handle) = e.handle := Path.stem_json recordable.handle
    have value' : EntryRecord.entryOf (Path.stem (entryFile e.handle)) e.name v = .ok e := by
      rw [stem]
      exact value
    simp only [State.stored?, found, named, value']
    rfl
  obtain ⟨h', gains, last⟩ := h.book_entry suite own new sets r.state.around reads
  exact ⟨_, wrote, ⟨l, h'⟩, gains, last⟩

theorem recordable_imported {c : Certificate} {id name : Text} (key : c.keyId = .ok id)
    (readable : Certificate.ofDer c.der = .ok c) (valid : name.Valid) (t : Int) (token : Text)
    (held : Bool) :
    let e : Entry := ⟨State.nextHandle t token, name, c, if held then .text id else .null⟩
    (e.keyId = .null ∨ ∃ id, e.keyId = .text id ∧ Book.isKeyId id = true) ∧
      EntryRecord.Recordable e := by
  intro e
  have isKey := Certificate.isKeyId_of_keyId key
  have recordable (simple : Json.Simple e.keyId) : EntryRecord.Recordable e :=
    ⟨nextHandle_ne_nil _ _, valid, simple, readable⟩
  cases held with
  | true => exact ⟨Or.inr ⟨id, rfl, isKey⟩, recordable (.text (valid_of_isKeyId isKey))⟩
  | false => exact ⟨Or.inl rfl, recordable .null⟩

theorem leads_importCertificate {b : Book} {c : Certificate} {name id : Text}
    (ready : Ready fresh b) (readable : Certificate.ofDer c.der = .ok c) (key : c.keyId = .ok id)
    (valid : name.Valid) :
    Leads (State.Shows fresh suite · b) (importCertificate c name) fun o s => ∃ e b',
      o = .ok e ∧ State.Shows fresh suite s b' ∧ b.Gains e b' ∧ e.name = name ∧
        e.certificate = c ∧ e.keyId = (if b.held id then .text id else .null) ∧
        (Newest b → b'.entries = b.entries ++ [e]) := by
  rintro r ⟨⟨l, h⟩, rfl⟩
  have isKey := Certificate.isKeyId_of_keyId key
  have h₁ := h.amid r.state.around.tick.2
  have there : r.state.tree.exists? (r.state.keyPath id) = .ok (r.state.hasKey id) := by
    rw [Tree.exists?_eq (h.keyPath isKey), h.hasKey_eq isKey]
  obtain ⟨points, long, short⟩ := nextHandle_spec ready.token ready.ticks
  obtain ⟨e, entry⟩ : ∃ e : Entry,
    e = ⟨State.nextHandle r.state.around.ticks r.state.around.token, name, c,
      if r.state.hasKey id then .text id else .null⟩ := ⟨_, rfl⟩
  have handle : State.nextHandle r.state.around.ticks r.state.around.token = e.handle := by
    rw [entry]
  obtain ⟨bound, recordable⟩ := recordable_imported key readable valid r.state.around.ticks
    r.state.around.token (r.state.hasKey id)
  rw [← entry] at bound recordable
  obtain ⟨s, wrote, layout, gains, last⟩ := @start_writeEntry _ suite _
    ⟨r.state.onto r.state.tree r.state.around.tick.2, r.journal, r.operation⟩ h₁ ready.token
    ready.fresh e (handle ▸ points) (handle ▸ long) (handle ▸ short) (handle ▸ ready.handle)
    recordable bound
  have stored : (⟨State.nextHandle r.state.around.tick.1 r.state.around.tick.2.token, name, c,
      if r.state.hasKey id then .text id else .null⟩ : Entry) = e := entry.symm
  have handle' : State.nextHandle r.state.around.tick.1 r.state.around.tick.2.token = e.handle :=
    handle
  have imported : start (importCertificate c name) r
      = (.ok e, ⟨s, r.journal ++ [⟨.info, "Imported certificate for " ++ name ++ ", serial "
        ++ c.serialText, r.operation⟩], r.operation⟩) := by
    unfold importCertificate
    rw [Action.start_bind_ok (by rw [Action.start_ofExcept, key]),
      Action.start_bind_ok (Action.start_take _ _), Action.start_bind_ok (Action.start_read _),
      Action.start_bind_ok (by rw [Action.start_ofExcept]; exact congrArg (·, _) there)]
    simp only [stored]
    rw [handle']
    exact Action.start_bind_ok wrote _
  rw [imported]
  refine ⟨e, s.book suite, rfl, ⟨layout, rfl⟩, ?_, ?_, ?_, ?_, ?_⟩
  · exact ⟨gains.entries, gains.held, gains.key?, gains.locked, gains.available⟩
  · rw [entry]
  · rw [entry]
  · rw [entry]
    rfl
  · intro newest
    refine last fun x hx => ?_
    rw [← handle]
    exact newest x hx

theorem handle_importCertificate {c : Certificate} {name : Text} {r : Run State} {e : Entry}
    (ended : (start (importCertificate c name) r).1 = .ok e) :
    e.handle = State.nextHandle r.state.around.ticks r.state.around.token := by
  unfold importCertificate at ended
  rw [Action.start_bind, Action.start_ofExcept] at ended
  cases key : c.keyId with
  | error f =>
    rw [key] at ended
    cases ended
  | ok id =>
    rw [key] at ended
    simp only at ended
    rw [Action.start_bind_ok (Action.start_take _ r), Action.start_bind_ok (Action.start_read _),
      Action.start_bind, Action.start_ofExcept] at ended
    split at ended
    · rw [Action.start_bind] at ended
      split at ended
      · obtain rfl := Except.ok.inj ended
        rfl
      · cases ended
    · cases ended

theorem leads_randomBytes (b : Book) (n : Int) :
    Leads (State.Shows fresh suite · b) ((keyStore suite).randomBytes n) fun o s =>
      State.Shows fresh suite s (b.amid (b.around.draw n).2) ∧
        o = (b.around.draw n).1.map Value.bytes := by
  rintro r ⟨⟨l, h⟩, rfl⟩
  have drew : start (drawn (Surroundings.draw n)) r = ((r.state.around.draw n).1,
      ⟨r.state.onto r.state.tree (r.state.around.draw n).2, r.journal, r.operation⟩) :=
    start_drawn _ r
  have amid := h.amid (r.state.around.draw n).2
  change _ ∧ _ = ((r.state.around.draw n).1.map Value.bytes)
  rw [keyStore]
  simp only
  rw [Action.start_bind, drew]
  cases (r.state.around.draw n).1 with
  | error e => exact ⟨⟨⟨l, amid⟩, rfl⟩, rfl⟩
  | ok bs => exact ⟨⟨⟨l, amid⟩, rfl⟩, rfl⟩

theorem leads_isAvailable (b : Book) :
    Leads (State.Shows fresh suite · b) (keyStore suite).isAvailable fun o s =>
      State.Shows fresh suite s b ∧ o = .ok (.bool b.available) := by
  rintro r ⟨⟨l, h⟩, rfl⟩
  have answer : start (keyStore suite).isAvailable r
      = (.ok (.bool !r.state.tree.barred.contains l), r) :=
    Action.start_bind_ok (start_ask_ok h.isAvailable) _
  rw [answer, h.available_book]
  exact ⟨⟨⟨l, h⟩, rfl⟩, rfl⟩

theorem leads_findByName (b : Book) (name : Text) :
    Leads (State.Shows fresh suite · b) ((keyStore suite).findByName name) fun o s =>
      State.Shows fresh suite s b ∧ o = .ok (b.first? name) := by
  refine leads_ask fun s hs => ?_
  obtain ⟨⟨l, h⟩, rfl⟩ := hs
  exact ⟨⟨⟨l, h⟩, rfl⟩, h.shelf.find_eq name⟩

theorem leads_generateKey_locked {b : Book} {c : Crypto.Curve} {e : Fault}
    (locked : b.locked = some e) :
    Leads (State.Shows fresh suite · b) (generateKey suite c) fun o s =>
      State.Shows fresh suite s b ∧ o = .error e := by
  rintro r ⟨layout, rfl⟩
  have refused : start (generateKey suite c) r = (.error e, r) :=
    Action.start_bind_error (start_ask_error (lockedBy_eq_some locked)) _
  rw [refused]
  exact ⟨⟨layout, rfl⟩, rfl⟩

theorem leads_generateKey_refused {b : Book} {c : Crypto.Curve} {e : Fault} {a : Surroundings}
    (open_ : b.locked = none) (drew : b.around.drawKey c = (.error e, a)) :
    Leads (State.Shows fresh suite · b) (generateKey suite c) fun o s =>
      State.Shows fresh suite s (b.amid a) ∧ o = .error ((StoreFault.ofGeneration e).getD e) := by
  rintro r ⟨⟨l, h⟩, rfl⟩
  have refused : start (generateKey suite c) r
      = (.error ((StoreFault.ofGeneration e).getD e),
        ⟨r.state.onto r.state.tree a, r.journal, r.operation⟩) := by
    unfold generateKey
    rw [Action.start_bind_ok (start_ask_ok (lockedBy_eq_none open_)),
      Action.start_bind_error (start_generation drew)]
  rw [refused]
  exact ⟨⟨⟨l, h.amid a⟩, rfl⟩, rfl⟩

theorem leads_importCertificate_refused {b : Book} {c : Certificate} {e : Fault}
    (refused : c.keyId = .error e) (name : Text) :
    Leads (State.Shows fresh suite · b) (importCertificate c name) fun o s =>
      State.Shows fresh suite s b ∧ o = .error e := by
  rintro r ⟨layout, rfl⟩
  have failed : start (importCertificate c name) r = (.error e, r) :=
    Action.start_bind_error (by rw [Action.start_ofExcept, refused]) _
  rw [failed]
  exact ⟨⟨layout, rfl⟩, rfl⟩

/-- A directory on a calm disk keeps its books while its temporary names are `fresh`. -/
theorem keeps (onCurve : suite.OnCurve) (deciphers : suite.Deciphers) (fresh : Text → Prop) :
    (keyStore suite).Keeps suite (State.Shows fresh suite) (Ready fresh) Newest where
  sound h := by
    obtain ⟨⟨l, layout⟩, rfl⟩ := h
    exact layout.sound_book
  horizon h := by
    obtain ⟨⟨l, layout⟩, rfl⟩ := h
    exact Nat.lt_succ_of_le layout.shelf.length_entries_le
  ready_mono h fewer ticks token := h.mono fewer ticks token
  lockedFault h locked := by
    obtain ⟨⟨l, layout⟩, rfl⟩ := h
    exact layout.lockedFault locked
  isAvailable b := leads_isAvailable b
  findByName b name := leads_findByName b name
  delete _ _ stored := leads_delete stored
  deleteKey b _ key := leads_deleteKey b key
  generateLocked _ _ _ locked := leads_generateKey_locked locked
  generateRefused _ _ _ _ open_ drew := leads_generateKey_refused open_ drew
  generateKey _ _ _ _ ready open_ drew valid :=
    leads_generateKey onCurve deciphers ready.token ready.fresh open_ drew valid
  sign _ _ _ t choice open_ key := leads_sign t choice open_ key
  importRefused _ _ name _ refused := leads_importCertificate_refused refused name
  importCertificate _ _ _ _ ready readable key valid :=
    leads_importCertificate ready readable key valid
  randomBytes b n := leads_randomBytes b n

end CertKeeper.Directory
