import CertKeeper.Proofs.Keeper.Outcome
import CertKeeper.Proofs.Store.Directory.Atomic

/-!
# The record of an entry

What an import writes for an entry is read back as that entry, and found under its name and under
no other.  Main statement: `entry_round_trips`.
-/

namespace CertKeeper.Directory

open X509
open CertKeeper.Action (start)

variable {s : State} {r : Run State} {d : Location} {e : Entry} {c : Certificate} {name : Text}

/-! ### Reading -/

/-- A search that comes to a file finds an entry there under its name and passes it under any
other. -/
def State.Finds (s : State) (file : Text) (e : Entry) : Prop :=
  ∀ wanted rest, s.findAmong wanted (file :: rest) =
    if e.name = wanted then .ok (some e) else s.findAmong wanted rest

theorem State.finds_of_record (recordable : EntryRecord.Recordable e) {importedAt : Instant}
    (content : s.tree.contentAt (s.entryPath e.handle) =
      .ok (asciiBytes (EntryRecord.render e importedAt))) : s.Finds (entryFile e.handle) e := by
  obtain ⟨v, value, named, entry⟩ := EntryRecord.value_render recordable importedAt
  have stem : Path.stem (entryFile e.handle) = e.handle := Path.stem_json recordable.handle
  rw [← stem] at entry
  intro wanted rest
  have content' : s.tree.contentAt (s.entriesPath.join (entryFile e.handle)) =
      .ok (asciiBytes (EntryRecord.render e importedAt)) := content
  have found : EntryRecord.read (entryFile e.handle) wanted
      (.ok (asciiBytes (EntryRecord.render e importedAt))) =
        .ok (if e.name = wanted then some e else none) := EntryRecord.read_eq value named entry
  rw [findAmong, content', found]
  by_cases same : e.name = wanted
  · rw [if_pos same, if_pos same]
    rfl
  · rw [if_neg same, if_neg same]
    rfl

/-! ### Writing -/

/-- A directory for entries that has room for one more: the names of the next entry and of the
temporary file are proper ones, and the temporary name is not in use. -/
structure State.Takes (s : State) (d : Location) : Prop where
  sound : s.tree.Sound
  entriesPath : s.tree.resolve s.entriesPath = .ok d
  room : Tree.HasRoom s.entriesPath 256
  directory : s.tree.IsDirectory d
  token : isToken s.around.token = true
  ticks : s.around.ticks.natAbs < 10 ^ 100
  free : s.tree.node? (d ++ [temporaryName
    (entryFile (State.nextHandle s.around.ticks s.around.token)) s.around.token]) = none

theorem State.Takes.fileName (h : s.Takes d) :
    FileName (entryFile (State.nextHandle s.around.ticks s.around.token)) := by
  obtain ⟨points, long, short⟩ := nextHandle_spec h.token h.ticks
  exact fileName_of_all points (Nat.le_trans (by decide) long) (Nat.le_trans short (by decide))

theorem State.Takes.unused (h : s.Takes d) :
    s.Unused (s.entryPath (State.nextHandle s.around.ticks s.around.token)) := by
  obtain ⟨points, _, short⟩ := nextHandle_spec h.token h.ticks
  have temporary := fileName_temporary points short h.token
  refine ⟨_, ?_, h.free⟩
  show s.tree.resolve (State.temporaryPath s (s.entriesPath.join (entryFile _))) = _
  rw [State.temporaryPath, withName_temporary h.fileName temporary]
  exact Tree.resolve_join temporary h.room h.entriesPath h.directory

/-- A file that is written whole among the entries is read there and listed. -/
theorem reads_written {file : Text} {content : Bytes} {r' : Run State} (sound : r.state.tree.Sound)
    (path : r.state.tree.resolve r.state.entriesPath = .ok d)
    (room : Tree.HasRoom r.state.entriesPath 256) (directory : r.state.tree.IsDirectory d)
    (name : FileName file) (ends : Text.endsWith ".json" file = true)
    (unused : r.state.Unused (r.state.entriesPath.join file))
    (wrote : start (writeWhole (r.state.entriesPath.join file) content 0o644) r = (.ok (), r')) :
    r'.state.tree.contentAt (r'.state.entriesPath.join file) = .ok content ∧
      file ∈ r'.state.entryFiles := by
  obtain ⟨y, troubles, target, new, whole⟩ :=
    start_writeWhole_works sound unused (works_of_writeWhole wrote)
  have ended : r' = ⟨r.state.onto ((r.state.tree.put y (.file 0o644 content)).beset troubles)
      r.state.around, r.journal, r.operation⟩ := congrArg Prod.snd (wrote.symm.trans whole)
  have place := Tree.resolve_join name room path directory
  obtain rfl : y = d ++ [file] := Except.ok.inj (target.symm.trans place)
  have sets := Tree.sets_put (t := r.state.tree) (Tree.ne_nil_of_not_isDirectory new)
    (.file 0o644 content)
  have kept := sets.keeps_directory new
  rw [ended]
  constructor
  · exact (Tree.contentAt_beset _ _).trans
      (Tree.contentAt_file (Tree.resolve_of_directories kept place) sets.self)
  · refine (congrArg (file ∈ ·) (Tree.namesEnding_beset _ _ _)).mpr ?_
    refine ((Tree.namesEnding_spec (sets.nodup sound.nodup)
      (Tree.resolve_of_directories kept path) (kept d directory) _).2.2 file).mpr ⟨ends, ?_⟩
    rw [sets.self]
    rfl

theorem wrote_of_imported {r' : Run State}
    (imported : start (importCertificate c name) r = (.ok e, r')) :
    ∃ (id : Text) (bound : Bool), c.keyId = .ok id ∧
      e = ⟨State.nextHandle r.state.around.ticks r.state.around.token, name, c,
        if bound then .text id else .null⟩ ∧
      ∃ q, start (writeWhole (r.state.entryPath e.handle)
        (asciiBytes (EntryRecord.render e r.state.around.now)) 0o644)
          ⟨r.state.onto r.state.tree r.state.around.tick.2, r.journal, r.operation⟩ = (.ok (), q) ∧
        r'.state = q.state := by
  have done : start ((Call.importCertificate c name).perform (keyStore Suite.lenient)) r =
      (.ok (), r') := Action.start_bind_ok imported _
  obtain ⟨_, _, _, writes⟩ | ⟨f, a, stopped⟩ :=
    @Call.stops_or_writes Suite.lenient _ (.importCertificate c name) r
  · cases writes with
    | @entry _ _ id bound key there =>
    rw [Call.start_importCertificate_begins key there name] at imported
    obtain ⟨made, same⟩ : ∃ made : Entry, made = ⟨State.nextHandle r.state.around.ticks
      r.state.around.token, name, c, if bound then .text id else .null⟩ := ⟨_, rfl⟩
    rw [← same] at imported
    cases wrote : start (writeWhole (r.state.entryPath made.handle)
        (asciiBytes (EntryRecord.render made r.state.around.now)) 0o644)
        ⟨r.state.onto r.state.tree r.state.around.tick.2, r.journal, r.operation⟩ with
    | mk outcome q =>
    cases outcome with
    | error f =>
      rw [Action.start_bind_error wrote] at imported
      cases imported
    | ok _ =>
    rw [Action.start_bind_ok wrote] at imported
    cases imported
    exact ⟨id, bound, key, same, q, wrote, rfl⟩
  · cases done.symm.trans stopped

/-- Whatever its name, its key id and its certificate are, the record of an entry is read back as
that entry, and a search finds it under its name and under no other text.  An import leaves this
record among the entries. -/
theorem entry_round_trips {der : Bytes} {c : Certificate} (loads : Certificate.ofDer der = .ok c)
    (valid : name.Valid) :
    (∀ ticks token keyId importedAt,
      (keyId = Value.null ∨ ∃ id : Text, id.Valid ∧ keyId = .text id) →
      let e : Entry := ⟨State.nextHandle ticks token, name, c, keyId⟩
      let content := asciiBytes (EntryRecord.render e importedAt)
      e.certificate.der = der ∧
      (∃ v, Json.ofFile content = .ok v ∧ v.field? "name" = some (.text name) ∧
        EntryRecord.entryOf (Path.stem (entryFile e.handle)) name v = .ok e) ∧
      ∀ s : State, s.tree.contentAt (s.entryPath e.handle) = .ok content →
        s.Finds (entryFile e.handle) e) ∧
    ∀ (r : Run State) d, r.state.Takes d → ∀ e r',
      start (importCertificate c name) r = (.ok e, r') →
      (∃ keyId, (keyId = Value.null ∨ ∃ id, c.keyId = .ok id ∧ keyId = .text id) ∧
        e = ⟨State.nextHandle r.state.around.ticks r.state.around.token, name, c, keyId⟩) ∧
      r'.state.tree.contentAt (r'.state.entryPath e.handle) =
        .ok (asciiBytes (EntryRecord.render e r.state.around.now)) ∧
      entryFile e.handle ∈ r'.state.entryFiles ∧ r'.state.Finds (entryFile e.handle) e := by
  have bytes : c.der = der := Certificate.der_ofDer loads
  have readable : Certificate.ofDer c.der = .ok c := bytes ▸ loads
  have recordable (ticks : Int) (token : Text) {keyId : Value}
      (known : keyId = .null ∨ ∃ id : Text, id.Valid ∧ keyId = .text id) :
      EntryRecord.Recordable ⟨State.nextHandle ticks token, name, c, keyId⟩ := by
    refine ⟨nextHandle_ne_nil ticks token, valid, ?_, readable⟩
    rcases known with rfl | ⟨id, plain, rfl⟩
    · exact .null
    · exact .text plain
  refine ⟨fun ticks token keyId importedAt known => ⟨bytes, ?_, fun s content => ?_⟩,
    fun r d takes e r' imported => ?_⟩
  · obtain ⟨v, value, named, entry⟩ :=
      EntryRecord.value_render (recordable ticks token known) importedAt
    refine ⟨v, value, named, ?_⟩
    rw [entryFile, Path.stem_json (nextHandle_ne_nil ticks token)]
    exact entry
  · exact State.finds_of_record (recordable ticks token known) content
  · obtain ⟨id, bound, key, made, q, wrote, same⟩ := wrote_of_imported imported
    have handle : e.handle = State.nextHandle r.state.around.ticks r.state.around.token := by
      rw [made]
    have file : FileName (entryFile e.handle) := handle ▸ takes.fileName
    have unused : r.state.Unused (r.state.entryPath e.handle) := handle ▸ takes.unused
    obtain ⟨content, member⟩ := @reads_written
      ⟨r.state.onto r.state.tree r.state.around.tick.2, r.journal, r.operation⟩ d
      (entryFile e.handle) _ q takes.sound takes.entriesPath takes.room takes.directory file
      (List.isSuffixOf_iff_suffix.mpr (List.suffix_append _ _)) unused wrote
    rw [← same] at content member
    have known : e.keyId = .null ∨ ∃ id, c.keyId = .ok id ∧ e.keyId = .text id := by
      rw [made]
      cases bound with
      | false => exact .inl rfl
      | true => exact .inr ⟨id, key, rfl⟩
    have plain : e.keyId = .null ∨ ∃ id : Text, id.Valid ∧ e.keyId = .text id := by
      rcases known with null | ⟨id, key, text⟩
      · exact .inl null
      · exact .inr ⟨id, valid_of_isKeyId (Certificate.isKeyId_of_keyId key), text⟩
    have whole : e = ⟨State.nextHandle r.state.around.ticks r.state.around.token, name, c,
        e.keyId⟩ := by
      rw [made]
    have readable := recordable r.state.around.ticks r.state.around.token plain
    rw [← whole] at readable
    exact ⟨⟨e.keyId, known, whole⟩, content, member, State.finds_of_record readable content⟩

def roomyDirectory : State :=
  { Call.crampedDirectory with tree := Call.crampedDirectory.tree.beset [] }

theorem takes_roomyDirectory : roomyDirectory.Takes [Text.ofString "certificates"] where
  sound := ⟨Call.sound_crampedDirectory.nodup, Call.sound_crampedDirectory.parents⟩
  entriesPath := rfl
  room := by decide
  directory := ⟨0o700, rfl⟩
  token := by decide
  ticks := by decide
  free := by decide +kernel

theorem start_import_roomyDirectory {id : Text} (key : c.keyId = .ok id) (name : Text) :
    ∃ e r', start (importCertificate c name) ⟨roomyDirectory, [], none⟩ = (.ok e, r') := by
  have takes := takes_roomyDirectory
  have path : roomyDirectory.tree.resolve (roomyDirectory.keyPath id) =
      .ok ([Text.ofString "keys"] ++ [id ++ Text.ofString ".pem"]) :=
    Tree.resolve_join (fileName_keyFile (Certificate.isKeyId_of_keyId key)) (by decide)
      (rfl : roomyDirectory.tree.resolve roomyDirectory.keysPath = _) ⟨0o700, rfl⟩
  have there : roomyDirectory.tree.exists? (roomyDirectory.keyPath id) = .ok false := by
    rw [Tree.exists?_eq path]
    rfl
  obtain ⟨points, _, short⟩ := nextHandle_spec takes.token takes.ticks
  obtain ⟨_, wrote, _⟩ := @start_writeWhole _
    ⟨roomyDirectory.onto roomyDirectory.tree roomyDirectory.around.tick.2, [], none⟩
    takes.sound rfl _ takes.entriesPath takes.room takes.directory _ takes.fileName
    (fileName_temporary points short takes.token) takes.free
    (Tree.not_isDirectory_of_none (by decide +kernel))
    (asciiBytes (EntryRecord.render ⟨State.nextHandle roomyDirectory.around.ticks
      roomyDirectory.around.token, name, c, .null⟩ roomyDirectory.around.now)) 0o644
  have begins := @Call.start_importCertificate_begins ⟨roomyDirectory, [], none⟩ _ _ _ key there
    name
  exact ⟨_, _, begins.trans (Action.start_bind_ok wrote _)⟩

def awkwardName : Text := "🔑\"\\\n"

theorem awkwardName_round_trips :
    ∃ c e r', Certificate.ofDer c.der = .ok c ∧
      start (importCertificate c awkwardName) ⟨roomyDirectory, [], none⟩ = (.ok e, r') ∧
      e.name = awkwardName ∧ r'.state.Finds (entryFile e.handle) e := by
  have valid : PrivateKey.Valid ⟨.p256, 1⟩ := ⟨by decide, by decide⟩
  obtain ⟨c, issued⟩ :=
    @Keeper.exists_issued Suite.lenient Suite.lawful_lenient _ valid "server" rfl
  obtain ⟨e, r', imported⟩ := start_import_roomyDirectory issued.keyId awkwardName
  obtain ⟨⟨_, _, made⟩, _, _, finds⟩ :=
    (entry_round_trips issued.readable (Text.valid_ofString _)).2 _ _ takes_roomyDirectory e r'
      imported
  exact ⟨c, e, r', issued.readable, imported, made ▸ rfl, finds⟩

end CertKeeper.Directory
