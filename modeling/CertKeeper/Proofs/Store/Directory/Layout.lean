import CertKeeper.Proofs.Encoding.Decimal
import CertKeeper.Proofs.Files.Tree
import CertKeeper.Proofs.Store.Book

/-!
# What a directory holds

The entries and the keys that a store finds in its directory, and what makes the directory one that
it can work in.
-/

namespace CertKeeper.Directory

open X509
open CertKeeper.Tree (IsDirectory Sets)

/-! ### Names that are written -/

def isNamePoint (c : CodePoint) : Bool :=
  (48 ≤ c.val && c.val ≤ 57) || (97 ≤ c.val && c.val ≤ 122) || c.val = 45 || c.val = 46

theorem byteCount_eq_length {n : Text} (h : n.all isNamePoint = true) :
    Tree.byteCount n = n.length := by
  induction n with
  | nil => rfl
  | cons c n ih =>
    rw [List.all_cons, Bool.and_eq_true] at h
    have small : c.val < 0x80 := by
      have := h.1
      simp only [isNamePoint, Bool.or_eq_true, Bool.and_eq_true, decide_eq_true_eq] at this
      omega
    rw [Tree.byteCount, Utf8.encodePoint, if_pos small, List.length_singleton, ite_self, ih h.2,
      List.length_cons, Nat.add_comm]

theorem fileName_of_all {n : Text} (h : n.all isNamePoint = true) (long : 3 ≤ n.length)
    (short : n.length ≤ 255) : FileName n := by
  have points : ∀ c ∈ n, isNamePoint c = true := List.all_eq_true.mp h
  have length : ∀ m : Text, m.length < 3 → n ≠ m := by
    rintro m less rfl
    omega
  refine ⟨length _ (by decide), length _ (by decide), length _ (by decide), ?_, ?_, ?_⟩
  · intro member
    have := points _ member
    revert this
    decide
  · refine List.any_eq_false.mpr fun c hc => ?_
    have := points c hc
    simp only [isNamePoint, Bool.or_eq_true, Bool.and_eq_true, decide_eq_true_eq] at this
    simp only [Path.isBarred, CodePoint.isForeign, CodePoint.isSurrogate, Bool.or_eq_true,
      Bool.and_eq_true, decide_eq_true_eq, not_or, not_and]
    omega
  · rw [Tree.isLong, byteCount_eq_length h]
    exact decide_eq_false (by unfold Tree.nameLimit; omega)

theorem all_isNamePoint_of_digits {t : Text} (h : t.all Book.isDigit = true) :
    t.all isNamePoint = true := by
  rw [List.all_eq_true] at h ⊢
  intro c hc
  have digit := h c hc
  simp only [Book.isDigit, isNamePoint, Bool.or_eq_true, Bool.and_eq_true, decide_eq_true_eq] at *
  omega

theorem isKeyId_iff {id : Text} (h : Book.isKeyId id = true) :
    id.length = 64 ∧ id.all isNamePoint = true := by
  rw [Book.isKeyId, Bool.and_eq_true, decide_eq_true_eq] at h
  exact ⟨h.1, all_isNamePoint_of_digits h.2⟩

theorem fileName_keyFile {id : Text} (h : Book.isKeyId id = true) : FileName (id ++ ".pem") := by
  obtain ⟨length, points⟩ := isKeyId_iff h
  have ending : (Text.ofString ".pem").length = 4 := rfl
  refine fileName_of_all ?_ ?_ ?_
  · rw [List.all_append, points]
    rfl
  · rw [List.length_append, length]
    omega
  · rw [List.length_append, length, ending]
    omega

theorem fileName_keys : FileName "keys" :=
  fileName_of_all rfl (Nat.le_of_ble_eq_true rfl) (Nat.le_of_ble_eq_true rfl)

theorem fileName_certificates : FileName "certificates" :=
  fileName_of_all rfl (Nat.le_of_ble_eq_true rfl) (Nat.le_of_ble_eq_true rfl)

theorem fileName_password : FileName "password.json" :=
  fileName_of_all rfl (Nat.le_of_ble_eq_true rfl) (Nat.le_of_ble_eq_true rfl)

/-- A word of one's own: 32 lower-case hexadecimal digits. -/
def isToken (t : Text) : Bool := t.length = 32 && t.all Book.isDigit

def temporaryEnding (token : Text) : Text := "." ++ token ++ ".tmp"

def temporaryName (name token : Text) : Text := "." ++ name ++ temporaryEnding token

theorem endsWith_temporaryName (name token : Text) :
    Text.endsWith (temporaryEnding token) (temporaryName name token) = true :=
  List.isSuffixOf_iff_suffix.mpr (List.suffix_append _ _)

theorem fileName_temporary {name token : Text} (points : name.all isNamePoint = true)
    (short : name.length ≤ 200) (h : isToken token = true) :
    FileName (temporaryName name token) := by
  rw [isToken, Bool.and_eq_true, decide_eq_true_eq] at h
  have length : (temporaryName name token).length = name.length + 38 := by
    simp only [temporaryName, temporaryEnding, List.length_append, h.1]
    have one : (Text.ofString ".").length = 1 := rfl
    have four : (Text.ofString ".tmp").length = 4 := rfl
    rw [one, four]
    omega
  refine fileName_of_all ?_ (by omega) (by omega)
  simp only [temporaryName, temporaryEnding, List.all_append, points,
    all_isNamePoint_of_digits h.2, Bool.and_true]
  rfl

theorem temporaryName_ne {name token : Text} : name ≠ temporaryName name token := by
  intro same
  have length := congrArg List.length same
  have one : (Text.ofString ".").length = 1 := rfl
  simp only [temporaryName, List.length_append, one] at length
  omega

/-! ### Places -/

theorem place_injective {l : Location} {name other : Text} (h : l ++ [name] = l ++ [other]) :
    name = other := List.singleton_inj.mp (List.append_cancel_left h)

def keysAt (l : Location) : Location := l ++ [Text.ofString "keys"]

def entriesAt (l : Location) : Location := l ++ [Text.ofString "certificates"]

def passwordAt (l : Location) : Location := l ++ [Text.ofString "password.json"]

def keyAt (l : Location) (id : Text) : Location := keysAt l ++ [id ++ ".pem"]

def entryFile (handle : Text) : Text := handle ++ ".json"

theorem endsWith_entryFile (handle : Text) : Text.endsWith ".json" (entryFile handle) = true :=
  List.isSuffixOf_iff_suffix.mpr (List.suffix_append _ _)

def entryAt (l : Location) (file : Text) : Location := entriesAt l ++ [file]

theorem entryAt_ne_keyAt (l : Location) (file id : Text) : entryAt l file ≠ keyAt l id := by
  have names : Text.ofString "certificates" ≠ Text.ofString "keys" := by decide +kernel
  intro same
  simp only [entryAt, keyAt, entriesAt, keysAt, List.append_assoc] at same
  have tails := List.append_cancel_left same
  simp only [List.cons_append, List.nil_append, List.cons.injEq] at tails
  exact names tails.1

theorem passwordAt_ne_keyAt (l : Location) (id : Text) : passwordAt l ≠ keyAt l id := by
  intro same
  have length := congrArg List.length same
  simp [passwordAt, keyAt, keysAt] at length

theorem passwordAt_ne_entryAt (l : Location) (file : Text) : passwordAt l ≠ entryAt l file := by
  intro same
  have length := congrArg List.length same
  simp [passwordAt, entryAt, entriesAt] at length

theorem keyAt_injective {l : Location} {id other : Text} (h : keyAt l id = keyAt l other) :
    id = other := List.append_cancel_right (place_injective h)

theorem entryAt_injective {l : Location} {file other : Text}
    (h : entryAt l file = entryAt l other) : file = other := place_injective h

theorem endsWith_temporaryEnding {token t ending : Text} {c : CodePoint}
    (other : c ≠ CodePoint.ofChar 'p') (last : ending.getLast? = some c) :
    Text.endsWith (temporaryEnding token) (t ++ ending) = false := by
  rw [Bool.eq_false_iff]
  intro ends
  obtain ⟨front, whole⟩ := List.isSuffixOf_iff_suffix.mp ends
  have lastLetter : (temporaryEnding token).getLast? = some (CodePoint.ofChar 'p') := by
    have tmp : Text.ofString ".tmp" = [CodePoint.ofChar '.', CodePoint.ofChar 't',
      CodePoint.ofChar 'm'] ++ [CodePoint.ofChar 'p'] := rfl
    rw [temporaryEnding, tmp, ← List.append_assoc, List.getLast?_concat]
  have same := congrArg List.getLast? whole
  rw [List.getLast?_append, List.getLast?_append, lastLetter, last] at same
  exact other (Option.some.inj same).symm

namespace State

/-! ### What is found -/

def stored? (s : State) (file : Text) : Option Entry :=
  match (s.tree.contentAt (s.entriesPath.join file)).bind Json.ofFile with
  | .error _ => none
  | .ok v =>
    match v.field? "name" with
    | some (.text name) => (EntryRecord.entryOf (Path.stem file) name v).toOption
    | _ => none

def entries (s : State) : List Entry := s.entryFiles.filterMap s.stored?

def hasKey (s : State) (id : Text) : Bool :=
  Book.isKeyId id && (s.tree.exists? (s.keyPath id)).toOption.getD false

def key? (suite : Suite) (s : State) (id : Text) : Option PrivateKey :=
  if s.hasKey id then (s.loadKey suite id).toOption else none

def lockedBy (s : State) : Option Fault :=
  match s.requireUnlocked with
  | .ok () => none
  | .error e => some e

def book (suite : Suite) (s : State) : Book :=
  ⟨s.entries, s.hasKey, s.key? suite, s.lockedBy, (isAvailable s).toOption.getD false, s.around⟩

/-! ### Directories to work in -/

/-- A file of an entry that can be read and is named by its handle. -/
structure Reads (s : State) (file : Text) (e : Entry) : Prop where
  name : FileName file
  entry : s.stored? file = some e
  file : file = entryFile e.handle
  keyId : e.keyId = .null ∨ ∃ id, e.keyId = .text id ∧ Book.isKeyId id = true

/-- A directory at a location whose entries can all be read, whatever else stands in it. -/
structure Shelf (s : State) (l : Location) : Prop where
  sound : s.tree.Sound
  base : s.tree.resolve s.base = .ok l
  room : Tree.HasRoom s.base 512
  root : s.tree.IsDirectory l
  keys : s.tree.IsDirectory (keysAt l)
  certificates : s.tree.IsDirectory (entriesAt l)
  entryFiles : ∀ file ∈ s.entryFiles, ∃ e, s.Reads file e

/-- A directory at a location that a store can work in.  Temporary names of the words in `fresh`
are not in use. -/
structure Layout (fresh : Text → Prop) (s : State) (l : Location) : Prop where
  sound : s.tree.Sound
  quiet : s.tree.troubles = []
  base : s.tree.resolve s.base = .ok l
  nameable : s.base.isUnnameable = false
  room : Tree.HasRoom s.base 512
  root : s.tree.IsDirectory l
  keys : s.tree.IsDirectory (keysAt l)
  certificates : s.tree.IsDirectory (entriesAt l)
  keyFiles : ∀ id, Book.isKeyId id = true → ¬ s.tree.IsDirectory (keyAt l id)
  entryFiles : ∀ file ∈ s.entryFiles, ∃ e, s.Reads file e
  sealing : ∃ p, s.sealingPassword = .ok p ∧ ∀ content, p = some content →
    content.length ≤ KeyFile.passwordLimit
  unused : ∀ token, fresh token → ∀ d, d = l ∨ d = keysAt l ∨ d = entriesAt l → ∀ name,
    Text.endsWith (temporaryEnding token) name = true → s.tree.node? (d ++ [name]) = none

variable {fresh : Text → Prop} {s : State} {l : Location}

namespace Shelf

theorem keysPath (h : Shelf s l) : s.tree.resolve s.keysPath = .ok (keysAt l) :=
  Tree.resolve_join fileName_keys (Tree.hasRoom_base h.room) h.base h.root

theorem entriesPath (h : Shelf s l) : s.tree.resolve s.entriesPath = .ok (entriesAt l) :=
  Tree.resolve_join fileName_certificates (Tree.hasRoom_base h.room) h.base h.root

theorem keyPath (h : Shelf s l) {id : Text} (key : Book.isKeyId id = true) :
    s.tree.resolve (s.keyPath id) = .ok (keyAt l id) :=
  Tree.resolve_join (fileName_keyFile key) (h.room.join fileName_keys) h.keysPath h.keys

theorem entryPath (h : Shelf s l) {file : Text} (name : FileName file) :
    s.tree.resolve (s.entriesPath.join file) = .ok (entryAt l file) :=
  Tree.resolve_join name (h.room.join fileName_certificates) h.entriesPath h.certificates

theorem mem_entryFiles (h : Shelf s l) {file : Text} : file ∈ s.entryFiles ↔
    Text.endsWith ".json" file = true ∧ (s.tree.node? (entryAt l file)).isSome = true :=
  (Tree.namesEnding_spec h.sound.nodup h.entriesPath h.certificates _).2.2 file

theorem entryFiles_nodup (h : Shelf s l) : s.entryFiles.Nodup :=
  (Tree.namesEnding_spec h.sound.nodup h.entriesPath h.certificates _).2.1

theorem entryFiles_ordered (h : Shelf s l) :
    s.entryFiles.Pairwise (Tree.textBefore · ·) :=
  (Tree.namesEnding_spec h.sound.nodup h.entriesPath h.certificates _).1

end Shelf

namespace Layout

theorem shelf (h : Layout fresh s l) : Shelf s l :=
  ⟨h.sound, h.base, h.room, h.root, h.keys, h.certificates, h.entryFiles⟩

theorem keysPath (h : Layout fresh s l) : s.tree.resolve s.keysPath = .ok (keysAt l) :=
  h.shelf.keysPath

theorem entriesPath (h : Layout fresh s l) : s.tree.resolve s.entriesPath = .ok (entriesAt l) :=
  h.shelf.entriesPath

theorem passwordPath (h : Layout fresh s l) : s.tree.resolve s.passwordPath = .ok (passwordAt l) :=
  Tree.resolve_join fileName_password (Tree.hasRoom_base h.room) h.base h.root

theorem keyPath (h : Layout fresh s l) {id : Text} (key : Book.isKeyId id = true) :
    s.tree.resolve (s.keyPath id) = .ok (keyAt l id) := h.shelf.keyPath key

theorem entryPath (h : Layout fresh s l) {file : Text} (name : FileName file) :
    s.tree.resolve (s.entriesPath.join file) = .ok (entryAt l file) := h.shelf.entryPath name

theorem mem_entryFiles (h : Layout fresh s l) {file : Text} : file ∈ s.entryFiles ↔
    Text.endsWith ".json" file = true ∧ (s.tree.node? (entryAt l file)).isSome = true :=
  h.shelf.mem_entryFiles

theorem entryFiles_nodup (h : Layout fresh s l) : s.entryFiles.Nodup := h.shelf.entryFiles_nodup

theorem entryFiles_ordered (h : Layout fresh s l) :
    s.entryFiles.Pairwise (Tree.textBefore · ·) := h.shelf.entryFiles_ordered

end Layout

/-! ### Changes of the directory -/

def onto (s : State) (t : Tree) (a : Surroundings) : State := ⟨t, s.base, s.password, a⟩

variable {t : Tree} {x : Location} {n : Option Node}

/-- A directory is still fit for work after one file that is none of its own directories changed. -/
theorem Layout.sets (h : Layout fresh s l) (sets : Sets s.tree x n t)
    (file : ¬ s.tree.IsDirectory x) (set : n ≠ none → s.tree.IsDirectory x.dropLast)
    (kept : ∀ mode, n ≠ some (.directory mode)) (a : Surroundings)
    (named : n ≠ none → ∀ token, fresh token → ∀ d name, x = d ++ [name] →
      Text.endsWith (temporaryEnding token) name = false)
    (entryFiles : ∀ f ∈ (s.onto t a).entryFiles, ∃ e, (s.onto t a).Reads f e) :
    Layout fresh (s.onto t a) l := by
  have directories := sets.keeps_directory file
  refine ⟨sets.sound h.sound file set, sets.troubles.trans h.quiet,
    Tree.resolve_of_directories directories h.base, h.nameable, h.room, directories _ h.root,
    directories _ h.keys, directories _ h.certificates, ?_, entryFiles, h.sealing, ?_⟩
  · rintro id key ⟨mode, there⟩
    by_cases at_x : keyAt l id = x
    · rw [at_x] at there
      exact kept mode (sets.self.symm.trans there)
    · exact h.keyFiles id key ⟨mode, (sets.other _ at_x).symm.trans there⟩
  · intro token isFresh d hd name temporary
    by_cases at_x : d ++ [name] = x
    · by_cases gone : n = none
      · change t.node? _ = none
        rw [at_x, sets.self, gone]
      · rw [named gone token isFresh d name at_x.symm] at temporary
        cases temporary
    · exact (sets.other _ at_x).trans (h.unused token isFresh d hd name temporary)

theorem entryFiles_congr {s' : State} (h : Shelf s l) (sound : s'.tree.Sound)
    (path : s'.tree.resolve s'.entriesPath = .ok (entriesAt l))
    (directory : s'.tree.IsDirectory (entriesAt l))
    (same : ∀ f, Text.endsWith ".json" f = true →
      (s'.tree.node? (entryAt l f)).isSome = (s.tree.node? (entryAt l f)).isSome) :
    s'.entryFiles = s.entryFiles := by
  obtain ⟨ordered, nodup, mem⟩ := Tree.namesEnding_spec sound.nodup path directory ".json"
  refine Tree.eq_of_mem_iff ordered h.entryFiles_ordered nodup h.entryFiles_nodup fun f => ?_
  refine (mem f).trans ?_
  rw [h.mem_entryFiles]
  constructor
  · rintro ⟨ends, there⟩
    exact ⟨ends, (same f ends).symm.trans there⟩
  · rintro ⟨ends, there⟩
    exact ⟨ends, (same f ends).trans there⟩

end State

end CertKeeper.Directory
