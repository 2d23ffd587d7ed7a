import CertKeeper.Proofs.Encoding.Faults
import CertKeeper.Proofs.Files.Shape
import CertKeeper.Proofs.Store.Directory.Calls

/-!
# Faults that escape from the files of a directory

What is read from a directory or written to it fails with a store's own fault, or with another one
that escapes.  For every state of the directory, whatever its files hold, this is where one escapes.
Main statements: `escapes_writeWhole`, `escapes_passwordRecord`, `escapes_findAmong`.
-/

namespace CertKeeper.Directory

open X509
open CertKeeper.Action (start)

variable {α β : Type} {suite : Suite} {r : Run State} {s : State}

/-! ### Outcomes -/

/-- An outcome that is a fault, and not one of a store's own. -/
def Escapes (o : Except Fault α) : Prop := ∃ e, o = .error e ∧ e.failure.isKeyStore = false

@[simp] theorem not_escapes_ok (a : α) : ¬ Escapes (.ok a) := by
  rintro ⟨_, impossible, _⟩
  cases impossible

@[simp] theorem escapes_error (e : Fault) :
    Escapes (.error e : Except Fault α) ↔ e.failure.isKeyStore = false := by
  constructor
  · rintro ⟨e', same, other⟩
    rw [Except.error.inj same]
    exact other
  · exact fun other => ⟨e, rfl, other⟩

@[simp] theorem escapes_map (f : α → β) (o : Except Fault α) :
    Escapes (o.map f) ↔ Escapes o := by
  cases o <;> simp [Except.map]

theorem escapes_bind (o : Except Fault α) (f : α → Except Fault β) :
    Escapes (o >>= f) ↔ Escapes o ∨ ∃ v, o = .ok v ∧ Escapes (f v) := by
  cases o <;> simp [bind, Except.bind]

theorem escapes_throw (e : Fault) :
    Escapes (throw e : Except Fault α) ↔ e.failure.isKeyStore = false := escapes_error e

theorem escapes_ofExcept_bind (o : Except Fault α) (f : α → Action State β) :
    Escapes (start (Action.ofExcept o >>= f) r).1 ↔
      Escapes o ∨ ∃ v, o = .ok v ∧ Escapes (start (f v) r).1 := by
  rw [Action.start_bind, Action.start_ofExcept]
  cases o <;> simp

theorem escapes_ask (q : State → Except Fault α) :
    Escapes (start (ask q) r).1 ↔ Escapes (q r.state) := by
  rw [start_ask]

theorem escapes_ask_bind (q : State → Except Fault α) (f : α → Action State β) :
    Escapes (start (ask q >>= f) r).1 ↔
      Escapes (q r.state) ∨ ∃ v, q r.state = .ok v ∧ Escapes (start (f v) r).1 := by
  rw [Action.start_bind, start_ask]
  cases q r.state <;> simp

theorem escapes_bind_of_silent {a : Action State α} {f : α → Action State β}
    (silent : ∀ v r', ¬ Escapes (start (f v) r').1) :
    Escapes (start (a >>= f) r).1 ↔ Escapes (start a r).1 := by
  rw [Action.start_bind]
  rcases start a r with ⟨e | v, r'⟩
  · simp
  · exact iff_of_false (silent v r') (not_escapes_ok v)

theorem escapes_of_system {code : SystemCode} {text : Text} :
    Escapes (.error (Fault.system code text) : Except Fault α) := ⟨_, rfl, rfl⟩

theorem escapes_exists (t : Tree) (p : Path) : Escapes (t.exists? p) ↔ t.Overlong p := by
  rw [← Tree.exists?_error_iff]
  constructor
  · rintro ⟨e, failed, _⟩
    exact ⟨e, failed⟩
  · rintro ⟨e, failed⟩
    obtain ⟨code, rfl⟩ := Tree.exists?_error failed
    exact ⟨_, failed, rfl⟩

theorem escapes_exists_bind {t : Tree} {p : Path} {f : Bool → Action State α} {q : Prop}
    (next : ∀ present, t.exists? p = .ok present → (Escapes (start (f present) r).1 ↔ q)) :
    Escapes (start (Action.ofExcept (t.exists? p) >>= f) r).1 ↔ t.Overlong p ∨ q := by
  rw [escapes_ofExcept_bind, escapes_exists]
  cases there : t.exists? p with
  | error e => simp [Tree.exists?_error_iff.mp ⟨e, there⟩]
  | ok present => simp [Tree.not_overlong there, next present there]

/-! ### Writing a file whole -/

def State.temporaryPath (s : State) (p : Path) : Path :=
  p.withName ("." ++ p.name ++ "." ++ s.around.token ++ ".tmp")

/-- A write to a path that fails and leaves its temporary file behind. -/
def State.Litters (s : State) (p : Path) : Prop := s.tree.Litters (s.temporaryPath p) p 0 []

@[simp] theorem passwordPath_onto (t : Tree) (a : Surroundings) :
    (s.onto t a).passwordPath = s.passwordPath := rfl

@[simp] theorem keyPath_onto (t : Tree) (a : Surroundings) (id : Text) :
    (s.onto t a).keyPath id = s.keyPath id := rfl

theorem litters_onto {a : Surroundings} (token : a.token = s.around.token) (p : Path) :
    (s.onto s.tree a).Litters p ↔ s.Litters p := by
  unfold State.Litters State.temporaryPath
  rw [State.onto, token]

theorem escapes_refusal (temporary : Path) (e : Fault) (own : e.failure.isKeyStore = true) :
    Escapes (start (discard temporary >>= fun _ => (throw e : Action State Unit)) r).1 ↔
      r.state.tree.Stuck temporary := by
  unfold discard Tree.Stuck
  cases taken : r.state.tree.unlink temporary with
  | mk outcome t =>
    rw [bind_assoc, Action.start_bind_ok (start_onTree_eq taken)]
    cases outcome with
    | ok _ => simp [own]
    | error code =>
      cases code with
      | noEntry => simp [own]
      | _ => exact iff_of_true ⟨_, rfl, rfl⟩ ⟨_, rfl, nofun⟩

/-- Where writing a file whole fails, it is a store's own fault unless the temporary file stays. -/
theorem escapes_writeWhole (p : Path) (content : Bytes) (mode : Nat) :
    Escapes (start (writeWhole p content mode) r).1 ↔ r.state.Litters p := by
  rw [State.Litters,
    (Tree.SameShape.refl r.state.tree).litters (r.state.temporaryPath p) p 0 mode [] content]
  unfold Tree.Litters writeWhole
  rw [Action.start_bind_ok (Action.start_read r)]
  dsimp only
  change Escapes (start (onTree (·.create (r.state.temporaryPath p) mode) >>= _) r).1 ↔ _
  cases made : r.state.tree.create (r.state.temporaryPath p) mode with
  | mk outcome t =>
  rw [Action.start_bind_ok (start_onTree_eq made)]
  cases outcome with
  | error code =>
    simp only [Tree.halted?, Tree.haltedOr, made, Option.some.injEq, exists_eq_left']
    exact escapes_refusal _ _ rfl
  | ok _ =>
  cases filled : t.fill (r.state.temporaryPath p) content with
  | mk outcome u =>
  rw [Action.start_bind_ok (@start_onTree_eq _ _ ⟨r.state.onto t _, _, _⟩ _ _ filled)]
  cases outcome with
  | error code =>
    simp only [Tree.halted?, Tree.haltedOr, made, filled, Option.some.injEq, exists_eq_left']
    exact escapes_refusal _ _ rfl
  | ok _ =>
  cases moved : u.replace (r.state.temporaryPath p) p with
  | mk outcome v =>
  rw [Action.start_bind_ok
    (@start_onTree_eq _ _ ⟨(r.state.onto t _).onto u _, _, _⟩ _ _ moved)]
  cases outcome with
  | error code =>
    simp only [Tree.halted?, Tree.haltedOr, made, filled, moved, Option.some.injEq,
      exists_eq_left']
    exact escapes_refusal _ _ rfl
  | ok _ => simp [Tree.halted?, Tree.haltedOr, made, filled, moved]

/-! ### The record of the password -/

/-- A record that cannot be told to be there or not, or whose value is nested too deep. -/
def State.Unanswered (s : State) : Prop :=
  s.tree.Overlong s.passwordPath ∨
    ∃ content, s.tree.contentAt s.passwordPath = .ok content ∧ Json.TooDeep content

theorem escapes_unreadable {what : Text} {content : Bytes} {e : Fault}
    (h : Json.ofFile content = .error e) :
    Escapes (.error (PasswordRecord.unreadable what e) : Except Fault α) ↔
      Json.TooDeep content := by
  obtain ⟨text, system, own, _, deep⟩ := Json.ofFile_error_iff h
  rw [escapes_error, ← deep, PasswordRecord.unreadable, system, Bool.false_or]
  cases value : e.failure.isValue with
  | true => simp [(StoreFault.isKeyStore_explain _ _).mpr text]
  | false => simp [own]

theorem escapes_read (content : Bytes) :
    Escapes (PasswordRecord.read (.ok content)) ↔ Json.TooDeep content := by
  unfold PasswordRecord.read
  simp only [Except.bind]
  cases read : Json.ofFile content with
  | error e => exact escapes_unreadable read
  | ok v =>
    have shallow := Json.not_tooDeep_of_ofFile read
    cases fields : PasswordRecord.ofValue? v <;> simp [shallow, fields]

theorem escapes_passwordRecord (s : State) : Escapes s.passwordRecord? ↔ s.Unanswered := by
  unfold State.passwordRecord? State.Unanswered
  rw [escapes_bind, escapes_exists]
  apply or_congr_right
  cases content : s.tree.contentAt s.passwordPath with
  | ok bytes =>
    simp only [Tree.exists?_of_contentAt content, Except.ok.injEq, exists_eq_left', if_true]
    exact (escapes_map some _).trans (escapes_read bytes)
  | error e =>
    obtain ⟨code, rfl⟩ := Tree.contentAt_error content
    simp only [reduceCtorEq, false_and, exists_false, iff_false, not_exists, not_and]
    intro present _
    cases present with
    | false => exact not_escapes_ok _
    | true =>
      rintro ⟨e, failed, foreign⟩
      cases failed
      cases foreign

theorem escapes_requireUnlocked (s : State) : Escapes s.requireUnlocked ↔ s.Unanswered := by
  unfold State.requireUnlocked
  rw [escapes_bind, escapes_passwordRecord]
  apply or_iff_left
  rintro ⟨found, _, escapes⟩
  cases found with
  | none => simp [escapes_throw] at escapes
  | some record =>
    dsimp only at escapes
    split at escapes
    · simp [escapes_throw] at escapes
    · exact not_escapes_ok _ escapes

/-! ### The records of entries -/

/-- A record without a text for its certificate, or with a certificate of no known version. -/
def Uncertified (v : Value) : Prop :=
  match v.field? "certificate_pem" with
  | some (.text t) => (∃ content, Utf8.encode t = .ok content) ∧
      ∃ m, Certificate.ofPem t = .error (Fault.plain .invalidVersion m)
  | _ => True

theorem certificateOf_error {v : Value} {e : Fault} (h : EntryRecord.certificateOf v = .error e) :
    e.HasText ∧ e.failure.isKeyStore = false ∧ (e.failure.isValue = false ↔ Uncertified v) := by
  unfold EntryRecord.certificateOf at h
  unfold Uncertified
  cases held : v.field? "certificate_pem" with
  | none =>
    rw [held] at h
    cases h
    exact ⟨rfl, rfl, iff_of_true rfl trivial⟩
  | some w =>
    rw [held] at h
    cases w with
    | text t =>
      simp only at h ⊢
      cases encoded : Utf8.encode t with
      | error f =>
        rw [encoded] at h
        cases h
        exact ⟨rfl, rfl, iff_of_false Bool.false_ne_true.symm (by simp)⟩
      | ok content =>
        rw [encoded] at h
        rcases Certificate.ofPem_error h with ⟨m, rfl⟩ | ⟨m, rfl⟩
        · refine ⟨rfl, rfl, iff_of_false Bool.false_ne_true.symm ?_⟩
          rintro ⟨_, m', version⟩
          cases Except.error.inj (h.symm.trans version)
        · exact ⟨rfl, rfl, iff_of_true rfl ⟨⟨content, rfl⟩, m, h⟩⟩
    | _ =>
      cases h
      exact ⟨rfl, rfl, iff_of_true rfl trivial⟩

theorem not_uncertified_of_ok {v : Value} {c : Certificate}
    (h : EntryRecord.certificateOf v = .ok c) : ¬ Uncertified v := by
  unfold EntryRecord.certificateOf at h
  unfold Uncertified
  cases held : v.field? "certificate_pem" with
  | none =>
    rw [held] at h
    cases h
  | some w =>
    rw [held] at h
    cases w with
    | text t =>
      rintro ⟨⟨content, encoded⟩, m, version⟩
      simp only [encoded, version] at h
      cases h
    | _ => cases h

/-- A value that the record of an entry cannot be: no object, or one of the name that is asked for
without a certificate. -/
def Garbles (name : Text) (v : Value) : Prop :=
  (∀ fields, v ≠ .object fields) ∨ (v.field? "name" = some (.text name) ∧ Uncertified v)

namespace State

def valueAt (s : State) (file : Text) : Except Fault Value :=
  (s.tree.contentAt (s.entriesPath.join file)).bind Json.ofFile

/-- The file of an entry whose value is nested too deep, or cannot be a record. -/
def Spoils (s : State) (name file : Text) : Prop :=
  (∃ content, s.tree.contentAt (s.entriesPath.join file) = .ok content ∧ Json.TooDeep content) ∨
    ∃ v, s.valueAt file = .ok v ∧ Garbles name v

def PassesOver (s : State) (name file : Text) : Prop :=
  ∃ fields, s.valueAt file = .ok (.object fields) ∧
    (Value.object fields).field? "name" ≠ some (.text name)

end State

theorem isFor_named {name : Text} {v : Value} (h : v.field? "name" = some (.text name)) :
    EntryRecord.isFor name v = .ok true := by
  cases v with
  | object fields => simp [EntryRecord.isFor, h]
  | _ => cases h

theorem isFor_other {name : Text} {fields : List (Text × Value)}
    (h : (Value.object fields).field? "name" ≠ some (.text name)) :
    EntryRecord.isFor name (.object fields) = .ok false := by
  unfold EntryRecord.isFor
  simp only
  split
  next t named =>
    have other : t ≠ name := by
      rintro rfl
      exact h named
    simp [other]
  · rfl

theorem escapes_record (file name : Text) {content : Except Fault Bytes} {v : Value}
    (h : content.bind Json.ofFile = .ok v) :
    (Escapes (EntryRecord.read file name content) ↔ Garbles name v) ∧
      (EntryRecord.read file name content = .ok none ↔
        ∃ fields, v = .object fields ∧
          (Value.object fields).field? "name" ≠ some (.text name)) := by
  unfold EntryRecord.read Garbles
  rw [h]
  by_cases named : v.field? "name" = some (.text name)
  · have object : ∃ fields, v = .object fields := by
      cases v with
      | object fields => exact ⟨fields, rfl⟩
      | _ => cases named
    obtain ⟨fields, rfl⟩ := object
    simp only [isFor_named named, bind, Except.bind]
    cases certificate : EntryRecord.certificateOf (.object fields) with
    | ok c =>
      have sound := not_uncertified_of_ok certificate
      simp [EntryRecord.entryOf, certificate, bind, Except.bind, pure, Except.pure, named, sound]
    | error e =>
      obtain ⟨text, own, value⟩ := certificateOf_error certificate
      simp [EntryRecord.entryOf, certificate, bind, Except.bind, named, throw, throwThe,
        MonadExceptOf.throw, ← value]
      cases e.failure.isValue <;> simp [own, StoreFault.isKeyStore_explain, text]
  · cases v with
    | object fields =>
      simp [isFor_other named, bind, Except.bind, pure, Except.pure, named]
    | _ => simp [EntryRecord.isFor, EntryRecord.missingAttribute, Fault.plain, Fault.of,
        Failure.isKeyStore, bind, Except.bind]

theorem escapes_file (s : State) (name file : Text) :
    let read := EntryRecord.read file name (s.tree.contentAt (s.entriesPath.join file))
    (Escapes read ↔ s.Spoils name file) ∧ (read = .ok none ↔ s.PassesOver name file) := by
  intro read
  unfold State.Spoils State.PassesOver
  cases value : s.valueAt file with
  | ok v =>
    obtain ⟨escapes, passes⟩ := escapes_record file name value
    have shallow : ¬ ∃ content, s.tree.contentAt (s.entriesPath.join file) = .ok content ∧
        Json.TooDeep content := by
      rintro ⟨content, found, deep⟩
      unfold State.valueAt at value
      rw [found] at value
      exact Json.not_tooDeep_of_ofFile value deep
    refine ⟨escapes.trans (by simp [shallow]), passes.trans ?_⟩
    simp
  | error e =>
    have failed : read = .error (PasswordRecord.unreadable ("certificate entry " ++ file) e) := by
      change EntryRecord.read file name (s.tree.contentAt (s.entriesPath.join file)) = _
      unfold EntryRecord.read
      unfold State.valueAt at value
      rw [value]
    rw [failed]
    refine ⟨?_, iff_of_false nofun (by simp)⟩
    cases found : s.tree.contentAt (s.entriesPath.join file) with
    | error e' =>
      unfold State.valueAt at value
      rw [found] at value
      obtain rfl := Except.error.inj value
      obtain ⟨code, rfl⟩ := Tree.contentAt_error found
      exact iff_of_false (by rintro ⟨_, failed, foreign⟩; cases failed; cases foreign) (by simp)
    | ok content =>
      unfold State.valueAt at value
      rw [found] at value
      rw [escapes_unreadable value]
      simp

/-- A search escapes at the first file that is not another's, where that one is spoilt. -/
theorem escapes_findAmong (s : State) (name : Text) (files : List Text) :
    Escapes (s.findAmong name files) ↔ ∃ before file after, files = before ++ file :: after ∧
      (∀ f ∈ before, s.PassesOver name f) ∧ s.Spoils name file := by
  induction files with
  | nil => simp [State.findAmong]
  | cons f files ih =>
    obtain ⟨spoilt, others⟩ := escapes_file s name f
    -- Either the search ends at the first file, or all is as among the others.
    have first : (∃ before file after, f :: files = before ++ file :: after ∧
          (∀ g ∈ before, s.PassesOver name g) ∧ s.Spoils name file) ↔
        s.Spoils name f ∨ s.PassesOver name f ∧ Escapes (s.findAmong name files) := by
      rw [ih]
      constructor
      · rintro ⟨before, file, after, split, passed, spoils⟩
        cases before with
        | nil =>
          rw [List.nil_append, List.cons.injEq] at split
          exact Or.inl (split.1 ▸ spoils)
        | cons g before =>
          rw [List.cons_append, List.cons.injEq] at split
          exact Or.inr ⟨split.1 ▸ passed g List.mem_cons_self, before, file, after, split.2,
            fun x hx => passed x (List.mem_cons_of_mem _ hx), spoils⟩
      · rintro (spoils | ⟨other, before, file, after, rfl, passed, spoils⟩)
        · exact ⟨[], f, files, rfl, by simp, spoils⟩
        · exact ⟨f :: before, file, after, rfl, List.forall_mem_cons.mpr ⟨other, passed⟩, spoils⟩
    rw [first, ← spoilt, ← others, State.findAmong]
    cases EntryRecord.read f name (s.tree.contentAt (s.entriesPath.join f)) with
    | error e => simp [bind, Except.bind]
    | ok found => cases found <;> simp [bind, Except.bind, pure, Except.pure]

theorem listed_of_isDirectory {s : State} {directory : Bool}
    (h : s.tree.isDirectory s.entriesPath = .ok directory) : s.listed = .ok s.entryFiles := by
  rw [State.listed, h]
  cases directory with
  | true => rfl
  | false => exact congrArg Except.ok (Tree.namesEnding_of_not_directory h _).symm

theorem escapes_find (s : State) (name : Text) :
    Escapes (s.find name) ↔ s.tree.Overlong s.entriesPath ∨ ∃ before file after,
      s.entryFiles = before ++ file :: after ∧ (∀ f ∈ before, s.PassesOver name f) ∧
        s.Spoils name file := by
  rw [← escapes_findAmong, State.find, ← Tree.exists?_error_iff]
  cases told : s.tree.isDirectory s.entriesPath with
  | error e =>
    have failed := Tree.isDirectory_error_iff.mp told
    obtain ⟨code, rfl⟩ := Tree.exists?_error failed
    refine iff_of_true ?_ (.inl ⟨_, failed⟩)
    rw [State.listed, told]
    exact escapes_of_system
  | ok directory =>
    rw [listed_of_isDirectory told, or_iff_right]
    · rfl
    · rintro ⟨e, failed⟩
      cases told.symm.trans (Tree.isDirectory_error_iff.mpr failed)

end CertKeeper.Directory
