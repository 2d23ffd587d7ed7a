import CertKeeper.Proofs.Store.Directory.Escapes

/-!
# What a store in a directory promises

A store promises that its calls fail with faults of its own.  For every state of a directory and
whatever a call is given, this is where the promise is broken.  Main statement: `Call.escapes_iff`.
-/

namespace CertKeeper.Directory

open X509
open CertKeeper.Action (start)

variable {α β : Type} {suite : Suite} {r : Run State} {s : State}

/-! ### Questions and passwords -/

theorem escapes_needsLogin (s : State) : Escapes (needsLogin s) ↔ s.Unanswered := by
  rw [← escapes_passwordRecord]
  exact escapes_map _ s.passwordRecord?

theorem bytesOf_error {v : Value} {e : Fault} (h : PasswordRecord.bytesOf v = .error e) :
    e.HasText ∧ (e.failure.isType || e.failure.isValue) = true := by
  unfold PasswordRecord.bytesOf at h
  split at h
  · split at h
    · cases h
    · cases h
      exact ⟨rfl, rfl⟩
  · cases h
    exact ⟨rfl, rfl⟩
  · cases h
    exact ⟨rfl, rfl⟩

theorem verifies_error {record : PasswordRecord} {password : Text} {e : Fault}
    (h : record.verifies suite password = .error e) :
    e.HasText ∧ (e.failure.isType || e.failure.isValue) = true := by
  unfold PasswordRecord.verifies at h
  cases salt : PasswordRecord.bytesOf record.salt with
  | error e' =>
    rw [salt] at h
    cases h
    exact bytesOf_error salt
  | ok salt' =>
  cases encoded : Utf8.encode password with
  | error f =>
    simp only [salt, encoded] at h
    cases h
    exact ⟨rfl, rfl⟩
  | ok content =>
  cases verifier : PasswordRecord.bytesOf record.verifier with
  | error e' =>
    simp only [salt, encoded, verifier] at h
    cases h
    exact bytesOf_error verifier
  | ok verifier' =>
    simp only [salt, encoded, verifier] at h
    cases h

theorem escapes_login (password : Text) :
    Escapes (start (login suite password) r).1 ↔ r.state.Unanswered := by
  unfold login
  rw [escapes_ask_bind, escapes_passwordRecord]
  apply or_iff_left
  rintro ⟨found, _, escapes⟩
  cases found with
  | none => exact not_escapes_ok _ escapes
  | some record =>
    dsimp only at escapes
    split at escapes
    next e failed =>
      obtain ⟨text, kind⟩ := verifies_error failed
      rw [Action.start_throw, escapes_error, loginFault, if_pos kind,
        (StoreFault.isKeyStore_explain _ _).mpr text] at escapes
      cases escapes
    · exact not_escapes_ok _ escapes
    · exact not_escapes_ok _ escapes

theorem escapes_initPassword (password : Text) :
    Escapes (start (initPassword suite password) r).1 ↔ r.state.Unanswered ∨
      (r.state.passwordRecord? = .ok none ∧
        ((∃ f, Utf8.encode password = .error f) ∨ r.state.Litters r.state.passwordPath)) := by
  unfold initPassword
  rw [escapes_ask_bind, escapes_passwordRecord]
  apply or_congr_right
  cases r.state.passwordRecord? with
  | error e => simp
  | ok found =>
  cases found with
  | some record => simp
  | none =>
  obtain ⟨salt, drew⟩ : ∃ salt, (r.state.around.draw 16).1 = .ok salt := ⟨_, rfl⟩
  simp only [Except.ok.injEq, exists_eq_left', Option.isSome_none, Bool.false_eq_true, if_false,
    true_and]
  rw [Action.start_bind_ok (by rw [start_drawn, drew])]
  cases encoded : Utf8.encode password with
  | error f => exact iff_of_true ⟨_, rfl, rfl⟩ (Or.inl ⟨f, rfl⟩)
  | ok content =>
    dsimp only
    rw [Action.start_bind_ok (Action.start_read _), escapes_bind_of_silent, escapes_writeWhole]
    · simpa using @litters_onto _ (r.state.around.draw 16).2 rfl r.state.passwordPath
    · intro _ r'
      split <;> exact not_escapes_ok _

/-! ### Keys -/

/-- What keys are sealed under can be encoded and is not too long. -/
def State.Seals (s : State) : Prop :=
  ∃ p, s.sealingPassword = .ok p ∧ ∀ content, p = some content →
    content.length ≤ KeyFile.passwordLimit

/-- A key cannot be drawn for a reason that a store does not report or cannot print, it cannot be
sealed, or its temporary file stays. -/
def State.Ungenerated (suite : Suite) (s : State) (c : Crypto.Curve) : Prop :=
  (∃ e, (s.around.drawKey c).1 = .error e ∧ e.failure.isKeyStore = false ∧
      (StoreFault.ofGeneration e = none ∨ ¬ e.HasText)) ∨
    ∃ k, (s.around.drawKey c).1 = .ok k ∧
      (¬ s.Seals ∨ s.Litters (s.keyPath (suite.publicKey k).id))

theorem escapes_unlocked (f : Unit → Action State α) :
    Escapes (start (ask State.requireUnlocked >>= f) r).1 ↔ r.state.Unanswered ∨
      (r.state.requireUnlocked = .ok () ∧ Escapes (start (f ()) r).1) := by
  rw [escapes_ask_bind, escapes_requireUnlocked]
  exact or_congr_right ⟨fun ⟨(), unlocked⟩ => unlocked, fun unlocked => ⟨(), unlocked⟩⟩

theorem sealingPassword_error {e : Fault} (h : s.sealingPassword = .error e) :
    ∃ f, e = Fault.of (.encoding f) := by
  unfold State.sealingPassword at h
  split at h
  · cases h
  · cases h
  · split at h
    · cases h
    · exact ⟨_, (Except.error.inj h).symm⟩

theorem sealing_cases (suite : Suite) (s : State) (k : PrivateKey) :
    (s.Seals ∧ ∃ t, (s.sealingPassword.bind fun p => KeyFile.write suite k p) = .ok t) ∨
      (¬ s.Seals ∧ Escapes (s.sealingPassword.bind fun p => KeyFile.write suite k p)) := by
  unfold State.Seals
  cases sealing : s.sealingPassword with
  | error e =>
    obtain ⟨f, rfl⟩ := sealingPassword_error sealing
    exact Or.inr ⟨by simp, _, rfl, rfl⟩
  | ok p =>
    have refused := @KeyFile.write_error_iff suite k p
    simp only [Except.bind, Except.ok.injEq, exists_eq_left']
    cases written : KeyFile.write suite k p with
    | ok t =>
      refine Or.inl ⟨fun content same => ?_, t, rfl⟩
      by_contra long
      obtain ⟨e, failed⟩ := refused.mpr ⟨content, same, Nat.lt_of_not_le long⟩
      rw [written] at failed
      cases failed
    | error e =>
      obtain ⟨content, same, long⟩ := refused.mp ⟨e, written⟩
      have own := Failure.isKeyStore_of_isValue (KeyFile.write_error written)
      exact Or.inr ⟨fun short => Nat.not_le.mpr long (short content same), e, rfl, own⟩

theorem isKeyStore_of_ofGeneration {e e' : Fault} (h : StoreFault.ofGeneration e = some e') :
    e'.failure.isKeyStore = true ↔ e.HasText := by
  unfold StoreFault.ofGeneration at h
  split at h
  · cases h
    exact StoreFault.isKeyStore_explain _ e
  · cases h

theorem escapes_generateKey (c : Crypto.Curve) :
    Escapes (start (generateKey suite c) r).1 ↔ r.state.Unanswered ∨
      (r.state.requireUnlocked = .ok () ∧ r.state.Ungenerated suite c) := by
  unfold generateKey State.Ungenerated
  rw [escapes_unlocked]
  apply or_congr_right
  apply and_congr_right
  intro _
  cases drew : r.state.around.drawKey c with
  | mk outcome a =>
  cases outcome with
  | error e =>
    rw [Action.start_bind_error (start_generation drew), escapes_error]
    cases reported : StoreFault.ofGeneration e with
    | none => simp [reported]
    | some e' =>
      have printed := isKeyStore_of_ofGeneration reported
      simp only [reported, Option.getD_some, ← Bool.not_eq_true, printed, Except.error.injEq,
        reduceCtorEq, false_and, exists_false, or_false, exists_eq_left', false_or]
      refine ⟨fun silent => ⟨?_, silent⟩, fun h => h.2⟩
      exact fun own => silent (Fault.hasText_of_isKeyStore own)
  | ok k =>
    have token : a.token = r.state.around.token := (drawKey_keeps drew).2
    rw [Action.start_bind_ok (start_generation drew), escapes_ask_bind]
    rcases sealing_cases suite r.state k with ⟨seals, t, written⟩ | ⟨unsealed, escapes⟩
    · change (Escapes (r.state.sealingPassword.bind _) ∨
        ∃ v, r.state.sealingPassword.bind _ = _ ∧ _) ↔ _
      rw [written]
      simp only [not_escapes_ok, false_or, Except.ok.injEq, exists_eq_left']
      rw [Action.start_bind_ok (Action.start_read _), escapes_bind_of_silent, escapes_writeWhole]
      · simpa [seals] using litters_onto token (r.state.keyPath (suite.publicKey k).id)
      · exact fun _ _ => not_escapes_ok _
    · exact iff_of_true (Or.inl escapes) (Or.inr ⟨k, rfl, Or.inl unsealed⟩)

/-- The file of a key cannot be looked for, or holds a key of a kind that is not known. -/
def State.Unloaded (suite : Suite) (s : State) (id : Text) : Prop :=
  s.tree.Overlong (s.keyPath id) ∨
    ∃ content password m, s.tree.contentAt (s.keyPath id) = .ok content ∧
      s.sealingPassword = .ok password ∧
      KeyFile.read suite content password = .error (PublicKey.unsupported m)

/-- A key that is not loaded is reported, unless it is of a kind that is not known. -/
theorem escapes_loadKey (suite : Suite) (s : State) (id : Text) :
    Escapes (s.loadKey suite id) ↔ s.Unloaded suite id := by
  unfold State.Unloaded State.loadKey
  dsimp only
  rw [escapes_bind, escapes_exists]
  apply or_congr_right
  cases found : s.tree.contentAt (s.keyPath id) with
  | error e =>
    refine iff_of_false ?_ (by simp)
    rintro ⟨present, _, escapes⟩
    cases present with
    | false => simp [bind, Except.bind, throw, throwThe, MonadExceptOf.throw] at escapes
    | true =>
      obtain ⟨code, rfl⟩ := Tree.contentAt_error found
      obtain ⟨_, failed, foreign⟩ := escapes
      cases failed
      cases foreign
  | ok content =>
  simp only [Tree.exists?_of_contentAt found, Except.ok.injEq, exists_eq_left', bind, Except.bind,
    throw, throwThe, MonadExceptOf.throw, Bool.not_true, Bool.false_eq_true, if_false]
  cases sealing : s.sealingPassword with
  | error e =>
    obtain ⟨f, rfl⟩ := sealingPassword_error sealing
    refine iff_of_false ?_ (by simp)
    rintro ⟨_, failed, foreign⟩
    cases failed
    cases foreign
  | ok password =>
  cases loaded : KeyFile.read suite content password with
  | ok held => cases held <;> simp [pure, Except.pure, loaded]
  | error e =>
    have refused := KeyFile.refused_read loaded
    simp only [Except.ok.injEq, exists_and_left, exists_eq_left', loaded, Except.error.injEq,
      escapes_error]
    rw [← refused.eq_unsupported_iff]
    by_cases unsupported : e.failure.isValue = false ∧ e.failure.isType = false
    · obtain ⟨m, rfl⟩ := refused.eq_unsupported_iff.mp unsupported
      exact iff_of_true rfl unsupported
    · have reported : (e.failure.isValue || e.failure.isType) = true := by
        simpa [← Bool.not_eq_true, or_iff_not_imp_left] using unsupported
      simp [Bool.or_assoc, reported, unsupported, StoreFault.isKeyStore_explain, refused.text]

theorem escapes_signing {t : Template} {k : PrivateKey} {choice : Template.DigestChoice} :
    Escapes (start (Action.refine (Action.ofExcept (t.sign suite k choice)) StoreFault.ofSigning)
        r).1 ↔ ∃ m, t.sign suite k choice = .error (PublicKey.unsupported m) := by
  rw [Action.start_refine, Action.start_ofExcept]
  cases signed : t.sign suite k choice with
  | ok c => simp [Except.mapError]
  | error e =>
    have refused := Template.refused_sign signed
    simp only [Except.mapError, escapes_error, Except.error.injEq]
    rw [← refused.eq_unsupported_iff, StoreFault.ofSigning]
    cases value : e.failure.isValue with
    | true => simp [(StoreFault.isKeyStore_explain _ _).mpr refused.text]
    | false =>
      cases type : e.failure.isType with
      | true => simp [(StoreFault.isKeyStore_explain _ _).mpr refused.text]
      | false => simp [refused.not_isKeyStore]

theorem escapes_sign (id : Text) (t : Template) (choice : Template.DigestChoice) :
    Escapes (start (sign suite id t choice) r).1 ↔ r.state.Unanswered ∨
      (r.state.requireUnlocked = .ok () ∧ (r.state.Unloaded suite id ∨
        ∃ k m, r.state.loadKey suite id = .ok k ∧
          t.sign suite k choice = .error (PublicKey.unsupported m))) := by
  unfold sign
  rw [escapes_unlocked]
  simp only [escapes_ask_bind, escapes_loadKey, escapes_signing,
    exists_and_left]

/-! ### Entries -/

/-- The key of a certificate cannot be read or looked for, or the temporary file of its entry
stays. -/
def State.Unimported (s : State) (c : Certificate) : Prop :=
  (∃ e, c.keyId = .error e) ∨
    ∃ id, c.keyId = .ok id ∧ (s.tree.Overlong (s.keyPath id) ∨
      s.Litters (s.entryPath (State.nextHandle s.around.ticks s.around.token)))

theorem escapes_importCertificate (c : Certificate) (name : Text) :
    Escapes (start (importCertificate c name) r).1 ↔ r.state.Unimported c := by
  unfold importCertificate State.Unimported
  rw [escapes_ofExcept_bind]
  cases key : c.keyId with
  | error e => simp [(Certificate.refused_keyId key).not_isKeyStore]
  | ok id =>
    simp only [not_escapes_ok, Except.ok.injEq, exists_eq_left', reduceCtorEq, exists_false,
      false_or]
    rw [Action.start_bind_ok (Action.start_take _ _), Action.start_bind_ok (Action.start_read _)]
    refine escapes_exists_bind fun present _ => ?_
    rw [escapes_bind_of_silent, escapes_writeWhole]
    · exact @litters_onto _ r.state.around.tick.2 rfl _
    · exact fun _ _ => not_escapes_ok _

theorem escapes_unlinkPresent (p : Path) :
    Escapes (start (unlinkPresent p) r).1 ↔ p.isUnnameable = true := by
  unfold unlinkPresent
  cases named : p.isUnnameable with
  | true =>
    refine iff_of_true ⟨unnameable p, rfl, ?_⟩ rfl
    unfold unnameable
    split <;> rfl
  | false =>
    refine iff_of_false ?_ (by simp)
    simp only [Bool.false_eq_true, if_false]
    rw [Action.start_bind_ok (start_onTree _ r)]
    split <;> exact not_escapes_ok _

theorem escapes_deleteKey (id : Text) :
    Escapes (start (deleteKey id) r).1 ↔ (r.state.keyPath id).isUnnameable = true := by
  unfold deleteKey
  rw [Action.start_bind_ok (Action.start_read r), escapes_bind_of_silent, escapes_unlinkPresent]
  intro taken r'
  cases taken with
  | ok _ => exact not_escapes_ok _
  | error e => simp

/-- An entry that cannot be looked for, or that is taken away while no file can be that of the key
that it is bound to. -/
def State.Undeletable (s : State) (e : Entry) : Prop :=
  s.tree.Overlong (s.entryPath e.handle) ∨
    ((s.tree.unlink (s.entryPath e.handle)).1 = .ok () ∧
      ∃ p, boundKeyPath s e.keyId = some p ∧ p.isUnnameable = true)

theorem escapes_delete (e : Entry) :
    Escapes (start (delete e) r).1 ↔ r.state.Undeletable e := by
  unfold delete State.Undeletable
  rw [Action.start_bind_ok (Action.start_read r)]
  dsimp only
  refine escapes_exists_bind fun present there => ?_
  cases present with
  | false =>
    refine iff_of_false (by simp) ?_
    rintro ⟨unlinked, _⟩
    cases there.symm.trans (Tree.exists?_of_unlink unlinked)
  | true =>
  simp only [Bool.not_true, Bool.false_eq_true, if_false]
  cases unlinked : r.state.tree.unlink (r.state.entryPath e.handle) with
  | mk outcome t =>
  rw [Action.start_bind_ok (start_onTree_eq unlinked)]
  cases outcome with
  | error code => simp
  | ok _ =>
  simp only [true_and]
  cases bound : boundKeyPath r.state e.keyId with
  | none => simp
  | some p =>
    simp only [Option.some.injEq, exists_eq_left']
    rw [escapes_bind_of_silent, escapes_unlinkPresent]
    intro taken r'
    cases taken with
    | ok _ => exact not_escapes_ok _
    | error e' => simp

/-! ### All calls -/

/-- The calls that a store promises to report every failure of. -/
inductive Call where
  | needsUserInit
  | initPassword (password : Text)
  | needsLogin
  | login (password : Text)
  | find (name : Text)
  | delete (e : Entry)
  | deleteKey (id : Text)
  | generateKey (c : Crypto.Curve)
  | sign (id : Text) (t : Template) (choice : Template.DigestChoice)
  | importCertificate (c : Certificate) (name : Text)

namespace Call

def perform {σ : Type} (store : KeyStore σ) : Call → Action σ Unit
  | needsUserInit => store.needsUserInit >>= fun _ => pure ()
  | initPassword password => store.initPassword password
  | needsLogin => store.needsLogin >>= fun _ => pure ()
  | login password => store.login password >>= fun _ => pure ()
  | find name => store.findByName name >>= fun _ => pure ()
  | delete e => store.delete e
  | deleteKey id => store.deleteKey id
  | generateKey c => store.generateKey c >>= fun _ => pure ()
  | sign id t choice => store.sign id t choice >>= fun _ => pure ()
  | importCertificate c name => store.importCertificate c name >>= fun _ => pure ()

/-- What makes a call end in a fault that is not a store's own. -/
def Unguarded (suite : Suite) (s : State) : Call → Prop
  | needsUserInit | needsLogin | login _ => s.Unanswered
  | initPassword password => s.Unanswered ∨
      (s.passwordRecord? = .ok none ∧
        ((∃ f, Utf8.encode password = .error f) ∨ s.Litters s.passwordPath))
  | find name => s.tree.Overlong s.entriesPath ∨
      ∃ before file after, s.entryFiles = before ++ file :: after ∧
        (∀ f ∈ before, s.PassesOver name f) ∧ s.Spoils name file
  | delete e => s.Undeletable e
  | deleteKey id => (s.keyPath id).isUnnameable = true
  | generateKey c => s.Unanswered ∨ (s.requireUnlocked = .ok () ∧ s.Ungenerated suite c)
  | sign id t choice => s.Unanswered ∨ (s.requireUnlocked = .ok () ∧ (s.Unloaded suite id ∨
      ∃ k m, s.loadKey suite id = .ok k ∧
        t.sign suite k choice = .error (PublicKey.unsupported m)))
  | importCertificate c _ => s.Unimported c

theorem escapes_answer (a : Action State α) (f : α → β) :
    Escapes (start (a >>= fun v => pure (f v)) r).1 ↔ Escapes (start a r).1 :=
  escapes_bind_of_silent fun _ _ => not_escapes_ok _

/-- Every call of a store in a directory, in whatever state the directory is, ends in an answer or
in a store's own fault, but for the cases that are listed. -/
theorem escapes_iff (suite : Suite) (call : Call) (r : Run State) :
    (∃ e, (start (call.perform (keyStore suite)) r).1 = .error e ∧
      e.failure.isKeyStore = false) ↔ call.Unguarded suite r.state := by
  change Escapes _ ↔ _
  cases call with
  | needsUserInit =>
    refine (escapes_answer _ _).trans ((escapes_answer _ _).trans ?_)
    exact (escapes_ask _).trans (escapes_passwordRecord _)
  | initPassword password => exact escapes_initPassword password
  | needsLogin =>
    refine (escapes_answer _ _).trans ((escapes_answer _ _).trans ?_)
    exact (escapes_ask _).trans (escapes_needsLogin _)
  | login password => exact (escapes_answer _ _).trans (escapes_login password)
  | find name =>
    refine (escapes_answer _ _).trans ((escapes_ask _).trans ?_)
    exact escapes_find r.state name
  | delete e => exact escapes_delete e
  | deleteKey id => exact escapes_deleteKey id
  | generateKey c => exact (escapes_answer _ _).trans (escapes_generateKey c)
  | sign id t choice => exact (escapes_answer _ _).trans (escapes_sign id t choice)
  | importCertificate c name =>
    exact (escapes_answer _ _).trans (escapes_importCertificate c name)

def listDirectory : State where
  tree := ⟨[(["keys"], .directory 0o700), (["certificates"], .directory 0o700),
    (["certificates", "x.json"], .file 0o644 (asciiBytes "[]"))], [], []⟩
  base := ⟨some [], []⟩
  password := none
  around := ⟨⟨0, some 0⟩, [], 0, [], 1, 0, []⟩

theorem find_escapes_of_list :
    ∃ e, (start ((find "a").perform (keyStore Suite.standard)) ⟨listDirectory, [], none⟩).1
        = .error e ∧ e.failure.isKeyStore = false := by
  have files : listDirectory.entryFiles = [] ++ Text.ofString "x.json" :: [] := by decide +kernel
  have list : listDirectory.valueAt "x.json" = .ok (.list []) := rfl
  have spoils : listDirectory.Spoils "a" "x.json" := Or.inr ⟨.list [], list, Or.inl nofun⟩
  exact (escapes_iff _ (find "a") _).mpr (.inr ⟨[], _, [], files, nofun, spoils⟩)

end Call

end CertKeeper.Directory
