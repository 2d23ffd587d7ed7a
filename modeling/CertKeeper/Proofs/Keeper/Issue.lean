import CertKeeper.Proofs.Keeper.Issued
import CertKeeper.Proofs.Keeper.Sweep

/-!
# What issuing leaves

Over a store that keeps its books, a certificate that was issued is in the store under its name,
bound to a new key, and where no certificate came of it the new key is gone again.  Main
statement: `Keeper.leads_issue`.
-/

namespace CertKeeper

open X509
open CertKeeper.Action (Leads)

/-- A fault that says that a certificate under a name is not one of the keeper's. -/
def Fault.IsUnexpected (e : Fault) : Prop :=
  ∃ name serial, e.failure.lifecycle? = some (.unexpectedCertificate name serial)

theorem Fault.not_isUnexpected {e : Fault} (h : e.failure.lifecycle? = none) :
    ¬ e.IsUnexpected := by
  rintro ⟨name, serial, same⟩
  rw [h] at same
  cases same

namespace Surroundings

/-- What writing needs of the surroundings is the same. -/
def Alike (a a' : Surroundings) : Prop := a'.ticks = a.ticks ∧ a'.token = a.token

theorem Alike.trans {a a' a'' : Surroundings} (h : Alike a a') (h' : Alike a' a'') : Alike a a'' :=
  ⟨h'.1.trans h.1, h'.2.trans h.2⟩

theorem alike_drawKey {c : Crypto.Curve} {a a' : Surroundings} {drawn : Except Fault PrivateKey}
    (h : a.drawKey c = (drawn, a')) : Alike a a' := by
  unfold Surroundings.drawKey at h
  split at h <;> cases h <;> exact ⟨rfl, rfl⟩

theorem alike_draw (a : Surroundings) (n : Int) : Alike a (a.draw n).2 := by
  unfold Surroundings.draw
  split
  · exact ⟨rfl, rfl⟩
  · exact ⟨rfl, rfl⟩

end Surroundings

/-- What may come of asking for a key: a fault that is none of the lifecycle's, or a key that is
not held. -/
structure Book.Draws (suite : Suite) (b : Book) : Prop where
  refused : ∀ e a, b.around.drawKey .p256 = (.error e, a) → e.failure.lifecycle? = none
  fresh : ∀ k a, b.around.drawKey .p256 = (.ok k, a) →
    k.Valid ∧ b.held (suite.handleOf k).keyId = false

namespace Keeper

open Surroundings (Alike)

variable {σ : Type} {k : Keeper σ} {suite : Suite} {shows_ : σ → Book → Prop}
  {ready newest : Book → Prop}

/-! ### Keys -/

theorem leads_discardKey (keeps : k.store.Keeps suite shows_ ready newest) (b : Book)
    {key : KeyHandle} (isKey : Book.isKeyId key.keyId = true) :
    Leads (shows_ · b) (k.discardKey key) fun o s =>
      shows_ s (b.dropKey key.keyId) ∧ o = .ok () := by
  have attempted : Leads (shows_ · b) (Action.attempt (k.store.deleteKey key.keyId)) fun o s =>
      shows_ s (b.dropKey key.keyId) ∧ o = .ok (.ok ()) := by
    refine Leads.attempt ((keeps.deleteKey b key.keyId isKey).post ?_)
    rintro o s ⟨held, rfl⟩
    exact ⟨held, rfl⟩
  exact attempted.bind_ok fun r held => ⟨held, rfl⟩

theorem not_isUnexpected_raised {e : Fault} (text : e.HasText) {error : LifecycleError}
    (other : error.kind ≠ "unexpected_certificate") (context : Text) :
    ¬ (raised error context e).IsUnexpected := by
  rintro ⟨name, serial, same⟩
  rw [lifecycle?_raised text] at same
  cases same
  exact other rfl

theorem lifecycle?_ofGeneration {e : Fault} (h : e.failure.lifecycle? = none) :
    ((StoreFault.ofGeneration e).getD e).failure.lifecycle? = none := by
  unfold StoreFault.ofGeneration
  split
  · exact StoreFault.lifecycle?_explain _ _
  · exact h

theorem leads_makeKey_error {b b' : Book} {f : Fault} (plain : f.failure.lifecycle? = none)
    (failed : Leads (shows_ · b) (k.store.generateKey .p256) fun o s =>
      shows_ s b' ∧ o = .error f) (name : Text) :
    Leads (shows_ · b) (k.makeKey name) fun o s =>
      shows_ s b' ∧ ∃ f, o = .error f ∧ ¬ f.IsUnexpected := by
  have attempted : Leads (shows_ · b) (Action.attempt (k.store.generateKey .p256)) fun o s =>
      shows_ s b' ∧ o = .ok (.error f) := by
    refine Leads.attempt (failed.post ?_)
    rintro o s ⟨held, rfl⟩
    exact ⟨held, rfl⟩
  refine attempted.bind_ok ?_
  intro r held
  simp only
  cases own : f.failure.isKeyStore with
  | false => exact ⟨held, f, rfl, Fault.not_isUnexpected plain⟩
  | true =>
    exact ⟨held, _, rfl, not_isUnexpected_raised (Fault.hasText_of_isKeyStore own) (by decide) _⟩

theorem leads_makeKey (keeps : k.store.Keeps suite shows_ ready newest) {b : Book}
    (writable : ready b) (draws : b.Draws suite) (name : Text) :
    Leads (shows_ · b) (k.makeKey name) fun o s =>
      (∃ f a, o = .error f ∧ ¬ f.IsUnexpected ∧ Alike b.around a ∧ shows_ s (b.amid a)) ∨
      ∃ key a, b.locked = none ∧ b.around.drawKey .p256 = (.ok key, a) ∧
        shows_ s ((b.amid a).putKey (suite.handleOf key).keyId key) ∧
        o = .ok (suite.handleOf key) := by
  intro r held
  cases locked : b.locked with
  | some e =>
    have plain := keeps.lockedFault held locked
    obtain ⟨held', f, failed, harmless⟩ := leads_makeKey_error plain
      (keeps.generateLocked b .p256 e locked) name r held
    exact Or.inl ⟨f, b.around, failed, harmless, ⟨rfl, rfl⟩, held'⟩
  | none =>
    cases drew : b.around.drawKey .p256 with
    | mk outcome a =>
      cases outcome with
      | error e =>
        have plain := lifecycle?_ofGeneration (draws.refused e a drew)
        obtain ⟨held', f, failed, harmless⟩ := leads_makeKey_error plain
          (keeps.generateRefused b .p256 e a locked drew) name r held
        exact Or.inl ⟨f, a, failed, harmless, Surroundings.alike_drawKey drew, held'⟩
      | ok key =>
        have valid := (draws.fresh key a drew).1
        have attempted : Leads (shows_ · b) (Action.attempt (k.store.generateKey .p256))
            fun o s => shows_ s ((b.amid a).putKey (suite.handleOf key).keyId key) ∧
              o = .ok (.ok (suite.handleOf key)) := by
          refine Leads.attempt
            ((keeps.generateKey b .p256 key a writable locked drew valid).post ?_)
          rintro o s ⟨held, rfl⟩
          exact ⟨held, rfl⟩
        have made : Leads (shows_ · b) (k.makeKey name) fun o s =>
            shows_ s ((b.amid a).putKey (suite.handleOf key).keyId key) ∧
              o = .ok (suite.handleOf key) :=
          attempted.bind_ok fun r held => ⟨held, rfl⟩
        exact Or.inr ⟨key, a, rfl, rfl, made r held⟩

/-! ### Certificates -/

theorem leads_signed (keeps : k.store.Keeps suite shows_ ready newest) (laws : suite.Lawful)
    {b : Book} {key : PrivateKey} (valid : key.Valid) (open_ : b.locked = none)
    (signs : b.key? (suite.handleOf key).keyId = some key) {name : Text} {content : Bytes}
    (accepted : Identity.Accepted name content) :
    Leads (shows_ · b)
      (k.signed (Name.ofCommonName content) (suite.handleOf key))
      fun o s => ∃ a, Alike b.around a ∧ shows_ s (b.amid a) ∧
        ((∃ c, o = .ok c ∧ Issued suite name key c) ∨
          ∃ f now, o = .error f ∧ Refused (k.policy.Fits (k.clock now)) f) := by
  have drawn := keeps.randomBytes b k.policy.serialBytes
  have alike := Surroundings.alike_draw b.around k.policy.serialBytes
  refine drawn.bind ?_ fun v => ?_
  · rintro f s ⟨held, failed⟩
    refine ⟨_, alike, held, Or.inr ⟨f, s, rfl, ?_⟩⟩
    unfold Surroundings.draw at failed
    split at failed
    · cases failed
      exact ⟨rfl, rfl, Or.inl rfl⟩
    · cases failed
  refine Action.leads_of fun drew => ?_
  obtain ⟨serial, numbered⟩ : ∃ serial, serialOfAnswer v = .ok serial := by
    cases drawn : (b.around.draw k.policy.serialBytes).1 with
    | error e =>
      rw [drawn] at drew
      cases drew
    | ok bs =>
      rw [drawn] at drew
      cases drew
      exact ⟨_, rfl⟩
  intro r held
  rw [Action.start_bind_ok (by rw [Action.start_ofExcept, numbered])]
  have clock : Action.start k.now r = (.ok (k.clock r.state), r) := rfl
  rw [Action.start_bind_ok clock]
  rcases template_spec k.policy (k.clock r.state) (Name.ofCommonName content)
    (suite.handleOf key) serial with ⟨e, failed, refused⟩ |
    ⟨t, first, last, built, whole, begins, ends, small⟩
  · rw [Action.start_bind_error (by rw [Action.start_ofExcept, failed])]
    exact ⟨_, alike, held, Or.inr ⟨e, r.state, rfl, refused⟩⟩
  · rw [Action.start_bind_ok (by rw [Action.start_ofExcept, built])]
    obtain ⟨c, signed, issued⟩ := issued_of_sign laws valid accepted whole begins ends small
    obtain ⟨held', outcome⟩ := keeps.sign (b.amid (b.around.draw k.policy.serialBytes).2) _ key t
      (.known .sha256) open_ signs r held
    refine ⟨_, alike, held', Or.inl ⟨c, ?_, issued⟩⟩
    rw [outcome, signed]
    rfl

theorem isSigningFailure_of_refused {fits : Prop} {f : Fault} (h : Refused fits f)
    (passes : isSigningFailure f = false) : ¬ fits := by
  rcases h.2.2 with value | outside
  · simp only [isSigningFailure, value, Bool.or_true, Bool.true_or] at passes
    cases passes
  · exact outside

/-- Where there is no certificate, the new key is gone, unless the calendar was too small. -/
theorem leads_makeCertificate (keeps : k.store.Keeps suite shows_ ready newest)
    (laws : suite.Lawful) {b : Book} {key : PrivateKey} (valid : key.Valid)
    (open_ : b.locked = none) (signs : b.key? (suite.handleOf key).keyId = some key) {name : Text}
    {content : Bytes} (accepted : Identity.Accepted name content) :
    Leads (shows_ · b) (k.makeCertificate name (Name.ofCommonName content)
        (suite.handleOf key))
      fun o s => ∃ a, Alike b.around a ∧
        ((∃ c, o = .ok c ∧ Issued suite name key c ∧ shows_ s (b.amid a)) ∨
          ∃ f, o = .error f ∧ ¬ f.IsUnexpected ∧
            (shows_ s ((b.amid a).dropKey (suite.handleOf key).keyId) ∨
              shows_ s (b.amid a) ∧ ∃ now, ¬ k.policy.Fits (k.clock now))) := by
  intro r held
  obtain ⟨a, alike, held', outcome⟩ := leads_signed keeps laws valid open_ signs accepted r held
  refine ⟨a, alike, ?_⟩
  have started : Action.start (k.makeCertificate name (Name.ofCommonName content)
      (suite.handleOf key)) r
    = _ := Action.start_bind_ok (Action.start_attempt _ r) _
  rw [started]
  rcases outcome with ⟨c, signed, issued⟩ | ⟨f, now, failed, refused⟩
  · rw [signed]
    exact Or.inl ⟨c, rfl, issued, held'⟩
  · rw [failed]
    refine Or.inr ?_
    simp only
    cases signing : isSigningFailure f with
    | false =>
      refine ⟨f, rfl, Fault.not_isUnexpected refused.1, Or.inr ⟨held', now, ?_⟩⟩
      exact isSigningFailure_of_refused refused signing
    | true =>
      have isKey := suite.isKeyId_handleOf key
      have abandoned (level : Level) (message : Text) (e : Fault) (plain : ¬ e.IsUnexpected) :
          Leads (shows_ · (b.amid a)) (do
            Action.log level message
            k.discardKey (suite.handleOf key)
            throw e : Action σ Certificate) fun o s => ∃ f, o = .error f ∧ ¬ f.IsUnexpected ∧
              (shows_ s ((b.amid a).dropKey (suite.handleOf key).keyId) ∨
                shows_ s (b.amid a) ∧ ∃ now, ¬ k.policy.Fits (k.clock now)) := by
        refine Action.leads_log_bind ((leads_discardKey keeps (b.amid a) isKey).bind_ok ?_)
        exact Action.leads_throw fun s held => ⟨e, rfl, plain, Or.inl held⟩
      rw [if_neg (by decide),
        Action.start_bind_ok (by rw [Action.start_ofExcept, refused.2.1.asText])]
      exact abandoned _ _ _ (not_isUnexpected_raised refused.2.1 (by decide) _) _ held'

theorem leads_bindCertificate (keeps : k.store.Keeps suite shows_ ready newest) {b : Book}
    (writable : ready b) {name : Text} (valid : name.Valid) {key : PrivateKey} {c : Certificate}
    (issued : Issued suite name key c) :
    Leads (shows_ · b) (k.bindCertificate name (suite.handleOf key) c) fun o s =>
      o = .ok () ∧ ∃ e b', shows_ s b' ∧ b.Gains e b' ∧ e.name = name ∧ e.certificate = c ∧
        e.keyId = if b.held (suite.handleOf key).keyId then .text (suite.handleOf key).keyId
          else .null := by
  intro r held
  obtain ⟨e, b', imported, held', gains, named, certificate, keyId, _⟩ :=
    keeps.importCertificate b c name (suite.handleOf key).keyId writable issued.readable
      issued.keyId valid r held
  have started : Action.start (k.bindCertificate name (suite.handleOf key) c) r
    = _ := Action.start_bind_ok (Action.start_attempt _ r) _
  rw [started, imported]
  exact ⟨rfl, e, b', held', gains, named, certificate, keyId⟩

theorem leads_readBack (keeps : k.store.Keeps suite shows_ ready newest) {b : Book} {name : Text}
    {e : Entry} (first : b.first? name = some e) :
    Leads (shows_ · b) (k.readBack name) fun o s => shows_ s b ∧ o = .ok e := by
  have found : Leads (shows_ · b) (Action.refine (k.find name) fun e =>
      if e.failure.lifecycle? = some .storeUnavailable then
        some (raised .readbackFailed "Readback failed" e)
      else none) fun o s => shows_ s b ∧ o = .ok (some e) := by
    refine Leads.refine ((leads_find keeps b name).post ?_)
    rintro o s ⟨held, rfl⟩
    rw [first]
    exact ⟨held, rfl⟩
  exact found.bind_ok fun r held => ⟨held, rfl⟩

/-! ### All stages -/

/-- How the replacement of what is under a name ends. -/
inductive Replaced (k : Keeper σ) (suite : Suite) (shows_ : σ → Book → Prop) (b : Book)
    (name : Text) (o : Except Fault Entry) (s : σ) : Prop
  /-- The store cannot be used and stays as it is. -/
  | refused (away : b.available = false) (held : shows_ s b)
      (ended : o = .error (unavailable "Key store is not available"))
  /-- The entries before a foreign one are gone; no key is made. -/
  | stopped (own : List Entry) (e : Entry) (rest : List Entry) (failed : Fault)
      (split : b.under name = own ++ e :: rest) (owns : ∀ x ∈ own, k.Owns name x)
      (foreign : Validation.checkIdentity k.suite e.certificate (.text name) = .error failed)
      (held : shows_ s (b.remove own)) (ended : o = .error (refusal name e failed))
  /-- The entries are gone, and no key is left of the attempt. -/
  | abandoned (f : Fault) (a : Surroundings) (owns : ∀ x ∈ b.under name, k.Owns name x)
      (held : shows_ s ((b.remove (b.under name)).amid a)) (plain : ¬ f.IsUnexpected)
      (ended : o = .error f)
  /-- The entries are gone, and a key is left since the calendar was too small. -/
  | stranded (f : Fault) (key : PrivateKey) (a : Surroundings)
      (owns : ∀ x ∈ b.under name, k.Owns name x)
      (held : shows_ s (((b.remove (b.under name)).amid a).putKey (suite.handleOf key).keyId key))
      (small : ∃ now, ¬ k.policy.Fits (k.clock now)) (plain : ¬ f.IsUnexpected)
      (ended : o = .error f)
  /-- One entry takes the place of all; it is bound to a new key. -/
  | issued (e : Entry) (key : PrivateKey) (a : Surroundings) (b' : Book)
      (owns : ∀ x ∈ b.under name, k.Owns name x) (unlocked : b.locked = none)
      (drew : b.around.drawKey .p256 = (.ok key, a)) (named : e.name = name)
      (certificate : Issued suite name key e.certificate)
      (bound : e.keyId = .text (suite.handleOf key).keyId)
      (gains : ((b.remove (b.under name)).putKey (suite.handleOf key).keyId key).Gains e b')
      (only : b'.under name = [e]) (held : shows_ s b') (ended : o = .ok e)

theorem leads_finish (keeps : k.store.Keeps suite shows_ ready newest) {b : Book}
    (writable : ready b) {name : Text} (valid : name.Valid) (none_ : b.under name = [])
    {key : PrivateKey} (holds : b.held (suite.handleOf key).keyId = true) {c : Certificate}
    (issued : Issued suite name key c) :
    Leads (shows_ · b) (do
        k.bindCertificate name (suite.handleOf key) c
        let e ← k.readBack name
        let last ← Action.ofExcept e.certificate.notAfter.instant
        Action.log .info ("Generated certificate for " ++ name.quoted ++ ": serial=" ++
          e.certificate.serialText ++ ", expires=" ++ last.spell)
        return e)
      fun o s => ∃ e b', o = .ok e ∧ shows_ s b' ∧ b.Gains e b' ∧ e.name = name ∧
        e.certificate = c ∧ e.keyId = .text (suite.handleOf key).keyId ∧ b'.under name = [e] := by
  refine (leads_bindCertificate keeps writable valid issued).bind
    (fun e s impossible => nomatch impossible.1) fun _ => ?_
  rintro r ⟨_, e, b', held, gains, named, certificate, keyId⟩
  have only := gains.under_eq named none_
  have first : b'.first? name = some e := by rw [b'.first?_eq, only]; rfl
  obtain ⟨last, ends⟩ := issued.lasts
  rw [← certificate] at ends
  rw [holds, if_pos rfl] at keyId
  have read : Leads (shows_ · b') (do
      let e ← k.readBack name
      let last ← Action.ofExcept e.certificate.notAfter.instant
      Action.log .info ("Generated certificate for " ++ name.quoted ++ ": serial=" ++
        e.certificate.serialText ++ ", expires=" ++ last.spell)
      return e) fun o s => shows_ s b' ∧ o = .ok e := by
    refine (leads_readBack keeps first).bind_ok ?_
    refine (Action.leads_ofExcept (Q := fun o s => shows_ s b' ∧ o = .ok last)
      fun s held => ⟨held, ends⟩).bind_ok ?_
    exact fun r held => ⟨held, rfl⟩
  obtain ⟨held', answer⟩ := read r held
  exact ⟨e, b', answer, held', gains, named, certificate, keyId, only⟩

section Stages

variable {b : Book} {name : Text} {content : Bytes}

theorem ready_of_cleared (keeps : k.store.Keeps suite shows_ ready newest) (writable : ready b)
    {b' : Book} (entries : b'.entries = (b.remove (b.under name)).entries)
    (alike : Alike b.around b'.around) : ready b' := by
  refine keeps.ready_mono writable (fun e he => ?_) alike.1 alike.2
  rw [entries] at he
  exact (List.mem_filter.mp he).1

/-- With a new key in the store, one certificate takes the place of what was removed, or there is
none and the key goes again, unless the calendar was too small. -/
theorem leads_issue_keyed (keeps : k.store.Keeps suite shows_ ready newest) (laws : suite.Lawful)
    (sound : b.Sound) (writable : ready b) (accepted : Identity.Accepted name content)
    (owns : ∀ x ∈ b.under name, k.Owns name x) (unlocked : b.locked = none) {key : PrivateKey}
    {a : Surroundings} (drew : b.around.drawKey .p256 = (.ok key, a)) (valid : key.Valid)
    (new : (b.remove (b.under name)).held (suite.handleOf key).keyId = false) :
    Leads (shows_ · (((b.remove (b.under name)).amid a).putKey (suite.handleOf key).keyId key)) (do
        let c ← k.makeCertificate name (Name.ofCommonName content) (suite.handleOf key)
        k.bindCertificate name (suite.handleOf key) c
        let e ← k.readBack name
        let last ← Action.ofExcept e.certificate.notAfter.instant
        Action.log .info ("Generated certificate for " ++ name.quoted ++ ": serial=" ++
          e.certificate.serialText ++ ", expires=" ++ last.spell)
        return e) (k.Replaced suite shows_ b name) := by
  obtain ⟨b₁, cleared⟩ : ∃ b₁, b₁ = b.remove (b.under name) := ⟨_, rfl⟩
  obtain ⟨b₂, keyed⟩ : ∃ b₂, b₂ = (b₁.amid a).putKey (suite.handleOf key).keyId key := ⟨_, rfl⟩
  have signs : b₂.key? (suite.handleOf key).keyId = some key := by rw [keyed]; exact if_pos rfl
  have open_ : b₂.locked = none := by rw [keyed, cleared]; exact unlocked
  have alike := Surroundings.alike_drawKey drew
  rw [← cleared] at new ⊢
  rw [← keyed]
  refine (leads_makeCertificate keeps laws valid open_ signs accepted).bind ?_ fun c => ?_
  · rintro f s ⟨a', _, ⟨_, impossible, _⟩ | ⟨f, ended, plain, held | ⟨held, small⟩⟩⟩
    · cases impossible
    · cases ended
      have sound₁ : b₁.Sound := by rw [cleared]; exact sound.remove _
      -- The key is new, so dropping it leaves the store as the sweep did.
      have gone : (b₂.amid a').dropKey (suite.handleOf key).keyId = b₁.amid a' := by
        rw [keyed]
        exact Book.dropKey_putKey (sound₁.amid a') new key
      rw [gone, cleared] at held
      exact .abandoned f a' owns held plain rfl
    · cases ended
      rw [keyed, cleared] at held
      exact .stranded f key a' owns held small plain rfl
  · rintro r ⟨a', alike', ⟨c', ended, issued, held⟩ | ⟨_, impossible, _⟩⟩
    rotate_left
    · cases impossible
    cases ended
    have writable₂ : ready (b₂.amid a') := by
      rw [keyed, cleared] at alike' ⊢
      exact ready_of_cleared keeps writable rfl (alike.trans alike')
    have none₂ : (b₂.amid a').under name = [] := by
      rw [keyed, cleared]
      exact b.under_remove_under name
    have holds : (b₂.amid a').held (suite.handleOf key).keyId = true := by
      rw [keyed]
      simp [Book.amid, Book.putKey]
    obtain ⟨e, b', ended, held', gains, named, certificate, bound, only⟩ :=
      leads_finish keeps writable₂ accepted.valid none₂ holds issued r held
    have gains' : ((b.remove (b.under name)).putKey (suite.handleOf key).keyId key).Gains e b' := by
      rw [keyed, cleared] at gains
      exact ⟨gains.entries, gains.held, gains.key?, gains.locked, gains.available⟩
    exact .issued e key a b' owns unlocked drew named (certificate ▸ issued) bound gains' only
      held' ended

theorem leads_issue_cleared (keeps : k.store.Keeps suite shows_ ready newest) (laws : suite.Lawful)
    (sound : b.Sound) (writable : ready b) (accepted : Identity.Accepted name content)
    (draws : (b.remove (b.under name)).Draws suite) (owns : ∀ x ∈ b.under name, k.Owns name x) :
    Leads (shows_ · (b.remove (b.under name))) (do
        let subject ← Action.ofExcept (identitySubject name)
        let key ← k.makeKey name
        let c ← k.makeCertificate name subject key
        k.bindCertificate name key c
        let e ← k.readBack name
        let last ← Action.ofExcept e.certificate.notAfter.instant
        Action.log .info ("Generated certificate for " ++ name.quoted ++ ": serial=" ++
          e.certificate.serialText ++ ", expires=" ++ last.spell)
        return e) (k.Replaced suite shows_ b name) := by
  have fit : ready (b.remove (b.under name)) := ready_of_cleared keeps writable rfl ⟨rfl, rfl⟩
  refine (Action.leads_ofExcept (Q := fun o s => shows_ s (b.remove (b.under name)) ∧
    o = .ok (Name.ofCommonName content)) fun s held => ⟨held, accepted.identitySubject⟩).bind_ok ?_
  refine (leads_makeKey keeps fit draws name).bind ?_ fun handle => ?_
  · rintro f s (⟨f, a, ended, plain, _, held⟩ | ⟨_, _, _, _, _, impossible⟩)
    · cases ended
      exact .abandoned f a owns held plain rfl
    · cases impossible
  · rintro r (⟨_, _, impossible, _⟩ | ⟨key, a, unlocked, drew, held, ended⟩)
    · cases impossible
    cases ended
    obtain ⟨valid, new⟩ := draws.fresh key a drew
    exact leads_issue_keyed keeps laws sound writable accepted owns unlocked drew valid new r held

/-- What is under a name is replaced by one certificate with a new key, or it is said why not. -/
theorem leads_issue (keeps : k.store.Keeps suite shows_ ready newest) (laws : suite.Lawful)
    {b : Book} (sound : b.Sound) (writable : ready b) {name : Text} {content : Bytes}
    (accepted : Identity.Accepted name content)
    (draws : (b.remove (b.under name)).Draws suite) :
    Leads (shows_ · b) (k.issue name) (k.Replaced suite shows_ b name) := by
  refine (leads_acquire keeps b).bind ?_ fun _ => ?_
  · rintro f s ⟨held, acquired⟩
    cases available : b.available with
    | true =>
      rw [available] at acquired
      cases acquired
    | false =>
      rw [available] at acquired
      cases acquired
      exact .refused available held rfl
  refine Leads.mono (P := (shows_ · b)) ?_ (fun s hs => hs.1) fun o s hq => hq
  refine (leads_removeAll keeps b name).bind ?_ fun n => ?_
  · rintro f s (⟨impossible, _⟩ | ⟨own, e, rest, failed, split, owns, foreign, held, ended⟩)
    · cases impossible
    · cases ended
      exact .stopped own e rest failed split owns foreign held rfl
  · rintro r (⟨_, held, owns⟩ | ⟨_, _, _, _, _, _, _, _, impossible⟩)
    · exact leads_issue_cleared keeps laws sound writable accepted draws owns r held
    · cases impossible

end Stages

end Keeper

end CertKeeper
