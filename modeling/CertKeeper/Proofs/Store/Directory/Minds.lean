import CertKeeper.Proofs.Store.Directory.Writing

/-!
# What a store has in mind

Two stores on one directory differ in the password that they have in mind and in nothing else.
Calls that do not use keys make no difference between them, and no call but a login changes what
a store has in mind.  Main statements: `alike_delete`, `alike_importCertificate`,
`alike_generateKey` and `alike_sign`.
-/

namespace CertKeeper.Directory

open X509
open CertKeeper.Action (start)

variable {α β : Type}

def State.minding (s : State) (w : Option Text) : State := { s with password := w }

/-! ### How an action ends -/

/-- Started at a state, an action ends so, whatever the journal says. -/
def Ends (a : Action State α) (s : State) (v : Except Fault α) (t : State) : Prop :=
  ∀ journal operation, (start a ⟨s, journal, operation⟩).1 = v ∧
    (start a ⟨s, journal, operation⟩).2.state = t

/-- With one password in mind as with the other an action ends the same, and the password stays in
mind. -/
def Alike (w w' : Option Text) (a : Action State α) : Prop :=
  ∀ s, ∃ v t, Ends a (State.minding s w) v (State.minding t w) ∧
    Ends a (State.minding s w') v (State.minding t w')

variable {w w' : Option Text} {a : Action State α} {f : α → Action State β}

theorem Ends.bind_ok {s t u : State} {v : α} {x : Except Fault β} (first : Ends a s (.ok v) t)
    (next : Ends (f v) t x u) : Ends (a >>= f) s x u := by
  intro journal operation
  obtain ⟨answer, left⟩ := first journal operation
  rw [Action.start_bind]
  cases ended : start a ⟨s, journal, operation⟩ with
  | mk o r =>
    rw [ended] at answer left
    subst answer left
    exact next r.journal r.operation

theorem Ends.bind_error {s t : State} {e : Fault} (first : Ends a s (.error e) t) :
    Ends (a >>= f) s (.error e) t := by
  intro journal operation
  obtain ⟨answer, left⟩ := first journal operation
  rw [Action.start_bind]
  cases ended : start a ⟨s, journal, operation⟩ with
  | mk o r =>
    rw [ended] at answer left
    subst answer
    exact ⟨rfl, left⟩

/-! ### Combinators -/

theorem alike_pure (v : α) : Alike w w' (pure v) :=
  fun s => ⟨.ok v, s, fun _ _ => ⟨rfl, rfl⟩, fun _ _ => ⟨rfl, rfl⟩⟩

theorem alike_throw (e : Fault) : Alike w w' (throw e : Action State α) :=
  fun s => ⟨.error e, s, fun _ _ => ⟨rfl, rfl⟩, fun _ _ => ⟨rfl, rfl⟩⟩

theorem Alike.bind (first : Alike w w' a) (next : ∀ v, Alike w w' (f v)) :
    Alike w w' (a >>= f) := by
  intro s
  obtain ⟨o, t, ends, ends'⟩ := first s
  cases o with
  | error e => exact ⟨.error e, t, ends.bind_error, ends'.bind_error⟩
  | ok v =>
    obtain ⟨x, u, more, more'⟩ := next v t
    exact ⟨x, u, ends.bind_ok more, ends'.bind_ok more'⟩

theorem alike_log (level : Level) (message : Text) : Alike w w' (Action.log level message) :=
  fun s => ⟨.ok (), s, fun _ _ => ⟨rfl, rfl⟩, fun _ _ => ⟨rfl, rfl⟩⟩

theorem alike_ofExcept (o : Except Fault α) : Alike w w' (Action.ofExcept o) := by
  cases o with
  | ok v => exact alike_pure v
  | error e => exact alike_throw e

theorem Alike.refine (h : Alike w w' a) (handler : Fault → Option Fault) :
    Alike w w' (Action.refine a handler) := by
  intro s
  obtain ⟨o, t, ends, ends'⟩ := h s
  refine ⟨o.mapError fun e => (handler e).getD e, t, fun journal operation => ?_,
    fun journal operation => ?_⟩
  · obtain ⟨answer, left⟩ := ends journal operation
    rw [Action.start_refine, answer]
    exact ⟨rfl, left⟩
  · obtain ⟨answer, left⟩ := ends' journal operation
    rw [Action.start_refine, answer]
    exact ⟨rfl, left⟩

theorem alike_read {f : State → Action State α}
    (same : ∀ s, f (State.minding s w') = f (State.minding s w))
    (next : ∀ s, Alike w w' (f (State.minding s w))) : Alike w w' (Action.read >>= f) := by
  intro s
  have first (w : Option Text) :
      Ends Action.read (s.minding w) (.ok (s.minding w)) (s.minding w) := fun _ _ => ⟨rfl, rfl⟩
  obtain ⟨x, u, more, more'⟩ := next s s
  refine ⟨x, u, (first w).bind_ok more, (first w').bind_ok ?_⟩
  rw [same s]
  exact more'

theorem alike_ask {f : State → Except Fault α}
    (same : ∀ s, f (State.minding s w') = f (State.minding s w)) : Alike w w' (ask f) := by
  refine alike_read (fun s => ?_) fun s => alike_ofExcept _
  rw [same s]

theorem alike_onTree (f : Tree → α × Tree) : Alike w w' (onTree f) := by
  intro s
  exact ⟨.ok (f s.tree).1, s.onto (f s.tree).2 s.around, fun _ _ => ⟨rfl, rfl⟩,
    fun _ _ => ⟨rfl, rfl⟩⟩

theorem alike_drawn (f : Surroundings → Except Fault α × Surroundings) : Alike w w' (drawn f) := by
  intro s
  refine ⟨(f s.around).1, s.onto s.tree (f s.around).2, fun journal operation => ?_,
    fun journal operation => ?_⟩
  · rw [start_drawn]
    exact ⟨rfl, rfl⟩
  · rw [start_drawn]
    exact ⟨rfl, rfl⟩

/-! ### Writing and taking away -/

theorem alike_discard (p : Path) : Alike w w' (discard p) := by
  refine (alike_onTree _).bind fun o => ?_
  split
  · exact alike_pure ()
  · exact alike_pure ()
  · exact alike_throw _

theorem alike_writeWhole (p : Path) (content : Bytes) (mode : Nat) :
    Alike w w' (writeWhole p content mode) := by
  have refused (temporary : Path) (e : Fault) :
      Alike w w' (discard temporary >>= fun _ => (throw e : Action State Unit)) :=
    (alike_discard temporary).bind fun _ => alike_throw e
  refine alike_read (fun s => rfl) fun s => (alike_onTree _).bind fun made => ?_
  cases made with
  | error code => exact refused _ _
  | ok _ =>
    refine (alike_onTree _).bind fun filled => ?_
    cases filled with
    | error code => exact refused _ _
    | ok _ =>
      refine (alike_onTree _).bind fun moved => ?_
      cases moved with
      | error code => exact refused _ _
      | ok _ => exact alike_pure ()

theorem alike_unlinkPresent (p : Path) : Alike w w' (unlinkPresent p) := by
  unfold unlinkPresent
  split
  · exact alike_throw _
  · refine (alike_onTree _).bind fun o => ?_
    split
    · exact alike_pure _
    · exact alike_pure _
    · exact alike_pure _

/-! ### Calls that use no keys -/

variable (suite : Suite)

theorem alike_isAvailable : Alike w w' (keyStore suite).isAvailable :=
  Alike.bind (a := ask isAvailable) (alike_ask fun _ => rfl) fun _ => alike_pure _

theorem alike_needsUserInit : Alike w w' (keyStore suite).needsUserInit :=
  Alike.bind (a := ask State.passwordRecord?) (alike_ask fun _ => rfl) fun _ => alike_pure _

theorem alike_needsLogin : Alike w w' (keyStore suite).needsLogin :=
  Alike.bind (a := ask needsLogin) (alike_ask fun _ => rfl) fun _ => alike_pure _

theorem alike_randomBytes (n : Int) : Alike w w' ((keyStore suite).randomBytes n) :=
  (alike_drawn _).bind fun _ => alike_pure _

theorem alike_findByName (name : Text) : Alike w w' ((keyStore suite).findByName name) := by
  have found : ∀ (s : State) (files : List Text),
      (s.minding w').findAmong name files = (s.minding w).findAmong name files := by
    intro s files
    -- the entries are read in turn, and nobody's password decides how one reads
    induction files with
    | nil => rfl
    | cons file rest ih =>
      rw [State.findAmong, State.findAmong, ih]
      rfl
  exact alike_ask fun s => bind_congr (found s)

theorem alike_delete (e : Entry) : Alike w w' (delete e) := by
  refine alike_read (fun s => rfl) fun s => (alike_ofExcept _).bind fun there => ?_
  cases there with
  | false => exact alike_throw (Fault.keyStore ("Unknown certificate entry " ++ e.handle))
  | true =>
  refine (alike_onTree _).bind fun unlinked => ?_
  cases unlinked with
  | error code => exact alike_throw _
  | ok _ =>
    dsimp only
    split
    · exact (alike_pure ()).bind fun _ => alike_log _ _
    · refine (alike_unlinkPresent _).bind fun taken => ?_
      cases taken with
      | error e' => exact alike_throw _
      | ok _ => exact alike_log _ _

theorem alike_deleteKey (id : Text) : Alike w w' (deleteKey id) := by
  refine alike_read (fun s => rfl) fun s => (alike_unlinkPresent _).bind fun taken => ?_
  cases taken with
  | error e => exact alike_throw _
  | ok _ => exact alike_log _ _

theorem alike_importCertificate (c : Certificate) (name : Text) :
    Alike w w' (importCertificate c name) := by
  have ticked : Alike w w' (Action.take fun s : State =>
      (s.around.tick.1, { s with around := s.around.tick.2 })) := by
    intro s
    exact ⟨.ok s.around.ticks, s.onto s.tree s.around.tick.2, fun _ _ => ⟨rfl, rfl⟩,
      fun _ _ => ⟨rfl, rfl⟩⟩
  refine (alike_ofExcept _).bind fun id => ticked.bind fun ticks => ?_
  refine alike_read (fun s => rfl) fun s => (alike_ofExcept _).bind fun bound => ?_
  exact (alike_writeWhole _ _ _).bind fun _ => (alike_log _ _).bind fun _ => alike_pure _

/-! ### Calls that use keys -/

theorem alike_generateKey (c : Crypto.Curve) : Alike w w (generateKey suite c) := by
  refine (alike_ask fun s => rfl).bind fun _ =>
    ((alike_drawn _).refine _).bind fun k => (alike_ask fun s => rfl).bind fun content => ?_
  refine alike_read (fun s => rfl) fun s => (alike_writeWhole _ _ _).bind fun _ => ?_
  exact (alike_log _ _).bind fun _ => alike_pure _

theorem alike_sign (id : Text) (t : Template) (choice : Template.DigestChoice) :
    Alike w w (sign suite id t choice) :=
  (alike_ask fun _ => rfl).bind fun _ => (alike_ask fun _ => rfl).bind fun _ =>
    (alike_ofExcept _).refine _

end CertKeeper.Directory
