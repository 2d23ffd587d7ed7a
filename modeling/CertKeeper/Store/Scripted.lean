import CertKeeper.Store.Basic

/-!
# Stores that follow a script

A store around another one whose calls can be made to fail, to answer something else or to have
side effects of their own, one call after the other.  A call without a script goes through.
-/

namespace CertKeeper.Scripted

inductive Call where
  | isAvailable
  | needsUserInit
  | initPassword
  | needsLogin
  | isLoggedIn
  | login
  | findByName
  | delete
  | deleteKey
  | generateKey
  | sign
  | importCertificate
  | randomBytes
deriving DecidableEq, Repr

inductive Move where
  | pass
  /-- The call is not made and fails. -/
  | refuse (e : Fault)
  /-- The call is made and fails afterwards. -/
  | spoil (e : Fault)
  /-- The call is not made and gives a value, where it can give that value. -/
  | answer (v : Value)
  /-- A lookup is made and what it finds is deleted behind the caller's back. -/
  | race
  /-- An import keeps nothing and gives an entry with a handle of its own. -/
  | lose (handle : Text)
  | give (e : Entry)

inductive Plan where
  | always (m : Move)
  | sequence (moves : List Move)

structure State (σ : Type) where
  inner : σ
  plans : List (Call × Plan)

namespace Plan

def next : Plan → Move × Plan
  | always m => (m, always m)
  | sequence [] => (.pass, sequence [])
  | sequence (m :: rest) => (m, sequence rest)

def length : Plan → Nat
  | always _ => 0
  | sequence moves => moves.length

end Plan

def takeMove (c : Call) : List (Call × Plan) → Move × List (Call × Plan)
  | [] => (.pass, [])
  | p :: rest =>
    if p.1 = c then (p.2.next.1, (c, p.2.next.2) :: rest)
    else ((takeMove c rest).1, p :: (takeMove c rest).2)

section

variable {σ α : Type}

def innerPart : Action.Part (State σ) σ where
  get s := s.inner
  set inner s := { s with inner := inner }

def nextMove (c : Call) : Action (State σ) Move := Action.take fun s =>
  let (m, plans) := takeMove c s.plans
  (m, { s with plans := plans })

/-- Makes a call as its move says; `instead` tells which values it can give. -/
def play (c : Call) (call : Action σ α) (instead : Value → Option α) : Action (State σ) α := do
  match ← nextMove c with
  | .refuse e => throw e
  | .spoil e =>
    let _ ← call.on innerPart
    throw e
  | .answer v =>
    match instead v with
    | some a => return a
    | none => call.on innerPart
  | _ => call.on innerPart

def findAndDelete (s : KeyStore σ) (name : Text) : Action σ (Option Entry) := do
  match ← s.findByName name with
  | none => return none
  | some e =>
    s.delete e
    return some e

def find (s : KeyStore σ) (name : Text) : Action (State σ) (Option Entry) := do
  match ← nextMove .findByName with
  | .refuse e => throw e
  | .spoil e =>
    let _ ← (s.findByName name).on innerPart
    throw e
  | .answer _ => return none
  | .race => (findAndDelete s name).on innerPart
  | .give e => return some e
  | _ => (s.findByName name).on innerPart

def importCertificate (s : KeyStore σ) (c : X509.Certificate) (name : Text) :
    Action (State σ) Entry := do
  match ← nextMove .importCertificate with
  | .refuse e => throw e
  | .spoil e =>
    let _ ← (s.importCertificate c name).on innerPart
    throw e
  | .lose handle => return ⟨handle, name, c, .null⟩
  | .answer _ => return ⟨[], name, c, .null⟩
  | _ => (s.importCertificate c name).on innerPart

def keyStore (s : KeyStore σ) : KeyStore (State σ) where
  isAvailable := play .isAvailable s.isAvailable some
  needsUserInit := play .needsUserInit s.needsUserInit some
  initPassword p := play .initPassword (s.initPassword p) fun _ => some ()
  needsLogin := play .needsLogin s.needsLogin some
  isLoggedIn := play .isLoggedIn s.isLoggedIn some
  login p := play .login (s.login p) some
  findByName name := find s name
  delete e := play .delete (s.delete e) fun _ => some ()
  deleteKey id := play .deleteKey (s.deleteKey id) fun _ => some ()
  generateKey c := play .generateKey (s.generateKey c) fun _ => none
  sign id t choice := play .sign (s.sign id t choice) fun _ => none
  importCertificate c name := importCertificate s c name
  randomBytes n := play .randomBytes (s.randomBytes n) some
  horizon w := s.horizon w.inner + w.plans.foldl (fun n p => n + p.2.length) 0 + 2

end

end CertKeeper.Scripted
