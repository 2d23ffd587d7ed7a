import CertKeeper.Store.Basic

/-!
# The store in memory

Keys and entries live as long as the process.  Every call is counted.
-/

namespace CertKeeper.Memory

open X509

/-- The contents of a store; entries are kept oldest first. -/
structure Store where
  password : Option Text
  loggedIn : Bool
  keys : List (Text × PrivateKey)
  entries : List Entry
  /-- How many entries have been imported so far. -/
  imported : Nat
  accesses : Nat
  available : Bool

structure State where
  store : Store
  around : Surroundings

namespace Store

def new (password : Option Text) : Store := ⟨password, false, [], [], 0, 0, true⟩

def touch (s : Store) : Store := { s with accesses := s.accesses + 1 }

def key? (s : Store) (id : Text) : Option PrivateKey :=
  (s.keys.find? fun k => k.1 = id).map Prod.snd

def hasKey (s : Store) (id : Text) : Bool := s.keys.any fun k => k.1 = id

def putKey (s : Store) (id : Text) (k : PrivateKey) : Store :=
  { s with keys := s.keys.filter (·.1 ≠ id) ++ [(id, k)] }

def dropKey (s : Store) (id : Text) : Store := { s with keys := s.keys.filter (·.1 ≠ id) }

theorem hasKey_eq (s : Store) (id : Text) : s.hasKey id = (s.key? id).isSome := by
  simp [hasKey, key?, List.isSome_find?]

theorem key?_putKey (s : Store) (id : Text) (k : PrivateKey) :
    (s.putKey id k).key? id = some k := by
  have absent : (s.keys.filter (·.1 ≠ id)).find? (fun p => p.1 = id) = none := by
    simp [List.find?_eq_none]
  simp only [putKey, key?, List.find?_append, absent]
  simp

theorem key?_dropKey (s : Store) (id other : Text) :
    (s.dropKey id).key? other = if other = id then none else s.key? other := by
  simp only [dropKey, key?, List.find?_filter]
  split
  · next h => simp [h]
  · next h =>
    congr 2
    funext p
    by_cases hp : p.1 = other <;> simp [hp, h]

def entriesFor (s : Store) (name : Text) : List Entry := s.entries.filter (·.name = name)

def isProtected (s : Store) : Bool := s.password.any (!·.isEmpty)

def locked (s : Store) : Option Fault :=
  if s.password.isNone then some (Fault.keyStore "Key store has not been initialized")
  else if s.isProtected && !s.loggedIn then some (Fault.keyStore "Key store is locked")
  else none

def keyIdOf (keyId : Value) : Option Text := keyId.text?

/-- Takes an entry out, and the key bound to it. -/
def remove (s : Store) (e : Entry) : Store :=
  let kept := { s with entries := s.entries.filter (·.handle ≠ e.handle) }
  match keyIdOf e.keyId with
  | some id => kept.dropKey id
  | none => kept

def nextHandle (s : Store) : Text := "mem-" ++ Text.decimal (s.imported + 1)

end Store

/-! ### Calls -/

def logMade : Action State Unit := Action.log .debug "Initialized MemoryKeyStore"

def touch : Action State Store := Action.take fun s =>
  let store := s.store.touch
  (store, { s with store := store })

def put (store : Store) : Action State Unit := Action.change fun s => { s with store := store }

def requireUnlocked (store : Store) : Action State Unit :=
  match store.locked with
  | some e => throw e
  | none => pure ()

def drawn {α : Type} (f : Surroundings → Except Fault α × Surroundings) : Action State α := do
  let outcome ← Action.take fun s =>
    let (outcome, around) := f s.around
    (outcome, { s with around := around })
  Action.ofExcept outcome

def initPassword (password : Text) : Action State Unit := do
  let store ← touch
  if store.password.isSome then throw (Fault.keyStore "Key store password is already set")
  put { store with password := some password }
  Action.log .info "Initialized in-memory key store password"

def login (password : Text) : Action State Value := do
  let store ← touch
  if store.password = some password then
    put { store with loggedIn := true }
    return .bool true
  else return .bool false

def delete (e : Entry) : Action State Unit := do
  let store ← touch
  if store.entries.any (·.handle = e.handle) then put (store.remove e)
  else throw (Fault.keyStore ("Unknown certificate entry " ++ e.handle))

def generateKey (suite : Suite) (c : Crypto.Curve) : Action State KeyHandle := do
  let store ← touch
  requireUnlocked store
  let k ← Action.refine (drawn (Surroundings.drawKey c)) StoreFault.ofGeneration
  let publicKey := suite.publicKey k
  put (store.putKey publicKey.id k)
  return ⟨publicKey.id, publicKey⟩

def sign (suite : Suite) (id : Text) (t : Template) (choice : Template.DigestChoice) :
    Action State Certificate := do
  let store ← touch
  requireUnlocked store
  match store.key? id with
  | none => throw (Fault.keyStore ("Unknown key " ++ id))
  | some k => Action.refine (Action.ofExcept (t.sign suite k choice)) StoreFault.ofSigning

def importCertificate (c : Certificate) (name : Text) : Action State Entry := do
  let store ← touch
  let id ← Action.ofExcept c.keyId
  let e : Entry := ⟨store.nextHandle, name, c, if store.hasKey id then .text id else .null⟩
  put { store with entries := store.entries ++ [e], imported := store.imported + 1 }
  return e

def keyStore (suite : Suite) : KeyStore State where
  isAvailable := do return .bool (← touch).available
  needsUserInit := do return .bool (← touch).password.isNone
  initPassword := initPassword
  needsLogin := do return .bool (← touch).isProtected
  isLoggedIn := do return .bool (← touch).loggedIn
  login := login
  findByName name := do return (← touch).entries.find? (·.name = name)
  delete := delete
  deleteKey id := do put ((← touch).dropKey id)
  generateKey := generateKey suite
  sign := sign suite
  importCertificate := importCertificate
  randomBytes n := do
    let _ ← touch
    return .bytes (← drawn (Surroundings.draw n))
  horizon s := s.store.entries.length + 1

end CertKeeper.Memory
