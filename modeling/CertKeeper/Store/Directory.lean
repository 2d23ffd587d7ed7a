import CertKeeper.Files.Tree
import CertKeeper.KeyFile
import CertKeeper.Store.Record

/-!
# The store in a directory

Keys and entries live in files: the keys under `keys`, the entries under `certificates` in the
order of their handles, and a record that verifies the password beside them.  Only the password
itself is kept in memory.  A file is written whole under a name of its own and then moved to its
place, so a failure leaves what was there.
-/

namespace CertKeeper.Directory

open X509

/-- A store on a directory of a tree, and the password it was opened with or logged in with. -/
structure State where
  tree : Tree
  base : Path
  password : Option Text
  around : Surroundings

namespace State

def keysPath (s : State) : Path := s.base.join "keys"

def entriesPath (s : State) : Path := s.base.join "certificates"

def passwordPath (s : State) : Path := s.base.join "password.json"

def keyPath (s : State) (id : Text) : Path := s.keysPath.join (id ++ ".pem")

def entryPath (s : State) (handle : Text) : Path := s.entriesPath.join (handle ++ ".json")

/-! ### What the directory says -/

def passwordRecord? (s : State) : Except Fault (Option PasswordRecord) := do
  if ← s.tree.exists? s.passwordPath then
    return some (← PasswordRecord.read (s.tree.contentAt s.passwordPath))
  else return none

def entryFiles (s : State) : List Text := s.tree.namesEnding s.entriesPath ".json"

def findAmong (s : State) (name : Text) : List Text → Except Fault (Option Entry)
  | [] => .ok none
  | file :: rest => do
    match ← EntryRecord.read file name (s.tree.contentAt (s.entriesPath.join file)) with
    | some e => return some e
    | none => findAmong s name rest

/-- The names that a lookup goes through: first it is asked whether there is a directory. -/
def listed (s : State) : Except Fault (List Text) := do
  if ← s.tree.isDirectory s.entriesPath then return s.entryFiles else return []

def find (s : State) (name : Text) : Except Fault (Option Entry) := do
  s.findAmong name (← s.listed)

def requireUnlocked (s : State) : Except Fault Unit := do
  match ← s.passwordRecord? with
  | none => throw (Fault.keyStore "Key store has not been initialized")
  | some r =>
    if !r.empty.truthy && s.password.isNone then throw (Fault.keyStore "Key store is locked")

/-- What keys are sealed under; nothing where the password is empty. -/
def sealingPassword (s : State) : Except Fault (Option Bytes) :=
  match s.password with
  | none | some [] => .ok none
  | some p =>
    match Utf8.encode p with
    | .ok content => .ok (some content)
    | .error f => .error (Fault.of (.encoding f))

def loadKey (suite : Suite) (s : State) (id : Text) : Except Fault PrivateKey := do
  let path := s.keyPath id
  if !(← s.tree.exists? path) then throw (Fault.keyStore ("Unknown key " ++ id))
  let loaded : Except Fault KeyFile.Loaded := do
    let content ← s.tree.contentAt path
    KeyFile.read suite content (← s.sealingPassword)
  match loaded with
  | .ok (.curve k) => return k
  | .ok .other => throw (Fault.keyStore ("Key " ++ id ++ " is not an elliptic curve key"))
  | .error e =>
    throw (if e.failure.isSystem || e.failure.isValue || e.failure.isType then
      StoreFault.explain ("Could not load key " ++ id) e else e)

/-- The handle of the entry that is imported now: the ticks in twenty digits, then the token. -/
def nextHandle (ticks : Int) (token : Text) : Text :=
  let count := Text.decimal ticks.natAbs
  let digits : Text :=
    if ticks < 0 then "-" ++ Text.padLeft 19 '0' count else Text.padLeft 20 '0' count
  digits ++ "-" ++ token.take 8

end State

/-! ### Writing -/

/-- A call on the tree, whose changes stay when it fails. -/
def onTree {α : Type} (f : Tree → α × Tree) : Action State α := Action.take fun s =>
  let (a, tree) := f s.tree
  (a, { s with tree := tree })

/-- Takes away what may be left under a temporary name; that nothing is left is no failure. -/
def discard (p : Path) : Action State Unit := do
  match ← onTree (·.unlink p) with
  | .ok () | .error .noEntry => return ()
  | .error code => throw (Fault.system code p.spell)

/-- Writes a file whole: under a temporary name first, then moved to its place. -/
def writeWhole (p : Path) (content : Bytes) (mode : Nat) : Action State Unit := do
  let token := (← Action.read).around.token
  let temporary := p.withName ("." ++ p.name ++ "." ++ token ++ ".tmp")
  let refuse (e : Fault) : Action State Unit := do
    discard temporary
    throw (StoreFault.explain ("Could not write " ++ p.name) e)
  match ← onTree (·.create temporary mode) with
  | .error code => refuse (Fault.system code temporary.spell)
  | .ok () =>
    match ← onTree (·.fill temporary content) with
    | .error code => refuse (Fault.of (.plain .os code.bare))
    | .ok () =>
      match ← onTree (·.replace temporary p) with
      | .error code => refuse (Fault.of (.system code temporary.spell (some p.spell)))
      | .ok () => return ()

/-- What is written is ASCII only. -/
def asciiBytes (t : Text) : Bytes := t.map fun c => UInt8.ofNat c.val

/-! ### Opening -/

/-- Makes the directories of a store and closes them to others. -/
def prepare (s : State) : Except Fault Tree × Tree :=
  let depth := s.base.parts.length + 1
  match s.tree.makeDirectories s.keysPath depth with
  | .error e => (.error e, s.tree)
  | .ok tree =>
    match tree.makeDirectories s.entriesPath depth with
    | .error e => (.error e, tree)
    | .ok tree => (.ok tree, tree)

def restrict (p : Path) : Action State Unit := do
  match (← Action.read).tree.setMode p 0o700 with
  | .ok tree => Action.change fun s => { s with tree := tree }
  | .error e => Action.log .warning ("Could not set directory permissions: " ++ e.message)

/-- The place that a text names for a store; `home` gives the home directories by name. -/
def place (mount : Text) (home : Text → Option Path) (t : Text) : Except Fault Path :=
  match (Path.parse mount t).goHome home with
  | some base => .ok base
  | none => .error (Fault.plain .runtime "Could not determine home directory.")

def unnameable (p : Path) : Fault :=
  match Utf8.foreign? p.spell with
  | some f => Fault.of (.encoding f)
  | none => Fault.value "embedded null byte"

/-- Opens a store; a directory that cannot be made is reported and shows when it is used.  A place
that no file can have is none. -/
def openStore : Action State Unit := do
  let s ← Action.read
  if s.base.isUnnameable then throw (unnameable s.keysPath)
  let (outcome, tree) := prepare s
  Action.change fun s => { s with tree := tree, password := none }
  match outcome with
  | .error e =>
    Action.log .error ("Could not create key store at " ++ s.base.spell ++ ": " ++ e.message)
  | .ok _ =>
    restrict s.base
    restrict s.keysPath
    restrict s.entriesPath
  Action.log .info ("Initialized LocalKeyStore at " ++ s.base.spell)

/-! ### Calls -/

def ask {α : Type} (f : State → Except Fault α) : Action State α := do
  Action.ofExcept (f (← Action.read))

def drawn {α : Type} (f : Surroundings → Except Fault α × Surroundings) : Action State α := do
  let outcome ← Action.take fun s =>
    let (outcome, around) := f s.around
    (outcome, { s with around := around })
  Action.ofExcept outcome

def isAvailable (s : State) : Except Fault Bool := do
  if ← s.tree.isDirectory s.keysPath then
    return (← s.tree.isDirectory s.entriesPath) && s.tree.isWritable s.base
  else return false

def initPassword (suite : Suite) (password : Text) : Action State Unit := do
  if (← ask State.passwordRecord?).isSome then
    throw (Fault.keyStore "Key store password is already set")
  let salt ← drawn (Surroundings.draw 16)
  match Utf8.encode password with
  | .error f => throw (Fault.of (.encoding f))
  | .ok content =>
    let record := PasswordRecord.render password.isEmpty salt (suite.stretch salt content)
    writeWhole (← Action.read).passwordPath (asciiBytes record) 0o600
    if !password.isEmpty then Action.change fun s => { s with password := some password }
    Action.log .info "Initialized key store password"

def needsLogin (s : State) : Except Fault Bool := do
  return (← s.passwordRecord?).any fun r => !r.empty.truthy

def loginFault (e : Fault) : Fault :=
  if e.failure.isType || e.failure.isValue then StoreFault.explain PasswordRecord.malformed e
  else e

def login (suite : Suite) (password : Text) : Action State Value := do
  match ← ask State.passwordRecord? with
  | none => return .bool false
  | some r =>
    match r.verifies suite password with
    | .error e => throw (loginFault e)
    | .ok false =>
      Action.log .warning "Key store login failed: wrong password"
      return .bool false
    | .ok true =>
      Action.change fun s =>
        { s with password := if password.isEmpty then none else some password }
      Action.log .info "Logged in to key store"
      return .bool true

def boundKeyPath (s : State) (keyId : Value) : Option Path :=
  match keyId with
  | .null => none
  | v => some (s.keyPath v.spell)

/-- Takes a file away; that it is gone already is no failure.  A path that no file can have is
none. -/
def unlinkPresent (p : Path) : Action State (Except SystemCode Unit) := do
  if p.isUnnameable then throw (unnameable p)
  match ← onTree (·.unlink p) with
  | .ok () | .error .noEntry => return .ok ()
  | .error code => return .error code

def delete (e : Entry) : Action State Unit := do
  let s ← Action.read
  let path := s.entryPath e.handle
  if !(← Action.ofExcept (s.tree.exists? path)) then
    throw (Fault.keyStore ("Unknown certificate entry " ++ e.handle))
  let refuse (code : SystemCode) (p : Path) : Action State Unit :=
    throw (StoreFault.explain ("Could not delete certificate entry " ++ e.handle)
      (Fault.system code p.spell))
  match ← onTree (·.unlink path) with
  | .error code => refuse code path
  | .ok () =>
    -- The entry is gone by now, whatever becomes of its key.
    match boundKeyPath s e.keyId with
    | none => pure ()
    | some keyPath =>
      match ← unlinkPresent keyPath with
      | .ok () => pure ()
      | .error code => refuse code keyPath
    Action.log .debug ("Deleted certificate entry " ++ e.handle)

def deleteKey (id : Text) : Action State Unit := do
  let path := (← Action.read).keyPath id
  match ← unlinkPresent path with
  | .ok () => Action.log .debug ("Deleted key " ++ id.take 16)
  | .error code =>
    throw (StoreFault.explain ("Could not delete key " ++ id) (Fault.system code path.spell))

def generateKey (suite : Suite) (c : Crypto.Curve) : Action State KeyHandle := do
  ask State.requireUnlocked
  let k ← Action.refine (drawn (Surroundings.drawKey c)) StoreFault.ofGeneration
  let publicKey := suite.publicKey k
  let id := publicKey.id
  let content ← ask fun s => do KeyFile.write suite k (← s.sealingPassword)
  writeWhole ((← Action.read).keyPath id) (asciiBytes content) 0o600
  Action.log .debug ("Generated " ++ Text.ofString c.name ++ " key " ++ id.take 16)
  return ⟨id, publicKey⟩

def sign (suite : Suite) (id : Text) (t : Template) (choice : Template.DigestChoice) :
    Action State Certificate := do
  ask State.requireUnlocked
  let k ← ask fun s => s.loadKey suite id
  Action.refine (Action.ofExcept (t.sign suite k choice)) StoreFault.ofSigning

def importCertificate (c : Certificate) (name : Text) : Action State Entry := do
  let id ← Action.ofExcept c.keyId
  let ticks ← Action.take fun s =>
    let (ticks, around) := s.around.tick
    (ticks, { s with around := around })
  let s ← Action.read
  let bound ← Action.ofExcept (s.tree.exists? (s.keyPath id))
  let handle := State.nextHandle ticks s.around.token
  let e : Entry := ⟨handle, name, c, if bound then .text id else .null⟩
  writeWhole (s.entryPath handle) (asciiBytes (EntryRecord.render e s.around.now)) 0o644
  Action.log .info ("Imported certificate for " ++ name ++ ", serial " ++ c.serialText)
  return e

def keyStore (suite : Suite) : KeyStore State where
  isAvailable := do return .bool (← ask isAvailable)
  needsUserInit := do return .bool (← ask State.passwordRecord?).isNone
  initPassword := initPassword suite
  needsLogin := do return .bool (← ask needsLogin)
  isLoggedIn := do return .bool (← Action.read).password.isSome
  login := login suite
  findByName name := ask fun s => s.find name
  delete := delete
  deleteKey := deleteKey
  generateKey := generateKey suite
  sign := sign suite
  importCertificate := importCertificate
  randomBytes n := do return .bytes (← drawn (Surroundings.draw n))
  horizon s := s.tree.nodes.length + 1

end CertKeeper.Directory
