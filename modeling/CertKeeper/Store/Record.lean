import CertKeeper.Files.Path
import CertKeeper.Json.Reader
import CertKeeper.Json.Writer
import CertKeeper.Store.Basic
import CertKeeper.Text.Blank

/-!
# Records of a store on disk

What a store writes into its directory: the record of its password and a record for every entry.
Both are JSON objects with one member a line.  A record that is there but cannot be used is a
fault that says why.
-/

namespace CertKeeper

/-! ### Text files -/

namespace Json

def ReadFault.fault (doc : Text) : ReadFault → Fault
  | .malformed reason position =>
    Fault.of (.json (Text.ofString reason.message ++ ": " ++ place doc position))
  | .tooManyDigits count =>
    Fault.value ("Exceeds the limit (4300 digits) for integer string conversion: value has " ++
      Text.decimal count ++ " digits; use sys.set_int_max_str_digits() to increase the limit")
  | .tooDeep inObject =>
    let what : Text := if inObject then "object" else "array"
    Fault.plain .recursion ("maximum recursion depth exceeded while decoding a JSON " ++ what ++
      " from a unicode string")

def ofFile (content : Bytes) : Except Fault Value :=
  match Utf8.decode content with
  | .error f => .error (Fault.of (.decoding f))
  | .ok t =>
    let doc := Text.unifyLineEnds t
    match read doc with
    | .ok v => .ok v
    | .error f => .error (f.fault doc)

end Json

/-! ### Digits in records -/

namespace HexText

def skipBlanks (t : Text) : Text := t.dropWhile fun c => c.val = 32 || (9 ≤ c.val && c.val ≤ 13)

/-- The bytes of pairs of digits with blanks between the pairs, or how much of the text was left
at the first code point that does not fit. -/
def readPairs : Nat → Text → Except Nat Bytes
  | 0, t => .error t.length
  | fuel + 1, t =>
    match skipBlanks t with
    | [] => .ok []
    | c :: rest =>
      match Text.hexDigit? c, rest with
      | none, _ => .error (rest.length + 1)
      | some _, [] => .error 0
      | some high, d :: more =>
        match Text.hexDigit? d with
        | none => .error (more.length + 1)
        | some low =>
          match readPairs fuel more with
          | .ok bs => .ok (UInt8.ofNat (16 * high + low) :: bs)
          | .error left => .error left

/-- The place of the first code point that is no part of such a text; a code point outside ASCII
is found first. -/
def read (t : Text) : Except Nat Bytes :=
  let ascii := t.takeWhile fun c => c.val < 128
  if ascii.length < t.length then .error ascii.length
  else
    match readPairs (t.length + 1) t with
    | .ok bs => .ok bs
    | .error left => .error (t.length - left)

end HexText

/-! ### The password -/

structure PasswordRecord where
  empty : Value
  salt : Value
  verifier : Value

namespace PasswordRecord

def render (empty : Bool) (salt verifier : Bytes) : Text :=
  Json.renderRecord [("empty", .bool empty), ("salt", .text (Bytes.hex salt)),
    ("verifier", .text (Bytes.hex verifier))]

def ofValue? (v : Value) : Option PasswordRecord := do
  return ⟨← v.field? "empty", ← v.field? "salt", ← v.field? "verifier"⟩

/-- Failures that make a file unreadable; others go on as they are. -/
def unreadable (what : Text) (e : Fault) : Fault :=
  if e.failure.isSystem || e.failure.isValue then StoreFault.explain ("Unreadable " ++ what) e
  else e

def malformed : Text := "Malformed password record"

def read (content : Except Fault Bytes) : Except Fault PasswordRecord :=
  match content.bind Json.ofFile with
  | .error e => .error (unreadable "password record" e)
  | .ok v =>
    match ofValue? v with
    | some r => .ok r
    | none => .error (Fault.keyStore malformed)

def bytesOf : Value → Except Fault Bytes
  | .text t =>
    match HexText.read t with
    | .ok bs => .ok bs
    | .error position => .error (Fault.value
        ("non-hexadecimal number found in fromhex() arg at position " ++ Text.decimal position))
  | .null => .error (Fault.type "fromhex() argument must be str, not None")
  | v => .error (Fault.type ("fromhex() argument must be str, not " ++ Text.ofString v.kindName))

def verifies (suite : Suite) (r : PasswordRecord) (password : Text) : Except Fault Bool := do
  let salt ← bytesOf r.salt
  let content ←
    match Utf8.encode password with
    | .ok content => pure content
    | .error f => throw (Fault.of (.encoding f))
  let verifier ← bytesOf r.verifier
  return suite.stretch salt content == verifier

end PasswordRecord

/-! ### Entries -/

namespace EntryRecord

def render (e : Entry) (importedAt : Instant) : Text :=
  Json.renderRecord [("name", .text e.name), ("key_id", e.keyId),
    ("certificate_pem", .text e.certificate.pem), ("imported_at", .text importedAt.spell)]

def missingAttribute (v : Value) (member : Text) : Fault :=
  Fault.plain .missingAttribute
    ("'" ++ Text.ofString v.kindName ++ "' object has no attribute '" ++ member ++ "'")

/-- Whether a record is for a name; only an object can be. -/
def isFor (name : Text) (v : Value) : Except Fault Bool :=
  match v with
  | .object _ =>
    match v.field? "name" with
    | some (.text t) => .ok (t == name)
    | _ => .ok false
  | v => .error (missingAttribute v "get")

def certificateOf (v : Value) : Except Fault X509.Certificate :=
  match v.field? "certificate_pem" with
  | none => .error (Fault.plain .key "certificate_pem")
  | some (.text t) =>
    match Utf8.encode t with
    | .error f => .error (Fault.of (.encoding f))
    | .ok _ => X509.Certificate.ofPem t
  | some v => .error (missingAttribute v "encode")

def entryOf (handle name : Text) (v : Value) : Except Fault Entry := do
  return ⟨handle, name, ← certificateOf v, (v.field? "key_id").getD .null⟩

/-- Reads one record of a name from the content of the file `file`; `none` where it is for
another name. -/
def read (file name : Text) (content : Except Fault Bytes) : Except Fault (Option Entry) :=
  match content.bind Json.ofFile with
  | .error e => .error (PasswordRecord.unreadable ("certificate entry " ++ file) e)
  | .ok v => do
    if ← isFor name v then
      match entryOf (Path.stem file) name v with
      | .ok e => return some e
      | .error e =>
        throw (if e.failure.isValue then
          StoreFault.explain ("Corrupt certificate in entry " ++ file) e else e)
    else return none

end EntryRecord

end CertKeeper
