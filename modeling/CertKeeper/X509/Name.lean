import CertKeeper.Der
import CertKeeper.Fault

/-!
# Distinguished names

The names of subjects and issuers: what they are on the wire, what their attributes say, when two
of them are equal, and how they are spelled on one line.
-/

namespace CertKeeper.X509

def malformed (what : String) : Fault :=
  Fault.value (Text.ofString "error parsing asn1 value: " ++ Text.ofString what)

/-! ### Names on the wire -/

structure Attribute where
  oid : Oid
  tag : Byte
  content : Bytes
deriving DecidableEq, Repr

structure Name where
  groups : List (List Attribute)
deriving DecidableEq, Repr

def Attribute.bytes (a : Attribute) : Bytes :=
  Der.sequence [a.oid.bytes, Der.element a.tag a.content]

def Name.bytes (n : Name) : Bytes :=
  Der.sequence (n.groups.map fun g => Der.element Der.setTag (g.flatMap Attribute.bytes))

/-! ### Text types -/

def bitStringType : Byte := 0x03
def printableType : Byte := 0x13
def universalType : Byte := 0x1C
def bmpType : Byte := 0x1E

/-- The types that a name may use: a bit string, and texts in UTF-8, of digits, printable,
teletex, ASCII, visible, and in code units of four and of two bytes. -/
def textTypes : List Byte :=
  [bitStringType, 0x0C, 0x12, printableType, 0x14, 0x16, 0x1A, universalType, bmpType]

def isPrintableByte (b : Byte) : Bool :=
  let n := b.toNat
  (65 ≤ n && n ≤ 90) || (97 ≤ n && n ≤ 122) || (48 ≤ n && n ≤ 57) ||
    [32, 39, 40, 41, 43, 44, 45, 46, 47, 58, 61, 63].contains n

def decodeUniversal? : Bytes → Option Text
  | [] => some []
  | a :: b :: c :: d :: rest => do
    let n := Bytes.toNat [a, b, c, d]
    if h : n < 0x110000 then
      if 0xD800 ≤ n ∧ n < 0xE000 then none
      else do
        let tail ← decodeUniversal? rest
        return ⟨n, h⟩ :: tail
    else none
  | _ => none

/-- Code units of two bytes; halves of characters come in pairs. -/
def decodeBmp? (half : Option Nat) : Bytes → Option Text
  | [] => if half.isNone then some [] else none
  | a :: b :: rest =>
    let n := a.toNat * 256 + b.toNat
    match half with
    | some first =>
      if 0xDC00 ≤ n ∧ n < 0xE000 then do
        let tail ← decodeBmp? none rest
        return CodePoint.ofNat (0x10000 + (first - 0xD800) * 0x400 + (n - 0xDC00)) :: tail
      else none
    | none =>
      if 0xD800 ≤ n ∧ n < 0xDC00 then decodeBmp? (some n) rest
      else if 0xDC00 ≤ n ∧ n < 0xE000 then none
      else do
        let tail ← decodeBmp? none rest
        return CodePoint.ofNat n :: tail
  | _ => none

/-- What must hold of an attribute before a name with it is taken at all. -/
def Attribute.sound (a : Attribute) : Bool :=
  textTypes.contains a.tag &&
    (if a.tag = printableType then a.content.all isPrintableByte
    else if a.tag = universalType then (decodeUniversal? a.content).isSome
    else if a.tag = bmpType then (decodeBmp? none a.content).isSome
    else true)

/-! ### What attributes say -/

inductive Said where
  | text (t : Text)
  | bits (bs : Bytes)
deriving DecidableEq, Repr

/-- The identifier whose values are bit strings. -/
def uniqueIdentifier : Oid := ⟨[2, 5, 4, 45]⟩

def Attribute.said (a : Attribute) : Except Fault Said :=
  if a.tag = bitStringType then
    if a.oid = uniqueIdentifier then .ok (.bits a.content)
    else .error (Fault.type "oid must be X500_UNIQUE_IDENTIFIER for BitString type.")
  else
    let text :=
      if a.tag = universalType then decodeUniversal? a.content
      else if a.tag = bmpType then decodeBmp? none a.content
      else Utf8.decode? a.content
    match text with
    | some t => .ok (.text t)
    | none => .error (malformed "invalid text in a name")

abbrev Saying := Oid × Said

/-- The sayings of a group; none may occur twice. -/
def readGroup (g : List Attribute) : Except Fault (List Saying) := do
  let sayings ← g.mapM fun a => do return (a.oid, ← a.said)
  if sayings.isEmpty then .error (Fault.value "a relative distinguished name cannot be empty")
  else if sayings.eraseDups.length = sayings.length then return sayings
  else .error (Fault.value "duplicate attributes are not allowed")

def Name.read (n : Name) : Except Fault (List (List Saying)) := n.groups.mapM readGroup

def sameGroup (g h : List Saying) : Bool := g.all (h.contains ·) && h.all (g.contains ·)

/-- Names are equal group by group; the types of their texts do not count. -/
def sameName : List (List Saying) → List (List Saying) → Bool
  | [], [] => true
  | g :: gs, h :: hs => sameGroup g h && sameName gs hs
  | _, _ => false

theorem sameName_refl (n : List (List Saying)) : sameName n n = true := by
  induction n with
  | nil => rfl
  | cons g gs ih => simp [sameName, sameGroup, ih]

/-! ### Spelling on one line -/

def commonName : Oid := ⟨[2, 5, 4, 3]⟩

def shortNames : List (Oid × String) := [
  (commonName, "CN"), (⟨[2, 5, 4, 7]⟩, "L"), (⟨[2, 5, 4, 8]⟩, "ST"), (⟨[2, 5, 4, 10]⟩, "O"),
  (⟨[2, 5, 4, 11]⟩, "OU"), (⟨[2, 5, 4, 6]⟩, "C"), (⟨[2, 5, 4, 9]⟩, "STREET"),
  (⟨[0, 9, 2342, 19200300, 100, 1, 25]⟩, "DC"), (⟨[0, 9, 2342, 19200300, 100, 1, 1]⟩, "UID")]

def spellOid (o : Oid) : Text :=
  match shortNames.find? fun s => s.1 = o with
  | some (_, short) => short
  | none => o.dotted

/-- A backslash goes before the signs that have a meaning in a name. -/
def escapeSign (c : CodePoint) : Text :=
  let slash := CodePoint.ofChar '\\'
  if c.val = 0 then "\\00"
  else if (Text.ofString "\\\"+,;<>").contains c then [slash, c]
  else [c]

/-- The text of an attribute, with blanks at its ends and a leading number sign marked. -/
def escapeText (t : Text) : Text :=
  let slash := CodePoint.ofChar '\\'
  let blank := CodePoint.ofChar ' '
  let body := t.flatMap escapeSign
  let marked :=
    match t.head? with
    | none => body
    | some c =>
      if c = CodePoint.ofChar '#' ∨ (c = blank ∧ 1 < body.length) then slash :: body else body
  if marked.getLast? = some blank then marked.dropLast ++ [slash, blank] else marked

def spellSaying : Saying → Text
  | (oid, .text t) => spellOid oid ++ "=" ++ escapeText t
  | (oid, .bits bs) =>
    spellOid oid ++ "=" ++ (if bs.isEmpty then ([] : Text) else "#" ++ Text.ofString (Bytes.hex bs))

/-- Groups from last to first, their members in their own order. -/
def spellName (n : List (List Saying)) : Text :=
  Text.join "," (n.reverse.map fun g => Text.join "+" (g.map spellSaying))

/-! ### Reading from the wire -/

def Attribute.ofElement? (e : Der.Element) : Option Attribute := do
  if e.tag ≠ Der.sequenceTag then none
  else
    match ← Der.readAll? e.content with
    | [oid, value] =>
      let a : Attribute := ⟨← Oid.ofElement? oid, value.tag, value.content⟩
      if a.sound then return a else none
    | _ => none

def inSetOrder : List Bytes → Bool
  | a :: b :: rest => decide (a ≤ b) && inSetOrder (b :: rest)
  | _ => true

def groupOfElement? (e : Der.Element) : Option (List Attribute) := do
  if e.tag ≠ Der.setTag then none
  else
    let members ← Der.readAll? e.content
    if inSetOrder (members.map Der.Element.bytes) then members.mapM Attribute.ofElement? else none

def Name.ofElement? (e : Der.Element) : Option Name := do
  if e.tag ≠ Der.sequenceTag then none
  else return ⟨← (← Der.readAll? e.content).mapM groupOfElement?⟩

end CertKeeper.X509
