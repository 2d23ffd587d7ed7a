import CertKeeper.Text

/-!
# Distinguished encoding

Elements of one-byte tag, shortest length and content, read strictly and written back byte for
byte; and the whole numbers, bit strings and object identifiers inside them.  Main statement:
what is read as an element is the spelling of that element.
-/

namespace CertKeeper

namespace Der

/-! ### Elements -/

structure Element where
  tag : Byte
  content : Bytes
deriving DecidableEq, Repr

/-- The shortest spelling of a length. -/
def lengthBytes (n : Nat) : Bytes :=
  if n < 128 then [UInt8.ofNat n]
  else UInt8.ofNat (128 + (Bytes.minimal n).length) :: Bytes.minimal n

def Element.bytes (e : Element) : Bytes := e.tag :: lengthBytes e.content.length ++ e.content

/-- Reads a length; a spelling that is not the shortest is refused. -/
def readLength? : Bytes → Option (Nat × Bytes)
  | [] => none
  | b :: rest =>
    if b < 128 then some (b.toNat, rest)
    else
      let count := b.toNat - 128
      let n := Bytes.toNat (rest.take count)
      if 1 ≤ count ∧ count ≤ 4 ∧ lengthBytes n = b :: rest.take count then
        some (n, rest.drop count)
      else none

/-- Reads one element and gives what follows it; tags of several bytes are refused. -/
def read? : Bytes → Option (Element × Bytes)
  | [] => none
  | tag :: rest =>
    if tag &&& 0x1f = 0x1f then none
    else do
      let (n, rest) ← readLength? rest
      if n ≤ rest.length then return (⟨tag, rest.take n⟩, rest.drop n) else none

theorem readLength?_spells {bs rest : Bytes} {n : Nat} (h : readLength? bs = some (n, rest)) :
    bs = lengthBytes n ++ rest := by
  cases bs with
  | nil => simp [readLength?] at h
  | cons b tail =>
    rw [readLength?] at h
    split at h
    · next small =>
      cases h
      have lt : b.toNat < 128 := by simpa [UInt8.lt_iff_toNat_lt] using small
      simp [lengthBytes, lt]
    · simp only [Option.ite_none_right_eq_some, Option.some.injEq, Prod.mk.injEq] at h
      obtain ⟨⟨_, _, spelled⟩, rfl, rfl⟩ := h
      rw [spelled, List.cons_append, List.take_append_drop]

/-- Reading loses nothing: the element's spelling comes first, then the rest. -/
theorem read?_spells {bs rest : Bytes} {e : Element} (h : read? bs = some (e, rest)) :
    bs = e.bytes ++ rest := by
  cases bs with
  | nil => simp [read?] at h
  | cons tag tail =>
    simp only [read?] at h
    split at h
    · cases h
    · cases hl : readLength? tail with
      | none => simp [hl] at h
      | some p =>
        obtain ⟨n, after⟩ := p
        simp only [hl, Option.bind_eq_bind, Option.bind_some] at h
        split at h
        · next fits =>
          simp only [Option.pure_def, Option.some.injEq, Prod.mk.injEq] at h
          obtain ⟨rfl, rfl⟩ := h
          have spells := readLength?_spells hl
          simp only [Element.bytes, List.length_take, Nat.min_eq_left fits]
          rw [spells]
          simp
        · cases h

theorem read?_shorter {bs rest : Bytes} {e : Element} (h : read? bs = some (e, rest)) :
    rest.length < bs.length := by
  rw [read?_spells h]
  simp [Element.bytes]
  omega

def readAll? (bs : Bytes) : Option (List Element) :=
  match _h : read? bs with
  | none => if bs.isEmpty then some [] else none
  | some (e, rest) => (readAll? rest).map (e :: ·)
termination_by bs.length
decreasing_by exact read?_shorter (by assumption)

def single? (tag : Byte) (bs : Bytes) : Option Bytes :=
  match read? bs with
  | some (e, []) => if e.tag = tag then some e.content else none
  | _ => none

def element (tag : Byte) (content : Bytes) : Bytes := Element.bytes ⟨tag, content⟩

/-! ### Tags -/

def integerTag : Byte := 0x02
def bitStringTag : Byte := 0x03
def octetStringTag : Byte := 0x04
def nullTag : Byte := 0x05
def oidTag : Byte := 0x06
def sequenceTag : Byte := 0x30
def setTag : Byte := 0x31

def sequence (parts : List Bytes) : Bytes := element sequenceTag parts.flatten

def null : Bytes := element nullTag []

def octetString (bs : Bytes) : Bytes := element octetStringTag bs

/-! ### Whole numbers -/

/-- The shortest two's complement spelling of a number that is not negative. -/
def natContent (n : Nat) : Bytes :=
  let bs := Bytes.minimal n
  match bs with
  | [] => [0]
  | b :: _ => if b < 128 then bs else 0 :: bs

def natural (n : Nat) : Bytes := element integerTag (natContent n)

/-- Reads a two's complement number; a spelling that is not the shortest is refused. -/
def readInteger? : Bytes → Option Int
  | [] => none
  | b :: rest =>
    let redundant :=
      match rest with
      | [] => false
      | c :: _ => (b = 0 ∧ c < 128) ∨ (b = 0xFF ∧ 128 ≤ c)
    if redundant then none
    else if b < 128 then some (Bytes.toNat (b :: rest))
    else some ((Bytes.toNat (b :: rest) : Int) - Int.pow 256 (rest.length + 1))

def readNatural? (bs : Bytes) : Option Nat := do
  let i ← readInteger? bs
  if 0 ≤ i then return i.toNat else none

/-! ### Bit strings -/

/-- The bytes of a bit string and how many of the last bits do not count; those must be zero. -/
def readBits? : Bytes → Option (Nat × Bytes)
  | [] => none
  | unused :: bs =>
    let n := unused.toNat
    if 7 < n ∨ (0 < n ∧ bs.isEmpty) then none
    else if (bs.getLastD 0).toNat % Nat.pow 2 n = 0 then some (n, bs)
    else none

def bitString (bs : Bytes) : Bytes := element bitStringTag (0 :: bs)

end Der

/-! ### Object identifiers -/

/-- A place in the tree of registered objects, by its arcs. -/
structure Oid where
  arcs : List Nat
deriving DecidableEq, Repr

namespace Oid

/-- Digits to the base 128, the topmost bit set on all but the last. -/
def arcBytes (n : Nat) : Bytes :=
  let ds := Text.digits 128 n
  ds.dropLast.map (fun d => UInt8.ofNat (128 + d)) ++ [UInt8.ofNat (ds.getLastD 0)]

/-- The first two arcs share one number. -/
def content (o : Oid) : Bytes :=
  match o.arcs with
  | a :: b :: rest => arcBytes (a * 40 + b) ++ rest.flatMap arcBytes
  | _ => []

def bytes (o : Oid) : Bytes := Der.element Der.oidTag o.content

/-- Reads the numbers of a content; each must end and start with a digit that counts. -/
def readNumbers? (current : Option Nat) : Bytes → Option (List Nat)
  | [] => if current.isNone then some [] else none
  | b :: rest =>
    let n := b.toNat
    if current.isNone ∧ n = 128 then none
    else
      let value := current.getD 0 * 128 + n % 128
      if 0x100000000 ≤ value then none
      else if 128 ≤ n then readNumbers? (some value) rest
      else (readNumbers? none rest).map (value :: ·)

def ofContent? (bs : Bytes) : Option Oid :=
  if 63 < bs.length then none
  else
    match readNumbers? none bs with
    | some (first :: rest) =>
      let a := min (first / 40) 2
      some ⟨a :: (first - a * 40) :: rest⟩
    | _ => none

def ofElement? (e : Der.Element) : Option Oid :=
  if e.tag = Der.oidTag then ofContent? e.content else none

def dotted (o : Oid) : Text := Text.join "." (o.arcs.map Text.decimal)

end Oid

end CertKeeper
