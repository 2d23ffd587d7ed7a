import CertKeeper.Text

/-!
# UTF-8

Encoding and decoding of texts, with the place and the reason of the first failure.  Encoding
fails exactly at surrogates; decoding refuses overlong forms, surrogates and what lies above the
last code point.
-/

namespace CertKeeper

/-- A run of surrogates that has no encoding: `start` up to `stop`. -/
structure EncodeFault where
  text : Text
  start : Nat
  stop : Nat
deriving DecidableEq, Repr

inductive DecodeReason where
  | invalidStart
  | invalidContinuation
  | unexpectedEnd
deriving DecidableEq, Repr

/-- Bytes that encode nothing: `start` up to `stop`. -/
structure DecodeFault where
  bytes : Bytes
  start : Nat
  stop : Nat
  reason : DecodeReason
deriving DecidableEq, Repr

namespace Utf8

/-! ### Encoding -/

def encodePoint (c : CodePoint) : Bytes :=
  let n := c.val
  if n < 0x80 then [UInt8.ofNat n]
  else if n < 0x800 then [UInt8.ofNat (0xC0 + n / 64), UInt8.ofNat (0x80 + n % 64)]
  else if n < 0x10000 then
    [UInt8.ofNat (0xE0 + n / 4096), UInt8.ofNat (0x80 + n / 64 % 64), UInt8.ofNat (0x80 + n % 64)]
  else
    [UInt8.ofNat (0xF0 + n / 262144), UInt8.ofNat (0x80 + n / 4096 % 64),
      UInt8.ofNat (0x80 + n / 64 % 64), UInt8.ofNat (0x80 + n % 64)]

/-- Refuses a text that holds a surrogate, naming the first run of them. -/
def encode (t : Text) : Except EncodeFault Bytes :=
  let before := t.takeWhile (!CodePoint.isSurrogate ·)
  if before.length = t.length then .ok (t.flatMap encodePoint)
  else
    let run := (t.drop before.length).takeWhile CodePoint.isSurrogate
    .error ⟨t, before.length, before.length + run.length⟩

/-- The run of surrogates for which a text is no name of a file: it begins with the first one that
names have no byte for. -/
def foreign? (t : Text) : Option EncodeFault :=
  let before := t.takeWhile (!CodePoint.isForeign ·)
  if before.length = t.length then none
  else
    let run := (t.drop before.length).takeWhile CodePoint.isSurrogate
    some ⟨t, before.length, before.length + run.length⟩

theorem encode_eq_ok {t : Text} (h : ∀ c ∈ t, c.isSurrogate = false) :
    encode t = .ok (t.flatMap encodePoint) := by
  have : t.takeWhile (!CodePoint.isSurrogate ·) = t := by
    have all : ∀ c ∈ t, (!CodePoint.isSurrogate c) = true := fun c hc => by simp [h c hc]
    simpa using @List.takeWhile_append_of_pos _ (!CodePoint.isSurrogate ·) t [] all
  simp [encode, this]

/-- The bytes of a text without surrogates; a surrogate gets the bytes of its number. -/
def encodeLossy (t : Text) : Bytes := t.flatMap encodePoint

def ofString (s : String) : Bytes := encodeLossy s

/-! ### Decoding -/

/-- A character whose first bytes have been read: how many are missing, the range that the next
one must lie in, and the value so far. -/
structure Pending where
  start : Nat
  missing : Nat
  low : Nat
  high : Nat
  value : Nat

inductive Lead where
  | point (c : CodePoint)
  | pending (p : Pending)
  | invalid

def lead (position : Nat) (b : Byte) : Lead :=
  let n := b.toNat
  if h : n < 0x80 then .point ⟨n, by omega⟩
  else if n < 0xC2 then .invalid
  else if n < 0xE0 then .pending ⟨position, 1, 0x80, 0xC0, n - 0xC0⟩
  else if n = 0xE0 then .pending ⟨position, 2, 0xA0, 0xC0, 0⟩
  else if n = 0xED then .pending ⟨position, 2, 0x80, 0xA0, 13⟩
  else if n < 0xF0 then .pending ⟨position, 2, 0x80, 0xC0, n - 0xE0⟩
  else if n = 0xF0 then .pending ⟨position, 3, 0x90, 0xC0, 0⟩
  else if n < 0xF4 then .pending ⟨position, 3, 0x80, 0xC0, n - 0xF0⟩
  else if n = 0xF4 then .pending ⟨position, 3, 0x80, 0x90, 4⟩
  else .invalid

def decodeFrom (all : Bytes) (position : Nat) (pending : Option Pending) :
    Bytes → Except DecodeFault Text
  | [] =>
    match pending with
    | none => .ok []
    | some p => .error ⟨all, p.start, position, .unexpectedEnd⟩
  | b :: rest =>
    match pending with
    | none =>
      match lead position b with
      | .point c => (c :: ·) <$> decodeFrom all (position + 1) none rest
      | .pending p => decodeFrom all (position + 1) (some p) rest
      | .invalid => .error ⟨all, position, position + 1, .invalidStart⟩
    | some p =>
      if p.low ≤ b.toNat ∧ b.toNat < p.high then
        let value := p.value * 64 + (b.toNat - 0x80)
        if p.missing ≤ 1 then
          (CodePoint.ofNat value :: ·) <$> decodeFrom all (position + 1) none rest
        else
          decodeFrom all (position + 1) (some ⟨p.start, p.missing - 1, 0x80, 0xC0, value⟩) rest
      else .error ⟨all, p.start, position, .invalidContinuation⟩

def decode (bs : Bytes) : Except DecodeFault Text := decodeFrom bs 0 none bs

def decode? (bs : Bytes) : Option Text := (decode bs).toOption

end Utf8

end CertKeeper
