import CertKeeper.Text.Utf8

/-!
# Reading back UTF-8

Main statement: a text without surrogates is read back from its bytes.
-/

namespace CertKeeper.Utf8

theorem toNat_ofNat {n : Nat} (h : n < 256) : (UInt8.ofNat n).toNat = n := by
  rw [UInt8.toNat_ofNat']
  omega

/-! ### One character -/

theorem decodeFrom_more {all rest : Bytes} {position start missing low high value d : Nat}
    (byte : d < 64) (least : low ≤ 0x80 + d) (most : 0x80 + d < high) :
    decodeFrom all position (some ⟨start, missing + 2, low, high, value⟩)
        (UInt8.ofNat (0x80 + d) :: rest)
      = decodeFrom all (position + 1)
        (some ⟨start, missing + 1, 0x80, 0xC0, value * 64 + d⟩) rest := by
  have more : ¬ missing + 2 ≤ 1 := by omega
  rw [decodeFrom]
  simp only [toNat_ofNat (show 0x80 + d < 256 by omega)]
  rw [if_pos ⟨least, most⟩, if_neg more, Nat.add_sub_cancel_left]
  rfl

theorem decodeFrom_last {all rest : Bytes} {position start low high value d : Nat} (c : CodePoint)
    (byte : d < 64) (least : low ≤ 0x80 + d) (most : 0x80 + d < high)
    (whole : value * 64 + d = c.val) :
    decodeFrom all position (some ⟨start, 1, low, high, value⟩) (UInt8.ofNat (0x80 + d) :: rest)
      = (c :: ·) <$> decodeFrom all (position + 1) none rest := by
  have same : CodePoint.ofNat c.val = c := by rw [CodePoint.ofNat, dif_pos c.isLt]
  rw [decodeFrom]
  simp only [toNat_ofNat (show 0x80 + d < 256 by omega)]
  rw [if_pos ⟨least, most⟩, if_pos (Nat.le_refl 1), Nat.add_sub_cancel_left, whole, same]

theorem decodeFrom_lead {all rest : Bytes} {position : Nat} {b : Byte} {p : Pending}
    (h : lead position b = .pending p) : decodeFrom all position none (b :: rest)
      = decodeFrom all (position + 1) (some p) rest := by
  rw [decodeFrom]
  simp only [h]

theorem lead_two {n position : Nat} (low : 0x80 ≤ n) (high : n < 0x800) :
    lead position (UInt8.ofNat (0xC0 + n / 64)) = .pending ⟨position, 1, 0x80, 0xC0, n / 64⟩ := by
  have byte := @toNat_ofNat (0xC0 + n / 64) (by omega)
  simp only [lead, byte]
  rw [dif_neg (by omega), if_neg (by omega), if_pos (by omega)]
  simp only [Nat.add_sub_cancel_left]

theorem lead_three {n position : Nat} (low : 0x800 ≤ n) (high : n < 0x10000)
    (plain : ¬ (0xD800 ≤ n ∧ n < 0xE000)) : ∃ least most,
    lead position (UInt8.ofNat (0xE0 + n / 4096))
        = .pending ⟨position, 2, least, most, n / 4096⟩ ∧
      least ≤ 0x80 + n / 64 % 64 ∧ 0x80 + n / 64 % 64 < most := by
  have byte := @toNat_ofNat (0xE0 + n / 4096) (by omega)
  simp only [lead, byte]
  rw [dif_neg (by omega), if_neg (by omega), if_neg (by omega)]
  by_cases first : n / 4096 = 0
  · rw [if_pos (by omega), first]
    exact ⟨_, _, rfl, by omega, by omega⟩
  rw [if_neg (by omega)]
  by_cases middle : n / 4096 = 13
  · rw [if_pos (by omega), middle]
    exact ⟨_, _, rfl, by omega, by omega⟩
  rw [if_neg (by omega), if_pos (by omega)]
  simp only [Nat.add_sub_cancel_left]
  exact ⟨_, _, rfl, by omega, by omega⟩

theorem lead_four {n position : Nat} (low : 0x10000 ≤ n) (high : n < 0x110000) : ∃ least most,
    lead position (UInt8.ofNat (0xF0 + n / 262144))
        = .pending ⟨position, 3, least, most, n / 262144⟩ ∧
      least ≤ 0x80 + n / 4096 % 64 ∧ 0x80 + n / 4096 % 64 < most := by
  have byte := @toNat_ofNat (0xF0 + n / 262144) (by omega)
  simp only [lead, byte]
  rw [dif_neg (by omega), if_neg (by omega), if_neg (by omega), if_neg (by omega),
    if_neg (by omega), if_neg (by omega)]
  by_cases first : n / 262144 = 0
  · rw [if_pos (by omega), first]
    exact ⟨_, _, rfl, by omega, by omega⟩
  rw [if_neg (by omega)]
  by_cases last : n / 262144 = 4
  · rw [if_neg (by omega), if_pos (by omega), last]
    exact ⟨_, _, rfl, by omega, by omega⟩
  rw [if_pos (by omega)]
  simp only [Nat.add_sub_cancel_left]
  exact ⟨_, _, rfl, by omega, by omega⟩

theorem decodeFrom_encodePoint {all rest : Bytes} (position : Nat) {c : CodePoint}
    (h : c.isSurrogate = false) : ∃ next, decodeFrom all position none (encodePoint c ++ rest)
      = (c :: ·) <$> decodeFrom all next none rest := by
  have plain : ¬ (0xD800 ≤ c.val ∧ c.val < 0xE000) := by
    intro inside
    simp only [CodePoint.isSurrogate, inside, decide_true, Bool.and_true] at h
    cases h
  have bound := c.isLt
  unfold encodePoint
  simp only
  split
  next one =>
    have byte := @toNat_ofNat c.val (by omega)
    have point : lead position (UInt8.ofNat c.val) = .point c := by
      simp only [lead, byte, one, dif_pos]
    refine ⟨position + 1, ?_⟩
    simp only [List.cons_append, List.nil_append, decodeFrom, point]
  split
  next two =>
    refine ⟨position + 2, ?_⟩
    rw [List.cons_append, decodeFrom_lead (lead_two (by omega) two), List.cons_append,
      List.nil_append, decodeFrom_last c (by omega) (by omega) (by omega) (by omega)]
  split
  next three =>
    obtain ⟨least, most, begun, low, high⟩ := @lead_three _ position (by omega) three plain
    refine ⟨position + 3, ?_⟩
    rw [List.cons_append, decodeFrom_lead begun, List.cons_append,
      decodeFrom_more (by omega) low high, List.cons_append, List.nil_append,
      decodeFrom_last c (by omega) (by omega) (by omega) (by omega)]
  next four =>
    obtain ⟨least, most, begun, low, high⟩ := @lead_four _ position (by omega) bound
    refine ⟨position + 4, ?_⟩
    rw [List.cons_append, decodeFrom_lead begun, List.cons_append,
      decodeFrom_more (by omega) low high, List.cons_append,
      decodeFrom_more (by omega) (by omega) (by omega), List.cons_append, List.nil_append,
      decodeFrom_last c (by omega) (by omega) (by omega) (by omega)]

/-! ### Texts -/

def pointWidth (c : CodePoint) : Nat :=
  if c.val < 0x80 then 1 else if c.val < 0x800 then 2 else if c.val < 0x10000 then 3 else 4

def width : Text → Nat
  | [] => 0
  | c :: t => pointWidth c + width t

theorem length_encodePoint (c : CodePoint) : (encodePoint c).length = pointWidth c := by
  unfold encodePoint pointWidth
  simp only
  split
  · rfl
  split
  · rfl
  split <;> rfl

theorem pointWidth_pos (c : CodePoint) : 1 ≤ pointWidth c := by
  unfold pointWidth
  split
  · omega
  split
  · omega
  split <;> omega

theorem length_encodeLossy (t : Text) : (encodeLossy t).length = width t := by
  induction t with
  | nil => rfl
  | cons c t ih =>
    rw [encodeLossy, List.flatMap_cons, List.length_append, length_encodePoint]
    show _ + (encodeLossy t).length = _
    rw [ih, width]

theorem length_le_encodeLossy (t : Text) : t.length ≤ (encodeLossy t).length := by
  rw [length_encodeLossy]
  induction t with
  | nil => exact Nat.le_refl 0
  | cons c t ih =>
    have one := pointWidth_pos c
    rw [width, List.length_cons]
    omega

theorem decodeFrom_encodeLossy {all : Bytes} {t : Text} (h : ∀ c ∈ t, c.isSurrogate = false)
    (position : Nat) : decodeFrom all position none (encodeLossy t) = .ok t := by
  induction t generalizing position with
  | nil => rfl
  | cons c t ih =>
    obtain ⟨next, first⟩ := @decodeFrom_encodePoint all (encodeLossy t) position c
      (h c List.mem_cons_self)
    rw [encodeLossy, List.flatMap_cons]
    change decodeFrom all position none (encodePoint c ++ encodeLossy t) = _
    rw [first, ih (fun d hd => h d (List.mem_cons_of_mem _ hd)) next]
    rfl

/-- A text that can be encoded is read back from its bytes. -/
theorem decode_of_encode {t : Text} {bs : Bytes} (h : ∀ c ∈ t, c.isSurrogate = false)
    (encoded : encode t = .ok bs) : decode bs = .ok t := by
  rw [encode_eq_ok h] at encoded
  cases encoded
  exact decodeFrom_encodeLossy h 0

end CertKeeper.Utf8
