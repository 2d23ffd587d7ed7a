import CertKeeper.Proofs.Encoding.Json
import CertKeeper.Files.Tree
import Mathlib.Algebra.Group.Int.Defs
import Mathlib.Algebra.Group.Nat.Defs

/-!
# Decimal numbers

Main statements: different numbers have different spellings, and spellings that are filled up with
zeros to one width are in the order of their numbers.
-/

namespace CertKeeper.Text

/-! ### Digits -/

theorem digits_lt {base n : Nat} (two : 2 ≤ base) : ∀ d ∈ digits base n, d < base := by
  fun_induction digits base n with
  | case1 n h =>
    intro d hd
    rw [List.mem_singleton.mp hd]
    omega
  | case2 n h ih =>
    intro d hd
    rcases List.mem_append.mp hd with hd | hd
    · exact ih d hd
    · rw [List.mem_singleton.mp hd]
      exact Nat.mod_lt _ (by omega)

theorem digits_injective {base m n : Nat} (h : digits base m = digits base n) : m = n := by
  rw [← ofDigits_digits base m, h, ofDigits_digits]

theorem length_digits_le {base n k : Nat} (two : 2 ≤ base) (h : n < base ^ (k + 1)) :
    (digits base n).length ≤ k + 1 := by
  induction k generalizing n with
  | zero =>
    rw [digits_of_lt (by simpa using h)]
    exact Nat.le_refl 1
  | succ k ih =>
    by_cases small : n < base
    · rw [digits_of_lt small]
      simp
    · have less : n / base < base ^ (k + 1) := by
        rw [Nat.div_lt_iff_lt_mul (by omega), ← Nat.pow_succ]
        exact h
      rw [digits_of_le two (by omega), List.length_append]
      have rest := ih less
      simp only [List.length_cons, List.length_nil]
      omega

theorem val_hexPoint {d : Nat} (h : d < 10) : (hexPoint d).val = 48 + d := by
  have all : ∀ m : Fin 10, (hexPoint m.val).val = 48 + m.val := by decide +kernel
  exact all ⟨d, h⟩

theorem decimal_eq (n : Nat) : decimal n = (digits 10 n).map hexPoint := rfl

theorem map_hexPoint_injective {ds es : List Nat} (hd : ∀ d ∈ ds, d < 10) (he : ∀ e ∈ es, e < 10)
    (h : ds.map hexPoint = es.map hexPoint) : ds = es := by
  induction ds generalizing es with
  | nil =>
    cases es with
    | nil => rfl
    | cons e es => cases h
  | cons d ds ih =>
    cases es with
    | nil => cases h
    | cons e es =>
      rw [List.map_cons, List.map_cons, List.cons.injEq] at h
      have first := congrArg Fin.val h.1
      rw [val_hexPoint (hd d List.mem_cons_self), val_hexPoint (he e List.mem_cons_self)] at first
      have rest := ih (fun x hx => hd x (List.mem_cons_of_mem _ hx))
        (fun x hx => he x (List.mem_cons_of_mem _ hx)) h.2
      rw [rest, show d = e by omega]

theorem decimal_injective {m n : Nat} (h : decimal m = decimal n) : m = n := by
  rw [decimal_eq, decimal_eq] at h
  exact digits_injective
    (map_hexPoint_injective (digits_lt (by decide)) (digits_lt (by decide)) h)

/-! ### One width -/

def padded (width n : Nat) : List Nat :=
  List.replicate (width - (digits 10 n).length) 0 ++ digits 10 n

theorem padLeft_decimal (width n : Nat) :
    padLeft width '0' (decimal n) = (padded width n).map hexPoint := by
  rw [padLeft, padded, List.map_append, List.map_replicate, decimal_eq, List.length_map]
  rfl

theorem length_padded {width n : Nat} (h : n < 10 ^ (width + 1)) :
    (padded (width + 1) n).length = width + 1 := by
  have short := length_digits_le (by decide) h
  rw [padded, List.length_append, List.length_replicate]
  omega

theorem padded_lt (width n : Nat) : ∀ d ∈ padded width n, d < 10 := by
  intro d hd
  rcases List.mem_append.mp hd with hd | hd
  · rw [(List.mem_replicate.mp hd).2]
    decide
  · exact digits_lt (by decide) d hd

theorem ofDigits_cons (base d : Nat) (ds : List Nat) :
    ofDigits base (d :: ds) = d * base ^ ds.length + ofDigits base ds := by
  have shifted : ∀ (es : List Nat) (acc : Nat),
      es.foldl (fun n d => n * base + d) acc = acc * base ^ es.length + ofDigits base es := by
    intro es
    induction es with
    | nil => intro acc; simp [ofDigits]
    | cons e es ih =>
      intro acc
      have step := ih (acc * base + e)
      have first := ih (0 * base + e)
      simp only [ofDigits, List.foldl_cons, List.length_cons] at step first ⊢
      rw [step, first, Nat.pow_succ, Nat.zero_mul, Nat.zero_add, Nat.add_mul, Nat.mul_assoc,
        Nat.mul_comm base, Nat.add_assoc]
  have whole := shifted ds (0 * base + d)
  rw [Nat.zero_mul, Nat.zero_add] at whole
  simpa [ofDigits] using whole

theorem ofDigits_lt {base : Nat} {ds : List Nat} (h : ∀ d ∈ ds, d < base) :
    ofDigits base ds < base ^ ds.length := by
  induction ds with
  | nil => simp [ofDigits]
  | cons d ds ih =>
    have first := h d List.mem_cons_self
    have rest := ih fun x hx => h x (List.mem_cons_of_mem _ hx)
    have room : (d + 1) * base ^ ds.length ≤ base * base ^ ds.length :=
      Nat.mul_le_mul_right _ first
    rw [ofDigits_cons, List.length_cons, Nat.pow_succ, Nat.mul_comm _ base]
    rw [Nat.add_mul, Nat.one_mul] at room
    omega

theorem ofDigits_zeros (base k : Nat) (ds : List Nat) :
    ofDigits base (List.replicate k 0 ++ ds) = ofDigits base ds := by
  induction k with
  | zero => rfl
  | succ k ih =>
    rw [List.replicate_succ, List.cons_append, ofDigits_cons, ih, Nat.zero_mul, Nat.zero_add]

theorem ofDigits_padded (width n : Nat) : ofDigits 10 (padded width n) = n := by
  rw [padded, ofDigits_zeros, ofDigits_digits]

theorem parted_of_ofDigits_lt {base : Nat} {ds es : List Nat} (length : ds.length = es.length)
    (he : ∀ e ∈ es, e < base) (h : ofDigits base ds < ofDigits base es) :
    ∃ p d e s t, ds = p ++ d :: s ∧ es = p ++ e :: t ∧ d < e := by
  induction ds generalizing es with
  | nil =>
    cases es with
    | nil => exact absurd h (Nat.lt_irrefl _)
    | cons e es => cases length
  | cons d ds ih =>
    cases es with
    | nil => cases length
    | cons e es =>
      rw [List.length_cons, List.length_cons, Nat.succ_inj] at length
      have rest : ∀ x ∈ es, x < base := fun x hx => he x (List.mem_cons_of_mem _ hx)
      rw [ofDigits_cons, ofDigits_cons, length] at h
      rcases Nat.lt_trichotomy d e with less | rfl | more
      · exact ⟨[], d, e, ds, es, rfl, rfl, less⟩
      · obtain ⟨p, d', e', s, t, rfl, rfl, less⟩ := ih length rest (by omega)
        exact ⟨d :: p, d', e', s, t, rfl, rfl, less⟩
      · -- A greater first digit outweighs whatever follows.
        exfalso
        have low := ofDigits_lt rest
        have room : (e + 1) * base ^ es.length ≤ d * base ^ es.length :=
          Nat.mul_le_mul_right _ more
        rw [Nat.add_mul, Nat.one_mul] at room
        omega

theorem padLeft_parted {width m n : Nat} (hm : m < 10 ^ (width + 1)) (hn : n < 10 ^ (width + 1))
    (less : m < n) :
    ∃ (p : Text) (x y : CodePoint) (s t : Text), padLeft (width + 1) '0' (decimal m) = p ++ x :: s ∧
      padLeft (width + 1) '0' (decimal n) = p ++ y :: t ∧ x.val < y.val := by
  have lengths : (padded (width + 1) m).length = (padded (width + 1) n).length := by
    rw [length_padded hm, length_padded hn]
  obtain ⟨p, d, e, s, t, left, right, smaller⟩ := parted_of_ofDigits_lt lengths (padded_lt _ _)
    (by rw [ofDigits_padded, ofDigits_padded]; exact less)
  have digit : d < 10 :=
    padded_lt (width + 1) m d (left ▸ List.mem_append_right _ List.mem_cons_self)
  have digit' : e < 10 :=
    padded_lt (width + 1) n e (right ▸ List.mem_append_right _ List.mem_cons_self)
  refine ⟨p.map hexPoint, hexPoint d, hexPoint e, s.map hexPoint, t.map hexPoint, ?_, ?_, ?_⟩
  · rw [padLeft_decimal, left, List.map_append, List.map_cons]
  · rw [padLeft_decimal, right, List.map_append, List.map_cons]
  · rw [val_hexPoint digit, val_hexPoint digit']
    omega

end CertKeeper.Text
