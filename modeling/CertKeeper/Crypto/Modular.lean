/-!
# Arithmetic modulo a number

Powers, inverses and square roots modulo primes, as the public-key methods need them.
-/

namespace CertKeeper.Crypto

def powMod (base exponent m : Nat) : Nat :=
  go (exponent.log2 + 1) (base % m) exponent (1 % m)
where
  go : Nat → Nat → Nat → Nat → Nat
    | 0, _, _, acc => acc
    | bits + 1, square, exponent, acc =>
      go bits (square * square % m) (exponent / 2)
        (if exponent % 2 = 1 then acc * square % m else acc)

def invMod (a p : Nat) : Nat := powMod a (p - 2) p

def subMod (a b m : Nat) : Nat := (a + (m - b % m)) % m

theorem subMod_lt (a b : Nat) {m : Nat} (h : 0 < m) : subMod a b m < m := Nat.mod_lt _ h

/-! ### Square roots -/

/-- Splits off the factors of two: an odd number and their count. -/
def oddPart : Nat → Nat → Nat → Nat × Nat
  | 0, n, twos => (n, twos)
  | fuel + 1, n, twos => if n ≠ 0 ∧ n % 2 = 0 then oddPart fuel (n / 2) (twos + 1) else (n, twos)

def nonSquare (p : Nat) : Nat :=
  ((List.range 200).find? fun z => 2 ≤ z ∧ powMod z ((p - 1) / 2) p = p - 1).getD 2

def squaringsToOne (p : Nat) : Nat → Nat → Nat
  | 0, _ => 0
  | fuel + 1, t => if t % p = 1 then 0 else squaringsToOne p fuel (t * t % p) + 1

/-- Improves a root until its defect is one. -/
def refineRoot (p : Nat) : Nat → Nat → Nat → Nat → Nat → Nat
  | 0, _, _, _, root => root
  | fuel + 1, count, c, defect, root =>
    if defect % p = 1 then root
    else
      let i := squaringsToOne p count defect
      let b := powMod c (Nat.pow 2 (count - i - 1)) p
      refineRoot p fuel i (b * b % p) (defect * (b * b % p) % p) (root * b % p)

/-- A square root modulo an odd prime if the number is a square. -/
def rootCandidate (a p : Nat) : Nat :=
  if p % 4 = 3 then powMod a ((p + 1) / 4) p
  else
    let (odd, twos) := oddPart p.log2 (p - 1) 0
    refineRoot p (twos + 1) twos (powMod (nonSquare p) odd p) (powMod a odd p)
      (powMod a ((odd + 1) / 2) p)

def sqrtMod? (a p : Nat) : Option Nat :=
  let root := rootCandidate (a % p) p
  if root * root % p = a % p then some root else none

theorem sqrtMod?_eq_some {a p r : Nat} (h : sqrtMod? a p = some r) : r * r % p = a % p := by
  simp only [sqrtMod?, Option.ite_none_right_eq_some, Option.some.injEq] at h
  obtain ⟨square, rfl⟩ := h
  exact square

end CertKeeper.Crypto
