import CertKeeper.Action
import CertKeeper.Instant
import CertKeeper.Suite

/-!
# Surroundings

What a store takes from the machine it runs on: the clock, a source of random bytes, a source of
fresh private keys, a counter of ticks, and a word of its own for the files it makes.
-/

namespace CertKeeper

inductive KeyDraw where
  | scalar (n : Nat)
  | refused (e : Fault)
deriving DecidableEq, Repr

structure Surroundings where
  now : Instant
  /-- Random bytes, over and over again. -/
  random : Bytes
  drawn : Nat
  keys : List KeyDraw
  /-- The scalar that is drawn when no outcome is left. -/
  nextScalar : Nat
  ticks : Int
  /-- A word that no other process uses for its files. -/
  token : Text
deriving DecidableEq, Repr

namespace Surroundings

def byteAt (s : Surroundings) (i : Nat) : Byte := s.random.getD (i % s.random.length) 0

/-- Draws random bytes; a negative number of them is refused. -/
def draw (length : Int) (s : Surroundings) : Except Fault Bytes × Surroundings :=
  if length < 0 then (.error (Fault.value "negative argument not allowed"), s)
  else
    let n := length.toNat
    (.ok ((List.range n).map fun i => s.byteAt (s.drawn + i)), { s with drawn := s.drawn + n })

def drawKey (c : Crypto.Curve) (s : Surroundings) : Except Fault PrivateKey × Surroundings :=
  match s.keys with
  | .scalar n :: rest => (.ok ⟨c, n⟩, { s with keys := rest })
  | .refused e :: rest => (.error e, { s with keys := rest })
  | [] => (.ok ⟨c, s.nextScalar⟩, { s with nextScalar := s.nextScalar + 1 })

def tick (s : Surroundings) : Int × Surroundings := (s.ticks, { s with ticks := s.ticks + 1 })

theorem draw_length {length : Int} {s s' : Surroundings} {bs : Bytes}
    (h : s.draw length = (.ok bs, s')) : (bs.length : Int) = length := by
  unfold draw at h
  split at h
  · cases h
  · cases h; simp; omega

end Surroundings

end CertKeeper
