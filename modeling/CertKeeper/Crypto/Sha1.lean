import CertKeeper.Crypto.Sha2

/-!
# SHA-1

The digest that names a public key inside a certificate; old signatures use it too.
-/

namespace CertKeeper.Crypto

namespace Sha1

structure State where
  a : UInt32
  b : UInt32
  c : UInt32
  d : UInt32
  e : UInt32

def rotate (x : UInt32) (n : UInt32) : UInt32 := (x <<< n) ||| (x >>> (32 - n))

def extend (w : Array UInt32) (i : Nat) : Array UInt32 :=
  w.push (rotate
    (w.getD (i + 13) 0 ^^^ w.getD (i + 8) 0 ^^^ w.getD (i + 2) 0 ^^^ w.getD i 0) 1)

def mixer (i : Nat) (s : State) : UInt32 :=
  if i < 20 then ((s.b &&& s.c) ||| (~~~s.b &&& s.d)) + 0x5a827999
  else if i < 40 then (s.b ^^^ s.c ^^^ s.d) + 0x6ed9eba1
  else if i < 60 then ((s.b &&& s.c) ||| (s.b &&& s.d) ||| (s.c &&& s.d)) + 0x8f1bbcdc
  else (s.b ^^^ s.c ^^^ s.d) + 0xca62c1d6

def round (w : Array UInt32) (s : State) (i : Nat) : State :=
  ⟨rotate s.a 5 + mixer i s + s.e + w.getD i 0, s.a, rotate s.b 30, s.c, s.d⟩

def compress (s : State) (block : Bytes) : State :=
  let w := (List.range 64).foldl extend (Sha256.words block).toArray
  let t := (List.range 80).foldl (round w) s
  ⟨s.a + t.a, s.b + t.b, s.c + t.c, s.d + t.d, s.e + t.e⟩

def start : State := ⟨0x67452301, 0xefcdab89, 0x98badcfe, 0x10325476, 0xc3d2e1f0⟩

end Sha1

def sha1 (message : Bytes) : Bytes :=
  let s := (Bytes.chunks 64 (padMessage 64 8 message)).foldl Sha1.compress Sha1.start
  [s.a, s.b, s.c, s.d, s.e].flatMap Sha256.wordBytes

end CertKeeper.Crypto
