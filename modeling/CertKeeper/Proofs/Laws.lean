import CertKeeper.Proofs.Encoding.Record
import CertKeeper.Proofs.Encoding.Utf8
import CertKeeper.Suite
import Mathlib.Algebra.Group.Int.Defs
import Mathlib.Algebra.Group.Nat.Defs

/-!
# What is asked of a cryptographic suite

The laws that the operations on secrets are relied on for, one by one.
-/

namespace CertKeeper

/-- A scalar that has a point. -/
def PrivateKey.Valid (k : PrivateKey) : Prop := 1 ≤ k.scalar ∧ k.scalar < k.curve.parameters.n

namespace Suite

def OnCurve (s : Suite) : Prop :=
  ∀ k : PrivateKey, k.Valid → ∃ q, s.publicKey k = .curve k.curve q ∧ k.curve.holds q = true

/-- Deciphering undoes enciphering, which makes a message longer by at most a block. -/
def Deciphers (s : Suite) : Prop :=
  ∀ (how : Sealing) (password message : Bytes),
    s.decipher? how password (s.encipher how password message) = some message ∧
      (s.encipher how password message).length ≤ message.length + 16

/-- Signatures verify against the public half of the key that made them, and are short. -/
def Signs (s : Suite) : Prop :=
  ∀ (k : PrivateKey) (d : Crypto.Digest) (a : X509.Algorithm) (message : Bytes), k.Valid →
    X509.Algorithm.ofCurveDigest? d = some a →
      s.verifies (s.publicKey k) a message (s.sign k d message) = true ∧
        (s.sign k d message).length < 2 ^ 16

/-- The verifier of a word tells it from every other one of the words. -/
def TellsApart (s : Suite) (words : List Text) : Prop :=
  ∀ word ∈ words, ∀ other ∈ words, ∀ salt content content', Utf8.encode word = .ok content →
    Utf8.encode other = .ok content' → s.stretch salt content = s.stretch salt content' →
      word = other

theorem tellsApart_same (s : Suite) (word : Text) : s.TellsApart [word, word] := by
  intro w hw w' hw' _ _ _ _ _ _
  simp only [List.mem_cons, List.not_mem_nil, or_false, or_self] at hw hw'
  exact hw.trans hw'.symm

/-- All that keys are relied on for. -/
structure Lawful (s : Suite) : Prop where
  onCurve : s.OnCurve
  deciphers : s.Deciphers
  signs : s.Signs

/-! ### The laws hold together -/

/-- The standard suite where what is only relied on is made sure of: a public half that is no point
is replaced by the generator, signatures are cut short and all accepted, the verifier is the
password itself and nothing is enciphered. -/
def lenient : Suite where
  publicKey k :=
    let q := (k.curve.pointOf? k.scalar).getD k.curve.generator
    .curve k.curve (if k.curve.holds q then q else k.curve.generator)
  sign k d message := (standardSign k d message).take 1000
  verifies _ _ _ _ := true
  stretch _ password := password
  encipher _ _ message := message
  decipher? _ _ message := some message

theorem onCurve_lenient : lenient.OnCurve := by
  have generators : ∀ c ∈ Crypto.Curve.all, c.holds c.generator = true := by decide +kernel
  intro k _
  refine ⟨_, rfl, ?_⟩
  split
  next holds => exact holds
  next => exact generators k.curve (Crypto.Curve.mem_all k.curve)

theorem lawful_lenient : lenient.Lawful where
  onCurve := onCurve_lenient
  deciphers _ _ message := ⟨rfl, Nat.le_add_right _ _⟩
  signs k d a message _ _ :=
    ⟨rfl, Nat.lt_of_le_of_lt (List.length_take_le _ _) (by decide)⟩

theorem tellsApart_lenient (words : List Text) : lenient.TellsApart words := by
  intro word _ other _ salt content content' encoded encoded' same
  have decoded := Utf8.decode_of_encode (Utf8.valid_of_encode encoded) encoded
  have decoded' := Utf8.decode_of_encode (Utf8.valid_of_encode encoded') encoded'
  have contents : content = content' := same
  rw [contents] at decoded
  exact Except.ok.inj (decoded.symm.trans decoded')

end Suite

end CertKeeper
