import CertKeeper.Proofs.Encoding.Certificate
import CertKeeper.Proofs.Encoding.Armour
import CertKeeper.Proofs.Laws

/-!
# Reading back key files

Main statement: a key on a curve is read back from its file, plain or enciphered, with the password
that it was written with.
-/

namespace CertKeeper

namespace KeyFile

open Der (Element)
open X509

theorem isLabel_plain : Pem.IsLabel "PRIVATE KEY" :=
  ⟨by decide +kernel, by decide +kernel, Text.plain_of_all rfl⟩

theorem isLabel_sealed : Pem.IsLabel "ENCRYPTED PRIVATE KEY" :=
  ⟨by decide +kernel, by decide +kernel, Text.plain_of_all rfl⟩

/-! ### Plain keys -/

def scalarSize (c : Crypto.Curve) : Nat := (c.parameters.n.log2 + 8) / 8

theorem lt_scalarSize (c : Crypto.Curve) : c.parameters.n ≤ 256 ^ scalarSize c := by
  have wide : ∀ c ∈ Crypto.Curve.all, c.parameters.n ≤ 256 ^ scalarSize c := by decide +kernel
  exact wide c (Crypto.Curve.mem_all c)

theorem scalarSize_le (c : Crypto.Curve) : scalarSize c ≤ 66 := by
  have all : ∀ c ∈ Crypto.Curve.all, scalarSize c ≤ 66 := by decide +kernel
  exact all c (Crypto.Curve.mem_all c)

def scalarMembers (k : PrivateKey) (point : Bytes) : List Element :=
  [⟨Der.integerTag, Der.natContent 1⟩,
    ⟨Der.octetStringTag, Bytes.ofNat (scalarSize k.curve) k.scalar⟩,
    ⟨0xA1, (Element.mk Der.bitStringTag (0 :: point)).bytes⟩]

theorem scalarMembers_within (k : PrivateKey) {point : Bytes} (short : point.length ≤ 133) :
    (Der.sequenceOf (scalarMembers k point)).Within 233 ∧
      ∀ e ∈ scalarMembers k point, e.Within 140 := by
  have size := scalarSize_le k.curve
  have version : (Element.mk Der.integerTag (Der.natContent 1)).Within 1 :=
    Der.within_single (by decide) (by decide)
  have scalar : (Element.mk Der.octetStringTag (Bytes.ofNat (scalarSize k.curve) k.scalar)).Within
      66 := Der.within_single (by decide) (by rw [Bytes.length_ofNat]; exact size)
  have bits : (Element.mk Der.bitStringTag (0 :: point)).Within 134 :=
    Der.within_single (by decide) (by rw [List.length_cons]; omega)
  have field : (Element.mk 0xA1 (Element.mk Der.bitStringTag (0 :: point)).bytes).Within 140 :=
    Der.within_single (by decide) (bits.length_bytes_le (by decide))
  refine ⟨Der.within_sequenceOf ?_, ?_⟩
  · have a := version.length_bytes_le (by decide)
    have b := scalar.length_bytes_le (by decide)
    have c := field.length_bytes_le (by decide)
    simp only [scalarMembers, List.flatMap_cons, List.flatMap_nil, List.append_nil,
      List.length_append]
    omega
  · simp only [scalarMembers, List.forall_mem_cons]
    exact ⟨version.mono (by decide), scalar.mono (by decide), field, List.forall_mem_nil _⟩

theorem bytes_scalarMembers {suite : Suite} {k : PrivateKey} {q : Crypto.Curve.Point}
    (public_ : suite.publicKey k = .curve k.curve q) :
    (Der.sequenceOf (scalarMembers k (k.curve.pointBytes q))).bytes = scalarBytes suite k := by
  rw [Der.bytes_sequenceOf, scalarBytes, public_]
  rfl

theorem length_pointBytes_le (c : Crypto.Curve) (q : Crypto.Curve.Point) :
    (c.pointBytes q).length ≤ 133 := by
  have width := PublicKey.width_le c
  rw [PublicKey.length_pointBytes]
  omega

theorem readScalar?_scalarBytes {suite : Suite} {k : PrivateKey} (valid : k.Valid)
    {q : Crypto.Curve.Point} (public_ : suite.publicKey k = .curve k.curve q)
    (holds : k.curve.holds q = true) :
    readScalar? suite (some k.curve) (scalarBytes suite k) = some k := by
  obtain ⟨total, members⟩ := scalarMembers_within k (length_pointBytes_le k.curve q)
  have single := Der.single?_sequenceOf (total.fits (by decide))
  have read := Der.readAll?_sequenceOf fun e he => (members e he).fits (by decide)
  have bits : (Element.mk Der.bitStringTag (0 :: k.curve.pointBytes q)).Fits := by
    have within : (Element.mk Der.bitStringTag (0 :: k.curve.pointBytes q)).Within 134 :=
      Der.within_single (by decide)
        (by rw [List.length_cons]; exact Nat.succ_le_succ (length_pointBytes_le k.curve q))
    exact within.fits (by decide)
  have inner := Der.inner?_bytes bits
  have one : Der.natContent 1 = [1] := by decide
  have scalar : Bytes.toNat (Bytes.ofNat (scalarSize k.curve) k.scalar) = k.scalar := by
    rw [Bytes.toNat_ofNat, Nat.mod_eq_of_lt (Nat.lt_of_lt_of_le valid.2 (lt_scalarSize k.curve))]
  have own : ofScalar? suite k.curve (Bytes.ofNat (scalarSize k.curve) k.scalar)
      (some (0 :: k.curve.pointBytes q)) = some k := by
    have point : (suite.publicKey ⟨k.curve, k.scalar⟩).point? = some (k.curve.pointBytes q) := by
      rw [show (⟨k.curve, k.scalar⟩ : PrivateKey) = k from rfl, public_]
      rfl
    simp only [ofScalar?, scalar, Der.readBits?_whole, PublicKey.readPoint?_pointBytes holds,
      Option.isSome_some, Option.map_some, point, beq_self_eq_true, Bool.and_self, valid.1,
      valid.2, and_self, if_true]
  rw [readScalar?, ← bytes_scalarMembers public_, single]
  simp only [Option.bind_eq_bind, Option.bind_some, read]
  simp only [scalarMembers, one, Algorithm.optionalField, show ¬ (0xA1 : Byte) = 0xA0 by decide,
    if_false, if_true, Option.bind_none, Option.some_or, Option.bind_some, inner, content?,
    Option.map_some, List.isEmpty_nil, Option.isNone_none, true_or, and_self, own]

def plainMembers (k : PrivateKey) (inner : Bytes) : List Element :=
  [⟨Der.integerTag, Der.natContent 0⟩, (PublicKey.curveAlgorithm k.curve).element,
    ⟨Der.octetStringTag, inner⟩]

theorem curveOf?_curve (c : Crypto.Curve) :
    (PublicKey.curveAlgorithm c).parameters.bind curveOf? = some c := by
  have all : ∀ c ∈ Crypto.Curve.all,
      (PublicKey.curveAlgorithm c).parameters.bind curveOf? = some c := by decide +kernel
  exact all c (Crypto.Curve.mem_all c)

theorem plainMembers_within {suite : Suite} {k : PrivateKey} {q : Crypto.Curve.Point}
    (public_ : suite.publicKey k = .curve k.curve q) :
    (Der.sequenceOf (plainMembers k (scalarBytes suite k))).Within 533 ∧
      ∀ e ∈ plainMembers k (scalarBytes suite k), e.Within 275 := by
  obtain ⟨inside, _⟩ := scalarMembers_within k (length_pointBytes_le k.curve q)
  have version : (Element.mk Der.integerTag (Der.natContent 0)).Within 1 :=
    Der.within_single (by decide) (by decide)
  have algorithm := (PublicKey.readable_curveAlgorithm k.curve).within
  have key : (Element.mk Der.octetStringTag (scalarBytes suite k)).Within 239 := by
    refine Der.within_single (by decide) ?_
    rw [← bytes_scalarMembers public_]
    exact inside.length_bytes_le (by decide)
  refine ⟨Der.within_sequenceOf ?_, ?_⟩
  · have a := version.length_bytes_le (by decide)
    have b := algorithm.length_bytes_le (by decide)
    have c := key.length_bytes_le (by decide)
    simp only [plainMembers, List.flatMap_cons, List.flatMap_nil, List.append_nil,
      List.length_append]
    omega
  · simp only [plainMembers, List.forall_mem_cons]
    exact ⟨version.mono (by decide), algorithm, key.mono (by decide), List.forall_mem_nil _⟩

theorem bytes_plainMembers (suite : Suite) (k : PrivateKey) :
    (Der.sequenceOf (plainMembers k (scalarBytes suite k))).bytes = plainBytes suite k := by
  rw [Der.bytes_sequenceOf, plainBytes, ← Algorithm.bytes_element]
  rfl

theorem readPlain?_plainBytes {suite : Suite} {k : PrivateKey} (valid : k.Valid)
    {q : Crypto.Curve.Point} (public_ : suite.publicKey k = .curve k.curve q)
    (holds : k.curve.holds q = true) :
    readPlain? suite (plainBytes suite k) = some (.curve k) := by
  obtain ⟨total, members⟩ := plainMembers_within public_
  have single := Der.single?_sequenceOf (total.fits (by decide))
  have read := Der.readAll?_sequenceOf fun e he => (members e he).fits (by decide)
  have own : (PublicKey.curveAlgorithm k.curve).oid = Algorithm.curveKeyOid := rfl
  rw [readPlain?, ← bytes_plainMembers suite k, single]
  simp only [Option.bind_eq_bind, Option.bind_some, read]
  simp only [plainMembers, (PublicKey.readable_curveAlgorithm k.curve).ofElement?_element,
    PublicKey.sound_curveAlgorithm, own, curveOf?_curve, content?, if_true, if_false,
    Option.bind_some, ne_eq, not_true_eq_false, or_self,
    readScalar?_scalarBytes valid public_ holds, Option.map_some]

theorem length_plainBytes_le {suite : Suite} {k : PrivateKey} {q : Crypto.Curve.Point}
    (public_ : suite.publicKey k = .curve k.curve q) : (plainBytes suite k).length ≤ 539 := by
  rw [← bytes_plainMembers suite k]
  exact (plainMembers_within public_).1.length_bytes_le (by decide)

/-! ### Enciphered keys -/

theorem sequenceElement_eq (es : List Element) :
    sequenceElement (es.map Element.bytes) = Der.sequenceOf es := by
  rw [sequenceElement, Der.sequenceOf, List.flatMap_def]

def keyedAlgorithm : Algorithm := ⟨⟨[1, 2, 840, 113549, 2, 9]⟩, some ⟨Der.nullTag, []⟩⟩

theorem readable_keyedAlgorithm : keyedAlgorithm.Readable := by
  refine ⟨by decide +kernel, ?_⟩
  intro p hp
  cases hp
  exact Der.within_single (by decide) (by decide)

def stretchMembers (salt : Bytes) : List Element :=
  [⟨Der.octetStringTag, salt⟩, ⟨Der.integerTag, Der.natContent 2048⟩, keyedAlgorithm.element]

def stretchAlgorithm (salt : Bytes) : Algorithm :=
  ⟨stretchOid, some (Der.sequenceOf (stretchMembers salt))⟩

def cipherAlgorithm (start : Bytes) : Algorithm :=
  ⟨cipherOid, some ⟨Der.octetStringTag, start⟩⟩

/-- How a key is sealed, with everything of a known length. -/
structure Usual (how : Sealing) : Prop where
  digest : how.digest = .sha256
  rounds : how.rounds = 2048
  salt : how.salt.length = 16
  start : how.start.length = 16

theorem usual_sealingFor (plain password : Bytes) : Usual (sealingFor plain password) := by
  have length : (Crypto.hmac .sha256 password plain).length = 32 := rfl
  refine ⟨rfl, rfl, ?_, ?_⟩
  · simp only [sealingFor, List.length_take, length]
    rfl
  · simp only [sealingFor, List.length_drop, length]

theorem sealingAlgorithm_eq {how : Sealing} (h : Usual how) : sealingAlgorithm how
    = ⟨passwordSchemeOid, some (Der.sequenceOf
        [(stretchAlgorithm how.salt).element, (cipherAlgorithm how.start).element])⟩ := by
  have keyed : Algorithm.oidOf? .sha256 keyedOids = some keyedAlgorithm.oid := by decide
  have stretch : sequenceElement [Der.octetString how.salt, Der.natural 2048,
      (Algorithm.mk keyedAlgorithm.oid (some ⟨Der.nullTag, []⟩)).bytes]
      = Der.sequenceOf (stretchMembers how.salt) := by
    rw [← sequenceElement_eq, stretchMembers, List.map_cons, List.map_cons, List.map_cons,
      Algorithm.bytes_element]
    rfl
  have whole : ∀ a b : Algorithm, sequenceElement [a.bytes, b.bytes]
      = Der.sequenceOf [a.element, b.element] := by
    intro a b
    rw [← sequenceElement_eq, List.map_cons, List.map_cons, Algorithm.bytes_element,
      Algorithm.bytes_element]
    rfl
  rw [sealingAlgorithm, h.digest, keyed, h.rounds]
  simp only [Option.getD_some, stretch, whole]
  rfl

theorem stretchMembers_within {salt : Bytes} (h : salt.length = 16) :
    (Der.sequenceOf (stretchMembers salt)).Within 60 ∧
      ∀ e ∈ stretchMembers salt, e.Within 275 := by
  have first : (Element.mk Der.octetStringTag salt).Within 16 :=
    Der.within_single (by decide) (Nat.le_of_eq h)
  have second : (Element.mk Der.integerTag (Der.natContent 2048)).Within 2 :=
    Der.within_single (by decide) (by decide)
  have third := readable_keyedAlgorithm.within
  refine ⟨Der.within_sequenceOf ?_, ?_⟩
  · have a := first.length_bytes_le (by decide)
    have b := second.length_bytes_le (by decide)
    have c : keyedAlgorithm.element.bytes.length ≤ 20 := by decide +kernel
    simp only [stretchMembers, List.flatMap_cons, List.flatMap_nil, List.append_nil,
      List.length_append]
    omega
  · simp only [stretchMembers, List.forall_mem_cons]
    exact ⟨first.mono (by decide), second.mono (by decide), third, List.forall_mem_nil _⟩

theorem readable_stretchAlgorithm {salt : Bytes} (h : salt.length = 16) :
    (stretchAlgorithm salt).Readable := by
  refine ⟨show stretchOid.Readable by decide +kernel, ?_⟩
  intro p hp
  cases hp
  exact (stretchMembers_within h).1.mono (by decide)

theorem readable_cipherAlgorithm {start : Bytes} (h : start.length = 16) :
    (cipherAlgorithm start).Readable := by
  refine ⟨show cipherOid.Readable by decide +kernel, ?_⟩
  intro p hp
  cases hp
  exact Der.within_single (by decide) (by omega)

theorem stretch_within {salt : Bytes} (h : salt.length = 16) :
    (stretchAlgorithm salt).element.Within 80 := by
  have oid : stretchOid.element.bytes.length ≤ 14 := by decide +kernel
  have inside := (stretchMembers_within h).1.length_bytes_le (by decide)
  refine Der.within_sequenceOf ?_
  simp only [stretchAlgorithm, Option.toList_some, List.flatMap_cons, List.flatMap_nil,
    List.append_nil, List.length_append]
  omega

theorem cipher_within {start : Bytes} (h : start.length = 16) :
    (cipherAlgorithm start).element.Within 36 := by
  have oid : cipherOid.element.bytes.length ≤ 14 := by decide +kernel
  have bytes : (Element.mk Der.octetStringTag start).Within 16 :=
    Der.within_single (by decide) (Nat.le_of_eq h)
  have inside := bytes.length_bytes_le (by decide)
  refine Der.within_sequenceOf ?_
  simp only [cipherAlgorithm, Option.toList_some, List.flatMap_cons, List.flatMap_nil,
    List.append_nil, List.length_append]
  omega

theorem scheme_within {how : Sealing} (h : Usual how) :
    (Der.sequenceOf [(stretchAlgorithm how.salt).element,
      (cipherAlgorithm how.start).element]).Within 128 := by
  have a := (stretch_within h.salt).length_bytes_le (by decide)
  have b := (cipher_within h.start).length_bytes_le (by decide)
  refine Der.within_sequenceOf ?_
  simp only [List.flatMap_cons, List.flatMap_nil, List.append_nil, List.length_append]
  omega

theorem readable_sealingAlgorithm {how : Sealing} (h : Usual how) :
    (sealingAlgorithm how).Readable := by
  rw [sealingAlgorithm_eq h]
  refine ⟨show passwordSchemeOid.Readable by decide +kernel, ?_⟩
  intro p hp
  cases hp
  exact (scheme_within h).mono (by decide)

theorem sealing?_sealingAlgorithm {how : Sealing} (h : Usual how) :
    sealing? (sealingAlgorithm how) = some how := by
  have both : ∀ e ∈ [(stretchAlgorithm how.salt).element, (cipherAlgorithm how.start).element],
      e.Fits := by
    simp only [List.forall_mem_cons]
    exact ⟨(stretch_within h.salt).fits (by decide), (cipher_within h.start).fits (by decide),
      List.forall_mem_nil _⟩
  have scheme := Der.readAll?_sequenceOf both
  have members := Der.readAll?_sequenceOf fun e he =>
    ((stretchMembers_within h.salt).2 e he).fits (by decide)
  have stretch := (readable_stretchAlgorithm h.salt).ofElement?_element
  have cipher := (readable_cipherAlgorithm h.start).ofElement?_element
  have keyed := readable_keyedAlgorithm.ofElement?_element
  have notNumber : PublicKey.natural? keyedAlgorithm.element = none := by
    rw [PublicKey.natural?, if_neg]
    exact (by decide : ¬ Der.sequenceTag = Der.integerTag)
  have digest : keyedDigest? [keyedAlgorithm.element] = some .sha256 := by
    have plain : keyedAlgorithm.isPlain = true := by decide
    have known : Algorithm.lookup? keyedAlgorithm.oid keyedOids = some .sha256 := by decide
    simp only [keyedDigest?, keyed, Option.bind_eq_bind, Option.bind_some, plain, if_true, known]
  have rounds : PublicKey.natural? ⟨Der.integerTag, Der.natContent 2048⟩ = some 2048 := by
    simp only [PublicKey.natural?, if_true, Der.readNatural?_natContent]
  have tag (es : List Element) : content? Der.sequenceTag (Der.sequenceOf es)
      = some (Der.sequenceOf es).content := if_pos rfl
  obtain ⟨d, salt, n, start⟩ := how
  have hd : d = .sha256 := h.digest
  have hn : n = 2048 := h.rounds
  subst hd hn
  have sixteen : start.length = 16 := h.start
  have first : (stretchAlgorithm salt).oid = stretchOid := rfl
  have second : (cipherAlgorithm start).oid = cipherOid := rfl
  have inside : (stretchAlgorithm salt).parameters = some (Der.sequenceOf (stretchMembers salt)) :=
    rfl
  have vector : (cipherAlgorithm start).parameters = some ⟨Der.octetStringTag, start⟩ := rfl
  rw [sealing?, sealingAlgorithm_eq h]
  simp only [ne_eq, not_true_eq_false, if_false, Option.bind_some, tag, Option.bind_eq_bind,
    scheme, stretch, cipher, first, second, inside, vector, or_self, members]
  simp only [stretchMembers, List.head?_cons, Option.bind_some, notNumber, Option.isSome_none,
    Bool.false_eq_true, if_false, content?, if_true, sixteen, digest, rounds, Option.pure_def]

theorem readSealed?_sealedBytes {suite : Suite} (lawful : suite.Deciphers) {plain : Bytes}
    (short : plain.length ≤ 539) (password : Bytes) :
    readSealed? (sealedBytes suite plain password)
      = some (sealingFor plain password,
          suite.encipher (sealingFor plain password) password plain) := by
  obtain ⟨how, sealing⟩ : ∃ how, how = sealingFor plain password := ⟨_, rfl⟩
  have usual : Usual how := sealing ▸ usual_sealingFor plain password
  have longer := (lawful how password plain).2
  have message : (Element.mk Der.octetStringTag (suite.encipher how password plain)).Within 555 :=
    Der.within_single (by decide) (by omega)
  have algorithm := (readable_sealingAlgorithm usual).within
  have fits : ∀ e ∈ [(sealingAlgorithm how).element,
      ⟨Der.octetStringTag, suite.encipher how password plain⟩], e.Fits := by
    simp only [List.forall_mem_cons]
    exact ⟨algorithm.fits (by decide), message.fits (by decide), List.forall_mem_nil _⟩
  have total : (Der.sequenceOf [(sealingAlgorithm how).element,
      ⟨Der.octetStringTag, suite.encipher how password plain⟩]).Within 842 := by
    have a := algorithm.length_bytes_le (by decide)
    have b := message.length_bytes_le (by decide)
    refine Der.within_sequenceOf ?_
    simp only [List.flatMap_cons, List.flatMap_nil, List.append_nil, List.length_append]
    omega
  have spelled : (Der.sequenceOf [(sealingAlgorithm how).element,
      ⟨Der.octetStringTag, suite.encipher how password plain⟩]).bytes
        = sealedBytes suite plain password := by
    rw [Der.bytes_sequenceOf, List.map_cons, Algorithm.bytes_element, sealedBytes, ← sealing]
    rfl
  have single := Der.single?_sequenceOf (total.fits (by decide))
  have members := Der.readAll?_sequenceOf fits
  rw [readSealed?, ← spelled, single, ← sealing]
  simp only [Option.bind_eq_bind, Option.bind_some, members,
    (readable_sealingAlgorithm usual).ofElement?_element, sealing?_sealingAlgorithm usual, content?,
    if_true, Option.pure_def]

/-! ### Files -/

theorem textOf_spell {label : Text} (h : Pem.IsLabel label) (bs : Bytes) :
    textOf (Directory.asciiBytes (Pem.Block.spell ⟨label, bs⟩)) = Pem.Block.spell ⟨label, bs⟩ := by
  simp only [textOf, Utf8.decode?, Utf8.decode_asciiBytes (Pem.plain_spell h bs), Except.toOption]

/-- The file of a key is read as the key, with the password that it was written with. -/
theorem read_write {suite : Suite} (onCurve : suite.OnCurve) (deciphers : suite.Deciphers)
    {k : PrivateKey} (valid : k.Valid) {password : Option Bytes}
    (short : ∀ p, password = some p → p.length ≤ passwordLimit) :
    ∃ text, write suite k password = .ok text ∧
      read suite (Directory.asciiBytes text) password = .ok (.curve k) := by
  obtain ⟨q, public_, holds⟩ := onCurve k valid
  have plain := readPlain?_plainBytes valid public_ holds
  have notSealed : ¬ Text.ofString "PRIVATE KEY" = Text.ofString "ENCRYPTED PRIVATE KEY" := by
    decide +kernel
  cases password with
  | none =>
    have known : labels.contains (Text.ofString "PRIVATE KEY") = true := by decide +kernel
    refine ⟨Pem.Block.spell ⟨"PRIVATE KEY", plainBytes suite k⟩, rfl, ?_⟩
    rw [read, textOf_spell isLabel_plain, Pem.read?_spell isLabel_plain]
    simp only [List.find?_cons, known, readBlock, notSealed, if_false, if_true, plain, plainResult,
      Option.isSome_none, Bool.false_eq_true]
  | some p =>
    have known : labels.contains (Text.ofString "ENCRYPTED PRIVATE KEY") = true := by
      decide +kernel
    have few : ¬ passwordLimit < p.length := Nat.not_lt.mpr (short p rfl)
    have deciphered := (deciphers (sealingFor (plainBytes suite k) p) p (plainBytes suite k)).1
    refine ⟨Pem.Block.spell ⟨"ENCRYPTED PRIVATE KEY", sealedBytes suite (plainBytes suite k) p⟩,
      if_neg few, ?_⟩
    rw [read, textOf_spell isLabel_sealed, Pem.read?_spell isLabel_sealed]
    simp only [List.find?_cons, known, readBlock, if_true,
      readSealed?_sealedBytes deciphers (length_plainBytes_le public_), deciphered, plain,
      plainResult, Option.isSome_none, Bool.false_eq_true, if_false]

end KeyFile

end CertKeeper
