import CertKeeper.Proofs.Encoding.Time

/-!
# Reading back an issued certificate

What a keeper issues has one common name as subject and as issuer, three extensions and a key on a
named curve.  Main statement: the certificate of such parts is read from its own bytes, whatever
the signature.
-/

namespace CertKeeper

open Der (Element)
open Crypto (Curve Digest)

/-! ### Elements of bounded length -/

namespace Der

/-- An element with a tag of one byte and at most so many bytes of content. -/
structure Element.Within (n : Nat) (e : Element) : Prop where
  tag : e.tag &&& 0x1f ≠ 0x1f
  short : e.content.length ≤ n

theorem Element.Within.fits {n : Nat} {e : Element} (h : e.Within n) (small : n < limit) :
    e.Fits := ⟨h.tag, Nat.lt_of_le_of_lt h.short small⟩

theorem Element.Within.length_bytes_le {n : Nat} {e : Element} (h : e.Within n)
    (small : n < limit) : e.bytes.length ≤ n + 6 := by
  have short := h.short
  have longer : (element e.tag e.content).length ≤ e.content.length + 6 :=
    length_element_le (Nat.lt_of_le_of_lt short small)
  change (element e.tag e.content).length ≤ _
  omega

theorem Element.Within.mono {m n : Nat} {e : Element} (h : e.Within m) (le : m ≤ n) :
    e.Within n := ⟨h.tag, Nat.le_trans h.short le⟩

def sequenceOf (es : List Element) : Element := ⟨sequenceTag, es.flatMap Element.bytes⟩

theorem readAll?_sequenceOf {es : List Element} (h : ∀ e ∈ es, e.Fits) :
    readAll? (sequenceOf es).content = some es := readAll?_flatMap h

theorem bytes_sequenceOf (es : List Element) :
    (sequenceOf es).bytes = sequence (es.map Element.bytes) := by
  simp only [sequenceOf, sequence, element, List.flatMap_def]

theorem within_sequenceOf {es : List Element} {n : Nat}
    (h : (es.flatMap Element.bytes).length ≤ n) : (sequenceOf es).Within n :=
  ⟨show sequenceTag &&& 0x1f ≠ 0x1f by decide, h⟩

theorem single?_sequenceOf {es : List Element} (h : (sequenceOf es).Fits) :
    single? sequenceTag (sequenceOf es).bytes = some (sequenceOf es).content := single?_element h

theorem within_single {tag : Byte} {content : Bytes} {n : Nat} (single : tag &&& 0x1f ≠ 0x1f)
    (h : content.length ≤ n) : (Element.mk tag content).Within n := ⟨single, h⟩

theorem inner?_bytes {e : Element} (h : e.Fits) : X509.Algorithm.inner? e.bytes = some e := by
  have first := read?_bytes h []
  rw [List.append_nil] at first
  simp only [X509.Algorithm.inner?, first]

end Der

/-! ### Object identifiers -/

namespace Oid

/-- An identifier that the reader gives back; long arcs and long contents are refused. -/
def Readable (o : Oid) : Prop := ofContent? o.content = some o

instance (o : Oid) : Decidable o.Readable := inferInstanceAs (Decidable (_ = _))

def element (o : Oid) : Element := ⟨Der.oidTag, o.content⟩

theorem Readable.within {o : Oid} (h : o.Readable) : o.element.Within 63 := by
  unfold Readable ofContent? at h
  split at h
  · cases h
  · next short =>
    exact Der.within_single (by decide) (Nat.le_of_not_lt short)

theorem Readable.ofElement?_element {o : Oid} (h : o.Readable) : ofElement? o.element = some o := by
  simp only [ofElement?, element, if_true]
  exact h

end Oid

namespace X509

/-! ### Algorithms -/

namespace Algorithm

def element (a : Algorithm) : Element := Der.sequenceOf (a.oid.element :: a.parameters.toList)

theorem bytes_element (a : Algorithm) : a.element.bytes = a.bytes := by
  obtain ⟨oid, _ | p⟩ := a
  · simp [element, bytes, Der.sequenceOf, Der.sequence, Der.element, Oid.bytes, Oid.element]
  · simp [element, bytes, Der.sequenceOf, Der.sequence, Der.element, Oid.bytes, Oid.element]

/-- An algorithm whose parameters are at most one short element. -/
structure Readable (a : Algorithm) : Prop where
  oid : a.oid.Readable
  parameters : ∀ p, a.parameters = some p → p.Within 200

theorem Readable.members_within {a : Algorithm} (h : a.Readable) :
    ∀ e ∈ a.oid.element :: a.parameters.toList, e.Within 200 := by
  intro e he
  rcases List.mem_cons.mp he with rfl | he
  · exact h.oid.within.mono (by decide)
  · exact h.parameters e (Option.mem_toList.mp he)

theorem Readable.ofElement?_element {a : Algorithm} (h : a.Readable) :
    ofElement? a.element = some a := by
  have members := Der.readAll?_sequenceOf fun e he =>
    (h.members_within e he).fits (by decide)
  obtain ⟨oid, parameters⟩ := a
  have read := h.oid.ofElement?_element
  cases parameters with
  | none =>
    simp only [Option.toList_none] at members
    simp [ofElement?, element, Der.sequenceOf] at members ⊢
    simp [members, read]
  | some p =>
    simp only [Option.toList_some] at members
    simp [ofElement?, element, Der.sequenceOf] at members ⊢
    simp [members, read]

theorem Readable.within {a : Algorithm} (h : a.Readable) : a.element.Within 275 := by
  refine Der.within_sequenceOf ?_
  obtain ⟨oid, parameters⟩ := a
  have first : oid.element.bytes.length ≤ 69 := h.oid.within.length_bytes_le (by decide)
  cases parameters with
  | none =>
    simp only [Option.toList_none, List.flatMap_cons, List.flatMap_nil, List.append_nil]
    omega
  | some p =>
    have second := (h.parameters p rfl).length_bytes_le (by decide)
    simp only [Option.toList_some, List.flatMap_cons, List.flatMap_nil, List.append_nil,
      List.length_append]
    omega

theorem of_ofCurveDigest? {d : Digest} {a : Algorithm} (h : ofCurveDigest? d = some a) :
    a.Readable ∧ a.sound = true := by
  have oids : ∀ row ∈ curveOids, row.1.Readable := by decide +kernel
  have bare : ∀ row ∈ curveOids, (⟨row.1, none⟩ : Algorithm).sound = true := by decide
  obtain ⟨oid, found, rfl⟩ := Option.map_eq_some_iff.mp h
  obtain ⟨row, looked, rfl⟩ := Option.map_eq_some_iff.mp found
  have member := List.mem_of_find?_eq_some looked
  exact ⟨⟨oids row member, fun p none => by cases none⟩, bare row member⟩

end Algorithm

/-! ### Keys -/

namespace PublicKey

theorem readable_curveAlgorithm (c : Curve) : (curveAlgorithm c).Readable := by
  have named : ∀ c ∈ Curve.all, (Oid.mk c.arcs).Readable := by decide +kernel
  have own : Algorithm.curveKeyOid.Readable := by decide +kernel
  refine ⟨own, ?_⟩
  intro p hp
  cases hp
  exact (named c (Curve.mem_all c)).within.mono (by decide)

theorem sound_curveAlgorithm (c : Curve) : (curveAlgorithm c).sound = true := by
  have named : ∀ c ∈ Curve.all, (Oid.mk c.arcs).Readable := by decide +kernel
  have read := (named c (Curve.mem_all c)).ofElement?_element
  have names : (curveAlgorithm c).namesCurve = true := by
    simp only [Algorithm.namesCurve, curveAlgorithm]
    simp only [Oid.element] at read
    rw [read]
    rfl
  have branch : (curveAlgorithm c).sound = (curveAlgorithm c).namesCurve := by
    have key : (curveAlgorithm c).oid = Algorithm.curveKeyOid := rfl
    unfold Algorithm.sound
    rw [key, if_neg (by decide), if_neg (by decide), if_neg (by decide), if_neg (by decide),
      if_neg (by decide), if_pos rfl]
  rw [branch, names]

theorem lt_width (c : Curve) {n : Nat} (h : n < c.parameters.p) : n < 256 ^ c.width := by
  have wide : ∀ c ∈ Curve.all, c.parameters.p < 256 ^ c.width := by decide +kernel
  exact Nat.lt_trans h (wide c (Curve.mem_all c))

theorem width_le (c : Curve) : c.width ≤ 66 := by
  have all : ∀ c ∈ Curve.all, c.width ≤ 66 := by decide +kernel
  exact all c (Curve.mem_all c)

theorem length_pointBytes (c : Curve) (q : Curve.Point) :
    (c.pointBytes q).length = 2 * c.width + 1 := by
  simp only [Curve.pointBytes, List.length_cons, List.length_append, Bytes.length_ofNat]
  omega

theorem readPoint?_pointBytes {c : Curve} {q : Curve.Point} (h : c.holds q = true) :
    c.readPoint? (c.pointBytes q) = some q := by
  have bounds : q.x < c.parameters.p ∧ q.y < c.parameters.p := by
    simp only [Curve.holds, Bool.and_eq_true, decide_eq_true_eq] at h
    exact h.1
  have x : Bytes.toNat (Bytes.ofNat c.width q.x) = q.x := by
    rw [Bytes.toNat_ofNat, Nat.mod_eq_of_lt (lt_width c bounds.1)]
  have y : Bytes.toNat (Bytes.ofNat c.width q.y) = q.y := by
    rw [Bytes.toNat_ofNat, Nat.mod_eq_of_lt (lt_width c bounds.2)]
  have both : (Bytes.ofNat c.width q.x ++ Bytes.ofNat c.width q.y).length = 2 * c.width := by
    simp only [List.length_append, Bytes.length_ofNat]
    omega
  have left : (Bytes.ofNat c.width q.x ++ Bytes.ofNat c.width q.y).take c.width
      = Bytes.ofNat c.width q.x := by
    rw [List.take_append_of_le_length (by simp), List.take_of_length_le (by simp)]
  have right : (Bytes.ofNat c.width q.x ++ Bytes.ofNat c.width q.y).drop c.width
      = Bytes.ofNat c.width q.y := by
    rw [List.drop_append_of_le_length (by simp), List.drop_of_length_le (by simp),
      List.nil_append]
  simp only [Curve.readPoint?, Curve.pointBytes, List.cons_append, both, left, right, x, y,
    and_self, if_true, h]

theorem ofInfo_info {c : Curve} {q : Curve.Point} (h : c.holds q = true) :
    ofInfo (curve c q).info = .ok (curve c q) := by
  have named : ∀ c ∈ Curve.all, (Oid.mk c.arcs).Readable := by decide +kernel
  have looked : ∀ c ∈ Curve.all, Curve.all.find? (fun d => Oid.mk d.arcs = ⟨c.arcs⟩) = some c := by
    decide
  have read := (named c (Curve.mem_all c)).ofElement?_element
  simp only [Oid.element] at read
  simp only [ofInfo, info, curveAlgorithm, if_true, readCurve, Option.bind_some, read,
    looked c (Curve.mem_all c), readPoint?_pointBytes h]

end PublicKey

namespace KeyInfo

def element (i : KeyInfo) : Element :=
  Der.sequenceOf [i.algorithm.element, ⟨Der.bitStringTag, 0 :: i.key⟩]

theorem bytes_element (i : KeyInfo) : i.element.bytes = i.bytes := by
  rw [element, Der.bytes_sequenceOf, bytes]
  simp only [List.map_cons, List.map_nil, Algorithm.bytes_element]
  rfl

/-- Bits of at most so many bytes, with an algorithm that can be read. -/
structure Readable (i : KeyInfo) : Prop where
  algorithm : i.algorithm.Readable
  sound : i.algorithm.sound = true
  short : i.key.length ≤ 133

theorem Readable.members_within {i : KeyInfo} (h : i.Readable) :
    i.algorithm.element.Within 275 ∧ (Element.mk Der.bitStringTag (0 :: i.key)).Within 134 := by
  have short := h.short
  refine ⟨h.algorithm.within, Der.within_single (by decide) ?_⟩
  rw [List.length_cons]
  omega

theorem Readable.ofElement?_element {i : KeyInfo} (h : i.Readable) :
    ofElement? i.element = some i := by
  obtain ⟨first, second⟩ := h.members_within
  have fits : ∀ e ∈ [i.algorithm.element, ⟨Der.bitStringTag, 0 :: i.key⟩], e.Fits := by
    simp only [List.forall_mem_cons]
    exact ⟨first.fits (by decide), second.fits (by decide), List.forall_mem_nil _⟩
  have members := Der.readAll?_sequenceOf fits
  have tag : i.element.tag = Der.sequenceTag := rfl
  simp only [ofElement?, tag, ne_eq, not_true_eq_false, if_false]
  rw [element, members]
  simp only [Option.bind_eq_bind, Option.bind_some, h.algorithm.ofElement?_element,
    Der.readBits?_whole, h.sound, and_self, if_true, Option.pure_def]

theorem Readable.within {i : KeyInfo} (h : i.Readable) : i.element.Within 421 := by
  obtain ⟨first, second⟩ := h.members_within
  have a := first.length_bytes_le (by decide)
  have b := second.length_bytes_le (by decide)
  refine Der.within_sequenceOf ?_
  simp only [List.flatMap_cons, List.flatMap_nil, List.append_nil, List.length_append]
  omega

theorem readable_curve (c : Curve) (q : Curve.Point) : (PublicKey.curve c q).info.Readable := by
  refine ⟨PublicKey.readable_curveAlgorithm c, PublicKey.sound_curveAlgorithm c, ?_⟩
  have width := PublicKey.width_le c
  have length := PublicKey.length_pointBytes c q
  change (c.pointBytes q).length ≤ 133
  omega

end KeyInfo

/-! ### Common names -/

namespace Name

def attributeElement (content : Bytes) : Element :=
  Der.sequenceOf [commonName.element, ⟨utf8Type, content⟩]

def commonElement (content : Bytes) : Element :=
  Der.sequenceOf [⟨Der.setTag, (attributeElement content).bytes⟩]

theorem bytes_commonElement (content : Bytes) :
    (commonElement content).bytes = (ofCommonName content).bytes := by
  simp [commonElement, attributeElement, ofCommonName, bytes, Attribute.bytes, Der.sequenceOf,
    Der.sequence, Der.element, Oid.bytes, Oid.element]

theorem within_attributeElement {content : Bytes} (h : content.length ≤ commonNameLimit) :
    (attributeElement content).Within 139 := by
  have readable : commonName.Readable := by decide +kernel
  have first := readable.within.length_bytes_le (by decide)
  have second : (Element.mk utf8Type content).Within 64 := Der.within_single (by decide) h
  have second := second.length_bytes_le (by decide)
  refine Der.within_sequenceOf ?_
  simp only [List.flatMap_cons, List.flatMap_nil, List.append_nil, List.length_append]
  omega

theorem within_group {content : Bytes} (h : content.length ≤ commonNameLimit) :
    (Element.mk Der.setTag (attributeElement content).bytes).Within 145 :=
  Der.within_single (by decide) ((within_attributeElement h).length_bytes_le (by decide))

theorem within_commonElement {content : Bytes} (h : content.length ≤ commonNameLimit) :
    (commonElement content).Within 151 := by
  have group := (within_group h).length_bytes_le (by decide)
  refine Der.within_sequenceOf ?_
  simpa only [List.flatMap_cons, List.flatMap_nil, List.append_nil] using group

theorem ofElement?_attributeElement {content : Bytes} (h : content.length ≤ commonNameLimit) :
    Attribute.ofElement? (attributeElement content) = some ⟨commonName, utf8Type, content⟩ := by
  have readable : commonName.Readable := by decide +kernel
  have second : (Element.mk utf8Type content).Within 64 := Der.within_single (by decide) h
  have fits : ∀ e ∈ [commonName.element, ⟨utf8Type, content⟩], e.Fits := by
    simp only [List.forall_mem_cons]
    exact ⟨readable.within.fits (by decide), second.fits (by decide), List.forall_mem_nil _⟩
  have members := Der.readAll?_sequenceOf fits
  have tag : (attributeElement content).tag = Der.sequenceTag := rfl
  have sound : (Attribute.mk commonName utf8Type content).sound = true := by
    simp only [Attribute.sound]
    rfl
  simp only [Attribute.ofElement?, tag, ne_eq, not_true_eq_false, if_false]
  rw [attributeElement, members]
  simp only [Option.bind_eq_bind, Option.bind_some, readable.ofElement?_element, sound, if_true,
    Option.pure_def]

theorem ofElement?_commonElement {content : Bytes} (h : content.length ≤ commonNameLimit) :
    ofElement? (commonElement content) = some (ofCommonName content) := by
  have inside : (attributeElement content).Fits := (within_attributeElement h).fits (by decide)
  have fits : ∀ e ∈ [Element.mk Der.setTag (attributeElement content).bytes], e.Fits := by
    simp only [List.forall_mem_cons]
    exact ⟨(within_group h).fits (by decide), List.forall_mem_nil _⟩
  have groups := Der.readAll?_sequenceOf fits
  have member := Der.readAll?_bytes_append inside []
  rw [List.append_nil, Der.readAll?_nil, Option.map_some] at member
  have tag : (commonElement content).tag = Der.sequenceTag := rfl
  simp only [ofElement?, tag, ne_eq, not_true_eq_false, if_false]
  rw [commonElement, groups]
  simp only [Option.bind_eq_bind, Option.bind_some, List.mapM_cons, List.mapM_nil, groupOfElement?,
    ne_eq, not_true_eq_false, if_false, member, List.map_cons, List.map_nil, inSetOrder, if_true,
    ofElement?_attributeElement h, Option.pure_def]
  rfl

end Name

/-! ### Extensions -/

namespace Extension

def members (e : Extension) : List Element :=
  e.oid.element :: (if e.critical then [⟨0x01, [0xFF]⟩] else []) ++
    [⟨Der.octetStringTag, e.content⟩]

def element (e : Extension) : Element := Der.sequenceOf e.members

theorem bytes_element (e : Extension) : e.element.bytes = e.bytes := by
  obtain ⟨oid, _ | _, content⟩ := e
  · simp [element, members, bytes, Der.sequenceOf, Der.sequence, Der.element, Oid.bytes,
      Oid.element, Der.octetString]
  · simp [element, members, bytes, Der.sequenceOf, Der.sequence, Der.element, Oid.bytes,
      Oid.element, Der.octetString]

structure Readable (e : Extension) : Prop where
  oid : e.oid.Readable
  short : e.content.length ≤ 63

theorem Readable.members_within {e : Extension} (h : e.Readable) :
    ∀ m ∈ e.members, m.Within 63 := by
  have value : (Element.mk Der.octetStringTag e.content).Within 63 :=
    Der.within_single (by decide) h.short
  have mark : (Element.mk 0x01 [0xFF]).Within 63 := Der.within_single (by decide) (by decide)
  intro m hm
  simp only [members, List.cons_append, List.mem_cons, List.mem_append] at hm
  rcases hm with rfl | hm | rfl | hm
  · exact h.oid.within
  · split at hm
    · rw [List.mem_singleton.mp hm]
      exact mark
    · cases hm
  · exact value
  · cases hm

theorem Readable.isExtension_element {e : Extension} (h : e.Readable) :
    Certificate.isExtension e.element = true := by
  have read := Der.readAll?_sequenceOf fun m hm => (h.members_within m hm).fits (by decide)
  have oid := h.oid.ofElement?_element
  have parts : Certificate.parts? e.element = some e.members := by
    rw [Certificate.parts?, element]
    exact (if_pos rfl).trans read
  obtain ⟨o, critical, content⟩ := e
  simp only [Certificate.isExtension, parts]
  cases critical with
  | false => simp [members, oid]
  | true => simp [members, oid, Certificate.isTrue]

theorem Readable.within {e : Extension} (h : e.Readable) : e.element.Within 207 := by
  have within := h.members_within
  refine Der.within_sequenceOf ?_
  obtain ⟨o, critical, content⟩ := e
  cases critical with
  | false =>
    simp only [members, Bool.false_eq_true, if_false, List.cons_append, List.nil_append,
      List.forall_mem_cons] at within
    have a := within.1.length_bytes_le (by decide)
    have b := within.2.1.length_bytes_le (by decide)
    simp only [members, Bool.false_eq_true, if_false, List.append_nil, List.cons_append,
      List.nil_append, List.flatMap_cons, List.flatMap_nil, List.length_append]
    omega
  | true =>
    simp only [members, if_true, List.cons_append, List.nil_append, List.forall_mem_cons] at within
    have a := within.1.length_bytes_le (by decide)
    have b := within.2.1.length_bytes_le (by decide)
    have c := within.2.2.1.length_bytes_le (by decide)
    simp only [members, if_true, List.append_nil, List.cons_append, List.nil_append,
      List.flatMap_cons, List.flatMap_nil, List.length_append]
    omega

theorem readable_basicConstraints : basicConstraints.Readable := ⟨by decide +kernel, by decide⟩

theorem readable_keyUsage : keyUsage.Readable := ⟨by decide +kernel, by decide⟩

theorem readable_subjectKeyIdentifier (k : PublicKey) : (subjectKeyIdentifier k).Readable := by
  have digest : (Crypto.sha1 k.info.key).length = 20 := rfl
  have value : (Element.mk Der.octetStringTag (Crypto.sha1 k.info.key)).Within 20 :=
    Der.within_single (by decide) (Nat.le_of_eq digest)
  have oid : (Oid.mk [2, 5, 29, 14]).Readable := by decide +kernel
  exact ⟨oid, Nat.le_trans (value.length_bytes_le (by decide)) (by decide)⟩

end Extension

/-! ### Certificates -/

namespace Template.Complete

/-- The parts of what a keeper issues. -/
structure Issuable (p : Complete) : Prop where
  subject : ∃ content, content.length ≤ commonNameLimit ∧ p.subject = Name.ofCommonName content
  issuer : p.issuer = p.subject
  serial : p.serial < 256 ^ 20
  first : (Time.ofWall p.notBefore).Writable
  last : (Time.ofWall p.notAfter).Writable
  key : ∃ c q, p.key = .curve c q
  extensions : p.extensions = [basicConstraints, keyUsage, subjectKeyIdentifier p.key]

def fields (p : Complete) (a : Algorithm) (content : Bytes) : List Element :=
  [⟨0xA0, Der.natural 2⟩, ⟨Der.integerTag, Der.natContent p.serial⟩, a.element,
    Name.commonElement content,
    Der.sequenceOf [(Time.ofWall p.notBefore).element, (Time.ofWall p.notAfter).element],
    Name.commonElement content, p.key.info.element,
    ⟨0xA3, (Der.sequenceOf (p.extensions.map Extension.element)).bytes⟩]

theorem bytes_fields {p : Complete} (h : p.Issuable) (a : Algorithm) {content : Bytes}
    (subject : p.subject = Name.ofCommonName content) :
    (Der.sequenceOf (p.fields a content)).bytes = p.tbs a := by
  have extensions : (p.extensions.map Extension.element).map Element.bytes
      = p.extensions.map Extension.bytes := by
    rw [List.map_map]
    exact List.map_congr_left fun e _ => e.bytes_element
  have some_ : p.extensions.isEmpty = false := by rw [h.extensions]; rfl
  rw [Der.bytes_sequenceOf, tbs, h.issuer, subject, some_]
  simp only [fields, List.map_cons, List.map_nil, Algorithm.bytes_element,
    Name.bytes_commonElement, Der.bytes_sequenceOf, Time.bytes_element, KeyInfo.bytes_element,
    extensions, Bool.false_eq_true, if_false]
  rfl

theorem extensions_readable {p : Complete} (h : p.Issuable) :
    ∀ e ∈ p.extensions, e.Readable := by
  rw [h.extensions]
  simp only [List.forall_mem_cons]
  exact ⟨Extension.readable_basicConstraints, Extension.readable_keyUsage,
    Extension.readable_subjectKeyIdentifier _, List.forall_mem_nil _⟩

theorem extensions_within {p : Complete} (h : p.Issuable) :
    (Der.sequenceOf (p.extensions.map Extension.element)).Within 639 := by
  have readable := extensions_readable h
  rw [h.extensions] at readable ⊢
  simp only [List.forall_mem_cons] at readable
  have a := readable.1.within.length_bytes_le (by decide)
  have b := readable.2.1.within.length_bytes_le (by decide)
  have c := readable.2.2.1.within.length_bytes_le (by decide)
  refine Der.within_sequenceOf ?_
  simp only [List.map_cons, List.map_nil, List.flatMap_cons, List.flatMap_nil,
    List.length_append, List.length_nil]
  omega

theorem validity_within (p : Complete) :
    (Der.sequenceOf [(Time.ofWall p.notBefore).element, (Time.ofWall p.notAfter).element]).Within
      34 := by
  have a := (Time.ofWall p.notBefore).length_bytes_le
  have b := (Time.ofWall p.notAfter).length_bytes_le
  rw [← Time.bytes_element] at a b
  refine Der.within_sequenceOf ?_
  simp only [List.flatMap_cons, List.flatMap_nil, List.append_nil, List.length_append]
  omega

theorem fields_within {p : Complete} (h : p.Issuable) {a : Algorithm} (algorithm : a.Readable)
    {content : Bytes} (short : content.length ≤ commonNameLimit) :
    ∀ e ∈ p.fields a content, e.Within 645 := by
  obtain ⟨c, q, key⟩ := h.key
  have serial := Der.length_natContent_le h.serial
  have info : p.key.info.element.Within 421 := by
    rw [key]
    exact (KeyInfo.readable_curve c q).within
  simp only [fields, List.forall_mem_cons]
  refine ⟨Der.within_single (by decide) (by decide), Der.within_single (by decide) (by omega),
    algorithm.within.mono (by decide), (Name.within_commonElement short).mono (by decide),
    p.validity_within.mono (by decide), (Name.within_commonElement short).mono (by decide),
    info.mono (by decide),
    Der.within_single (by decide) ((extensions_within h).length_bytes_le (by decide)),
    List.forall_mem_nil _⟩

theorem closing_fields {p : Complete} (h : p.Issuable) :
    Certificate.closing
      [⟨0xA3, (Der.sequenceOf (p.extensions.map Extension.element)).bytes⟩] = true := by
  have readable := extensions_readable h
  have fits : ∀ m ∈ p.extensions.map Extension.element, m.Fits := by
    intro m hm
    obtain ⟨e, he, rfl⟩ := List.mem_map.mp hm
    exact (readable e he).within.fits (by decide)
  have inside := Der.inner?_bytes ((extensions_within h).fits (by decide))
  have parts : Certificate.parts? (Der.sequenceOf (p.extensions.map Extension.element))
      = some (p.extensions.map Extension.element) :=
    (if_pos rfl).trans (Der.readAll?_sequenceOf fits)
  have all : (p.extensions.map Extension.element).all Certificate.isExtension = true := by
    rw [List.all_map, List.all_eq_true]
    exact fun e he => (readable e he).isExtension_element
  simp only [Certificate.closing, Algorithm.optionalField, show ¬ (0xA3 : Byte) = 0x81 by decide,
    show ¬ (0xA3 : Byte) = 0x82 by decide, if_true, if_false, inside, Option.bind_some, parts, all,
    List.isEmpty_nil, Bool.and_self]

theorem algorithm?_element {a : Algorithm} (algorithm : a.Readable) (sound : a.sound = true) :
    Certificate.algorithm? a.element = some a := by
  simp only [Certificate.algorithm?, algorithm.ofElement?_element, Option.bind_eq_bind,
    Option.bind_some, sound, if_true, Option.pure_def]

theorem versioned?_fields (p : Complete) (a : Algorithm) (content : Bytes) :
    Certificate.versioned? (p.fields a content) = some (2, (p.fields a content).tail) := by
  have version : Certificate.version? ⟨0xA0, Der.natural 2⟩ = some 2 := by decide +kernel
  simp only [fields, Certificate.versioned?, if_true, version, Option.map_some, List.tail_cons]

theorem body?_fields {p : Complete} (h : p.Issuable) {a : Algorithm} (algorithm : a.Readable)
    (sound : a.sound = true) {content : Bytes} (short : content.length ≤ commonNameLimit)
    (subject : p.subject = Name.ofCommonName content) :
    Certificate.body? (p.fields a content).tail = some ⟨p.serial, p.issuer,
      Time.ofWall p.notBefore, Time.ofWall p.notAfter, p.subject, p.key.info⟩ := by
  obtain ⟨c, q, key⟩ := h.key
  have validity : Certificate.parts?
      (Der.sequenceOf [(Time.ofWall p.notBefore).element, (Time.ofWall p.notAfter).element])
        = some [(Time.ofWall p.notBefore).element, (Time.ofWall p.notAfter).element] := by
    refine (if_pos rfl).trans (Der.readAll?_sequenceOf ?_)
    simp only [List.forall_mem_cons]
    exact ⟨Time.fits_element _, Time.fits_element _, List.forall_mem_nil _⟩
  have info : KeyInfo.ofElement? p.key.info.element = some p.key.info := by
    rw [key]
    exact (KeyInfo.readable_curve c q).ofElement?_element
  have named := algorithm?_element algorithm sound
  simp only [fields, List.tail_cons, Certificate.body?, named, validity, Option.bind_eq_bind,
    Option.bind_some, Der.readInteger?_natContent, Name.ofElement?_commonElement short,
    Time.ofElement?_element h.first, Time.ofElement?_element h.last, info, closing_fields h,
    and_self, if_true, Option.pure_def, h.issuer, subject]

def whole (p : Complete) (a : Algorithm) (content signature : Bytes) : List Element :=
  [Der.sequenceOf (p.fields a content), a.element, ⟨Der.bitStringTag, 0 :: signature⟩]

theorem der_certificate {p : Complete} (h : p.Issuable) (a : Algorithm) {content : Bytes}
    (subject : p.subject = Name.ofCommonName content) (signature : Bytes) :
    (p.certificate a signature).der = (Der.sequenceOf (p.whole a content signature)).bytes := by
  rw [Der.bytes_sequenceOf]
  simp only [whole, certificate, List.map_cons, List.map_nil, bytes_fields h a subject,
    Algorithm.bytes_element]
  rfl

theorem whole_fits {p : Complete} (h : p.Issuable) {a : Algorithm} (algorithm : a.Readable)
    {content : Bytes} (few : content.length ≤ commonNameLimit) {signature : Bytes}
    (short : signature.length < 2 ^ 16) :
    (∀ e ∈ p.whole a content signature, e.Fits) ∧
      (Der.sequenceOf (p.whole a content signature)).Fits := by
  have tbs : (Der.sequenceOf (p.fields a content)).Within 5208 := by
    refine Der.within_sequenceOf ?_
    have bound := fun e he => (fields_within h algorithm few e he).length_bytes_le (by decide)
    simp only [fields, List.forall_mem_cons] at bound
    obtain ⟨b1, b2, b3, b4, b5, b6, b7, b8, _⟩ := bound
    simp only [fields, List.flatMap_cons, List.flatMap_nil, List.length_append, List.length_nil]
    omega
  have bits : (Element.mk Der.bitStringTag (0 :: signature)).Within (2 ^ 16) :=
    Der.within_single (by decide) (by rw [List.length_cons]; omega)
  have all : (Der.sequenceOf (p.whole a content signature)).Within (2 ^ 17) := by
    have b1 := tbs.length_bytes_le (by decide)
    have b2 := algorithm.within.length_bytes_le (by decide)
    have b3 := bits.length_bytes_le (by decide)
    refine Der.within_sequenceOf ?_
    simp only [whole, List.flatMap_cons, List.flatMap_nil, List.append_nil, List.length_append]
    omega
  refine ⟨?_, all.fits (by decide)⟩
  simp only [whole, List.forall_mem_cons]
  exact ⟨tbs.fits (by decide), algorithm.within.fits (by decide), bits.fits (by decide),
    List.forall_mem_nil _⟩

theorem ofDer_certificate {p : Complete} (h : p.Issuable) {d : Digest} {a : Algorithm}
    (known : Algorithm.ofCurveDigest? d = some a) {signature : Bytes}
    (short : signature.length < 2 ^ 16) :
    Certificate.ofDer (p.certificate a signature).der = .ok (p.certificate a signature) := by
  obtain ⟨algorithm, sound⟩ := Algorithm.of_ofCurveDigest? known
  obtain ⟨content, few, subject⟩ := h.subject
  obtain ⟨outside, fits⟩ := whole_fits h algorithm few short
  have der := der_certificate h a subject signature
  have single := Der.single?_sequenceOf fits
  have members := Der.readAll?_sequenceOf outside
  have parts : Certificate.parts? (Der.sequenceOf (p.fields a content))
      = some (p.fields a content) :=
    (if_pos rfl).trans
      (Der.readAll?_sequenceOf fun e he => (fields_within h algorithm few e he).fits (by decide))
  have read : Certificate.ofDer? (p.certificate a signature).der
      = some (2, p.certificate a signature) := by
    rw [Certificate.ofDer?, der, single, ← der]
    simp only [Option.bind_eq_bind, Option.bind_some, members]
    simp only [whole, Option.bind_some, parts, versioned?_fields,
      body?_fields h algorithm sound few subject, algorithm?_element algorithm sound,
      Der.readBits?_whole, if_true, Option.pure_def, bytes_fields h a subject]
    rfl
  simp only [Certificate.ofDer, read, or_true, if_true]

end Template.Complete

end X509

end CertKeeper
