import CertKeeper.Proofs.Encoding.Certificate
import CertKeeper.Proofs.Encoding.Json

/-!
# Reading back the records of a store

Main statements: the record of a password and the record of an entry are read as what was written.
-/

namespace CertKeeper

open Text (Valid)

/-! ### Texts with an encoding -/

namespace Text

theorem not_isSurrogate_ofChar (c : Char) : (CodePoint.ofChar c).isSurrogate = false := by
  have valid := c.valid
  simp only [UInt32.isValidChar, Nat.isValidChar] at valid
  have value : (CodePoint.ofChar c).val = c.val.toNat := rfl
  simp only [CodePoint.isSurrogate, value, Bool.and_eq_false_iff, decide_eq_false_iff_not]
  omega

theorem valid_ofChars (cs : List Char) : Valid (ofChars cs) := by
  intro c hc
  obtain ⟨d, _, rfl⟩ := List.mem_map.mp hc
  exact not_isSurrogate_ofChar d

theorem valid_ofString (s : String) : Valid (ofString s) := valid_ofChars s.toList

theorem Valid.append {t u : Text} (ht : t.Valid) (hu : u.Valid) : (t ++ u).Valid :=
  valid_append.mpr ⟨ht, hu⟩

theorem valid_padded (width n : Nat) : Valid (padLeft width '0' (decimal n)) := by
  refine Valid.append ?_ ?_
  · intro c hc
    rw [(List.mem_replicate.mp hc).2]
    exact not_isSurrogate_ofChar '0'
  · intro c hc
    obtain ⟨d, _, rfl⟩ := List.mem_map.mp hc
    exact not_isSurrogate_ofChar _

end Text

theorem Utf8.valid_of_encode {t : Text} {bs : Bytes} (h : encode t = .ok bs) : t.Valid := by
  unfold encode at h
  simp only at h
  split at h
  · next whole =>
    have kept : t.takeWhile (!CodePoint.isSurrogate ·) = t :=
      (List.takeWhile_prefix _).eq_of_length whole
    intro c hc
    rw [← kept] at hc
    simpa using List.all_eq_true.mp List.all_takeWhile c hc
  · cases h

namespace Instant

theorem valid_spellOffset (offset : Int) : Valid (spellOffset offset) := by
  have nothing : Valid [] := List.forall_mem_nil _
  refine Text.Valid.append (((Text.valid_ofString _).append (Text.valid_padded _ _)).append
    (Text.valid_ofString _) |>.append (Text.valid_padded _ _)) ?_
  split
  · exact nothing
  · refine ((Text.valid_ofString _).append (Text.valid_padded _ _)).append ?_
    split
    · exact nothing
    · exact (Text.valid_ofString _).append (Text.valid_padded _ _)

theorem valid_spell (t : Instant) : Valid t.spell := by
  have nothing : Valid [] := List.forall_mem_nil _
  have digits (width n : Nat) := Text.valid_padded width n
  have sign (s : String) := Text.valid_ofString s
  refine Text.Valid.append (Text.Valid.append ?_ ?_) ?_
  · exact (((((((((((digits _ _).append (sign _)).append (digits _ _)).append (sign _)).append
      (digits _ _)).append (sign _)).append (digits _ _)).append (sign _)).append
      (digits _ _)).append (sign _)).append (digits _ _))
  · split
    · exact nothing
    · exact (sign _).append (digits _ _)
  · split
    · exact nothing
    · exact valid_spellOffset _

end Instant

/-! ### Hexadecimal members -/

namespace HexText

theorem hex_eq (bs : Bytes) : Text.ofString (Bytes.hex bs)
    = bs.flatMap fun b => [Text.hexPoint (b.toNat / 16), Text.hexPoint (b.toNat % 16)] := by
  rw [Bytes.hex, Text.ofString_ofList, Text.ofChars, List.map_flatMap]
  rfl

theorem length_hex (bs : Bytes) : (Text.ofString (Bytes.hex bs)).length = 2 * bs.length := by
  rw [hex_eq]
  induction bs with
  | nil => rfl
  | cons b bs ih =>
    rw [List.flatMap_cons, List.length_append, ih]
    simp only [List.length_cons, List.length_nil]
    omega

theorem forall_mem_hex {P : CodePoint → Prop} (h : ∀ n, n < 16 → P (Text.hexPoint n))
    (bs : Bytes) : ∀ c ∈ Text.ofString (Bytes.hex bs), P c := by
  rw [hex_eq]
  intro c hc
  obtain ⟨b, _, member⟩ := List.mem_flatMap.mp hc
  have bound := b.toNat_lt
  rcases List.mem_cons.mp member with rfl | member
  · exact h _ (by omega)
  · rw [List.mem_singleton.mp member]
    exact h _ (by omega)

theorem skipBlanks_hexPoint {n : Nat} (h : n < 16) (t : Text) :
    skipBlanks (Text.hexPoint n :: t) = Text.hexPoint n :: t := by
  have all : ∀ m : Fin 16, ((Text.hexPoint m.val).val = 32
      || (9 ≤ (Text.hexPoint m.val).val && (Text.hexPoint m.val).val ≤ 13)) = false := by
    decide +kernel
  refine List.dropWhile_cons_of_neg ?_
  rw [all ⟨n, h⟩]
  decide

theorem readPairs_hex (bs : Bytes) (extra : Nat) :
    readPairs (bs.length + 1 + extra) (bs.flatMap fun b =>
      [Text.hexPoint (b.toNat / 16), Text.hexPoint (b.toNat % 16)]) = .ok bs := by
  induction bs with
  | nil =>
    rw [show [].length + 1 + extra = extra + 1 by simp; omega]
    rfl
  | cons b bs ih =>
    have bound := b.toNat_lt
    have high := (Text.hexPoint_spec (show b.toNat / 16 < 16 by omega)).1
    have low := (Text.hexPoint_spec (show b.toNat % 16 < 16 by omega)).1
    have byte : UInt8.ofNat (16 * (b.toNat / 16) + b.toNat % 16) = b := by
      rw [show 16 * (b.toNat / 16) + b.toNat % 16 = b.toNat by omega]
      exact UInt8.ofNat_toNat
    rw [show (b :: bs).length + 1 + extra = bs.length + 1 + extra + 1 by simp; omega,
      List.flatMap_cons, List.cons_append, List.cons_append, List.nil_append, readPairs,
      skipBlanks_hexPoint (by omega)]
    simp only [high, low, ih, byte]

theorem read_hex (bs : Bytes) : read (Text.ofString (Bytes.hex bs)) = .ok bs := by
  have small : ∀ n, n < 16 → decide ((Text.hexPoint n).val < 128) = true := by
    have all : ∀ m : Fin 16, decide ((Text.hexPoint m.val).val < 128) = true := by decide +kernel
    exact fun n h => all ⟨n, h⟩
  have whole : (Text.ofString (Bytes.hex bs)).takeWhile (fun c => decide (c.val < 128))
      = Text.ofString (Bytes.hex bs) := by
    have ascii : ∀ c ∈ Text.ofString (Bytes.hex bs), decide (c.val < 128) = true :=
      forall_mem_hex (P := fun c => decide (c.val < 128) = true) small bs
    simpa only [List.append_nil, List.takeWhile_nil] using
      @List.takeWhile_append_of_pos CodePoint (fun c => decide (c.val < 128)) _ [] ascii
  have length : (Text.ofString (Bytes.hex bs)).length + 1 = bs.length + 1 + bs.length := by
    rw [length_hex]
    omega
  rw [read, whole]
  simp only [Nat.lt_irrefl, if_false, length]
  rw [hex_eq, readPairs_hex]

end HexText

/-! ### The record of a password -/

namespace PasswordRecord

theorem bytesOf_hex (bs : Bytes) : bytesOf (.text (Text.ofString (Bytes.hex bs))) = .ok bs := by
  simp only [bytesOf, HexText.read_hex]

theorem read_render (empty : Bool) (salt verifier : Bytes) :
    read (.ok (Directory.asciiBytes (render empty salt verifier)))
      = .ok ⟨.bool empty, .text (Bytes.hex salt), .text (Bytes.hex verifier)⟩ := by
  have recordable : Json.Recordable [("empty", .bool empty), ("salt", .text (Bytes.hex salt)),
      ("verifier", .text (Bytes.hex verifier))] := by
    refine ⟨?_, ?_⟩
    · simp only [List.forall_mem_cons]
      exact ⟨⟨Text.valid_ofString _, .bool _⟩,
        ⟨Text.valid_ofString _, .text (Text.valid_ofString _)⟩,
        ⟨Text.valid_ofString _, .text (Text.valid_ofString _)⟩, List.forall_mem_nil _⟩
    · have names : [Text.ofString "empty", "salt", "verifier"].Nodup := by decide +kernel
      exact names
  have file := Json.ofFile_renderRecord recordable
  simp only [read, Except.bind, render, file]
  rfl

end PasswordRecord

/-! ### Armoured certificates -/

theorem isLabel_certificate : Pem.IsLabel "CERTIFICATE" :=
  ⟨by decide +kernel, by decide +kernel, Text.plain_of_all rfl⟩

namespace X509.Certificate

theorem plain_pem (c : Certificate) : c.pem.Plain := Pem.plain_spell isLabel_certificate _

theorem ofPem_pem (c : Certificate) : ofPem c.pem = ofDer c.der := by
  have blocks : Pem.read? c.pem = some [⟨"CERTIFICATE", c.der⟩] :=
    Pem.read?_spell isLabel_certificate c.der
  have known : labels.contains (Text.ofString "CERTIFICATE") = true := by decide +kernel
  rw [ofPem, blocks]
  simp only [List.find?_cons, known]

end X509.Certificate

/-! ### The record of an entry -/

theorem Path.stem_json {handle : Text} (filled : handle ≠ []) :
    Path.stem (handle ++ ".json") = handle := by
  have ending : Text.ofString ".json" = [CodePoint.ofChar '.', CodePoint.ofChar 'j',
    CodePoint.ofChar 's', CodePoint.ofChar 'o', CodePoint.ofChar 'n'] := rfl
  have letters : ((handle ++ ".json").reverse.takeWhile (· ≠ CodePoint.ofChar '.')).length = 4 := by
    rw [ending, List.reverse_append]
    rfl
  have long : 0 < handle.length := List.length_pos_iff.mpr filled
  have whole : (handle ++ ".json").length = handle.length + 5 := by rw [ending]; simp
  have before : (handle ++ ".json").length - 4 - 1 = handle.length := by omega
  simp only [Path.stem, letters, before]
  rw [if_neg (by omega), List.take_left]

namespace EntryRecord

structure Recordable (e : Entry) : Prop where
  handle : e.handle ≠ []
  name : e.name.Valid
  keyId : Json.Simple e.keyId
  certificate : X509.Certificate.ofDer e.certificate.der = .ok e.certificate

theorem value_render {e : Entry} (h : Recordable e) (importedAt : Instant) :
    ∃ v, Json.ofFile (Directory.asciiBytes (render e importedAt)) = .ok v ∧
      v.field? "name" = some (.text e.name) ∧ entryOf e.handle e.name v = .ok e := by
  have pem := e.certificate.plain_pem.valid
  have recordable : Json.Recordable [("name", .text e.name), ("key_id", e.keyId),
      ("certificate_pem", .text e.certificate.pem), ("imported_at", .text importedAt.spell)] := by
    refine ⟨?_, ?_⟩
    · simp only [List.forall_mem_cons]
      exact ⟨⟨Text.valid_ofString _, .text h.name⟩, ⟨Text.valid_ofString _, h.keyId⟩,
        ⟨Text.valid_ofString _, .text pem⟩,
        ⟨Text.valid_ofString _, .text importedAt.valid_spell⟩, List.forall_mem_nil _⟩
    · have names : [Text.ofString "name", "key_id", "certificate_pem", "imported_at"].Nodup := by
        decide +kernel
      exact names
  have file := Json.ofFile_renderRecord recordable
  refine ⟨_, file, rfl, ?_⟩
  obtain ⟨v, value⟩ : ∃ v : Value, v = .object [("name", .text e.name), ("key_id", e.keyId),
    ("certificate_pem", .text e.certificate.pem), ("imported_at", .text importedAt.spell)] :=
    ⟨_, rfl⟩
  have bound : v.field? "key_id" = some e.keyId := by rw [value]; rfl
  have armour : v.field? "certificate_pem" = some (.text e.certificate.pem) := by rw [value]; rfl
  have certificate : certificateOf v = .ok e.certificate := by
    simp only [certificateOf, armour, Utf8.encode_eq_ok pem, X509.Certificate.ofPem_pem,
      h.certificate]
  rw [← value, entryOf, certificate, bound]
  rfl

theorem isFor_eq {v : Value} {own : Text} (named : v.field? "name" = some (.text own))
    (name : Text) : isFor name v = .ok (own == name) := by
  cases v with
  | object fields => simp only [isFor, named]
  | _ => cases named

theorem read_eq {file name own : Text} {content : Except Fault Bytes} {v : Value} {e : Entry}
    (value : content.bind Json.ofFile = .ok v) (named : v.field? "name" = some (.text own))
    (entry : entryOf (Path.stem file) own v = .ok e) :
    read file name content = .ok (if own = name then some e else none) := by
  rw [read, value]
  simp only [isFor_eq named, bind, Except.bind]
  by_cases same : own = name
  · rw [if_pos (beq_iff_eq.mpr same), if_pos same, ← same, entry]
    rfl
  · rw [if_neg (fun eq => same (beq_iff_eq.mp eq)), if_neg same]
    rfl

end EntryRecord

end CertKeeper
