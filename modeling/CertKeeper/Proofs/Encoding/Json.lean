import CertKeeper.Proofs.Encoding.Armour

/-!
# Reading back records

A record on disk has one member a line; its values are nothing, yes, no or a text.  Main
statements: such a record is plain text, and its file is read as the object that was written.
-/

namespace CertKeeper

namespace Text

def Valid (t : Text) : Prop := ∀ c ∈ t, c.isSurrogate = false

instance (t : Text) : Decidable t.Valid :=
  inferInstanceAs (Decidable (∀ c ∈ t, c.isSurrogate = false))

theorem valid_append {t u : Text} : Valid (t ++ u) ↔ t.Valid ∧ u.Valid := List.forall_mem_append

theorem Plain.valid {t : Text} (h : t.Plain) : t.Valid := by
  intro c hc
  have small := h.lt c hc
  simp only [CodePoint.isSurrogate, Bool.and_eq_false_iff, decide_eq_false_iff_not]
  omega

/-! ### Hexadecimal digits -/

def hexPoint (n : Nat) : CodePoint := CodePoint.ofChar (Bytes.hexDigit n)

theorem hexPoint_spec {n : Nat} (h : n < 16) :
    hexDigit? (hexPoint n) = some n ∧ isPlain (hexPoint n) = true := by
  have all : ∀ m : Fin 16, hexDigit? (hexPoint m.val) = some m.val ∧
      isPlain (hexPoint m.val) = true := by decide +kernel
  exact all ⟨n, h⟩

theorem digits_of_lt {base n : Nat} (h : n < base) : digits base n = [n] := by
  rw [digits, dif_pos (Or.inr h)]

theorem digits_of_le {base n : Nat} (two : 2 ≤ base) (h : base ≤ n) :
    digits base n = digits base (n / base) ++ [n % base] := by
  rw [digits, dif_neg (by omega)]

theorem padLeft_hexLower {n : Nat} (h : n < 0x10000) :
    padLeft 4 '0' (hexLower n) = [hexPoint (n / 4096), hexPoint (n / 256 % 16),
      hexPoint (n / 16 % 16), hexPoint (n % 16)] := by
  have zero : CodePoint.ofChar '0' = hexPoint 0 := rfl
  have spelled : hexLower n = (digits 16 n).map hexPoint := rfl
  rw [spelled]
  by_cases h1 : n < 16
  · rw [digits_of_lt h1, show n / 4096 = 0 by omega, show n / 256 % 16 = 0 by omega,
      show n / 16 % 16 = 0 by omega, show n % 16 = n by omega]
    simp [padLeft, zero, List.replicate]
  rw [digits_of_le (by decide) (by omega)]
  by_cases h2 : n < 256
  · rw [digits_of_lt (by omega), show n / 4096 = 0 by omega, show n / 256 % 16 = 0 by omega,
      show n / 16 % 16 = n / 16 by omega]
    simp [padLeft, zero, List.replicate]
  rw [digits_of_le (by decide) (by omega)]
  by_cases h3 : n < 4096
  · rw [digits_of_lt (by omega), show n / 4096 = 0 by omega,
      show n / 256 % 16 = n / 16 / 16 by omega]
    simp [padLeft, zero]
  rw [digits_of_le (by decide) (by omega), digits_of_lt (by omega),
    show n / 4096 = n / 16 / 16 / 16 by omega, show n / 256 % 16 = n / 16 / 16 % 16 by omega]
  simp [padLeft]

end Text

namespace Json

open Text (hexPoint)

theorem fourDigits?_hexPoint {n : Nat} (h : n < 0x10000) :
    fourDigits? [hexPoint (n / 4096), hexPoint (n / 256 % 16), hexPoint (n / 16 % 16),
      hexPoint (n % 16)] = some n := by
  have a := (Text.hexPoint_spec (show n / 4096 < 16 by omega)).1
  have b := (Text.hexPoint_spec (show n / 256 % 16 < 16 by omega)).1
  have c := (Text.hexPoint_spec (show n / 16 % 16 < 16 by omega)).1
  have d := (Text.hexPoint_spec (show n % 16 < 16 by omega)).1
  simp only [fourDigits?, a, b, c, d, Option.bind_eq_bind, Option.bind_some, Option.pure_def,
    Option.some.injEq]
  omega

theorem unitEscape_eq {n : Nat} (h : n < 0x10000) :
    unitEscape n = [CodePoint.ofChar '\\', CodePoint.ofChar 'u', hexPoint (n / 4096),
      hexPoint (n / 256 % 16), hexPoint (n / 16 % 16), hexPoint (n % 16)] := by
  rw [unitEscape, Text.padLeft_hexLower h]
  rfl

theorem plain_unitEscape {n : Nat} (h : n < 0x10000) : (unitEscape n).Plain := by
  rw [unitEscape_eq h]
  simp only [Text.plain_cons]
  exact ⟨by decide, by decide, (Text.hexPoint_spec (by omega)).2, (Text.hexPoint_spec (by omega)).2,
    (Text.hexPoint_spec (by omega)).2, (Text.hexPoint_spec (by omega)).2, Text.plain_nil⟩

theorem plain_escapePoint (c : CodePoint) : (escapePoint c).Plain := by
  have bound := c.isLt
  unfold escapePoint
  split
  · exact Text.plain_of_all rfl
  split
  · exact Text.plain_of_all rfl
  split
  · exact Text.plain_of_all rfl
  split
  · exact Text.plain_of_all rfl
  split
  · exact Text.plain_of_all rfl
  split
  · exact Text.plain_of_all rfl
  split
  · exact Text.plain_of_all rfl
  split
  · next printable =>
    intro d hd
    rw [List.mem_singleton.mp hd]
    simp only [Text.isPlain, Bool.or_eq_true, Bool.and_eq_true, decide_eq_true_eq]
    exact Or.inr printable
  split
  · next small => exact plain_unitEscape small
  · exact (plain_unitEscape (by omega)).append (plain_unitEscape (by omega))

theorem plain_renderString (t : Text) : (renderString t).Plain := by
  have quote : Text.Plain "\"" := Text.plain_of_all rfl
  exact (quote.append (Text.plain_flatMap fun c _ => plain_escapePoint c)).append quote

/-! ### Strings -/

/-- From wherever it starts, the reader takes a text from a source and leaves the rest. -/
def ReadsString (start fuel : Nat) (source t rest : Text) : Prop :=
  ∀ p, ∃ q, readString start fuel ⟨p, source⟩ = .ok (t, ⟨q, rest⟩)

theorem readString_unit {start fuel position : Nat} {c : CodePoint} {rest u : Text} {k : Cursor}
    (small : c.val < 0x10000) (whole : c.isSurrogate = false) (more : rest ≠ [])
    (h : readString start fuel ⟨position + 6, rest⟩ = .ok (u, k)) :
    readString start (fuel + 1) ⟨position, unitEscape c.val ++ rest⟩ = .ok (c :: u, k) := by
  have long : 0 < rest.length := List.length_pos_iff.mpr more
  have notHalf : ¬ (0xD800 ≤ c.val ∧ c.val < 0xDC00) := by
    simp only [CodePoint.isSurrogate, Bool.and_eq_false_iff, decide_eq_false_iff_not] at whole
    omega
  have point : CodePoint.ofNat c.val = c := by
    simp only [CodePoint.ofNat, c.isLt, dif_pos]
  rw [unitEscape_eq small]
  simp only [List.cons_append, List.nil_append, readString]
  rw [if_neg (by decide), if_neg (by decide), if_neg (by decide), if_neg (by decide),
    if_neg (by simp only [List.length_cons]; omega)]
  simp only [List.take_succ_cons, List.take_zero, fourDigits?_hexPoint small, if_neg notHalf,
    Cursor.advance, List.drop_succ_cons, List.drop_zero, h, point]
  rfl

theorem readString_pair {start fuel position : Nat} {c : CodePoint} {rest u : Text} {k : Cursor}
    (large : 0x10000 ≤ c.val) (more : rest ≠ [])
    (h : readString start fuel ⟨position + 12, rest⟩ = .ok (u, k)) :
    readString start (fuel + 1) ⟨position, unitEscape (0xD800 + (c.val - 0x10000) / 0x400) ++
      unitEscape (0xDC00 + (c.val - 0x10000) % 0x400) ++ rest⟩ = .ok (c :: u, k) := by
  have bound := c.isLt
  have long : 0 < rest.length := List.length_pos_iff.mpr more
  obtain ⟨high, highValue⟩ : ∃ n, n = 0xD800 + (c.val - 0x10000) / 0x400 := ⟨_, rfl⟩
  obtain ⟨low, lowValue⟩ : ∃ n, n = 0xDC00 + (c.val - 0x10000) % 0x400 := ⟨_, rfl⟩
  have first : high < 0x10000 := by omega
  have second : low < 0x10000 := by omega
  have isHigh : 0xD800 ≤ high ∧ high < 0xDC00 := by omega
  have isLow : 0xDC00 ≤ low ∧ low < 0xE000 := by omega
  have point : CodePoint.ofNat (0x10000 + (high - 0xD800) * 0x400 + (low - 0xDC00)) = c := by
    have value : 0x10000 + (high - 0xD800) * 0x400 + (low - 0xDC00) = c.val := by omega
    rw [value]
    simp only [CodePoint.ofNat, bound, dif_pos]
  rw [← highValue, ← lowValue, unitEscape_eq first, unitEscape_eq second]
  simp only [List.cons_append, List.nil_append, readString]
  rw [if_neg (by decide), if_neg (by decide), if_neg (by decide), if_neg (by decide),
    if_neg (by simp only [List.length_cons]; omega)]
  simp only [List.take_succ_cons, List.take_zero, fourDigits?_hexPoint first, if_pos isHigh,
    Cursor.advance, List.drop_succ_cons, List.drop_zero, secondHalf]
  rw [if_pos ⟨trivial, trivial, by simp only [List.length_cons]; omega⟩]
  simp only [fourDigits?_hexPoint second, if_pos isLow, point, bind, Except.bind, h]
  rfl

theorem readsString_simple {start fuel : Nat} {c letter : CodePoint} {rest u after : Text}
    (known : simpleEscape? letter = some c) (other : letter ≠ CodePoint.ofChar 'u')
    (h : ReadsString start fuel rest u after) :
    ReadsString start (fuel + 1) (CodePoint.ofChar '\\' :: letter :: rest) (c :: u) after := by
  intro p
  obtain ⟨q, read⟩ := h (p + 2)
  refine ⟨q, ?_⟩
  simp only [readString]
  rw [if_neg (by decide), if_neg (by decide), if_neg (by decide), if_pos other]
  simp only [known, Cursor.advance, List.drop_succ_cons, List.drop_zero, read]
  rfl

theorem readsString_escapePoint {start fuel : Nat} {c : CodePoint} {rest u after : Text}
    (whole : c.isSurrogate = false) (more : rest ≠ []) (h : ReadsString start fuel rest u after) :
    ReadsString start (fuel + 1) (escapePoint c ++ rest) (c :: u) after := by
  have value {n : Nat} (e : c.val = n) (bound : n < 0x110000) : c = ⟨n, bound⟩ := Fin.ext e
  unfold escapePoint
  split
  · next e =>
    subst e
    exact readsString_simple rfl (by decide) h
  split
  · next e =>
    subst e
    exact readsString_simple rfl (by decide) h
  split
  · next e => exact readsString_simple (value e (by decide) ▸ rfl) (by decide) h
  split
  · next e => exact readsString_simple (value e (by decide) ▸ rfl) (by decide) h
  split
  · next e => exact readsString_simple (value e (by decide) ▸ rfl) (by decide) h
  split
  · next e => exact readsString_simple (value e (by decide) ▸ rfl) (by decide) h
  split
  · next e => exact readsString_simple (value e (by decide) ▸ rfl) (by decide) h
  split
  · next quote slash _ _ _ _ _ printable =>
    intro p
    obtain ⟨q, read⟩ := h (p + 1)
    refine ⟨q, ?_⟩
    simp only [List.cons_append, List.nil_append, readString]
    rw [if_neg quote, if_neg (by omega), if_pos slash]
    simp only [Cursor.advance, List.drop_succ_cons, List.drop_zero, read]
    rfl
  split
  · next small =>
    intro p
    obtain ⟨q, read⟩ := h (p + 6)
    exact ⟨q, readString_unit small whole more read⟩
  · next large =>
    intro p
    obtain ⟨q, read⟩ := h (p + 12)
    exact ⟨q, readString_pair (by omega) more read⟩

theorem readsString_flatMap {t : Text} (valid : t.Valid) (start extra : Nat) (after : Text) :
    ReadsString start (t.length + 1 + extra)
      (t.flatMap escapePoint ++ CodePoint.ofChar '"' :: after) t after := by
  induction t with
  | nil =>
    intro p
    refine ⟨p + 1, ?_⟩
    rw [show [].length + 1 + extra = extra + 1 by simp; omega]
    rfl
  | cons c t ih =>
    have rest := ih fun x hx => valid x (List.mem_cons_of_mem _ hx)
    rw [List.flatMap_cons, List.append_assoc,
      show (c :: t).length + 1 + extra = t.length + 1 + extra + 1 by simp; omega]
    exact readsString_escapePoint (valid c List.mem_cons_self) (by simp) rest

/-! ### Values of records -/

inductive Simple : Value → Prop
  | null : Simple .null
  | bool (b : Bool) : Simple (.bool b)
  | text {t : Text} (valid : t.Valid) : Simple (.text t)

theorem Simple.plain_render {v : Value} (h : Simple v) : (render v).Plain := by
  cases h with
  | null => exact Text.plain_of_all rfl
  | bool b => cases b <;> exact Text.plain_of_all rfl
  | text _ => exact plain_renderString _

theorem escapePoint_cons (c : CodePoint) : ∃ d u, escapePoint c = d :: u := by
  unfold escapePoint
  repeat' split
  all_goals exact ⟨_, _, rfl⟩

theorem length_le_flatMap_escapePoint (t : Text) : t.length ≤ (t.flatMap escapePoint).length := by
  induction t with
  | nil => exact Nat.le_refl _
  | cons c t ih =>
    obtain ⟨d, u, filled⟩ := escapePoint_cons c
    rw [List.flatMap_cons, filled, List.length_append, List.length_cons, List.length_cons]
    omega

theorem readString_renderString {t : Text} (valid : t.Valid) (position : Nat) (after : Text) :
    ∃ q, readString position ((renderString t ++ after).length + 1)
      ((Cursor.mk position (renderString t ++ after)).advance 1) = .ok (t, ⟨q, after⟩) := by
  have shape : renderString t ++ after
      = CodePoint.ofChar '"' :: (t.flatMap escapePoint ++ CodePoint.ofChar '"' :: after) := by
    have quote : Text.ofString "\"" = [CodePoint.ofChar '"'] := rfl
    simp only [renderString, quote, List.append_assoc, List.cons_append, List.nil_append]
  have longer := length_le_flatMap_escapePoint t
  obtain ⟨extra, fuel⟩ : ∃ extra, (renderString t ++ after).length + 1 = t.length + 1 + extra := by
    refine ⟨(renderString t ++ after).length - t.length, ?_⟩
    rw [shape]
    simp only [List.length_cons, List.length_append]
    omega
  rw [fuel, shape]
  exact readsString_flatMap valid position extra after (position + 1)

theorem Simple.readValue_render {v : Value} (h : Simple v) (depth fuel position : Nat)
    (after : Text) :
    ∃ q, readValue depth (fuel + 1) ⟨position, render v ++ after⟩ = .ok (v, ⟨q, after⟩) := by
  cases h with
  | null => exact ⟨_, rfl⟩
  | bool b => cases b <;> exact ⟨_, rfl⟩
  | @text t valid =>
    obtain ⟨q, read⟩ := readString_renderString valid position after
    refine ⟨q, ?_⟩
    have quoted : (Cursor.mk position (renderString t ++ after)).at? '"' = true := rfl
    simp only [render, readValue, quoted, if_true, read]
    rfl

theorem Simple.render_cons {v : Value} (h : Simple v) :
    ∃ c t, render v = c :: t ∧ isBlank c = false := by
  cases h with
  | null => exact ⟨_, _, rfl, by decide⟩
  | bool b =>
    cases b
    · exact ⟨_, _, rfl, by decide⟩
    · exact ⟨_, _, rfl, by decide⟩
  | text _ => exact ⟨_, _, rfl, by decide⟩

theorem skipBlanks_of_head {c : CodePoint} (h : isBlank c = false) (position : Nat) (t : Text) :
    (Cursor.mk position (c :: t)).skipBlanks = ⟨position, c :: t⟩ := by
  simp [Cursor.skipBlanks, Cursor.advance, h]

theorem skipBlanks_blank {c : CodePoint} (h : isBlank c = true) (position : Nat) (t : Text) :
    ∃ q, (Cursor.mk position (c :: t)).skipBlanks = (Cursor.mk q t).skipBlanks := by
  refine ⟨position + 1, ?_⟩
  simp only [Cursor.skipBlanks, Cursor.advance, List.takeWhile_cons, h, if_true, List.length_cons,
    List.drop_succ_cons, Cursor.mk.injEq, and_true]
  omega

/-! ### Records -/

def blank : CodePoint := CodePoint.ofChar ' '

/-- What follows a member: the other members, each after a comma, and the closing brace. -/
def closing : List (Text × Value) → Text
  | [] => [Pem.feed, CodePoint.ofChar '\x7d']
  | f :: fs => CodePoint.ofChar ',' :: Pem.feed :: blank :: blank ::
      (renderString f.1 ++ CodePoint.ofChar ':' :: blank :: (render f.2 ++ closing fs))

theorem renderRecord_cons (f : Text × Value) (fs : List (Text × Value)) :
    renderRecord (f :: fs) = CodePoint.ofChar '\x7b' :: Pem.feed :: blank :: blank ::
      (renderString f.1 ++ CodePoint.ofChar ':' :: blank :: (render f.2 ++ closing fs)) := by
  have opening : Text.ofString "\x7b\n" = [CodePoint.ofChar '\x7b', Pem.feed] := rfl
  have comma : Text.ofString ",\n" = [CodePoint.ofChar ',', Pem.feed] := rfl
  have indent : Text.ofString "  " = [blank, blank] := rfl
  have colon : Text.ofString ": " = [CodePoint.ofChar ':', blank] := rfl
  have brace : Text.ofString "\n\x7d" = [Pem.feed, CodePoint.ofChar '\x7d'] := rfl
  have others : ∀ (g : Text × Value) (gs : List (Text × Value)),
      Text.join ",\n" ((g :: gs).map fun f => "  " ++ renderString f.1 ++ ": " ++ render f.2) ++
        [Pem.feed, CodePoint.ofChar '\x7d']
      = blank :: blank ::
          (renderString g.1 ++ CodePoint.ofChar ':' :: blank :: (render g.2 ++ closing gs)) := by
    intro g gs
    induction gs generalizing g with
    | nil =>
      simp only [List.map_cons, List.map_nil, Text.join, indent, colon, closing, List.append_assoc,
        List.cons_append, List.nil_append]
    | cons m ms ih =>
      rw [List.map_cons, Text.join_cons _ _ (by simp), List.append_assoc, ih m]
      simp only [indent, colon, comma, closing, List.append_assoc, List.cons_append,
        List.nil_append]
  rw [renderRecord, opening, brace, List.append_assoc, others]
  rfl

/-- Members that can be read back: texts with an encoding, no two of one name. -/
structure Recordable (fields : List (Text × Value)) : Prop where
  simple : ∀ f ∈ fields, f.1.Valid ∧ Simple f.2
  distinct : (fields.map Prod.fst).Nodup

theorem plain_renderRecord {fields : List (Text × Value)} (h : Recordable fields) :
    (renderRecord fields).Plain := by
  have opening : Text.Plain "\x7b\n" := Text.plain_of_all rfl
  have comma : Text.Plain ",\n" := Text.plain_of_all rfl
  have indent : Text.Plain "  " := Text.plain_of_all rfl
  have colon : Text.Plain ": " := Text.plain_of_all rfl
  have brace : Text.Plain "\n\x7d" := Text.plain_of_all rfl
  refine (opening.append (Text.plain_join comma ?_)).append brace
  intro t ht
  obtain ⟨f, hf, rfl⟩ := List.mem_map.mp ht
  exact ((indent.append (plain_renderString _)).append colon).append (h.simple f hf).2.plain_render

theorem readFields_member {f : Text × Value} (valid : f.1.Valid) (simple : Simple f.2)
    (depth fuel position : Nat) (after : Text) :
    ∃ q, readFields depth (fuel + 2) ⟨position,
      renderString f.1 ++ CodePoint.ofChar ':' :: blank :: (render f.2 ++ after)⟩
        = let k := (Cursor.mk q after).skipBlanks
          if k.at? '\x7d' then .ok ([f], k.advance 1)
          else if !k.at? ',' then k.fail .comma
          else do
            let (rest, k) ← readFields depth (fuel + 1) (k.advance 1).skipBlanks
            return (f :: rest, k) := by
  obtain ⟨p1, name⟩ := readString_renderString valid position
    (CodePoint.ofChar ':' :: blank :: (render f.2 ++ after))
  obtain ⟨c, t, value, solid⟩ := simple.render_cons
  obtain ⟨p2, gap⟩ := skipBlanks_blank (show isBlank blank = true by decide) (p1 + 1)
    (render f.2 ++ after)
  obtain ⟨q, read⟩ := simple.readValue_render depth fuel p2 after
  have quoted : (Cursor.mk position (renderString f.1 ++ CodePoint.ofChar ':' :: blank ::
    (render f.2 ++ after))).at? '"' = true := rfl
  have colon : (Cursor.mk p1 (CodePoint.ofChar ':' :: blank :: (render f.2 ++ after))).at? ':'
    = true := rfl
  have here : (Cursor.mk p2 (render f.2 ++ after)).skipBlanks = ⟨p2, render f.2 ++ after⟩ := by
    rw [value, List.cons_append]
    exact skipBlanks_of_head solid _ _
  have next : ((Cursor.mk p1 (CodePoint.ofChar ':' :: blank :: (render f.2 ++ after))).advance
      1).skipBlanks = ⟨p2, render f.2 ++ after⟩ := gap.trans here
  refine ⟨q, ?_⟩
  rw [readFields, quoted]
  simp only [Bool.not_true, Bool.false_eq_true, if_false, name, bind, Except.bind]
  rw [skipBlanks_of_head (by decide), colon, next, read]
  rfl

theorem skipBlanks_indent (position : Nat) (name : Text) (rest : List CodePoint) :
    ∃ p, (Cursor.mk position
        (Pem.feed :: blank :: blank :: (renderString name ++ rest))).skipBlanks
      = ⟨p, renderString name ++ rest⟩ := by
  obtain ⟨p1, feed⟩ := skipBlanks_blank (show isBlank Pem.feed = true by decide) position
    (blank :: blank :: (renderString name ++ rest))
  obtain ⟨p2, first⟩ := skipBlanks_blank (show isBlank blank = true by decide) p1
    (blank :: (renderString name ++ rest))
  obtain ⟨p3, second⟩ := skipBlanks_blank (show isBlank blank = true by decide) p2
    (renderString name ++ rest)
  have start : (Cursor.mk p3 (renderString name ++ rest)).skipBlanks
      = ⟨p3, renderString name ++ rest⟩ :=
    skipBlanks_of_head (show isBlank (CodePoint.ofChar '"') = false by decide) _ _
  exact ⟨p3, ((feed.trans first).trans second).trans start⟩

theorem readFields_members {f : Text × Value} {fs : List (Text × Value)}
    (h : ∀ g ∈ f :: fs, g.1.Valid ∧ Simple g.2) (depth extra position : Nat) :
    ∃ q, readFields depth (fs.length + 2 + extra) ⟨position,
      renderString f.1 ++ CodePoint.ofChar ':' :: blank :: (render f.2 ++ closing fs)⟩
        = .ok (f :: fs, ⟨q, []⟩) := by
  induction fs generalizing f position with
  | nil =>
    obtain ⟨valid, simple⟩ := h f List.mem_cons_self
    obtain ⟨p1, member⟩ := readFields_member valid simple depth extra position (closing [])
    obtain ⟨p2, feed⟩ := skipBlanks_blank (show isBlank Pem.feed = true by decide) p1
      [CodePoint.ofChar '\x7d']
    have brace : (Cursor.mk p1 (closing [])).skipBlanks = ⟨p2, [CodePoint.ofChar '\x7d']⟩ :=
      feed.trans (skipBlanks_of_head (by decide) _ _)
    refine ⟨p2 + 1, ?_⟩
    rw [show [].length + 2 + extra = extra + 2 by simp; omega, member]
    simp only [brace]
    rfl
  | cons g gs ih =>
    obtain ⟨valid, simple⟩ := h f List.mem_cons_self
    obtain ⟨p1, member⟩ := readFields_member valid simple depth (gs.length + 1 + extra) position
      (closing (g :: gs))
    obtain ⟨p4, next⟩ := skipBlanks_indent (p1 + 1) g.1
      (CodePoint.ofChar ':' :: blank :: (render g.2 ++ closing gs))
    have others : ∀ m ∈ g :: gs, m.1.Valid ∧ Simple m.2 :=
      fun m hm => h m (List.mem_cons_of_mem _ hm)
    obtain ⟨q, rest⟩ := ih others p4
    have comma : (Cursor.mk p1 (closing (g :: gs))).skipBlanks = ⟨p1, closing (g :: gs)⟩ :=
      skipBlanks_of_head (show isBlank (CodePoint.ofChar ',') = false by decide) _ _
    have next' : ((Cursor.mk p1 (closing (g :: gs))).advance 1).skipBlanks = _ := next
    have isComma : (Cursor.mk p1 (closing (g :: gs))).at? ',' = true := rfl
    have isBrace : (Cursor.mk p1 (closing (g :: gs))).at? '\x7d' = false := rfl
    refine ⟨q, ?_⟩
    rw [show (g :: gs).length + 2 + extra = gs.length + 1 + extra + 2 by simp; omega, member]
    simp only [comma, isBrace, isComma, Bool.false_eq_true, Bool.not_true, if_false, next']
    rw [show gs.length + 1 + extra + 1 = gs.length + 2 + extra by omega, rest]
    rfl

theorem foldl_setField {fields acc : List (Text × Value)}
    (h : ((acc ++ fields).map Prod.fst).Nodup) :
    fields.foldl (fun acc f => Value.setField f.1 f.2 acc) acc = acc ++ fields := by
  have absent : ∀ (acc : List (Text × Value)) (f : Text × Value), f.1 ∉ acc.map Prod.fst →
      Value.setField f.1 f.2 acc = acc ++ [f] := by
    intro acc f
    induction acc with
    | nil => intro _; rfl
    | cons g gs ih =>
      intro new
      simp only [List.map_cons, List.mem_cons, not_or] at new
      rw [Value.setField, if_neg (Ne.symm new.1), ih new.2]
      rfl
  induction fields generalizing acc with
  | nil => exact (List.append_nil _).symm
  | cons f fs ih =>
    have new : f.1 ∉ acc.map Prod.fst := by
      rw [List.map_append, List.map_cons, List.nodup_append] at h
      exact fun member => h.2.2 _ member _ List.mem_cons_self rfl
    rw [List.foldl_cons, absent acc f new, ih (by rw [List.append_assoc]; exact h),
      List.append_assoc]
    rfl

theorem length_closing (fs : List (Text × Value)) : fs.length ≤ (closing fs).length := by
  induction fs with
  | nil => exact Nat.zero_le _
  | cons f fs ih =>
    simp only [closing, List.length_cons, List.length_append]
    omega

theorem read_renderRecord {f : Text × Value} {fs : List (Text × Value)}
    (h : Recordable (f :: fs)) : read (renderRecord (f :: fs)) = .ok (.object (f :: fs)) := by
  have long : fs.length ≤ (renderRecord (f :: fs)).length := by
    have closing := length_closing fs
    rw [renderRecord_cons]
    simp only [List.length_cons, List.length_append]
    omega
  obtain ⟨extra, fuel⟩ : ∃ extra, 2 * (renderRecord (f :: fs)).length + 2
      = fs.length + 2 + extra + 1 := by
    have some_ : 1 ≤ (renderRecord (f :: fs)).length := by
      rw [renderRecord_cons]
      simp only [List.length_cons]
      omega
    exact ⟨2 * (renderRecord (f :: fs)).length - fs.length - 1, by omega⟩
  obtain ⟨p3, inside⟩ := skipBlanks_indent 1 f.1
    (CodePoint.ofChar ':' :: blank :: (render f.2 ++ closing fs))
  obtain ⟨q, members⟩ := readFields_members h.simple 1 extra p3
  have spelled := renderRecord_cons f fs
  have unread : (renderRecord (f :: fs)).head? ≠ some (CodePoint.ofNat 0xFEFF) := by
    rw [spelled, List.head?_cons]
    decide
  have opened :
      (Cursor.mk 0 (renderRecord (f :: fs))).skipBlanks = ⟨0, renderRecord (f :: fs)⟩ := by
    rw [spelled]
    exact skipBlanks_of_head (by decide) _ _
  have quote : (Cursor.mk 0 (renderRecord (f :: fs))).at? '"' = false := by rw [spelled]; rfl
  have brace : (Cursor.mk 0 (renderRecord (f :: fs))).at? '\x7b' = true := by rw [spelled]; rfl
  have advanced : ((Cursor.mk 0 (renderRecord (f :: fs))).advance 1).skipBlanks
      = ⟨p3, renderString f.1 ++ CodePoint.ofChar ':' :: blank :: (render f.2 ++ closing fs)⟩ := by
    rw [spelled]
    exact inside
  have filled : (Cursor.mk p3 (renderString f.1 ++ CodePoint.ofChar ':' :: blank ::
    (render f.2 ++ closing fs))).at? '\x7d' = false := rfl
  have object : Value.objectOf (f :: fs) = .object (f :: fs) := by
    rw [Value.objectOf, foldl_setField (by rw [List.nil_append]; exact h.distinct)]
    rfl
  rw [read, if_neg unread, fuel]
  simp only [opened, readValue, quote, brace, advanced, filled, Bool.false_eq_true, if_false,
    if_true, show ¬ maxDepth ≤ 0 by decide, members, object, bind, Except.bind, pure, Except.pure,
    Nat.zero_add]
  rfl

theorem ofFile_renderRecord {f : Text × Value} {fs : List (Text × Value)}
    (h : Recordable (f :: fs)) :
    ofFile (Directory.asciiBytes (renderRecord (f :: fs))) = .ok (.object (f :: fs)) := by
  have plain := plain_renderRecord h
  simp only [ofFile, Utf8.decode_asciiBytes plain, plain.unifyLineEnds, read_renderRecord h]

end Json

end CertKeeper
