import CertKeeper.Json.Reader
import CertKeeper.Store.Directory

/-!
# Reading back armoured text

What a store writes is ASCII without carriage returns, so its bytes are read as the text that was
written.  Main statements: the bytes of such a text decode to it, and a block is read from its own
spelling.
-/

namespace CertKeeper

/-! ### Plain text -/

namespace Text

def isPlain (c : CodePoint) : Bool := c.val = 10 || (32 ≤ c.val && c.val < 127)

def Plain (t : Text) : Prop := ∀ c ∈ t, isPlain c = true

theorem plain_nil : Plain [] := List.forall_mem_nil _

theorem plain_of_all {t : Text} (h : t.all isPlain = true) : t.Plain := List.all_eq_true.mp h

theorem Plain.append {t u : Text} (ht : t.Plain) (hu : u.Plain) : (t ++ u).Plain :=
  List.forall_mem_append.mpr ⟨ht, hu⟩

theorem plain_cons {c : CodePoint} {t : Text} : Plain (c :: t) ↔ isPlain c = true ∧ Plain t :=
  List.forall_mem_cons

theorem plain_flatMap {α : Type} {l : List α} {f : α → Text} (h : ∀ a ∈ l, (f a).Plain) :
    Plain (l.flatMap f) := by
  intro c hc
  obtain ⟨a, ha, member⟩ := List.mem_flatMap.mp hc
  exact h a ha c member

theorem plain_join {sep : Text} (hs : sep.Plain) {ts : List Text} (h : ∀ t ∈ ts, t.Plain) :
    (join sep ts).Plain := by
  induction ts with
  | nil => exact plain_nil
  | cons t ts ih =>
    cases ts with
    | nil => exact h t List.mem_cons_self
    | cons u rest =>
      have first := h t List.mem_cons_self
      have others := ih fun x hx => h x (List.mem_cons_of_mem _ hx)
      exact (first.append hs).append others

theorem Plain.lt {t : Text} (h : t.Plain) : ∀ c ∈ t, c.val < 128 := by
  intro c hc
  have plain := h c hc
  simp only [isPlain, Bool.or_eq_true, Bool.and_eq_true, decide_eq_true_eq] at plain
  omega

theorem Plain.unifyLineEnds {t : Text} (h : t.Plain) : Text.unifyLineEnds t = t := by
  refine Text.unifyLineEnds_eq_self fun member => ?_
  have plain := h _ member
  revert plain
  decide

theorem cut?_append {c : CodePoint} {before : Text} (absent : c ∉ before) (sep after : Text) :
    cut? (c :: sep) (before ++ (c :: sep ++ after)) = some (before, after) := by
  induction before with
  | nil =>
    simp only [List.nil_append, List.cons_append, cut?]
    have starts : startsWith (c :: sep) (c :: (sep ++ after)) = true := by
      simp [startsWith, List.isPrefixOf_iff_prefix]
    simp [starts]
  | cons d before ih =>
    simp only [List.mem_cons, not_or] at absent
    have other : startsWith (c :: sep) (d :: (before ++ (c :: sep ++ after))) = false := by
      simp [startsWith, List.isPrefixOf, absent.1]
    rw [List.cons_append, cut?, other, ih absent.2]
    rfl

theorem cut?_eq_none {c : CodePoint} {t : Text} (absent : c ∉ t) (sep : Text) :
    cut? (c :: sep) t = none := by
  induction t with
  | nil => rfl
  | cons d t ih =>
    simp only [List.mem_cons, not_or] at absent
    have other : startsWith (c :: sep) (d :: t) = false := by
      simp [startsWith, List.isPrefixOf, absent.1]
    rw [cut?, other, ih absent.2]
    rfl

end Text

namespace Utf8

theorem decodeFrom_ascii (all : Bytes) (position : Nat) {t : Text} (h : ∀ c ∈ t, c.val < 128) :
    decodeFrom all position none (Directory.asciiBytes t) = .ok t := by
  induction t generalizing position with
  | nil => rfl
  | cons c t ih =>
    have small := h c List.mem_cons_self
    have byte : (UInt8.ofNat c.val).toNat = c.val := by
      rw [UInt8.toNat_ofNat']
      omega
    have point : lead position (UInt8.ofNat c.val) = .point c := by
      simp only [lead, byte, small, dif_pos]
    have rest := ih (position + 1) fun x hx => h x (List.mem_cons_of_mem _ hx)
    simp only [Directory.asciiBytes, List.map_cons, decodeFrom, point] at rest ⊢
    rw [rest]
    rfl

theorem decode_asciiBytes {t : Text} (h : t.Plain) : decode (Directory.asciiBytes t) = .ok t :=
  decodeFrom_ascii _ 0 h.lt

end Utf8

/-! ### Letters of base 64 -/

namespace Base64

def isLetter (c : CodePoint) : Bool :=
  (65 ≤ c.val && c.val ≤ 90) || (97 ≤ c.val && c.val ≤ 122) || (48 ≤ c.val && c.val ≤ 57) ||
    c.val = 43 || c.val = 47 || c.val = 61

theorem isLetter_letter (n : Nat) (h : n < 64) : isLetter (letter n) = true := by
  have all : ∀ m : Fin 64, isLetter (letter m.val) = true := by decide
  exact all ⟨n, h⟩

theorem isLetter_encode (bs : Bytes) : ∀ c ∈ encode bs, isLetter c = true := by
  have pad : isLetter pad = true := by decide
  fun_induction encode bs with
  | case1 a b c rest ih =>
    have ha := a.toNat_lt
    have hb := b.toNat_lt
    have hc := c.toNat_lt
    simp only [List.forall_mem_cons]
    exact ⟨isLetter_letter _ (by omega), isLetter_letter _ (by omega),
      isLetter_letter _ (by omega), isLetter_letter _ (by omega), ih⟩
  | case2 a b =>
    have ha := a.toNat_lt
    have hb := b.toNat_lt
    simp only [List.forall_mem_cons]
    exact ⟨isLetter_letter _ (by omega), isLetter_letter _ (by omega),
      isLetter_letter _ (by omega), pad, List.forall_mem_nil _⟩
  | case3 a =>
    have ha := a.toNat_lt
    simp only [List.forall_mem_cons]
    exact ⟨isLetter_letter _ (by omega), isLetter_letter _ (by omega), pad, pad,
      List.forall_mem_nil _⟩
  | case4 => exact List.forall_mem_nil _

theorem of_isLetter {c : CodePoint} (h : isLetter c = true) :
    Text.isPlain c = true ∧ Text.isBlank c = false ∧ c ≠ CodePoint.ofChar '-' ∧
      c ≠ CodePoint.ofChar '\n' ∧ c ≠ CodePoint.ofChar '\r' := by
  have value : ∀ d : Char, c = CodePoint.ofChar d → c.val = d.toNat := by
    intro d e
    rw [e]
    rfl
  simp only [isLetter, Bool.or_eq_true, Bool.and_eq_true, decide_eq_true_eq] at h
  refine ⟨?_, ?_, fun e => ?_, fun e => ?_, fun e => ?_⟩
  · simp only [Text.isPlain, Bool.or_eq_true, Bool.and_eq_true, decide_eq_true_eq]
    omega
  · simp only [Text.isBlank, Bool.or_eq_false_iff, Bool.and_eq_false_iff, decide_eq_false_iff_not]
    omega
  · have := value _ e
    simp at this
    omega
  · have := value _ e
    simp at this
    omega
  · have := value _ e
    simp at this
    omega

end Base64

/-! ### Blocks -/

namespace Pem

def feed : CodePoint := CodePoint.ofChar '\n'

def IsLine (l : Text) : Prop := l ≠ [] ∧ ∀ c ∈ l, Base64.isLetter c = true

theorem isLine_wrap {width : Nat} (pos : 0 < width) (fuel : Nat) {t : Text}
    (h : ∀ c ∈ t, Base64.isLetter c = true) : ∀ l ∈ wrap width fuel t, IsLine l := by
  induction fuel generalizing t with
  | zero => exact List.forall_mem_nil _
  | succ fuel ih =>
    rw [wrap]
    split
    · exact List.forall_mem_nil _
    · next filled =>
      rw [List.forall_mem_cons]
      refine ⟨⟨?_, fun c hc => h c (List.mem_of_mem_take hc)⟩,
        ih fun c hc => h c (List.mem_of_mem_drop hc)⟩
      intro empty
      rcases List.take_eq_nil_iff.mp empty with zero | nil
      · omega
      · exact filled (List.isEmpty_iff.mpr nil)

def spellLines (ls : List Text) : Text := ls.flatMap (fun l => l ++ [feed])

theorem IsLine.feed_not_mem {l : Text} (h : IsLine l) : feed ∉ l := fun member =>
  (Base64.of_isLetter (h.2 _ member)).2.2.2.1 rfl

theorem splitOn_line {l : Text} (h : feed ∉ l) (rest : Text) :
    Text.splitOn feed (l ++ feed :: rest) = l :: Text.splitOn feed rest := by
  induction l with
  | nil =>
    rw [List.nil_append, Text.splitOn]
    cases pieces : Text.splitOn feed rest with
    | nil => exact absurd pieces (Text.splitOn_ne_nil _ _)
    | cons piece more => simp
  | cons c l ih =>
    simp only [List.mem_cons, not_or] at h
    rw [List.cons_append, Text.splitOn, ih h.2]
    simp only [if_neg (Ne.symm h.1)]

theorem splitOn_spellLines {ls : List Text} (h : ∀ l ∈ ls, IsLine l) :
    Text.splitOn feed (spellLines ls) = ls ++ [[]] := by
  induction ls with
  | nil => rfl
  | cons l ls ih =>
    have first := (h l List.mem_cons_self).feed_not_mem
    have rest := ih fun x hx => h x (List.mem_cons_of_mem _ hx)
    rw [spellLines, List.flatMap_cons, List.append_assoc]
    change Text.splitOn feed (l ++ feed :: spellLines ls) = _
    rw [splitOn_line first, rest]
    rfl

theorem linesOf_spellLines {ls : List Text} (h : ∀ l ∈ ls, IsLine l) :
    linesOf (spellLines ls) = ls := by
  have bare : ∀ l ∈ ls ++ [[]],
      (if l.getLast? = some (CodePoint.ofChar '\r') then l.dropLast else l) = l := by
    intro l hl
    refine if_neg fun last => ?_
    rcases List.mem_append.mp hl with hl | hl
    · have letter := (h l hl).2 _ (List.mem_of_getLast? last)
      exact (Base64.of_isLetter letter).2.2.2.2 rfl
    · rw [List.mem_singleton.mp hl] at last
      cases last
  have lines : Text.lines (spellLines ls) = ls ++ [[]] := by
    rw [Text.lines]
    change (Text.splitOn feed (spellLines ls)).map _ = _
    rw [splitOn_spellLines h]
    exact (List.map_congr_left bare).trans (List.map_id _)
  rw [linesOf, lines]
  simp

theorem trimRight_line {l : Text} (h : IsLine l) : Text.trimRight Text.isBlank l = l := by
  have kept : l.reverse.dropWhile Text.isBlank = l.reverse := by
    cases letters : l.reverse with
    | nil => rfl
    | cons c rest =>
      have member : c ∈ l := List.mem_reverse.mp (letters ▸ List.mem_cons_self)
      rw [List.dropWhile_cons_of_neg]
      rw [(Base64.of_isLetter (h.2 c member)).2.1]
      decide
  rw [Text.trimRight, kept, List.reverse_reverse]

theorem cut?_two_feeds {ls : List Text} (h : ∀ l ∈ ls, IsLine l) :
    Text.cut? [feed, feed] (spellLines ls) = none := by
  have skip : ∀ (l rest : Text), feed ∉ l →
      Text.cut? [feed, feed] rest = none → Text.cut? [feed, feed] (l ++ rest) = none := by
    intro l rest absent none
    induction l with
    | nil => exact none
    | cons c l ih =>
      simp only [List.mem_cons, not_or] at absent
      have other : Text.startsWith [feed, feed] (c :: (l ++ rest)) = false := by
        simp [Text.startsWith, List.isPrefixOf, absent.1]
      rw [List.cons_append, Text.cut?, other, ih absent.2]
      rfl
  induction ls with
  | nil => rfl
  | cons l ls ih =>
    have first := (h l List.mem_cons_self).feed_not_mem
    have rest := ih fun x hx => h x (List.mem_cons_of_mem _ hx)
    rw [spellLines, List.flatMap_cons, List.append_assoc]
    refine skip _ _ first ?_
    change Text.cut? [feed, feed] (feed :: spellLines ls) = none
    have other : Text.startsWith [feed, feed] (feed :: spellLines ls) = false := by
      cases ls with
      | nil => rfl
      | cons m ms =>
        have second := h m (List.mem_cons_of_mem _ List.mem_cons_self)
        obtain ⟨some_, letters⟩ := second
        cases m with
        | nil => exact absurd rfl some_
        | cons c more =>
          have letter := (Base64.of_isLetter (letters c List.mem_cons_self)).2.2.2.1
          simp [Text.startsWith, List.isPrefixOf, spellLines, Ne.symm letter, feed]
    rw [Text.cut?, other, rest]
    rfl

structure IsLabel (label : Text) : Prop where
  filled : label ≠ []
  dash : CodePoint.ofChar '-' ∉ label
  plain : label.Plain

theorem dash_not_mem_spellLines {ls : List Text} (h : ∀ l ∈ ls, IsLine l) :
    CodePoint.ofChar '-' ∉ spellLines ls := by
  intro member
  obtain ⟨l, hl, inside⟩ := List.mem_flatMap.mp member
  rcases List.mem_append.mp inside with inside | inside
  · exact (Base64.of_isLetter ((h l hl).2 _ inside)).2.2.1 rfl
  · revert inside
    decide

theorem check?_lines {label : Text} (h : IsLabel label) (bs : Bytes) {ls : List Text}
    (lines : ∀ l ∈ ls, IsLine l) (letters : ls.flatten = Base64.encode bs) :
    Raw.check? ⟨label, label, spellLines ls⟩ = some ⟨label, bs⟩ := by
  have noReturn : CodePoint.ofChar '\r' ∉ spellLines ls := by
    intro member
    obtain ⟨l, hl, inside⟩ := List.mem_flatMap.mp member
    rcases List.mem_append.mp inside with inside | inside
    · exact (Base64.of_isLetter ((lines l hl).2 _ inside)).2.2.2.2 rfl
    · revert inside
      decide
  have headers : splitHeaders (spellLines ls) = ([], spellLines ls) := by
    have first : Text.cut? (Text.ofString "\n\n") (spellLines ls) = none := cut?_two_feeds lines
    have second : Text.cut? (Text.ofString "\r\n\r\n") (spellLines ls) = none :=
      Text.cut?_eq_none noReturn _
    rw [splitHeaders, first, second]
  have trimmed : ls.flatMap (Text.trimRight Text.isBlank) = Base64.encode bs := by
    rw [← letters, List.flatMap_def]
    congr 1
    exact (List.map_congr_left fun l hl => trimRight_line (lines l hl)).trans (List.map_id _)
  have noHeaders : linesOf [] = [] := rfl
  simp only [Raw.check?, headers, linesOf_spellLines lines, trimmed, noHeaders, List.all_nil,
    h.filled, ne_eq, not_false_eq_true, and_self, if_true, Base64.decode?_encode,
    Option.bind_eq_bind, Option.bind_some, Option.pure_def]

def mark : Text := "-----"

theorem next?_spell {label : Text} (h : IsLabel label) {ls : List Text}
    (lines : ∀ l ∈ ls, IsLine l) :
    next? ("-----BEGIN " ++ label ++ "-----\n" ++ spellLines ls ++ "-----END " ++ label ++
        "-----\n")
      = some (⟨label, label, spellLines ls⟩, [feed]) := by
  have start (after : Text) : Text.cut? "-----BEGIN " ("-----BEGIN " ++ after) = some ([], after) :=
    @Text.cut?_append _ [] List.not_mem_nil _ after
  have named (after : Text) : Text.cut? mark (label ++ (mark ++ after)) = some (label, after) :=
    Text.cut?_append h.dash _ after
  have body (after : Text) : Text.cut? "-----END " (spellLines ls ++ ("-----END " ++ after))
      = some (spellLines ls, after) :=
    Text.cut?_append (dash_not_mem_spellLines lines) _ after
  have gap (after : Text) : (feed :: (spellLines ls ++ ("-----END " ++ after))).dropWhile isGap
      = spellLines ls ++ ("-----END " ++ after) := by
    rw [List.dropWhile_cons_of_pos (by decide)]
    cases ls with
    | nil => rfl
    | cons l rest =>
      obtain ⟨filled, letters⟩ := lines l List.mem_cons_self
      cases l with
      | nil => exact absurd rfl filled
      | cons c more =>
        have letter := letters c List.mem_cons_self
        refine List.dropWhile_cons_of_neg ?_
        intro blank
        simp only [isGap, Bool.or_eq_true, decide_eq_true_eq] at blank
        simp only [Base64.isLetter, Bool.or_eq_true, Bool.and_eq_true, decide_eq_true_eq] at letter
        omega
  have shape : ("-----BEGIN " ++ label ++ "-----\n" ++ spellLines ls ++ "-----END " ++ label ++
      "-----\n" : Text) = "-----BEGIN " ++ (label ++ (mark ++ feed :: (spellLines ls ++
        ("-----END " ++ (label ++ (mark ++ [feed])))))) := by
    have line : Text.ofString "-----\n" = mark ++ [feed] := rfl
    simp only [line, List.append_assoc, List.cons_append, List.nil_append]
  have marked (t : Text) : Text.cut? "-----" t = Text.cut? mark t := rfl
  rw [shape, next?]
  simp only [marked, start, named, gap, body, Option.bind_eq_bind, Option.bind_some,
    Option.pure_def]

theorem read?_spell {label : Text} (h : IsLabel label) (bs : Bytes) :
    read? (Block.spell ⟨label, bs⟩) = some [⟨label, bs⟩] := by
  have lines := isLine_wrap (by decide : 0 < 64) (Base64.encode bs).length
    (Base64.isLetter_encode bs)
  have letters := wrap_flatten 64 (Base64.encode bs).length (Base64.encode bs) (Nat.le_refl _)
    (by decide)
  have first := next?_spell h lines
  have sound := check?_lines h bs lines letters
  have last : next? [feed] = none := rfl
  have spelled : Block.spell ⟨label, bs⟩ = "-----BEGIN " ++ label ++ "-----\n" ++
      spellLines (wrap 64 (Base64.encode bs).length (Base64.encode bs)) ++ "-----END " ++ label ++
        "-----\n" := rfl
  have fuel : ∃ n, (Block.spell ⟨label, bs⟩).length = n + 2 := by
    refine ⟨(Block.spell ⟨label, bs⟩).length - 2, ?_⟩
    have long : 2 ≤ (Text.ofString "-----BEGIN ").length := Nat.le_of_ble_eq_true rfl
    rw [spelled]
    simp only [List.length_append]
    omega
  obtain ⟨n, fuel⟩ := fuel
  rw [read?, fuel, readFrom?, spelled, first]
  simp only [sound, readFrom?, last, Option.bind_eq_bind, Option.bind_some, Option.pure_def]

theorem plain_spell {label : Text} (h : IsLabel label) (bs : Bytes) :
    (Block.spell ⟨label, bs⟩).Plain := by
  have lines := isLine_wrap (by decide : 0 < 64) (Base64.encode bs).length
    (Base64.isLetter_encode bs)
  have body : Text.Plain (spellLines (wrap 64 (Base64.encode bs).length (Base64.encode bs))) := by
    refine Text.plain_flatMap fun l hl => Text.Plain.append ?_ (Text.plain_of_all rfl)
    exact fun c hc => (Base64.of_isLetter ((lines l hl).2 c hc)).1
  have start : Text.Plain "-----BEGIN " := Text.plain_of_all rfl
  have middle : Text.Plain "-----\n" := Text.plain_of_all rfl
  have stop : Text.Plain "-----END " := Text.plain_of_all rfl
  exact ((((start.append h.plain).append middle).append body).append stop |>.append h.plain).append
    middle

end Pem

end CertKeeper
