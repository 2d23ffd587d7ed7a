import CertKeeper.X509.Template
import CertKeeper.Proofs.Encoding.Der

/-!
# Times of certificates

A wall reading from the start of 1950 to the end of the calendar is a date and a time of day that
exist, and a certificate that was given such a time is read back with it.  The days of a span of
400 years are counted from the first of March, so that the day that leap years add comes last.
-/

namespace CertKeeper

/-! ### The date of a day -/

namespace Calendar

/-- Centuries, spans of four years, years and days of a day in 400 years; a day number 365 is the
last of a leap year. -/
theorem era_decomposition (doe yoe : Int) (low : 0 ≤ doe) (high : doe ≤ 146096)
    (hy : yoe = (doe - doe / 1460 + doe / 36524 - doe / 146096) / 365) :
    ∃ q r s d : Int, doe = 36524 * q + 1461 * r + 365 * s + d ∧ yoe = 100 * q + 4 * r + s ∧
      (0 ≤ q ∧ q ≤ 3) ∧ (0 ≤ r ∧ r ≤ 24) ∧ (0 ≤ s ∧ s ≤ 3) ∧ (0 ≤ d ∧ d ≤ 365) ∧
      (d = 365 → s = 3 ∧ (r = 24 → q = 3)) := by
  by_cases last : doe = 146096
  · subst last
    exact ⟨3, 24, 3, 365, by omega, by omega, by omega⟩
  obtain ⟨q, u, hq, hu⟩ : ∃ q u : Int, doe = 36524 * q + u ∧ 0 ≤ u ∧ u ≤ 36523 :=
    ⟨doe / 36524, doe % 36524, by omega, by omega, by omega⟩
  obtain ⟨r, v, hr, hv⟩ : ∃ r v : Int, u = 1461 * r + v ∧ 0 ≤ v ∧ v ≤ 1460 :=
    ⟨u / 1461, u % 1461, by omega, by omega, by omega⟩
  have hq3 : 0 ≤ q ∧ q ≤ 3 := by omega
  have hr24 : 0 ≤ r ∧ r ≤ 24 := by omega
  have none : doe / 146096 = 0 := by omega
  have centuries : doe / 36524 = q := by omega
  -- Spans of 1460 days run ahead of the spans of four years, by less than one of them.
  obtain ⟨e, he, he'⟩ : ∃ e : Int, doe / 1460 = 25 * q + r + e ∧
      (e = 0 ∧ v ≤ 1459 ∨ e = 1 ∧ 1364 ≤ v) := by
    refine ⟨doe / 1460 - 25 * q - r, by omega, ?_⟩
    omega
  obtain ⟨s, hs⟩ : ∃ s : Int, s = (v - e) / 365 := ⟨_, rfl⟩
  have hy' : yoe = (36500 * q + 1460 * r + v - e) / 365 := by rw [hy]; congr 1; omega
  have year : yoe = 100 * q + 4 * r + s := by omega
  refine ⟨q, r, s, v - 365 * s, by omega, year, hq3, hr24, ?_⟩
  refine ⟨by omega, by omega, by omega⟩

theorem dayOfYear_eq {doe q r s d : Int} (h : doe = 36524 * q + 1461 * r + 365 * s + d)
    (hr : 0 ≤ r ∧ r ≤ 24) (hs : 0 ≤ s ∧ s ≤ 3) :
    doe - (365 * (100 * q + 4 * r + s) + (100 * q + 4 * r + s) / 4
      - (100 * q + 4 * r + s) / 100) = d := by
  have quarter : (100 * q + 4 * r + s) / 4 = 25 * q + r := by omega
  have hundredth : (100 * q + 4 * r + s) / 100 = q := by omega
  rw [quarter, hundredth, h]
  omega

theorem dateOf_decomposition (n : Int) :
    ∃ era q r s d m : Int, n = 146097 * era + 36524 * q + 1461 * r + 365 * s + d ∧
      (0 ≤ q ∧ q ≤ 3) ∧ (0 ≤ r ∧ r ≤ 24) ∧ (0 ≤ s ∧ s ≤ 3) ∧ (0 ≤ d ∧ d ≤ 365) ∧
      (d = 365 → s = 3 ∧ (r = 24 → q = 3)) ∧ m = (5 * d + 2) / 153 ∧
      dateOf n = (400 * era + 100 * q + 4 * r + s + (if m < 10 then 0 else 1),
        if m < 10 then m + 3 else m - 9, d - (153 * m + 2) / 5 + 1) := by
  have era_eq : n.fdiv 146097 = n / 146097 := Int.fdiv_eq_ediv_of_nonneg n (by decide)
  obtain ⟨doe, hdoe⟩ : ∃ doe : Int, doe = n - n / 146097 * 146097 := ⟨_, rfl⟩
  have low : 0 ≤ doe := by omega
  have high : doe ≤ 146096 := by omega
  obtain ⟨q, r, s, d, parts, hyoe, hq, hr, hs, hd, leap⟩ := era_decomposition doe _ low high rfl
  have whole : n = 146097 * (n / 146097) + 36524 * q + 1461 * r + 365 * s + d := by
    clear hyoe leap
    omega
  refine ⟨n / 146097, q, r, s, d, (5 * d + 2) / 153, whole, hq, hr, hs, hd, leap, rfl, ?_⟩
  have early : (if (5 * d + 2) / 153 < 10 then (5 * d + 2) / 153 + 3 else (5 * d + 2) / 153 - 9) ≤ 2
      ↔ ¬ (5 * d + 2) / 153 < 10 := by
    clear hyoe leap whole parts hdoe
    split <;> omega
  simp only [dateOf, era_eq, ← hdoe, hyoe, dayOfYear_eq parts hr hs, early, Prod.mk.injEq, and_true]
  clear hyoe leap whole parts hdoe early
  split <;> omega

theorem day_le_daysIn (year d m : Int) (hd : 0 ≤ d) (hm : m = (5 * d + 2) / 153) (late : m ≤ 10) :
    d - (153 * m + 2) / 5 + 1 ≤ daysIn year (if m < 10 then m + 3 else m - 9) := by
  have low : 0 ≤ m := by omega
  obtain h | h | h | h | h | h | h | h | h | h | h : m = 0 ∨ m = 1 ∨ m = 2 ∨ m = 3 ∨ m = 4 ∨
      m = 5 ∨ m = 6 ∨ m = 7 ∨ m = 8 ∨ m = 9 ∨ m = 10 := by omega
  all_goals
    rw [h] at hm ⊢
    simp [daysIn]
    omega

theorem isLeap_iff (year : Int) :
    isLeap year = true ↔ year % 4 = 0 ∧ (year % 100 ≠ 0 ∨ year % 400 = 0) := by
  simp [isLeap]

theorem isDate_dateOf (n : Int) :
    isDate (dateOf n).1 (dateOf n).2.1 (dateOf n).2.2 = true := by
  obtain ⟨era, q, r, s, d, m, -, hq, hr, hs, hd, leap, hm, date⟩ := dateOf_decomposition n
  rw [date]
  simp only [isDate, Bool.and_eq_true, decide_eq_true_eq]
  refine ⟨⟨⟨?_, ?_⟩, ?_⟩, ?_⟩
  · clear leap date; split <;> omega
  · clear leap date; split <;> omega
  · clear leap date; omega
  · by_cases late : m ≤ 10
    · exact day_le_daysIn _ d m hd.1 hm late
    -- Only February is left: its last day needs a leap year.
    have eleven : m = 11 := by clear leap date; omega
    have feb : d - (153 * m + 2) / 5 + 1 ≤ 28 ∨ d = 365 := by clear leap date; omega
    simp only [eleven, daysIn] at feb ⊢
    rcases feb with short | last
    · split <;> omega
    · obtain ⟨hs3, hr24⟩ := leap last
      have isLeap_year : isLeap (400 * era + 100 * q + 4 * r + s + 1) = true := by
        rw [isLeap_iff]
        clear hm date
        omega
      simp [isLeap_year]
      omega

theorem year_dateOf {n : Int} (low : 712163 ≤ n) (high : n < firstDay + dayCount) :
    1950 ≤ (dateOf n).1 ∧ (dateOf n).1 ≤ 9999 := by
  obtain ⟨era, q, r, s, d, m, hn, hq, hr, hs, hd, -, hm, date⟩ := dateOf_decomposition n
  have first : firstDay = 306 := by decide
  rw [first, dayCount] at high
  rw [date]
  simp only
  clear date
  have december : m < 10 → d ≤ 305 := by omega
  have january : ¬ m < 10 → 306 ≤ d := by omega
  clear hm
  obtain h | h | h | h : s = 0 ∨ s = 1 ∨ s = 2 ∨ s = 3 := by omega
  all_goals
    subst h
    obtain h | h | h | h : q = 0 ∨ q = 1 ∨ q = 2 ∨ q = 3 := by omega
    all_goals
      subst h
      split <;> constructor <;> omega

theorem dayNumber_dateOf (n : Int) :
    dayNumber (dateOf n).1 (dateOf n).2.1 (dateOf n).2.2 = n := by
  obtain ⟨era, q, r, s, d, m, hn, hq, hr, hs, hd, -, hm, date⟩ := dateOf_decomposition n
  obtain ⟨y, hy⟩ : ∃ y, y = 100 * q + 4 * r + s := ⟨_, rfl⟩
  have months : 0 ≤ m ∧ m ≤ 11 := by omega
  have year : (if (dateOf n).2.1 ≤ 2 then (dateOf n).1 - 1 else (dateOf n).1)
      = 400 * era + y := by
    rw [date]
    clear hn hm date
    by_cases early : m < 10 <;> simp only [early, if_true, if_false] <;> split <;> omega
  have month : (if (dateOf n).2.1 ≤ 2 then (dateOf n).2.1 + 9 else (dateOf n).2.1 - 3) = m := by
    rw [date]
    clear hn hm date
    by_cases early : m < 10 <;> simp only [early, if_true, if_false] <;> split <;> omega
  have day : (153 * m + 2) / 5 + (dateOf n).2.2 - 1 = d := by
    rw [date]
    simp only
    omega
  have span : (400 * era + y).fdiv 400 = era := by
    rw [Int.fdiv_eq_ediv_of_nonneg _ (by decide)]
    omega
  have inside : 400 * era + y - era * 400 = y := by omega
  have leaps : y * 365 + y / 4 - y / 100 = 36524 * q + 1461 * r + 365 * s := by omega
  simp only [dayNumber, year, month, day, span, inside]
  omega

end Calendar

namespace X509.Time

/-! ### Times of wall readings -/

/-- A time that can be written: it exists, and its year has a spelling. -/
def Writable (t : Time) : Prop := t.exists? = true ∧ 1950 ≤ t.year ∧ t.year ≤ 9999

theorem ofWall_eq (w : Int) : ∃ secs : Int, 0 ≤ secs ∧ secs < 86400 ∧
    (w - w.fdiv Span.perDay * Span.perDay) / Span.perSecond = secs ∧
    ofWall w = ⟨(Calendar.dateOf (w.fdiv Span.perDay + Calendar.firstDay)).1.toNat,
      (Calendar.dateOf (w.fdiv Span.perDay + Calendar.firstDay)).2.1.toNat,
      (Calendar.dateOf (w.fdiv Span.perDay + Calendar.firstDay)).2.2.toNat,
      (secs / 3600).toNat, (secs / 60 % 60).toNat, (secs % 60).toNat⟩ := by
  have day : w.fdiv Span.perDay = w / Span.perDay :=
    Int.fdiv_eq_ediv_of_nonneg w (by decide)
  refine ⟨_, ?_, ?_, rfl, rfl⟩ <;> rw [day] <;> simp only [Span.perDay, Span.perSecond] <;> omega

theorem earliest_eq : Template.earliest = 711857 * Span.perDay := by decide

theorem writable_ofWall {w : Int} (low : Template.earliest ≤ w)
    (cal : Instant.inCalendar w = true) : (ofWall w).Writable := by
  obtain ⟨secs, nonneg, lt, -, fields⟩ := ofWall_eq w
  have day : w.fdiv Span.perDay = w / Span.perDay :=
    Int.fdiv_eq_ediv_of_nonneg w (by decide)
  simp only [Instant.inCalendar, Bool.and_eq_true, decide_eq_true_eq] at cal
  rw [earliest_eq] at low
  have from_ : 712163 ≤ w.fdiv Span.perDay + Calendar.firstDay := by
    have first : Calendar.firstDay = 306 := by decide
    rw [day, first]
    simp only [Span.perDay, Span.perSecond] at low ⊢
    omega
  have upto : w.fdiv Span.perDay + Calendar.firstDay < Calendar.firstDay + Calendar.dayCount := by
    rw [day]
    simp only [Span.perDay, Span.perSecond, Calendar.dayCount] at cal ⊢
    omega
  have year := Calendar.year_dateOf from_ upto
  have date := Calendar.isDate_dateOf (w.fdiv Span.perDay + Calendar.firstDay)
  rw [fields]
  generalize Calendar.dateOf (w.fdiv Span.perDay + Calendar.firstDay) = ymd at year date
  simp only [Calendar.isDate, Bool.and_eq_true, decide_eq_true_eq] at date
  refine ⟨?_, by simp only; omega, by simp only; omega⟩
  have y : (ymd.1.toNat : Int) = ymd.1 := Int.toNat_of_nonneg (by omega)
  have m : (ymd.2.1.toNat : Int) = ymd.2.1 := Int.toNat_of_nonneg (by omega)
  have d : (ymd.2.2.toNat : Int) = ymd.2.2 := Int.toNat_of_nonneg (by omega)
  simp only [exists?, Calendar.isDate, y, m, d, Bool.and_eq_true, decide_eq_true_eq]
  refine ⟨⟨⟨date, ?_⟩, ?_⟩, ?_⟩ <;> omega

theorem wall_ofWall {w : Int} (low : Template.earliest ≤ w) (cal : Instant.inCalendar w = true) :
    (ofWall w).wall = w - w % Span.perSecond := by
  obtain ⟨secs, nonneg, lt, eq, fields⟩ := ofWall_eq w
  have day : w.fdiv Span.perDay = w / Span.perDay := Int.fdiv_eq_ediv_of_nonneg w (by decide)
  have number := Calendar.dayNumber_dateOf (w.fdiv Span.perDay + Calendar.firstDay)
  have writable := writable_ofWall low cal
  rw [fields] at writable ⊢
  generalize Calendar.dateOf (w.fdiv Span.perDay + Calendar.firstDay) = ymd at number writable
  simp only [Writable, exists?, Calendar.isDate, Bool.and_eq_true, decide_eq_true_eq] at writable
  have y : (ymd.1.toNat : Int) = ymd.1 := Int.toNat_of_nonneg (by omega)
  have m : (ymd.2.1.toNat : Int) = ymd.2.1 := Int.toNat_of_nonneg (by omega)
  have d : (ymd.2.2.toNat : Int) = ymd.2.2 := Int.toNat_of_nonneg (by omega)
  have hour : ((secs / 3600).toNat : Int) = secs / 3600 := Int.toNat_of_nonneg (by omega)
  have minute : ((secs / 60 % 60).toNat : Int) = secs / 60 % 60 := Int.toNat_of_nonneg (by omega)
  have second : ((secs % 60).toNat : Int) = secs % 60 := Int.toNat_of_nonneg (by omega)
  have clock : (secs / 3600 * 60 + secs / 60 % 60) * 60 + secs % 60 = secs := by omega
  simp only [wall, Instant.wallOf, y, m, d, hour, minute, second, number, clock]
  rw [← eq, day]
  simp only [Span.perDay, Span.perSecond]
  omega

theorem instant_ofWall {w : Int} (low : Template.earliest ≤ w)
    (cal : Instant.inCalendar w = true) :
    (ofWall w).instant = .ok ⟨w - w % Span.perSecond, some 0⟩ := by
  have late := (writable_ofWall low cal).2.1
  rw [instant, if_neg (by omega), wall_ofWall low cal]

/-! ### Reading back -/

def element (t : Time) : Der.Element :=
  let rest := [t.month, t.day, t.hour, t.minute, t.second].flatMap twoDigits ++ [0x5A]
  if 1950 ≤ t.year ∧ t.year < 2050 then ⟨shortTag, twoDigits t.year ++ rest⟩
  else ⟨longTag, twoDigits (t.year / 100) ++ twoDigits t.year ++ rest⟩

theorem bytes_element (t : Time) : t.element.bytes = t.bytes := by
  simp only [element, Time.bytes, Der.element]
  split <;> rfl

theorem digit_toNat {k : Nat} (h : k < 10) : (UInt8.ofNat (48 + k)).toNat = 48 + k := by
  simp
  omega

theorem digits?_append (bs cs : Bytes) :
    digits? (bs ++ cs) = (digits? bs).bind fun n =>
      cs.foldlM (fun n b => if 48 ≤ b ∧ b ≤ 57 then some (n * 10 + (b.toNat - 48)) else none)
        n := by
  simp [digits?, List.foldlM_append]

theorem foldlM_twoDigits (start n : Nat) :
    (twoDigits n).foldlM
      (fun n b => if 48 ≤ b ∧ b ≤ 57 then some (n * 10 + (b.toNat - 48)) else none) start
      = some (start * 100 + n % 100) := by
  have high := digit_toNat (k := n / 10 % 10) (by omega)
  have low := digit_toNat (k := n % 10) (by omega)
  simp only [twoDigits, List.foldlM_cons, List.foldlM_nil, UInt8.le_iff_toNat_le, high, low]
  rw [if_pos (by simp; omega)]
  simp only [Option.bind_eq_bind, Option.bind_some]
  rw [if_pos (by simp; omega)]
  simp only [Option.bind_some, Option.pure_def, Option.some.injEq]
  omega

theorem digits?_twoDigits (n : Nat) : digits? (twoDigits n) = some (n % 100) := by
  simpa [digits?] using foldlM_twoDigits 0 n

theorem twoDigits_eq (n : Nat) : ∃ a b, twoDigits n = [a, b] := ⟨_, _, rfl⟩

theorem ofDigits?_rest {t : Time} (h : t.exists? = true) :
    ofDigits? t.year ([t.month, t.day, t.hour, t.minute, t.second].flatMap twoDigits ++ [0x5A])
      = some t := by
  have date := h
  simp only [exists?, Calendar.isDate, Bool.and_eq_true, decide_eq_true_eq] at date
  obtain ⟨⟨⟨⟨⟨⟨-, month⟩, -⟩, day⟩, hour⟩, minute⟩, second⟩ := date
  have short : t.day ≤ 31 := by
    have : Calendar.daysIn t.year t.month ≤ 31 := by
      unfold Calendar.daysIn
      split
      · split <;> omega
      · split <;> omega
    omega
  have pairs : ∀ n : Nat, n < 100 → digits? (twoDigits n) = some n := fun n hn => by
    rw [digits?_twoDigits, Nat.mod_eq_of_lt hn]
  have hm := pairs t.month (by omega)
  have hd := pairs t.day (by omega)
  have hh := pairs t.hour (by omega)
  have hi := pairs t.minute (by omega)
  have hs := pairs t.second (by omega)
  obtain ⟨m, m', em⟩ := twoDigits_eq t.month
  obtain ⟨d, d', ed⟩ := twoDigits_eq t.day
  obtain ⟨o, o', eo⟩ := twoDigits_eq t.hour
  obtain ⟨i, i', ei⟩ := twoDigits_eq t.minute
  obtain ⟨s, s', es⟩ := twoDigits_eq t.second
  rw [em] at hm
  rw [ed] at hd
  rw [eo] at hh
  rw [ei] at hi
  rw [es] at hs
  simp [ofDigits?, em, ed, eo, ei, es, hm, hd, hh, hi, hs, h]

theorem ofElement?_element {t : Time} (h : t.Writable) : ofElement? t.element = some t := by
  obtain ⟨sound, low, high⟩ := h
  have rest := ofDigits?_rest sound
  have two := digits?_twoDigits t.year
  have four : digits? (twoDigits (t.year / 100) ++ twoDigits t.year) = some t.year := by
    rw [digits?_append, digits?_twoDigits, Option.bind_some, foldlM_twoDigits]
    congr 1
    omega
  obtain ⟨c, c', ec⟩ := twoDigits_eq (t.year / 100)
  obtain ⟨y, y', ey⟩ := twoDigits_eq t.year
  rw [ec, ey] at four
  rw [ey] at two
  unfold element
  split
  · next recent =>
    have year : (if 50 ≤ t.year % 100 then 1900 + t.year % 100 else 2000 + t.year % 100)
        = t.year := by
      split <;> omega
    simp only [ofElement?, ey, List.cons_append, List.nil_append, List.take_succ_cons,
      List.take_zero, List.drop_succ_cons, List.drop_zero, two, if_true, Option.bind_eq_bind,
      Option.bind_some, year, rest]
  · next distant =>
    have tags : longTag ≠ shortTag := by decide
    simp only [List.cons_append, List.nil_append] at four
    simp only [ofElement?, ec, ey, List.cons_append, List.nil_append, List.take_succ_cons,
      List.take_zero, List.drop_succ_cons, List.drop_zero, four, tags, if_false, if_true,
      Option.bind_eq_bind, Option.bind_some, rest]

theorem fits_element (t : Time) : t.element.Fits := by
  unfold element
  split <;> exact Der.Element.fits (by decide) (by simp [twoDigits, Der.limit])

theorem length_bytes_le (t : Time) : t.bytes.length ≤ 17 := by
  rw [← bytes_element, Der.Element.bytes, element]
  split <;> simp [twoDigits, Der.lengthBytes]

end X509.Time

end CertKeeper
