import IdentityApi.Proofs.Json.Tree
import IdentityApi.Proofs.Text.Basic
import IdentityApi.Timestamp

/-! # Timestamps are read back as they were written

Reading gives moments of the calendar only, with leap seconds at the ends of minutes
(`isValid_of_ofText`), and the text of such a moment is read as the same moment (`ofText_text`):
every number is written with as many digits as it is read with, or a mark stands behind its digits.
Within a minute a leap second is written as the next second is, so two moments have one text if they
are carried to one (`text_inj`).
-/
namespace IdentityApi

open Json (ok_of_bind)

namespace Date

/-- The month and the day are there, whatever the year. -/
def HasDay (d : Date) : Prop :=
  1 ≤ d.month ∧ d.month ≤ 12 ∧ 1 ≤ d.day ∧ d.day ≤ daysInMonth d.year d.month

instance (d : Date) : Decidable d.HasDay :=
  inferInstanceAs (Decidable (1 ≤ d.month ∧ d.month ≤ 12 ∧ 1 ≤ d.day ∧ d.day ≤ _))

theorem exists?_iff (d : Date) : d.exists? = true ↔ d.inRange = true ∧ d.HasDay := by
  simp [exists?, HasDay, and_assoc]

theorem daysInMonth_bounds (year : Int) (month : Nat) :
    1 ≤ daysInMonth year month ∧ daysInMonth year month ≤ 31 := by
  unfold daysInMonth
  split_ifs <;> omega

theorem HasDay.next {d : Date} (h : d.HasDay) : d.next.HasDay := by
  obtain ⟨hlow, hhigh, hday, hlast⟩ := h
  have hfirst := fun y m => (daysInMonth_bounds y m).1
  unfold Date.next
  split_ifs with hnext hmonth
  · exact ⟨hlow, hhigh, Nat.le_add_left 1 _, hnext⟩
  · exact ⟨Nat.le_add_left 1 _, hmonth, Nat.le_refl 1, hfirst _ _⟩
  · exact ⟨Nat.le_refl 1, (by decide : 1 ≤ 12), Nat.le_refl 1, hfirst _ _⟩

theorem HasDay.previous {d : Date} (h : d.HasDay) : d.previous.HasDay := by
  obtain ⟨hlow, hhigh, hday, hlast⟩ := h
  unfold Date.previous
  split_ifs with hprevious hmonth
  · exact ⟨hlow, hhigh, Nat.le_sub_one_of_lt hprevious, Nat.le_trans (Nat.sub_le _ 1) hlast⟩
  · exact ⟨Nat.le_sub_one_of_lt hmonth, Nat.le_trans (Nat.sub_le _ 1) hhigh,
      (daysInMonth_bounds _ _).1, Nat.le_refl _⟩
  · exact ⟨(by decide : 1 ≤ 12), Nat.le_refl 12, (by decide : 1 ≤ 31), by simp [daysInMonth]⟩

end Date

namespace Timestamp

/-- A moment of the calendar, with a leap second behind any second. -/
structure IsValid (t : Timestamp) : Prop where
  date : t.date.inRange = true ∧ t.date.HasDay
  hour : t.hour < 24
  minute : t.minute < 60
  second : t.second < 60
  nanosecond : t.nanosecond < 2 * 10 ^ 9

instance (t : Timestamp) : Decidable t.IsValid :=
  decidable_of_iff ((t.date.inRange = true ∧ t.date.HasDay) ∧ t.hour < 24 ∧ t.minute < 60 ∧
      t.second < 60 ∧ t.nanosecond < 2 * 10 ^ 9)
    ⟨fun ⟨hdate, hhour, hminute, hsecond, hnanosecond⟩ =>
      ⟨hdate, hhour, hminute, hsecond, hnanosecond⟩,
    fun h => ⟨h.date, h.hour, h.minute, h.second, h.nanosecond⟩⟩

/-- A leap second stands at the end of a minute only. -/
def IsRegular (t : Timestamp) : Prop := t.nanosecond < 10 ^ 9 ∨ t.second = 59

@[simp] theorem carried_date (t : Timestamp) : t.carried.date = t.date := by
  unfold carried
  split_ifs <;> rfl

@[simp] theorem carried_hour (t : Timestamp) : t.carried.hour = t.hour := by
  unfold carried
  split_ifs <;> rfl

@[simp] theorem carried_minute (t : Timestamp) : t.carried.minute = t.minute := by
  unfold carried
  split_ifs <;> rfl

theorem IsValid.carried_bounds {t : Timestamp} (h : t.IsValid) :
    t.carried.second ≤ 60 ∧ t.carried.nanosecond < 10 ^ 9 := by
  obtain ⟨-, -, -, hsecond, hnanosecond⟩ := h
  unfold carried
  split_ifs with hleap
  · exact ⟨by omega, hleap⟩
  · dsimp only
    omega

theorem carried_carried {t : Timestamp} (h : t.IsValid) : t.carried.carried = t.carried :=
  if_pos h.carried_bounds.2

theorem text_carried {t : Timestamp} (h : t.IsValid) : t.carried.text = t.text := by
  rw [text, text, chars, chars, carried_carried h]

/-- What a clock shows of a regular moment. -/
theorem ofClock_carried {t : Timestamp} (hvalid : t.IsValid) (hregular : t.IsRegular) :
    ofClock t.date t.hour t.minute t.carried.second t.carried.nanosecond = t := by
  obtain ⟨date, hour, minute, second, nanosecond⟩ := t
  have hsecond : second < 60 := hvalid.second
  unfold carried
  split_ifs with hleap
  · exact if_neg (Nat.ne_of_lt hsecond)
  · have hlast : second = 59 := hregular.resolve_left hleap
    have hback : nanosecond - 1000000000 + 1000000000 = nanosecond := by
      dsimp only at hleap
      omega
    subst hlast
    dsimp only
    rw [ofClock, if_pos rfl, hback]

theorem isValid_ofClock {date : Date} {hour minute second nanosecond : Nat}
    (hdate : date.inRange = true ∧ date.HasDay) (hhour : hour < 24) (hminute : minute < 60)
    (hsecond : second ≤ 60) (hnanosecond : nanosecond < 10 ^ 9) :
    (ofClock date hour minute second nanosecond).IsValid ∧
      (ofClock date hour minute second nanosecond).IsRegular := by
  unfold ofClock
  split_ifs with hleap
  · exact ⟨⟨hdate, hhour, hminute, by dsimp only; omega, by dsimp only; omega⟩, Or.inr rfl⟩
  · exact ⟨⟨hdate, hhour, hminute, by dsimp only; omega, by dsimp only; omega⟩,
      Or.inl hnanosecond⟩

/-! ## What reading gives -/

theorem of_component {low high : Nat} {s r : List Char} {n : Nat}
    (h : component low high s = .ok (n, r)) : low ≤ n ∧ n ≤ high := by
  unfold component at h
  split at h
  next => cases h
  next =>
    split_ifs at h with hbounds
    cases h
    exact hbounds

theorem ofDigitChars_lt {ds : List Char} (h : ∀ c ∈ ds, c.isDigit = true) :
    Nat.ofDigitChars 10 ds 0 < 10 ^ ds.length := by
  induction ds using List.reverseRecOn with
  | nil => decide
  | append_singleton ds c ih =>
    have hc : c.toNat ≤ 57 := (Char.isDigit_iff_toNat.mp (h c (by simp))).2
    have hds := ih fun d hd => h d (by simp [hd])
    rw [Nat.ofDigitChars_append, Nat.ofDigitChars_cons, Nat.ofDigitChars_nil, List.length_append,
      List.length_singleton, pow_succ]
    have h0 : '0'.toNat = 48 := rfl
    omega

/-- The digits that were read are counted by what is left over. -/
theorem of_number {most : Nat} {s r : List Char} {n : Nat} (h : number most s = .ok (n, r)) :
    n < 10 ^ (s.length - r.length) ∧ s.length - r.length ≤ most := by
  have hdigits : ∀ c ∈ (s.take most).takeWhile Char.isDigit, c.isDigit = true :=
    fun c hc => List.mem_takeWhile_imp hc
  have hlength : ((s.take most).takeWhile Char.isDigit).length ≤ min most s.length := by
    rw [← List.length_take]
    exact (List.takeWhile_sublist _).length_le
  unfold number at h
  dsimp only at h
  split at h
  next => split at h <;> cases h
  next =>
    split_ifs at h
    cases h
    rw [List.length_drop, Nat.sub_sub_self (by omega)]
    exact ⟨ofDigitChars_lt hdigits, by omega⟩

theorem nanosecond_lt_of_fraction {s r : List Char} {n : Nat} (h : fraction s = .ok (n, r)) :
    n < 10 ^ 9 := by
  unfold fraction at h
  split at h
  next r' =>
    split at h
    next => cases h
    next m rest hm =>
      cases h
      obtain ⟨hlt, hle⟩ := of_number hm
      calc m * 10 ^ (9 - (r'.length - rest.length))
          < 10 ^ (r'.length - rest.length) * 10 ^ (9 - (r'.length - rest.length)) :=
            Nat.mul_lt_mul_of_pos_right hlt (Nat.pow_pos (by decide))
        _ = 10 ^ 9 := by rw [← pow_add, Nat.add_sub_cancel' hle]
  next =>
    cases h
    decide

theorem isValid_of_toUtc {l : Local} {t : Timestamp} (h : l.toUtc = .ok t)
    (hsecond : l.second ≤ 60) (hnanosecond : l.nanosecond < 10 ^ 9) :
    t.IsValid ∧ t.IsRegular := by
  have hmoved : ∀ {date : Date} {m : Nat}, date.HasDay → m < 1440 →
      (if date.inRange = true then
          Except.ok (ofClock date (m / 60) (m % 60) l.second l.nanosecond)
        else Except.error Fault.impossible) = Except.ok t → t.IsValid ∧ t.IsRegular := by
    intro date m hday hm hok
    split at hok
    next hrange =>
      cases hok
      exact isValid_ofClock ⟨hrange, hday⟩ (by omega) (Nat.mod_lt _ (by decide)) hsecond hnanosecond
    next => cases hok
  rw [Local.toUtc] at h
  by_cases hdate : l.date.exists? = true
  · rw [if_neg (not_not.mpr hdate)] at h
    split at h
    next => cases h
    next =>
      have hday := ((Date.exists?_iff l.date).mp hdate).2
      refine hmoved ?_ (by omega) h
      split_ifs
      · exact hday.previous
      · exact hday.next
      · exact hday
  · rw [if_pos hdate] at h
    cases h

theorem isValid_of_ofText {s : String} {t : Timestamp} (h : ofText s = .ok t) :
    t.IsValid ∧ t.IsRegular := by
  unfold ofText ofChars at h
  split at h
  next => cases h
  next l rest hlocal =>
    split_ifs at h
    obtain ⟨⟨y, s⟩, -, hlocal⟩ := ok_of_bind hlocal
    obtain ⟨s, -, hlocal⟩ := ok_of_bind hlocal
    obtain ⟨⟨month, s⟩, -, hlocal⟩ := ok_of_bind hlocal
    obtain ⟨s, -, hlocal⟩ := ok_of_bind hlocal
    obtain ⟨⟨day, s⟩, -, hlocal⟩ := ok_of_bind hlocal
    -- the mark before the time is one of three
    dsimp only at hlocal
    split at hlocal
    all_goals obtain ⟨s, hmark, hlocal⟩ := ok_of_bind hlocal
    all_goals cases hmark
    all_goals
      obtain ⟨⟨hour, s⟩, -, hlocal⟩ := ok_of_bind hlocal
      obtain ⟨s, -, hlocal⟩ := ok_of_bind hlocal
      obtain ⟨⟨minute, s⟩, -, hlocal⟩ := ok_of_bind hlocal
      obtain ⟨s, -, hlocal⟩ := ok_of_bind hlocal
      obtain ⟨⟨second, s⟩, hsecond, hlocal⟩ := ok_of_bind hlocal
      obtain ⟨⟨nanosecond, s⟩, hnanosecond, hlocal⟩ := ok_of_bind hlocal
      obtain ⟨⟨ahead, s⟩, -, hlocal⟩ := ok_of_bind hlocal
      cases hlocal
      exact isValid_of_toUtc h (of_component hsecond).2 (nanosecond_lt_of_fraction hnanosecond)

/-! ## Reading what was written -/

theorem isDigit_of_mem_padded {width n : Nat} {c : Char} (h : c ∈ padded width n) :
    c.isDigit = true := by
  rw [padded, List.mem_append] at h
  rcases h with h | h
  · rw [List.eq_of_mem_replicate h]
    decide
  · exact Integer.isDigit_of_mem_toDigits h

theorem ofDigitChars_padded (width n : Nat) : Nat.ofDigitChars 10 (padded width n) 0 = n := by
  rw [padded, Nat.ofDigitChars_append, Nat.ofDigitChars_replicate_zero, Nat.mul_zero,
    Nat.ofDigitChars_ten_toDigits]

theorem length_padded {width n : Nat} (hwidth : 0 < width) (h : n < 10 ^ width) :
    (padded width n).length = width := by
  have hlength := (Nat.length_toDigits_le_iff (b := 10) (by decide) hwidth).mpr h
  rw [padded, List.length_append, List.length_replicate]
  omega

theorem padded_ne_nil (width n : Nat) : padded width n ≠ [] := by
  simp [padded, Nat.toDigits_ne_nil]

/-- Digits are read up to a mark, or as many as there may be. -/
theorem number_append {most : Nat} {ds r : List Char} (hds : ∀ c ∈ ds, c.isDigit = true)
    (hne : ds ≠ []) (hlength : ds.length ≤ most)
    (hr : ds.length = most ∨ ∀ c ∈ r.head?, c.isDigit = false)
    (hsmall : Nat.ofDigitChars 10 ds 0 < 0x8000000000000000) :
    number most (ds ++ r) = .ok (Nat.ofDigitChars 10 ds 0, r) := by
  have hdigits : ((ds ++ r).take most).takeWhile Char.isDigit = ds := by
    have hnone : (r.take (most - ds.length)).takeWhile Char.isDigit = [] := by
      rcases hr with hmost | hmark
      · rw [hmost, Nat.sub_self, List.take_zero, List.takeWhile_nil]
      · cases r with
        | nil => rw [List.take_nil, List.takeWhile_nil]
        | cons c r =>
          cases most - ds.length with
          | zero => rfl
          | succ k =>
            have hc : ¬ c.isDigit = true := by simp [hmark c rfl]
            rw [List.take_succ_cons, List.takeWhile_cons_of_neg hc]
    rw [List.take_append, List.take_of_length_le hlength, List.takeWhile_append_of_pos hds, hnone,
      List.append_nil]
  unfold number
  dsimp only
  rw [hdigits]
  cases ds with
  | nil => exact absurd rfl hne
  | cons c cs =>
    dsimp only
    rw [if_pos hsmall, List.drop_left]

/-- A padded number is read back where its width is the most that is read, or a mark follows. -/
theorem number_padded {width most n : Nat} {r : List Char} (hn : n < 10 ^ width)
    (hwidth : 0 < width) (hmost : width ≤ most) (hlimit : n < 0x8000000000000000)
    (hr : width = most ∨ ∀ c ∈ r.head?, c.isDigit = false) :
    number most (padded width n ++ r) = .ok (n, r) := by
  have hlength := length_padded hwidth hn
  have hvalue := ofDigitChars_padded width n
  have hends : (padded width n).length = most ∨ ∀ c ∈ r.head?, c.isDigit = false := by
    rwa [hlength]
  have hread := number_append (fun _ => isDigit_of_mem_padded) (padded_ne_nil width n)
    (by omega) hends (by rwa [hvalue])
  rw [hread, hvalue]

theorem dropBlanks_padded (width n : Nat) (r : List Char) :
    dropBlanks (padded width n ++ r) = padded width n ++ r := by
  cases hpadded : padded width n with
  | nil => exact absurd hpadded (padded_ne_nil width n)
  | cons c cs =>
    have hc : c.isDigit = true := isDigit_of_mem_padded (hpadded ▸ List.mem_cons_self)
    exact dropBlanks_cons (isBlank_of_isDigit hc) _

theorem component_padded {low high n : Nat} (hlow : low ≤ n) (hhigh : n ≤ high) (hsmall : n < 100)
    (r : List Char) : component low high (padded 2 n ++ r) = .ok (n, r) := by
  rw [component, dropBlanks_padded,
    number_padded (by omega) (by decide) (Nat.le_refl 2) (by omega) (Or.inl rfl)]
  exact if_pos ⟨hlow, hhigh⟩

theorem separator_cons {c : Char} (h : IdentityApi.isBlank c = false) (r : List Char) :
    separator c (c :: r) = .ok r := by
  rw [separator, dropBlanks_cons h]
  exact if_pos rfl

/-- Behind a sign all digits of a year are read. -/
theorem number_all (n : Nat) (hlimit : n < 0x8000000000000000) (r : List Char) :
    number (padded 4 n ++ '-' :: r).length (padded 4 n ++ '-' :: r) = .ok (n, '-' :: r) := by
  have hmark : ∀ c ∈ ('-' :: r).head?, c.isDigit = false := by
    rintro c ⟨⟩
    rfl
  have hvalue := ofDigitChars_padded 4 n
  have hread := number_append (r := '-' :: r) (fun _ => isDigit_of_mem_padded)
    (padded_ne_nil 4 n) (by simp : (padded 4 n).length ≤ (padded 4 n ++ '-' :: r).length)
    (Or.inr hmark) (by rwa [hvalue])
  rw [hread, hvalue]

theorem year_yearText {y : Int} (hlow : -262143 ≤ y) (hhigh : y ≤ 262142) (r : List Char) :
    year (yearText y ++ '-' :: r) = .ok (y, '-' :: r) := by
  have hall := number_all y.natAbs (by omega) r
  unfold yearText
  split_ifs with hneg hlarge
  · have hvalue : -1 * (y.natAbs : Int) = y := by omega
    rw [List.cons_append, year, dropBlanks_cons (by decide)]
    simp only [hall]
    rw [if_pos (by omega), hvalue]
  · have hvalue : 1 * (y.natAbs : Int) = y := by omega
    rw [List.cons_append, year, dropBlanks_cons (by decide)]
    simp only [hall]
    rw [if_pos (by omega), hvalue]
  · have hread := number_padded (r := '-' :: r) (by omega : y.natAbs < 10 ^ 4) (by decide)
      (Nat.le_refl 4) (by omega) (Or.inl rfl)
    cases hchars : padded 4 y.natAbs ++ '-' :: r with
    | nil => simp at hchars
    | cons c cs =>
      -- a digit is no sign
      have hc : c.isDigit = true := by
        cases hpadded : padded 4 y.natAbs with
        | nil => exact absurd hpadded (padded_ne_nil 4 _)
        | cons d ds =>
          rw [hpadded, List.cons_append, List.cons.injEq] at hchars
          exact hchars.1 ▸ isDigit_of_mem_padded (hpadded ▸ List.mem_cons_self)
      have hminus : c ≠ '-' := by
        rintro rfl
        cases hc
      have hplus : c ≠ '+' := by
        rintro rfl
        cases hc
      rw [hchars] at hread
      simp only [year, dropBlanks_cons (isBlank_of_isDigit hc), hminus, hplus, hread,
        List.cons.injEq, false_and, imp_false, not_false_eq_true, implies_true]
      have hvalue : 1 * (y.natAbs : Int) = y := by omega
      rw [if_pos (by omega), hvalue]

/-- A fraction of some digits in front of the mark of UTC. -/
theorem fraction_padded {width n : Nat} (hwidth : 0 < width) (hmost : width ≤ 9)
    (hn : n < 10 ^ width) :
    fraction ('.' :: (padded width n ++ ['Z'])) = .ok (n * 10 ^ (9 - width), ['Z']) := by
  have hlimit : n < 0x8000000000000000 :=
    Nat.lt_of_lt_of_le hn (Nat.le_trans (Nat.pow_le_pow_right (by decide) hmost) (by norm_num))
  have hmark : ∀ c ∈ ['Z'].head?, c.isDigit = false := by
    rintro c ⟨⟩
    rfl
  rw [fraction, number_padded hn hwidth hmost hlimit (Or.inr hmark)]
  simp only [List.length_append, length_padded hwidth hn, Nat.add_sub_cancel]
  rfl

theorem fraction_fractionText {n : Nat} (h : n < 10 ^ 9) :
    fraction (fractionText n ++ ['Z']) = .ok (n, ['Z']) := by
  unfold fractionText
  split_ifs with hzero hmilli hmicro
  · rw [hzero]
    rfl
  · rw [List.cons_append, fraction_padded (by decide) (by decide) (by omega)]
    norm_num
    omega
  · rw [List.cons_append, fraction_padded (by decide) (by decide) (by omega)]
    norm_num
    omega
  · rw [List.cons_append, fraction_padded (by decide) (by decide) h]
    norm_num

theorem readLocal_chars {t : Timestamp} (h : t.IsValid) :
    readLocal t.chars =
      .ok (⟨t.date, t.hour, t.minute, t.carried.second, t.carried.nanosecond, 0⟩, []) := by
  obtain ⟨hsecond, hnanosecond⟩ := h.carried_bounds
  obtain ⟨⟨hrange, hlow, hhigh, hday, hlast⟩, hhour, hminute, -, -⟩ := h
  have hdays := (Date.daysInMonth_bounds t.date.year t.date.month).2
  rw [Date.inRange, Bool.and_eq_true, decide_eq_true_eq, decide_eq_true_eq] at hrange
  rw [chars]
  simp only [carried_date, carried_hour, carried_minute, List.append_assoc, List.cons_append]
  rw [readLocal, year_yearText hrange.1 hrange.2]
  simp only [bind, Except.bind, separator_cons (show IdentityApi.isBlank '-' = false by decide),
    separator_cons (show IdentityApi.isBlank ':' = false by decide),
    component_padded hlow hhigh (by omega), component_padded hday (by omega : t.date.day ≤ 31)
      (by omega), component_padded (Nat.zero_le _) (by omega : t.hour ≤ 23) (by omega),
    component_padded (Nat.zero_le _) (by omega : t.minute ≤ 59) (by omega),
    component_padded (Nat.zero_le _) hsecond (by omega), fraction_fractionText hnanosecond]
  rfl

theorem ofChars_chars {t : Timestamp} (h : t.IsValid) (hregular : t.IsRegular) :
    ofChars t.chars = .ok t := by
  have hread := readLocal_chars h
  have hclock := ofClock_carried h hregular
  obtain ⟨⟨hrange, hday⟩, hhour, hminute, -, -⟩ := h
  have hexists := (Date.exists?_iff t.date).mpr ⟨hrange, hday⟩
  have hearly : ¬ ((t.hour * 60 + t.minute : Nat) : Int) - 0 < 0 := by omega
  have hlate : ¬ 1440 ≤ ((t.hour * 60 + t.minute : Nat) : Int) - 0 := by omega
  have hmoment : ((((t.hour * 60 + t.minute : Nat) : Int) - 0) % 1440).toNat =
      t.hour * 60 + t.minute := by omega
  rw [ofChars, hread]
  dsimp only
  rw [if_pos (by rfl), Local.toUtc, if_neg (not_not.mpr hexists), if_neg (by simp)]
  dsimp only
  rw [if_neg hearly, if_neg hlate, if_pos hrange, hmoment]
  have hh : (t.hour * 60 + t.minute) / 60 = t.hour := by omega
  have hm : (t.hour * 60 + t.minute) % 60 = t.minute := by omega
  rw [hh, hm, hclock]

/-- The text of a moment that was read is read as this moment. -/
theorem ofText_text {s : String} {t : Timestamp} (h : ofText s = .ok t) :
    ofText t.text = .ok t := by
  obtain ⟨hvalid, hregular⟩ := isValid_of_ofText h
  rw [ofText, text, String.toList_ofList]
  exact ofChars_chars hvalid hregular

/-! ## Moments with one text -/

/-- A text tells of a moment what the moment is carried to, and nothing else. -/
theorem text_inj {t t' : Timestamp} (h : t.IsValid) (h' : t'.IsValid) :
    t.text = t'.text ↔ t.carried = t'.carried := by
  constructor
  · intro htext
    have hchars : t.chars = t'.chars := String.ofList_injective htext
    have hread := readLocal_chars h
    rw [hchars, readLocal_chars h'] at hread
    simp only [Except.ok.injEq, Prod.mk.injEq, Local.mk.injEq, and_true] at hread
    obtain ⟨hdate, hhour, hminute, hsecond, hnanosecond⟩ := hread
    exact Timestamp.ext (by simp [hdate]) (by simp [hhour]) (by simp [hminute]) hsecond.symm
      hnanosecond.symm
  · intro hcarried
    rw [text, text, chars, chars, hcarried]

/-- Regular moments are told by their texts. -/
theorem eq_of_text_eq {t t' : Timestamp} (h : t.IsValid) (h' : t'.IsValid)
    (hregular : t.IsRegular) (hregular' : t'.IsRegular) (htext : t.text = t'.text) : t = t' := by
  have hchars : t.chars = t'.chars := String.ofList_injective htext
  have hread := ofChars_chars h hregular
  rw [hchars, ofChars_chars h' hregular'] at hread
  exact (Except.ok.inj hread).symm

end Timestamp

end IdentityApi
