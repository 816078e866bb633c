import Mathlib

/-!
# The Gregorian calendar

Library `Base`. Dates of the proleptic Gregorian calendar and their ordinals, where the first of
January of the year 1 has the ordinal 1. The ordinal of a date is defined for all numbers of
year, month and day, so that days can be counted before it is known that they exist. On the days
that do exist it is an order isomorphism, whose inverse goes by cycles of 400, 100, 4 and 1
years.
-/

namespace EdgeMonitor.Base
namespace Calendar

/-- A year, a month and a day. -/
structure Date where
  year : Nat
  month : Nat
  day : Nat
  deriving DecidableEq

/-- The year has a 29th of February. -/
def isLeap (year : Nat) : Bool := year % 4 == 0 && (year % 100 != 0 || year % 400 == 0)

/-- The days of a month, none for numbers that are no months. -/
def daysInMonth (year month : Nat) : Nat :=
  match month with
  | 1 => 31
  | 2 => if isLeap year then 29 else 28
  | 3 => 31
  | 4 => 30
  | 5 => 31
  | 6 => 30
  | 7 => 31
  | 8 => 31
  | 9 => 30
  | 10 => 31
  | 11 => 30
  | 12 => 31
  | _ => 0

/-- The days of a year before a month. -/
def daysBeforeMonth (year : Nat) : Nat → Nat
  | 0 => 0
  | month + 1 => daysBeforeMonth year month + daysInMonth year month

/-- The days before a year. -/
def daysBeforeYear (year : Nat) : Int :=
  let y := (year : Int) - 1
  y * 365 + y / 4 - y / 100 + y / 400

namespace Date

/-- The date exists. -/
def Valid (d : Date) : Prop :=
  1 ≤ d.year ∧ 1 ≤ d.month ∧ d.month ≤ 12 ∧ 1 ≤ d.day ∧ d.day ≤ daysInMonth d.year d.month

instance (d : Date) : Decidable d.Valid := inferInstanceAs (Decidable (_ ∧ _ ∧ _ ∧ _ ∧ _))

/-- The number of the day, from the first of January of the year 1 on. -/
def toOrdinal (d : Date) : Int :=
  daysBeforeYear d.year + daysBeforeMonth d.year d.month + d.day

/-- Dates by year, month and day. -/
instance : LT Date where
  lt d e := d.year < e.year ∨ d.year = e.year ∧
    (d.month < e.month ∨ d.month = e.month ∧ d.day < e.day)

theorem lt_def (d e : Date) : d < e ↔ d.year < e.year ∨ d.year = e.year ∧
    (d.month < e.month ∨ d.month = e.month ∧ d.day < e.day) := Iff.rfl

end Date

/-! ### Lengths -/

/-- A year has twelve months. -/
theorem daysBeforeMonth_13 (year : Nat) :
    daysBeforeMonth year 13 = if isLeap year then 366 else 365 := by
  simp only [daysBeforeMonth, daysInMonth]
  split <;> rfl

theorem daysBeforeMonth_mono (year : Nat) {m n : Nat} (h : m ≤ n) :
    daysBeforeMonth year m ≤ daysBeforeMonth year n := by
  induction h with
  | refl => exact Nat.le_refl _
  | step _ ih => exact Nat.le_trans ih (Nat.le_add_right _ _)

/-- A leap year has one day more. -/
theorem daysBeforeYear_succ (year : Nat) :
    daysBeforeYear (year + 1) = daysBeforeYear year + daysBeforeMonth year 13 := by
  rw [daysBeforeMonth_13, isLeap, daysBeforeYear, daysBeforeYear]
  split
  next h =>
    simp only [Bool.and_eq_true, Bool.or_eq_true, beq_iff_eq, bne_iff_ne] at h
    omega
  next h =>
    simp only [Bool.and_eq_true, Bool.or_eq_true, beq_iff_eq, bne_iff_ne] at h
    omega

theorem daysBeforeYear_mono {y z : Nat} (h : y ≤ z) : daysBeforeYear y ≤ daysBeforeYear z := by
  induction h with
  | refl => exact Int.le_refl _
  | @step z _ ih =>
    have hsucc := daysBeforeYear_succ z
    change daysBeforeYear y ≤ daysBeforeYear (z + 1)
    omega

@[simp] theorem daysBeforeYear_one : daysBeforeYear 1 = 0 := rfl

/-! ### Order -/

namespace Date

/-- The day lies in its year. -/
theorem toOrdinal_bounds {d : Date} (h : d.Valid) :
    daysBeforeYear d.year < d.toOrdinal ∧ d.toOrdinal ≤ daysBeforeYear (d.year + 1) := by
  obtain ⟨-, hmonth, hmonth', hday, hday'⟩ := h
  have hsucc := daysBeforeYear_succ d.year
  have hmono := daysBeforeMonth_mono d.year (m := d.month + 1) (n := 13) (by omega)
  have hmonths : daysBeforeMonth d.year (d.month + 1) =
      daysBeforeMonth d.year d.month + daysInMonth d.year d.month := rfl
  rw [toOrdinal]
  omega

theorem one_le_toOrdinal {d : Date} (h : d.Valid) : 1 ≤ d.toOrdinal := by
  have hyear := daysBeforeYear_mono h.1
  have hbounds := toOrdinal_bounds h
  rw [daysBeforeYear_one] at hyear
  omega

theorem toOrdinal_lt {d e : Date} (hd : d.Valid) (he : e.Valid) (h : d < e) :
    d.toOrdinal < e.toOrdinal := by
  rw [lt_def] at h
  obtain hyear | ⟨hyear, hmonth | ⟨hmonth, hday⟩⟩ := h
  · have hlt := (toOrdinal_bounds hd).2
    have hgt := (toOrdinal_bounds he).1
    have hmono := daysBeforeYear_mono (Nat.succ_le_of_lt hyear)
    change daysBeforeYear (d.year + 1) ≤ _ at hmono
    omega
  · obtain ⟨-, -, -, -, hday⟩ := hd
    obtain ⟨-, -, -, hday', -⟩ := he
    have hmono := daysBeforeMonth_mono d.year (Nat.succ_le_of_lt hmonth)
    have hmonths : daysBeforeMonth d.year (d.month + 1) =
        daysBeforeMonth d.year d.month + daysInMonth d.year d.month := rfl
    change daysBeforeMonth d.year (d.month + 1) ≤ _ at hmono
    rw [toOrdinal, toOrdinal, ← hyear]
    omega
  · rw [toOrdinal, toOrdinal, ← hyear, ← hmonth]
    omega

theorem lt_trichotomy (d e : Date) : d < e ∨ d = e ∨ e < d := by
  obtain ⟨y, m, a⟩ := d
  obtain ⟨y', m', a'⟩ := e
  simp only [lt_def, mk.injEq]
  omega

/-- Dates compare like their ordinals. -/
theorem toOrdinal_lt_iff {d e : Date} (hd : d.Valid) (he : e.Valid) :
    d.toOrdinal < e.toOrdinal ↔ d < e := by
  constructor
  · intro h
    obtain hlt | heq | hgt := lt_trichotomy d e
    · exact hlt
    · rw [heq] at h
      exact absurd h (Int.lt_irrefl _)
    · exact absurd (toOrdinal_lt he hd hgt) (Int.not_lt.mpr (Int.le_of_lt h))
  · exact toOrdinal_lt hd he

theorem toOrdinal_inj {d e : Date} (hd : d.Valid) (he : e.Valid) :
    d.toOrdinal = e.toOrdinal ↔ d = e := by
  constructor
  · intro h
    obtain hlt | heq | hgt := lt_trichotomy d e
    · exact absurd h (Int.ne_of_lt (toOrdinal_lt hd he hlt))
    · exact heq
    · exact absurd h.symm (Int.ne_of_lt (toOrdinal_lt he hd hgt))
  · intro h
    rw [h]

/-- The last year with four digits. -/
theorem toOrdinal_le_iff {d : Date} (h : d.Valid) (year : Nat) :
    d.toOrdinal ≤ daysBeforeYear (year + 1) ↔ d.year ≤ year := by
  obtain ⟨hlt, hle⟩ := toOrdinal_bounds h
  constructor
  · intro hlast
    by_contra hyear
    have hmono := daysBeforeYear_mono (show year + 1 ≤ d.year by omega)
    omega
  · intro hyear
    exact Int.le_trans hle (daysBeforeYear_mono (Nat.succ_le_succ hyear))

end Date

namespace Date

/-- The next day. -/
def next (d : Date) : Date :=
  if d.day + 1 ≤ daysInMonth d.year d.month then { d with day := d.day + 1 }
  else if d.month + 1 ≤ 12 then ⟨d.year, d.month + 1, 1⟩
  else ⟨d.year + 1, 1, 1⟩

/-- Days are counted across months and years. -/
theorem toOrdinal_next {d : Date} (hmonth : d.month ≤ 12)
    (hday : d.day ≤ daysInMonth d.year d.month) : d.next.toOrdinal = d.toOrdinal + 1 := by
  have hmonths : daysBeforeMonth d.year (d.month + 1) =
      daysBeforeMonth d.year d.month + daysInMonth d.year d.month := rfl
  rw [next]
  split
  next =>
    rw [toOrdinal, toOrdinal]
    push_cast
    omega
  next hlast =>
    split
    next =>
      rw [toOrdinal, toOrdinal, hmonths]
      push_cast
      omega
    next hyear =>
      have hdecember : d.month = 12 := by omega
      have hsucc := daysBeforeYear_succ d.year
      rw [hdecember] at hmonths hday hlast
      have hjanuary : daysBeforeMonth (d.year + 1) 1 = 0 := rfl
      rw [toOrdinal, toOrdinal, hsucc, hjanuary, hmonths, hdecember]
      push_cast
      omega

end Date

/-! ### From ordinals to dates -/

/-- The month of a day of the year, counted from 0, by an estimate that may be one too large. -/
def monthOf (year n : Nat) : Nat :=
  let month := (n + 50) / 32
  if daysBeforeMonth year month > n then month - 1 else month

/-- The date of an ordinal from 1 on. -/
def ofOrdinal (ordinal : Nat) : Date :=
  let n := ordinal - 1
  let n400 := n / 146097
  let n := n % 146097
  let n100 := n / 36524
  let n := n % 36524
  let n4 := n / 1461
  let n := n % 1461
  let n1 := n / 365
  let n := n % 365
  let year := n400 * 400 + n100 * 100 + n4 * 4 + n1 + 1
  -- the last day of a cycle of four or four hundred years
  if n1 = 4 ∨ n100 = 4 then ⟨year - 1, 12, 31⟩
  else
    let month := monthOf year n
    ⟨year, month, n - daysBeforeMonth year month + 1⟩

/-- Months depend on the year only as it is a leap year or not. -/
theorem daysBeforeMonth_eq (year month : Nat) : daysBeforeMonth year month =
    daysBeforeMonth (if isLeap year then 4 else 1) month := by
  have hdays (m : Nat) : daysInMonth year m = daysInMonth (if isLeap year then 4 else 1) m := by
    rw [daysInMonth.eq_def, daysInMonth.eq_def]
    cases h : isLeap year <;> rfl
  induction month with
  | zero => rfl
  | succ month ih => rw [daysBeforeMonth, daysBeforeMonth, ih, hdays]

/-- The estimate of the month is right on all days of a year. -/
theorem monthOf_spec {year n : Nat} (h : n < daysBeforeMonth year 13) :
    1 ≤ monthOf year n ∧ monthOf year n ≤ 12 ∧ daysBeforeMonth year (monthOf year n) ≤ n ∧
      n < daysBeforeMonth year (monthOf year n + 1) := by
  have hmonth : monthOf year n = monthOf (if isLeap year then 4 else 1) n := by
    rw [monthOf, monthOf, daysBeforeMonth_eq]
  rw [daysBeforeMonth_eq] at h
  rw [hmonth, daysBeforeMonth_eq year, daysBeforeMonth_eq year]
  have hleap : ∀ n < daysBeforeMonth 4 13, 1 ≤ monthOf 4 n ∧ monthOf 4 n ≤ 12 ∧
      daysBeforeMonth 4 (monthOf 4 n) ≤ n ∧ n < daysBeforeMonth 4 (monthOf 4 n + 1) := by
    decide +kernel
  have hcommon : ∀ n < daysBeforeMonth 1 13, 1 ≤ monthOf 1 n ∧ monthOf 1 n ≤ 12 ∧
      daysBeforeMonth 1 (monthOf 1 n) ≤ n ∧ n < daysBeforeMonth 1 (monthOf 1 n + 1) := by
    decide +kernel
  cases hyear : isLeap year with
  | true =>
    rw [hyear] at h
    exact hleap n h
  | false =>
    rw [hyear] at h
    exact hcommon n h

/-- The days before a year that follows whole cycles. -/
theorem daysBeforeYear_cycles {a b c d : Nat} (hb : b ≤ 3) (hc : c ≤ 24) (hd : d ≤ 3) :
    daysBeforeYear (a * 400 + b * 100 + c * 4 + d + 1) =
      a * 146097 + b * 36524 + c * 1461 + d * 365 := by
  rw [daysBeforeYear]
  push_cast
  omega

/-- Every ordinal from 1 on is the one of a date. -/
theorem ofOrdinal_spec {ordinal : Nat} (h : 1 ≤ ordinal) :
    (ofOrdinal ordinal).Valid ∧ (ofOrdinal ordinal).toOrdinal = ordinal := by
  generalize hn : ordinal - 1 = n
  generalize ha : n / 146097 = a
  generalize hn₁ : n % 146097 = n₁
  generalize hb : n₁ / 36524 = b
  generalize hn₂ : n₁ % 36524 = n₂
  generalize hc : n₂ / 1461 = c
  generalize hn₃ : n₂ % 1461 = n₃
  generalize hd : n₃ / 365 = d
  generalize hn₄ : n₃ % 365 = n₄
  have hdate : ofOrdinal ordinal = if d = 4 ∨ b = 4 then
      ⟨a * 400 + b * 100 + c * 4 + d + 1 - 1, 12, 31⟩ else
      ⟨a * 400 + b * 100 + c * 4 + d + 1, monthOf (a * 400 + b * 100 + c * 4 + d + 1) n₄,
        n₄ - daysBeforeMonth (a * 400 + b * 100 + c * 4 + d + 1)
          (monthOf (a * 400 + b * 100 + c * 4 + d + 1) n₄) + 1⟩ := by
    subst hn₄ hd hn₃ hc hn₂ hb hn₁ ha hn
    rfl
  rw [hdate]
  by_cases hlast : d = 4 ∨ b = 4
  · rw [if_pos hlast]
    -- the next year begins a cycle
    have hyear : daysBeforeYear (a * 400 + b * 100 + c * 4 + d + 1) = ordinal := by
      by_cases hcentury : b = 4
      · have hcycle := daysBeforeYear_cycles (a := a + 1) (b := 0) (c := 0) (d := 0) (by decide)
          (by decide) (by decide)
        have hsame : a * 400 + b * 100 + c * 4 + d + 1 =
            (a + 1) * 400 + 0 * 100 + 0 * 4 + 0 + 1 := by omega
        rw [hsame, hcycle]
        push_cast
        omega
      · have hcycle := daysBeforeYear_cycles (a := a) (b := b) (c := c + 1) (d := 0) (by omega)
          (by omega) (by decide)
        have hsame : a * 400 + b * 100 + c * 4 + d + 1 =
            a * 400 + b * 100 + (c + 1) * 4 + 0 + 1 := by omega
        rw [hsame, hcycle]
        push_cast
        omega
    have hsucc := daysBeforeYear_succ (a * 400 + b * 100 + c * 4 + d)
    rw [hyear] at hsucc
    refine ⟨⟨?_, ?_, ?_, ?_, ?_⟩, ?_⟩
    · change 1 ≤ a * 400 + b * 100 + c * 4 + d
      omega
    · exact Nat.le_of_ble_eq_true rfl
    · exact Nat.le_refl 12
    · exact Nat.le_of_ble_eq_true rfl
    · exact Nat.le_refl 31
    · rw [Date.toOrdinal, hsucc]
      change _ + ((daysBeforeMonth _ 12 : Nat) : Int) + 31 = _ + ((daysBeforeMonth _ 12 + 31 : Nat) : Int)
      push_cast
      omega
  · rw [if_neg hlast]
    have hb' : b ≤ 3 := by omega
    have hc' : c ≤ 24 := by omega
    have hd' : d ≤ 3 := by omega
    have hyear := daysBeforeYear_cycles (a := a) hb' hc' hd'
    have hday : n₄ < daysBeforeMonth (a * 400 + b * 100 + c * 4 + d + 1) 13 := by
      rw [daysBeforeMonth_13]
      split <;> omega
    obtain ⟨hmonth, hmonth', hbefore, hafter⟩ := monthOf_spec hday
    rw [daysBeforeMonth] at hafter
    refine ⟨⟨?_, hmonth, hmonth', ?_, ?_⟩, ?_⟩
    · exact Nat.succ_le_succ (Nat.zero_le _)
    · exact Nat.succ_le_succ (Nat.zero_le _)
    · dsimp only
      omega
    · rw [Date.toOrdinal, hyear]
      push_cast [hbefore]
      omega

/-- A date is found again from its ordinal. -/
theorem ofOrdinal_toOrdinal {d : Date} (h : d.Valid) : ofOrdinal d.toOrdinal.toNat = d := by
  have hpos := Date.one_le_toOrdinal h
  obtain ⟨hvalid, hordinal⟩ := ofOrdinal_spec (show 1 ≤ d.toOrdinal.toNat by omega)
  rw [← Date.toOrdinal_inj hvalid h, hordinal]
  omega

end Calendar
end EdgeMonitor.Base
