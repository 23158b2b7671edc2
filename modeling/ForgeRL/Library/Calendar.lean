import ForgeRL.Library.Rounding
import Mathlib.Tactic.Linarith
import Mathlib.Tactic.IntervalCases

/-!
# Instants, UTC days and calendar months

An instant is a number of seconds since 1970-01-01T00:00:00Z.  A date library
does not read it exactly: it first rounds to whole microseconds, ties to even,
and only then splits the result into a day and a time of day.  The rounding is
kept here, because an instant less than half a microsecond before midnight is
rounded into the following day.

Dates are proleptic Gregorian and counted by ordinals, with ordinal one for
0001-01-01.  `ord2ymd` splits an ordinal by 400, 100, 4 and 1 year cycles;
`ymd2ord` is the closed form.  Their round trip gives what a caller needs of a
month: its first day is determined by the year and the month alone, and does
not lie after any day of it.
-/

namespace Library

/-! ## Days -/

/-- The UTC day that contains an instant, counted from 1970-01-01. -/
def utcDay (instant : ℚ) : ℤ := ⌊instant / 86400⌋

/-- The instant in whole microseconds, as a date library stores it. -/
def microseconds (instant : ℚ) : ℤ := roundHalfEven (instant * 1000000)

/-- The day that a date library reads off the rounded instant. -/
def roundedDay (instant : ℚ) : ℤ := microseconds instant / (86400 * 1000000)

theorem utcDay_le_iff (day : ℤ) (instant : ℚ) :
    day ≤ utcDay instant ↔ (day : ℚ) * 86400 ≤ instant := by
  rw [utcDay, Int.le_floor, le_div_iff₀ (by norm_num)]

/-! ## Ordinals -/

structure Date where
  year : ℤ
  month : ℕ
  day : ℤ
deriving DecidableEq, Repr

def daysBeforeYear (year : ℤ) : ℤ :=
  let y := year - 1
  y * 365 + y / 4 - y / 100 + y / 400

def isLeap (year : ℤ) : Bool :=
  decide (year % 4 = 0 ∧ (year % 100 ≠ 0 ∨ year % 400 = 0))

def daysBeforeMonthTable : List ℤ := [0, 0, 31, 59, 90, 120, 151, 181, 212, 243, 273, 304, 334]

def daysInMonthTable : List ℤ := [0, 31, 28, 31, 30, 31, 30, 31, 31, 30, 31, 30, 31]

def daysBeforeMonth (leap : Bool) (month : ℕ) : ℤ :=
  daysBeforeMonthTable.getD month 0 + if month > 2 ∧ leap then 1 else 0

def ymd2ord (date : Date) : ℤ :=
  daysBeforeYear date.year + daysBeforeMonth (isLeap date.year) date.month + date.day

/-- The month and the day of the month at an offset from January 1st. -/
def monthAndDay (leap : Bool) (offset : ℕ) : ℕ × ℤ :=
  let estimate := (offset + 50) / 32
  let preceding := daysBeforeMonth leap estimate
  if preceding > offset then
    let month := estimate - 1
    (month, offset - (preceding -
      (daysInMonthTable.getD month 0 + if month = 2 ∧ leap then 1 else 0)) + 1)
  else (estimate, offset - preceding + 1)

def ord2ymd (ordinal : ℤ) : Date :=
  let n := ordinal - 1
  let n400 := n / 146097
  let n := n % 146097
  let n100 := n / 36524
  let n := n % 36524
  let n4 := n / 1461
  let n := n % 1461
  let n1 := n / 365
  let n := n % 365
  let year := n400 * 400 + 1 + n100 * 100 + n4 * 4 + n1
  -- The last day of a leap year ends a cycle and would open a fifth part of it.
  if n1 = 4 ∨ n100 = 4 then ⟨year - 1, 12, 31⟩
  else
    let leap := decide (n1 = 3 ∧ (n4 ≠ 24 ∨ n100 = 3))
    let found := monthAndDay leap n.toNat
    ⟨year, found.1, found.2⟩

theorem monthAndDay_spec (leap : Bool) {offset : ℕ} (inYear : offset < 365) :
    daysBeforeMonth leap (monthAndDay leap offset).1 + (monthAndDay leap offset).2 =
        (offset : ℤ) + 1 ∧
      1 ≤ (monthAndDay leap offset).2 := by
  have table : ∀ flag : Bool, ∀ n < 365,
      daysBeforeMonth flag (monthAndDay flag n).1 + (monthAndDay flag n).2 = (n : ℤ) + 1 ∧
        1 ≤ (monthAndDay flag n).2 := by decide +kernel
  exact table leap offset inYear

/-- The cycle decomposition reads the year's own leap rule. -/
theorem isLeap_of_cycles {a b c d : ℤ} (hb : 0 ≤ b) (hb' : b < 4) (hc : 0 ≤ c) (hc' : c < 25)
    (hd : 0 ≤ d) (hd' : d < 4) :
    isLeap (a * 400 + 1 + b * 100 + c * 4 + d) = decide (d = 3 ∧ (c ≠ 24 ∨ b = 3)) := by
  unfold isLeap
  apply decide_eq_decide.mpr
  omega

theorem daysBeforeYear_of_cycles {a b c d : ℤ} (hb : 0 ≤ b) (hb' : b < 4) (hc : 0 ≤ c)
    (hc' : c < 25) (hd : 0 ≤ d) (hd' : d < 4) :
    daysBeforeYear (a * 400 + 1 + b * 100 + c * 4 + d) =
      a * 146097 + b * 36524 + c * 1461 + d * 365 := by
  simp only [daysBeforeYear]
  omega

/-- Splitting an ordinal and counting back returns the ordinal. -/
theorem ymd2ord_ord2ymd (ordinal : ℤ) :
    ymd2ord (ord2ymd ordinal) = ordinal ∧ 1 ≤ (ord2ymd ordinal).day := by
  set n := ordinal - 1 with hn
  set a := n / 146097 with ha
  set r := n % 146097 with hr
  set b := r / 36524 with hb
  set s := r % 36524 with hs
  set c := s / 1461 with hc
  set t := s % 1461 with ht
  set d := t / 365 with hd
  set m := t % 365 with hm
  have date : ord2ymd ordinal =
      if d = 4 ∨ b = 4 then ⟨a * 400 + 1 + b * 100 + c * 4 + d - 1, 12, 31⟩
      else ⟨a * 400 + 1 + b * 100 + c * 4 + d,
        (monthAndDay (decide (d = 3 ∧ (c ≠ 24 ∨ b = 3))) m.toNat).1,
        (monthAndDay (decide (d = 3 ∧ (c ≠ 24 ∨ b = 3))) m.toNat).2⟩ := rfl
  rw [date]
  split
  · next last =>
      refine ⟨?_, by norm_num⟩
      rcases last with last | last
      · have lastYear : a * 400 + 1 + b * 100 + c * 4 + d - 1 =
            a * 400 + 1 + b * 100 + c * 4 + 3 := by omega
        simp only [ymd2ord, lastYear]
        rw [daysBeforeYear_of_cycles (by omega) (by omega) (by omega) (by omega) (by omega)
          (by omega), isLeap_of_cycles (by omega) (by omega) (by omega) (by omega) (by omega)
          (by omega)]
        have leap : decide ((3 : ℤ) = 3 ∧ (c ≠ 24 ∨ b = 3)) = true := by
          apply decide_eq_true
          omega
        rw [leap]
        simp [daysBeforeMonth, daysBeforeMonthTable]
        omega
      · have lastYear : a * 400 + 1 + b * 100 + c * 4 + d - 1 =
            a * 400 + 1 + 3 * 100 + 24 * 4 + 3 := by omega
        simp only [ymd2ord, lastYear]
        rw [daysBeforeYear_of_cycles (by omega) (by omega) (by omega) (by omega) (by omega)
          (by omega), isLeap_of_cycles (by omega) (by omega) (by omega) (by omega) (by omega)
          (by omega)]
        simp [daysBeforeMonth, daysBeforeMonthTable]
        omega
  · next inside =>
      have bounds : 0 ≤ b ∧ b < 4 ∧ 0 ≤ c ∧ c < 25 ∧ 0 ≤ d ∧ d < 4 ∧ 0 ≤ m ∧ m < 365 := by omega
      rcases bounds with ⟨hb0, hb4, hc0, hc25, hd0, hd4, hm0, hm365⟩
      have counted := monthAndDay_spec (decide (d = 3 ∧ (c ≠ 24 ∨ b = 3)))
        (show m.toNat < 365 by omega)
      refine ⟨?_, counted.2⟩
      simp only [ymd2ord]
      rw [daysBeforeYear_of_cycles hb0 hb4 hc0 hc25 hd0 hd4,
        isLeap_of_cycles hb0 hb4 hc0 hc25 hd0 hd4]
      have offset : ((m.toNat : ℕ) : ℤ) = m := Int.toNat_of_nonneg hm0
      rw [offset] at counted
      omega

/-! ## Months -/

/-- The first day of the month of an ordinal. -/
def monthStart (ordinal : ℤ) : ℤ :=
  let date := ord2ymd ordinal
  ymd2ord { date with day := 1 }

theorem monthStart_le (ordinal : ℤ) : monthStart ordinal ≤ ordinal := by
  have trip := ymd2ord_ord2ymd ordinal
  simp only [monthStart, ymd2ord] at trip ⊢
  omega

/-- Days of one calendar month share their first day. -/
theorem monthStart_eq_of_same_month {first second : ℤ}
    (year : (ord2ymd first).year = (ord2ymd second).year)
    (month : (ord2ymd first).month = (ord2ymd second).month) :
    monthStart first = monthStart second := by
  simp only [monthStart, ymd2ord, year, month]

example : ord2ymd 719163 = ⟨1970, 1, 1⟩ := by decide +kernel

example : ord2ymd 738945 = ⟨2024, 2, 29⟩ := by decide +kernel

end Library
