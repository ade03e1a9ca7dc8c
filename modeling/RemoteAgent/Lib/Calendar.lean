import Mathlib

/-!
# The proleptic Gregorian calendar

Dates and their ordinals, 1 January of the year 1 being day 1.

* `Date.ordinal_lt_iff`: dates are ordered by year, month and day as they are by ordinal.
* `Date.ordinal_fromOrdinal`: the date of an ordinal.
-/

namespace Calendar

def isLeap (year : Nat) : Bool := year % 4 = 0 && (year % 100 ≠ 0 || year % 400 = 0)

/-- The days before 1 January of the year. -/
def daysBeforeYear (year : Nat) : Nat :=
  (year - 1) * 365 + (year - 1) / 4 - (year - 1) / 100 + (year - 1) / 400

def daysInMonth (leap : Bool) : Nat → Nat
  | 1 | 3 | 5 | 7 | 8 | 10 | 12 => 31
  | 4 | 6 | 9 | 11 => 30
  | 2 => if leap then 29 else 28
  | _ => 0

/-- The days of a year before the first day of the month. -/
def daysBeforeMonth (leap : Bool) : Nat → Nat
  | 0 | 1 => 0
  | month + 1 => daysBeforeMonth leap month + daysInMonth leap month

def daysInYear (leap : Bool) : Nat := if leap then 366 else 365

theorem succ_div_mod (y b : Nat) :
    (y + 1) / b = y / b + if (y + 1) % b = 0 then 1 else 0 := by
  rw [Nat.succ_div]
  simp only [Nat.dvd_iff_mod_eq_zero]

theorem daysBeforeYear_succ {year : Nat} (positive : 1 ≤ year) :
    daysBeforeYear (year + 1) = daysBeforeYear year + daysInYear (isLeap year) := by
  obtain ⟨y, rfl⟩ := Nat.exists_eq_add_of_le' positive
  have leap : isLeap (y + 1) = true ↔
      (y + 1) % 4 = 0 ∧ ((y + 1) % 100 ≠ 0 ∨ (y + 1) % 400 = 0) := by
    simp only [isLeap, Bool.and_eq_true, Bool.or_eq_true, decide_eq_true_eq]
  have centuries : y / 100 ≤ y / 4 := by omega
  have hundred : (y + 1) % 100 = 0 → (y + 1) % 4 = 0 := by omega
  have fourHundred : (y + 1) % 400 = 0 → (y + 1) % 100 = 0 := by omega
  unfold daysBeforeYear daysInYear
  simp only [Nat.add_sub_cancel, succ_div_mod y 4, succ_div_mod y 100,
    succ_div_mod y 400, leap]
  generalize (y + 1) % 4 = r4, (y + 1) % 100 = r100, (y + 1) % 400 = r400 at *
  split_ifs <;> omega

theorem daysBeforeYear_lt {year year' : Nat} (positive : 1 ≤ year) (lt : year < year') :
    daysBeforeYear year + daysInYear (isLeap year) ≤ daysBeforeYear year' := by
  induction year', lt using Nat.le_induction with
  | base => exact (daysBeforeYear_succ positive).ge
  | succ y le ih =>
      rw [daysBeforeYear_succ (show 1 ≤ y by omega)]
      omega

/-- A month ends before the next one begins. -/
theorem daysBeforeMonth_lt (leap : Bool) {month month' : Nat} (lt : month < month')
    (positive : 1 ≤ month) :
    daysBeforeMonth leap month + daysInMonth leap month ≤ daysBeforeMonth leap month' := by
  have step : ∀ m, 1 ≤ m →
      daysBeforeMonth leap (m + 1) = daysBeforeMonth leap m + daysInMonth leap m := by
    intro m positive
    obtain ⟨m, rfl⟩ := Nat.exists_eq_add_of_le' positive
    rfl
  induction month', lt using Nat.le_induction with
  | base => exact (step month positive).ge
  | succ m le ih =>
      rw [step m (by omega)]
      omega

theorem daysBeforeMonth_le_year (leap : Bool) {month : Nat} (positive : 1 ≤ month)
    (le : month ≤ 12) :
    daysBeforeMonth leap month + daysInMonth leap month ≤ daysInYear leap := by
  have december := daysBeforeMonth_lt leap (show month < 13 by omega) positive
  have whole : daysBeforeMonth leap 13 = daysInYear leap := by cases leap <;> rfl
  omega

/-! ## Dates -/

/-- A date that exists. -/
structure Date where
  year : Nat
  month : Nat
  day : Nat
  year_pos : 1 ≤ year
  month_pos : 1 ≤ month
  month_le : month ≤ 12
  day_pos : 1 ≤ day
  day_le : day ≤ daysInMonth (isLeap year) month

namespace Date

def ordinal (d : Date) : Nat :=
  daysBeforeYear d.year + daysBeforeMonth (isLeap d.year) d.month + d.day

/-- Year, month and day. -/
def fields (d : Date) : List Nat := [d.year, d.month, d.day]

theorem fields_lt_iff {d d' : Date} : d.fields < d'.fields ↔
    d.year < d'.year ∨ d.year = d'.year ∧
      (d.month < d'.month ∨ d.month = d'.month ∧ d.day < d'.day) := by
  simp only [fields, List.cons_lt_cons_iff, List.not_lt_nil, and_false, or_false]

theorem ordinal_lt_of_fields_lt {d d' : Date} (lt : d.fields < d'.fields) :
    d.ordinal < d'.ordinal := by
  have ends := daysBeforeMonth_le_year (isLeap d.year) d.month_pos d.month_le
  have day := d.day_le
  have day' := d'.day_pos
  unfold ordinal
  rcases fields_lt_iff.mp lt with year | ⟨year, month | ⟨month, day⟩⟩
  · have later := daysBeforeYear_lt d.year_pos year
    omega
  · have later := daysBeforeMonth_lt (isLeap d.year) month d.month_pos
    rw [← year]
    omega
  · rw [← year, ← month]
    omega

/-- **Dates are ordered as their ordinals.** -/
theorem ordinal_lt_iff {d d' : Date} : d.ordinal < d'.ordinal ↔ d.fields < d'.fields := by
  refine ⟨fun lt => ?_, ordinal_lt_of_fields_lt⟩
  by_contra notLt
  rcases lt_or_eq_of_le (not_lt.mp notLt) with later | same
  · have := ordinal_lt_of_fields_lt later
    omega
  · simp only [fields, List.cons.injEq] at same
    obtain ⟨year, month, day, _⟩ := same
    simp only [ordinal, year, month, day, lt_irrefl] at lt

theorem ordinal_inj {d d' : Date} : d.ordinal = d'.ordinal ↔ d.fields = d'.fields := by
  constructor
  · intro same
    rcases lt_trichotomy d.fields d'.fields with lt | eq | gt
    · have := ordinal_lt_of_fields_lt lt
      omega
    · exact eq
    · have := ordinal_lt_of_fields_lt gt
      omega
  · intro same
    simp only [fields, List.cons.injEq] at same
    obtain ⟨year, month, day, _⟩ := same
    simp only [ordinal, year, month, day]

end Date

/-! ## The date of an ordinal -/

/-- The day of the year from 0, and the year, of the day from 0. -/
def yearOf (n : Nat) : Nat × Nat :=
  let n400 := n / 146097
  let n := n % 146097
  let n100 := n / 36524
  let n := n % 36524
  let n4 := n / 1461
  let n := n % 1461
  let n1 := n / 365
  let n := n % 365
  let year := n400 * 400 + 1 + (n100 * 100 + n4 * 4 + n1)
  if n1 = 4 ∨ n100 = 4 then (year - 1, 365) else (year, n)

/-- The month and the day of a day of the year from 0: an estimate that is at most one too
large, and the correction. -/
def monthOf (leap : Bool) (n : Nat) : Nat × Nat :=
  let month := (n + 50) / 32
  let month := if daysBeforeMonth leap month > n then month - 1 else month
  (month, n - daysBeforeMonth leap month + 1)

/-- The days before a year that is given by its four-century cycle, century, leap cycle and
place in it. -/
theorem daysBeforeYear_cycles {n400 n100 n4 n1 : Nat} (century : n100 ≤ 3) (cycle : n4 ≤ 24)
    (place : n1 ≤ 3) : daysBeforeYear (n400 * 400 + 1 + (n100 * 100 + n4 * 4 + n1)) =
      n400 * 146097 + n100 * 36524 + n4 * 1461 + n1 * 365 := by
  unfold daysBeforeYear
  have year : n400 * 400 + 1 + (n100 * 100 + n4 * 4 + n1) - 1 =
      n400 * 400 + n100 * 100 + n4 * 4 + n1 := by omega
  have four : (n400 * 400 + n100 * 100 + n4 * 4 + n1) / 4 = n400 * 100 + n100 * 25 + n4 := by
    omega
  have hundred : (n400 * 400 + n100 * 100 + n4 * 4 + n1) / 100 = n400 * 4 + n100 := by omega
  have fourHundred : (n400 * 400 + n100 * 100 + n4 * 4 + n1) / 400 = n400 := by omega
  rw [year, four, hundred, fourHundred]
  omega

theorem isLeap_of_last {n400 n100 n4 : Nat} (last : n4 ≤ 23 ∨ n100 = 3) (cycle : n4 ≤ 24) :
    isLeap (n400 * 400 + 1 + (n100 * 100 + n4 * 4 + 3)) = true := by
  simp only [isLeap, Bool.and_eq_true, Bool.or_eq_true, decide_eq_true_eq]
  refine ⟨by omega, ?_⟩
  rcases last with early | late
  · exact Or.inl (by omega)
  · by_cases wrap : n4 = 24
    · exact Or.inr (by omega)
    · exact Or.inl (by omega)

theorem yearOf_spec (n : Nat) :
    1 ≤ (yearOf n).1 ∧ (yearOf n).2 < daysInYear (isLeap (yearOf n).1) ∧
      daysBeforeYear (yearOf n).1 + (yearOf n).2 = n := by
  have common : ∀ leap, 365 ≤ daysInYear leap := by decide
  unfold yearOf
  obtain ⟨n400, n100, n4, n1, rest, cycles, centuries, leaps, years, days, first, second, third⟩ :
      ∃ n400 n100 n4 n1 rest, n / 146097 = n400 ∧ n % 146097 / 36524 = n100 ∧
        n % 146097 % 36524 / 1461 = n4 ∧ n % 146097 % 36524 % 1461 / 365 = n1 ∧
        n % 146097 % 36524 % 1461 % 365 = rest ∧ n100 * 36524 + n4 * 1461 + n1 * 365 + rest < 146097 ∧
        n4 * 1461 + n1 * 365 + rest < 36524 ∧ n1 * 365 + rest < 1461 :=
    ⟨_, _, _, _, _, rfl, rfl, rfl, rfl, rfl, by omega, by omega, by omega⟩
  have whole : n = n400 * 146097 + n100 * 36524 + n4 * 1461 + n1 * 365 + rest := by omega
  have short : rest < 365 := by omega
  simp only [cycles, centuries, leaps, years, days]
  split
  · -- the last day of a leap year
    rename_i last
    have whole_year : daysInYear true = 366 := rfl
    dsimp only
    rcases last with year | century
    · rw [show n400 * 400 + 1 + (n100 * 100 + n4 * 4 + n1) - 1 =
        n400 * 400 + 1 + (n100 * 100 + n4 * 4 + 3) by omega,
        @isLeap_of_last n400 n100 n4 (by omega) (by omega),
        @daysBeforeYear_cycles n400 n100 n4 3 (by omega) (by omega) (by omega)]
      refine ⟨by omega, by omega, by omega⟩
    · rw [show n400 * 400 + 1 + (n100 * 100 + n4 * 4 + n1) - 1 =
        n400 * 400 + 1 + (3 * 100 + 24 * 4 + 3) by omega,
        @isLeap_of_last n400 3 24 (by omega) (by omega),
        @daysBeforeYear_cycles n400 3 24 3 (by omega) (by omega) (by omega)]
      refine ⟨by omega, by omega, by omega⟩
  · dsimp only
    rw [@daysBeforeYear_cycles n400 n100 n4 n1 (by omega) (by omega) (by omega)]
    have := common (isLeap (n400 * 400 + 1 + (n100 * 100 + n4 * 4 + n1)))
    refine ⟨by omega, by omega, by omega⟩

theorem monthOf_spec : ∀ leap : Bool, ∀ n < daysInYear leap,
    1 ≤ (monthOf leap n).1 ∧ (monthOf leap n).1 ≤ 12 ∧ 1 ≤ (monthOf leap n).2 ∧
      (monthOf leap n).2 ≤ daysInMonth leap (monthOf leap n).1 ∧
      daysBeforeMonth leap (monthOf leap n).1 + (monthOf leap n).2 = n + 1 := by
  decide +kernel

/-- The date of an ordinal. -/
def Date.fromOrdinal (n : Nat) : Date :=
  let year := yearOf (n - 1)
  let month := monthOf (isLeap year.1) year.2
  have spec := monthOf_spec (isLeap year.1) year.2 (yearOf_spec (n - 1)).2.1
  { year := year.1
    month := month.1
    day := month.2
    year_pos := (yearOf_spec (n - 1)).1
    month_pos := spec.1
    month_le := spec.2.1
    day_pos := spec.2.2.1
    day_le := spec.2.2.2.1 }

/-- **The date of an ordinal has this ordinal.** -/
theorem Date.ordinal_fromOrdinal {n : Nat} (positive : 1 ≤ n) :
    (Date.fromOrdinal n).ordinal = n := by
  have year := yearOf_spec (n - 1)
  have month := monthOf_spec (isLeap (yearOf (n - 1)).1) (yearOf (n - 1)).2 year.2.1
  simp only [ordinal, fromOrdinal]
  omega

/-- The dates of the first years are those of the first days. -/
theorem Date.year_le_iff {d : Date} {year : Nat} :
    d.year ≤ year ↔ d.ordinal ≤ daysBeforeYear (year + 1) := by
  have ends := daysBeforeMonth_le_year (isLeap d.year) d.month_pos d.month_le
  have day := d.day_le
  have positive := d.day_pos
  unfold ordinal
  constructor
  · intro le
    have later := daysBeforeYear_lt d.year_pos (show d.year < year + 1 by omega)
    omega
  · intro le
    by_contra late
    rcases Nat.lt_or_eq_of_le (show year + 1 ≤ d.year by omega) with lt | eq
    · have later := daysBeforeYear_lt (show 1 ≤ year + 1 by omega) lt
      omega
    · rw [← eq] at le
      omega

example : (Date.fromOrdinal 738885).fields = [2023, 12, 31] := by decide

end Calendar
