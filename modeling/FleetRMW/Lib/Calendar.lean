import Mathlib.Data.Int.Notation

/-! # The proleptic Gregorian calendar

The leap rule holds for every year, also before the calendar was introduced. Days are counted year
by year, and within a year month by month, from the first day of an epoch year.
-/

namespace FleetRMW.Lib

/-! ## Lengths -/

def IsLeap (year : Int) : Prop := 4 ∣ year ∧ ¬100 ∣ year ∨ 400 ∣ year

instance (year : Int) : Decidable (IsLeap year) := inferInstanceAs (Decidable (_ ∧ _ ∨ _))

def monthLength (year : Int) : Nat → Nat
  | 1 | 3 | 5 | 7 | 8 | 10 | 12 => 31
  | 4 | 6 | 9 | 11 => 30
  | 2 => if IsLeap year then 29 else 28
  | _ => 0

def yearLength (year : Int) : Int := if IsLeap year then 366 else 365

/-- The days of so many months from the first on. -/
def monthsLength (year : Int) : Nat → Int
  | 0 => 0
  | months + 1 => monthsLength year months + monthLength year (months + 1)

/-- The days of so many years from `year` on. -/
def yearsLength (year : Int) : Nat → Int
  | 0 => 0
  | years + 1 => yearLength year + yearsLength (year + 1) years

/-- A year is as long as its months. -/
theorem monthsLength_twelve (year : Int) : monthsLength year 12 = yearLength year := by
  by_cases leap : IsLeap year <;> simp [monthsLength, monthLength, yearLength, leap]

/-! ## Dates -/

structure ValidDay (year : Int) (month day : Nat) : Prop where
  month_pos : 1 ≤ month
  month_le : month ≤ 12
  day_pos : 1 ≤ day
  day_le : day ≤ monthLength year month

structure Date where
  year : Int
  month : Nat
  day : Nat
  valid : ValidDay year month day
  deriving DecidableEq

theorem monthLength_pos {year : Int} {month : Nat} (positive : 1 ≤ month) (le : month ≤ 12) :
    1 ≤ monthLength year month := by
  obtain rfl | rfl | rfl | rfl | rfl | rfl | rfl | rfl | rfl | rfl | rfl | rfl : month = 1 ∨
      month = 2 ∨ month = 3 ∨ month = 4 ∨ month = 5 ∨ month = 6 ∨ month = 7 ∨ month = 8 ∨
      month = 9 ∨ month = 10 ∨ month = 11 ∨ month = 12 := by omega
  all_goals by_cases leap : IsLeap year <;> simp [monthLength, leap]

/-- Every month has a first day. -/
theorem validDay_first {year : Int} {month : Nat} (positive : 1 ≤ month) (le : month ≤ 12) :
    ValidDay year month 1 :=
  ⟨positive, le, Nat.le_refl 1, monthLength_pos positive le⟩

theorem validDay_newYear (year : Int) : ValidDay year 1 1 :=
  validDay_first (Nat.le_refl 1) (by decide)

namespace Date

theorem validDay_tomorrow {d : Date} (earlier : d.day < monthLength d.year d.month) :
    ValidDay d.year d.month (d.day + 1) :=
  ⟨d.valid.month_pos, d.valid.month_le, Nat.le_add_left 1 _, earlier⟩

theorem validDay_nextMonth {d : Date} (within : d.month < 12) :
    ValidDay d.year (d.month + 1) 1 :=
  validDay_first (Nat.le_add_left 1 _) within

/-- The first day of a year. -/
def newYear (year : Int) : Date := ⟨year, 1, 1, validDay_newYear year⟩

/-- The day behind. -/
def next (d : Date) : Date :=
  if earlier : d.day < monthLength d.year d.month then
    ⟨d.year, d.month, d.day + 1, validDay_tomorrow earlier⟩
  else if within : d.month < 12 then ⟨d.year, d.month + 1, 1, validDay_nextMonth within⟩
  else newYear (d.year + 1)

end Date

/-! ## Days -/

variable (epoch : Int)

/-- The days from the first day of the epoch year to the first day of `year`. -/
def yearStart (year : Int) : Int :=
  if epoch ≤ year then yearsLength epoch (year - epoch).toNat
  else -yearsLength year (epoch - year).toNat

/-- The days from the first day of the epoch year to `d`. -/
def Date.number (d : Date) : Int :=
  yearStart epoch d.year + monthsLength d.year (d.month - 1) + ((d.day : Int) - 1)

theorem yearsLength_concat (year : Int) (years : Nat) :
    yearsLength year (years + 1) = yearsLength year years + yearLength (year + years) := by
  induction years generalizing year with
  | zero => simp [yearsLength]
  | succ years ih =>
      have last : year + 1 + (years : Int) = year + ((years + 1 : Nat) : Int) := by omega
      rw [yearsLength, ih, yearsLength, last, Int.add_assoc]

@[simp] theorem yearStart_self : yearStart epoch epoch = 0 := by
  simp [yearStart, yearsLength]

/-- The first day is that of the epoch year. -/
theorem Date.number_newYear : (Date.newYear epoch).number epoch = 0 := by
  simp [Date.number, Date.newYear, monthsLength]

/-- A year begins when the one before it is over. -/
theorem yearStart_succ (year : Int) :
    yearStart epoch (year + 1) = yearStart epoch year + yearLength year := by
  unfold yearStart
  by_cases later : epoch ≤ year
  · have years : (year + 1 - epoch).toNat = (year - epoch).toNat + 1 := by omega
    have last : epoch + ((year - epoch).toNat : Int) = year := by omega
    rw [if_pos later, if_pos (by omega), years, yearsLength_concat, last]
  · have years : (epoch - year).toNat = (epoch - (year + 1)).toNat + 1 := by omega
    rw [if_neg later, years, yearsLength]
    by_cases last : epoch = year + 1
    · subst last
      have none_ : (year + 1 - (year + 1)).toNat = 0 := by omega
      rw [if_pos (Int.le_refl _), none_, yearsLength]
      omega
    · rw [if_neg (by omega)]
      omega

/-- Each day is one behind the day before. -/
theorem Date.number_next (d : Date) : d.next.number epoch = d.number epoch + 1 := by
  unfold Date.next
  split
  case isTrue =>
    simp only [number]
    omega
  case isFalse last =>
    have whole : d.day = monthLength d.year d.month := by
      have := d.valid.day_le
      omega
    have month : d.month = d.month - 1 + 1 := by
      have := d.valid.month_pos
      omega
    have through : monthsLength d.year d.month =
        monthsLength d.year (d.month - 1) + monthLength d.year d.month := by
      rw [month, monthsLength]
      rfl
    split
    case isTrue =>
      simp only [number, Nat.add_sub_cancel, through, whole]
      omega
    case isFalse december =>
      have twelve : d.month = 12 := by
        have := d.valid.month_le
        omega
      have full := monthsLength_twelve d.year
      rw [← twelve, through] at full
      simp only [number, newYear, yearStart_succ, Nat.sub_self, monthsLength, whole]
      omega

end FleetRMW.Lib
