import FleetRMW.Lib.Calendar
import FleetRMW.Lib.Except
import FleetRMW.Rmw.StreamKeys
import FleetRMW.Rmw.Text

/-! # Times of certificates and grants

A validity period is given by texts such as `2026-02-28T23:59:60.5+01:30`. They are read with
indexes into the text, and the day is counted from years that begin in March.
-/

namespace FleetRMW.Rmw

open Lib

/-! ## Reading -/

/-- `text[index]`, where an index behind the last character is an error. -/
def readAt (text : Bytes) (index : Nat) : Cpp UInt8 :=
  match text[index]? with
  | none => .error .pastEnd
  | some c => .ok c

/-- The loop of `parse_fixed_decimal`. -/
def parseDigits (text : Bytes) : Nat → Nat → Nat → Cpp (Option Nat)
  | _, 0, parsed => .ok (some parsed)
  | index, width + 1, parsed => do
      let c ← readAt text index
      if !isDecimal c then .ok none
      else parseDigits text (index + 1) width (parsed * 10 + (c.toNat - 48))

def parseFixedDecimal (text : Bytes) (offset width : Nat) : Cpp (Option Nat) :=
  if offset + width > text.length ∨ width = 0 then .ok none else parseDigits text offset width 0

def isLeapYear (year : Int) : Bool :=
  (year.tmod 4 = 0 ∧ year.tmod 100 ≠ 0) ∨ year.tmod 400 = 0

def kDays : List Nat := [31, 28, 31, 30, 31, 30, 31, 31, 30, 31, 30, 31]

def daysInMonth (year : Int) (month : Nat) : Nat :=
  if month < 1 ∨ month > 12 then 0
  else if month = 2 ∧ isLeapYear year then 29 else kDays.getD (month - 1) 0

/-- The conversion to `unsigned`. -/
def toUnsigned (n : Int) : Int := n % 2 ^ 32

/-- The year is an `int` for which `year - 399` is one, too. -/
def daysFromCivil (year : Int) (month day : Nat) : Int :=
  let year := if month ≤ 2 then year - 1 else year
  let era := (if year ≥ 0 then year else year - 399).tdiv 400
  let yearOfEra := toUnsigned (year - era * 400)
  let adjustedMonth : Int := month + (if month > 2 then -3 else 9)
  let dayOfYear := toUnsigned (toUnsigned ((153 * adjustedMonth + 2).tdiv 5) + day - 1)
  let dayOfEra := toUnsigned (yearOfEra * 365 + yearOfEra / 4 - yearOfEra / 100 + dayOfYear)
  era * 146097 + dayOfEra - 719468

/-- Where the digits end that begin at the cursor. -/
def skipDigits (text : Bytes) : Nat → Nat → Cpp Nat
  | 0, cursor => .ok cursor
  | turns + 1, cursor =>
      if cursor < text.length then do
        let c ← readAt text cursor
        if isDecimal c then skipDigits text turns (cursor + 1) else .ok cursor
      else .ok cursor

/-- Where the fraction ends. -/
def skipFraction (text : Bytes) (cursor : Nat) : Cpp (Option Nat) :=
  if cursor < text.length then do
    let c ← readAt text cursor
    if c = 46 then do
      let behind ← skipDigits text text.length (cursor + 1)
      .ok (if behind = cursor + 1 then none else some behind)
    else .ok (some cursor)
  else .ok (some cursor)

/-- There is a colon at the cursor. -/
def colonAt (text : Bytes) (cursor : Nat) : Cpp Bool :=
  if cursor < text.length then (readAt text cursor).map fun c => decide (c = 58) else .ok false

/-- The hours and minutes behind a sign. -/
def parseOffset (text : Bytes) (cursor : Nat) (sign : Int) : Cpp (Option (Nat × Int)) := do
  match ← parseFixedDecimal text cursor 2 with
  | none => .ok none
  | some hour =>
      let cursor := cursor + 2
      let colon ← colonAt text cursor
      let cursor := if colon then cursor + 1 else cursor
      match ← parseFixedDecimal text cursor 2 with
      | none => .ok none
      | some minute =>
          .ok (if hour > 23 ∨ minute > 59 then none
            else some (cursor + 2, sign * (hour * 3600 + minute * 60)))

/-- Where the time zone ends, and its distance in seconds. -/
def parseTimezone (text : Bytes) (cursor : Nat) : Cpp (Option (Nat × Int)) :=
  if cursor < text.length then do
    let c ← readAt text cursor
    if c = 90 ∨ c = 122 then .ok (some (cursor + 1, 0))
    else if c = 43 ∨ c = 45 then parseOffset text (cursor + 1) (if c = 43 then 1 else -1)
    else .ok (some (cursor, 0))
  else .ok (some (cursor, 0))

/-- A number of two digits, and that the mark stands behind it. -/
def parseMarked (text : Bytes) (offset width : Nat) (mark : UInt8) : Cpp (Option Nat) := do
  match ← parseFixedDecimal text offset width with
  | none => .ok none
  | some value =>
      let c ← readAt text (offset + width)
      .ok (if c ≠ mark then none else some value)

def parseIso8601EpochSeconds (rawText : Bytes) : Cpp (Option Int) :=
  let text := trimCopy rawText
  if text.length < 19 then .ok none
  else do
    let separator ← readAt text 10
    if separator ≠ 84 ∧ separator ≠ 32 then .ok none
    else
      let some year ← parseMarked text 0 4 45 | .ok none
      let some month ← parseMarked text 5 2 45 | .ok none
      let some day ← parseFixedDecimal text 8 2 | .ok none
      let some hour ← parseMarked text 11 2 58 | .ok none
      let some minute ← parseMarked text 14 2 58 | .ok none
      let some second ← parseFixedDecimal text 17 2 | .ok none
      if day < 1 ∨ day > daysInMonth year month ∨ hour > 23 ∨ minute > 59 ∨ second > 60 then
        .ok none
      else
        let some cursor ← skipFraction text 19 | .ok none
        let some (cursor, timezoneOffsetS) ← parseTimezone text cursor | .ok none
        if cursor ≠ text.length then .ok none
        else
          .ok (some (daysFromCivil year month day * 86400 + hour * 3600 + minute * 60 + second -
            timezoneOffsetS))

/-! ## Days -/

variable {year : Int} {month day : Nat}

theorem isLeapYear_iff : isLeapYear year = true ↔ IsLeap year := by
  unfold isLeapYear IsLeap
  rw [decide_eq_true_iff, ← Int.dvd_iff_tmod_eq_zero, ← Int.dvd_iff_tmod_eq_zero, ne_eq,
    ← Int.dvd_iff_tmod_eq_zero]

theorem daysInMonth_eq (positive : 1 ≤ month) (le : month ≤ 12) :
    daysInMonth year month = monthLength year month := by
  unfold daysInMonth
  rw [if_neg (by omega)]
  simp only [isLeapYear_iff]
  obtain rfl | rfl | rfl | rfl | rfl | rfl | rfl | rfl | rfl | rfl | rfl | rfl : month = 1 ∨
      month = 2 ∨ month = 3 ∨ month = 4 ∨ month = 5 ∨ month = 6 ∨ month = 7 ∨ month = 8 ∨
      month = 9 ∨ month = 10 ∨ month = 11 ∨ month = 12 := by omega
  all_goals by_cases leap : IsLeap year <;> simp [monthLength, kDays, leap]

/-- The days that are accepted are days of the calendar. -/
theorem validDay_of_daysInMonth (positive : ¬day < 1) (le : ¬day > daysInMonth year month) :
    ValidDay year month day := by
  have within : ¬(month < 1 ∨ month > 12) := by
    intro outside
    rw [daysInMonth, if_pos outside] at le
    omega
  have same : daysInMonth year month = monthLength year month :=
    daysInMonth_eq (by omega) (by omega)
  exact ⟨by omega, by omega, by omega, by omega⟩

/-- The leap years up to a year. -/
def leapYears (year : Int) : Int := year / 4 - year / 100 + year / 400

theorem leapYears_eq (year : Int) :
    leapYears year = leapYears (year - 1) + (if IsLeap year then 1 else 0) := by
  unfold leapYears
  by_cases leap : IsLeap year
  · rw [if_pos leap]
    unfold IsLeap at leap
    omega
  · rw [if_neg leap]
    unfold IsLeap at leap
    omega

theorem yearLength_eq (year : Int) : yearLength year = 365 + (if IsLeap year then 1 else 0) := by
  unfold yearLength
  split <;> rfl

theorem yearStart_eq (year : Int) :
    yearStart 1970 year = 365 * (year - 1970) + leapYears (year - 1) - 477 := by
  induction year using Int.inductionOn' (b := 1970) with
  | zero => decide
  | succ y _ ih =>
      have leaps := leapYears_eq y
      rw [yearStart_succ, ih, yearLength_eq, Int.add_sub_cancel]
      omega
  | pred y _ ih =>
      have leaps := leapYears_eq (y - 1)
      have next := yearStart_succ 1970 (y - 1)
      rw [Int.sub_add_cancel, ih, yearLength_eq] at next
      omega

theorem era_eq (year : Int) :
    (if year ≥ 0 then year else year - 399).tdiv 400 = year / 400 := by
  split
  case isTrue nonneg => exact Int.tdiv_eq_ediv_of_nonneg nonneg
  case isFalse negative =>
    have flipped : (year - 399).tdiv 400 = -((399 - year).tdiv 400) := by
      rw [← Int.neg_tdiv]
      congr 1
      omega
    rw [flipped, Int.tdiv_eq_ediv_of_nonneg (by omega)]
    omega

theorem toUnsigned_eq {n : Int} (nonneg : 0 ≤ n) (small : n < 2 ^ 32) : toUnsigned n = n :=
  Int.emod_eq_of_lt nonneg small

/-- The days that an era and the years in it count. -/
theorem eraDays_eq (year : Int) : year / 400 * 146097 + ((year - year / 400 * 400) * 365 +
      (year - year / 400 * 400) / 4 - (year - year / 400 * 400) / 100) =
    365 * year + leapYears year := by
  unfold leapYears
  omega

/-- A day of a year that begins in March. -/
theorem daysFromCivil_eq (valid : ValidDay year month day) : daysFromCivil year month day =
    365 * (if month ≤ 2 then year - 1 else year) + leapYears (if month ≤ 2 then year - 1 else year) +
      ((153 * ((month : Int) + (if month > 2 then -3 else 9)) + 2) / 5 + day - 1) - 719468 := by
  obtain ⟨month_pos, month_le, day_pos, day_le⟩ := valid
  have short : monthLength year month ≤ 31 := by
    unfold monthLength
    split <;> (try split) <;> omega
  unfold daysFromCivil
  dsimp only
  generalize (if month ≤ 2 then year - 1 else year) = y
  generalize adjusted : (month : Int) + (if month > 2 then -3 else 9) = m
  have range : 0 ≤ m ∧ m ≤ 11 := by
    split at adjusted <;> omega
  have ofEra : 0 ≤ y - y / 400 * 400 ∧ y - y / 400 * 400 < 400 := by omega
  have days := eraDays_eq y
  rw [era_eq, Int.tdiv_eq_ediv_of_nonneg (by omega)]
  generalize y - y / 400 * 400 = ofEra' at ofEra days ⊢
  rw [toUnsigned_eq (n := ofEra') (by omega) (by omega),
    toUnsigned_eq (n := (153 * m + 2) / 5) (by omega) (by omega),
    toUnsigned_eq (n := (153 * m + 2) / 5 + day - 1) (by omega) (by omega),
    toUnsigned_eq (by omega) (by omega)]
  omega

/-- The days of a date of the calendar. -/
def civilDays (d : Date) : Int := daysFromCivil d.year d.month d.day

/-- Years that begin in March, and eras of 400 of them, count the days of the calendar. -/
theorem civilDays_eq (d : Date) : civilDays d = d.number 1970 := by
  obtain ⟨year, month, day, valid⟩ := d
  have leaps := leapYears_eq year
  unfold civilDays Date.number
  dsimp only
  rw [daysFromCivil_eq valid, yearStart_eq]
  obtain ⟨month_pos, month_le, -, -⟩ := valid
  obtain rfl | rfl | rfl | rfl | rfl | rfl | rfl | rfl | rfl | rfl | rfl | rfl : month = 1 ∨
      month = 2 ∨ month = 3 ∨ month = 4 ∨ month = 5 ∨ month = 6 ∨ month = 7 ∨ month = 8 ∨
      month = 9 ∨ month = 10 ∨ month = 11 ∨ month = 12 := by omega
  all_goals
    by_cases leap : IsLeap year <;> simp [monthsLength, monthLength, leap] at leaps ⊢ <;> omega

/-! ## Texts -/

/-- How the distance from UTC is given. -/
inductive Zone where
  | unmarked
  | utc (small : Bool)
  | shifted (ahead colon : Bool) (hour : Fin 24) (minute : Fin 60)

def Zone.text : Zone → Bytes
  | unmarked => []
  | utc small => [if small then 122 else 90]
  | shifted ahead colon hour minute =>
      (if ahead then 43 else 45) :: (fixedDecimal 2 hour ++
        ((if colon then [58] else []) ++ fixedDecimal 2 minute))

def Zone.seconds : Zone → Int
  | unmarked | utc _ => 0
  | shifted ahead _ hour minute =>
      (if ahead then 1 else -1) * ((hour.val : Int) * 3600 + (minute.val : Int) * 60)

/-- A date of the calendar and a time of the day. The second may be a leap second. -/
structure IsoTime where
  date : Date
  year_nonneg : 0 ≤ date.year
  year_lt : date.year < 10000
  spaced : Bool
  hour : Fin 24
  minute : Fin 60
  second : Fin 61
  fraction : Bytes
  fraction_digits : ∀ c ∈ fraction, isDecimal c
  zone : Zone

namespace IsoTime

def fractionText (fraction : Bytes) : Bytes := if fraction = [] then [] else 46 :: fraction

def text (t : IsoTime) : Bytes :=
  fixedDecimal 4 t.date.year.toNat ++ 45 :: (fixedDecimal 2 t.date.month ++ 45 ::
    (fixedDecimal 2 t.date.day ++ (if t.spaced then 32 else 84) ::
      (fixedDecimal 2 t.hour ++ 58 :: (fixedDecimal 2 t.minute ++ 58 ::
        (fixedDecimal 2 t.second ++ (fractionText t.fraction ++ t.zone.text))))))

/-- The whole seconds since the first of January 1970. -/
def epochSeconds (t : IsoTime) : Int :=
  t.date.number 1970 * 86400 + (t.hour.val : Int) * 3600 + (t.minute.val : Int) * 60 +
    (t.second.val : Int) - t.zone.seconds

end IsoTime

/-! ## What is read -/

variable {text : Bytes} {index offset width cursor : Nat}

theorem readAt_returns (within : index < text.length) :
    Returns (readAt text index) fun c => text.drop index = c :: text.drop (index + 1) := by
  unfold readAt
  rw [List.getElem?_eq_getElem within]
  exact .ok (List.drop_eq_getElem_cons within)

theorem parseDigits_returns (within : index + width ≤ text.length) (parsed : Nat) :
    Returns (parseDigits text index width parsed) fun result => ∀ n, result = some n →
      ∃ digits : Bytes, (∀ c ∈ digits, isDecimal c) ∧ digits.length = width ∧
        text.drop index = digits ++ text.drop (index + width) ∧
        n = digits.foldl (fun n d => 10 * n + (d.toNat - 48)) parsed := by
  induction width generalizing index parsed with
  | zero =>
      refine .ok fun n same => ⟨[], fun _ among => absurd among List.not_mem_nil, rfl, rfl, ?_⟩
      exact (Option.some.inj same).symm
  | succ width ih =>
      rw [parseDigits]
      refine (readAt_returns (by omega)).bind fun c here => ?_
      cases digit : isDecimal c with
      | false => exact .ok fun n same => by cases same
      | true =>
          refine (ih (by omega) _).mono fun result read n same => ?_
          obtain ⟨digits, all, length, behind, value⟩ := read n same
          refine ⟨c :: digits, ?_, ?_, ?_, ?_⟩
          · intro d among
            rcases List.mem_cons.mp among with rfl | later
            · exact digit
            · exact all d later
          · rw [List.length_cons, length]
          · have shift : index + (width + 1) = index + 1 + width := by omega
            rw [here, behind, shift]
            rfl
          · rw [value, List.foldl_cons, Nat.mul_comm]

theorem parseFixedDecimal_returns (text : Bytes) (offset width : Nat) :
    Returns (parseFixedDecimal text offset width) fun result => ∀ n, result = some n →
      n < 10 ^ width ∧ offset + width ≤ text.length ∧
        text.drop offset = fixedDecimal width n ++ text.drop (offset + width) := by
  unfold parseFixedDecimal
  split
  case isTrue => exact .ok fun n same => by cases same
  case isFalse within =>
    refine (parseDigits_returns (by omega) 0).mono fun result read n same => ?_
    obtain ⟨digits, all, length, behind, value⟩ := read n same
    obtain ⟨bound, back⟩ := fixedDecimal_decimalValue all
    change n = decimalValue digits at value
    rw [length, ← value] at bound back
    rw [back]
    exact ⟨bound, by omega, behind⟩

theorem parseMarked_returns {mark : UInt8} (within : offset + width < text.length) :
    Returns (parseMarked text offset width mark) fun result => ∀ n, result = some n →
      n < 10 ^ width ∧
        text.drop offset = fixedDecimal width n ++ mark :: text.drop (offset + width + 1) := by
  unfold parseMarked
  refine (parseFixedDecimal_returns text offset width).bind fun result read => ?_
  cases result with
  | none => exact .ok fun n same => by cases same
  | some value =>
      obtain ⟨bound, -, behind⟩ := read value rfl
      refine (readAt_returns within).bind fun c here => ?_
      by_cases marked : c = mark
      · subst marked
        rw [if_neg (fun other => other rfl)]
        refine .ok fun n same => ?_
        obtain rfl := Option.some.inj same
        exact ⟨bound, by rw [behind, here]⟩
      · rw [if_pos marked]
        exact .ok fun n same => by cases same

theorem skipDigits_returns (turns cursor : Nat) :
    Returns (skipDigits text turns cursor) fun behind => ∃ digits : Bytes,
      (∀ c ∈ digits, isDecimal c) ∧ behind = cursor + digits.length ∧
        text.drop cursor = digits ++ text.drop behind := by
  induction turns generalizing cursor with
  | zero => exact .ok ⟨[], fun _ among => absurd among List.not_mem_nil, rfl, rfl⟩
  | succ turns ih =>
      have stop : ∃ digits : Bytes, (∀ c ∈ digits, isDecimal c) ∧ cursor = cursor + digits.length ∧
          text.drop cursor = digits ++ text.drop cursor :=
        ⟨[], fun _ among => absurd among List.not_mem_nil, rfl, rfl⟩
      rw [skipDigits]
      split
      case isFalse => exact .ok stop
      case isTrue within =>
        refine (readAt_returns within).bind fun c here => ?_
        cases digit : isDecimal c with
        | false => exact .ok stop
        | true =>
            refine (ih (cursor + 1)).mono fun behind read => ?_
            obtain ⟨digits, all, length, rest⟩ := read
            refine ⟨c :: digits, ?_, ?_, ?_⟩
            · intro d among
              rcases List.mem_cons.mp among with rfl | later
              · exact digit
              · exact all d later
            · rw [length, List.length_cons]
              omega
            · rw [here, rest]
              rfl

theorem skipFraction_returns (text : Bytes) (cursor : Nat) :
    Returns (skipFraction text cursor) fun result => ∀ behind, result = some behind →
      ∃ fraction : Bytes, (∀ c ∈ fraction, isDecimal c) ∧
        text.drop cursor = IsoTime.fractionText fraction ++ text.drop behind := by
  have none_ : ∀ behind, some cursor = some behind → ∃ fraction : Bytes,
      (∀ c ∈ fraction, isDecimal c) ∧
        text.drop cursor = IsoTime.fractionText fraction ++ text.drop behind := by
    intro behind same
    obtain rfl := Option.some.inj same
    exact ⟨[], fun _ among => absurd among List.not_mem_nil, rfl⟩
  unfold skipFraction
  split
  case isFalse => exact .ok none_
  case isTrue within =>
    refine (readAt_returns within).bind fun c here => ?_
    split
    case isFalse => exact .ok none_
    case isTrue point =>
      refine (skipDigits_returns text.length (cursor + 1)).bind fun end_ read => ?_
      obtain ⟨digits, all, length, rest⟩ := read
      split
      case isTrue => exact .ok fun behind same => by cases same
      case isFalse some_ =>
        refine .ok fun behind same => ?_
        obtain rfl := Option.some.inj same
        have given : digits ≠ [] := by
          rintro rfl
          exact some_ length
        refine ⟨digits, all, ?_⟩
        rw [here, point, rest, IsoTime.fractionText, if_neg given]
        rfl

theorem colonAt_returns (text : Bytes) (cursor : Nat) :
    Returns (colonAt text cursor) fun colon => text.drop cursor =
      (if colon then [58] else []) ++ text.drop (if colon then cursor + 1 else cursor) := by
  unfold colonAt
  split
  case isFalse => exact .ok rfl
  case isTrue within =>
    obtain ⟨c, read, here⟩ := readAt_returns within
    refine ⟨decide (c = 58), by rw [read]; rfl, ?_⟩
    by_cases colon : c = 58
    · simpa [colon] using here
    · simp [colon]

theorem parseOffset_returns (text : Bytes) (cursor : Nat) (ahead : Bool) :
    Returns (parseOffset text cursor (if ahead then 1 else -1)) fun result =>
      ∀ behind seconds, result = some (behind, seconds) →
        ∃ colon hour minute, seconds = (Zone.shifted ahead colon hour minute).seconds ∧
          (if ahead then 43 else 45) :: text.drop cursor =
            (Zone.shifted ahead colon hour minute).text ++ text.drop behind := by
  unfold parseOffset
  refine (parseFixedDecimal_returns text cursor 2).bind fun result read => ?_
  cases result with
  | none => exact .ok fun behind seconds same => by cases same
  | some hour =>
      obtain ⟨-, -, behindHour⟩ := read hour rfl
      dsimp only
      refine (colonAt_returns text (cursor + 2)).bind fun colon behindColon => ?_
      refine (parseFixedDecimal_returns text _ 2).bind fun result read => ?_
      cases result with
      | none => exact .ok fun behind seconds same => by cases same
      | some minute =>
          obtain ⟨-, -, behindMinute⟩ := read minute rfl
          refine .ok fun behind seconds same => ?_
          split at same
          case isTrue => cases same
          case isFalse small =>
            obtain ⟨rfl, rfl⟩ := Prod.mk.inj (Option.some.inj same)
            refine ⟨colon, ⟨hour, by omega⟩, ⟨minute, by omega⟩, rfl, ?_⟩
            rw [behindHour, behindColon, behindMinute, Zone.text]
            simp only [List.cons_append, List.append_assoc]

theorem parseTimezone_returns (text : Bytes) (cursor : Nat) :
    Returns (parseTimezone text cursor) fun result =>
      ∀ behind seconds, result = some (behind, seconds) →
        ∃ zone : Zone, seconds = zone.seconds ∧
          text.drop cursor = zone.text ++ text.drop behind := by
  have unmarked : ∀ behind seconds, some (cursor, (0 : Int)) = some (behind, seconds) →
      ∃ zone : Zone, seconds = zone.seconds ∧
        text.drop cursor = zone.text ++ text.drop behind := by
    intro behind seconds same
    obtain ⟨rfl, rfl⟩ := Prod.mk.inj (Option.some.inj same)
    exact ⟨.unmarked, rfl, rfl⟩
  unfold parseTimezone
  split
  case isFalse => exact .ok unmarked
  case isTrue within =>
    refine (readAt_returns within).bind fun c here => ?_
    split
    case isTrue mark =>
      refine .ok fun behind seconds same => ?_
      obtain ⟨rfl, rfl⟩ := Prod.mk.inj (Option.some.inj same)
      refine ⟨.utc (decide (c = 122)), rfl, ?_⟩
      rw [here, Zone.text]
      rcases mark with rfl | rfl <;> rfl
    case isFalse =>
      split
      case isFalse => exact .ok unmarked
      case isTrue sign =>
        have ahead : (if c = 43 then 1 else -1 : Int) = if decide (c = 43) then 1 else -1 := by
          simp
        have signed : c = if decide (c = 43) then 43 else 45 := by
          rcases sign with rfl | rfl <;> rfl
        rw [ahead]
        refine (parseOffset_returns text (cursor + 1) (decide (c = 43))).mono ?_
        intro result read behind seconds same
        obtain ⟨colon, hour, minute, value, rest⟩ := read behind seconds same
        refine ⟨_, value, ?_⟩
        rw [here, ← rest, ← signed]

/-- A text that is accepted is a time of the calendar, and the number is that of its seconds. No
    index lies behind the text. -/
theorem parseIso8601EpochSeconds_returns (rawText : Bytes) :
    Returns (parseIso8601EpochSeconds rawText) fun result => ∀ seconds, result = some seconds →
      ∃ t : IsoTime, trimCopy rawText = t.text ∧ seconds = t.epochSeconds := by
  have refused : Returns (.ok none : Cpp (Option Int)) fun result =>
      ∀ seconds, result = some seconds →
        ∃ t : IsoTime, trimCopy rawText = t.text ∧ seconds = t.epochSeconds :=
    .ok fun seconds same => by cases same
  unfold parseIso8601EpochSeconds
  generalize trimCopy rawText = text at refused ⊢
  dsimp only
  split
  case isTrue => exact refused
  case isFalse long =>
  refine (readAt_returns (by omega)).bind fun separator atSeparator => ?_
  split
  case isTrue => exact refused
  case isFalse separated =>
  refine (parseMarked_returns (by omega)).bind fun year readYear => ?_
  cases year with
  | none => exact refused
  | some year =>
  refine (parseMarked_returns (by omega)).bind fun month readMonth => ?_
  cases month with
  | none => exact refused
  | some month =>
  refine (parseFixedDecimal_returns text 8 2).bind fun day readDay => ?_
  cases day with
  | none => exact refused
  | some day =>
  refine (parseMarked_returns (by omega)).bind fun hour readHour => ?_
  cases hour with
  | none => exact refused
  | some hour =>
  refine (parseMarked_returns (by omega)).bind fun minute readMinute => ?_
  cases minute with
  | none => exact refused
  | some minute =>
  refine (parseFixedDecimal_returns text 17 2).bind fun second readSecond => ?_
  cases second with
  | none => exact refused
  | some second =>
  dsimp only
  split
  case isTrue => exact refused
  case isFalse inRange =>
  refine (skipFraction_returns text 19).bind fun cursor readFraction => ?_
  cases cursor with
  | none => exact refused
  | some cursor =>
  refine (parseTimezone_returns text cursor).bind fun zone readZone => ?_
  cases zone with
  | none => exact refused
  | some zone =>
  obtain ⟨behind, timezoneOffsetS⟩ := zone
  dsimp only
  split
  case isTrue => exact refused
  case isFalse atEnd =>
  refine .ok fun seconds same => ?_
  have yearLt := (readYear year rfl).1
  have yearText : text = fixedDecimal 4 year ++ 45 :: text.drop 5 := (readYear year rfl).2
  have monthText : text.drop 5 = fixedDecimal 2 month ++ 45 :: text.drop 8 := (readMonth month rfl).2
  have dayText : text.drop 8 = fixedDecimal 2 day ++ text.drop 10 := (readDay day rfl).2.2
  have hourText : text.drop 11 = fixedDecimal 2 hour ++ 58 :: text.drop 14 := (readHour hour rfl).2
  have minuteText : text.drop 14 = fixedDecimal 2 minute ++ 58 :: text.drop 17 :=
    (readMinute minute rfl).2
  have secondText : text.drop 17 = fixedDecimal 2 second ++ text.drop 19 :=
    (readSecond second rfl).2.2
  obtain ⟨fraction, digits, fractionText⟩ := readFraction cursor rfl
  obtain ⟨zone, zoneSeconds, zoneText⟩ := readZone behind timezoneOffsetS rfl
  have valid : ValidDay year month day := validDay_of_daysInMonth (by omega) (by omega)
  have rest : text.drop behind = [] := List.drop_eq_nil_of_le (by omega)
  refine ⟨{ date := ⟨year, month, day, valid⟩, year_nonneg := by simp, year_lt := by simp; omega
            spaced := decide (separator = 32), hour := ⟨hour, by omega⟩
            minute := ⟨minute, by omega⟩, second := ⟨second, by omega⟩, fraction
            fraction_digits := digits, zone }, ?_, ?_⟩
  · have mark : separator = if decide (separator = 32) then 32 else 84 := by
      by_cases spaced : separator = 32
      · simp [spaced]
      · rw [if_neg (by simpa using spaced)]
        exact not_ne_iff.mp fun other => separated ⟨other, spaced⟩
    have number : ((year : Int)).toNat = year := Int.toNat_natCast year
    rw [rest, List.append_nil] at zoneText
    rw [zoneText] at fractionText
    rw [fractionText] at secondText
    rw [secondText] at minuteText
    rw [minuteText] at hourText
    rw [atSeparator, hourText, mark] at dayText
    rw [dayText] at monthText
    rw [monthText] at yearText
    rw [IsoTime.text, number]
    exact yearText
  · rw [← Option.some.inj same, IsoTime.epochSeconds, ← civilDays_eq, zoneSeconds]
    rfl

/-- Accepted texts are times of the calendar and give their seconds, and no index lies behind any
    text. The days are counted one by one from the first of January 1970. -/
theorem parseIso8601EpochSeconds_calendar :
    (∀ rawText, ∃ result, parseIso8601EpochSeconds rawText = .ok result ∧
      ∀ seconds, result = some seconds →
        ∃ t : IsoTime, trimCopy rawText = t.text ∧ seconds = t.epochSeconds) ∧
    daysFromCivil 1970 1 1 = 0 ∧ ∀ d : Date, daysFromCivil d.next.year d.next.month d.next.day =
      daysFromCivil d.year d.month d.day + 1 := by
  refine ⟨parseIso8601EpochSeconds_returns, ?_, fun d => ?_⟩
  · change civilDays (Date.newYear 1970) = 0
    rw [civilDays_eq, Date.number_newYear]
  · change civilDays d.next = civilDays d + 1
    rw [civilDays_eq, civilDays_eq, Date.number_next]

example : parseIso8601EpochSeconds (octets " 2024-02-29T23:59:60.25+01:30 ") =
    .ok (some 1709245800) := by
  decide +kernel

end FleetRMW.Rmw
