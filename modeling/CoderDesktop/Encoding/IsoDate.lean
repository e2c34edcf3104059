import CoderDesktop.Encoding.Reader

/-!
# ISO 8601 times

Seconds since the epoch as a UTC date and time, for the years 1970 to 9999, and its text
`yyyy-MM-ddTHH:mm:ssZ`. `seconds_read_write` is the round trip through both.
-/

namespace CoderDesktop.Encoding.IsoDate

/-! ## The calendar -/

/-- The Gregorian rule. -/
def isLeap (year : Nat) : Bool := year % 4 = 0 ∧ (year % 100 ≠ 0 ∨ year % 400 = 0)

/-- The days of the years from 1970 on, before a further one. -/
def daysBeforeYear (years : Nat) : Nat :=
  365 * years + (years + 1) / 4 + (years + 369) / 400 - (years + 69) / 100

/-- The days of a year before a month; the months are numbered from 0. -/
def daysBeforeMonth (leap : Bool) (month : Nat) : Nat :=
  [0, 31, 59, 90, 120, 151, 181, 212, 243, 273, 304, 334, 365].getD month 0 +
    if leap ∧ 2 ≤ month then 1 else 0

/-- The interval a number falls into, of those from `index` on. -/
def interval (start : Nat → Nat) (number : Nat) : Nat → Nat → Nat
  | 0, index => index
  | fuel + 1, index =>
      if number < start (index + 1) then index else interval start number fuel (index + 1)

/-- A date and time in UTC. -/
structure Moment where
  year : Nat
  month : Nat
  day : Nat
  hour : Nat
  minute : Nat
  second : Nat
deriving DecidableEq, Repr

/-- The first second of the year 10000. -/
def endOfTime : Nat := 253402300800

/-- The moment so many seconds after the start of 1970. -/
def Moment.ofSeconds (seconds : Nat) : Moment :=
  let days := seconds / 86400
  let time := seconds % 86400
  let years := interval daysBeforeYear days 8030 0
  let leap := isLeap (1970 + years)
  let dayOfYear := days - daysBeforeYear years
  let month := interval (daysBeforeMonth leap) dayOfYear 12 0
  { year := 1970 + years
    month := month + 1
    day := dayOfYear - daysBeforeMonth leap month + 1
    hour := time / 3600
    minute := time / 60 % 60
    second := time % 60 }

/-- The seconds between the start of 1970 and the moment. -/
def Moment.seconds (moment : Moment) : Nat :=
  (daysBeforeYear (moment.year - 1970) + daysBeforeMonth (isLeap moment.year) (moment.month - 1) +
    (moment.day - 1)) * 86400 + (moment.hour * 3600 + moment.minute * 60 + moment.second)

/-- The search finds the interval of the number, by induction on the fuel. -/
theorem interval_spec {start : Nat → Nat} {number : Nat} :
    ∀ {fuel index : Nat}, start index ≤ number → number < start (index + fuel) →
      start (interval start number fuel index) ≤ number ∧
        number < start (interval start number fuel index + 1) ∧
          interval start number fuel index < index + fuel := by
  intro fuel
  induction fuel with
  | zero =>
      intro index low high
      rw [Nat.add_zero] at high
      omega
  | succ fuel inductionHypothesis =>
      intro index low high
      rw [interval]
      split
      · rename_i within
        exact ⟨low, within, by omega⟩
      · rename_i beyond
        have shifted : index + 1 + fuel = index + (fuel + 1) := by omega
        rw [← shifted] at high ⊢
        exact inductionHypothesis (Nat.not_lt.mp beyond) high

/-- A quotient of `daysBeforeYear` grows in the years it counts. -/
theorem quotient_succ {years shift divisor : Nat}
    (counted : (years + 1 + shift) % divisor = (1970 + years) % divisor) :
    (years + 1 + shift) / divisor =
      (years + shift) / divisor + if (1970 + years) % divisor = 0 then 1 else 0 := by
  have next : years + 1 + shift = years + shift + 1 := by omega
  rw [← counted, next, Nat.succ_div]
  simp only [Nat.dvd_iff_mod_eq_zero]

/-- A year has the days of its twelve months. -/
theorem daysBeforeYear_succ (years : Nat) :
    daysBeforeYear (years + 1) =
      daysBeforeYear years + daysBeforeMonth (isLeap (1970 + years)) 12 := by
  have fours := @quotient_succ years 1 4 (by omega)
  have hundreds := @quotient_succ years 69 100 (by omega)
  have fourHundreds := @quotient_succ years 369 400 (by omega)
  have enough : (years + 69) / 100 ≤ 365 * years := by omega
  have leap : daysBeforeMonth (isLeap (1970 + years)) 12 = 365 +
      if (1970 + years) % 4 = 0 ∧ ((1970 + years) % 100 ≠ 0 ∨ (1970 + years) % 400 = 0) then 1
      else 0 := by
    unfold isLeap daysBeforeMonth
    by_cases divides : (1970 + years) % 4 = 0 ∧
      ((1970 + years) % 100 ≠ 0 ∨ (1970 + years) % 400 = 0) <;> simp [divides]
  have nested : ((1970 + years) % 400 = 0 → (1970 + years) % 100 = 0) ∧
      ((1970 + years) % 100 = 0 → (1970 + years) % 4 = 0) := by omega
  rw [daysBeforeYear, daysBeforeYear, fours, hundreds, fourHundreds, leap]
  generalize (years + 1) / 4 = quarters, (years + 69) / 100 = centuries,
    (years + 369) / 400 = cycles at enough ⊢
  -- Four hundred divides the year, or only a hundred, or only four, or neither.
  by_cases byFourHundred : (1970 + years) % 400 = 0
  · simp only [byFourHundred, nested.1 byFourHundred, nested.2 (nested.1 byFourHundred)]
    simp only [ne_eq, not_true_eq_false, or_true, and_true, if_true]
    omega
  · by_cases byHundred : (1970 + years) % 100 = 0
    · simp only [byFourHundred, byHundred, nested.2 byHundred]
      simp only [ne_eq, not_true_eq_false, or_false, and_false, if_true, if_false]
      omega
    · by_cases byFour : (1970 + years) % 4 = 0
      · simp only [ne_eq, byFourHundred, byHundred, byFour]
        simp only [not_false_eq_true, or_false, and_true, if_true, if_false]
        omega
      · simp only [byFourHundred, byHundred, byFour, false_and, if_false]
        omega

@[simp] theorem daysBeforeMonth_zero (leap : Bool) : daysBeforeMonth leap 0 = 0 := by
  cases leap <;> rfl

/-- A month has 31 days at most. -/
theorem daysBeforeMonth_succ : ∀ leap, ∀ month < 12,
    daysBeforeMonth leap (month + 1) ≤ daysBeforeMonth leap month + 31 := by
  decide

/-- What an ISO text holds of a moment. -/
structure Moment.Fits (moment : Moment) : Prop where
  year : moment.year < 10000
  month : moment.month < 100
  day : moment.day < 100
  hour : moment.hour < 100
  minute : moment.minute < 100
  second : moment.second < 100

/-- The moment of so many seconds is a date and has as many seconds. -/
theorem ofSeconds_spec {seconds : Nat} (early : seconds < endOfTime) :
    (Moment.ofSeconds seconds).Fits ∧ (Moment.ofSeconds seconds).seconds = seconds := by
  unfold endOfTime at early
  have inYears : seconds / 86400 < daysBeforeYear (0 + 8030) := by
    have last : daysBeforeYear (0 + 8030) = 2932897 := rfl
    omega
  obtain ⟨yearLow, yearHigh, yearBound⟩ := interval_spec (Nat.zero_le _) inYears
  rw [daysBeforeYear_succ] at yearHigh
  simp only [Moment.ofSeconds, Moment.seconds]
  generalize interval daysBeforeYear (seconds / 86400) 8030 0 = years at *
  generalize isLeap (1970 + years) = leap at *
  have inMonths : seconds / 86400 - daysBeforeYear years < daysBeforeMonth leap (0 + 12) := by
    rw [Nat.zero_add]
    omega
  have fromStart : daysBeforeMonth leap 0 ≤ seconds / 86400 - daysBeforeYear years := by
    rw [daysBeforeMonth_zero]
    exact Nat.zero_le _
  obtain ⟨monthLow, monthHigh, monthBound⟩ := interval_spec fromStart inMonths
  generalize interval (daysBeforeMonth leap) (seconds / 86400 - daysBeforeYear years) 12 0 =
    month at *
  have length := daysBeforeMonth_succ leap month (by omega)
  constructor
  · constructor <;> simp only <;> omega
  · simp only [Nat.add_sub_cancel_left, Nat.add_sub_cancel, *]
    omega

/-! ## The text -/

open Reader

/-- The moment as `yyyy-MM-ddTHH:mm:ssZ`. -/
def write (moment : Moment) : List Char :=
  (writeNumber 10 4 moment.year ++ ['-']) ++ ((writeNumber 10 2 moment.month ++ ['-']) ++
    ((writeNumber 10 2 moment.day ++ ['T']) ++ ((writeNumber 10 2 moment.hour ++ [':']) ++
      ((writeNumber 10 2 moment.minute ++ [':']) ++ (writeNumber 10 2 moment.second ++ ['Z'])))))

/-- The reader of what `write` writes. -/
def readMoment : Reader Moment :=
  (before ['-'] (number 10 4)).bind fun year => (before ['-'] (number 10 2)).bind fun month =>
    (before ['T'] (number 10 2)).bind fun day => (before [':'] (number 10 2)).bind fun hour =>
      (before [':'] (number 10 2)).bind fun minute =>
        (before ['Z'] (number 10 2)).map fun second => ⟨year, month, day, hour, minute, second⟩

/-- Nothing may follow the time. -/
def read (text : List Char) : Option Moment :=
  match readMoment text with
  | some (moment, []) => some moment
  | _ => none

/-- A field is read back. -/
theorem reads_field {width value : Nat} (separator : List Char) (fits : value < 10 ^ width) :
    Reads (before separator (number 10 width)) (writeNumber 10 width value ++ separator) value :=
  (Reads.number (by decide) (by decide) fits).before

/-- A date is read back. -/
theorem read_write {moment : Moment} (fits : moment.Fits) :
    read (write moment) = some moment := by
  have reads : Reads readMoment (write moment) moment :=
    (reads_field ['-'] fits.year).bind <| (reads_field ['-'] fits.month).bind <|
      (reads_field ['T'] fits.day).bind <| (reads_field [':'] fits.hour).bind <|
        (reads_field [':'] fits.minute).bind <|
          (reads_field ['Z'] fits.second).map (Moment.mk _ _ _ _ _)
  have whole := reads []
  rw [List.append_nil] at whole
  rw [read, whole]

/-- Seconds since the epoch survive the calendar and the text. -/
theorem seconds_read_write {seconds : Nat} (early : seconds < endOfTime) :
    (read (write (Moment.ofSeconds seconds))).map Moment.seconds = some seconds := by
  obtain ⟨fits, same⟩ := ofSeconds_spec early
  rw [read_write fits, Option.map_some, same]

example : write (Moment.ofSeconds 1709210096) = "2024-02-29T12:34:56Z".toList := by decide

end CoderDesktop.Encoding.IsoDate
