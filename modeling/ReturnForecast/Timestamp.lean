import ReturnForecast.Power
import ReturnForecast.Text.Digit

/-!
# Timestamps

Points in time with a resolution of one nanosecond, counted from the start of 1970 in universal
time, and the three forms in which a text may give one to the second:

* `2026-01-31T23:59:59Z`
* `2026-01-31`
* `2026-01-31 23:59:59`

The texts of a column share one form, which the first of them sets. Main statement: a date is read
only if it is one of the calendar.
-/

namespace ReturnForecast

/-- A point in time, in nanoseconds from the start of 1970. -/
structure Timestamp where
  nanos : Int
deriving DecidableEq, Repr

namespace Timestamp

/-- A point in time in milliseconds, without a fraction. -/
def millis (t : Timestamp) : Int := t.nanos.fdiv 1000000

/-! ## Calendar -/

/-- Has the year a leap day? -/
def isLeapYear (year : Nat) : Bool := year % 4 = 0 && (year % 100 ≠ 0 || year % 400 = 0)

/-- The days of the twelve months. -/
def monthLengths (year : Nat) : List Nat :=
  [31, if isLeapYear year then 29 else 28, 31, 30, 31, 30, 31, 31, 30, 31, 30, 31]

/-- The number of days of a month, counted from one; zero for a month that does not exist. -/
def monthLength (year month : Nat) : Nat :=
  match month with
  | 0 => 0
  | m + 1 => (monthLengths year)[m]?.getD 0

/-- The number of leap days in the years before a year, from the year one on. -/
def leapDaysBefore (year : Nat) : Nat := (year - 1) / 4 - (year - 1) / 100 + (year - 1) / 400

/-- The number of days before a year, from the year one on. -/
def daysBeforeYear (year : Nat) : Nat := 365 * (year - 1) + leapDaysBefore year

/-- The number of days before a month in its year. -/
def daysBeforeMonth (year month : Nat) : Nat :=
  ((monthLengths year).take (month - 1)).foldl (· + ·) 0

/-- Is there such a day? -/
def isDate (year month day : Nat) : Bool := 1 ≤ year && 1 ≤ day && day ≤ monthLength year month

/-- The number of days from the start of 1970 to a date. -/
def daysOfDate (year month day : Nat) : Int :=
  (daysBeforeYear year + daysBeforeMonth year month + (day - 1) : Nat) - (daysBeforeYear 1970 : Nat)

/-- The largest distance from the start of 1970, a signed 64-bit number. -/
def largestNanos : Nat := twoTo 63 - 1

/-- The point in time of a date and a time of day, if both exist and it is not too far away. -/
def ofParts? (year month day hour minute second : Nat) : Option Timestamp :=
  if isDate year month day && hour < 24 && minute < 60 && second < 60 then
    let inDay := 3600 * hour + 60 * minute + second
    let nanos : Int := 1000000000 * (86400 * daysOfDate year month day + inDay)
    if nanos.natAbs ≤ largestNanos then some ⟨nanos⟩ else none
  else none

/-- The parts of a point in time that is read are a date of the calendar. -/
theorem isDate_of_ofParts? {year month day hour minute second : Nat} {t : Timestamp}
    (h : ofParts? year month day hour minute second = some t) : isDate year month day = true := by
  unfold ofParts? at h
  split at h
  · simp_all
  · simp at h

/-! ## Forms -/

/-- The forms of a timestamp. -/
inductive Form where
  | universal
  | date
  | dateTime
deriving DecidableEq, Repr

namespace Form

/-- All forms. -/
def all : List Form := [universal, date, dateTime]

/-- The pattern of a form: a digit for each `#`, other characters as they are. -/
def pattern : Form → String
  | universal => "####-##-##T##:##:##Z"
  | date => "####-##-##"
  | dateTime => "####-##-## ##:##:##"

/-- The digits of a text that follows a pattern. -/
def digitsOf? : (pattern cs : List Char) → Option (List Nat)
  | [], [] => some []
  | '#' :: pattern, c :: cs =>
    match Text.asciiDigitValue? c with
    | some d => (digitsOf? pattern cs).map (d :: ·)
    | none => none
  | p :: pattern, c :: cs => if p = c then digitsOf? pattern cs else none
  | _, _ => none

/-- Two of the digits as a number, from a position on. -/
def pairAt (digits : List Nat) (position : Nat) : Nat :=
  Text.ofDigits ((digits.drop position).take 2)

/-- A text read in a form. Missing times of day are midnight. -/
def read? (form : Form) (s : String) : Option Timestamp :=
  match digitsOf? form.pattern.toList s.toList with
  | some digits =>
    ofParts? (Text.ofDigits (digits.take 4)) (pairAt digits 4) (pairAt digits 6) (pairAt digits 8)
      (pairAt digits 10) (pairAt digits 12)
  | none => none

/-- The form that a text follows. -/
def ofText? (s : String) : Option Form := all.find? fun form => (form.read? s).isSome

end Form

/-- A text read in the form that it follows. -/
def ofText? (s : String) : Option Timestamp :=
  match Form.ofText? s with
  | some form => form.read? s
  | none => none

/--
How the texts of a column are read: in the form of the first one, each in its own if that has none.
-/
def columnReader (texts : List (Option String)) : String → Option Timestamp :=
  match (texts.filterMap id).head?.bind Form.ofText? with
  | some form => form.read?
  | none => ofText?

/-- The points in time of a column of texts, some of them missing. -/
def ofColumn (texts : List (Option String)) : List (Option Timestamp) :=
  texts.map fun cell => cell.bind (columnReader texts)

theorem length_ofColumn (texts : List (Option String)) :
    (ofColumn texts).length = texts.length := by simp [ofColumn]

end Timestamp

end ReturnForecast
