/-!
# Calendar

A point in time is a number of seconds since the beginning of the year 1970, and has a date in the
Gregorian calendar. Years are counted in spans of four hundred, which all have the same number of
days.
-/

namespace ColdBuild

structure CalendarTime where
  year : Nat
  month : Nat
  day : Nat
  hour : Nat := 0
  minute : Nat := 0
  second : Nat := 0
  deriving DecidableEq, Repr

namespace CalendarTime

/-- Days from the first of March of the year zero to the beginning of 1970. -/
def daysBefore1970 : Nat := 719468

/-- The date of a day, counted from the beginning of 1970. -/
def ofDay (days : Nat) : CalendarTime :=
  let z := days + daysBefore1970
  let era := z / 146097
  let dayOfEra := z % 146097
  let yearOfEra := (dayOfEra - dayOfEra / 1460 + dayOfEra / 36524 - dayOfEra / 146096) / 365
  let dayOfYear := dayOfEra - (365 * yearOfEra + yearOfEra / 4 - yearOfEra / 100)
  let shifted := (5 * dayOfYear + 2) / 153
  let month := if shifted < 10 then shifted + 3 else shifted - 9
  { year := yearOfEra + era * 400 + (if month ≤ 2 then 1 else 0)
    month, day := dayOfYear - (153 * shifted + 2) / 5 + 1 }

def ofSeconds (seconds : Nat) : CalendarTime :=
  let rest := seconds % 86400
  { ofDay (seconds / 86400) with hour := rest / 3600, minute := rest / 60 % 60, second := rest % 60 }

/-- The day that a date is, counted from the beginning of 1970. -/
def dayNumber (time : CalendarTime) : Nat :=
  let year := if time.month ≤ 2 then time.year - 1 else time.year
  let era := year / 400
  let yearOfEra := year % 400
  let shifted := if time.month ≤ 2 then time.month + 9 else time.month - 3
  let dayOfYear := (153 * shifted + 2) / 5 + time.day - 1
  era * 146097 + yearOfEra * 365 + yearOfEra / 4 - yearOfEra / 100 + dayOfYear - daysBefore1970

def toSeconds (time : CalendarTime) : Nat :=
  time.dayNumber * 86400 + time.hour * 3600 + time.minute * 60 + time.second

/-- The day of the week; Sunday is zero. -/
def weekday (time : CalendarTime) : Nat := (time.dayNumber + 4) % 7

/-- The day of the year, from one on. -/
def dayOfYear (time : CalendarTime) : Nat :=
  time.dayNumber - ({ time with month := 1, day := 1 } : CalendarTime).dayNumber + 1

def weekdayNames : List String :=
  ["Sunday", "Monday", "Tuesday", "Wednesday", "Thursday", "Friday", "Saturday"]

def monthNames : List String :=
  ["January", "February", "March", "April", "May", "June", "July", "August", "September",
    "October", "November", "December"]

def field (fill : Char) (width n : Nat) : String :=
  let digits := Nat.toDigits 10 n
  String.ofList (List.replicate (width - digits.length) fill ++ digits)

/-- What a letter of a format stands for. -/
def part (time : CalendarTime) (nanoseconds : Nat) (letter : Char) : Option String :=
  let two := field '0' 2
  let weekdayName := weekdayNames.getD time.weekday ""
  let monthName := monthNames.getD (time.month - 1) ""
  let short (name : String) : String := (name.take 3).toString
  let hour := if time.hour % 12 = 0 then 12 else time.hour % 12
  let clock := s!"{two time.hour}:{two time.minute}:{two time.second}"
  match letter with
  | '%' => some "%"
  | 'n' => some "\n"
  | 't' => some "\t"
  | 'Y' | 'G' => some (toString time.year)
  | 'y' => some (two (time.year % 100))
  | 'C' => some (two (time.year / 100))
  | 'm' => some (two time.month)
  | 'd' => some (two time.day)
  | 'e' => some (field ' ' 2 time.day)
  | 'H' => some (two time.hour)
  | 'k' => some (field ' ' 2 time.hour)
  | 'I' => some (two hour)
  | 'l' => some (field ' ' 2 hour)
  | 'M' => some (two time.minute)
  | 'S' => some (two time.second)
  | 'N' => some (field '0' 9 nanoseconds)
  | 's' => some (toString time.toSeconds)
  | 'j' => some (field '0' 3 time.dayOfYear)
  | 'a' => some (short weekdayName)
  | 'A' => some weekdayName
  | 'b' | 'h' => some (short monthName)
  | 'B' => some monthName
  | 'u' => some (toString (if time.weekday = 0 then 7 else time.weekday))
  | 'w' => some (toString time.weekday)
  | 'p' => some (if time.hour < 12 then "AM" else "PM")
  | 'Z' => some "UTC"
  | 'z' => some "+0000"
  | 'F' => some s!"{time.year}-{two time.month}-{two time.day}"
  | 'D' => some s!"{two time.month}/{two time.day}/{two (time.year % 100)}"
  | 'T' => some clock
  | 'R' => some s!"{two time.hour}:{two time.minute}"
  | 'c' =>
    let day := field ' ' 2 time.day
    some s!"{short weekdayName} {short monthName} {day} {clock} {time.year}"
  | _ => none

/-- The time as a format says, with a percent sign before each letter. -/
def format (time : CalendarTime) (nanoseconds : Nat) : List Char → String
  | [] => ""
  | '%' :: letter :: rest =>
    (time.part nanoseconds letter).getD (String.ofList ['%', letter]) ++ time.format nanoseconds rest
  | c :: rest => String.ofList [c] ++ time.format nanoseconds rest

/-- Reads a date, and a time of day behind it if there is one. -/
def ofText? (text : String) : Option CalendarTime :=
  let numbers (mark : Char) (text : List Char) : Option (List Nat) :=
    (text.splitOn mark).mapM fun digits =>
      if digits.isEmpty || !digits.all Char.isDigit then none
      else some (Nat.ofDigitChars 10 digits 0)
  let chars := text.toList
  let date := chars.takeWhile fun c => c ≠ ' ' && c ≠ 'T'
  let clock := chars.drop (date.length + 1)
  match numbers '-' date, (if clock.isEmpty then some [] else numbers ':' clock) with
  | some [year, month, day], some clock =>
    if month = 0 || 12 < month || day = 0 || 31 < day || year < 1970 then none
    else some {
      year, month, day
      hour := clock.getD 0 0, minute := clock.getD 1 0, second := clock.getD 2 0 }
  | _, _ => none

end CalendarTime

end ColdBuild
