/-!
# Clock times

A time of the local clock and its text, such as `Sat Jan  1 00:00:00 2000`.
-/

namespace Firewall

/-- A time of the local clock; months and days count from one. -/
structure ClockTime where
  year : Nat
  month : Nat
  day : Nat
  hour : Nat
  minute : Nat
  second : Nat
  deriving DecidableEq, Repr

namespace ClockTime

/-- The days of a year before one of its months. -/
def daysBefore (year month : Nat) : Nat :=
  let leap := year % 4 = 0 ∧ (year % 100 ≠ 0 ∨ year % 400 = 0)
  let days := ([31, 28, 31, 30, 31, 30, 31, 31, 30, 31, 30, 31].take (month - 1)).foldl (· + ·) 0
  if leap ∧ 2 < month then days + 1 else days

/-- The number of a day since the first of January of the year one, which is day one. -/
def dayNumber (time : ClockTime) : Nat :=
  let years := time.year - 1
  365 * years + years / 4 - years / 100 + years / 400 + daysBefore time.year time.month + time.day

/-- The names of the days of the week.  Day one was a Monday. -/
def weekdays : List String := ["Sun", "Mon", "Tue", "Wed", "Thu", "Fri", "Sat"]

def months : List String :=
  ["Jan", "Feb", "Mar", "Apr", "May", "Jun", "Jul", "Aug", "Sep", "Oct", "Nov", "Dec"]

/-- A number filled up to a width. -/
def padded (fill : Char) (width number : Nat) : String :=
  let digits := Nat.toDigits 10 number
  String.ofList (List.replicate (width - digits.length) fill ++ digits)

def text (time : ClockTime) : String :=
  weekdays.getD (time.dayNumber % 7) "" ++ " " ++ months.getD (time.month - 1) "" ++ " "
    ++ padded ' ' 2 time.day ++ " " ++ padded '0' 2 time.hour ++ ":" ++ padded '0' 2 time.minute
    ++ ":" ++ padded '0' 2 time.second ++ " " ++ padded '0' 4 time.year

/-- A time with its parts in falling size, as lines of the log have it. -/
def stamp (time : ClockTime) : String :=
  padded '0' 4 time.year ++ "-" ++ padded '0' 2 time.month ++ "-" ++ padded '0' 2 time.day ++ " "
    ++ padded '0' 2 time.hour ++ ":" ++ padded '0' 2 time.minute ++ ":" ++ padded '0' 2 time.second

example : text ⟨2000, 1, 1, 0, 0, 0⟩ = "Sat Jan  1 00:00:00 2000" := by decide +kernel

example : stamp ⟨2000, 1, 1, 0, 0, 0⟩ = "2000-01-01 00:00:00" := by decide +kernel

end ClockTime

end Firewall
