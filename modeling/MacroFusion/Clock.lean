/-!
# Times in log lines

A number of seconds since the beginning of 1970, as a date and a time of day.  Years are counted from
March on, so that a leap day is the last day of its year; 400 such years always have 146097 days.
-/

namespace MacroFusion.Clock

structure Date where
  year : Nat
  month : Nat
  day : Nat
  deriving DecidableEq, Repr

/-- the date of a number of days since the beginning of 1970 -/
def dateOf (days : Nat) : Date :=
  -- days since 1 March of the year 0
  let n := days + 719468
  let era := n / 146097
  let dayOfEra := n % 146097
  let yearOfEra := (dayOfEra - dayOfEra / 1460 + dayOfEra / 36524 - dayOfEra / 146096) / 365
  let dayOfYear := dayOfEra - (365 * yearOfEra + yearOfEra / 4 - yearOfEra / 100)
  let fromMarch := (5 * dayOfYear + 2) / 153
  let month := if fromMarch < 10 then fromMarch + 3 else fromMarch - 9
  { year := yearOfEra + era * 400 + (if month ≤ 2 then 1 else 0)
    month
    day := dayOfYear - (153 * fromMarch + 2) / 5 + 1 }

def twoDigits (n : Nat) : String := (if n < 10 then "0" else "") ++ toString n

/-- date and time of day -/
def stamp (seconds : Nat) : String :=
  let date := dateOf (seconds / 86400)
  let time := seconds % 86400
  toString date.year ++ "-" ++ twoDigits date.month ++ "-" ++ twoDigits date.day ++ " "
    ++ twoDigits (time / 3600) ++ ":" ++ twoDigits (time / 60 % 60) ++ ":" ++ twoDigits (time % 60)

example : stamp 951782399 = "2000-02-28 23:59:59" := by decide +kernel

example : stamp 951782400 = "2000-02-29 00:00:00" := by decide +kernel

end MacroFusion.Clock
