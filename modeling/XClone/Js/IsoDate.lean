import XClone.Js.Number
import XClone.Js.Text

/-!
# XClone.Js.IsoDate — dates as text

`Date.prototype.toISOString`: the Gregorian calendar in UTC, to the millisecond, for every
time value a `Date` can hold.
-/

namespace XClone.Js

/-- A day of the calendar. -/
structure CivilDate where
  year : ℤ
  month : ℤ
  day : ℤ
deriving DecidableEq

/-- The day that is `days` days after 1 January 1970. Years are counted from March here,
so that a leap day is the last of its year. -/
def civilDate (days : ℤ) : CivilDate :=
  let shifted := days + 719468
  let era := shifted / 146097
  let dayOfEra := shifted % 146097
  let yearOfEra := (dayOfEra - dayOfEra / 1460 + dayOfEra / 36524 - dayOfEra / 146096) / 365
  let dayOfYear := dayOfEra - (365 * yearOfEra + yearOfEra / 4 - yearOfEra / 100)
  let month := (5 * dayOfYear + 2) / 153
  { year := yearOfEra + era * 400 + if month < 10 then 0 else 1
    month := if month < 10 then month + 3 else month - 9
    day := dayOfYear - (153 * month + 2) / 5 + 1 }

/-- A number as `width` decimal digits. -/
def paddedDigits : ℕ → ℕ → JsString
  | 0, _ => []
  | width + 1, n => paddedDigits width (n / 10) ++ [48 + (n % 10).toUInt16]

/-- Years of four digits, and outside of these six with a sign. -/
def isoYear (year : ℤ) : JsString :=
  if 0 ≤ year ∧ year ≤ 9999 then paddedDigits 4 year.toNat
  else if 0 ≤ year then js "+" ++ paddedDigits 6 year.toNat
  else js "-" ++ paddedDigits 6 (-year).toNat

/-- `date.toISOString()`; `none` is the `RangeError` of an Invalid Date. -/
def toISOString (t : Date) : Option JsString :=
  if ValidDate t then
    let date := civilDate (t / 86400000)
    let ms := (t % 86400000).toNat
    some (isoYear date.year ++ js "-" ++ paddedDigits 2 date.month.toNat ++ js "-" ++
      paddedDigits 2 date.day.toNat ++ js "T" ++ paddedDigits 2 (ms / 3600000) ++ js ":" ++
      paddedDigits 2 (ms / 60000 % 60) ++ js ":" ++ paddedDigits 2 (ms / 1000 % 60) ++ js "." ++
      paddedDigits 3 (ms % 1000) ++ js "Z")
  else none

/-- A leap day of a century, and the first and the last date there is. -/
example :
    toISOString 951868799999 = some (js "2000-02-29T23:59:59.999Z") ∧
    toISOString (-8640000000000000) = some (js "-271821-04-20T00:00:00.000Z") ∧
    toISOString 8640000000000000 = some (js "+275760-09-13T00:00:00.000Z") := by
  decide +kernel

end XClone.Js
