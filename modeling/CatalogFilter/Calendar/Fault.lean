import CatalogFilter.Text.Quoted

/-! # Why a calendar text is refused

* `CalendarFault`: the first rule that a date or timestamp text breaks.
* `CalendarFault.message`: its wording. -/

namespace CatalogFilter

/-- The first rule broken by a text for a date or a timestamp. -/
inductive CalendarFault where
  /-- The text has not the form of a timestamp. -/
  | notTimestamp
  /-- The form is right, but a digit is not an ASCII digit. -/
  | foreignDigits (text : String)
  /-- The text has not the form of a date. -/
  | notDate (text : String)
  | offset
  | year (y : Nat)
  | month
  | day
  | hour
  | minute
  | second
  | microsecond
  deriving DecidableEq

/-- The wording of a fault. -/
def CalendarFault.message : CalendarFault → String
  | .notTimestamp => "Invalid RFC3339 datetime."
  | .foreignDigits text => "Unable to parse date string " ++ Text.quote text
  | .notDate text => "Invalid isoformat string: " ++ Text.quote text
  | .offset =>
    "offset must be a timedelta strictly between -timedelta(hours=24) and timedelta(hours=24)"
  | .year y => "year " ++ String.ofList (Nat.toDigits 10 y) ++ " is out of range"
  | .month => "month must be in 1..12"
  | .day => "day is out of range for month"
  | .hour => "hour must be in 0..23"
  | .minute => "minute must be in 0..59"
  | .second => "second must be in 0..59"
  | .microsecond => "microsecond must be in 0..999999"

end CatalogFilter
