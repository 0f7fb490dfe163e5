import VolunteerAccess.Document

/-!
# TOML values

- `Toml.Moment`: a date, a time of day or both, with or without an offset.
- `Toml.Value`: the values of a document; a document is a table.

A TOML value is looked at strictly when typed values are read from it: nothing
but a text stands for a text, and nothing but a whole number for a number.
-/

namespace VolunteerAccess.Toml

/-! ## Moments -/

/-- A day of the calendar. -/
structure Date where
  year : Nat
  month : Nat
  day : Nat
deriving DecidableEq, Repr, Inhabited

namespace Date

def isLeap (year : Nat) : Bool := (year % 4 == 0 && year % 100 != 0) || year % 400 == 0

def daysIn (year month : Nat) : Nat :=
  if month = 2 then (if isLeap year then 29 else 28)
  else if month = 4 ∨ month = 6 ∨ month = 9 ∨ month = 11 then 30
  else 31

/-- Whether the day exists. -/
def isValid (d : Date) : Bool :=
  1 ≤ d.month && d.month ≤ 12 && 1 ≤ d.day && d.day ≤ daysIn d.year d.month

end Date

/-- A time of day; seconds and their fraction may be left out. -/
structure Time where
  hour : Nat
  minute : Nat
  second : Option Nat
  nanosecond : Option Nat
deriving DecidableEq, Repr, Inhabited

/-- Whether the time exists; a minute may have a leap second. -/
def Time.isValid (t : Time) : Bool :=
  t.hour ≤ 23 && t.minute ≤ 59 && t.second.all (· ≤ 60)

/-- The distance of a local time from universal time. -/
inductive Offset where
  | universal
  | minutes (value : Int)
deriving DecidableEq, Repr, Inhabited

/-- A date, a time or both. -/
structure Moment where
  date : Option Date
  time : Option Time
  offset : Option Offset
deriving DecidableEq, Repr, Inhabited

namespace Moment

/-- A number with zeros in front, `width` digits in all. -/
def padded (width n : Nat) : String :=
  let s := toString n
  String.ofList (List.replicate (width - s.length) '0') ++ s

private def dropFinalZeros (s : String) : String :=
  String.ofList (s.toList.reverse.dropWhile (· == '0')).reverse

private def timeText (t : Time) : String :=
  padded 2 t.hour ++ ":" ++ padded 2 t.minute ++
    t.second.elim "" (fun s => ":" ++ padded 2 s) ++
    t.nanosecond.elim "" (fun n =>
      let digits := dropFinalZeros (padded 9 n)
      "." ++ if digits.isEmpty then "0" else digits)

private def offsetText : Offset → String
  | .universal => "Z"
  | .minutes m =>
    (if m < 0 then "-" else "+") ++ padded 2 (m.natAbs / 60) ++ ":" ++ padded 2 (m.natAbs % 60)

private def dateText (d : Date) : String :=
  padded 4 d.year ++ "-" ++ padded 2 d.month ++ "-" ++ padded 2 d.day

/-- The text of a moment, the date and the time joined by a `T`. -/
def display (m : Moment) : String :=
  "T".intercalate ((m.date.map dateText).toList ++ (m.time.map timeText).toList) ++
    m.offset.elim "" offsetText

end Moment

/-! ## Values -/

/-- A TOML value. -/
inductive Value where
  | text (value : String)
  | integer (value : Int)
  | real (value : Binary64)
  | bool (value : Bool)
  | moment (value : Moment)
  | array (items : List Value)
  | table (members : List (String × Value))
deriving Inhabited

namespace Value

/-- A moment is looked at as a table with one member of its own. -/
def momentMember (m : Moment) : String × Value := ("$datetime", .text m.display)

/-- A case of an enumeration is its name, or a table whose only member is the name with
an empty table or array. A structure may be an array with items to spare. -/
instance : Document Value where
  text?
    | .text s => some s
    | _ => none
  flag?
    | .bool b => some b
    | _ => none
  count?
    | .integer n => Decimal.natural64? n
    | _ => none
  items?
    | .array xs => some xs
    | _ => none
  members?
    | .table ms => some ms
    | .moment m => some [momentMember m]
    | _ => none
  isNull _ := false
  case?
    | .text s => some s
    | .table [(name, .table [])] => some name
    | .table [(name, .array [])] => some name
    | _ => none
  allowsSurplus := true

end Value

end VolunteerAccess.Toml
