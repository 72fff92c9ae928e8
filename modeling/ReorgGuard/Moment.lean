import ReorgGuard.Numeral.Digits

/-!
Dates and points in time.

A point in time may carry an offset from world time; two that do are equal when they name one
instant.  A date is never equal to a point in time.
-/

namespace ReorgGuard

/-- A time of day, with the offset of its clock from world time in seconds if it is known. -/
structure TimeOfDay where
  hour : Nat
  minute : Nat
  second : Nat
  micros : Nat
  offset : Option Int
  deriving DecidableEq

structure Moment where
  year : Nat
  month : Nat
  day : Nat
  time : Option TimeOfDay
  deriving DecidableEq

def isLeapYear (year : Nat) : Bool :=
  year % 4 == 0 && (year % 100 != 0 || year % 400 == 0)

def monthDays (year month : Nat) : Nat :=
  if month = 2 then if isLeapYear year then 29 else 28
  else if month = 4 ∨ month = 6 ∨ month = 9 ∨ month = 11 then 30 else 31

def daysBefore (year month day : Nat) : Nat :=
  let past := year - 1
  let months := (List.range (month - 1)).foldl (fun days m => days + monthDays year (m + 1)) 0
  past * 365 + past / 4 - past / 100 + past / 400 + months + day

def calendarText (width n : Nat) : String :=
  String.ofList (Numeral.padded 10 width n)

def spanText (seconds : Int) : String :=
  let days := seconds.fdiv 86400
  let rest := seconds.fmod 86400
  let parts :=
    (if days = 0 then [] else ["days=" ++ Numeral.intText days]) ++
      (if rest = 0 then [] else ["seconds=" ++ Numeral.intText rest])
  "datetime.timedelta(" ++ (if parts.isEmpty then "0" else ", ".intercalate parts) ++ ")"

/-- An offset from world time behind a time of day. -/
def offsetText (seconds : Int) : String :=
  let minutes := seconds.natAbs / 60
  (if seconds < 0 then "-" else "+") ++ calendarText 2 (minutes / 60) ++ ":" ++ calendarText 2 (minutes % 60)

namespace Moment

def text (m : Moment) : String :=
  let date := calendarText 4 m.year ++ "-" ++ calendarText 2 m.month ++ "-" ++ calendarText 2 m.day
  match m.time with
  | none => date
  | some t =>
      date ++ " " ++ calendarText 2 t.hour ++ ":" ++ calendarText 2 t.minute ++ ":" ++ calendarText 2 t.second ++
        (if t.micros = 0 then "" else "." ++ calendarText 6 t.micros) ++ (t.offset.map offsetText).getD ""

def zoneText (seconds : Int) : String :=
  if seconds = 0 then "datetime.timezone.utc" else "datetime.timezone(" ++ spanText seconds ++ ")"

/-- A moment as it is written inside a list. -/
def shown (m : Moment) : String :=
  let numbers (ns : List Nat) : String := ", ".intercalate (ns.map Numeral.natText)
  match m.time with
  | none => "datetime.date(" ++ numbers [m.year, m.month, m.day] ++ ")"
  | some t =>
      let fine := if t.micros ≠ 0 then [t.second, t.micros] else if t.second ≠ 0 then [t.second] else []
      "datetime.datetime(" ++ numbers ([m.year, m.month, m.day, t.hour, t.minute] ++ fine) ++
        (t.offset.map fun seconds => ", tzinfo=" ++ zoneText seconds).getD "" ++ ")"

def worldSeconds (m : Moment) (t : TimeOfDay) (offset : Int) : Int :=
  (daysBefore m.year m.month m.day * 86400 + t.hour * 3600 + t.minute * 60 + t.second : Nat) - offset

def same (m n : Moment) : Bool :=
  match m.time, n.time with
  | some t, some u =>
      match t.offset, u.offset with
      | some a, some b => worldSeconds m t a == worldSeconds n u b && t.micros == u.micros
      | _, _ => m == n
  | _, _ => m == n

end Moment

end ReorgGuard
