-- Days of the calendar, and moments on them. Leap years follow the same
-- rule in every year, and years run from 1 to 9999. A moment may tell how
-- far its clock is ahead of universal time; two such moments are the same
-- when they are one point in time.
import ThreeBlock.Text.Numeral
namespace ThreeBlock

/-! ## Days -/

/-- A day. -/
structure Day where
  year : Nat
  month : Nat
  day : Nat
  deriving DecidableEq, Repr, Inhabited

namespace Day

def isLeap (year : Nat) : Bool := year % 4 = 0 && (year % 100 ≠ 0 || year % 400 = 0)

def monthLength (year month : Nat) : Nat :=
  if month = 2 then (if isLeap year then 29 else 28)
  else if month = 4 || month = 6 || month = 9 || month = 11 then 30
  else 31

def beforeYear (year : Nat) : Nat :=
  let y := year - 1
  365 * y + y / 4 - y / 100 + y / 400

/-- The number of a day, the first day of year 1 being day 1. -/
def number (d : Day) : Nat :=
  (List.range (d.month - 1)).foldl (fun n m => n + monthLength d.year (m + 1))
    (beforeYear d.year) + d.day

end Day

/-! ## Moments -/

/-- A moment of a day, to the millionth of a second. -/
structure Moment where
  day : Day
  hour : Nat := 0
  minute : Nat := 0
  second : Nat := 0
  micro : Nat := 0
  ahead : Option Int := none
  deriving DecidableEq, Repr, Inhabited

namespace Moment

/-- The seconds since the start of day 0, on the clock of the moment. -/
def seconds (m : Moment) : Nat :=
  86400 * m.day.number + 3600 * m.hour + 60 * m.minute + m.second

/-- Whether two moments are the same. One that tells its distance from
universal time is never the same as one that does not. -/
def same (a b : Moment) : Bool :=
  match a.ahead, b.ahead with
  | none, none => a = b
  | some x, some y => a.seconds - x = b.seconds - y && a.micro = b.micro
  | _, _ => false

end Moment

/-! ## Faults -/

/-- Why there is no such day or moment. -/
inductive CalendarFault where
  | year (number : Nat)
  | month
  | day
  | hour
  | minute
  | second
  | ahead (seconds : Int)
  deriving DecidableEq, Repr

/-! ## Text -/

def paddedText (width n : Nat) : String :=
  let ds := Text.numeral n
  String.ofList (List.replicate (width - ds.length) '0' ++ ds)

/-- A span of time spelled out: whole days, and the seconds beyond them. -/
def spanText (seconds : Int) : String :=
  let days := seconds / 86400
  let rest := seconds % 86400
  let parts := (if days = 0 then [] else ["days=" ++ Text.intText days]) ++
    (if rest = 0 then [] else ["seconds=" ++ Text.intText rest])
  "datetime.timedelta(" ++ (if parts = [] then "0" else String.intercalate ", " parts) ++ ")"

def CalendarFault.message : CalendarFault → String
  | .year n => "year " ++ Text.natText n ++ " is out of range"
  | .month => "month must be in 1..12"
  | .day => "day is out of range for month"
  | .hour => "hour must be in 0..23"
  | .minute => "minute must be in 0..59"
  | .second => "second must be in 0..59"
  | .ahead span =>
    "offset must be a timedelta strictly between -timedelta(hours=24) and " ++
      "timedelta(hours=24), not " ++ spanText span ++ "."

namespace Day

def display (d : Day) : String :=
  "datetime.date(" ++
    String.intercalate ", " ([d.year, d.month, d.day].map Text.natText) ++ ")"

def text (d : Day) : String :=
  paddedText 4 d.year ++ "-" ++ paddedText 2 d.month ++ "-" ++ paddedText 2 d.day

def checked (d : Day) : Except CalendarFault Day :=
  if d.year = 0 || 9999 < d.year then .error (.year d.year)
  else if d.month = 0 || 12 < d.month then .error .month
  else if d.day = 0 || monthLength d.year d.month < d.day then .error .day
  else .ok d

end Day

namespace Moment

def aheadDisplay (seconds : Int) : String :=
  if seconds = 0 then "datetime.timezone.utc"
  else "datetime.timezone(" ++ spanText seconds ++ ")"

/-- A moment spelled out; seconds and millionths that are zero are left
out. -/
def display (m : Moment) : String :=
  let fine := if m.micro ≠ 0 then [m.second, m.micro] else if m.second ≠ 0 then [m.second] else []
  let numbers := [m.day.year, m.day.month, m.day.day, m.hour, m.minute] ++ fine
  let zone := m.ahead.toList.map fun s => "tzinfo=" ++ aheadDisplay s
  "datetime.datetime(" ++ String.intercalate ", " (numbers.map Text.natText ++ zone) ++ ")"

def aheadText (seconds : Int) : String :=
  let minutes := seconds.natAbs / 60
  (if seconds < 0 then "-" else "+") ++ paddedText 2 (minutes / 60) ++ ":" ++
    paddedText 2 (minutes % 60)

def text (m : Moment) : String :=
  m.day.text ++ " " ++ paddedText 2 m.hour ++ ":" ++ paddedText 2 m.minute ++ ":" ++
    paddedText 2 m.second ++ (if m.micro = 0 then "" else "." ++ paddedText 6 m.micro) ++
    (m.ahead.map aheadText).getD ""

/-- The distance of a clock from universal time, when it is below a day. -/
def checkedAhead (m : Moment) : Except CalendarFault Unit :=
  match m.ahead with
  | none => .ok ()
  | some s => if s.natAbs < 86400 then .ok () else .error (.ahead s)

/-- The moment itself, when there is one like it. The distance from universal
time is looked at first. -/
def checked (m : Moment) : Except CalendarFault Moment := do
  m.checkedAhead
  let _ ← m.day.checked
  if 23 < m.hour then .error .hour
  else if 59 < m.minute then .error .minute
  else if 59 < m.second then .error .second
  else .ok m

end Moment

end ThreeBlock
