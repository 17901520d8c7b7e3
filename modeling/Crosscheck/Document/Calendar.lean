/-!
# Days and times

Days of the calendar and times of the day, as configuration files may hold them, and their text.
-/

namespace Crosscheck.Document

/-- A number in decimal, padded with zeros to a width. -/
def padded (width n : Nat) : String :=
  let digits := Nat.toDigits 10 n
  String.ofList (List.replicate (width - digits.length) '0' ++ digits)

/-- A day of the calendar. -/
structure Day where
  year : Nat
  month : Nat
  day : Nat
  deriving DecidableEq, Repr

/-- How many days a month has. -/
def daysIn (year month : Nat) : Nat :=
  if month == 2 then
    if year % 4 == 0 && (year % 100 != 0 || year % 400 == 0) then 29 else 28
  else if month == 4 || month == 6 || month == 9 || month == 11 then 30
  else 31

/-- Whether there is such a day, in the years 1 to 9999. -/
def Day.isValid (d : Day) : Bool :=
  1 ≤ d.year && d.year ≤ 9999 && 1 ≤ d.month && d.month ≤ 12 && 1 ≤ d.day
    && d.day ≤ daysIn d.year d.month

/-- Year, month and day with dashes. -/
def Day.render (d : Day) : String :=
  padded 4 d.year ++ "-" ++ padded 2 d.month ++ "-" ++ padded 2 d.day

/-- A time of the day. -/
structure Clock where
  hour : Nat
  minute : Nat
  second : Nat
  micro : Nat
  deriving DecidableEq, Repr

/-- Whether there is such a time. -/
def Clock.isValid (c : Clock) : Bool :=
  c.hour < 24 && c.minute < 60 && c.second < 60 && c.micro < 1000000

/-- Hours, minutes and seconds with colons, and the fraction if there is one. -/
def Clock.render (c : Clock) : String :=
  padded 2 c.hour ++ ":" ++ padded 2 c.minute ++ ":" ++ padded 2 c.second
    ++ (if c.micro == 0 then "" else "." ++ padded 6 c.micro)

/-- The parts of a time that are written: seconds and fractions of zero are left out. -/
def Clock.parts (c : Clock) : List String :=
  [toString c.hour, toString c.minute]
    ++ (if c.second == 0 && c.micro == 0 then [] else [toString c.second])
    ++ (if c.micro == 0 then [] else [toString c.micro])

/-- A distance from universal time in minutes, in text. -/
def renderOffset (minutes : Int) : String :=
  (if minutes < 0 then "-" else "+") ++ padded 2 (minutes.natAbs / 60) ++ ":"
    ++ padded 2 (minutes.natAbs % 60)

/-- A day, a time of the day, or both with a distance from universal time in minutes. -/
inductive Moment
  | day (d : Day)
  | clock (c : Clock)
  | instant (d : Day) (c : Clock) (offset : Option Int)
  deriving DecidableEq, Repr

/-- The text of a moment. -/
def Moment.render : Moment → String
  | .day d => d.render
  | .clock c => c.render
  | .instant d c offset => d.render ++ " " ++ c.render ++ (offset.map renderOffset).getD ""

/-- A distance from universal time as days and seconds, the days rounded down. -/
def offsetLiteral (minutes : Int) : String :=
  if minutes == 0 then "datetime.timezone.utc"
  else
    let days := Int.fdiv minutes 1440
    let seconds := (minutes - days * 1440) * 60
    let parts := (if days == 0 then [] else [s!"days={days}"])
      ++ (if seconds == 0 then [] else [s!"seconds={seconds}"])
    "datetime.timezone(datetime.timedelta(" ++ ", ".intercalate parts ++ "))"

/-- How a moment is written inside a list or a map. -/
def Moment.literal : Moment → String
  | .day d => s!"datetime.date({d.year}, {d.month}, {d.day})"
  | .clock c => "datetime.time(" ++ ", ".intercalate c.parts ++ ")"
  | .instant d c offset =>
    "datetime.datetime("
      ++ ", ".intercalate ([toString d.year, toString d.month, toString d.day] ++ c.parts
        ++ (offset.map fun m => "tzinfo=" ++ offsetLiteral m).toList)
      ++ ")"

end Crosscheck.Document
