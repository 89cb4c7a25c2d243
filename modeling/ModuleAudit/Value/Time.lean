/-!
# Points in time

A `TimePoint` is a day and a time on the clock, with or without its distance from the standard time.
Two points with such a distance are the same if they are the same moment, wherever they are told.
-/

namespace ModuleAudit

/-- A number with at least `width` digits. -/
def padded (width n : Nat) : String :=
  let ds := Nat.toDigits 10 n
  String.ofList (List.replicate (width - ds.length) '0' ++ ds)

/-- A point in time. -/
structure TimePoint where
  year : Nat
  month : Nat
  day : Nat
  hour : Nat
  minute : Nat
  second : Nat
  /-- Millionths of a second. -/
  fraction : Nat
  /-- Minutes ahead of the standard time. -/
  zone : Option Int
  deriving DecidableEq, Repr, Inhabited

/-- Whether a year has a day more. -/
def isLeapYear (year : Nat) : Bool := year % 4 == 0 && (year % 100 != 0 || year % 400 == 0)

/-- How many days a month has. -/
def daysInMonth (year month : Nat) : Nat :=
  if month == 2 then if isLeapYear year then 29 else 28
  else if [4, 6, 9, 11].contains month then 30 else 31

/-- How many days lie before a day, from the first day of the first year on. -/
def daysBefore (year month day : Nat) : Nat :=
  let years := year - 1
  let months := (List.range (month - 1)).foldl (fun n m => n + daysInMonth year (m + 1)) 0
  365 * years + years / 4 - years / 100 + years / 400 + months + (day - 1)

namespace TimePoint

/-- The millionths of a second from the start of the first year on, in the zone of the point. -/
def elapsed (t : TimePoint) : Int :=
  let hours := daysBefore t.year t.month t.day * 24 + t.hour
  let seconds := (hours * 60 + t.minute) * 60 + t.second
  seconds * 1000000 + t.fraction

/-- Whether two points are the same. A point with a zone differs from all points without one. -/
def same (t u : TimePoint) : Bool :=
  match t.zone, u.zone with
  | none, none => t.elapsed == u.elapsed
  | some z, some w => t.elapsed - z * 60000000 == u.elapsed - w * 60000000
  | _, _ => false

/-- A stretch of minutes as messages show it, in days and seconds of which the seconds are not
negative. -/
def shownStretch (minutes : Int) : String :=
  let days := minutes.fdiv 1440
  let seconds := (minutes.fmod 1440) * 60
  let parts := (if days == 0 then [] else [s!"days={days}"]) ++
    (if seconds == 0 then [] else [s!"seconds={seconds}"])
  "datetime.timedelta(" ++ (if parts.isEmpty then "0" else ", ".intercalate parts) ++ ")"

/-- A distance from the standard time as it is written. -/
def writtenZone (minutes : Int) : String :=
  (if minutes < 0 then "-" else "+") ++ padded 2 (minutes.natAbs / 60) ++ ":" ++
    padded 2 (minutes.natAbs % 60)

/-- The point as it is written in running text. -/
def written (t : TimePoint) : String :=
  padded 4 t.year ++ "-" ++ padded 2 t.month ++ "-" ++ padded 2 t.day ++ " " ++
    padded 2 t.hour ++ ":" ++ padded 2 t.minute ++ ":" ++ padded 2 t.second ++
    (if t.fraction == 0 then "" else "." ++ padded 6 t.fraction) ++ (t.zone.map writtenZone).getD ""

/-- A zone as messages show it. -/
def shownZone (minutes : Int) : String :=
  "datetime.timezone" ++ if minutes == 0 then ".utc" else "(" ++ shownStretch minutes ++ ")"

/-- The point as messages show it: seconds and their fraction are left out where nothing follows
them. -/
def shown (t : TimePoint) : String :=
  let seconds :=
    if t.fraction != 0 then [t.second, t.fraction] else if t.second != 0 then [t.second] else []
  let fields := ([t.year, t.month, t.day, t.hour, t.minute] ++ seconds).map toString
  let zone := (t.zone.map fun z => ["tzinfo=" ++ shownZone z]).getD []
  "datetime.datetime(" ++ ", ".intercalate (fields ++ zone) ++ ")"

end TimePoint

end ModuleAudit
