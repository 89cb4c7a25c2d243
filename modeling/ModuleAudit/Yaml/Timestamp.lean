import ModuleAudit.Fault
import ModuleAudit.Value.Basic
import ModuleAudit.Yaml.Kind

/-!
# Days and points in time

`timestamp` makes the value of a day or of a point in time as it is written: a day alone, or a day
with an hour and perhaps a distance from the standard time. Fields beyond the calendar or the clock
are faults.
-/

namespace ModuleAudit.Yaml

/-- The form of a timestamp, with its fields captured. -/
def timestampFields : Pattern :=
  let field (k : Nat) (p : Pattern) : Pattern := .capture k p
  let zoneFields := Pattern.sequence [
    .most fun c => c == ' ' || c == '\t',
    .either (field 8 (.exactly 'Z')) (.sequence [
      field 9 (.char fun c => c == '-' || c == '+'), field 10 Kind.oneOrTwo,
      .optional (.seq (.exactly ':') (field 11 (Kind.exactDigits 2)))])]
  let clock := Pattern.sequence [
    Kind.dayGap, field 4 Kind.oneOrTwo, .exactly ':', field 5 (Kind.exactDigits 2), .exactly ':',
    field 6 (Kind.exactDigits 2), .optional (.seq (.exactly '.') (field 7 (.most Char.isDigit))),
    .optional zoneFields]
  .sequence [
    field 1 (Kind.exactDigits 4), .exactly '-', field 2 Kind.oneOrTwo, .exactly '-',
    field 3 Kind.oneOrTwo,
    .optional clock, .textEnd]

/-- The number that digits spell. -/
def numberOf (digits : List Char) : Nat :=
  digits.foldl (fun n c => 10 * n + (c.toNat - '0'.toNat)) 0

/-- A field that is out of its range. -/
def outside (reason : String) : Except Fault Unit := .error (.badValue reason)

/-- Makes sure that a day is in the calendar. -/
def checkDay (year month day : Nat) : Except Fault Unit :=
  if year == 0 then outside "year 0 is out of range"
  else if month == 0 || month > 12 then outside "month must be in 1..12"
  else if day == 0 || day > daysInMonth year month then outside "day is out of range for month"
  else .ok ()

/-- Makes sure that a time is on the clock. -/
def checkClock (hour minute second : Nat) : Except Fault Unit :=
  if hour > 23 then outside "hour must be in 0..23"
  else if minute > 59 then outside "minute must be in 0..59"
  else if second > 59 then outside "second must be in 0..59"
  else .ok ()

/-- Makes sure that a distance from the standard time, in minutes, is less than a day. -/
def checkZone (minutes : Int) : Except Fault Int :=
  if minutes.natAbs < 1440 then .ok minutes
  else
    .error (.badValue ("offset must be a timedelta strictly between -timedelta(hours=24) and " ++
      "timedelta(hours=24), not " ++ TimePoint.shownStretch minutes ++ "."))

/-- The millionths of a second that the digits of a fraction spell. -/
def millionths (digits : List Char) : Nat :=
  let kept := digits.take 6
  numberOf kept * Nat.pow 10 (6 - kept.length)

/-- The zone of a timestamp, in minutes. -/
def zoneOf (part : Nat → List Char) : Except Fault (Option Int) :=
  match part 9 with
  | [] => .ok (if part 8 == [] then none else some 0)
  | sign :: _ =>
    let minutes : Int := numberOf (part 10) * 60 + numberOf (part 11)
    some <$> checkZone (if sign == '-' then -minutes else minutes)

/-- The point in time with these parts. -/
def pointOf (part : Nat → List Char) : Except Fault TimePoint := do
  let number (k : Nat) : Nat := numberOf (part k)
  let zone ← zoneOf part
  checkDay (number 1) (number 2) (number 3)
  checkClock (number 4) (number 5) (number 6)
  return ⟨number 1, number 2, number 3, number 4, number 5, number 6, millionths (part 7), zone⟩

/-- The value of a timestamp. -/
def timestamp (s : String) : Except Fault Value :=
  match timestampFields.prefixMatch? s.toList with
  | none => .error (.missingPart "NoneType" "groupdict")
  | some m => do
    if (m.capture 4).isEmpty then
      let (y, mo, d) := (numberOf (m.capture 1), numberOf (m.capture 2), numberOf (m.capture 3))
      checkDay y mo d
      return .date y mo d
    else return .time (← pointOf m.capture)

end ModuleAudit.Yaml
