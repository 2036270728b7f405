/-! Dates, times of day and date-times, as settings files write them. -/
namespace Walkthrough

structure Date where
  year : Nat
  month : Nat
  day : Nat
  deriving DecidableEq, Repr

/-- A time of day, to the microsecond. -/
structure TimeOfDay where
  hour : Nat
  minute : Nat
  second : Nat
  micro : Nat
  deriving DecidableEq, Repr

/-- A date, a time of day, or both with an offset in minutes from universal time. -/
inductive Moment
  | date (d : Date)
  | time (t : TimeOfDay)
  | dateTime (d : Date) (t : TimeOfDay) (offset : Option Int)
  deriving DecidableEq, Repr

namespace Moment

def padded (width n : Nat) : String :=
  let ds := Nat.toDigits 10 n
  String.ofList (List.replicate (width - ds.length) '0' ++ ds)

def daysIn (year month : Nat) : Nat :=
  match month with
  | 2 => if year % 4 = 0 ∧ (year % 100 ≠ 0 ∨ year % 400 = 0) then 29 else 28
  | 4 | 6 | 9 | 11 => 30
  | _ => 31

def isDay (d : Date) : Bool :=
  1 ≤ d.year && 1 ≤ d.month && d.month ≤ 12 && 1 ≤ d.day && d.day ≤ daysIn d.year d.month

/-- The text of a date: year, month and day joined by hyphens. -/
def dateText (d : Date) : String :=
  s!"{padded 4 d.year}-{padded 2 d.month}-{padded 2 d.day}"

/-- The text of a time, with microseconds only when there are any. -/
def timeText (t : TimeOfDay) : String :=
  let base := s!"{padded 2 t.hour}:{padded 2 t.minute}:{padded 2 t.second}"
  if t.micro = 0 then base else s!"{base}.{padded 6 t.micro}"

/-- The text of an offset: a sign, hours and minutes. -/
def offsetText (minutes : Int) : String :=
  let sign := if minutes < 0 then "-" else "+"
  s!"{sign}{padded 2 (minutes.natAbs / 60)}:{padded 2 (minutes.natAbs % 60)}"

def text : Moment → String
  | .date d => dateText d
  | .time t => timeText t
  | .dateTime d t none => s!"{dateText d} {timeText t}"
  | .dateTime d t (some o) => s!"{dateText d} {timeText t}{offsetText o}"

/-- The parts of a time that are written out: seconds and microseconds only when not zero. -/
def timeParts (t : TimeOfDay) : List Nat :=
  [t.hour, t.minute] ++
    (if t.micro ≠ 0 then [t.second, t.micro] else if t.second ≠ 0 then [t.second] else [])

def zoneForm (minutes : Int) : String :=
  if minutes = 0 then "datetime.timezone.utc"
  else if minutes < 0 then
    s!"datetime.timezone(datetime.timedelta(days=-1, seconds={86400 + minutes * 60}))"
  else s!"datetime.timezone(datetime.timedelta(seconds={minutes * 60}))"

def form : Moment → String
  | .date d => s!"datetime.date({d.year}, {d.month}, {d.day})"
  | .time t => s!"datetime.time({joined (timeParts t)})"
  | .dateTime d t offset =>
    let zone :=
      match offset with
      | none => ""
      | some o => s!", tzinfo={zoneForm o}"
    s!"datetime.datetime({joined ([d.year, d.month, d.day] ++ timeParts t)}{zone})"
where
  joined (ns : List Nat) : String := ", ".intercalate (ns.map toString)

end Moment

end Walkthrough
