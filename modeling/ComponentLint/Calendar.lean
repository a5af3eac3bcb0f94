import ComponentLint.Number.Reading
import ComponentLint.Value

/-!
Dates and times of day, with the two texts of each: the plain one, and the one that stands inside
a collection.
-/

namespace ComponentLint.Calendar

structure Date where
  year : Nat
  month : Nat
  day : Nat
  deriving DecidableEq, Repr

/-- A time of day, to the microsecond. -/
structure Time where
  hour : Nat
  minute : Nat
  second : Nat
  microsecond : Nat := 0
  deriving DecidableEq, Repr

/-- The difference from universal time in minutes. -/
abbrev Offset := Int

def isLeap (year : Nat) : Bool := year % 4 == 0 && (year % 100 != 0 || year % 400 == 0)

def daysIn (year month : Nat) : Nat :=
  if month = 2 then if isLeap year then 29 else 28
  else if [4, 6, 9, 11].contains month then 30 else 31

def Date.isValid (d : Date) : Bool :=
  1 ≤ d.year && d.year ≤ 9999 && 1 ≤ d.month && d.month ≤ 12 && 1 ≤ d.day &&
    d.day ≤ daysIn d.year d.month

def Time.isValid (t : Time) : Bool :=
  t.hour < 24 && t.minute < 60 && t.second < 60 && t.microsecond < 1000000

/-- Less than a day in either direction. -/
def isValidOffset (o : Offset) : Bool := -1440 < o && o < 1440

/-- A number with leading zeros. -/
def padded (width n : Nat) : String :=
  let s := toString n
  String.ofList (List.replicate (width - s.length) '0') ++ s

def Date.plain (d : Date) : String := s!"{padded 4 d.year}-{padded 2 d.month}-{padded 2 d.day}"

def Time.plain (t : Time) : String :=
  s!"{padded 2 t.hour}:{padded 2 t.minute}:{padded 2 t.second}" ++
    if t.microsecond = 0 then "" else "." ++ padded 6 t.microsecond

def offsetPlain (o : Offset) : String :=
  let n := o.natAbs
  (if o < 0 then "-" else "+") ++ s!"{padded 2 (n / 60)}:{padded 2 (n % 60)}"

/-- The fields of a time, without the seconds and their parts when they are zero. -/
def Time.fields (t : Time) : List Nat :=
  [t.hour, t.minute] ++
    if t.microsecond ≠ 0 then [t.second, t.microsecond]
    else if t.second ≠ 0 then [t.second] else []

def Date.fields (d : Date) : List Nat := [d.year, d.month, d.day]

def call (name : String) (arguments : List String) : String :=
  name ++ "(" ++ Text.joinWith ", " arguments ++ ")"

def offsetQuoted (o : Offset) : String :=
  if o = 0 then "datetime.timezone.utc"
  else
    let seconds := o * 60
    let delta := if o < 0 then s!"days=-1, seconds={seconds + 86400}" else s!"seconds={seconds}"
    call "datetime.timezone" [call "datetime.timedelta" [delta]]

def texts (ns : List Nat) : List String := ns.map toString

/-- A date as a value. -/
def ofDate (d : Date) : Value :=
  .moment "date" d.plain (call "datetime.date" (texts d.fields))

/-- A time of day as a value. -/
def ofTime (t : Time) : Value :=
  .moment "time" t.plain (call "datetime.time" (texts t.fields))

/-- A date and time as a value. -/
def ofDateTime (d : Date) (t : Time) (o : Option Offset) : Value :=
  .moment "datetime" (d.plain ++ " " ++ t.plain ++ (o.map offsetPlain).getD "")
    (call "datetime.datetime"
      (texts (d.fields ++ t.fields) ++ (o.map fun o => "tzinfo=" ++ offsetQuoted o).toList))

/-- The digits of a fraction of a second as microseconds; those beyond six are cut off. -/
def microseconds (digits : List Char) : Nat :=
  Number.digitsValue ((digits ++ List.replicate 6 '0').take 6)

end ComponentLint.Calendar
