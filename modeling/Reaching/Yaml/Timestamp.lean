/-!
Dates and times of day in YAML 1.1: `2001-12-14`, or a date and a time such as
`2001-12-14t21:59:43.10-05:00`, in which month, day and hour may be written with one digit if a time
is given. Decimals of a second count up to the sixth, and an offset is kept in minutes.

Reading asks only for the form. `Timestamp.flaw?` finds the first part whose number is out of range.
-/
set_option autoImplicit false

namespace Reaching.Yaml

structure TimeOfDay where
  hour : Nat
  minute : Nat
  second : Nat
  micros : Nat
  offset : Option Int
  deriving DecidableEq, Repr

structure Timestamp where
  year : Nat
  month : Nat
  day : Nat
  time : Option TimeOfDay
  deriving DecidableEq, Repr

/-- The part of a timestamp that is out of range. -/
inductive TimeFlaw where
  | year | month | day | hour | minute | second
  | offset (minutes : Int)
  deriving DecidableEq, Repr

namespace Timestamp

def valueOf (digits : List Char) : Nat :=
  digits.foldl (fun n c => 10 * n + (c.toNat - '0'.toNat)) 0

/-- Reads a number of at least and at most so many digits. -/
def number? (least most : Nat) (cs : List Char) : Option (Nat × List Char) :=
  let digits := (cs.take most).takeWhile Char.isDigit
  if digits.length < least then none else some (valueOf digits, cs.drop digits.length)

def mark? (mark : Char) : List Char → Option (List Char)
  | [] => none
  | c :: rest => if c = mark then some rest else none

def isBlank (c : Char) : Bool := c = ' ' || c = '\t'

/-- Reads what stands between a date and a time: a letter or some blanks. -/
def gap? : List Char → Option (List Char)
  | [] => none
  | c :: rest =>
    if c = 'T' || c = 't' then some rest
    else if isBlank c then some (rest.dropWhile isBlank)
    else none

/-- Reads the decimals of a second, in millionths. -/
def micros : List Char → Nat × List Char
  | '.' :: rest =>
    let digits := rest.takeWhile Char.isDigit
    (valueOf ((digits ++ List.replicate 6 '0').take 6), rest.drop digits.length)
  | cs => (0, cs)

/-- Reads an offset in minutes; nothing may follow it. -/
def offset? (cs : List Char) : Option (Option Int) := do
  match cs.dropWhile isBlank with
  | [] => if cs.isEmpty then some none else none
  | ['Z'] => return some 0
  | sign :: rest =>
    let (hours, rest) ← number? 1 2 rest
    let (minutes, rest) ← match rest with
      | [] => some (0, [])
      | rest => (mark? ':' rest).bind (number? 2 2)
    if !rest.isEmpty then none
    else if sign = '+' then return some (60 * hours + minutes)
    else if sign = '-' then return some (-(60 * hours + minutes))
    else none

def timeOfDay? (cs : List Char) : Option TimeOfDay := do
  let (hour, cs) ← number? 1 2 cs
  let (minute, cs) ← number? 2 2 (← mark? ':' cs)
  let (second, cs) ← number? 2 2 (← mark? ':' cs)
  let (micros, cs) := micros cs
  return ⟨hour, minute, second, micros, ← offset? cs⟩

def read? (cs : List Char) : Option Timestamp := do
  let (year, cs) ← number? 4 4 cs
  let (month, cs) ← number? 1 2 (← mark? '-' cs)
  let (day, cs) ← number? 1 2 (← mark? '-' cs)
  if cs.isEmpty then return ⟨year, month, day, none⟩
  else return ⟨year, month, day, some (← timeOfDay? (← gap? cs))⟩

/-- Tells whether a bare scalar is spelled as a timestamp; a date on its own has ten characters. -/
def isSpelled (cs : List Char) : Bool :=
  match read? cs with
  | some timestamp => timestamp.time.isSome || cs.length = 10
  | none => false

def isLeap (year : Nat) : Bool :=
  year % 4 = 0 && (year % 100 ≠ 0 || year % 400 = 0)

def daysIn (year month : Nat) : Nat :=
  if month = 2 then if isLeap year then 29 else 28
  else if month = 4 || month = 6 || month = 9 || month = 11 then 30
  else 31

def minutesPerDay : Int := 1440

def offsetFlaw? (time : TimeOfDay) : Option TimeFlaw :=
  match time.offset with
  | some minutes =>
    if -minutesPerDay < minutes && minutes < minutesPerDay then none else some (.offset minutes)
  | none => none

def dateFlaw? (timestamp : Timestamp) : Option TimeFlaw :=
  if timestamp.year = 0 then some .year
  else if timestamp.month = 0 || timestamp.month > 12 then some .month
  else if timestamp.day = 0 || timestamp.day > daysIn timestamp.year timestamp.month then some .day
  else none

def timeFlaw? (time : TimeOfDay) : Option TimeFlaw :=
  if time.hour > 23 then some .hour
  else if time.minute > 59 then some .minute
  else if time.second > 59 then some .second
  else none

/-- Finds the first flaw: that of the offset counts before that of the date, and that of the time
of day last. -/
def flaw? (timestamp : Timestamp) : Option TimeFlaw :=
  (timestamp.time.bind offsetFlaw?).or (timestamp.dateFlaw?.or (timestamp.time.bind timeFlaw?))

/-- Shows a span of minutes in days and the seconds of the last day. -/
def spanText (minutes : Int) : String :=
  let days := Int.fdiv minutes minutesPerDay
  let seconds := 60 * Int.fmod minutes minutesPerDay
  let parts := (if days = 0 then [] else ["days=" ++ toString days]) ++
    (if seconds = 0 then [] else ["seconds=" ++ toString seconds])
  "datetime.timedelta(" ++ (if parts.isEmpty then "0" else ", ".intercalate parts) ++ ")"

def offsetText : Option Int → List String
  | none => []
  | some minutes =>
    ["tzinfo=datetime.timezone" ++
      (if minutes = 0 then ".utc" else "(" ++ spanText minutes ++ ")")]

/-- Lists the numbers of a time of day without the zeros that may be left out at its end. -/
def timeNumbers (time : TimeOfDay) : List Nat :=
  if time.micros ≠ 0 then [time.hour, time.minute, time.second, time.micros]
  else if time.second ≠ 0 then [time.hour, time.minute, time.second]
  else [time.hour, time.minute]

/-- Shows a timestamp as messages quote it. -/
def shown (timestamp : Timestamp) : String :=
  let date := [timestamp.year, timestamp.month, timestamp.day]
  match timestamp.time with
  | none => "datetime.date(" ++ ", ".intercalate (date.map toString) ++ ")"
  | some time =>
    "datetime.datetime(" ++
      ", ".intercalate ((date ++ timeNumbers time).map toString ++ offsetText time.offset) ++ ")"

/-- Writes a number with at least `width` digits. -/
def padded (width n : Nat) : String :=
  let digits := Nat.toDigits 10 n
  String.ofList (List.replicate (width - digits.length) '0' ++ digits)

def plainTime (time : TimeOfDay) : String :=
  let clock := ":".intercalate ([time.hour, time.minute, time.second].map (padded 2))
  let decimals := if time.micros = 0 then "" else "." ++ padded 6 time.micros
  let offset := match time.offset with
    | none => ""
    | some minutes =>
      (if minutes < 0 then "-" else "+") ++
        padded 2 (minutes.natAbs / 60) ++ ":" ++ padded 2 (minutes.natAbs % 60)
  clock ++ decimals ++ offset

/-- Writes a timestamp with all its digits. -/
def plain (timestamp : Timestamp) : String :=
  let date := "-".intercalate
    [padded 4 timestamp.year, padded 2 timestamp.month, padded 2 timestamp.day]
  match timestamp.time with
  | none => date
  | some time => date ++ " " ++ plainTime time

/-- Counts the days before a date, from the first day of the first year on. -/
def dayNumber (timestamp : Timestamp) : Nat :=
  let before := timestamp.year - 1
  let earlier := (List.range (timestamp.month - 1)).foldl
    (fun days month => days + daysIn timestamp.year (month + 1)) 0
  365 * before + before / 4 - before / 100 + before / 400 + earlier + (timestamp.day - 1)

/-- Gives the instant that a timestamp with an offset names, in millionths of a second. -/
def instant? (timestamp : Timestamp) : Option Int := do
  let time ← timestamp.time
  let offset ← time.offset
  let minutes : Int := minutesPerDay * timestamp.dayNumber + 60 * time.hour + time.minute - offset
  return 1000000 * (60 * minutes + time.second) + time.micros

end Timestamp

namespace TimeFlaw

def message : TimeFlaw → String
  | year => "year 0 is out of range"
  | month => "month must be in 1..12"
  | day => "day is out of range for month"
  | hour => "hour must be in 0..23"
  | minute => "minute must be in 0..59"
  | second => "second must be in 0..59"
  | offset minutes =>
    "offset must be a timedelta strictly between -timedelta(hours=24) and timedelta(hours=24), not "
      ++ Timestamp.spanText minutes ++ "."

end TimeFlaw

end Reaching.Yaml
