import OracleCatalog.Text.Numeral
import OracleCatalog.Yaml.Failure

/-!
# Timestamps

A timestamp is a day of the calendar with an optional time of the day, which can have an offset.
Only days and times that exist are values.
-/

namespace OracleCatalog.Yaml

open OracleCatalog.Text (natText)

/-- A time of the day. -/
structure ClockTime where
  hour : Nat
  minute : Nat
  second : Nat
  /-- The minutes by which local time is ahead. -/
  offset : Int := 0
  deriving DecidableEq, Inhabited

/-- A day and perhaps a time. -/
structure Timestamp where
  year : Nat
  month : Nat
  day : Nat
  time : Option ClockTime := none
  deriving DecidableEq, Inhabited

/-! ### Reading -/

/-- The number of the digits at the start of a text, of which there are as many as allowed, and what
follows them. -/
def digitGroup (least most : Nat) (cs : List Char) : Option (Nat × List Char) :=
  let digits := cs.takeWhile Char.isDigit
  if least ≤ digits.length && digits.length ≤ most then
    some (digits.foldl (fun n c => 10 * n + (c.toNat - 48)) 0, cs.dropWhile Char.isDigit)
  else none

def behindMark (mark : Char) : List Char → Option (List Char)
  | [] => none
  | c :: cs => if c = mark then some cs else none

/-- Whether the character is a blank inside a timestamp. -/
def isTimeBlank (c : Char) : Bool := c = ' ' || c = '\t'

/-- The offset behind its sign, in minutes. -/
def offsetOf (cs : List Char) : Option Nat := do
  let (hours, rest) ← digitGroup 1 2 cs
  if rest.isEmpty then return hours * 60
  let (minutes, rest) ← digitGroup 2 2 (← behindMark ':' rest)
  if rest.isEmpty then some (hours * 60 + minutes) else none

/-- The offset at the end of a timestamp. -/
def zoneOf (cs : List Char) : Option Int :=
  if cs.isEmpty then some 0
  else
    match cs.dropWhile isTimeBlank with
    | ['Z'] => some 0
    | '+' :: cs => (offsetOf cs).map Int.ofNat
    | '-' :: cs => (offsetOf cs).map fun minutes => -(minutes : Int)
    | _ => none

/-- The time of the day that a text writes. -/
def clockTimeOf (cs : List Char) : Option ClockTime := do
  let (hour, rest) ← digitGroup 1 2 cs
  let (minute, rest) ← digitGroup 2 2 (← behindMark ':' rest)
  let (second, rest) ← digitGroup 2 2 (← behindMark ':' rest)
  let rest := match rest with
    | '.' :: rest => rest.dropWhile Char.isDigit
    | rest => rest
  return { hour, minute, second, offset := ← zoneOf rest }

/-- The timestamp that a text writes. -/
def Timestamp.ofChars (cs : List Char) : Option Timestamp := do
  let (year, rest) ← digitGroup 4 4 cs
  let (month, rest) ← digitGroup 1 2 (← behindMark '-' rest)
  let (day, rest) ← digitGroup 1 2 (← behindMark '-' rest)
  match rest with
  | [] => return { year, month, day }
  | c :: cs =>
    if c = 'T' || c = 't' then return { year, month, day, time := ← clockTimeOf cs }
    else if isTimeBlank c then
      return { year, month, day, time := ← clockTimeOf (cs.dropWhile isTimeBlank) }
    else none

/-- Whether a scalar without a tag is a timestamp: a day alone needs all its digits. -/
def isTimestamp (cs : List Char) : Bool :=
  (Timestamp.ofChars cs).any fun t => t.time.isSome || cs.length = 10

/-! ### The calendar -/

def daysOfMonth (year month : Nat) : Nat :=
  if month = 2 then
    if year % 4 = 0 && (year % 100 ≠ 0 || year % 400 = 0) then 29 else 28
  else if [4, 6, 9, 11].contains month then 30
  else 31

/-- The wording of a length of time in minutes. -/
def durationText (minutes : Int) : String :=
  let days := minutes.fdiv 1440
  let seconds := (minutes.fmod 1440) * 60
  "datetime.timedelta(days=" ++ Text.intText days ++
    (if seconds = 0 then "" else ", seconds=" ++ Text.intText seconds) ++ ")"

/-- Why an offset is none, if it is not less than a day. -/
def offsetFault? (offset : Int) : Option String :=
  if offset.natAbs < 1440 then none
  else some (
    "offset must be a timedelta strictly between -timedelta(hours=24) and timedelta(hours=24), " ++
      "not " ++ durationText offset ++ ".")

/-- Why a day is none, if it does not exist. -/
def Timestamp.dayFault? (t : Timestamp) : Option String :=
  if t.year = 0 then some ("year " ++ natText t.year ++ " is out of range")
  else if t.month = 0 || 12 < t.month then some "month must be in 1..12"
  else if t.day = 0 || daysOfMonth t.year t.month < t.day then
    some "day is out of range for month"
  else none

/-- Why a time of the day is none, if it does not exist. -/
def ClockTime.fault? (time : ClockTime) : Option String :=
  if 23 < time.hour then some "hour must be in 0..23"
  else if 59 < time.minute then some "minute must be in 0..59"
  else if 59 < time.second then some "second must be in 0..59"
  else none

/-- Why a timestamp is none, if it does not exist. -/
def Timestamp.fault? (t : Timestamp) : Option String :=
  match t.time with
  | none => t.dayFault?
  | some time => (offsetFault? time.offset).or (t.dayFault?.or time.fault?)

/-- Whether a text writes a timestamp that exists; one without the form has no parts. -/
def checkTimestamp (cs : List Char) : Reading Unit :=
  match Timestamp.ofChars cs with
  | none => .error (.raised (.noOperation "NoneType" "groupdict"))
  | some t =>
    match t.fault? with
    | some reason => .error (.refused (.calendar reason))
    | none => .ok ()

end OracleCatalog.Yaml
