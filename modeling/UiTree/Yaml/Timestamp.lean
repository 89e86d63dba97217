import UiTree.Yaml.Fault

/-!
# Timestamps — dates and times of day

A date, or a date with a time of day and perhaps a zone.  The parts are read by position and
checked against the calendar afterwards.
-/

namespace UiTree.Yaml

structure Timestamp where
  year : List Char
  month : List Char
  day : List Char
  /-- Hour, minute, second and the digits of a fraction. -/
  time? : Option (List Char × List Char × List Char × List Char)
  zone? : Option (Option (Char × List Char × List Char))
  deriving Repr

namespace Timestamp

def natOf (ds : List Char) : Nat :=
  ds.foldl (fun n d => n * 10 + (d.toNat - 0x30)) 0

/-! ## Reading -/

/-- Between `least` and `most` digits. -/
def digits? (least most : Nat) (cs : List Char) : Option (List Char × List Char) :=
  let ds := (cs.take most).takeWhile Char.isDigit
  if ds.length < least then none else some (ds, cs.drop ds.length)

def char? (c : Char) : List Char → Option (List Char)
  | [] => none
  | d :: rest => if d == c then some rest else none

def isInlineGap (c : Char) : Bool := c == ' ' || c == '\t'

/-- What separates the date from the time. -/
def timeMark? (cs : List Char) : Option (List Char) :=
  match cs with
  | 'T' :: rest | 't' :: rest => some rest
  | c :: _ => if isInlineGap c then some (cs.dropWhile isInlineGap) else none
  | [] => none

/-- The end of the text, where one line feed may stand. -/
def atEnd : List Char → Bool
  | [] | ['\n'] => true
  | _ => false

def readZone? (cs : List Char) : Option (Option (Option (Char × List Char × List Char))) :=
  if atEnd cs then some none
  else match cs.dropWhile isInlineGap with
    | 'Z' :: rest => if atEnd rest then some (some none) else none
    | sign :: rest =>
      if sign == '-' || sign == '+' then do
        let (hour, rest) ← digits? 1 2 rest
        if atEnd rest then return some (some (sign, hour, []))
        let (minute, rest) ← digits? 2 2 (← char? ':' rest)
        if atEnd rest then return some (some (sign, hour, minute)) else none
      else none
    | [] => none

def fraction (cs : List Char) : List Char × List Char :=
  match cs with
  | '.' :: rest =>
    let ds := rest.takeWhile Char.isDigit
    (ds, rest.drop ds.length)
  | _ => ([], cs)

def read? (cs : List Char) : Option Timestamp := do
  let (year, rest) ← digits? 4 4 cs
  let (month, rest) ← digits? 1 2 (← char? '-' rest)
  let (day, rest) ← digits? 1 2 (← char? '-' rest)
  if atEnd rest then return { year, month, day, time? := none, zone? := none }
  let (hour, rest) ← digits? 1 2 (← timeMark? rest)
  let (minute, rest) ← digits? 2 2 (← char? ':' rest)
  let (second, rest) ← digits? 2 2 (← char? ':' rest)
  let (fraction, rest) := fraction rest
  let zone? ← readZone? rest
  return { year, month, day, time? := some (hour, minute, second, fraction), zone? }

/-- A plain text is taken for a timestamp if it has a time, or all ten characters of a date. -/
def isImplied (cs : List Char) : Bool :=
  match read? cs with
  | some t => t.time?.isSome || (t.month.length == 2 && t.day.length == 2)
  | none => false

/-! ## The calendar -/

def isLeap (year : Nat) : Bool :=
  year % 4 == 0 && (year % 100 != 0 || year % 400 == 0)

def daysIn (year month : Nat) : Nat :=
  if month == 2 then (if isLeap year then 29 else 28)
  else if [4, 6, 9, 11].contains month then 30 else 31

def checkDate (year month day : Nat) : Except Fault Unit :=
  if year == 0 then .error (.value s!"year {year} is out of range")
  else if month < 1 || 12 < month then .error (.value "month must be in 1..12")
  else if day < 1 || daysIn year month < day then .error (.value "day is out of range for month")
  else .ok ()

def checkTime (hour minute second : Nat) : Except Fault Unit :=
  if 23 < hour then .error (.value "hour must be in 0..23")
  else if 59 < minute then .error (.value "minute must be in 0..59")
  else if 59 < second then .error (.value "second must be in 0..59")
  else .ok ()

/-! ## Literals -/

/-- A span of seconds as whole days and a rest that is not negative. -/
def spanLiteral (seconds : Int) : String :=
  let days := seconds / 86400
  let rest := seconds % 86400
  let parts := (if days == 0 then [] else [s!"days={days}"])
    ++ (if rest == 0 then [] else [s!"seconds={rest}"])
  let shown := if parts.isEmpty then "0" else ", ".intercalate parts
  s!"datetime.timedelta({shown})"

def zoneLiteral : Option (Char × List Char × List Char) → Except Fault String
  | none => .ok "datetime.timezone.utc"
  | some (sign, hour, minute) =>
    let magnitude := natOf hour * 3600 + natOf minute * 60
    let seconds : Int := if sign == '-' then -(magnitude : Int) else magnitude
    if magnitude ≥ 86400 then
      let span := spanLiteral seconds
      .error (.value ("offset must be a timedelta strictly between -timedelta(hours=24) and "
        ++ s!"timedelta(hours=24), not {span}."))
    else if seconds == 0 then .ok "datetime.timezone.utc"
    else .ok s!"datetime.timezone({spanLiteral seconds})"

/-- The timestamp as a literal, seconds and their fraction only where they count. -/
def literal (t : Timestamp) : Except Fault String := do
  let year := natOf t.year
  let month := natOf t.month
  let day := natOf t.day
  match t.time? with
  | none => do
    checkDate year month day
    return s!"datetime.date({year}, {month}, {day})"
  | some (hour, minute, second, fraction) => do
    let zone ← match t.zone? with
      | none => pure none
      | some z => (zoneLiteral z).map some
    let hour := natOf hour
    let minute := natOf minute
    let second := natOf second
    let micro := natOf ((fraction ++ List.replicate 6 '0').take 6)
    checkDate year month day
    checkTime hour minute second
    let parts := [year, month, day, hour, minute]
      ++ (if micro != 0 then [second, micro] else if second != 0 then [second] else [])
    let zone := match zone with
      | none => ""
      | some z => s!", tzinfo={z}"
    let shown := ", ".intercalate (parts.map toString)
    return s!"datetime.datetime({shown}{zone})"

end Timestamp

end UiTree.Yaml
