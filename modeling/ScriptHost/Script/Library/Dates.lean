import ScriptHost.Script.Library.Functions

/-!
# Dates

A date is a number of milliseconds since the start of 1970, or none.  Local time is universal time,
and the clock of the engine stands still at zero.
-/

namespace ScriptHost.Script.Library

open Eval

variable {σ : Type}

/-- The parts of a date in the calendar, from the year to the millisecond. -/
structure CalendarDate where
  year : Int
  /-- The month, from zero. -/
  month : Int
  day : Int
  hour : Int
  minute : Int
  second : Int
  millisecond : Int

namespace CalendarDate

/-- The number of days from the start of 1970 to a day of the calendar. -/
def daysFrom (year month day : Int) : Int :=
  let y := year + Int.fdiv month 12
  let m := Int.fmod month 12 + 1
  let y := if m ≤ 2 then y - 1 else y
  let era := Int.fdiv y 400
  let yearOfEra := y - era * 400
  let shifted := if m > 2 then m - 3 else m + 9
  let dayOfYear := Int.fdiv (153 * shifted + 2) 5
  let dayOfEra := yearOfEra * 365 + Int.fdiv yearOfEra 4 - Int.fdiv yearOfEra 100 + dayOfYear
  era * 146097 + dayOfEra - 719468 + (day - 1)

/-- The milliseconds of a date. -/
def toTime (d : CalendarDate) : Int :=
  ((daysFrom d.year d.month d.day * 24 + d.hour) * 60 + d.minute) * 60000
    + d.second * 1000 + d.millisecond

/-- The date of a number of milliseconds. -/
def ofTime (t : Int) : CalendarDate :=
  let days := Int.fdiv t 86400000
  let left := Int.fmod t 86400000
  let z := days + 719468
  let era := Int.fdiv z 146097
  let dayOfEra := z - era * 146097
  let yearOfEra :=
    Int.fdiv (dayOfEra - Int.fdiv dayOfEra 1460 + Int.fdiv dayOfEra 36524
      - Int.fdiv dayOfEra 146096) 365
  let dayOfYear := dayOfEra - (365 * yearOfEra + Int.fdiv yearOfEra 4 - Int.fdiv yearOfEra 100)
  let shifted := Int.fdiv (5 * dayOfYear + 2) 153
  let day := dayOfYear - Int.fdiv (153 * shifted + 2) 5 + 1
  let month := if shifted < 10 then shifted + 2 else shifted - 10
  let year := yearOfEra + era * 400 + (if month ≤ 1 then 1 else 0)
  { year, month, day, hour := Int.fdiv left 3600000, minute := Int.fmod (Int.fdiv left 60000) 60,
    second := Int.fmod (Int.fdiv left 1000) 60, millisecond := Int.fmod left 1000 }

/-- The day of the week of a number of milliseconds, from Sunday. -/
def weekday (t : Int) : Nat := (Int.fmod (Int.fdiv t 86400000 + 4) 7).toNat

/-- The parts of a date in order. -/
def parts (d : CalendarDate) : List Int :=
  [d.year, d.month, d.day, d.hour, d.minute, d.second, d.millisecond]

/-- The date of parts in order. -/
def ofParts (ps : List Int) : CalendarDate :=
  { year := ps.getD 0 1970, month := ps.getD 1 0, day := ps.getD 2 1, hour := ps.getD 3 0,
    minute := ps.getD 4 0, second := ps.getD 5 0, millisecond := ps.getD 6 0 }

end CalendarDate

/-- A number of milliseconds within the range of dates. -/
def clipTime (t : Int) : Float :=
  if t.natAbs ≤ 8640000000000000 then Binary.ofInt t else Binary.nan

/-- A natural number with at least so many digits. -/
def padded (width : Nat) (n : Int) : String :=
  let digits := Nat.repr n.natAbs
  let fill := String.ofList (List.replicate (width - digits.length) '0')
  (if n < 0 then "-" else "") ++ fill ++ digits

/-- The names of the days of the week. -/
def dayNames : List String := ["Sun", "Mon", "Tue", "Wed", "Thu", "Fri", "Sat"]

/-- The names of the months. -/
def monthNames : List String :=
  ["Jan", "Feb", "Mar", "Apr", "May", "Jun", "Jul", "Aug", "Sep", "Oct", "Nov", "Dec"]

/-- A date in the standard format. -/
def isoText (t : Int) : String :=
  let d := CalendarDate.ofTime t
  let year :=
    if 0 ≤ d.year && d.year ≤ 9999 then padded 4 d.year
    else (if d.year < 0 then "-" else "+") ++ padded 6 d.year.natAbs
  year ++ "-" ++ padded 2 (d.month + 1) ++ "-" ++ padded 2 d.day ++ "T" ++ padded 2 d.hour ++ ":"
    ++ padded 2 d.minute ++ ":" ++ padded 2 d.second ++ "." ++ padded 3 d.millisecond ++ "Z"

/-- The day of a date for people. -/
def dayText (t : Int) : String :=
  let d := CalendarDate.ofTime t
  dayNames.getD (CalendarDate.weekday t) "" ++ " " ++ monthNames.getD d.month.toNat "" ++ " "
    ++ padded 2 d.day ++ " " ++ padded 4 d.year

/-- The hour, minute and second of a date. -/
def clockText (t : Int) : String :=
  let d := CalendarDate.ofTime t
  padded 2 d.hour ++ ":" ++ padded 2 d.minute ++ ":" ++ padded 2 d.second

/-- The day of a date in numbers. -/
def shortDayText (t : Int) : String :=
  let d := CalendarDate.ofTime t
  padded 2 (d.month + 1) ++ "/" ++ padded 2 d.day ++ "/" ++ padded 4 d.year

/-- The time of a day by the half day. -/
def halfDayText (t : Int) : String :=
  let d := CalendarDate.ofTime t
  let hour := if Int.fmod d.hour 12 = 0 then 12 else Int.fmod d.hour 12
  padded 2 hour ++ ":" ++ padded 2 d.minute ++ ":" ++ padded 2 d.second
    ++ (if d.hour < 12 then " AM" else " PM")

/-- A date in universal time for people. -/
def universalText (t : Int) : String :=
  let d := CalendarDate.ofTime t
  dayNames.getD (CalendarDate.weekday t) "" ++ ", " ++ padded 2 d.day ++ " "
    ++ monthNames.getD d.month.toNat "" ++ " " ++ padded 4 d.year ++ " " ++ clockText t ++ " GMT"

/-- Reads `width` digits. -/
def readNumberOf (width : Nat) (cs : List Char) : Option (Int × List Char) :=
  let digits := cs.take width
  if digits.length = width && digits.all Char.isDigit then
    some (Decimal.digitsValue digits, cs.drop width)
  else none

/-- Reads a further part of a date after its mark, if it is there. -/
def readPart (mark : Char) (width : Nat) (absent : Int) (cs : List Char) : Int × List Char :=
  match cs with
  | c :: rest =>
    if c == mark then (readNumberOf width rest).getD (absent, cs) else (absent, cs)
  | [] => (absent, cs)

/-- The milliseconds of a date in the standard format. -/
def parseDate? (s : String) : Option Int := do
  let cs := s.toList
  let (year, cs) ←
    match cs with
    | '+' :: rest => readNumberOf 6 rest
    | '-' :: rest => (readNumberOf 6 rest).map fun (n, r) => (-n, r)
    | _ => readNumberOf 4 cs
  let (month, cs) := readPart '-' 2 1 cs
  let (day, cs) := readPart '-' 2 1 cs
  let cs := match cs with
    | ' ' :: rest => 'T' :: rest
    | cs => cs
  let (hour, cs) := readPart 'T' 2 0 cs
  let (minute, cs) := readPart ':' 2 0 cs
  let (second, cs) := readPart ':' 2 0 cs
  let (millisecond, cs) := readPart '.' 3 0 cs
  let offset : Option Int :=
    match cs with
    | [] | ['Z'] => some 0
    | sign :: rest =>
      if sign == '+' || sign == '-' then
        match readNumberOf 2 rest with
        | some (h, rest) =>
          let rest := if rest.head? == some ':' then rest.drop 1 else rest
          match readNumberOf 2 rest with
          | some (m, []) => some (if sign == '+' then h * 60 + m else -(h * 60 + m))
          | _ => none
        | none => none
      else none
  let offset ← offset
  if month < 1 || 12 < month || day < 1 || 31 < day || 24 < hour || 59 < minute || 59 < second then
    none
  else
    some (CalendarDate.toTime
      { year, month := month - 1, day, hour, minute := minute - offset, second, millisecond })

/-- The time of a date that a receiver is. -/
def heldTime (this_ : Value) : Eval σ (Ref × Float) := do
  match this_ with
  | .object r =>
    match (← object r).kind with
    | .date t => return (r, t)
    | _ => typeFault "not a Date object"
  | _ => typeFault "not a Date object"

/-- The parts that arguments give, or nothing if one of them is no number. -/
def partArguments (I : Interp σ) (args : List Value) : Eval σ (Option (List Int)) := do
  let xs ← args.mapM (toDouble I)
  return xs.mapM Binary.truncate?

/-- The time that parts from the year on denote; a year of two digits is of the last century. -/
def timeOfParts (ps : Option (List Int)) : Float :=
  match ps with
  | none => Binary.nan
  | some ps =>
    let year := ps.getD 0 1970
    let year := if 0 ≤ year && year ≤ 99 then year + 1900 else year
    clipTime (CalendarDate.ofParts (year :: ps.drop 1)).toTime

/-- The text of a time in a form, or that it is no date. -/
def timeText (form : Int → String) (x : Float) : Value :=
  match Binary.toInt? x with
  | some t => .ofString (form t)
  | none => .ofString "Invalid Date"

/-- The full text of a time. -/
def fullText (t : Int) : String := dayText t ++ " " ++ clockText t ++ " GMT+0000"

/-- Functions and methods of dates. -/
def dateFunction (I : Interp σ) (f : DateFunction) (this_ : Value) (args : Array Value) :
    Eval σ Value := do
  match f with
  | .now => return .int 0
  | .parse =>
    let t ← toText I (arg args 0)
    match (Text.toString? t.toText).bind parseDate? with
    | some ms => return Value.ofFloat (clipTime ms)
    | none => return .float Binary.nan
  | .utc => return Value.ofFloat (timeOfParts (← partArguments I args.toList))
  | .toJSON =>
    let r ← toObject this_
    match ← toPrimitive I (.object r) .number with
    | .float x => if x.isNaN || x.isInf then return .null
    | _ => pure ()
    invoke I (.object r) "toISOString" #[]
  | .toPrimitive =>
    let r ← needObject this_
    match arg args 0 with
    | .string h =>
      if h == Utf16.ofString "number" || h == Utf16.ofString "integer" then
        ordinaryPrimitive I (.object r) .number
      else if h == Utf16.ofString "string" || h == Utf16.ofString "default" then
        ordinaryPrimitive I (.object r) .string
      else typeFault "invalid hint"
    | _ => typeFault "invalid hint"
  | _ =>
    let (r, x) ← heldTime this_
    match f with
    | .valueOf | .getTime => return Value.ofFloat x
    | .toString => return timeText fullText x
    | .toUTCString => return timeText universalText x
    | .toISOString =>
      if (Binary.toInt? x).isNone then fail "RangeError" "Date value is NaN"
      return timeText isoText x
    | .toDateString => return timeText dayText x
    | .toTimeString => return timeText (fun t => clockText t ++ " GMT+0000") x
    | .toLocaleString => return timeText (fun t => shortDayText t ++ ", " ++ halfDayText t) x
    | .toLocaleDateString => return timeText shortDayText x
    | .toLocaleTimeString => return timeText halfDayText x
    | .getTimezoneOffset => return if x.isNaN then .float x else .int 0
    | .setTime =>
      let ms ← toDouble I (arg args 0)
      let t := ((Binary.truncate? ms).map clipTime).getD Binary.nan
      setKind r (.date t)
      return Value.ofFloat t
    | .getPart part _ =>
      match Binary.toInt? x with
      | none => return .float Binary.nan
      | some t =>
        if part = 7 then return Value.ofNat (CalendarDate.weekday t)
        return Value.ofInt ((CalendarDate.ofTime t).parts.getD part 0)
    | .setPart part _ =>
      let given ← partArguments I args.toList
      let t := Binary.toInt? x
      let base : Option Int := if part = 0 then some (t.getD 0) else t
      let result :=
        match base, given with
        | some t, some ps =>
          if ps.isEmpty then Binary.nan
          else
            let old := (CalendarDate.ofTime t).parts
            let reach := if part < 3 then 3 else 7
            let ps := ps.take (reach - part)
            clipTime (CalendarDate.ofParts
              (old.take part ++ ps ++ old.drop (part + ps.length))).toTime
        | _, _ => Binary.nan
      setKind r (.date result)
      return Value.ofFloat result
    | _ => return .undefined

/-- What the constructor of dates makes; called as a function it shows the time of its clock. -/
def makeDate (I : Interp σ) (newTarget : Option Ref) (args : Array Value) : Eval σ Value := do
  match newTarget with
  | none => return .ofString (fullText 0)
  | some _ =>
    let x : Float ←
      match args.toList with
      | [] => pure 0.0
      | [v] => do
        let held ←
          match v with
          | .object r =>
            match (← object r).kind with
            | .date t => pure (some t)
            | _ => pure none
          | _ => pure none
        match held with
        | some t => pure t
        | none =>
          match ← toPrimitive I v .any with
          | .string s =>
            pure ((((Text.toString? s.toText).bind parseDate?).map clipTime).getD Binary.nan)
          | p => do
            let ms ← toDouble I p
            pure (((Binary.truncate? ms).map clipTime).getD Binary.nan)
      | many => do pure (timeOfParts (← partArguments I many))
    let p ← instancePrototype I newTarget .datePrototype
    return .object (← allocate (.bare (.date x) (some p)))

end ScriptHost.Script.Library
