import AccountSecurity.Time.Timestamp

/-!
# Reading timestamps

`DateTime.read` tells the point in time of a text, or what is wrong with the text (`TimestampProblem`). It reads
the forms that `timestamp` writes and many more of the same standard: dates of the calendar and of the week
calendar, with or without hyphens; any character between date and time; times with or without colons, cut after
the hour or the minute, or with a fraction of any length behind any part; offsets of the same shape, a `Z`, or
none at all, which means universal time.

Positions count UTF-8 bytes, so that a wide separator takes several of them (`units`). What is read
past the end of the text counts as a null character, and so does a null character as an end.
-/

namespace AccountSecurity

/-- What is wrong with a text as a timestamp. -/
inductive TimestampProblem where
  /-- It does not have the form of one. -/
  | form (text : String)
  | year (year : Nat)
  | month
  | day
  | hour
  | minute
  | second
  /-- The offset, in microseconds, reaches a day. -/
  | offset (micros : Int)
deriving DecidableEq, Repr

namespace DateTime

/-- The characters of a text, each as often as it has bytes. -/
def units (s : List Char) : List Char :=
  s.flatMap fun c => if c.toNat < 0x80 then [c] else List.replicate c.utf8Size c

/-- The end of a text, or a null character in it. -/
def isEnd (u : List Char) : Bool := u.headD '\x00' == '\x00'

/-- The number that the first `count` characters write, if all are ASCII digits. -/
def leadingNumber? (count : Nat) (u : List Char) : Option Nat :=
  let digits := u.take count
  if digits.length = count ∧ digits.all Char.isDigit then
    some (Text.ofDigits (digits.map fun c => c.toNat - '0'.toNat))
  else none

/-! ## The date -/

/-- Where the date ends and the separator stands. The week calendar leaves two readings open: a
separator that is a hyphen after the week wins over one that is a digit after the weekday, and without
hyphens an odd number of digits after the week includes the weekday. -/
def separatorPosition? (u : List Char) : Option Nat :=
  let hyphenAt i := u[i]? == some '-'
  let weekAt i := u[i]? == some 'W'
  let digitAt i := (u[i]?).any Char.isDigit
  if u.length = 7 then some 7
  else if hyphenAt 4 then
    if weekAt 5 then
      if hyphenAt 8 then
        if u.length = 9 then none else if digitAt 10 then some 8 else some 10
      else some 8
    else some 10
  else if weekAt 4 then
    let digitsEnd := 7 + ((u.drop 7).takeWhile Char.isDigit).length
    if digitsEnd < 9 then some digitsEnd else if digitsEnd % 2 = 0 then some 7 else some 8
  else some 8

/-- Skips a hyphen, if one is called for. -/
def skipHyphen? (wanted : Bool) (u : List Char) : Option (List Char) :=
  if !wanted then some u
  else match u with
    | '-' :: rest => some rest
    | _ => none

/-- A date as it is written. -/
inductive DateReading where
  | calendar (year month day : Nat)
  | week (year number weekday : Nat)

/-- Reads a date that ends at the position of the separator. -/
def readDate? (u : List Char) (stop : Nat) : Option DateReading := do
  let year ← leadingNumber? 4 u
  let hyphens := u[4]? == some '-'
  let rest := u.drop (if hyphens then 5 else 4)
  match rest with
  | 'W' :: rest =>
    let week ← leadingNumber? 2 rest
    let weekEnd := if hyphens then 8 else 7
    let weekday ←
      if weekEnd < stop then skipHyphen? hyphens (rest.drop 2) >>= leadingNumber? 1 else some 1
    if Date.isWeekday year week weekday then return .week year week weekday else none
  | rest =>
    let month ← leadingNumber? 2 rest
    let day ← skipHyphen? hyphens (rest.drop 2) >>= leadingNumber? 2
    return .calendar year month day

/-- The date that is meant. Of year 0 the week calendar knows nothing, and the last week of the last year runs on
into the next. -/
def DateReading.date : DateReading → Except TimestampProblem Date
  | calendar year month day =>
    if year = 0 then .error (.year year)
    else match (Date.monthLengths year)[month - 1]? with
      | some length =>
        if month = 0 then .error .month
        else if 1 ≤ day ∧ day ≤ length then .ok ⟨year, month, day⟩
        else .error .day
      | none => .error .month
  | week year number weekday =>
    if year = 0 then .error .month
    else match Date.ofWeek? year number weekday with
      | some date => .ok date
      | none => .error (.year (year + 1))

/-! ## The time of day and the offset -/

/-- What follows the hours, minutes and seconds. -/
inductive AfterFields where
  /-- Nothing that is read; the flag tells whether anything is left over. -/
  | nothing (leftOver : Bool)
  /-- A fraction, which starts here and has this much room. -/
  | fraction (u : List Char) (room : Nat)

/-- Reads up to `fields` numbers of two digits within `room` characters. Whether there are colons
between them is settled behind the first. -/
def readFields? : (fields : Nat) → (colons : Option Bool) → List Char → (room : Nat) →
    Option (List Nat × AfterFields)
  | 0, _, u, room => some ([], .fraction u room)
  | fields + 1, colons, u, room => do
    let value ← leadingNumber? 2 u
    let next := (u.drop 2).headD '\x00'
    let colons := colons.getD (next == ':')
    if room ≤ 3 then return ([value], .nothing (next != '\x00'))
    else if colons && next == ':' then
      let (values, after) ← readFields? fields (some colons) (u.drop 3) (room - 3)
      return (value :: values, after)
    else if next == '.' || next == ',' then
      return ([value], .fraction (u.drop 3) (room - 3))
    else if colons then none
    else
      let (values, after) ← readFields? fields (some colons) (u.drop 2) (room - 2)
      return (value :: values, after)

/-- A time of day or the size of an offset, as it is written. -/
structure ClockReading where
  hours : Nat
  minutes : Nat
  seconds : Nat
  micros : Nat
  leftOver : Bool

/-- The length of time that a reading stands for, in microseconds. -/
def ClockReading.total (r : ClockReading) : Nat :=
  r.hours * perHour + r.minutes * perMinute + r.seconds * perSecond + r.micros

/-- The reading, if it is a time of day. -/
def ClockReading.timeOfDay (r : ClockReading) : Except TimestampProblem Nat :=
  if 24 ≤ r.hours then .error .hour
  else if 60 ≤ r.minutes then .error .minute
  else if 60 ≤ r.seconds then .error .second
  else .ok r.total

/-- Reads hours, minutes, seconds and a fraction within `room` characters. Six digits of the fraction
count; the others are passed over. -/
def readClock? (u : List Char) (room : Nat) : Option ClockReading := do
  let (values, after) ← readFields? 3 none u room
  let reading := ClockReading.mk (values.getD 0 0) (values.getD 1 0) (values.getD 2 0)
  match after with
  | .nothing leftOver => return reading 0 leftOver
  | .fraction u room =>
    let count := min 6 room
    let value ← leadingNumber? count u
    let rest := (u.drop count).dropWhile Char.isDigit
    return reading (value * Nat.pow 10 (6 - count)) (!isEnd rest)

/-- Reads a time of day and an offset in microseconds. An offset of less than a second is none. -/
def readTime? (u : List Char) : Option (ClockReading × Int) := do
  let isOffset c := c == '+' || c == '-' || c == 'Z'
  let time := u.takeWhile fun c => !isOffset c
  let clock ← readClock? u time.length
  match u.drop time.length with
  | [] => if clock.leftOver then none else return (clock, 0)
  | 'Z' :: rest => if isEnd rest then return (clock, 0) else none
  | sign :: rest =>
    let offset ← readClock? rest rest.length
    if offset.leftOver then none
    else
      let size := if offset.total < perSecond then 0 else offset.total
      return (clock, if sign = '-' then -(size : Int) else size)

/-- A timestamp as it is written; a text that ends with the date means midnight. -/
structure Reading where
  date : DateReading
  clock : ClockReading
  offset : Int

/-- Reads the parts of a timestamp; without an offset it is taken as universal time. -/
def readParts? (u : List Char) : Option Reading := do
  if u.length < 7 then none
  else
    let stop ← separatorPosition? u
    let date ← readDate? u stop
    let rest := u.drop stop
    if rest.isEmpty then return ⟨date, ⟨0, 0, 0, 0, false⟩, 0⟩
    else
      let (clock, offset) ← readTime? (rest.drop ((rest.headD '\x00').utf8Size))
      return ⟨date, clock, offset⟩

/-- The point in time that is meant: the offset is checked first, then the date, then the time of day. -/
def Reading.dateTime (r : Reading) : Except TimestampProblem DateTime := do
  if (perDay : Int) ≤ r.offset ∨ r.offset ≤ -(perDay : Int) then .error (.offset r.offset)
  else
    let date ← r.date.date
    let time ← r.clock.timeOfDay
    match of? (date.ordinal * perDay + time : Nat) r.offset with
    | some t => return t
    | none => .error (.year date.year)

/-- Reads a timestamp. -/
def read (s : String) : Except TimestampProblem DateTime :=
  match readParts? (units s.toList) with
  | some r => r.dateTime
  | none => .error (.form s)

end DateTime

end AccountSecurity
