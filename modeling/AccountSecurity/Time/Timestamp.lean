import AccountSecurity.Text.Integer
import AccountSecurity.Time.DateTime

/-!
# Written timestamps

`timestamp` writes a point in time as `YYYY-MM-DDTHH:MM:SS+HH:MM`. A fraction of six digits follows the
seconds when it is not zero, and the offset has seconds, and then a fraction, only when it needs them.
-/

namespace AccountSecurity.DateTime
open AccountSecurity.Text (padded)

/-- A date as `YYYY-MM-DD`. -/
def dateText (d : Date) : List Char :=
  padded 4 d.year ++ '-' :: padded 2 d.month ++ '-' :: padded 2 d.day

/-- The seconds of a length of time as `:SS`, with six decimals if they are not whole. -/
def secondsText (micros : Nat) : List Char :=
  ':' :: padded 2 (micros / perSecond % 60) ++
    if micros % perSecond = 0 then [] else '.' :: padded 6 (micros % perSecond)

/-- Hours and minutes as `HH:MM`. -/
def hoursMinutes (micros : Nat) : List Char :=
  padded 2 (micros / perHour) ++ ':' :: padded 2 (micros / perMinute % 60)

/-- An offset, its seconds left out when they are zero. -/
def offsetText (offset : Int) : List Char :=
  (if offset < 0 then '-' else '+') :: hoursMinutes offset.natAbs ++
    if offset.natAbs % perMinute = 0 then [] else secondsText offset.natAbs

/-- The characters of a written timestamp. -/
def timestampChars (t : DateTime) : List Char :=
  dateText t.date ++ 'T' :: hoursMinutes t.timeOfDay ++ secondsText t.timeOfDay ++ offsetText t.offset

/-- The written form of a point in time. -/
def timestamp (t : DateTime) : String := String.ofList t.timestampChars

end AccountSecurity.DateTime
