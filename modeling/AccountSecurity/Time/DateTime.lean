import AccountSecurity.Time.Calendar

/-!
# Points in time with an offset

* `DateTime` : what the clock on the wall shows, in years 1 to 9999 to the microsecond, and the offset
  of that clock from universal time, less than a day;
* `instant` : the point in time, by which two values are compared, whatever their offsets;
* `addMicros?` : moving the clock, which fails outside the years 1 to 9999;
* `WallTime` : what a clock shows, without the offset.
-/

namespace AccountSecurity

namespace DateTime

/-- Microseconds in a second. -/
def perSecond : Nat := 1000000

/-- Microseconds in a minute. -/
def perMinute : Nat := 60 * perSecond

/-- Microseconds in an hour. -/
def perHour : Nat := 60 * perMinute

/-- Microseconds in a day. -/
def perDay : Nat := 24 * perHour

/-- The microseconds of the years 1 to 9999. -/
def wallEnd : Nat := Date.dayCount * perDay

end DateTime

/-- The reading of a clock and the clock's offset from universal time, both in microseconds. The
reading counts from the beginning of year 1. -/
structure DateTime where
  wall : Nat
  offset : Int
  wall_lt : wall < DateTime.wallEnd
  lt_offset : -(DateTime.perDay : Int) < offset
  offset_lt : offset < DateTime.perDay
deriving DecidableEq

namespace DateTime

theorem neg_perDay_neg : -(perDay : Int) < 0 := by decide

theorem perDay_pos : (0 : Int) < perDay := by decide

/-- The reading and the offset, if both are in range. -/
def of? (wall offset : Int) : Option DateTime :=
  if h : (0 ≤ wall ∧ wall < wallEnd) ∧ -(perDay : Int) < offset ∧ offset < perDay then
    some ⟨wall.toNat, offset, by omega, h.2.1, h.2.2⟩
  else none

/-- The point in time that is shown, in microseconds of universal time. -/
def instant (t : DateTime) : Int := t.wall - t.offset

/-- The two values show the same point in time. -/
def sameInstant (t u : DateTime) : Bool := t.instant == u.instant

/-- `t` lies before `u`. -/
def before (t u : DateTime) : Bool := t.instant < u.instant

/-- The clock moved by some microseconds, its offset kept. -/
def addMicros? (t : DateTime) (micros : Int) : Option DateTime := of? (t.wall + micros) t.offset

def addSeconds? (t : DateTime) (seconds : Int) : Option DateTime := t.addMicros? (seconds * perSecond)

def addMinutes? (t : DateTime) (minutes : Int) : Option DateTime := t.addMicros? (minutes * perMinute)

/-- The same point in time on a clock of universal time. -/
def toUtc? (t : DateTime) : Option DateTime := of? t.instant 0

/-- The clock reads midnight on the first day of 1970 in universal time. -/
def epoch : DateTime :=
  ⟨Date.daysBeforeYear 1970 * perDay, 0, by decide, neg_perDay_neg, perDay_pos⟩

/-- The date that the clock shows. -/
def date (t : DateTime) : Date := Date.ofOrdinal (t.wall / perDay)

/-- The time of day that the clock shows, in microseconds. -/
def timeOfDay (t : DateTime) : Nat := t.wall % perDay

end DateTime

/-- A clock reading without an offset. -/
structure WallTime where
  wall : Fin DateTime.wallEnd
deriving DecidableEq

namespace WallTime

/-- The reading of a clock; its offset is lost. -/
def of (t : DateTime) : WallTime := ⟨⟨t.wall, t.wall_lt⟩⟩

/-- The reading, taken as universal time. -/
def utc (r : WallTime) : DateTime :=
  ⟨r.wall, 0, r.wall.isLt, DateTime.neg_perDay_neg, DateTime.perDay_pos⟩

end WallTime

end AccountSecurity
