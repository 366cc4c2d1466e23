import AccountSecurity.Proofs.Text.Integer
import AccountSecurity.Proofs.Time.Calendar
import AccountSecurity.Time.TimestampReader
import Mathlib.Data.List.TakeWhile

/-!
# Written timestamps are read again

* `leadingNumber?_padded` : a number of fixed width is read again;
* `readDate?_dateText`, `readClock?_secondsText`, `readTime?_offsetText` : so are the date, a time of day and the
  offset;
* `read_timestamp` : and the whole timestamp, unless its offset is a fraction of a second (`IsReadableOffset`);
* `offset_of_read` : what is read from any text has such an offset, and none if the text names none.
-/

namespace AccountSecurity

theorem ok_bind {ε α β : Type} (a : α) (f : α → Except ε β) : (Except.ok a >>= f) = f a := rfl

theorem bind_eq_ok_iff {ε α β : Type} {x : Except ε α} {f : α → Except ε β} {b : β} :
    (x >>= f) = .ok b ↔ ∃ a, x = .ok a ∧ f a = .ok b := by
  cases x with
  | error e => exact ⟨nofun, fun ⟨_, hx, _⟩ => nomatch hx⟩
  | ok a => simp [ok_bind]

namespace DateTime
open AccountSecurity.Text (padded)

/-! ## Characters -/

theorem units_of_ascii {s : List Char} (h : ∀ c ∈ s, c.toNat < 0x80) : units s = s := by
  induction s with
  | nil => rfl
  | cons c rest ih =>
    rw [units, List.flatMap_cons, if_pos (h c (List.mem_cons_self ..)), ← units,
      ih fun x hx => h x (List.mem_cons_of_mem _ hx)]
    rfl

/-- A character of a length of time that is written out. -/
def IsClockChar (c : Char) : Prop := c.isDigit ∨ c = ':' ∨ c = '.'

theorem isClockChar_of_mem_hoursMinutes {micros : Nat} {c : Char} (h : c ∈ hoursMinutes micros) : IsClockChar c := by
  obtain h | h := List.mem_append.1 h
  · exact .inl (Text.isDigit_of_mem_padded h)
  · obtain rfl | h := List.mem_cons.1 h
    · exact .inr (.inl rfl)
    · exact .inl (Text.isDigit_of_mem_padded h)

theorem isClockChar_of_mem_secondsText {micros : Nat} {c : Char} (h : c ∈ secondsText micros) : IsClockChar c := by
  obtain rfl | h := List.mem_cons.1 h
  · exact .inr (.inl rfl)
  · obtain h | h := List.mem_append.1 h
    · exact .inl (Text.isDigit_of_mem_padded h)
    · split at h
      · cases h
      · obtain rfl | h := List.mem_cons.1 h
        · exact .inr (.inr rfl)
        · exact .inl (Text.isDigit_of_mem_padded h)

/-! ## Numbers -/

section Number
variable {width n : Nat} (hw : 0 < width) (h : n < 10 ^ width) (rest : List Char)
include hw h

/-- A number that is written with a fixed width is read again. -/
theorem leadingNumber?_padded : leadingNumber? width (padded width n ++ rest) = some n := by
  obtain ⟨ds, hds, hlen, hlt, hval⟩ := Text.exists_paddedDigits hw h
  have htake : (padded width n ++ rest).take width = ds.map Nat.digitChar := by
    rw [hds, List.take_left' (by rw [List.length_map, hlen])]
  have hdigits : (ds.map Nat.digitChar).all Char.isDigit := by
    simpa [Nat.isDigit_digitChar] using hlt
  unfold leadingNumber?
  rw [htake]
  dsimp only
  rw [if_pos ⟨by rw [List.length_map, hlen], hdigits⟩, Text.values_digits hlt, hval]

theorem drop_padded (k : Nat) : (padded width n ++ rest).drop (width + k) = rest.drop k := by
  have hlen := Text.length_padded hw h
  rw [List.drop_append, List.drop_eq_nil_of_le (by omega), hlen, Nat.add_sub_cancel_left, List.nil_append]

theorem getElem?_padded (k : Nat) : (padded width n ++ rest)[width + k]? = rest[k]? := by
  rw [List.getElem?_append_right (by rw [Text.length_padded hw h]; exact Nat.le_add_right ..),
    Text.length_padded hw h, Nat.add_sub_cancel_left]

theorem exists_cons_padded : ∃ c cs, padded width n = c :: cs ∧ c.isDigit := by
  cases hp : padded width n with
  | nil =>
    have := Text.length_padded hw h
    rw [hp] at this
    exact absurd this (Nat.ne_of_lt hw)
  | cons c cs => exact ⟨c, cs, rfl, Text.isDigit_of_mem_padded (hp ▸ List.mem_cons_self ..)⟩

end Number

/-! ## The date -/

theorem dateText_append (d : Date) (rest : List Char) :
    dateText d ++ rest = padded 4 d.year ++ '-' :: (padded 2 d.month ++ '-' :: (padded 2 d.day ++ rest)) := by
  simp [dateText]

section Date
variable {d : Date} (hy : d.year < 10 ^ 4) (hm : d.month < 10 ^ 2) (hd : d.day < 10 ^ 2) (rest : List Char)
include hy

theorem getElem?_dateText_four : (dateText d ++ rest)[4]? = some '-' := by
  rw [dateText_append]
  exact getElem?_padded (by decide) hy _ 0

include hm

/-- The separator is looked for behind the date. -/
theorem separatorPosition?_dateText (hlong : 10 ≤ (dateText d ++ rest).length) :
    separatorPosition? (dateText d ++ rest) = some 10 := by
  obtain ⟨c, cs, hc, hdigit⟩ := exists_cons_padded (by decide) hm
  have hW : c ≠ 'W' := fun he => by
    rw [he] at hdigit
    exact absurd hdigit (by decide)
  have hfive : (dateText d ++ rest)[5]? = some c := by
    rw [dateText_append, hc]
    exact getElem?_padded (by decide) hy _ 1
  have hseven : (dateText d ++ rest).length ≠ 7 := by omega
  simp [separatorPosition?, -List.length_append, getElem?_dateText_four hy, hfive, hseven, hW]

include hd

theorem readDate?_dateText :
    readDate? (dateText d ++ rest) 10 = some (.calendar d.year d.month d.day) := by
  have hfour := getElem?_dateText_four hy rest
  rw [dateText_append] at hfour ⊢
  have hmonthOn : (padded 4 d.year ++ '-' :: (padded 2 d.month ++ '-' :: (padded 2 d.day ++ rest))).drop 5 =
      padded 2 d.month ++ '-' :: (padded 2 d.day ++ rest) := drop_padded (by decide) hy _ 1
  have hdayOn : (padded 2 d.month ++ '-' :: (padded 2 d.day ++ rest)).drop 2 = '-' :: (padded 2 d.day ++ rest) :=
    drop_padded (by decide) hm _ 0
  obtain ⟨c, cs, hc, hdigit⟩ := exists_cons_padded (by decide) hm
  unfold readDate?
  simp only [leadingNumber?_padded (by decide) hy, hfour, beq_self_eq_true, if_true, hmonthOn,
    Option.bind_eq_bind, Option.bind_some]
  split
  · next hweek =>
    rw [hc] at hweek
    rw [(List.cons.inj hweek).1] at hdigit
    exact absurd hdigit (by decide)
  · simp only [leadingNumber?_padded (by decide) hm, hdayOn, skipHyphen?, Bool.not_true, Bool.false_eq_true, if_false,
      Option.bind_some, leadingNumber?_padded (by decide) hd]
    rfl

end Date

theorem date_calendar {d : Date} (h : d.isValid) :
    (DateReading.calendar d.year d.month d.day).date = .ok d := by
  obtain ⟨hy, -, hm, hd, length, hlength, hle⟩ := Date.isValid_iff.1 h
  unfold DateReading.date
  dsimp only
  rw [if_neg (by omega), hlength]
  dsimp only
  rw [if_neg (by omega), if_pos ⟨hd, hle⟩]

/-! ## Hours, minutes and seconds -/

section Fields
variable {v : Nat} (hv : v < 10 ^ 2) (fields : Nat) (rest : List Char)
include hv

theorem readFields?_colon {colons : Option Bool} (hcolons : colons.getD true = true) {room : Nat} (hroom : 3 < room) :
    readFields? (fields + 1) colons (padded 2 v ++ ':' :: rest) room =
      (readFields? fields (some true) rest (room - 3)).map fun p => (v :: p.1, p.2) := by
  have htwo : (padded 2 v ++ ':' :: rest).drop 2 = ':' :: rest := drop_padded (by decide) hv _ 0
  have hthree : (padded 2 v ++ ':' :: rest).drop 3 = rest := drop_padded (by decide) hv _ 1
  rw [readFields?]
  simp only [leadingNumber?_padded (by decide) hv, htwo, hthree, List.headD_cons, Option.bind_eq_bind,
    Option.bind_some, if_neg (Nat.not_le.2 hroom), beq_self_eq_true, hcolons, Bool.and_self, if_true]
  cases readFields? fields (some true) rest (room - 3) <;> rfl

theorem readFields?_last (colons : Option Bool) {room : Nat} (hroom : room ≤ 3) :
    ∃ leftOver, readFields? (fields + 1) colons (padded 2 v ++ rest) room = some ([v], .nothing leftOver) ∧
      (rest = [] → leftOver = false) := by
  have htwo : (padded 2 v ++ rest).drop 2 = rest := drop_padded (by decide) hv _ 0
  refine ⟨rest.headD '\x00' != '\x00', ?_, ?_⟩
  · unfold readFields?
    simp only [leadingNumber?_padded (by decide) hv, htwo, Option.bind_eq_bind, Option.bind_some, if_pos hroom]
    rfl
  · rintro rfl
    rfl

theorem readFields?_point {room : Nat} (hroom : 3 < room) :
    readFields? (fields + 1) (some true) (padded 2 v ++ '.' :: rest) room =
      some ([v], .fraction rest (room - 3)) := by
  have htwo : (padded 2 v ++ '.' :: rest).drop 2 = '.' :: rest := drop_padded (by decide) hv _ 0
  have hthree : (padded 2 v ++ '.' :: rest).drop 3 = rest := drop_padded (by decide) hv _ 1
  unfold readFields?
  simp only [leadingNumber?_padded (by decide) hv, htwo, hthree, List.headD_cons, Option.bind_eq_bind,
    Option.bind_some, if_neg (Nat.not_le.2 hroom)]
  rfl

end Fields

/-! ## Times of day -/

/-- The parts of a length of time, as they are written. -/
def clockOf (micros : Nat) (leftOver : Bool) : ClockReading :=
  ⟨micros / perHour, micros / perMinute % 60, micros / perSecond % 60, micros % perSecond, leftOver⟩

theorem total_clockOf (micros : Nat) (leftOver : Bool) : (clockOf micros leftOver).total = micros := by
  unfold clockOf ClockReading.total
  simp only [perHour, perMinute, perSecond]
  omega

/-- The parts of a time of day are in range. -/
theorem timeOfDay_clockOf {micros : Nat} (h : micros < perDay) (leftOver : Bool) :
    (clockOf micros leftOver).timeOfDay = .ok micros := by
  have hhours : (clockOf micros leftOver).hours < 24 := Nat.div_lt_of_lt_mul (by rw [Nat.mul_comm]; exact h)
  have hminutes : (clockOf micros leftOver).minutes < 60 := Nat.mod_lt _ (by decide)
  have hseconds : (clockOf micros leftOver).seconds < 60 := Nat.mod_lt _ (by decide)
  unfold ClockReading.timeOfDay
  rw [if_neg (Nat.not_le.2 hhours), if_neg (Nat.not_le.2 hminutes), if_neg (Nat.not_le.2 hseconds), total_clockOf]

section Clock
variable {micros : Nat} (h : micros / perHour < 10 ^ 2)
include h

theorem length_hoursMinutes : (hoursMinutes micros).length = 5 := by
  have hm : micros / perMinute % 60 < 10 ^ 2 := by omega
  simp [hoursMinutes, Text.length_padded (by decide) h, Text.length_padded (by decide) hm]

/-- A length of time without its seconds is read again. -/
theorem readClock?_hoursMinutes :
    readClock? (hoursMinutes micros) 5 = some ⟨micros / perHour, micros / perMinute % 60, 0, 0, false⟩ := by
  have hm : micros / perMinute % 60 < 10 ^ 2 := by omega
  obtain ⟨leftOver, hlast, hleft⟩ := readFields?_last hm 1 [] (some true) (Nat.le_succ 2)
  rw [hleft rfl, List.append_nil] at hlast
  have hread : readFields? 3 none (hoursMinutes micros) 5 =
      some ([micros / perHour, micros / perMinute % 60], .nothing false) := by
    rw [hoursMinutes, readFields?_colon h 2 _ rfl (by decide), hlast]
    rfl
  unfold readClock?
  rw [hread]
  rfl

theorem readFields?_seconds {room : Nat} (hroom : 6 < room) (rest : List Char) :
    readFields? 3 none (hoursMinutes micros ++ ':' :: rest) room =
      (readFields? 1 (some true) rest (room - 6)).map fun p =>
        (micros / perHour :: micros / perMinute % 60 :: p.1, p.2) := by
  have hm : micros / perMinute % 60 < 10 ^ 2 := by omega
  rw [hoursMinutes, List.append_assoc, List.cons_append, readFields?_colon h 2 _ rfl (by omega),
    readFields?_colon hm 1 _ rfl (by omega), Option.map_map]
  rfl

/-- A length of time with its seconds is read again. -/
theorem readClock?_secondsText (rest : List Char) :
    ∃ leftOver, readClock? (hoursMinutes micros ++ secondsText micros ++ rest)
        (hoursMinutes micros ++ secondsText micros).length = some (clockOf micros leftOver) ∧
      (rest = [] → leftOver = false) := by
  have hs : micros / perSecond % 60 < 10 ^ 2 := by omega
  rw [List.length_append, length_hoursMinutes h]
  unfold secondsText
  split
  · next hwhole =>
    obtain ⟨leftOver, hlast, hleft⟩ := readFields?_last hs 0 rest (some true) (Nat.le_succ 2)
    refine ⟨leftOver, ?_, hleft⟩
    have hroom : 5 + (':' :: padded 2 (micros / perSecond % 60) ++ []).length = 8 := by
      simp [Text.length_padded (by decide) hs]
    rw [hroom, List.append_nil, List.append_assoc, List.cons_append]
    unfold readClock? clockOf
    rw [readFields?_seconds h (by decide), hlast, hwhole]
    rfl
  · next hfraction =>
    have hmicros : micros % perSecond < 10 ^ 6 := Nat.mod_lt _ (by decide)
    have hroom : 5 + (':' :: padded 2 (micros / perSecond % 60) ++ '.' :: padded 6 (micros % perSecond)).length = 15 := by
      simp [Text.length_padded (by decide) hs, Text.length_padded (by decide) hmicros]
    have hsix : (padded 6 (micros % perSecond) ++ rest).drop 6 = rest := drop_padded (by decide) hmicros rest 0
    refine ⟨!isEnd (rest.dropWhile Char.isDigit), ?_, fun hrest => by rw [hrest]; rfl⟩
    rw [hroom, List.append_assoc, List.append_assoc, List.cons_append, List.cons_append]
    unfold readClock? clockOf
    rw [readFields?_seconds h (by decide), readFields?_point hs 0 _ (by decide)]
    have hcount : min 6 (15 - 6 - 3) = 6 := rfl
    simp only [Option.map_some, Option.bind_eq_bind, Option.bind_some, hcount,
      leadingNumber?_padded (by decide) hmicros, hsix]
    simp

end Clock

/-! ## Time of day and offset -/

/-- An offset of no time, or of a second or more. One that is only a fraction of a second is written, but read as
none. -/
def IsReadableOffset (offset : Int) : Prop := offset = 0 ∨ perSecond ≤ offset.natAbs

/-- Whole seconds are readable. -/
theorem isReadableOffset_of_dvd {offset : Int} (h : (perSecond : Int) ∣ offset) : IsReadableOffset offset := by
  obtain ⟨seconds, rfl⟩ := h
  simp only [IsReadableOffset, perSecond]
  omega

/-- An offset is read again, unless it is a fraction of a second. -/
theorem readClock?_offset {size : Nat} (h : size / perHour < 10 ^ 2) :
    ∃ reading, readClock? (hoursMinutes size ++ if size % perMinute = 0 then [] else secondsText size)
        (hoursMinutes size ++ if size % perMinute = 0 then [] else secondsText size).length = some reading ∧
      reading.total = size ∧ reading.leftOver = false := by
  split
  · next hwhole =>
    refine ⟨⟨size / perHour, size / perMinute % 60, 0, 0, false⟩, ?_, ?_, rfl⟩
    · rw [List.append_nil, length_hoursMinutes h]
      exact readClock?_hoursMinutes h
    · simp only [ClockReading.total, perHour, perMinute, perSecond] at hwhole ⊢
      omega
  · obtain ⟨leftOver, hread, hleft⟩ := readClock?_secondsText h []
    rw [List.append_nil, hleft rfl] at hread
    exact ⟨_, hread, total_clockOf size false, rfl⟩

theorem not_startsOffset {c : Char} (h : IsClockChar c) : (!(c == '+' || c == '-' || c == 'Z')) = true := by
  obtain h | rfl | rfl := h
  · by_contra hoffset
    simp only [Bool.not_eq_true', Bool.not_eq_false, Bool.or_eq_true, beq_iff_eq] at hoffset
    obtain (rfl | rfl) | rfl := hoffset <;> exact absurd h (by decide)
  · rfl
  · rfl

/-- The sign of the offset ends the time of day. -/
theorem readTime?_sign {time rest : List Char} {sign : Char} {clock offset : ClockReading}
    (htime : ∀ c ∈ time, IsClockChar c) (hsign : sign = '+' ∨ sign = '-')
    (hclock : readClock? (time ++ sign :: rest) time.length = some clock)
    (hoffset : readClock? rest rest.length = some offset) (hend : offset.leftOver = false) :
    readTime? (time ++ sign :: rest) =
      let size := if offset.total < perSecond then 0 else offset.total
      some (clock, if sign = '-' then -(size : Int) else size) := by
  have hstop : (!(sign == '+' || sign == '-' || sign == 'Z')) = false := by
    obtain rfl | rfl := hsign <;> rfl
  have htake : (time ++ sign :: rest).takeWhile (fun c => !(c == '+' || c == '-' || c == 'Z')) = time := by
    rw [List.takeWhile_append_of_pos fun c hc => not_startsOffset (htime c hc), List.takeWhile_cons]
    simp only [hstop, Bool.false_eq_true, if_false, List.append_nil]
  unfold readTime?
  simp only [htake, hclock, Option.bind_eq_bind, Option.bind_some, List.drop_left]
  obtain rfl | rfl := hsign <;> simp [hoffset, hend]

/-- A time of day and an offset are read again. -/
theorem readTime?_offsetText {micros : Nat} (h : micros / perHour < 10 ^ 2) {offset : Int}
    (hday : offset.natAbs < perDay) (hwhole : IsReadableOffset offset) :
    ∃ leftOver, readTime? (hoursMinutes micros ++ secondsText micros ++ offsetText offset) =
      some (clockOf micros leftOver, offset) := by
  have hhours : offset.natAbs / perHour < 10 ^ 2 := by
    simp only [perDay, perHour, perMinute, perSecond] at hday ⊢
    omega
  have htime : ∀ c ∈ hoursMinutes micros ++ secondsText micros, IsClockChar c := fun c hc =>
    (List.mem_append.1 hc).elim isClockChar_of_mem_hoursMinutes isClockChar_of_mem_secondsText
  obtain ⟨leftOver, hclock, -⟩ := readClock?_secondsText h (offsetText offset)
  obtain ⟨reading, hoffset, htotal, hend⟩ := readClock?_offset hhours
  have hsize : (if reading.total < perSecond then 0 else reading.total) = offset.natAbs := by
    unfold IsReadableOffset at hwhole
    rw [htotal]
    split <;> omega
  refine ⟨leftOver, ?_⟩
  unfold offsetText at hclock ⊢
  rw [List.cons_append] at hclock ⊢
  by_cases hneg : offset < 0
  · rw [if_pos hneg] at hclock ⊢
    rw [readTime?_sign htime (.inr rfl) hclock hoffset hend, hsize]
    have hvalue : -(offset.natAbs : Int) = offset := by omega
    simp only [if_true, hvalue]
  · rw [if_neg hneg] at hclock ⊢
    rw [readTime?_sign htime (.inl rfl) hclock hoffset hend, hsize]
    have hvalue : (offset.natAbs : Int) = offset := by omega
    have hplus : ( '+' : Char) ≠ '-' := by decide
    simp only [if_neg hplus, hvalue]

/-! ## Timestamps -/

theorem offset_natAbs_lt (t : DateTime) : t.offset.natAbs < perDay := by
  have := t.lt_offset
  have := t.offset_lt
  omega

theorem timeOfDay_lt (t : DateTime) : t.timeOfDay < perDay := Nat.mod_lt _ (by decide)

theorem date_isValid (t : DateTime) : t.date.isValid :=
  Date.isValid_ofOrdinal (Nat.div_lt_of_lt_mul (by rw [Nat.mul_comm]; exact t.wall_lt))

/-- The date and the time of day give the reading of the clock. -/
theorem ordinal_date_timeOfDay (t : DateTime) : t.date.ordinal * perDay + t.timeOfDay = t.wall := by
  unfold date timeOfDay
  rw [Date.ordinal_ofOrdinal, Nat.div_add_mod']

theorem IsClockChar.toNat_lt {c : Char} (h : IsClockChar c) : c.toNat < 0x80 := by
  obtain h | rfl | rfl := h
  · exact Text.toNat_lt_of_isDigit h
  · decide
  · decide

theorem ascii_timestampChars (t : DateTime) : ∀ c ∈ t.timestampChars, c.toNat < 0x80 := by
  have hnumber (width n : Nat) : ∀ c ∈ padded width n, c.toNat < 0x80 := fun _ hc =>
    Text.toNat_lt_of_isDigit (Text.isDigit_of_mem_padded hc)
  have hhours (n : Nat) : ∀ c ∈ hoursMinutes n, c.toNat < 0x80 := fun _ hc =>
    (isClockChar_of_mem_hoursMinutes hc).toNat_lt
  have hseconds (n : Nat) : ∀ c ∈ secondsText n, c.toNat < 0x80 := fun _ hc =>
    (isClockChar_of_mem_secondsText hc).toNat_lt
  have hsign : (if t.offset < 0 then '-' else '+').toNat < 0x80 := by split <;> decide
  simp only [timestampChars, dateText, offsetText, List.forall_mem_append, List.forall_mem_cons]
  refine ⟨⟨⟨⟨⟨hnumber _ _, by decide, hnumber _ _⟩, by decide, hnumber _ _⟩, by decide, hhours _⟩, hseconds _⟩,
    ⟨hsign, hhours _⟩, ?_⟩
  split
  · exact nofun
  · exact hseconds _

theorem readParts?_timestampChars {t : DateTime} (h : IsReadableOffset t.offset) :
    ∃ leftOver, readParts? t.timestampChars =
      some ⟨.calendar t.date.year t.date.month t.date.day, clockOf t.timeOfDay leftOver, t.offset⟩ := by
  obtain ⟨-, hyear, -, -, length, hlength, hday⟩ := Date.isValid_iff.1 t.date_isValid
  obtain ⟨hmonth, hlong⟩ := Date.length_le hlength
  have hy : t.date.year < 10 ^ 4 := Nat.lt_of_le_of_lt hyear (by decide)
  have hm : t.date.month < 10 ^ 2 := by omega
  have hd : t.date.day < 10 ^ 2 := by omega
  have htime : t.timeOfDay / perHour < 10 ^ 2 := by
    have := t.timeOfDay_lt
    simp only [perDay, perHour, perMinute, perSecond] at this ⊢
    omega
  obtain ⟨leftOver, hread⟩ := readTime?_offsetText htime t.offset_natAbs_lt h
  refine ⟨leftOver, ?_⟩
  have hlen : (dateText t.date).length = 10 := by
    simp [dateText, Text.length_padded (by decide) hy, Text.length_padded (by decide) hm,
      Text.length_padded (by decide) hd]
  have htext : t.timestampChars = dateText t.date ++
      'T' :: (hoursMinutes t.timeOfDay ++ secondsText t.timeOfDay ++ offsetText t.offset) := by
    simp [timestampChars]
  have hlong : 10 ≤ t.timestampChars.length := by
    rw [htext, List.length_append, hlen]
    exact Nat.le_add_right ..
  unfold readParts?
  rw [if_neg (by omega)]
  rw [htext] at hlong ⊢
  rw [separatorPosition?_dateText hy hm _ hlong]
  have hone : 'T'.utf8Size = 1 := rfl
  simp only [Option.bind_eq_bind, Option.bind_some, readDate?_dateText hy hm hd, List.drop_left' hlen,
    List.isEmpty_cons, Bool.false_eq_true, if_false, List.headD_cons, hone, List.drop_succ_cons, List.drop_zero, hread]
  rfl

theorem of?_self (t : DateTime) : of? t.wall t.offset = some t :=
  dif_pos ⟨⟨Int.natCast_nonneg _, Int.ofNat_lt.2 t.wall_lt⟩, t.lt_offset, t.offset_lt⟩

/-- A reading whose parts are in range gives the point in time that is meant. -/
theorem dateTime_of_parts {r : Reading} {d : Date} {time : Nat} {t : DateTime}
    (hoffset : ¬((perDay : Int) ≤ r.offset ∨ r.offset ≤ -(perDay : Int))) (hdate : r.date.date = .ok d)
    (htime : r.clock.timeOfDay = .ok time) (hwall : d.ordinal * perDay + time = t.wall) (ht : r.offset = t.offset) :
    r.dateTime = .ok t := by
  unfold Reading.dateTime
  rw [if_neg hoffset, hdate, ok_bind, htime, ok_bind, hwall, ht, of?_self]
  rfl

/-- A written timestamp is read again, unless its offset is a fraction of a second. -/
theorem read_timestamp {t : DateTime} (h : IsReadableOffset t.offset) :
    DateTime.read t.timestamp = .ok t := by
  obtain ⟨leftOver, hparts⟩ := readParts?_timestampChars h
  have hoffset : ¬((perDay : Int) ≤ t.offset ∨ t.offset ≤ -(perDay : Int)) := by
    have := t.offset_natAbs_lt
    omega
  unfold DateTime.read timestamp
  rw [String.toList_ofList, units_of_ascii t.ascii_timestampChars, hparts]
  exact dateTime_of_parts hoffset (date_calendar t.date_isValid) (timeOfDay_clockOf t.timeOfDay_lt leftOver)
    t.ordinal_date_timeOfDay rfl

/-! ## What is read -/

/-- A reading keeps the offset that is written, and that is not a fraction of a second. -/
theorem isReadableOffset_of_readTime? {u : List Char} {r : ClockReading × Int} (h : readTime? u = some r) :
    IsReadableOffset r.2 := by
  unfold readTime? at h
  simp only [Option.bind_eq_bind, Option.bind_eq_some_iff] at h
  obtain ⟨clock, -, h⟩ := h
  split at h
  · split at h
    · cases h
    · cases h
      exact .inl rfl
  · split at h
    · cases h
      exact .inl rfl
    · cases h
  · simp only [Option.bind_eq_some_iff] at h
    obtain ⟨offset, -, h⟩ := h
    split at h
    · cases h
    · cases h
      unfold IsReadableOffset
      dsimp only
      split <;> split <;> omega

/-- The character begins an offset. -/
def IsOffsetSign (c : Char) : Prop := c = '+' ∨ c = '-' ∨ c = 'Z'

theorem offset_of_readTime? {u : List Char} (hu : ∀ c ∈ u, ¬IsOffsetSign c) {r : ClockReading × Int}
    (h : readTime? u = some r) : r.2 = 0 := by
  have htime : u.takeWhile (fun c => !(c == '+' || c == '-' || c == 'Z')) = u :=
    List.takeWhile_eq_self_iff.2 fun c hc => by
      have hsign := hu c hc
      simp only [IsOffsetSign, not_or] at hsign
      simp [hsign]
  unfold readTime? at h
  simp only [htime, List.drop_length, Option.bind_eq_bind, Option.bind_eq_some_iff] at h
  obtain ⟨clock, -, h⟩ := h
  split at h
  · cases h
  · cases h
    rfl

/-- What stands behind the separator of date and time, if the text begins with a date. -/
def timeText? (s : String) : Option (List Char) :=
  let u := units s.toList
  (separatorPosition? u).map fun stop => (u.drop stop).drop ((u.drop stop).headD '\x00').utf8Size

/-- No offset is named by the text. -/
def NamesNoOffset (s : String) : Prop := ∀ time ∈ timeText? s, ∀ c ∈ time, ¬IsOffsetSign c

theorem offset_of_of? {wall offset : Int} {t : DateTime} (h : of? wall offset = some t) : t.offset = offset := by
  unfold of? at h
  split at h
  · rw [← Option.some.inj h]
  · cases h

theorem offset_of_dateTime {r : Reading} {t : DateTime} (h : r.dateTime = .ok t) : t.offset = r.offset := by
  unfold Reading.dateTime at h
  split at h
  · cases h
  · obtain ⟨date, -, h⟩ := bind_eq_ok_iff.1 h
    obtain ⟨time, -, h⟩ := bind_eq_ok_iff.1 h
    split at h
    · next u hu =>
      rw [← Except.ok.inj h]
      exact offset_of_of? hu
    · cases h

/-- **What is read** has an offset that is read again, and that is none if the text names none. -/
theorem offset_of_read {s : String} {t : DateTime} (h : DateTime.read s = .ok t) :
    IsReadableOffset t.offset ∧ (NamesNoOffset s → t.offset = 0) := by
  unfold DateTime.read at h
  split at h
  · next r hr =>
    rw [offset_of_dateTime h]
    unfold readParts? at hr
    split at hr
    · cases hr
    · simp only [Option.bind_eq_bind, Option.bind_eq_some_iff] at hr
      obtain ⟨stop, hstop, date, -, hr⟩ := hr
      split at hr
      · cases hr
        exact ⟨.inl rfl, fun _ => rfl⟩
      · simp only [Option.bind_eq_some_iff] at hr
        obtain ⟨⟨clock, offset⟩, htime, hr⟩ := hr
        cases hr
        refine ⟨isReadableOffset_of_readTime? htime, fun hnone => offset_of_readTime? (hnone _ ?_) htime⟩
        rw [timeText?, hstop]
        rfl
  · cases h

end DateTime

end AccountSecurity
