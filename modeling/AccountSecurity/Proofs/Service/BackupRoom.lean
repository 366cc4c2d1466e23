import AccountSecurity.Service.BackupVault

/-!
# Room for one more backup code

Used entries are taken out of a copy of the list, each by its value and not by its place. Where the loop stands, the
copy holds the unused entries that lie behind, and then the entries ahead as they were. So the first entry that counts
as equal to a used one is that entry itself.

* `BackupCode.sameAs_self`, `BackupCode.used_of_sameAs` : what is needed of the equality of entries;
* `spared` : the copy at some point of the loop;
* `takeOut_spared`, `exists_prune` : the entry that is taken out there, and the loop from there on;
* `of_makeRoom`, `filter_of_makeRoom`, `eq_of_makeRoom_error` : what the callers need to know;
* `room_made_exactly` : which entries are dropped, and when no room can be made.
-/

namespace AccountSecurity

namespace BackupCode

theorem sameAs_self (c : BackupCode) : c.sameAs c := by
  unfold sameAs DateTime.sameInstant
  cases c.usedAt <;> simp

theorem used_of_sameAs {c d : BackupCode} (h : c.sameAs d) : c.used = d.used := by
  unfold sameAs at h
  simp only [Bool.and_eq_true, beq_iff_eq] at h
  exact h.1.2

end BackupCode

namespace BackupVault
variable {limit : Int} {codes kept : List BackupCode} {e : BackupCode}

/-! ## One entry -/

/-- What is left when the loop has gone through the entries `before`. -/
def spared (before behind : List BackupCode) : List BackupCode := before.filter (!·.used) ++ behind

theorem takeOut_append {front : List BackupCode} (h : ∀ x ∈ front, ¬x.sameAs e) (rest : List BackupCode) :
    takeOut e (front ++ e :: rest) = .ok (front ++ rest) := by
  induction front with
  | nil => exact if_pos e.sameAs_self
  | cons x front ih =>
    rw [List.cons_append, takeOut, if_neg (h x (List.mem_cons_self ..)),
      ih fun y hy => h y (List.mem_cons_of_mem _ hy)]
    rfl

/-- A used entry is taken out where the loop stands: none of those in front of it is used. -/
theorem takeOut_spared (he : e.used) (before rest : List BackupCode) :
    takeOut e (spared before (e :: rest)) = .ok (spared (before ++ [e]) rest) := by
  have hne : ∀ x ∈ before.filter (!·.used), ¬x.sameAs e := by
    intro x hx hsame
    have hunused := (List.mem_filter.1 hx).2
    rw [BackupCode.used_of_sameAs hsame, he] at hunused
    cases hunused
  have hfilter : (before ++ [e]).filter (!·.used) = before.filter (!·.used) := by simp [he]
  rw [spared, spared, hfilter, takeOut_append hne]

theorem spared_of_unused (he : ¬e.used) (before rest : List BackupCode) :
    spared before (e :: rest) = spared (before ++ [e]) rest := by
  simp [spared, he]

theorem length_spared (before behind : List BackupCode) :
    (spared before behind).length = before.countP (!·.used) + behind.length := by
  rw [spared, List.length_append, List.countP_eq_length_filter]

theorem unused_add_used (codes : List BackupCode) :
    codes.countP (!·.used) + codes.countP (·.used) = codes.length := by
  rw [List.length_eq_countP_add_countP (!·.used)]
  simp

/-! ## The loop -/

/-- Where the loop stops: no entry was taken out while there was room, and there is room, or the list is at its end. -/
structure StopsAt (limit : Int) (before behind : List BackupCode) : Prop where
  needed : limit ≤ (spared before behind).length + 1 ∨ before.countP (·.used) = 0
  stopped : (spared before behind).length < limit ∨ behind = []

/-- **The loop** never misses the entry that it takes out, and it stops as soon as there is room. -/
theorem exists_prune (limit : Int) (before rest : List BackupCode)
    (h : limit ≤ (spared before rest).length + 1 ∨ before.countP (·.used) = 0) :
    ∃ front behind, rest = front ++ behind ∧ StopsAt limit (before ++ front) behind ∧
      prune limit rest (spared before rest) = .ok (spared (before ++ front) behind) := by
  induction rest generalizing before with
  | nil => exact ⟨[], [], rfl, by simpa using ⟨h, .inr rfl⟩, by simp [prune]⟩
  | cons e rest ih =>
    by_cases hroom : ((spared before (e :: rest)).length : Int) < limit
    · exact ⟨[], e :: rest, rfl, by simpa using ⟨h, .inl hroom⟩, by simp [prune, hroom]⟩
    · rw [prune, if_neg hroom]
      by_cases he : e.used
      · have hneed : limit ≤ (spared (before ++ [e]) rest).length + 1 := by
          simp only [length_spared, List.length_cons] at hroom ⊢
          simp only [List.countP_append, List.countP_singleton, he]
          omega
        obtain ⟨front, behind, hsplit, hstop, hrun⟩ := ih (before ++ [e]) (.inl hneed)
        refine ⟨e :: front, behind, by rw [hsplit]; rfl, by simpa using hstop, ?_⟩
        rw [if_pos he, takeOut_spared he]
        exact hrun.trans (by simp)
      · have hneed : limit ≤ (spared (before ++ [e]) rest).length + 1 ∨ (before ++ [e]).countP (·.used) = 0 := by
          rw [← spared_of_unused he]
          simpa [he] using h
        obtain ⟨front, behind, hsplit, hstop, hrun⟩ := ih (before ++ [e]) hneed
        refine ⟨e :: front, behind, by rw [hsplit]; rfl, by simpa using hstop, ?_⟩
        rw [if_neg he, spared_of_unused he]
        exact hrun.trans (by simp)

/-- What is left of a whole list, and that there is room in it unless it has nothing but unused entries. -/
theorem exists_makeRoom (limit : Int) (codes : List BackupCode) :
    ∃ before behind, codes = before ++ behind ∧ StopsAt limit before behind ∧
      makeRoom limit codes = if (spared before behind).length < limit then .ok (spared before behind)
        else .error (.refused (.backupCodeLimit limit)) := by
  obtain ⟨before, behind, hsplit, hstop, hrun⟩ := exists_prune limit [] codes (.inr rfl)
  refine ⟨before, behind, hsplit, hstop, ?_⟩
  unfold makeRoom
  rw [show spared [] codes = codes from rfl] at hrun
  rw [hrun]
  rfl

/-! ## Room for the callers -/

theorem eq_of_makeRoom_error {f : Failure} (h : makeRoom limit codes = .error f) :
    f = .refused (.backupCodeLimit limit) := by
  obtain ⟨before, behind, -, -, hroom⟩ := exists_makeRoom limit codes
  rw [hroom] at h
  split at h
  · cases h
  · exact (Except.error.inj h).symm

/-- The kept codes are some of the old ones, and one more fits. -/
theorem of_makeRoom (h : makeRoom limit codes = .ok kept) : kept ⊆ codes ∧ (kept.length : Int) < limit := by
  obtain ⟨before, behind, rfl, -, hroom⟩ := exists_makeRoom limit codes
  rw [hroom] at h
  split at h
  · next hlt =>
    cases h
    refine ⟨fun b hb => ?_, hlt⟩
    obtain hb | hb := List.mem_append.1 hb
    · exact List.mem_append_left _ (List.mem_filter.1 hb).1
    · exact List.mem_append_right _ hb
  · cases h

/-- The codes that are kept have the unused ones among them, in their order. -/
theorem filter_of_makeRoom (h : makeRoom limit codes = .ok kept) :
    kept.filter (!·.used) = codes.filter (!·.used) := by
  obtain ⟨before, behind, rfl, -, hroom⟩ := exists_makeRoom limit codes
  rw [hroom] at h
  split at h
  · cases h
    rw [spared, List.filter_append, List.filter_append, List.filter_filter]
    simp
  · cases h

/-! ## The entries that are dropped -/

namespace StopsAt
variable {before behind : List BackupCode} (h : StopsAt limit before behind)
include h

theorem room_iff :
    ((spared before behind).length : Int) < limit ↔ (before ++ behind).countP (!·.used) < limit := by
  have hbehind := unused_add_used behind
  rw [length_spared, List.countP_append]
  constructor
  · intro hlt
    omega
  · intro hlt
    obtain hroom | hend := h.stopped
    · rwa [length_spared] at hroom
    · subst hend
      simpa using hlt

/-- As many entries are gone as have to go. -/
theorem used_eq (hroom : ((spared before behind).length : Int) < limit) :
    (before.countP (·.used) : Int) = max 0 ((before ++ behind).length - limit + 1) := by
  have hbefore := unused_add_used before
  have hneed := h.needed
  rw [length_spared] at hroom hneed
  rw [List.length_append]
  omega

end StopsAt

/-- **Room for one more.** There is none just when the unused entries fill the list. Otherwise as many used entries are
dropped as have to go, the first ones of the list, and all others stay in their order. -/
theorem room_made_exactly (limit : Int) (codes : List BackupCode) :
    (makeRoom limit codes = .error (.refused (.backupCodeLimit limit)) ↔ limit ≤ codes.countP (!·.used)) ∧
    (codes.countP (!·.used) < limit →
      ∃ before behind, codes = before ++ behind ∧
        (before.countP (·.used) : Int) = max 0 (codes.length - limit + 1) ∧
        makeRoom limit codes = .ok (before.filter (!·.used) ++ behind) ∧
        ((before.filter (!·.used) ++ behind).length : Int) < limit) := by
  obtain ⟨before, behind, rfl, hstop, hroom⟩ := exists_makeRoom limit codes
  constructor
  · rw [hroom]
    split
    · next hlt => exact ⟨nofun, fun hle => absurd (hstop.room_iff.1 hlt) (by omega)⟩
    · next hge =>
      rw [hstop.room_iff] at hge
      exact ⟨fun _ => by omega, fun _ => rfl⟩
  · intro hlt
    have hshort := hstop.room_iff.2 hlt
    exact ⟨before, behind, rfl, hstop.used_eq hshort, by rw [hroom, if_pos hshort]; rfl, hshort⟩

/-- The epoch on a clock that is two hours ahead. -/
def eastern : DateTime :=
  ⟨DateTime.epoch.wall + 2 * DateTime.perHour, 2 * DateTime.perHour, by decide, by decide, by decide⟩

/-- An unused code, a spent one, and the same spent one with its times on another clock. -/
def spareCodes : List BackupCode :=
  let spare := BackupCode.ofText "spare" .epoch
  [spare, spare.spentAt .epoch, { spare.spentAt eastern with createdAt := eastern }]

/-- Of two entries that count as equal, the first goes. -/
theorem room_made_exactly_spare :
    spareCodes[1].sameAs spareCodes[2] ∧ spareCodes.countP (!·.used) < 3 ∧
      ∃ before behind, spareCodes = before ++ behind ∧
        (before.countP (·.used) : Int) = max 0 (spareCodes.length - 3 + 1) ∧
        makeRoom 3 spareCodes = .ok (before.filter (!·.used) ++ behind) ∧
        ((before.filter (!·.used) ++ behind).length : Int) < 3 :=
  have hunused : (spareCodes.countP (!·.used) : Int) < 3 := by decide
  ⟨by decide, by decide, (room_made_exactly 3 spareCodes).2 hunused⟩

example : makeRoom 3 spareCodes = .ok (spareCodes.eraseIdx 1) := rfl

end BackupVault

end AccountSecurity
