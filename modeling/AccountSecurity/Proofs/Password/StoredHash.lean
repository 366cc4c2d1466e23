import AccountSecurity.Proofs.Crypto.Argon2
import AccountSecurity.Proofs.Crypto.Bcrypt
import AccountSecurity.Proofs.Password.Hasher

/-!
# Hashes of any form

A stored hash is any text, and most texts are no hashes. Such a text matches no password. Only one kind of text stops
the check: it is marked as a memory-hard hash and is not ASCII, so it has no bytes that could be read.

* `Hasher.IsReadable` : the texts that a hash may be stored as;
* `Hasher.Matches` : those whose hash accepts the password;
* `Hasher.IsUnencodable` : the texts that stop the check;
* `Hasher.verify_of_not_isUnencodable` : what the check answers on all others;
* `Hasher.exists_verify` : every password can be checked against every hash that was made;
* `Hasher.malformed_hashes_never_match` : **which texts match, which do not, and which stop the check**.
-/

namespace AccountSecurity.Hasher
variable {stored : String}

/-- Some hash is stored as the text. -/
def IsReadable (stored : String) : Prop :=
  (∃ e : Argon2.Encoded, e.IsStoredAs stored.toList) ∨ ∃ e : Bcrypt.Encoded, e.IsStoredAs stored.toList

/-- A hash that accepts the password is stored as the text. -/
inductive Matches (stored password : String) : Prop
  | memoryHard (e : Argon2.Encoded) (isStoredAs : e.IsStoredAs stored.toList)
      (accepts : e.accepts (passwordBytes password))
  | cipherBased (e : Bcrypt.Encoded) (isStoredAs : e.IsStoredAs stored.toList) (short : isTooLong password = false)
      (accepts : e.accepts (passwordBytes password))

/-- The text is marked as a memory-hard hash, and is not ASCII. -/
def IsUnencodable (stored : String) : Prop :=
  Argon2.mark.toList <+: stored.toList ∧ ∃ c ∈ stored.toList, 0x80 ≤ c.toNat

/-! ## The two kinds of hashes -/

theorem isMemoryHard_iff : isMemoryHard stored ↔ Argon2.mark.toList <+: stored.toList := by
  rw [isMemoryHard, Option.isSome_iff_exists]
  exact exists_congr fun rest => Argon2.after?_eq_some_iff.trans eq_comm

theorem any_iff : stored.toList.any (0x80 ≤ ·.toNat) ↔ ∃ c ∈ stored.toList, 0x80 ≤ c.toNat := by
  simp only [List.any_eq_true, decide_eq_true_iff]

/-- Memory-hard hashes are stored behind their mark. -/
theorem isMemoryHard_of_isStoredAs {e : Argon2.Encoded} (he : e.IsStoredAs stored.toList) : isMemoryHard stored := by
  obtain ⟨rest, hrest⟩ := Argon2.exists_mark_append he
  exact isMemoryHard_iff.2 ⟨rest, hrest.symm⟩

/-- Hashes of the other kind are not. -/
theorem not_isMemoryHard_of_isStoredAs {e : Bcrypt.Encoded} (he : e.IsStoredAs stored.toList) :
    isMemoryHard stored = false := by
  rw [← String.ofList_toList (s := stored), he.2]
  exact not_isMemoryHard_bcrypt e

/-! ## The check -/

theorem verify_of_isUnencodable (h : IsUnencodable stored) (password : String) :
    verify stored password = .error (.fault .unencodable) := by
  unfold verify
  rw [if_pos (isMemoryHard_iff.2 h.1), if_pos (any_iff.2 h.2)]

/-- A marked text is checked as a memory-hard hash. -/
theorem verify_of_isMemoryHard (hm : isMemoryHard stored) (h : ¬ IsUnencodable stored) (password : String) :
    ∃ right, verify stored password = .ok right ∧ (right = true ↔ Matches stored password) := by
  have hascii : ¬ stored.toList.any (0x80 ≤ ·.toNat) := fun hany => h ⟨isMemoryHard_iff.1 hm, any_iff.1 hany⟩
  unfold verify
  rw [if_pos hm, if_neg hascii]
  have hmatches : Matches stored password ↔
      ∃ e, Argon2.Encoded.read? stored.toList = some e ∧ e.accepts (passwordBytes password) := by
    constructor
    · rintro (⟨e, he, haccepts⟩ | ⟨e, he, -, -⟩)
      · exact ⟨e, Argon2.read?_eq_some_iff.2 he, haccepts⟩
      · exact absurd hm (by simp [not_isMemoryHard_of_isStoredAs he])
    · rintro ⟨e, he, haccepts⟩
      exact .memoryHard e (Argon2.read?_eq_some_iff.1 he) haccepts
  cases hread : Argon2.Encoded.read? stored.toList with
  | none => exact ⟨false, rfl, by simp [hmatches, hread]⟩
  | some e => exact ⟨_, rfl, by simp [hmatches, hread]⟩

/-- Any other text is checked as a hash of the other kind. -/
theorem verify_of_not_isMemoryHard (hm : isMemoryHard stored = false) (password : String) :
    ∃ right, verify stored password = .ok right ∧ (right = true ↔ Matches stored password) := by
  unfold verify
  rw [if_neg (by simp [hm])]
  have hmatches : Matches stored password ↔ isTooLong password = false ∧
      ∃ e, Bcrypt.Encoded.read? stored.toList = some e ∧ e.accepts (passwordBytes password) := by
    constructor
    · rintro (⟨e, he, -⟩ | ⟨e, he, hshort, haccepts⟩)
      · exact absurd (isMemoryHard_of_isStoredAs he) (by simp [hm])
      · exact ⟨hshort, e, Bcrypt.read?_eq_some_iff.2 he, haccepts⟩
    · rintro ⟨hshort, e, he, haccepts⟩
      exact .cipherBased e (Bcrypt.read?_eq_some_iff.1 he) hshort haccepts
  split
  · next hlong => exact ⟨false, rfl, by simp [hmatches, hlong]⟩
  next hshort =>
  cases hread : Bcrypt.Encoded.read? stored.toList with
  | none => exact ⟨false, rfl, by simp [hmatches, hread]⟩
  | some e => exact ⟨_, rfl, by simp [hmatches, hread, hshort]⟩

/-- Every text but those that stop the check is told right or wrong. -/
theorem verify_of_not_isUnencodable (h : ¬ IsUnencodable stored) (password : String) :
    ∃ right, verify stored password = .ok right ∧ (right = true ↔ Matches stored password) := by
  cases hm : isMemoryHard stored with
  | true => exact verify_of_isMemoryHard hm h password
  | false => exact verify_of_not_isMemoryHard hm password

theorem verify_of_matches {password : String} (h : ¬ IsUnencodable stored) (hm : Matches stored password) :
    verify stored password = .ok true := by
  obtain ⟨right, hright, hmatches⟩ := verify_of_not_isUnencodable h password
  rw [hright, hmatches.2 hm]

/-- No hash that was made stops the check. -/
theorem IsHash.not_isUnencodable (hs : IsHash stored) : ¬ IsUnencodable stored := by
  rintro ⟨hmark, c, hc, hle⟩
  obtain hm | ⟨hascii, -⟩ := hs.settings
  · rw [isMemoryHard_iff.2 hmark] at hm
    cases hm
  · exact Nat.not_lt.2 hle (hascii c hc)

/-- Every password can be checked against every hash that was made. -/
theorem exists_verify (hs : IsHash stored) (password : String) : ∃ right, verify stored password = .ok right :=
  (verify_of_not_isUnencodable hs.not_isUnencodable password).imp fun _ => And.left

theorem isReadable_of_matches {password : String} (h : Matches stored password) : IsReadable stored := by
  obtain ⟨e, he, -⟩ | ⟨e, he, -, -⟩ := h
  · exact .inl ⟨e, he⟩
  · exact .inr ⟨e, he⟩

/-- The readers find the hashes that are stored. -/
theorem isReadable_iff : IsReadable stored ↔
    (Argon2.Encoded.read? stored.toList).isSome ∨ (Bcrypt.Encoded.read? stored.toList).isSome := by
  simp only [IsReadable, Option.isSome_iff_exists, Argon2.read?_eq_some_iff, Bcrypt.read?_eq_some_iff]

/-- **A malformed hash never matches.** The check fails iff the text is marked as a memory-hard hash and is not ASCII,
and it fails in one way then. On every other text it answers: a text that is no stored form of a hash matches nothing,
and a text matches a password iff it is the stored form of a hash that accepts it. -/
theorem malformed_hashes_never_match (stored password : String) :
    (∀ f, verify stored password = .error f ↔ f = .fault .unencodable ∧ IsUnencodable stored) ∧
      (¬ IsUnencodable stored → ¬ IsReadable stored → verify stored password = .ok false) ∧
      (verify stored password = .ok true ↔ ¬ IsUnencodable stored ∧ Matches stored password) := by
  by_cases h : IsUnencodable stored
  · have herror := verify_of_isUnencodable h password
    rw [herror]
    exact ⟨fun f => by simp [h, eq_comm], fun hno => absurd h hno, by simp [h]⟩
  · obtain ⟨right, hright, hmatches⟩ := verify_of_not_isUnencodable h password
    rw [hright]
    refine ⟨by simp [h], fun _ hmalformed => ?_, by simp [h, hmatches]⟩
    cases right with
    | false => rfl
    | true => exact absurd (isReadable_of_matches (hmatches.1 rfl)) hmalformed

/-- A hash that breaks off behind the name of its variant. -/
theorem malformed_hashes_never_match_name :
    ¬ IsUnencodable "$argon2id$" ∧ ¬ IsReadable "$argon2id$" ∧ verify "$argon2id$" "password" = .ok false := by
  have hascii : ¬ IsUnencodable "$argon2id$" := fun h => absurd (any_iff.2 h.2) (by decide)
  have hmalformed : ¬ IsReadable "$argon2id$" := by
    rw [isReadable_iff]
    decide
  exact ⟨hascii, hmalformed, (malformed_hashes_never_match "$argon2id$" "password").2.1 hascii hmalformed⟩

/-- There is a malformed hash that stops the check: it has the mark, and a letter that is not ASCII. -/
theorem accented_hash_stops_check : ¬ IsReadable "$argon2é" ∧ ¬ ∃ right, verify "$argon2é" "password" = .ok right := by
  have hstops : IsUnencodable "$argon2é" := ⟨⟨['é'], rfl⟩, 'é', by decide, by decide⟩
  refine ⟨?_, ?_⟩
  · rw [isReadable_iff]
    decide
  · rintro ⟨right, hright⟩
    rw [verify_of_isUnencodable hstops] at hright
    cases hright

end AccountSecurity.Hasher
