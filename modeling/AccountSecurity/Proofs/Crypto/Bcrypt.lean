import AccountSecurity.Crypto.Bcrypt
import AccountSecurity.Proofs.Encoding.Base64
import AccountSecurity.Proofs.Text.Integer

/-!
# The stored form of the cipher-based hash

* `Encoded.IsStoredAs` : the text that a hash is stored as;
* `read?_eq_some_iff` : **these are the texts that are read**;
* `isStoredAs_hash` : a new hash is stored as it is written;
* `accepts_hash` : it accepts its own password;
* `chars_hash` : its parts, with the cost in two digits.
-/

namespace AccountSecurity.Bcrypt
variable {cost : Nat} {salt password : List UInt8}

theorem isAlphabet_alphabet : Base64.IsAlphabet alphabet := ⟨by decide, by decide⟩

theorem length_bigEndian (width n : Nat) : (Sha1.bigEndian width n).length = width := by
  simp [Sha1.bigEndian]

theorem length_digest (cost : Nat) (salt password : List UInt8) : (digest cost salt password).length = 23 := by
  unfold digest
  dsimp only
  generalize harden _ _ _ _ = s
  rw [List.length_take, List.length_flatMap]
  simp [length_bigEndian, Function.comp_def]

/-! ## The cost -/

/-- **A cost** is read iff it lies within its bounds and is written in two digits. -/
theorem readCost?_eq_some_iff {a b : Char} :
    readCost? a b = some cost ↔ minCost ≤ cost ∧ cost ≤ maxCost ∧ Text.padded 2 cost = [a, b] := by
  constructor
  · intro h
    have hall : ∀ x < 10, ∀ y < 10, Text.padded 2 (10 * x + y) = [Nat.digitChar x, Nat.digitChar y] := by decide
    unfold readCost? at h
    split at h
    · next hdigits =>
      obtain ⟨ha, ha'⟩ := Text.digitChar_value hdigits.1
      obtain ⟨hb, hb'⟩ := Text.digitChar_value hdigits.2
      dsimp only at h
      split at h
      · next hbounds =>
        cases h
        exact ⟨hbounds.1, hbounds.2, (hall _ ha _ hb).trans (by rw [ha', hb'])⟩
      · cases h
    · cases h
  · rintro ⟨hmin, hmax, hdigits⟩
    have hall : ∀ n < 32, 4 ≤ n → Text.padded 2 n = [Nat.digitChar (n / 10), Nat.digitChar (n % 10)] ∧
        readCost? (Nat.digitChar (n / 10)) (Nat.digitChar (n % 10)) = some n := by decide
    obtain ⟨hpadded, hread⟩ := hall cost (Nat.lt_succ_of_le hmax) hmin
    rw [hpadded] at hdigits
    cases hdigits
    exact hread

/-! ## The whole form -/

/-- A hash as it is computed: of a revision that is read, a cost within its bounds, a salt of 16 bytes and a digest of
23 bytes. -/
structure Encoded.IsValid (e : Encoded) : Prop where
  revision : e.revision ∈ revisions
  minCost_le : minCost ≤ e.cost
  le_maxCost : e.cost ≤ maxCost
  salt : e.salt.length = 16
  digest : e.digest.length = 23

/-- The text is the stored form of a valid hash. -/
def Encoded.IsStoredAs (e : Encoded) (s : List Char) : Prop := e.IsValid ∧ s = e.chars

theorem isStoredAs_of_read? {s : List Char} {e : Encoded} (h : Encoded.read? s = some e) : e.IsStoredAs s := by
  unfold Encoded.read? at h
  split at h
  · next revision a b rest =>
    split at h
    · next hrest =>
      simp only [Option.bind_eq_bind, Option.bind_eq_some_iff] at h
      obtain ⟨cost, hcost, salt, hsalt, digest, hdigest, h⟩ := h
      cases h
      obtain ⟨hmin, hmax, hpadded⟩ := readCost?_eq_some_iff.1 hcost
      have hsaltLength := Base64.length_of_decode? hsalt
      have hdigestLength := Base64.length_of_decode? hdigest
      rw [List.length_take, hrest.2] at hsaltLength
      rw [List.length_drop, hrest.2] at hdigestLength
      refine ⟨⟨hrest.1, hmin, hmax, hsaltLength, hdigestLength⟩, ?_⟩
      unfold Encoded.chars
      dsimp only
      rw [hpadded, Base64.encode_of_decode? isAlphabet_alphabet hsalt,
        Base64.encode_of_decode? isAlphabet_alphabet hdigest]
      simp
    · cases h
  · cases h

theorem read?_of_isStoredAs {s : List Char} {e : Encoded} (h : e.IsStoredAs s) : Encoded.read? s = some e := by
  obtain ⟨⟨hrevision, hmin, hmax, hsalt, hdigest⟩, rfl⟩ := h
  obtain ⟨a, b, hpadded⟩ := List.length_eq_two.1 (Text.length_padded (n := e.cost) (by decide)
    (Nat.lt_of_le_of_lt hmax (by decide)))
  have hsaltText : (Base64.encode alphabet e.salt).length = 22 := by rw [Base64.length_encode, hsalt]
  have hdigestText : (Base64.encode alphabet e.digest).length = 31 := by rw [Base64.length_encode, hdigest]
  unfold Encoded.chars
  rw [hpadded]
  show Encoded.read? ('$' :: '2' :: e.revision :: '$' :: a :: b :: '$' ::
    (Base64.encode alphabet e.salt ++ Base64.encode alphabet e.digest)) = _
  rw [Encoded.read?, if_pos ⟨hrevision, by rw [List.length_append, hsaltText, hdigestText]⟩,
    readCost?_eq_some_iff.2 ⟨hmin, hmax, hpadded⟩, List.take_left' hsaltText, List.drop_left' hsaltText,
    Base64.decode?_encode isAlphabet_alphabet, Base64.decode?_encode isAlphabet_alphabet]
  rfl

/-- **A hash is read** iff the text is its stored form. -/
theorem read?_eq_some_iff {s : List Char} {e : Encoded} : Encoded.read? s = some e ↔ e.IsStoredAs s :=
  ⟨isStoredAs_of_read?, read?_of_isStoredAs⟩

/-! ## New hashes -/

/-- The characters behind the cost. -/
def tail (cost : Nat) (salt password : List UInt8) : List Char :=
  Base64.encode alphabet salt ++ Base64.encode alphabet (digest cost salt password)

theorem chars_hash (cost : Nat) (salt password : List UInt8) :
    (hash cost salt password).chars = [] ++ '$' :: (['2', 'b'] ++ '$' ::
      (Text.padded 2 cost ++ '$' :: tail cost salt password)) := by
  simp [Encoded.chars, hash, currentRevision, tail]

/-- **A new hash** is stored as it is written. -/
theorem isStoredAs_hash (hs : salt.length = 16) (hmin : minCost ≤ cost) (hmax : cost ≤ maxCost)
    (password : List UInt8) : (hash cost salt password).IsStoredAs (hash cost salt password).chars := by
  have hrevision : currentRevision ∈ revisions := by decide
  exact ⟨⟨hrevision, hmin, hmax, hs, length_digest cost salt password⟩, rfl⟩

/-- A new hash accepts its own password. -/
theorem accepts_hash (cost : Nat) (salt password : List UInt8) : (hash cost salt password).accepts password := by
  simp [Encoded.accepts, hash]

end AccountSecurity.Bcrypt
