import AccountSecurity.Crypto.Argon2Encoded
import AccountSecurity.Proofs.Encoding.Base64
import AccountSecurity.Proofs.Text.Integer
import Mathlib.Data.List.TakeWhile

/-!
# The stored form of the memory-hard hash

* `length_digest` : a digest has the size that is asked for;
* `readNumber?_eq_some_iff` : a number of 32 bits is read iff it is written in decimal, up to what follows it;
* `Encoded.IsStoredAs` : the texts that a hash may be stored as;
* `read?_eq_some_iff` : **these are the texts that are read**;
* `isStoredAs_hash` : a new hash is stored as it is written;
* `accepts_hash` : it accepts its own password.
-/

namespace AccountSecurity

/-! ## Sizes of digests -/

namespace Blake2b

theorem length_littleEndian (width n : Nat) : (littleEndian width n).length = width := by
  simp [littleEndian]

theorem size_compress (h : Array UInt64) (block : List UInt8) (count : Nat) (isLast : Bool) :
    (compress h block count isLast).size = 8 := by
  unfold compress
  dsimp only
  rw [List.size_toArray, List.length_map, List.length_range]

theorem length_digest {size : Nat} (hs : size ≤ 64) (message : List UInt8) : (digest size message).length = size := by
  unfold digest
  dsimp only
  rw [List.length_take, List.length_flatMap]
  simp only [length_littleEndian, List.map_const', Array.length_toList, size_compress, List.sum_replicate_nat]
  omega

end Blake2b

namespace Argon2
variable {params : Params} {salt password : List UInt8} {rest : List Char}

theorem length_digest (params : Params) (password salt : List UInt8) :
    (digest params digestSize password salt).length = digestSize := by
  unfold digest longDigest
  dsimp only
  rw [if_pos (by decide)]
  exact Blake2b.length_digest (by decide) _

/-! ## Numbers -/

/-- What follows a number does not go on with it. -/
def EndsNumber (rest : List Char) : Prop := ∀ c ∈ rest.head?, c.isDigit = false

theorem endsNumber_cons {c : Char} (h : c.isDigit = false) : EndsNumber (c :: rest) := by
  rintro _ ⟨⟩
  exact h

theorem takeWhile_digits {s : List Char} (hs : ∀ c ∈ s, c.isDigit) (hr : EndsNumber rest) :
    (s ++ rest).takeWhile Char.isDigit = s := by
  rw [List.takeWhile_append_of_pos hs]
  cases rest with
  | nil => simp
  | cons c rest => rw [List.takeWhile_cons_of_neg (by simp [hr c rfl]), List.append_nil]

theorem drop_length_takeWhile (p : Char → Bool) (s : List Char) : s.drop (s.takeWhile p).length = s.dropWhile p := by
  induction s with
  | nil => rfl
  | cons c s ih => by_cases hc : p c <;> simp [hc, ih]

/-- Digits without zeros in front are those of their value. -/
theorem decimal_value {s : List Char} (hne : s ≠ []) (hs : ∀ c ∈ s, c.isDigit)
    (hzero : s.head? = some '0' → s = ['0']) :
    Text.decimal (Text.ofDigits (s.map fun c => c.toNat - '0'.toNat)) = s := by
  rw [Text.decimal_ofDigits]
  · exact Text.digits_values hs
  · simpa using hne
  · exact fun d => Text.lt_of_mem_values hs
  · intro hhead
    rw [List.head?_map, Option.map_eq_some_iff] at hhead
    obtain ⟨c, hc, hvalue⟩ := hhead
    have hchar := (Text.digitChar_value (hs c (List.mem_of_mem_head? hc))).2
    rw [hvalue] at hchar
    rw [hzero (hc.trans (congrArg some hchar.symm))]
    rfl

/-- **A number** is read iff it is written in decimal, up to what follows it. -/
theorem readNumber?_eq_some_iff {s : List Char} {n : Nat} :
    readNumber? s = some (n, rest) ↔ n < 2 ^ 32 ∧ EndsNumber rest ∧ s = Text.decimal n ++ rest := by
  unfold readNumber?
  dsimp only
  constructor
  · intro h
    split at h
    · cases h
    next hread =>
    simp only [not_or, not_and, not_not, Nat.not_le] at hread
    obtain ⟨hne, hzero, hlt⟩ := hread
    cases h
    rw [decimal_value hne (fun c hc => List.mem_takeWhile_imp hc) hzero, drop_length_takeWhile]
    refine ⟨hlt, fun c hc => ?_, List.takeWhile_append_dropWhile.symm⟩
    have hstop := List.head?_dropWhile_not Char.isDigit s
    rw [hc] at hstop
    exact hstop
  · rintro ⟨hn, hr, rfl⟩
    obtain ⟨ds, hds, hne, hlt, hval⟩ := Text.exists_digits n
    have hzero : ¬ ((Text.decimal n).head? = some '0' ∧ Text.decimal n ≠ ['0']) := by
      rintro ⟨hhead, hlong⟩
      rw [Text.eq_zero_of_head hhead] at hlong
      exact hlong rfl
    have hvalue : Text.ofDigits ((Text.decimal n).map fun c => c.toNat - '0'.toNat) = n := by
      rw [hds, Text.values_digits hlt, hval]
    have hdecimal : Text.decimal n ≠ [] := by
      rw [hds]
      simpa using hne
    rw [takeWhile_digits (fun c => Text.isDigit_of_mem_decimal) hr, hvalue, List.drop_left]
    exact if_neg (by rintro (h | h | h); exacts [hdecimal h, hzero h, Nat.not_lt.2 h hn])

/-! ## The parts of the stored form -/

theorem after?_eq_some_iff {start s : List Char} : after? start s = some rest ↔ s = start ++ rest := by
  induction start generalizing s with
  | nil => simp [after?]
  | cons c start ih =>
    cases s with
    | nil => simp [after?]
    | cons x s =>
      rw [after?]
      split
      · next hc => simp [ih, hc]
      · next hc => simp [Ne.symm hc]

theorem after?_append (start rest : List Char) : after? start (start ++ rest) = some rest := after?_eq_some_iff.2 rfl

theorem readNamed?_eq_some_iff {name : String} {s : List Char} {n : Nat} :
    readNamed? name s = some (n, rest) ↔
      n < 2 ^ 32 ∧ EndsNumber rest ∧ s = name.toList ++ (Text.decimal n ++ rest) := by
  unfold readNamed?
  simp only [Option.bind_eq_bind, Option.bind_eq_some_iff, after?_eq_some_iff, readNumber?_eq_some_iff]
  constructor
  · rintro ⟨s, rfl, hn, hr, rfl⟩
    exact ⟨hn, hr, rfl⟩
  · rintro ⟨hn, hr, rfl⟩
    exact ⟨_, rfl, hn, hr, rfl⟩

/-- The variants but the first are followed by what separates the parts. -/
theorem readKind?_eq_some_iff {s : List Char} {kind : Kind} :
    readKind? s = some (kind, rest) ↔
      s = '$' :: kind.name.toList ++ rest ∧ (kind = .hybrid ∨ rest.head? = some '$') := by
  constructor
  · intro h
    have htake (name : String) (hs : String.ofList (s.take 9) = name) : s = name.toList ++ s.drop 9 := by
      rw [← hs, String.toList_ofList, List.take_append_drop]
    unfold readKind? at h
    dsimp only at h
    split at h
    · next hs =>
      cases h
      exact ⟨htake _ hs, .inl rfl⟩
    split at h
    · next hs =>
      cases h
      rw [htake _ hs]
      exact ⟨rfl, .inr rfl⟩
    split at h
    · next hs =>
      cases h
      rw [htake _ hs]
      exact ⟨rfl, .inr rfl⟩
    · cases h
  · rintro ⟨rfl, hr⟩
    cases kind with
    | hybrid => rfl
    | independent =>
      obtain ⟨rest, rfl⟩ := List.head?_eq_some_iff.1 (hr.resolve_left nofun)
      rfl
    | dependent =>
      obtain ⟨rest, rfl⟩ := List.head?_eq_some_iff.1 (hr.resolve_left nofun)
      rfl

/-- What stands for a version: its number, or nothing for the one that came before there were numbers. -/
inductive VersionText : Nat → List Char → Prop
  | number (n : Nat) : VersionText n ("$v=".toList ++ Text.decimal n)
  | leftOut : VersionText replacingVersion []

theorem versionText_of_readVersion? {s : List Char} {n : Nat} (h : readVersion? s = some (n, rest)) :
    n < 2 ^ 32 ∧ ∃ version, VersionText n version ∧ s = version ++ rest := by
  unfold readVersion? at h
  split at h
  · next s' hs =>
    obtain ⟨hn, -, rfl⟩ := readNumber?_eq_some_iff.1 h
    rw [after?_eq_some_iff.1 hs]
    exact ⟨hn, _, .number n, by rw [List.append_assoc]⟩
  · cases h
    exact ⟨by decide, [], .leftOut, rfl⟩

theorem readVersion?_of_versionText {n : Nat} (hn : n < 2 ^ 32) {version : List Char} (hv : VersionText n version)
    (rest : List Char) : readVersion? (version ++ ("$m=".toList ++ rest)) = some (n, "$m=".toList ++ rest) := by
  cases hv with
  | leftOut => rfl
  | number =>
    rw [readVersion?, List.append_assoc, after?_append]
    exact readNumber?_eq_some_iff.2 ⟨hn, endsNumber_cons rfl, rfl⟩

/-- A part of the stored form that is written in base 64. -/
theorem takeWhile_encode (bytes : List UInt8) (rest : List Char) :
    (Base64.encode Base64.standard bytes ++ '$' :: rest).takeWhile (· != '$') =
      Base64.encode Base64.standard bytes := by
  rw [List.takeWhile_append_of_pos fun c hc => by
    simpa using Base64.ne_of_mem_encode Base64.isAlphabet_standard hc (by decide)]
  simp

/-! ## The whole form -/

/-- The costs of a memory-hard hash, each within 32 bits. -/
structure Params.FitsWords (p : Params) : Prop where
  version : p.version < 2 ^ 32
  memory : p.memory < 2 ^ 32
  passes : p.passes < 2 ^ 32
  lanes : p.lanes < 2 ^ 32

/-- The hash can be computed with, and is not shorter than hashes may be. -/
structure Encoded.IsValid (e : Encoded) : Prop where
  fits : e.params.FitsWords
  usable : e.params.isUsable
  salt : 8 ≤ e.salt.length
  digest : 4 ≤ e.digest.length

/-- The stored form, with what stands for its version. -/
def Encoded.form (e : Encoded) (version : List Char) : List Char :=
  '$' :: e.params.kind.name.toList ++ (version ++ ("$m=".toList ++ (Text.decimal e.params.memory ++
    (",t=".toList ++ (Text.decimal e.params.passes ++ (",p=".toList ++ (Text.decimal e.params.lanes ++
      ('$' :: (Base64.encode Base64.standard e.salt ++ '$' :: Base64.encode Base64.standard e.digest)))))))))

/-- The text is a stored form of a valid hash; what stands behind a null character does not matter. -/
def Encoded.IsStoredAs (e : Encoded) (s : List Char) : Prop :=
  e.IsValid ∧ ∃ version, VersionText e.params.version version ∧ s.takeWhile (· != '\x00') = e.form version

theorem form_number (e : Encoded) : e.form ("$v=".toList ++ Text.decimal e.params.version) = e.chars := by
  simp [Encoded.form, Encoded.chars, Params.chars]

theorem isStoredAs_of_read? {s : List Char} {e : Encoded} (h : Encoded.read? s = some e) : e.IsStoredAs s := by
  unfold Encoded.read? at h
  simp only [Option.bind_eq_bind, Option.bind_eq_some_iff, Prod.exists] at h
  obtain ⟨kind, _, hkind, version, _, hversion, memory, _, hmemory, passes, _, hpasses, lanes, _, hlanes, behind, hmark,
    salt, hsalt, last, hlast, digest, hdigest, h⟩ := h
  split at h
  · next hvalid =>
    cases h
    obtain ⟨hkind, -⟩ := readKind?_eq_some_iff.1 hkind
    obtain ⟨hv, versionText, hversionText, rfl⟩ := versionText_of_readVersion? hversion
    obtain ⟨hm, -, rfl⟩ := readNamed?_eq_some_iff.1 hmemory
    obtain ⟨ht, -, rfl⟩ := readNamed?_eq_some_iff.1 hpasses
    obtain ⟨hl, -, rfl⟩ := readNamed?_eq_some_iff.1 hlanes
    rw [drop_length_takeWhile, after?_eq_some_iff] at hlast
    have hbehind : behind = Base64.encode Base64.standard salt ++ '$' :: Base64.encode Base64.standard digest := by
      rw [Base64.encode_of_decode? Base64.isAlphabet_standard hsalt,
        Base64.encode_of_decode? Base64.isAlphabet_standard hdigest]
      exact List.takeWhile_append_dropWhile.symm.trans (congrArg _ hlast)
    refine ⟨⟨⟨hv, hm, ht, hl⟩, hvalid.1, hvalid.2.1, hvalid.2.2⟩, versionText, hversionText, hkind.trans ?_⟩
    rw [after?_eq_some_iff.1 hmark, hbehind]
    rfl
  · cases h

theorem read?_of_isStoredAs {s : List Char} {e : Encoded} (h : e.IsStoredAs s) : Encoded.read? s = some e := by
  obtain ⟨⟨hfits, husable, hsalt, hdigest⟩, version, hversion, hs⟩ := h
  have hseparated (rest : List Char) : (version ++ ("$m=".toList ++ rest)).head? = some '$' := by
    generalize e.params.version = n at hversion
    cases hversion <;> rfl
  unfold Encoded.read?
  simp only [Option.bind_eq_bind, Option.bind_eq_some_iff, Prod.exists]
  refine ⟨e.params.kind, _, readKind?_eq_some_iff.2 ⟨hs, .inr (hseparated _)⟩,
    e.params.version, _, readVersion?_of_versionText hfits.version hversion _,
    e.params.memory, _, readNamed?_eq_some_iff.2 ⟨hfits.memory, endsNumber_cons rfl, rfl⟩,
    e.params.passes, _, readNamed?_eq_some_iff.2 ⟨hfits.passes, endsNumber_cons rfl, rfl⟩,
    e.params.lanes, _, readNamed?_eq_some_iff.2 ⟨hfits.lanes, endsNumber_cons rfl, rfl⟩,
    _, after?_append ['$'] _, e.salt, ?_, Base64.encode Base64.standard e.digest, ?_, e.digest,
    Base64.decode?_encode Base64.isAlphabet_standard _, if_pos ⟨husable, hsalt, hdigest⟩⟩
  · rw [List.append_eq, takeWhile_encode, Base64.decode?_encode Base64.isAlphabet_standard]
  · rw [List.append_eq, takeWhile_encode, List.drop_left]
    exact after?_append ['$'] _

/-- **A hash is read** iff the text is a stored form of it. -/
theorem read?_eq_some_iff {s : List Char} {e : Encoded} : Encoded.read? s = some e ↔ e.IsStoredAs s :=
  ⟨isStoredAs_of_read?, read?_of_isStoredAs⟩

/-- Every stored form begins with the mark. -/
theorem exists_mark_append {s : List Char} {e : Encoded} (h : e.IsStoredAs s) : ∃ rest, s = mark.toList ++ rest := by
  obtain ⟨-, version, -, hs⟩ := h
  have hform : ∃ rest, e.form version = mark.toList ++ rest := by
    unfold Encoded.form
    cases e.params.kind <;> exact ⟨_, rfl⟩
  obtain ⟨rest, hrest⟩ := hform
  exact ⟨rest ++ s.dropWhile (· != '\x00'), by
    rw [← List.append_assoc, ← hrest, ← hs, List.takeWhile_append_dropWhile]⟩

/-! ## New hashes -/

theorem ne_null_of_mem_chars (e : Encoded) : ∀ c ∈ e.chars, c ≠ '\x00' := by
  have hdecimal (n : Nat) : ∀ c ∈ Text.decimal n, c ≠ '\x00' := by
    rintro c hc rfl
    exact absurd (Text.isDigit_of_mem_decimal hc) (by decide)
  have hbytes (bytes : List UInt8) : ∀ c ∈ Base64.encode Base64.standard bytes, c ≠ '\x00' := fun c hc =>
    Base64.ne_of_mem_encode Base64.isAlphabet_standard hc (by decide)
  have hname (s : String) (h : s.toList.all (· != '\x00')) : ∀ c ∈ s.toList, c ≠ '\x00' := fun c hc =>
    bne_iff_ne.1 (List.all_eq_true.1 h c hc)
  rw [← form_number]
  simp only [Encoded.form, List.cons_append, List.forall_mem_append, List.forall_mem_cons]
  exact ⟨by decide, hname _ (by cases e.params.kind <;> decide), ⟨hname _ (by decide), hdecimal _⟩,
    hname _ (by decide), hdecimal _, hname _ (by decide), hdecimal _, hname _ (by decide), hdecimal _, by decide,
    hbytes _, by decide, hbytes _⟩

theorem isStoredAs_chars {e : Encoded} (h : e.IsValid) : e.IsStoredAs e.chars := by
  refine ⟨h, _, .number _, ?_⟩
  rw [form_number, List.takeWhile_eq_self_iff]
  exact fun c hc => by simpa using ne_null_of_mem_chars e c hc

/-- **A new hash** is stored as it is written. -/
theorem isStoredAs_hash (hw : params.FitsWords) (hu : params.isUsable) (hs : 8 ≤ salt.length) (password : List UInt8) :
    (hash params salt password).IsStoredAs (hash params salt password).chars := by
  have hdigest : 4 ≤ (hash params salt password).digest.length := by
    rw [hash, length_digest]
    decide
  exact isStoredAs_chars ⟨hw, hu, hs, hdigest⟩

/-- A new hash accepts its own password. -/
theorem accepts_hash (params : Params) (salt password : List UInt8) : (hash params salt password).accepts password := by
  simp [Encoded.accepts, hash, length_digest]

end Argon2

end AccountSecurity
