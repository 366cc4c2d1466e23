import AccountSecurity.Proofs.Password.StoredHash

/-!
# New hashes

A hash is checked by what it says of itself, and replaced by what the hasher says. The two agree on a hash that the
hasher has just made.

* `Hasher.Works` : settings under which hashes can be made, and salts of the size that hashes have;
* `Hasher.matches_hash` : a new hash is stored for its own password;
* `Hasher.verify_hash` : a new hash accepts its own password;
* `Hasher.needsRehash_hash` : it is not to be replaced;
* `Hasher.isMemoryHard_of_isTooLong` : only a memory-hard hash accepts a password that is too long for the other kind;
* `Hasher.Refuses`, `Hasher.exists_hash` : which passwords a hasher makes no hashes of;
* `Hasher.Supersedes` : which hashers replace the hashes of which;
* `Hasher.hashers_interoperate` : **hashers of different settings** check and replace each other's hashes.
-/

namespace AccountSecurity.Hasher
variable {h : Hasher} {salts : Salts} {stored password : String}

/-- New hashes can be made, and the memory-hard ones have salts of 16 bytes. -/
structure Works (h : Hasher) (salts : Salts) : Prop where
  usable : h.IsUsable salts
  salted : ∀ costs, h = .argon2id costs → salts.bytes.length = 16

/-! ## Memory-hard hashes -/

/-- The parameters are the costs, which are not negative. -/
theorem costs_of_paramsOf {costs : MemoryCosts} {p : Argon2.Params} (hp : paramsOf costs = .ok p) :
    p.isUsable ∧ p.version = Argon2.currentVersion ∧ (p.passes : Int) = costs.passes ∧
      (p.memory : Int) = costs.memory ∧ (p.lanes : Int) = costs.lanes := by
  unfold paramsOf at hp
  split at hp
  · next hw =>
    simp only [isWord, Bool.and_eq_true, decide_eq_true_eq] at hw
    obtain ⟨⟨⟨hpasses, -⟩, hmemory, -⟩, hlanes, -⟩ := hw
    dsimp only at hp
    split at hp
    · next hu =>
      rw [← Except.ok.inj hp]
      exact ⟨hu, rfl, Int.toNat_of_nonneg hpasses, Int.toNat_of_nonneg hmemory, Int.toNat_of_nonneg hlanes⟩
    · cases hp
  · cases hp

theorem fitsWords_of_paramsOf {costs : MemoryCosts} {p : Argon2.Params} (hp : paramsOf costs = .ok p) :
    p.FitsWords := by
  obtain ⟨-, hv, hm, ht, hl⟩ := lt_of_paramsOf hp
  exact ⟨hv, hm, ht, hl⟩

theorem isMemoryHard_argon2 {p : Argon2.Params} (hk : p.kind = .hybrid) (salt password : List UInt8) :
    isMemoryHard (Argon2.hash p salt password).text := by
  unfold isMemoryHard Argon2.Encoded.text Argon2.hash
  rw [String.toList_ofList, chars_params p hk]
  rfl

theorem matches_argon2 {costs : MemoryCosts} {p : Argon2.Params} (hp : paramsOf costs = .ok p) {salt : List UInt8}
    (hs : salt.length = 16) (password : String) :
    Matches (Argon2.hash p salt (passwordBytes password)).text password := by
  refine .memoryHard (Argon2.hash p salt (passwordBytes password)) ?_ (Argon2.accepts_hash p salt _)
  rw [Argon2.Encoded.text, String.toList_ofList]
  exact Argon2.isStoredAs_hash (fitsWords_of_paramsOf hp) (costs_of_paramsOf hp).1 (by omega) _

theorem currentSettings_inj {costs costs' : MemoryCosts} :
    currentSettings costs = currentSettings costs' ↔ costs = costs' := by
  refine ⟨fun he => ?_, congrArg currentSettings⟩
  obtain ⟨hpasses, hmemory, hlanes⟩ : costs.passes = costs'.passes ∧ costs.memory = costs'.memory ∧
      costs.lanes = costs'.lanes := by simpa [currentSettings] using he
  cases costs
  cases costs'
  simp_all

/-- A memory-hard hash is to be replaced by a hasher of other costs. -/
theorem needsRehash_argon2 {costs : MemoryCosts} {p : Argon2.Params} (hp : paramsOf costs = .ok p) {salt : List UInt8}
    (hs : salt.length = 16) (password : List UInt8) (costs' : MemoryCosts) :
    (argon2id costs').needsRehash (Argon2.hash p salt password).text = .ok (decide (costs ≠ costs')) := by
  obtain ⟨hk, hversion, hmemory, hpasses, hlanes⟩ := lt_of_paramsOf hp
  obtain ⟨-, hv, ht, hm, hl⟩ := costs_of_paramsOf hp
  have hsettings : storedSettings? (Argon2.hash p salt password).text = some (currentSettings costs) := by
    rw [Argon2.hash, storedSettings?_text hk hversion hmemory hpasses hlanes, Base64.length_encode,
      Base64.length_encode, Argon2.length_digest, hs, hv, ht, hm, hl]
    rfl
  unfold needsRehash
  rw [isMemoryHard_argon2 hk, hsettings]
  refine congrArg Except.ok (Bool.eq_iff_iff.2 ?_)
  rw [bne_iff_ne, decide_eq_true_iff, Ne, currentSettings_inj]

/-! ## Cipher-based hashes -/

theorem length_of_saltOf? {text : String} {salt : List UInt8} (hs : saltOf? text = some salt) : salt.length = 16 := by
  unfold saltOf? at hs
  dsimp only at hs
  split at hs
  · next hlen => rw [Base64.length_of_decode? hs, hlen]
  · cases hs

/-- The salts that are made of some bytes. -/
def saltsOf (bytes : List UInt8) : Salts := ⟨String.ofList (Base64.encode Bcrypt.alphabet bytes), bytes⟩

/-- Rounds within their bounds work with whatever bytes are drawn. -/
theorem works_bcrypt {rounds : Int} (hmin : Bcrypt.minCost ≤ rounds) (hmax : rounds ≤ Bcrypt.maxCost)
    {bytes : List UInt8} (hb : bytes.length = 16) : (bcrypt rounds).Works (saltsOf bytes) := by
  have hlen : (Base64.encode Bcrypt.alphabet bytes).length = 22 := by rw [Base64.length_encode, hb]
  refine ⟨⟨hmin, hmax, ?_⟩, nofun⟩
  unfold saltOf? saltsOf
  dsimp only
  rw [String.toList_ofList, List.take_of_length_le (Nat.le_of_eq hlen), if_pos hlen,
    Base64.decode?_encode Bcrypt.isAlphabet_alphabet]
  rfl

theorem matches_bcrypt {cost : Nat} {salt : List UInt8} (hmin : Bcrypt.minCost ≤ cost) (hmax : cost ≤ Bcrypt.maxCost)
    (hs : salt.length = 16) {password : String} (hshort : isTooLong password = false) :
    Matches (Bcrypt.hash cost salt (passwordBytes password)).text password := by
  refine .cipherBased (Bcrypt.hash cost salt (passwordBytes password)) ?_ hshort (Bcrypt.accepts_hash cost salt _)
  rw [Bcrypt.Encoded.text, String.toList_ofList]
  exact Bcrypt.isStoredAs_hash hs hmin hmax _

/-- The rounds of a hash are read from it again. -/
theorem storedRounds?_bcrypt {cost : Nat} (hmax : cost ≤ Bcrypt.maxCost) (salt password : List UInt8) :
    storedRounds? (Bcrypt.hash cost salt password).text = some (cost : Int) := by
  have hlt : cost < 10 ^ 2 := Nat.lt_of_le_of_lt hmax (by decide)
  have hcost : ∀ c ∈ Text.padded 2 cost, c ≠ '$' := by
    rintro c hc rfl
    exact absurd (Text.isDigit_of_mem_padded hc) (by decide)
  unfold storedRounds?
  rw [Bcrypt.Encoded.text, Bcrypt.chars_hash, Text.pieces_append (by simp), Text.pieces_append (by simp),
    Text.pieces_append hcost]
  simp only [List.getElem?_cons_succ, List.getElem?_cons_zero, Option.bind_eq_bind, Option.bind_some]
  rw [Text.readInteger?_padded (by decide) (by decide) hlt]

/-- A cipher-based hash is to be replaced by a hasher of more rounds. -/
theorem needsRehash_bcrypt {cost : Nat} (hmax : cost ≤ Bcrypt.maxCost) (salt password : List UInt8) (rounds : Int) :
    (bcrypt rounds).needsRehash (Bcrypt.hash cost salt password).text = .ok (decide ((cost : Int) < rounds)) := by
  unfold needsRehash
  rw [not_isMemoryHard_bcrypt, storedRounds?_bcrypt hmax]

/-! ## Both kinds -/

/-- The hashes of one hasher are to be replaced by those of another: they are of the other algorithm, of fewer rounds
or of other memory-hard costs. -/
def Supersedes : (h made : Hasher) → Prop
  | bcrypt rounds, bcrypt cost => cost < rounds
  | argon2id costs', argon2id costs => costs ≠ costs'
  | _, _ => True

instance : (h made : Hasher) → Decidable (h.Supersedes made)
  | bcrypt rounds, bcrypt cost => inferInstanceAs (Decidable (cost < rounds))
  | argon2id costs', argon2id costs => inferInstanceAs (Decidable (costs ≠ costs'))
  | bcrypt _, argon2id _ => .isTrue trivial
  | argon2id _, bcrypt _ => .isTrue trivial

theorem not_supersedes_self (h : Hasher) : ¬ h.Supersedes h := by
  cases h <;> simp [Supersedes]

/-- A new hash is stored for its own password. -/
theorem matches_hash (hw : h.Works salts) (hh : h.hash salts password = .ok stored) : Matches stored password := by
  cases makes_of_hash hh with
  | argon2id costs p hp => exact matches_argon2 hp (hw.salted costs rfl) password
  | bcrypt cost salt hshort hmin hmax hsalt => exact matches_bcrypt hmin hmax (length_of_saltOf? hsalt) hshort

/-- Every hasher knows whether to replace a new hash. -/
theorem needsRehash_of_hash {made : Hasher} (hw : made.Works salts) (hh : made.hash salts password = .ok stored)
    (h : Hasher) : h.needsRehash stored = .ok (decide (h.Supersedes made)) := by
  cases makes_of_hash hh with
  | argon2id costs p hp =>
    cases h with
    | argon2id costs' => exact needsRehash_argon2 hp (hw.salted costs rfl) _ costs'
    | bcrypt rounds =>
      unfold needsRehash
      rw [isMemoryHard_argon2 (lt_of_paramsOf hp).1]
      rfl
  | bcrypt cost salt hshort hmin hmax hsalt =>
    cases h with
    | bcrypt rounds => exact needsRehash_bcrypt hmax salt _ rounds
    | argon2id costs =>
      unfold needsRehash
      rw [not_isMemoryHard_bcrypt]
      rfl

/-- **A new hash** accepts its own password. -/
theorem verify_hash (hw : h.Works salts) (hh : h.hash salts password = .ok stored) :
    verify stored password = .ok true :=
  verify_of_matches (IsHash.not_isUnencodable ⟨h, salts, password, hh⟩) (matches_hash hw hh)

/-- **A new hash** is not to be replaced. -/
theorem needsRehash_hash (hw : h.Works salts) (hh : h.hash salts password = .ok stored) :
    h.needsRehash stored = .ok false :=
  (needsRehash_of_hash hw hh h).trans (congrArg Except.ok (decide_eq_false h.not_supersedes_self))

/-! ## Passwords that are too long -/

/-- A password that is too long for the cipher-based algorithm is accepted by memory-hard hashes only. -/
theorem isMemoryHard_of_isTooLong (hlong : isTooLong password) (hv : verify stored password = .ok true) :
    isMemoryHard stored := by
  by_contra hm
  unfold verify at hv
  rw [if_neg hm, if_pos hlong] at hv
  cases hv

/-- The hasher can make no hash of the password, for its length. -/
def Refuses (h : Hasher) (password : String) : Prop := h.algorithmName = "bcrypt" ∧ isTooLong password

/-- A hasher that refuses the password refuses to make a hash of it. -/
theorem hash_of_refuses (hr : h.Refuses password) (salts : Salts) :
    h.hash salts password = .error (.refused (.passwordTooLong Bcrypt.maxPasswordBytes)) := by
  obtain ⟨hname, hlong⟩ := hr
  cases h with
  | argon2id costs => exact absurd hname (by simp [algorithmName])
  | bcrypt rounds => simp only [hash, if_pos hlong]

/-- A hash that accepts a password which the hasher refuses is of the other kind. -/
theorem needsRehash_of_refuses (hr : h.Refuses password) (hv : verify stored password = .ok true) :
    h.needsRehash stored = .ok true := by
  obtain ⟨hname, hlong⟩ := hr
  cases h with
  | argon2id costs => exact absurd hname (by simp [algorithmName])
  | bcrypt rounds =>
    unfold needsRehash
    rw [isMemoryHard_of_isTooLong hlong hv]

/-- A hasher that works makes hashes of all passwords but those that it refuses. -/
theorem exists_hash (hw : h.Works salts) (hr : ¬ h.Refuses password) : ∃ new, h.hash salts password = .ok new := by
  obtain hnew | ⟨hlong, n, hn⟩ := hash_of_isUsable hw.usable password
  · exact hnew
  · cases h with
    | argon2id costs =>
      obtain ⟨params, hp⟩ := hw.usable
      exact ⟨_, by simp only [hash, hp]; rfl⟩
    | bcrypt rounds => exact absurd ⟨rfl, hlong⟩ hr

/-! ## Hashers among each other -/

/-- What all hashers make of a hash that one of them made. Checking does not ask which hasher is configured. -/
structure IsSharedHash (made : Hasher) (password stored : String) : Prop where
  accepts : verify stored password = .ok true
  current : made.needsRehash stored = .ok false
  replaced : ∀ h : Hasher, h.needsRehash stored = .ok (decide (h.Supersedes made))
  short : made.algorithmName = "bcrypt" → ∀ long, Bcrypt.maxPasswordBytes < long.utf8ByteSize →
    verify stored long = .ok false

/-- **Hashers of different settings work together.** A hasher refuses a password iff it is cipher-based and the
password is too long. Otherwise it makes a hash that is checked and replaced as the settings of the two hashers say,
whichever comes to see it. -/
theorem hashers_interoperate {made : Hasher} (hw : made.Works salts) (password : String) :
    (made.hash salts password = .error (.refused (.passwordTooLong Bcrypt.maxPasswordBytes)) ↔ made.Refuses password) ∧
      (¬ made.Refuses password → ∃ stored, made.hash salts password = .ok stored ∧
        made.IsSharedHash password stored) := by
  refine ⟨⟨fun he => ?_, fun hr => hash_of_refuses hr salts⟩, fun hr => ?_⟩
  · by_contra hr
    obtain ⟨stored, hh⟩ := exists_hash hw hr
    rw [hh] at he
    cases he
  · obtain ⟨stored, hh⟩ := exists_hash hw hr
    refine ⟨stored, hh, verify_hash hw hh, needsRehash_hash hw hh, needsRehash_of_hash hw hh,
      fun hname long hlong => ?_⟩
    cases made with
    | argon2id costs => exact absurd hname (by simp [algorithmName])
    | bcrypt rounds => exact verify_of_isTooLong (isMemoryHard_of_hash_bcrypt hh) (decide_eq_true hlong)

/-- A hash of the least rounds, as hashers of more rounds and of the other algorithm see it. -/
theorem hashers_interoperate_least :
    (bcrypt 4).Works (saltsOf (List.replicate 16 0)) ∧ ¬ (bcrypt 4).Refuses "password" ∧
    ∃ stored, (bcrypt 4).hash (saltsOf (List.replicate 16 0)) "password" = .ok stored ∧
      verify stored "password" = .ok true ∧ (bcrypt 4).needsRehash stored = .ok false ∧
      (bcrypt 5).needsRehash stored = .ok true ∧ (argon2id {}).needsRehash stored = .ok true := by
  have hworks : (bcrypt 4).Works (saltsOf (List.replicate 16 0)) := works_bcrypt (by decide) (by decide) (by decide)
  have hshort : ¬ (bcrypt 4).Refuses "password" := fun hr => absurd hr.2 (by decide +kernel)
  obtain ⟨stored, hh, hshared⟩ := (hashers_interoperate hworks "password").2 hshort
  exact ⟨hworks, hshort, stored, hh, hshared.accepts, hshared.current, hshared.replaced (bcrypt 5),
    hshared.replaced (argon2id {})⟩

end AccountSecurity.Hasher
