import AccountSecurity.Password.Hasher
import AccountSecurity.Proofs.Encoding.Base64
import AccountSecurity.Proofs.Text.Integer

/-!
# What hashers make and refuse

* `Hasher.verify_ne_refused`, `Hasher.needsRehash_ne_refused` : checking a password refuses nothing;
* `Hasher.length_of_hash_refused` : a new hash is refused for the length of the password only;
* `Hasher.Makes`, `Hasher.makes_of_hash` : the two ways in which a hash is made;
* `Hasher.IsHash` : a text that some hasher made;
* `Hasher.storedSettings?_text` : the settings that a memory-hard hash was made with are read from it again;
* `Hasher.needsRehash_of_isHash` : every hash that was made can be told to be replaced or kept.
-/

namespace AccountSecurity

@[simp] theorem Failure.value_ne_refused (p : ValueProblem) (e : SecurityError) : value p ≠ .refused e := nofun

namespace Hasher

/-- A check of a password fails or answers, but refuses nothing. -/
theorem verify_ne_refused (stored password : String) (e : SecurityError) :
    verify stored password ≠ .error (.refused e) := by
  unfold verify
  split
  · split
    · simp
    · split <;> simp
  · split
    · simp
    · split <;> simp

theorem needsRehash_ne_refused (h : Hasher) (stored : String) (e : SecurityError) :
    h.needsRehash stored ≠ .error (.refused e) := by
  unfold needsRehash
  split
  · simp
  · split <;> simp
  · simp
  · split <;> simp

/-- A password is refused for its length only. -/
theorem length_of_hash_refused {h : Hasher} {salts : Salts} {password : String} {e : SecurityError}
    (he : h.hash salts password = .error (.refused e)) : ∃ n, e = .passwordTooLong n := by
  unfold hash at he
  split at he
  · split at he <;> cases he
  · split at he
    · cases he
      exact ⟨_, rfl⟩
    · split at he
      · cases he
      · split at he <;> cases he

/-! ## Hashes that were made -/

/-- Some hasher made the text. -/
def IsHash (stored : String) : Prop :=
  ∃ (h : Hasher) (salts : Salts) (password : String), h.hash salts password = .ok stored

/-- New hashes can be made. -/
def IsUsable (h : Hasher) (salts : Salts) : Prop :=
  match h with
  | bcrypt rounds => (Bcrypt.minCost : Int) ≤ rounds ∧ rounds ≤ Bcrypt.maxCost ∧ (saltOf? salts.text).isSome
  | argon2id costs => ∃ params, paramsOf costs = .ok params

/-- With usable settings there is a new hash, or the password is too long. -/
theorem hash_of_isUsable {h : Hasher} {salts : Salts} (hu : h.IsUsable salts) (password : String) :
    (∃ stored, h.hash salts password = .ok stored) ∨
      isTooLong password ∧ ∃ n, h.hash salts password = .error (.refused (.passwordTooLong n)) := by
  unfold hash
  cases h with
  | argon2id costs =>
    obtain ⟨params, hp⟩ := hu
    dsimp only
    rw [hp]
    exact .inl ⟨_, rfl⟩
  | bcrypt rounds =>
    obtain ⟨hmin, hmax, hsalt⟩ := hu
    obtain ⟨salt, hs⟩ := Option.isSome_iff_exists.1 hsalt
    dsimp only
    split
    · next hlong => exact .inr ⟨hlong, _, rfl⟩
    · rw [if_neg (by omega), hs]
      exact .inl ⟨_, rfl⟩

theorem not_isMemoryHard_bcrypt (e : Bcrypt.Encoded) : isMemoryHard e.text = false := by
  unfold isMemoryHard Bcrypt.Encoded.text
  rw [String.toList_ofList]
  rfl

/-- How a hasher makes a hash of a password. -/
inductive Makes (salts : Salts) (password : String) : Hasher → String → Prop
  | argon2id (costs : MemoryCosts) (params : Argon2.Params) (usable : paramsOf costs = .ok params) :
      Makes salts password (argon2id costs) (Argon2.hash params salts.bytes (passwordBytes password)).text
  | bcrypt (cost : Nat) (salt : List UInt8) (short : isTooLong password = false) (minCost_le : Bcrypt.minCost ≤ cost)
      (le_maxCost : cost ≤ Bcrypt.maxCost) (salted : saltOf? salts.text = some salt) :
      Makes salts password (bcrypt cost) (Bcrypt.hash cost salt (passwordBytes password)).text

theorem makes_of_hash {h : Hasher} {salts : Salts} {password stored : String}
    (hh : h.hash salts password = .ok stored) : Makes salts password h stored := by
  unfold hash at hh
  cases h with
  | argon2id costs =>
    cases hp : paramsOf costs with
    | error f => simp [hp] at hh
    | ok p =>
      simp only [hp, Except.ok.injEq] at hh
      subst hh
      exact .argon2id costs p hp
  | bcrypt rounds =>
    dsimp only at hh
    split at hh
    · cases hh
    next hlong =>
    split at hh
    · cases hh
    next hrounds =>
    split at hh
    · next salt hsalt =>
      cases hh
      obtain ⟨cost, rfl⟩ : ∃ cost : Nat, rounds = cost := ⟨rounds.toNat, by omega⟩
      exact .bcrypt cost salt (by simpa using hlong) (by omega) (by omega) hsalt
    · cases hh

theorem isMemoryHard_of_hash_bcrypt {rounds : Int} {salts : Salts} {password stored : String}
    (h : (bcrypt rounds).hash salts password = .ok stored) : isMemoryHard stored = false := by
  cases makes_of_hash h
  exact not_isMemoryHard_bcrypt _

/-- A hash of the cipher-based algorithm accepts no password that is too long for it. -/
theorem verify_of_isTooLong {password stored : String} (hm : isMemoryHard stored = false)
    (hlong : isTooLong password) : verify stored password = .ok false := by
  unfold verify
  rw [if_neg (by simp [hm]), if_pos hlong]

/-! ## The settings of a memory-hard hash -/

theorem ne_of_mem_decimal {c x : Char} {n : Nat} (h : c ∈ Text.decimal n) (hx : x.isDigit = false) : c ≠ x := by
  rintro rfl
  rw [Text.isDigit_of_mem_decimal h] at hx
  cases hx

/-- A setting is read as it was written. -/
theorem readSetting?_decimal {name : Char} (hname : name ≠ '=') {n : Nat} (hn : n < 2 ^ 32) :
    readSetting? (String.ofList (name :: '=' :: Text.decimal n)) = some (String.ofList [name], (n : Int)) := by
  unfold readSetting?
  rw [show name :: '=' :: Text.decimal n = [name] ++ '=' :: Text.decimal n from rfl,
    Text.pieces_append (by simpa using hname),
    Text.pieces_self fun c hc => ne_of_mem_decimal hc (by decide)]
  dsimp only
  rw [Text.readInteger?_decimal (Text.length_decimal_of_lt hn), Option.map_some]

/-- The costs, as a memory-hard hash shows them. -/
def costsText (p : Argon2.Params) : List Char :=
  'm' :: '=' :: Text.decimal p.memory ++ ',' :: ('t' :: '=' :: Text.decimal p.passes ++
    ',' :: 'p' :: '=' :: Text.decimal p.lanes)

/-- The characters of a memory-hard hash, part by part. -/
theorem chars_params (p : Argon2.Params) (hk : p.kind = .hybrid) (salt digest : List UInt8) :
    Argon2.Encoded.chars ⟨p, salt, digest⟩ = [] ++ '$' :: ("argon2id".toList ++ '$' ::
      (('v' :: '=' :: Text.decimal p.version) ++ '$' :: (costsText p ++ '$' ::
          (Base64.encode Base64.standard salt ++ '$' :: Base64.encode Base64.standard digest)))) := by
  simp [Argon2.Encoded.chars, Argon2.Params.chars, hk, Argon2.Kind.name, costsText]

theorem pieces_params (p : Argon2.Params) (hk : p.kind = .hybrid) (salt digest : List UInt8) :
    Text.pieces '$' (Argon2.Encoded.text ⟨p, salt, digest⟩) =
      ["", "argon2id", String.ofList ('v' :: '=' :: Text.decimal p.version),
        String.ofList (costsText p), String.ofList (Base64.encode Base64.standard salt),
        String.ofList (Base64.encode Base64.standard digest)] := by
  have hd : ∀ n, ∀ c ∈ Text.decimal n, c ≠ '$' := fun n c hc => ne_of_mem_decimal hc (by decide)
  have hb : ∀ bytes, ∀ c ∈ Base64.encode Base64.standard bytes, c ≠ '$' := fun bytes c hc =>
    Base64.ne_of_mem_encode Base64.isAlphabet_standard hc (by decide)
  rw [Argon2.Encoded.text, chars_params p hk, Text.pieces_append (by simp), Text.pieces_append (by simp),
    Text.pieces_append ?_, Text.pieces_append ?_, Text.pieces_append (hb salt), Text.pieces_self (hb digest)]
  · rfl
  · intro c hc
    simp only [costsText, List.cons_append, List.mem_append, List.mem_cons] at hc
    obtain rfl | rfl | hc | rfl | rfl | rfl | hc | rfl | rfl | rfl | hc := hc
    all_goals first | decide | exact hd _ c hc
  · simpa using hd p.version

theorem pieces_costs (p : Argon2.Params) :
    Text.pieces ',' (String.ofList (costsText p)) =
      [String.ofList ('m' :: '=' :: Text.decimal p.memory), String.ofList ('t' :: '=' :: Text.decimal p.passes),
        String.ofList ('p' :: '=' :: Text.decimal p.lanes)] := by
  have hd : ∀ x : Char, x ≠ ',' → ∀ n, ∀ c ∈ x :: '=' :: Text.decimal n, c ≠ ',' := by
    intro x hx n c hc
    simp only [List.mem_cons] at hc
    obtain rfl | rfl | hc := hc
    · exact hx
    · decide
    · exact ne_of_mem_decimal hc (by decide)
  rw [costsText, Text.pieces_append (hd 'm' (by decide) _), Text.pieces_append (hd 't' (by decide) _),
    Text.pieces_self (hd 'p' (by decide) _)]

/-- The settings that a memory-hard hash was made with are read from it again. -/
theorem storedSettings?_text {p : Argon2.Params} (hk : p.kind = .hybrid) (hv : p.version < 2 ^ 32)
    (hm : p.memory < 2 ^ 32) (ht : p.passes < 2 ^ 32) (hl : p.lanes < 2 ^ 32) (salt digest : List UInt8) :
    storedSettings? (Argon2.Encoded.text ⟨p, salt, digest⟩) =
      some ⟨"argon2id", p.version, decodedSize (Base64.encode Base64.standard salt).length,
        decodedSize (Base64.encode Base64.standard digest).length, p.passes, p.memory, p.lanes⟩ := by
  have hmap : (String.ofList ('v' :: '=' :: Text.decimal p.version) :: Text.pieces ','
      (String.ofList (costsText p))).mapM readSetting? =
      some [("v", (p.version : Int)), ("m", (p.memory : Int)), ("t", (p.passes : Int)), ("p", (p.lanes : Int))] := by
    rw [pieces_costs]
    simp only [List.mapM_cons, List.mapM_nil, readSetting?_decimal (show 'v' ≠ '=' by decide) hv,
      readSetting?_decimal (show 'm' ≠ '=' by decide) hm, readSetting?_decimal (show 't' ≠ '=' by decide) ht,
      readSetting?_decimal (show 'p' ≠ '=' by decide) hl]
    rfl
  unfold storedSettings?
  rw [pieces_params p hk]
  dsimp only [List.length_cons, List.length_nil]
  rw [if_neg (by decide)]
  dsimp only
  rw [if_pos ⟨rfl, by decide⟩, hmap]
  simp only [String.length_ofList]
  rfl

/-- Usable costs fit into words. -/
theorem lt_of_paramsOf {costs : MemoryCosts} {p : Argon2.Params} (h : paramsOf costs = .ok p) :
    p.kind = .hybrid ∧ p.version < 2 ^ 32 ∧ p.memory < 2 ^ 32 ∧ p.passes < 2 ^ 32 ∧ p.lanes < 2 ^ 32 := by
  unfold paramsOf at h
  split at h
  · next hw =>
    dsimp only at h
    split at h
    · simp only [isWord, Bool.and_eq_true, decide_eq_true_eq] at hw
      obtain ⟨⟨⟨hp₀, hp₁⟩, hm₀, hm₁⟩, hl₀, hl₁⟩ := hw
      rw [show ((Nat.pow 2 32 : Nat) : Int) = 2 ^ 32 from rfl] at hp₁ hm₁ hl₁
      rw [← Except.ok.inj h]
      refine ⟨rfl, ?_, ?_, ?_, ?_⟩
      · show Argon2.currentVersion < 2 ^ 32
        decide
      · show costs.memory.toNat < 2 ^ 32
        omega
      · show costs.passes.toNat < 2 ^ 32
        omega
      · show costs.lanes.toNat < 2 ^ 32
        omega
    · cases h
  · cases h

/-- A memory-hard hash is ASCII text. -/
theorem lt_of_mem_text {p : Argon2.Params} (hk : p.kind = .hybrid) (salt digest : List UInt8) :
    ∀ c ∈ (Argon2.Encoded.text ⟨p, salt, digest⟩).toList, c.toNat < 0x80 := by
  have hdecimal (n : Nat) : ∀ c ∈ Text.decimal n, c.toNat < 0x80 := fun _ hc =>
    Text.toNat_lt_of_isDigit (Text.isDigit_of_mem_decimal hc)
  have hascii (s : List Char) (hs : s.all (·.toNat < 0x80)) : ∀ c ∈ s, c.toNat < 0x80 := fun c hc =>
    of_decide_eq_true (List.all_eq_true.1 hs c hc)
  have hbytes (bytes : List UInt8) : ∀ c ∈ Base64.encode Base64.standard bytes, c.toNat < 0x80 := fun c hc =>
    hascii Base64.standard (by decide) c (Base64.mem_of_mem_encode Base64.isAlphabet_standard bytes hc)
  have hname := hascii "argon2id".toList (by decide)
  rw [Argon2.Encoded.text, String.toList_ofList, chars_params p hk]
  simp only [costsText, List.forall_mem_append, List.forall_mem_cons]
  exact ⟨by simp, by decide, hname, by decide, ⟨by decide, by decide, hdecimal _⟩, by decide,
    ⟨⟨by decide, by decide, hdecimal _⟩, by decide, ⟨by decide, by decide, hdecimal _⟩, by decide, by decide, by decide,
      hdecimal _⟩, by decide, hbytes _, by decide, hbytes _⟩

/-- A hash that was made is of the cipher-based algorithm, or it is ASCII text whose settings can be read. -/
theorem IsHash.settings {stored : String} (h : IsHash stored) :
    isMemoryHard stored = false ∨
      (∀ c ∈ stored.toList, c.toNat < 0x80) ∧ ∃ settings, storedSettings? stored = some settings := by
  obtain ⟨h', salts, password, hh⟩ := h
  cases makes_of_hash hh with
  | argon2id costs p hp =>
    obtain ⟨hk, hv, hm, ht, hl⟩ := lt_of_paramsOf hp
    exact .inr ⟨lt_of_mem_text hk _ _, _, storedSettings?_text hk hv hm ht hl _ _⟩
  | bcrypt cost salt => exact .inl (not_isMemoryHard_bcrypt _)

/-- Whether a hash is to be replaced can be told of every hash that was made. -/
theorem needsRehash_of_isHash (h : Hasher) {stored : String} (hs : IsHash stored) :
    ∃ b, h.needsRehash stored = .ok b := by
  unfold needsRehash
  obtain hm | ⟨-, settings, hset⟩ := hs.settings
  · rw [hm]
    cases h with
    | argon2id costs => exact ⟨true, rfl⟩
    | bcrypt rounds =>
      dsimp only
      cases storedRounds? stored <;> exact ⟨_, rfl⟩
  · rw [hset]
    cases h with
    | argon2id costs => cases isMemoryHard stored <;> exact ⟨_, rfl⟩
    | bcrypt rounds =>
      cases isMemoryHard stored
      · dsimp only
        cases storedRounds? stored <;> exact ⟨_, rfl⟩
      · exact ⟨true, rfl⟩

end Hasher

end AccountSecurity
