import AccountSecurity.Proofs.Password.NewHash
import AccountSecurity.Proofs.Refusals

/-!
# Logins replace hashes, not passwords

A login that accepts the password may replace the stored hash. What it stores accepts the password again, and is
replaced no more.

* `Hasher.Succeeds` : a hash that takes the place of an accepted one;
* `Login.exists_upgradedHash` : an accepted hash that was made has such a successor;
* `Login.upgradedHash_of_succeeds` : the successor has none but itself;
* `Login.hash?_login`, `Login.hash?_login_of_admitted` : the hashes after a login;
* `passwords_survive_logins` : **no login locks a user out**, and nothing but an accepted login writes a hash.
-/

namespace AccountSecurity
open World

/-! ## Successors of a hash -/

namespace Hasher
variable {h : Hasher} {password old new : String}

/-- A hash that takes the place of an accepted one. It is the old one where the hasher refuses the password; otherwise
it is as the hasher makes hashes now. -/
structure Succeeds (h : Hasher) (password old new : String) : Prop where
  verifies : verify new password = .ok true
  kept : h.Refuses password → new = old
  current : ¬ h.Refuses password → h.needsRehash new = .ok false

end Hasher

/-- The hash that is stored for an account. -/
def World.hash? {S : Type} [AccountStore S] [LawfulStore S] (w : World S) (id : String) : Option String :=
  w.part? (·.credentials.passwordHash) id

namespace Login
variable {setup : Setup} {identifier password stored : String} {newHash : Option String}

/-- An accepted hash stays where the hasher refuses the password. -/
theorem upgradedHash_of_refuses (hr : setup.hasher.Refuses password)
    (hv : Hasher.verify stored password = .ok true) : upgradedHash setup stored password = .ok none := by
  unfold upgradedHash
  rw [Hasher.needsRehash_of_refuses hr hv]
  simp only [bind, Except.bind, if_true, Hasher.hash_of_refuses hr]
  rfl

/-- An accepted hash that is to be replaced gives way to a new one. -/
theorem upgradedHash_of_hash {new : String} (hn : setup.hasher.needsRehash stored = .ok true)
    (hh : setup.hasher.hash setup.sources.salts password = .ok new) :
    upgradedHash setup stored password = .ok (some new) := by
  unfold upgradedHash
  rw [hn]
  simp only [bind, Except.bind, if_true, hh]
  rfl

/-- An accepted hash that was made has a successor. -/
theorem exists_upgradedHash (hw : setup.hasher.Works setup.sources.salts) (hs : Hasher.IsHash stored)
    (hv : Hasher.verify stored password = .ok true) :
    ∃ newHash, upgradedHash setup stored password = .ok newHash ∧
      setup.hasher.Succeeds password stored (newHash.getD stored) := by
  by_cases hr : setup.hasher.Refuses password
  · exact ⟨none, upgradedHash_of_refuses hr hv, hv, fun _ => rfl, fun hno => absurd hr hno⟩
  · obtain ⟨replace, hn⟩ := Hasher.needsRehash_of_isHash setup.hasher hs
    cases replace with
    | false => exact ⟨none, upgradedHash_of_current hn password, hv, fun _ => rfl, fun _ => hn⟩
    | true =>
      obtain ⟨new, hh⟩ := Hasher.exists_hash hw hr
      exact ⟨some new, upgradedHash_of_hash hn hh, Hasher.verify_hash hw hh, fun hyes => absurd hyes hr,
        fun _ => Hasher.needsRehash_hash hw hh⟩

/-- A successor is not replaced again. -/
theorem upgradedHash_of_succeeds {old new : String} (hs : setup.hasher.Succeeds password old new) :
    upgradedHash setup new password = .ok none := by
  by_cases hr : setup.hasher.Refuses password
  · exact upgradedHash_of_refuses hr hs.verifies
  · exact upgradedHash_of_current (hs.current hr) password

/-! ## The hashes after a login -/

theorem passwordHash_acceptance (now : DateTime) (a : Account) (newHash : Option String) :
    (a.changed (acceptance now a.credentials newHash)).credentials.passwordHash =
      newHash.getD a.credentials.passwordHash := by
  unfold acceptance
  cases newHash <;> split <;> rfl

variable {S : Type} [AccountStore S] [LawfulStore S] {w v : World S} {a : Account} {id : String}

theorem hash?_issue (h : w.Sound) (config : OtpConfig) (id : String) (purpose : OtpPurpose) (number : Option String) :
    ((OtpChallenge.issue setup config id purpose number).runOn w).2.hash? = w.hash? := by
  have hends := OtpChallenge.ends_issue h setup config id purpose number
  generalize (OtpChallenge.issue setup config id purpose number).runOn w = r at hends ⊢
  have hstored {a code t} (hs : OtpChallenge.Stores setup config id w a code t) :
      (OtpChallenge.stored id code t purpose w).hash? = w.hash? :=
    part?_of_update_same hs.account (hs.account?_stored h purpose) rfl
  cases hends with
  | missing ha => rfl
  | numberless ha hn => rfl
  | undrawn hd => rfl
  | endless ht => rfl
  | undelivered hs ho => exact hstored hs
  | sent hs hn ho => exact hstored hs

theorem hash?_complete (h : w.Sound) (setup : Setup) (a : Account) (c : Option RequestContext) :
    ((complete setup a c).runOn w).2.hash? = w.hash? := by
  rw [runOn_complete h]
  split <;> rfl

/-- What follows the right password writes no hash. -/
theorem hash?_proceed (h : w.Sound) (setup : Setup) (a : Account) (c : Option RequestContext) :
    ((proceed setup a c).runOn w).2.hash? = w.hash? := by
  rw [runOn_proceed h]
  split
  · rfl
  · split
    · cases OtpChallenge.nonempty? a.phoneNumber with
      | none => rfl
      | some n => exact hash?_issue h ..
    · exact hash?_complete h ..

/-- A login with the right password goes on from the state in which the password is accepted. -/
theorem runOn_login_of_admitted (h : w.Sound) (hc : Admitted setup identifier password w a newHash)
    (c : Option RequestContext) :
    (login setup identifier password c).runOn w = (proceed setup a c).runOn (admitted a newHash w) := by
  rw [runOn_login h, hc.found]
  dsimp only
  rw [if_neg (by simp [hc.unlocked]), hc.verdict]
  dsimp only
  rw [if_neg (by simp [hc.counted]), hc.upgraded]
  rfl

/-- A login with the right password stores the new hash, if there is one. -/
theorem hash?_login_of_admitted (h : w.Sound) (hc : Admitted setup identifier password w a newHash)
    (c : Option RequestContext) :
    ((login setup identifier password c).runOn w).2.hash? =
      Function.update w.hash? a.id (some (newHash.getD a.credentials.passwordHash)) := by
  have hupdate := part?_of_update (F := (·.credentials.passwordHash)) (hc.account?_admitted h)
  rw [passwordHash_acceptance] at hupdate
  rw [runOn_login_of_admitted h hc, hash?_proceed (hc.sound h)]
  exact hupdate

/-- A login that accepts no password writes no hash. -/
theorem hash?_login (h : w.Sound) (setup : Setup) (identifier password : String) (c : Option RequestContext) :
    (∃ a newHash, Admitted setup identifier password w a newHash) ∨
      ((login setup identifier password c).runOn w).2.hash? = w.hash? := by
  have hends := ends_login setup h identifier password c
  generalize (login setup identifier password c).runOn w = r at hends ⊢
  cases hends with
  | unknown hf => exact .inr rfl
  | locked hf hl => exact .inr rfl
  | broken hf hl hx => exact .inr rfl
  | rejected hc hm => exact .inr (part?_of_update_same (hc.account? h) hc.account rfl)
  | lockedOut hc hm ht =>
    have hoffset := (DateTime.offset_of_addMinutes ht).trans h.clock
    exact .inr (part?_of_update_same (hc.account? h) (hc.account?_lockedOut hoffset).2 rfl)
  | endless hc hm ht => exact .inr (part?_of_update_same (hc.account? h) hc.account rfl)
  | unverified hc he => exact .inl ⟨_, _, hc⟩
  | numberless hc he hs hn => exact .inl ⟨_, _, hc⟩
  | challenged hc he hs hn => exact .inl ⟨_, _, hc⟩
  | opened hc he hs => exact .inl ⟨_, _, hc⟩

/-- A login leaves a hash that it would not replace. -/
theorem hash?_login_of_upgradedHash (h : w.Sound) (hs : w.hash? id = some stored)
    (hu : upgradedHash setup stored password = .ok none) (identifier : String) (c : Option RequestContext) :
    ((login setup identifier password c).runOn w).2.hash? id = some stored := by
  obtain ⟨a, newHash, hc⟩ | hsame := hash?_login h setup identifier password c
  · rw [hash?_login_of_admitted h hc]
    by_cases hid : id = a.id
    · subst hid
      have hold : a.credentials.passwordHash = stored :=
        Option.some.inj ((part?_of_account? (hc.account? h)).symm.trans hs)
      obtain rfl : newHash = none := Except.ok.inj (hc.upgraded.symm.trans (hold ▸ hu))
      rw [Function.update_self, Option.getD_none, hold]
    · rw [Function.update_of_ne hid, hs]
  · rw [hsame, hs]

end Login

/-- The sample settings with memory-hard hashes. -/
def Setup.memoryHard : Setup :=
  { Setup.sample with
    hasher := .argon2id {}
    sources := { Setup.sample.sources with salts := ⟨"", List.replicate 16 0⟩ } }

/-! ## Every call -/

section
variable {S : Type} [AccountStore S] [LawfulStore S] {setup : Setup} {w : World S} {a : Account} {id : String}

/-- A call that is no login writes no hash. -/
theorem Operation.hash?_run (h : w.Sound) {op : Operation}
    (hop : ∀ identifier password c, op ≠ .login identifier password c) (ha : w.account? id = some a) :
    (op.run setup w).2.hash? id = some a.credentials.passwordHash := by
  obtain ⟨b, hb, hhash⟩ := ((Operation.follows_run setup h op).accounts id).keeps
    (F := fun a => a.credentials.passwordHash) (fun _ _ hw => hw.passwordHash_eq hop) ha
  rw [World.hash?, part?_of_account? hb, hhash]

theorem Operation.hash?_run_login (h : w.Sound) (setup : Setup) (identifier password : String)
    (c : Option RequestContext) :
    ((Operation.login identifier password c).run setup w).2.hash? =
      ((Login.login setup identifier password c).runOn w).2.hash? := by
  rw [Operation.run_login setup h]

/-- **No login locks a user out.** Let the hash of an account be one that was made, under whatever settings, and let a
login accept the password against it. However the login ends, the hash that is stored afterwards accepts the password,
and it is not to be replaced, unless the hasher refuses the password for its length: then it is the old one. In every
state in which the account has that hash, another login with the password leaves it. Nothing else writes a hash: no
call that is not a login, no login that does not accept the password, and no accepted one to another account. -/
theorem passwords_survive_logins (hworks : setup.hasher.Works setup.sources.salts) (hw : w.Sound) :
    (∀ identifier password c a, Login.Compared identifier password w a true →
        Hasher.IsHash a.credentials.passwordHash →
      ∃ stored, ((Operation.login identifier password c).run setup w).2.hash? a.id = some stored ∧
        Hasher.verify stored password = .ok true ∧
        (setup.hasher.Refuses password → stored = a.credentials.passwordHash) ∧
        (¬ setup.hasher.Refuses password → setup.hasher.needsRehash stored = .ok false) ∧
        ∀ v : World S, v.Sound → v.hash? a.id = some stored → ∀ identifier' c',
          ((Operation.login identifier' password c').run setup v).2.hash? a.id = some stored) ∧
    ∀ (op : Operation) id a, w.account? id = some a →
      (∀ identifier password c, op = .login identifier password c → ¬ Login.Compared identifier password w a true) →
      (op.run setup w).2.hash? id = some a.credentials.passwordHash := by
  refine ⟨fun identifier password c a hc hmade => ?_, fun op id a ha hop => ?_⟩
  · obtain ⟨newHash, hnew, hsucc⟩ := Login.exists_upgradedHash hworks hmade hc.verdict
    refine ⟨newHash.getD a.credentials.passwordHash, ?_, hsucc.verifies, hsucc.kept, hsucc.current,
      fun v hv hstored identifier' c' => ?_⟩
    · rw [Operation.hash?_run_login hw, Login.hash?_login_of_admitted hw ⟨hc, hnew⟩, Function.update_self]
    · rw [Operation.hash?_run_login hv]
      exact Login.hash?_login_of_upgradedHash hv hstored (Login.upgradedHash_of_succeeds hsucc) identifier' c'
  · by_cases hlogin : ∃ identifier password c, op = .login identifier password c
    · obtain ⟨identifier, password, c, rfl⟩ := hlogin
      have hhash : w.hash? id = some a.credentials.passwordHash := part?_of_account? ha
      rw [Operation.hash?_run_login hw]
      obtain ⟨b, newHash, hc⟩ | hsame := Login.hash?_login hw setup identifier password c
      · have hid : id ≠ b.id := by
          rintro rfl
          obtain rfl : a = b := Option.some.inj (ha.symm.trans (hc.account? hw))
          exact hop identifier password c rfl hc.toCompared
        rw [Login.hash?_login_of_admitted hw hc, Function.update_of_ne hid, hhash]
      · rw [hsame, hhash]
    · exact Operation.hash?_run hw (fun identifier password c heq => hlogin ⟨identifier, password, c, heq⟩) ha

/-- The sample hash is cipher-based, and a memory-hard one takes its place. -/
theorem passwords_survive_logins_sample :
    Setup.memoryHard.hasher.Works Setup.memoryHard.sources.salts ∧ World.sample.Sound ∧
    Login.Compared "user@example.org" "password" World.sample .sample true ∧
    Hasher.IsHash Account.sample.credentials.passwordHash ∧
    ∃ stored, ((Operation.login "user@example.org" "password" none).run Setup.memoryHard World.sample).2.hash? "1" =
        some stored ∧
      Hasher.verify stored "password" = .ok true ∧ Setup.memoryHard.hasher.needsRehash stored = .ok false := by
  have hworks : Setup.memoryHard.hasher.Works Setup.memoryHard.sources.salts :=
    ⟨⟨_, rfl⟩, fun costs _ => by decide⟩
  have hc : Login.Compared "user@example.org" "password" World.sample .sample true :=
    ⟨rfl, rfl, Account.verify_password, rfl⟩
  obtain ⟨stored, hafter, hverify, -, hcurrent, -⟩ := (passwords_survive_logins hworks World.sound_sample).1
    "user@example.org" "password" none .sample hc Account.isHash_sample
  exact ⟨hworks, World.sound_sample, hc, Account.isHash_sample, stored, hafter, hverify,
    hcurrent fun hr => absurd hr.1 (by decide)⟩

end

end AccountSecurity
