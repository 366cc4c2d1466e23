import AccountSecurity.Proofs.Service.BackupVault
import AccountSecurity.Proofs.Service.Login
import AccountSecurity.Proofs.Service.SmsFactor
import AccountSecurity.Proofs.Service.TotpFactor
import AccountSecurity.Service.Operation
import Mathlib.Logic.Relation

/-!
# What a call writes to the accounts

* `Operation.check?` : the submitted SMS code of the three calls that check one;
* `Write` : every single write of a call to an account, with the condition under which it is made;
* `Evolves` : an account before and after a call: as it was, written some number of times, or new;
* `Follows` : a state in the course of a call: sound, at the same time, and with accounts that evolved.
-/

namespace AccountSecurity
open World

/-- The account, the submitted code and the purpose of a call that checks an SMS code. -/
def Operation.check? : Operation → Option (String × String × OtpPurpose)
  | verifyOtp id code purpose => some (id, code, purpose)
  | verifyPhone id code => some (id, code, .phoneVerification)
  | finishLogin id code _ => some (id, code, .loginChallenge)
  | _ => none

/-- A single write of a call to an account. -/
inductive Write (setup : Setup) (now : DateTime) : Operation → Account → Account → Prop
  | rejected {identifier password c a} (n : Int) :
      n < setup.policy.maxAttempts → Write setup now (.login identifier password c) a (a.counted n)
  | locked {identifier password c a} (n : Int) (t : DateTime) :
      now.addMinutes? setup.policy.lockMinutes = some t →
      Write setup now (.login identifier password c) a ((a.counted n).changed [.lockedUntil (some t)])
  | unlockable {identifier password c a} (n : Int) :
      now.addMinutes? setup.policy.lockMinutes = none →
      Write setup now (.login identifier password c) a (a.counted n)
  | accepted {identifier password c a} (newHash : Option String) :
      Write setup now (.login identifier password c) a
        (a.changed (Login.acceptance now a.credentials newHash))
  | challenged {identifier password c a} (code : String) (t : DateTime) :
      Write setup now (.login identifier password c) a (a.changed (OtpChallenge.pending code t .loginChallenge))
  | finished {id code c a} : Write setup now (.finishLogin id code c) a (a.changed [.lastLogin (some now)])
  | issued {id purpose number a} (code : String) (t : DateTime) :
      Write setup now (.issueOtp id purpose number) a (a.changed (OtpChallenge.pending code t purpose))
  | swept {op a} : op.check?.isSome → a.credentials.otp.code = none →
      Write setup now op a (a.changed [.otpExpiresAt none])
  | expired {op a} : op.check?.isSome → Write setup now op a (a.changed CredentialChange.clearOtp)
  | verified {op id code purpose a} : op.check? = some (id, code, purpose) →
      Write setup now op a (a.changed (OtpChallenge.acceptance purpose))
  | cleared {id a} : Write setup now (.clearOtp id) a (a.changed CredentialChange.clearOtp)
  | moved {id number a} :
      Write setup now (.initiatePhone id number) a ((a.renumbered (some number)).changed SmsFactor.unproven)
  | initiated {id number a} (code : String) (t : DateTime) :
      Write setup now (.initiatePhone id number) a (a.changed (OtpChallenge.pending code t .phoneVerification))
  | smsEnabled {id a} : (OtpChallenge.nonempty? a.phoneNumber).isSome → a.credentials.phoneVerified →
      Write setup now (.enableSms id) a (a.changed [.smsEnabled true])
  | smsDisabled {id a} : Write setup now (.disableSms id) a (a.changed [.smsEnabled false])
  | smsCleared {id a} : Write setup now (.disableSms id) a (a.changed CredentialChange.clearOtp)
  | secretMade {id a} (draws : List Nat) : draws.length = Totp.secretLength →
      Write setup now (.generateTotp id) a (a.changed [.totpSecret (some (Totp.secretOf draws))])
  | totpEnabled {id code a} : (TotpFactor.usableSecret? a.credentials).isSome →
      Write setup now (.enableTotp id code) a (a.changed [.totpEnabled true])
  | totpDisabled {id code a} :
      Write setup now (.disableTotp id code) a (a.changed [.totpEnabled false, .totpSecret none])
  | codeMade {id a kept} (text : String) :
      BackupVault.makeRoom setup.backup.maxStored a.credentials.backupCodes = .ok kept →
      Write setup now (.generateBackup id) a (a.changed [.backupCodes (kept ++ [.ofText text now])])
  | codeSpent {id code a} (i : Nat) :
      Write setup now (.verifyBackup id code) a
        (a.changed [.backupCodes (a.credentials.backupCodes.modify i (·.spentAt now))])

/-- The account as a registration makes it. -/
def Operation.Creates (setup : Setup) (op : Operation) (a : Account) : Prop :=
  ∃ r passwordHash, op = .register r ∧ setup.hasher.hash setup.sources.salts r.password = .ok passwordHash ∧
    a.credentials = { passwordHash }

/-- An account before and after a part of a call. -/
inductive Evolves (setup : Setup) (now : DateTime) (op : Operation) : Option Account → Option Account → Prop
  | refl (o : Option Account) : Evolves setup now op o o
  | write {o : Option Account} {a a' : Account} :
      Evolves setup now op o (some a) → Write setup now op a a' → Evolves setup now op o (some a')
  | created {a : Account} : op.Creates setup a → Evolves setup now op none (some a)

namespace Evolves
variable {setup : Setup} {now : DateTime} {op : Operation} {o o' : Option Account}

/-- What holds of new accounts and survives every write holds afterwards. -/
theorem all {P : Account → Prop} (h : Evolves setup now op o o')
    (hw : ∀ a a', P a → Write setup now op a a' → P a') (hc : ∀ a, op.Creates setup a → P a)
    (ho : ∀ a ∈ o, P a) : ∀ a ∈ o', P a := by
  induction h with
  | refl o => exact ho
  | write _ hwr ih =>
    rintro b ⟨⟩
    exact hw _ _ (ih ho _ rfl) hwr
  | created hcr =>
    rintro b ⟨⟩
    exact hc _ hcr

/-- An account stays, with all that no write of the call changes. -/
theorem keeps {β : Type} {F : Account → β} (h : Evolves setup now op o o')
    (hw : ∀ a a', Write setup now op a a' → F a' = F a) {a : Account} (ha : o = some a) :
    ∃ a', o' = some a' ∧ F a' = F a := by
  induction h with
  | refl o => exact ⟨a, ha, rfl⟩
  | write _ hwr ih =>
    obtain ⟨b, hb, hf⟩ := ih ha
    cases hb
    exact ⟨_, rfl, (hw _ _ hwr).trans hf⟩
  | created _ => cases ha

end Evolves

/-! ## States in the course of a call -/

variable {S : Type} [AccountStore S] [LawfulStore S]

/-- A state in the course of a call that began in `w`. -/
structure Follows (setup : Setup) (op : Operation) (w v : World S) : Prop where
  sound : v.Sound
  clock : v.clock = w.clock
  outage : v.outage = w.outage
  accounts : ∀ id, Evolves setup w.clock op (w.account? id) (v.account? id)

namespace Follows
variable {setup : Setup} {op : Operation} {w v : World S} {id : String} {a : Account}
  {changes : List CredentialChange}

theorem refl (h : w.Sound) : Follows setup op w w := ⟨h, rfl, rfl, fun _ => .refl _⟩

/-- Whatever leaves store, clock and carrier alone is no matter. -/
theorem congr (h : Follows setup op w v) {u : World S} (hs : u.store = v.store) (hc : u.clock = v.clock)
    (ho : u.outage = v.outage) : Follows setup op w u :=
  ⟨h.sound.congr hs hc, hc.trans h.clock, ho.trans h.outage, fun id => by rw [account?_congr hs]; exact h.accounts id⟩

theorem logged (h : Follows setup op w v) (t : EventType) (p : Option String) (c : Option RequestContext)
    (e : Option SecurityError) (m : List (String × Json)) : Follows setup op w (v.logged setup t p c e m) :=
  h.congr rfl rfl rfl

theorem drew (h : Follows setup op w v) (n : Nat) : Follows setup op w (v.drew n) := h.congr rfl rfl rfl

/-- One account is replaced by what a write of the call makes of it. -/
theorem put (h : Follows setup op w v) {u : World S} {a' : Account} (hu : u.Sound) (hc : u.clock = v.clock)
    (ho : u.outage = v.outage) (ha : v.account? id = some a)
    (hl : u.account? = Function.update v.account? id (some a')) (hw : Write setup w.clock op a a') :
    Follows setup op w u := by
  refine ⟨hu, hc.trans h.clock, ho.trans h.outage, fun i => ?_⟩
  rw [hl]
  by_cases hi : i = id
  · subst hi
    rw [Function.update_self]
    exact (ha ▸ h.accounts i).write hw
  · rw [Function.update_of_ne hi]
    exact h.accounts i

theorem changed (h : Follows setup op w v) (ha : v.account? id = some a) (hs : Storable (LawfulStore.Keeps S) changes)
    (hw : Write setup w.clock op a (a.changed changes)) : Follows setup op w (v.changed id changes) :=
  h.put (h.sound.changed ha hs) rfl rfl ha (account?_changed h.sound ha hs) hw

/-- Issuing a code is a write, or none. -/
theorem issue (h : Follows setup op w v) (config : OtpConfig) (id : String) (purpose : OtpPurpose)
    (number : Option String)
    (hw : ∀ a code t, Write setup w.clock op a (a.changed (OtpChallenge.pending code t purpose))) :
    Follows setup op w ((OtpChallenge.issue setup config id purpose number).runOn v).2 := by
  have hends := OtpChallenge.ends_issue h.sound setup config id purpose number
  generalize (OtpChallenge.issue setup config id purpose number).runOn v = r at hends ⊢
  cases hends with
  | missing ha => exact h
  | numberless ha hn => exact h
  | undrawn hd => exact h.drew 1
  | endless ht => exact h.drew 1
  | @undelivered a code t o hs ho => exact (h.drew 1).changed hs.account (hs.storable h.sound purpose) (hw a code t)
  | @sent a code destination t hs hn ho =>
    exact ((h.drew 1).changed hs.account (hs.storable h.sound purpose) (hw a code t)).congr rfl rfl rfl

/-- Checking a code is a write, or none. -/
theorem verify (h : Follows setup op w v) (id submitted : String) (purpose : OtpPurpose)
    (hk : op.check? = some (id, submitted, purpose)) :
    Follows setup op w ((OtpChallenge.verify setup id submitted purpose).runOn v).2 := by
  have hsome : op.check?.isSome := by rw [hk]; rfl
  have hends := OtpChallenge.ends_verify h.sound setup id submitted purpose
  generalize (OtpChallenge.verify setup id submitted purpose).runOn v = r at hends ⊢
  cases hends with
  | missing ha => exact h
  | notPending ha hp =>
    refine Follows.logged ?_ ..
    unfold OtpChallenge.swept
    split
    · next hsw =>
      exact h.changed ha OtpChallenge.storable_sweep (.swept hsome (by simpa using hsw.1))
    · exact h
  | expired ha hp he => exact (h.changed ha OtpChallenge.storable_clearOtp (.expired hsome)).logged ..
  | invalid ha hp he hc => exact h.logged ..
  | accepted ha hp he => exact (h.changed ha (OtpChallenge.storable_acceptance purpose) (.verified hk)).logged ..

/-- Opening a session is no write. -/
theorem complete (h : Follows setup op w v) (a : Account) (c : Option RequestContext) :
    Follows setup op w ((Login.complete setup a c).runOn v).2 := by
  rw [Login.runOn_complete h.sound]
  split
  · exact h.congr rfl rfl rfl
  · exact h.congr rfl rfl rfl

end Follows

end AccountSecurity
