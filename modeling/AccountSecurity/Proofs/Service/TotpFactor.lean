import AccountSecurity.Proofs.Password.Hasher
import AccountSecurity.Proofs.Service.World
import AccountSecurity.Service.TotpFactor

/-!
# What the calls for authenticator apps do

* `runOn_generate` : a new secret, which leaves the factor as it is;
* `runOn_enable`, `runOn_disable`, `runOn_validate` : the calls that check a code of the stored secret;
* `ends_generate`, `ends_enable`, `ends_disable` : how the calls that change the factor end.
-/

namespace AccountSecurity.TotpFactor
open World
variable {S : Type} [AccountStore S] [LawfulStore S] {w : World S} {a : Account}

theorem usableSecret?_isSome {c : Credentials} :
    (usableSecret? c).isSome ↔ ∃ secret, c.totpSecret = some secret ∧ secret ≠ "" := by
  unfold usableSecret?
  cases c.totpSecret with
  | none => simp
  | some s => by_cases hs : s = "" <;> simp [hs]

/-- A new secret has a character for every number drawn. -/
theorem secretOf_ne_empty {draws : List Nat} (h : draws.length = Totp.secretLength) : Totp.secretOf draws ≠ "" := by
  intro he
  have hl := congrArg String.length he
  rw [Totp.secretOf, String.length_ofList, List.length_map, h] at hl
  exact absurd hl (by decide)

/-- The secret that would be made next. -/
def nextSecret (setup : Setup) (w : World S) : String := Totp.secretOf (w.nextDraws setup Totp.secretLength)

/-- What is shown of a secret for an account. -/
def enrollment (setup : Setup) (secret email : String) : Enrollment :=
  ⟨secret, Totp.provisioningUri setup.totp secret email,
    setup.picture.map (· (Totp.provisioningUri setup.totp secret email))⟩

section Storable
variable {keeps : BackupCode → Prop}

theorem storable_totpSecret (secret : Option String) : Storable keeps [.totpSecret secret] := by
  simp [Storable, CredentialChange.Storable]

theorem storable_totpEnabled (enabled : Bool) : Storable keeps [.totpEnabled enabled] := by
  simp [Storable, CredentialChange.Storable]

theorem storable_removal : Storable keeps [.totpEnabled false, .totpSecret none] := by
  simp [Storable, CredentialChange.Storable]

end Storable

/-- The settings may allow no codes, but that refuses nothing. -/
theorem checkConfig_ne_refused (config : TotpConfig) (e : SecurityError) :
    Totp.checkConfig config ≠ .error (.refused e) := by
  unfold Totp.checkConfig
  split
  · simp
  · split <;> simp

/-- A check of a code of an authenticator app fails or answers, but refuses nothing. -/
theorem verify_ne_refused (config : TotpConfig) (secret submitted : String) (now : DateTime) (e : SecurityError) :
    Totp.verify config secret submitted now ≠ .error (.refused e) := by
  have hk : Totp.keyOf secret ≠ .error (.refused e) := by
    unfold Totp.keyOf
    split
    · simp
    · split <;> simp
  have hs : Totp.stepOf config now ≠ .error (.refused e) := by
    unfold Totp.stepOf Totp.clockSeconds
    dsimp only
    split <;> simp [bind, Except.bind, pure, Except.pure]
  intro h
  unfold Totp.verify at h
  cases hcr : Totp.checkConfig config with
  | error f => rw [hcr] at h; cases h; exact checkConfig_ne_refused _ _ hcr
  | ok u =>
    cases hkr : Totp.keyOf secret with
    | error f => rw [hcr, hkr] at h; cases h; exact hk hkr
    | ok key =>
      cases hsr : Totp.stepOf config now with
      | error f => rw [hcr, hkr, hsr] at h; cases h; exact hs hsr
      | ok step =>
        rw [hcr, hkr, hsr] at h
        simp only [bind, Except.bind, pure, Except.pure] at h
        split at h <;> cases h

/-- A new secret replaces the stored one and leaves the factor as it is. -/
theorem runOn_generate (h : w.Sound) (setup : Setup) (id : String) :
    (generate setup id).runOn w =
      match w.account? id with
      | none => (.error (.refused (.accountNotFound id)), w)
      | some a =>
        match Totp.checkConfig setup.totp with
        | .error f => (.error f, w.drew Totp.secretLength)
        | .ok _ => (.ok (enrollment setup (nextSecret setup w) a.email),
            (w.drew Totp.secretLength).changed id [.totpSecret (some (nextSecret setup w))]) := by
  unfold generate
  rw [Action.runOn_bind, runOn_requireAccount h]
  cases ha : w.account? id with
  | none => rfl
  | some a =>
    dsimp only
    rw [Action.runOn_bind, runOn_drawMany]
    dsimp only
    rw [Action.runOn_bind, Action.runOn_ofExcept]
    cases Totp.checkConfig setup.totp with
    | error f => rfl
    | ok _ =>
      dsimp only
      rw [Action.runOn_bind, ← nextSecret, runOn_changeCredentials (h.drew _) ha (storable_totpSecret _)]
      rfl

omit [AccountStore S] [LawfulStore S] in
theorem runOn_check (setup : Setup) (secret submitted : String) :
    (check setup secret submitted).runOn w = (Totp.verify setup.totp secret submitted w.clock, w) := by
  simp only [check, Action.runOn_bind, Action.runOn_get, Action.runOn_ofExcept]

theorem runOn_recordWrongCode (h : w.Sound) (setup : Setup) (id : String) :
    (recordWrongCode setup id).runOn w =
      (.ok (), w.logged setup .mfaFailed (some id) none (some .totpInvalid) metadata) := runOn_record h ..

/-- The factor is turned on by a code of the stored secret. -/
theorem runOn_enable (h : w.Sound) (setup : Setup) (id submitted : String) :
    (enable setup id submitted).runOn w =
      match w.account? id with
      | none => (.error (.refused (.accountNotFound id)), w)
      | some a =>
        match usableSecret? a.credentials with
        | none => (.error (.refused .totpNotConfigured), w)
        | some secret =>
          match Totp.verify setup.totp secret submitted w.clock with
          | .error f => (.error f, w)
          | .ok false => (.error (.refused .totpInvalid),
              w.logged setup .mfaFailed (some id) none (some .totpInvalid) metadata)
          | .ok true => (.ok true,
              (w.changed id [.totpEnabled true]).logged setup .mfaEnabled (some id) none none metadata) := by
  unfold enable
  rw [Action.runOn_bind, runOn_requireAccount h]
  cases ha : w.account? id with
  | none => rfl
  | some a =>
    dsimp only
    cases usableSecret? a.credentials with
    | none => rfl
    | some secret =>
      dsimp only
      rw [Action.runOn_bind, runOn_check]
      rcases Totp.verify setup.totp secret submitted w.clock with f | ⟨_ | _⟩
      · rfl
      · dsimp only
        rw [if_neg (by simp), Action.runOn_bind_of_ok (runOn_recordWrongCode h ..), Action.runOn_refuse]
      · have hs : Storable (LawfulStore.Keeps S) _ := storable_totpEnabled true
        dsimp only
        rw [if_pos rfl, Action.runOn_bind, runOn_changeCredentials h ha hs]
        dsimp only
        exact Action.runOn_bind_of_ok (runOn_record (h.changed ha hs) ..)

/-- The factor is turned off by a code of the stored secret, which is dropped. -/
theorem runOn_disable (h : w.Sound) (setup : Setup) (id submitted : String) :
    (disable setup id submitted).runOn w =
      match w.account? id with
      | none => (.error (.refused (.accountNotFound id)), w)
      | some a =>
        if !a.credentials.totpEnabled then (.error (.refused .twoFactorNotEnabled), w)
        else match usableSecret? a.credentials with
          | none => (.error (.refused .incompleteTwoFactor), w)
          | some secret =>
            match Totp.verify setup.totp secret submitted w.clock with
            | .error f => (.error f, w)
            | .ok false => (.error (.refused .totpInvalid),
                w.logged setup .mfaFailed (some id) none (some .totpInvalid) metadata)
            | .ok true => (.ok true, (w.changed id [.totpEnabled false, .totpSecret none]).logged setup
                .mfaDisabled (some id) none none metadata) := by
  unfold disable
  rw [Action.runOn_bind, runOn_requireAccount h]
  cases ha : w.account? id with
  | none => rfl
  | some a =>
    dsimp only
    split
    · rfl
    · cases usableSecret? a.credentials with
      | none => rfl
      | some secret =>
        dsimp only
        rw [Action.runOn_bind, runOn_check]
        rcases Totp.verify setup.totp secret submitted w.clock with f | ⟨_ | _⟩
        · rfl
        · dsimp only
          rw [if_neg (by simp), Action.runOn_bind_of_ok (runOn_recordWrongCode h ..), Action.runOn_refuse]
        · dsimp only
          rw [if_pos rfl, Action.runOn_bind, runOn_changeCredentials h ha storable_removal]
          dsimp only
          exact Action.runOn_bind_of_ok (runOn_record (h.changed ha storable_removal) ..)

/-- Checking a code at a login changes no account. -/
theorem runOn_validate (h : w.Sound) (setup : Setup) (id submitted : String) :
    (validate setup id submitted).runOn w =
      match w.account? id with
      | none => (.error (.refused (.accountNotFound id)), w)
      | some a =>
        if !a.credentials.totpEnabled then (.ok true, w)
        else match usableSecret? a.credentials with
          | none => (.error (.refused .incompleteTwoFactor), w)
          | some secret =>
            match Totp.verify setup.totp secret submitted w.clock with
            | .error f => (.error f, w)
            | .ok false => (.ok false, w.logged setup .mfaFailed (some id) none (some .totpInvalid) metadata)
            | .ok true => (.ok true, w.logged setup .mfaVerified (some id) none none metadata) := by
  unfold validate
  rw [Action.runOn_bind, runOn_requireAccount h]
  cases w.account? id with
  | none => rfl
  | some a =>
    dsimp only
    split
    · rfl
    · cases usableSecret? a.credentials with
      | none => rfl
      | some secret =>
        dsimp only
        rw [Action.runOn_bind, runOn_check]
        rcases Totp.verify setup.totp secret submitted w.clock with f | ⟨_ | _⟩
        · rfl
        · dsimp only
          rw [if_neg (by simp), Action.runOn_bind_of_ok (runOn_recordWrongCode h ..), Action.runOn_pure]
        · dsimp only
          rw [if_pos rfl, Action.runOn_bind_of_ok (runOn_record h ..), Action.runOn_pure]

/-! ## How the calls end -/

theorem eq_of_usableSecret? {c : Credentials} {secret : String} (h : usableSecret? c = some secret) :
    c.totpSecret = some secret := by
  obtain ⟨hs, -⟩ := Option.filter_eq_some_iff.1 h
  exact hs

/-- How making a secret ends: the result, and the state that is left. -/
inductive GenerateEnds (setup : Setup) (id : String) (w : World S) : Except Failure Enrollment × World S → Prop
  | failed {f : Failure} {v : World S} (hv : v.account? = w.account?) : GenerateEnds setup id w (.error f, v)
  | made {a : Account} (ha : w.account? id = some a) :
      GenerateEnds setup id w (.ok (enrollment setup (nextSecret setup w) a.email),
        (w.drew Totp.secretLength).changed id [.totpSecret (some (nextSecret setup w))])

/-- **Every making of a secret** ends in one of these ways. -/
theorem ends_generate (h : w.Sound) (setup : Setup) (id : String) :
    GenerateEnds setup id w ((generate setup id).runOn w) := by
  rw [runOn_generate h]
  cases ha : w.account? id with
  | none => exact .failed rfl
  | some a =>
    dsimp only
    cases Totp.checkConfig setup.totp with
    | error f => exact .failed rfl
    | ok _ => exact .made ha

/-- How turning the factor on ends. -/
inductive EnableEnds (setup : Setup) (id submitted : String) (w : World S) : Except Failure Bool × World S → Prop
  | failed {f : Failure} {v : World S} (hv : v.account? = w.account?) : EnableEnds setup id submitted w (.error f, v)
  | proven {a : Account} {secret : String} (ha : w.account? id = some a) (hs : a.credentials.totpSecret = some secret)
      (hright : Totp.verify setup.totp secret submitted w.clock = .ok true) :
      EnableEnds setup id submitted w
        (.ok true, (w.changed id [.totpEnabled true]).logged setup .mfaEnabled (some id) none none metadata)

/-- **Every turning on of the factor** ends in one of these ways. -/
theorem ends_enable (h : w.Sound) (setup : Setup) (id submitted : String) :
    EnableEnds setup id submitted w ((enable setup id submitted).runOn w) := by
  rw [runOn_enable h]
  cases ha : w.account? id with
  | none => exact .failed rfl
  | some a =>
    dsimp only
    cases hu : usableSecret? a.credentials with
    | none => exact .failed rfl
    | some secret =>
      dsimp only
      rcases hv : Totp.verify setup.totp secret submitted w.clock with f | ⟨_ | _⟩
      · exact .failed rfl
      · exact .failed rfl
      · exact .proven ha (eq_of_usableSecret? hu) hv

/-- How turning the factor off ends. -/
inductive DisableEnds (setup : Setup) (id submitted : String) (w : World S) : Except Failure Bool × World S → Prop
  | failed {f : Failure} {v : World S} (hv : v.account? = w.account?) : DisableEnds setup id submitted w (.error f, v)
  | removed {a : Account} {secret : String} (ha : w.account? id = some a) (he : a.credentials.totpEnabled)
      (hs : a.credentials.totpSecret = some secret)
      (hright : Totp.verify setup.totp secret submitted w.clock = .ok true) :
      DisableEnds setup id submitted w (.ok true, (w.changed id [.totpEnabled false, .totpSecret none]).logged setup
        .mfaDisabled (some id) none none metadata)

/-- **Every turning off of the factor** ends in one of these ways. -/
theorem ends_disable (h : w.Sound) (setup : Setup) (id submitted : String) :
    DisableEnds setup id submitted w ((disable setup id submitted).runOn w) := by
  rw [runOn_disable h]
  cases ha : w.account? id with
  | none => exact .failed rfl
  | some a =>
    dsimp only
    cases he : a.credentials.totpEnabled with
    | false => exact .failed rfl
    | true =>
      rw [if_neg (by simp)]
      cases hu : usableSecret? a.credentials with
      | none => exact .failed rfl
      | some secret =>
        dsimp only
        rcases hv : Totp.verify setup.totp secret submitted w.clock with f | ⟨_ | _⟩
        · exact .failed rfl
        · exact .failed rfl
        · exact .removed ha he (eq_of_usableSecret? hu) hv

end AccountSecurity.TotpFactor
