import AccountSecurity.Proofs.Service.OtpChallenge

/-!
# What the calls for the SMS factor do

* `runOn_initiate` : the number is stored, with the flags of a new number, before the code is issued;
* `runOn_verifyPhone` : the check of a code for the purpose of phone verification;
* `runOn_enable`, `runOn_disable` : the factor itself.
-/

namespace AccountSecurity.SmsFactor
open World
variable {S : Type} [AccountStore S] [LawfulStore S] {w : World S} {a : Account}

/-- The flags of a number that is not proven. -/
def unproven : List CredentialChange := [.phoneVerified false, .smsEnabled false]

section Storable
variable {keeps : BackupCode → Prop}

theorem storable_unproven : Storable keeps unproven := by simp [Storable, unproven, CredentialChange.Storable]

theorem storable_smsEnabled (enabled : Bool) : Storable keeps [.smsEnabled enabled] := by
  simp [Storable, CredentialChange.Storable]

end Storable

/-- The state with the number of an account stored; a number that is there already is left alone. -/
def moved (id phoneNumber : String) (a : Account) (w : World S) : World S :=
  if a.phoneNumber = some phoneNumber then w else (w.renumbered id (some phoneNumber)).changed id unproven

theorem account?_renumbered_self (h : w.Sound) {id : String} (ha : w.account? id = some a) (n : Option String) :
    (w.renumbered id n).account? id = some (a.renumbered n) := by
  rw [account?_renumbered h ha, Function.update_self]

theorem sound_moved (h : w.Sound) {id : String} (ha : w.account? id = some a) (phoneNumber : String) :
    (moved id phoneNumber a w).Sound := by
  unfold moved
  split
  · exact h
  · exact (h.renumbered ha _).changed (account?_renumbered_self h ha _) storable_unproven

/-- Starting the verification of a number: the number is stored, and then the code is issued. -/
theorem runOn_initiate (h : w.Sound) (setup : Setup) (id phoneNumber : String) :
    (initiate setup id phoneNumber).runOn w =
      match w.account? id with
      | none => (.error (.refused (.accountNotFound id)), w)
      | some a => (OtpChallenge.issue setup setup.phoneOtp id .phoneVerification (some phoneNumber)).runOn
          (moved id phoneNumber a w) := by
  unfold initiate
  rw [Action.runOn_bind, runOn_requireAccount h]
  cases ha : w.account? id with
  | none => rfl
  | some a =>
    dsimp only
    unfold moved
    by_cases hn : a.phoneNumber = some phoneNumber
    · rw [if_neg (by simpa using hn), if_pos hn]
    · rw [if_pos hn, if_neg hn, Action.runOn_bind, runOn_renumber h ha]
      dsimp only
      rw [← unproven, Action.runOn_bind, runOn_changeCredentials (h.renumbered ha _)
        (account?_renumbered_self h ha _) storable_unproven]

omit [LawfulStore S] in
theorem runOn_verifyPhone (setup : Setup) (id submitted : String) :
    (verifyPhone setup id submitted).runOn w =
      (((OtpChallenge.verify setup id submitted .phoneVerification).runOn w).1.map fun _ => true,
        ((OtpChallenge.verify setup id submitted .phoneVerification).runOn w).2) := by
  unfold verifyPhone
  rw [Action.runOn_bind]
  rcases (OtpChallenge.verify setup id submitted .phoneVerification).runOn w with ⟨⟨⟩ | ⟨⟩, t⟩ <;> rfl

/-- Turning the factor on takes a proven number. -/
theorem runOn_enable (h : w.Sound) (setup : Setup) (id : String) :
    (enable setup id).runOn w =
      match w.account? id with
      | none => (.error (.refused (.accountNotFound id)), w)
      | some a =>
        if (OtpChallenge.nonempty? a.phoneNumber).isNone ∨ !a.credentials.phoneVerified then
          (.error (.refused .phoneNotVerified), w)
        else (.ok true, (w.changed id [.smsEnabled true]).logged setup .mfaEnabled (some id) none none metadata) := by
  unfold enable
  rw [Action.runOn_bind, runOn_requireAccount h]
  cases ha : w.account? id with
  | none => rfl
  | some a =>
    have hs : Storable (LawfulStore.Keeps S) _ := storable_smsEnabled true
    dsimp only
    split
    · rfl
    · rw [Action.runOn_bind, runOn_changeCredentials h ha hs]
      dsimp only
      exact Action.runOn_bind_of_ok (runOn_record (h.changed ha hs) ..)

/-- Turning the factor off drops a pending code. -/
theorem runOn_disable (h : w.Sound) (setup : Setup) (id : String) :
    (disable setup id).runOn w =
      match w.account? id with
      | none => (.error (.refused (.accountNotFound id)), w)
      | some a =>
        if !a.credentials.smsEnabled then (.error (.refused .smsNotEnabled), w)
        else (.ok true, ((w.changed id [.smsEnabled false]).changed id CredentialChange.clearOtp).logged setup
          .mfaDisabled (some id) none none metadata) := by
  unfold disable
  rw [Action.runOn_bind, runOn_requireAccount h]
  cases ha : w.account? id with
  | none => rfl
  | some a =>
    have hs : Storable (LawfulStore.Keeps S) _ := storable_smsEnabled false
    have ha' := account?_changed_self h ha hs
    have hc := (h.changed ha hs).changed ha' OtpChallenge.storable_clearOtp
    dsimp only
    split
    · rfl
    · rw [Action.runOn_bind, runOn_changeCredentials h ha hs]
      dsimp only
      rw [Action.runOn_bind, OtpChallenge.runOn_clear (h.changed ha hs), ha']
      dsimp only
      exact Action.runOn_bind_of_ok (runOn_record hc ..)

end AccountSecurity.SmsFactor
