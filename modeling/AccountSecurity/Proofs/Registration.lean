import AccountSecurity.Proofs.PasswordUpgrade
import AccountSecurity.Proofs.Service.Faithful

/-!
# Registration

A registration adds one account or leaves the accounts as they are, in either store.

* `Login.yields_register_taken`, `Login.yields_register_refused`, `Login.yields_register` : its three ends;
* `registration_is_atomic` : **a registration is refused where the folded address is taken or the password cannot be
  hashed; otherwise one account is added, which is found under every spelling of its address and keeps others from it.**
-/

namespace AccountSecurity
open World

variable {S : Type} [AccountStore S] [FaithfulStore S]

namespace Login
variable {setup : Setup} {w : World S} {accounts : String → Option Account} {r : Registration}

/-- An address that an account has is refused, and nothing changes. -/
theorem yields_register_taken (hheld : Holds w.store accounts) (hclock : w.clock.offset = 0)
    (htaken : ∃ a, accounts a.id = some a ∧ a.email = Text.fold r.email) (setup : Setup) :
    Yields ((register setup r).runOn w) (.error (.refused (.accountExists false))) accounts w.surroundings := by
  obtain ⟨v, h, rfl⟩ := hheld.exists_alongside hclock
  obtain ⟨a, ha, he⟩ := htaken
  have hfind : v.find? (Text.fold r.email) = some a :=
    (find?_iff_of_exact h.exact).2 ⟨ha, he.trans (Text.fold_fold _).symm⟩
  have hrun := runOn_register h.sound setup r
  rw [hfind] at hrun
  rw [h.rest]
  exact (agrees_register h setup r fun hnone => by rw [hfind] at hnone; cases hnone).yields hrun

/-- In memory, an account with a folded address is added as it is. -/
theorem runOn_create_of_new {v : World MemoryStore} (hm : v.store.Exact) {a : Account}
    (hid : v.account? a.id = none) (hfolded : Text.fold a.email = a.email)
    (hfree : ∀ b, v.account? b.id = some b → b.email ≠ a.email) :
    (onStore (AccountStore.create a)).runOn v = (.ok (), v.over (v.store.added a)) := by
  have hr : (AccountStore.create a).runOn v.store = _ := hm.runOn_create_of_new hid (hfolded.symm ▸ hfree)
  rw [onStore, Action.runOn_within, hr, hfolded]
  rfl

section New
variable (hheld : Holds w.store accounts) (hclock : w.clock.offset = 0) (hname : r.displayName.isSome)
  (hfresh : accounts (setup.sources.accountIds w.idsTaken) = none)
  (hfree : ∀ a, accounts a.id = some a → a.email ≠ Text.fold r.email)
include hheld hclock hname hfresh hfree

/-- A password that the hasher refuses: an identifier was taken, and no account is added. -/
theorem yields_register_refused (hr : setup.hasher.Refuses r.password) :
    Yields ((register setup r).runOn w) (.error (.refused (.passwordTooLong Bcrypt.maxPasswordBytes))) accounts
      (tookId w.surroundings) := by
  obtain ⟨v, h, rfl⟩ := hheld.exists_alongside hclock
  have hfind := find?_eq_none_of_exact h.exact fun a ha => (Text.fold_fold r.email).symm ▸ hfree a ha
  have hrun := runOn_register h.sound setup r
  rw [hfind, Hasher.hash_of_refuses hr] at hrun
  rw [h.rest]
  exact (agrees_register h setup r fun _ => ⟨hname, h.idsTaken ▸ hfresh⟩).yields hrun

/-- A password that can be hashed: the account is added, and the log is told. -/
theorem yields_register {passwordHash : String}
    (hhash : setup.hasher.hash setup.sources.salts r.password = .ok passwordHash) :
    let a := newAccount setup r passwordHash w
    Yields ((register setup r).runOn w) (.ok a.view) (Function.update accounts a.id (some a))
      ((tookId w.surroundings).logged setup .userCreated (some a.id) none none []) := by
  obtain ⟨v, h, rfl⟩ := hheld.exists_alongside hclock
  have hid : v.account? (setup.sources.accountIds v.idsTaken) = none := by rw [← h.idsTaken, hfresh]
  have hsame : newAccount setup r passwordHash w = newAccount setup r passwordHash v :=
    congrArg (newAccount setup r passwordHash) h.rest
  have hfind := find?_eq_none_of_exact h.exact fun a ha => (Text.fold_fold r.email).symm ▸ hfree a ha
  have hfolded : Text.fold (newAccount setup r passwordHash v).email = (newAccount setup r passwordHash v).email :=
    Text.fold_fold r.email
  have hcreate := runOn_create_of_new (v := tookId v) (a := newAccount setup r passwordHash v) h.exact hid hfolded hfree
  have hrun := runOn_register h.sound setup r
  rw [hfind, hhash] at hrun
  dsimp only at hrun
  rw [hcreate] at hrun
  rw [hsame, h.rest]
  have hadded : (v.store.added (newAccount setup r passwordHash v)).accounts.get? = _ :=
    Table.get?_put_eq_update ..
  exact (agrees_register h setup r fun _ => ⟨hname, hid⟩).yields_accounts hrun hadded

end New

end Login

open Login

/-- A registration in either store, where no account has the identifier that comes next. If an account has the folded
address, or else if the hasher refuses the password, the registration is refused for that, and accounts, sessions, messages
and log are as they were. Otherwise there is one account more, with that address, nothing verified and a hash that accepts
the password; its view is what is shown, it is found under every spelling of its address, and as long as it has that
address, no other account is registered under it. -/
theorem registration_is_atomic {setup : Setup} (hworks : setup.hasher.Works setup.sources.salts) {w : World S}
    {accounts : String → Option Account} (hheld : Holds w.store accounts) (hclock : w.clock.offset = 0)
    (r : Registration) (hname : r.displayName.isSome)
    (hfresh : accounts (setup.sources.accountIds w.idsTaken) = none) :
    let ended := (register setup r).runOn w
    ((∃ a, accounts a.id = some a ∧ a.email = Text.fold r.email) →
      Yields ended (.error (.refused (.accountExists false))) accounts w.surroundings) ∧
    ((∀ a, accounts a.id = some a → a.email ≠ Text.fold r.email) → setup.hasher.Refuses r.password →
      Yields ended (.error (.refused (.passwordTooLong Bcrypt.maxPasswordBytes))) accounts (tookId w.surroundings)) ∧
    ((∀ a, accounts a.id = some a → a.email ≠ Text.fold r.email) → ¬ setup.hasher.Refuses r.password →
      ∃ passwordHash, Hasher.verify passwordHash r.password = .ok true ∧
        let a := newAccount setup r passwordHash w
        Yields ended (.ok a.view) (Function.update accounts a.id (some a))
          ((tookId w.surroundings).logged setup .userCreated (some a.id) none none []) ∧
        (∀ identifier, Text.fold identifier = Text.fold r.email →
          (AccountStore.findByIdentifier identifier).outcome ended.2.store = .ok (some a)) ∧
        ∀ (v : World S) (later : String → Option Account), Holds v.store later → v.clock.offset = 0 →
          (∃ b, later a.id = some b ∧ b.email = a.email) →
          ∀ (setup' : Setup) (r' : Registration), Text.fold r'.email = Text.fold r.email →
            Yields ((register setup' r').runOn v) (.error (.refused (.accountExists false))) later v.surroundings) := by
  refine ⟨fun htaken => ?_, fun hfree hrefuses => ?_, fun hfree hrefuses => ?_⟩
  · exact yields_register_taken hheld hclock htaken setup
  · exact yields_register_refused hheld hclock hname hfresh hfree hrefuses
  · obtain ⟨passwordHash, hhash⟩ := Hasher.exists_hash hworks hrefuses
    have hyields := yields_register hheld hclock hname hfresh hfree hhash
    refine ⟨passwordHash, Hasher.verify_hash hworks hhash, hyields, fun identifier hspelled => ?_, ?_⟩
    · obtain ⟨found, hfound, hiff⟩ := hyields.accounts.outcome_findByIdentifier identifier
      rw [hfound, (hiff _).2 ⟨Function.update_self .., hspelled.symm⟩]
    · rintro v later hlater hutc ⟨b, hb, he⟩ setup' r' hspelled
      have hid := hlater.id_eq hb
      exact yields_register_taken hlater hutc ⟨b, hid ▸ hb, he.trans hspelled.symm⟩ setup'

/-- The first registration in an empty table. -/
theorem registration_is_atomic_first :
    let w : World RelationalStore := { clock := .epoch, store := AccountStore.empty }
    let r : Registration := { email := " User@Example.org", password := "password", displayName := some "User" }
    ∃ passwordHash, Hasher.verify passwordHash "password" = .ok true ∧
      (AccountStore.findByIdentifier "USER@EXAMPLE.ORG").outcome ((register Setup.sample r).runOn w).2.store =
        .ok (some (newAccount Setup.sample r passwordHash w)) := by
  intro w r
  obtain ⟨-, -, hnew⟩ := registration_is_atomic Setup.works_sample (w := w) holds_empty rfl r rfl rfl
  obtain ⟨passwordHash, hverify, -, hfound, -⟩ := hnew (fun _ ha => by cases ha) fun hrefuses =>
    absurd hrefuses.2 (by decide +kernel)
  exact ⟨passwordHash, hverify, hfound _ (by decide +kernel)⟩

end AccountSecurity
