import AccountSecurity.Service.World

/-!
# What an operation shows

* `World.Effects` : the accounts that an operation changed, the messages and events that it added, and the
  sessions if they are not as before;
* `World.effects` : these effects, from the states before and after;
* `Sources.repeatable` : sources that give the same values in every run.
-/

namespace AccountSecurity

namespace World
variable {S : Type}

/-- What differs between two states. An account that is gone is shown as absent. -/
structure Effects where
  changed : List (String × Option Account)
  messages : List TextMessage
  events : List Event
  sessions : Option (List (String × Session))

/-- The account with an identifier. -/
def accountOf? (accounts : List Account) (id : String) : Option Account :=
  accounts.find? (·.id == id)

/-- The accounts that are new or not as before, and the ones that are gone. -/
def changedAccounts (before after : List Account) : List (String × Option Account) :=
  let updated := after.filter fun a => accountOf? before a.id != some a
  let gone := before.filter fun a => (accountOf? after a.id).isNone
  updated.map (fun a => (a.id, some a)) ++ gone.map fun a => (a.id, none)

/-- What an operation did, if the accounts can be read. -/
def effects [AccountStore S] (before after : World S) : Except Fault Effects := do
  let changed := changedAccounts (← AccountStore.accounts before.store) (← AccountStore.accounts after.store)
  return {
    changed
    messages := after.outbox.drop before.outbox.length
    events := after.audit.events.toList.drop before.audit.events.size
    sessions :=
      if after.sessions.entries = before.sessions.entries then none
      else some after.sessions.entries }

end World

namespace Sources

/-- The draws of a list, which grow by one with every turn. -/
def cyclicDraw (seed : List Nat) (k : Nat) : Nat :=
  seed.getD (k % seed.length) 0 + k / seed.length

/-- The identifier of a number, in the form of a random one. -/
def numberedId (n : Nat) : String :=
  "00000000-0000-4000-8000-" ++ String.ofList (Text.hexDigits 12 n)

/-- Sources that give the same values in every run. -/
def repeatable (seed : List Nat) (salts : Salts) : Sources where
  draws := cyclicDraw seed
  tokens k := "tok" ++ Text.integerText (k + 1)
  accountIds k := numberedId (k + 1)
  salts := salts

end Sources

end AccountSecurity
