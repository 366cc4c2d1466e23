import AccountSecurity.Audit.Log
import AccountSecurity.Password.Hasher
import AccountSecurity.Session.Table
import AccountSecurity.Settings
import AccountSecurity.Store.Basic

/-!
# The state that the services share

* `Sources` : where random numbers, tokens, identifiers and salts come from;
* `Setup` : the settings of all services and their surroundings;
* `World` : the clock, the store, the sessions, the audit log and the sent messages;
* `World.draw`, `World.nextToken`, `World.nextAccountId` : taking the next value of a source;
* `World.utcNow`, `World.minutesFromNow` : the time, and the time some while from now;
* `World.setClock`, `World.advance`, `World.setOutage` : changes of the surroundings;
* `World.record` : an entry in the audit log, if there is one;
* `World.requireAccount` : the account with an identifier, or a refusal.
-/

namespace AccountSecurity

/-! ## Surroundings -/

/-- The values that the services take one after the other: random numbers, tokens and identifiers by
their number, and the salts of new hashes. -/
structure Sources where
  draws : Nat → Nat
  tokens : Nat → String
  accountIds : Nat → String
  salts : Salts

/-- What carries messages: it keeps them, or hands them to a provider under a sender's number. -/
inductive Carrier where
  | recording
  | provider (sender : String)
deriving DecidableEq, Repr

/-- An error that a carrier or a caller meets: of a class of refusals, of the provider, or any other. -/
inductive Outage where
  | refusal (errorClass : ErrorClass) (message : String)
  | provider (reason : String)
  | other (name : String)
deriving DecidableEq, Repr

namespace Outage

/-- The name of an error. -/
def name : Outage → String
  | refusal c _ => c.name
  | provider _ => providerError
  | other name => name

end Outage

/-- The problem that is reported when a carrier meets an error. -/
def Carrier.problem : Carrier → Outage → DeliveryProblem
  | .recording, .refusal .smsDelivery message => .reported message
  | .recording, outage => .notSent outage.name
  | .provider _, .provider reason => .refused reason
  | .provider _, outage => .providerFailed outage.name

/-- A message to a phone number. -/
structure TextMessage where
  recipient : String
  text : String
deriving DecidableEq, Repr

/-- The settings of all services. -/
structure Setup where
  sources : Sources
  hasher : Hasher
  policy : LoginPolicy := {}
  otp : OtpConfig := {}
  /-- The settings for codes that verify a phone number. -/
  phoneOtp : OtpConfig := otp
  totp : TotpConfig := {}
  backup : BackupCodeConfig := {}
  lifetimes : TokenLifetimes := {}
  /-- Events are recorded. -/
  audited : Bool := true
  carrier : Carrier := .recording
  /-- Makes a picture of an address, if pictures are wanted. -/
  picture : Option (String → String) := none

/-- The state that the services work on. -/
structure World (S : Type) where
  /-- What the clock shows, with the offset under which it was set. -/
  clock : DateTime
  store : S
  sessions : Sessions := Table.empty
  audit : AuditLog := AuditLog.empty
  outbox : List TextMessage := []
  outage : Option Outage := none
  drawn : Nat := 0
  tokensTaken : Nat := 0
  idsTaken : Nat := 0

namespace World
variable {S : Type}

/-- An operation of a service. -/
abbrev Op (S α : Type) := Action (World S) α

/-! ## Sources -/

/-- The next random number. -/
def draw (setup : Setup) : Op S Nat := do
  let n := (← get).drawn
  modify fun w => { w with drawn := n + 1 }
  return setup.sources.draws n

/-- The next random numbers. -/
def drawMany (setup : Setup) : (count : Nat) → Op S (List Nat)
  | 0 => return []
  | count + 1 => do
    let n ← draw setup
    return n :: (← drawMany setup count)

/-- The next token. -/
def nextToken (setup : Setup) : Op S String := do
  let n := (← get).tokensTaken
  modify fun w => { w with tokensTaken := n + 1 }
  return setup.sources.tokens n

/-- The next identifier of an account. -/
def nextAccountId (setup : Setup) : Op S String := do
  let n := (← get).idsTaken
  modify fun w => { w with idsTaken := n + 1 }
  return setup.sources.accountIds n

/-! ## Time -/

/-- The time in universal time. At either end of the calendar the clock may show a time that has none. -/
def utcNow : Op S DateTime := do
  Action.orFail .timeRange (← get).clock.toUtc?

/-- The point in time some minutes from now. -/
def minutesFromNow (minutes : Int) : Op S DateTime := do
  let now ← utcNow
  Action.orFail .timeRange (now.addMinutes? minutes)

/-- Sets the clock. -/
def setClock (t : DateTime) : Op S Unit := modify fun w => { w with clock := t }

/-- Moves the clock by some microseconds. -/
def advance (micros : Int) : Op S Unit := do
  let clock ← Action.orFail .timeRange ((← get).clock.addMicros? micros)
  modify fun w => { w with clock }

/-! ## Audit log and messages -/

/-- Lets the carrier meet an error from now on, or none. -/
def setOutage (outage : Option Outage) : Op S Unit := modify fun w => { w with outage }

/-- Forgets the recorded events. -/
def clearAudit : Op S Unit := modify fun w => { w with audit := AuditLog.empty }

/-- Forgets the sent messages. -/
def clearOutbox : Op S Unit := modify fun w => { w with outbox := [] }

/-- Records an event, if events are recorded. -/
def record (setup : Setup) (eventType : EventType) (principal : Option String)
    (context : Option RequestContext) (error : Option SecurityError)
    (metadata : List (String × Json)) : Op S Unit := do
  if setup.audited then
    let now ← utcNow
    let event := Event.of now eventType principal context (error.map (·.errorClass.name))
      (.object metadata)
    modify fun w => { w with audit := w.audit.record event }

/-- The time at which the context of a request is taken, if there is one. -/
def noteContext (context : Option RequestContext) : Op S Unit := do
  if context.isSome then
    let _ ← utcNow

/-- Sends a message. -/
def send (setup : Setup) (message : TextMessage) : Op S Unit := do
  match (← get).outage with
  | some outage => Action.refuse (.smsDelivery (setup.carrier.problem outage))
  | none => modify fun w => { w with outbox := w.outbox ++ [message] }

/-! ## Accounts -/

/-- An operation of the store. -/
def onStore {α : Type} (a : Action S α) : Op S α :=
  Action.within World.store (fun s w => { w with store := s }) a

variable [AccountStore S]

/-- Forgets all accounts. -/
def clearStore : Op S Unit := modify fun w => { w with store := AccountStore.empty }

/-- The account with an identifier, or a refusal. -/
def requireAccount (id : String) : Op S Account := do
  match ← onStore (AccountStore.findById id) with
  | some a => return a
  | none => Action.refuse (.accountNotFound id)

/-- Changes the credentials of an account. -/
def changeCredentials (id : String) (changes : List CredentialChange) : Op S Unit :=
  onStore (AccountStore.updateCredentials id changes)

end World

end AccountSecurity
