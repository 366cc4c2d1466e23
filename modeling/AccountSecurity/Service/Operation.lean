import AccountSecurity.Service.BackupVault
import AccountSecurity.Service.Login
import AccountSecurity.Service.SmsFactor
import AccountSecurity.Service.TotpFactor

/-!
# The operations of the services

Everything that clients can ask for, as one type.

* `Operation` : a call of a service with its arguments, and `Reply`, what a successful call gives;
* `Operation.perform` : the call;
* `Operation.run` : the reply or the failure of a call, and the state after it.
-/

namespace AccountSecurity
open World

/-- A call of a service. -/
inductive Operation where
  | login (identifier password : String) (context : Option RequestContext)
  | finishLogin (id code : String) (context : Option RequestContext)
  | refresh (token : String) (context : Option RequestContext)
  | logout (token : String) (context : Option RequestContext)
  | register (registration : Login.Registration)
  | issueOtp (id : String) (purpose : OtpPurpose) (phoneNumber : Option String)
  | verifyOtp (id code : String) (purpose : OtpPurpose)
  | clearOtp (id : String)
  | initiatePhone (id phoneNumber : String)
  | verifyPhone (id code : String)
  | enableSms (id : String)
  | disableSms (id : String)
  | generateTotp (id : String)
  | enableTotp (id code : String)
  | disableTotp (id code : String)
  | validateTotp (id code : String)
  | generateBackup (id : String)
  | verifyBackup (id code : String)
  | remainingBackup (id : String)

/-- What a successful call gives. -/
inductive Reply where
  | done
  | flag (value : Bool)
  | count (value : Nat)
  | backupCode (code : String)
  | tokens (tokens : TokenSet)
  | loggedIn (tokens : TokenSet) (account : AccountView)
  | challenged (accountId : String)
  | account (account : Account)
  | view (account : AccountView)
  | enrollment (enrollment : TotpFactor.Enrollment)
deriving DecidableEq

/-- The reply of a login. -/
def Login.Outcome.reply : Login.Outcome → Reply
  | .success tokens account => .loggedIn tokens account
  | .challenge accountId => .challenged accountId

namespace Operation
variable {S : Type} [AccountStore S]

/-- Calls the service. -/
def perform (setup : Setup) : Operation → Op S Reply
  | login identifier password context =>
    noteContext context *> Login.Outcome.reply <$> Login.login setup identifier password context
  | finishLogin id code context => do
    noteContext context
    let (tokens, account) ← Login.finish setup id code context
    return .loggedIn tokens account
  | refresh token context => noteContext context *> .tokens <$> Login.refresh setup token context
  | logout token context => noteContext context *> .flag <$> Login.logout setup token context
  | register registration => .view <$> Login.register setup registration
  | issueOtp id purpose phoneNumber => do
    OtpChallenge.issue setup setup.otp id purpose phoneNumber
    return .done
  | verifyOtp id code purpose => .account <$> OtpChallenge.verify setup id code purpose
  | clearOtp id => do
    OtpChallenge.clear id
    return .done
  | initiatePhone id phoneNumber => do
    SmsFactor.initiate setup id phoneNumber
    return .done
  | verifyPhone id code => .flag <$> SmsFactor.verifyPhone setup id code
  | enableSms id => .flag <$> SmsFactor.enable setup id
  | disableSms id => .flag <$> SmsFactor.disable setup id
  | generateTotp id => .enrollment <$> TotpFactor.generate setup id
  | enableTotp id code => .flag <$> TotpFactor.enable setup id code
  | disableTotp id code => .flag <$> TotpFactor.disable setup id code
  | validateTotp id code => .flag <$> TotpFactor.validate setup id code
  | generateBackup id => .backupCode <$> BackupVault.generate setup id
  | verifyBackup id code => .flag <$> BackupVault.verify setup id code
  | remainingBackup id => .count <$> BackupVault.remaining id

/-- The reply or the failure of a call, and the state after it. -/
def run (setup : Setup) (op : Operation) (w : World S) : Except Failure Reply × World S :=
  (op.perform setup).runOn w

end Operation

end AccountSecurity
