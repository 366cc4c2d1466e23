/-!
# Settings

The rules that the services follow. Every setting has the value of the production system by default.
-/

namespace AccountSecurity

/-- After how many wrong passwords in a row an account is locked, and for how many minutes. -/
structure LoginPolicy where
  maxAttempts : Int := 10
  lockMinutes : Int := 15
deriving DecidableEq, Repr

/-- Codes sent by SMS: their digits, the minutes that they are valid, the application's name in the
text, and the calling codes whose numbers get the English text. -/
structure OtpConfig where
  codeLength : Int := 6
  ttlMinutes : Int := 10
  appName : String := "MyApp"
  englishCallingCodes : List String := ["+1", "+44", "+61", "+64", "+353", "+27"]
deriving DecidableEq, Repr

/-- Codes of authenticator apps: the label of the application, the digits, the seconds of a step, and
how many steps to either side are accepted. -/
structure TotpConfig where
  issuer : String := "MyApp"
  digits : Int := 6
  interval : Int := 30
  validWindow : Int := 0
deriving DecidableEq, Repr

/-- Backup codes: their characters, and how many are kept for an account. -/
structure BackupCodeConfig where
  codeLength : Int := 10
  maxStored : Int := 20
deriving DecidableEq, Repr

/-- The seconds for which access and refresh tokens are valid. -/
structure TokenLifetimes where
  accessSeconds : Int := 3600
  refreshSeconds : Int := 604800
deriving DecidableEq, Repr

end AccountSecurity
