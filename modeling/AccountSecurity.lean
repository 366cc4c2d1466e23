import AccountSecurity.Service.Observation
import AccountSecurity.Http.Router
import AccountSecurity.Service.Login
import AccountSecurity.Service.SmsFactor
import AccountSecurity.Service.TotpFactor
import AccountSecurity.Service.BackupVault
import AccountSecurity.Store.Memory
import AccountSecurity.Store.Relational
import AccountSecurity.Settings
import AccountSecurity.Audit.Log
import AccountSecurity.Session.Table
import AccountSecurity.Account.Credentials
import AccountSecurity.Table
import AccountSecurity.Password.Hasher
import AccountSecurity.Error.Failure
import AccountSecurity.Crypto.Bcrypt
import AccountSecurity.Crypto.Argon2
import AccountSecurity.Crypto.Hmac
import AccountSecurity.Json.Reader
import AccountSecurity.Json.Writer
import AccountSecurity.Number.Decimal
import AccountSecurity.Encoding.Base32
import AccountSecurity.Encoding.Base64
import AccountSecurity.Time.TimestampReader
import AccountSecurity.Text.Integer
import AccountSecurity.Text.Lowercase
import AccountSecurity.Text.Quoted
import AccountSecurity.Text.Percent
import AccountSecurity.Text.Normal
import AccountSecurity.Proofs.Service.World
import AccountSecurity.Proofs.Service.OtpChallenge
import AccountSecurity.Proofs.Service.SmsFactor
import AccountSecurity.Proofs.Service.TotpFactor
import AccountSecurity.Proofs.Service.BackupVault
import AccountSecurity.Proofs.Service.TokenIssuer
import AccountSecurity.Proofs.Service.Login
import AccountSecurity.Proofs.Store.Memory
import AccountSecurity.Proofs.Service.Writes
import AccountSecurity.Proofs.Service.Operation
import AccountSecurity.Proofs.Run
import AccountSecurity.Proofs.Coherence
import AccountSecurity.Proofs.OtpHistory
import AccountSecurity.Proofs.Lockout
import AccountSecurity.Proofs.Sessions
import AccountSecurity.Proofs.BackupCodes
import AccountSecurity.Proofs.TotpSecrets
import AccountSecurity.Proofs.PhoneOwnership
import AccountSecurity.Proofs.Time.Calendar
import AccountSecurity.Proofs.Time.Timestamp
import AccountSecurity.Proofs.Store.Row
import AccountSecurity.Proofs.Text.Lowercase
import AccountSecurity.Proofs.Store.EmailIndex
import AccountSecurity.Proofs.Store.Relational
import AccountSecurity.Proofs.StoreAgreement
import AccountSecurity.Proofs.TokenRotation
import AccountSecurity.Proofs.AuditTrail
import AccountSecurity.Proofs.Store.Records
import AccountSecurity.Proofs.Isolation
import AccountSecurity.Proofs.Encoding.Base32
import AccountSecurity.Proofs.Number.Double
import AccountSecurity.Proofs.Totp.Code
import AccountSecurity.Proofs.Otp.Code
import AccountSecurity.Proofs.Service.Delivery
import AccountSecurity.Proofs.Refusals
import AccountSecurity.Proofs.PasswordUpgrade
import AccountSecurity.Proofs.Service.Local
import AccountSecurity.Proofs.Http.Bodies
import AccountSecurity.Proofs.Http.Routing
import AccountSecurity.Proofs.Http.Handling
import AccountSecurity.Proofs.Http.Codes
import AccountSecurity.Proofs.NumberChange
import AccountSecurity.Proofs.StoreFailures
import AccountSecurity.Proofs.EmailDirectory
import AccountSecurity.Proofs.LoginSecrecy
import AccountSecurity.Proofs.Outline
import AccountSecurity.Proofs.AuditSecrecy
import AccountSecurity.Proofs.AuditQueries
import AccountSecurity.Proofs.Store.Faithful
import AccountSecurity.Proofs.Service.Faithful
import AccountSecurity.Proofs.Registration
import AccountSecurity.Proofs.LoginTable
import AccountSecurity.Proofs.TotpWindow
import AccountSecurity.Proofs.Password.StoredHash
