import RowSync.Failure
import RowSync.Journal
import RowSync.Text.LowerCase

/-!
Encryption of connections: the modes of PostgreSQL connections and the settings that a mode stands
for on MySQL connections, each with the lines logged when it is set up.
-/

set_option autoImplicit false

namespace RowSync

/-- How a connection to PostgreSQL is encrypted. -/
inductive EncryptionMode
  | disable
  /-- Encrypted, with any certificate. -/
  | require
  /-- Encrypted, with a trusted certificate. -/
  | verifyCa
  /-- Encrypted, with a trusted certificate for the host. -/
  | verifyFull
  deriving DecidableEq, Repr

namespace EncryptionMode

/-- The mode that a setting names, in any case; an empty setting names the first. -/
def read (setting : String) : Outcome EncryptionMode :=
  match Text.lower setting with
  | "disable" | "" => .ok disable
  | "require" => .ok require
  | "verify-ca" => .ok verifyCa
  | "verify-full" => .ok verifyFull
  | other =>
    .error (.config
      s!"Invalid ssl_mode '{other}'. Valid values: disable, require, verify-ca, verify-full")

def name : EncryptionMode → String
  | disable => "Disable"
  | require => "Require"
  | verifyCa => "VerifyCa"
  | verifyFull => "VerifyFull"

def isEncrypted (m : EncryptionMode) : Bool := m != disable

/-- The lines logged when encryption is set up. -/
def setupLines : EncryptionMode → List LogLine
  | disable => []
  | require =>
    [⟨.warn, "ssl_mode=require enables TLS but does NOT verify the server certificate. " ++
      "Use ssl_mode=verify-full to protect against man-in-the-middle attacks."⟩]
  | mode => [⟨.info, s!"ssl_mode={mode.name}: certificate verification enabled"⟩]

end EncryptionMode

/-- How a connection to MySQL is encrypted. -/
structure MysqlEncryption where
  /-- The certificate need not be for the host. -/
  skipDomainValidation : Bool := false
  /-- The certificate need not be trusted. -/
  acceptInvalidCerts : Bool := false
  deriving DecidableEq, Repr

namespace MysqlEncryption

/-- The encryption that a setting names, if any, with the lines logged; what is not known is taken
for the preference of encryption. -/
def read (setting : String) : Option MysqlEncryption × List LogLine :=
  match Text.lower setting with
  | "disable" | "" =>
    (none, [⟨.warn, "MySQL TLS is disabled. Credentials will be transmitted in plaintext."⟩])
  | "prefer" | "require" => (some { acceptInvalidCerts := true }, [])
  | "verify-ca" | "verify_ca" => (some { skipDomainValidation := true }, [])
  | "verify-full" | "verify_identity" => (some {}, [])
  | other =>
    (some { acceptInvalidCerts := true },
      [⟨.warn, s!"Unknown ssl_mode '{other}', defaulting to prefer"⟩])

/-- The settings that are accepted in a configuration. -/
def knownSettings : List String :=
  ["disable", "prefer", "require", "verify-ca", "verify_ca", "verify-full", "verify_identity"]

end MysqlEncryption

end RowSync
