import RowSync.Config.Configuration
import RowSync.Postgres.Session

/-!
Connections to PostgreSQL servers. Without encryption the login is sent at once; encryption is asked
for first, and is not to be had on a local socket or from the servers described here.
-/

set_option autoImplicit false

namespace RowSync.PostgresSession

/-- The name under which the program is known to the server. -/
def applicationName : String := "pg2mysql"

/-- The settings sent with a login. -/
def loginSettings (settings : DatabaseSettings) : List (String × String) :=
  [("client_encoding", "UTF8"), ("user", settings.username), ("database", settings.database),
    ("application_name", applicationName)]

/-- The login, up to the statement that shows that the connection works. -/
def login (settings : DatabaseSettings) (s : PostgresSession) :
    Except PostgresFault Unit × PostgresSession :=
  let say := fun (messages : List PostgresMessage) =>
    { s with sent := s.sent ++ (.startup (loginSettings settings) :: messages).toArray }
  match s.server.reception with
  | .absent => (.error .connect, s)
  | .refusing => (.error (.server s.server.refusal), say [])
  | .refusingProbe => (.error (.server s.server.refusal), say [.simple probeStatement])
  | .askingPassword => (.ok (), say [.password settings.password, .simple probeStatement])
  | .accepting => (.ok (), say [.simple probeStatement])

/-- The request for encryption, which none of the servers grants. -/
def loginEncrypted (s : PostgresSession) : PostgresFault × PostgresSession :=
  if s.server.isLocal then (.encryption, s)
  else if s.server.reception == .absent then (.connect, s)
  else (.encryption, { s with sent := s.sent.push .encryptionRequest })

/-- The warning that passwords can be read on the way. -/
def plaintextWarning : LogLine :=
  ⟨.warn, "PostgreSQL TLS is disabled. Credentials will be transmitted in plaintext."⟩

def connectionFailure (settings : DatabaseSettings) (fault : PostgresFault) : Failure :=
  .connection fault.message ("connecting to " ++ settings.endpoint)

def connect (settings : DatabaseSettings) (s : PostgresSession) : Attempt × PostgresSession :=
  match EncryptionMode.read settings.encryption with
  | .error failure => (⟨.error failure, []⟩, s)
  | .ok mode =>
    if mode.isEncrypted then
      let (fault, s) := loginEncrypted s
      (⟨.error (connectionFailure settings fault), mode.setupLines⟩, s)
    else
      match login settings s with
      | (.error fault, s) =>
        (⟨.error (connectionFailure settings fault), [plaintextWarning]⟩, s)
      | (.ok (), s) =>
        (⟨.ok (), [plaintextWarning, ⟨.info, "Connected to PostgreSQL: " ++ settings.endpoint⟩]⟩,
          { s with
            database := settings.database, schema := settings.schema
            excludedTables := settings.excludedTables, isOpen := true, statements := [] })

end RowSync.PostgresSession
