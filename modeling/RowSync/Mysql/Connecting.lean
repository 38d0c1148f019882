import RowSync.Config.Configuration
import RowSync.Mysql.Session

/-!
Connections to MySQL servers.
-/

set_option autoImplicit false

namespace RowSync.MysqlSession

/-- The statement that sets the encoding of a connection. -/
def encodingStatement : String := "SET NAMES utf8mb4"

/-- The login, up to the statement that shows that the connection works. -/
def login (encrypted : Bool) (settings : DatabaseSettings) (s : MysqlSession) :
    Except MysqlFault Unit × MysqlSession :=
  let say := fun (messages : List MysqlMessage) =>
    { s with sent := s.sent ++ (.login settings.username :: messages).toArray }
  let probing := [MysqlMessage.query encodingStatement, .query probeStatement]
  if s.server.reception == .absent then (.error .unreachable, s)
  else if encrypted then (.error .noEncryption, s)
  else
    match s.server.reception with
    | .refusing => (.error (.server s.server.refusal), say [])
    | .refusingProbe => (.error (.server s.server.refusal), say probing)
    | _ => (.ok (), say probing)

def connectionFailure (settings : DatabaseSettings) (fault : MysqlFault) : Failure :=
  .connection fault.message ("connecting to " ++ settings.endpoint)

def connect (settings : DatabaseSettings) (s : MysqlSession) : Attempt × MysqlSession :=
  let (encryption?, lines) := MysqlEncryption.read settings.encryption
  match login encryption?.isSome settings s with
  | (.error fault, s) => (⟨.error (connectionFailure settings fault), lines⟩, s)
  | (.ok (), s) =>
    (⟨.ok (), lines ++ [⟨.info, "Connected to MySQL: " ++ settings.endpoint⟩]⟩,
      { s with
        database := settings.database, excludedTables := settings.excludedTables
        link := .established, prepared := [] })

end RowSync.MysqlSession
