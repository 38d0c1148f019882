import RowSync.Mysql.Connecting
import RowSync.Postgres.Connecting

/-!
The far end of a connection, where a server of either flavor may listen. The flavor of the settings
decides which of the two is spoken to.
-/

set_option autoImplicit false

namespace RowSync

/-- A request to a part of a larger state. -/
def Request.onPart {σ π α : Type} (get : π → σ) (set : σ → π → π) (request : Request σ α) :
    Request π α := fun p =>
  let (answer, s) := request (get p)
  (answer, set s p)

/-- A database whose state is a part of a larger state. -/
def Database.onPart {σ π : Type} (get : π → σ) (set : σ → π → π) (db : Database σ) :
    Database π where
  dialect := db.dialect
  schemaRows := db.schemaRows.onPart get set
  disableConstraints := db.disableConstraints.onPart get set
  enableConstraints := db.enableConstraints.onPart get set
  query := fun sql parameters => (db.query sql parameters).onPart get set
  stream := fun sql parameters size p =>
    let (stream, s) := db.stream sql parameters size (get p)
    (stream, set s p)
  execute := fun sql parameters => (db.execute sql parameters).onPart get set
  close := db.close.onPart get set

/-- A place where servers may listen. -/
structure Peer where
  postgres : PostgresSession
  mysql : MysqlSession

namespace Peer

/-- A place where nobody listens. -/
def unreachable : Peer where
  postgres := { server := { reception := .absent }, isOpen := false }
  mysql := { server := { reception := .absent }, link := .closed }

def database (settings : DatabaseSettings) : Database Peer :=
  match settings.flavor with
  | .postgres =>
    PostgresSession.toDatabase.onPart Peer.postgres fun s p => { p with postgres := s }
  | .mysql =>
    (MysqlSession.toDatabase settings.roundTime).onPart Peer.mysql fun s p => { p with mysql := s }

/-- Connects to the server of the wanted flavor. -/
def connect (settings : DatabaseSettings) (p : Peer) : Attempt × Peer :=
  match settings.flavor with
  | .postgres =>
    let (attempt, s) := PostgresSession.connect settings p.postgres
    (attempt, { p with postgres := s })
  | .mysql =>
    let (attempt, s) := MysqlSession.connect settings p.mysql
    (attempt, { p with mysql := s })

end Peer

end RowSync
