import RowSync.Failure

/-!
The meaning of PostgreSQL's errors to a run: collisions of primary keys are told apart from all
others.
-/

set_option autoImplicit false

namespace RowSync

/-- PostgreSQL's code of a second row with one key. -/
def uniqueViolationCode : String := "23505"

/-- The end of the names that PostgreSQL gives to primary keys. -/
def primaryKeySuffix : String := "pkey"

/-- The primary key that a reply reports a collision of. -/
def PostgresReply.primaryKey? (reply : PostgresReply) : Option String :=
  if reply.code == uniqueViolationCode then
    reply.constraint?.filter fun name => Text.endsWith name primaryKeySuffix
  else none

def PostgresFault.failure : PostgresFault → Failure
  | server reply =>
    match reply.primaryKey? with
    | some name => .duplicateKey name
    | none => .postgres (server reply)
  | fault => .postgres fault

end RowSync
