import RowSync.Failure

/-!
The meaning of MySQL's errors to a run: collisions of primary keys are told apart from all others.
-/

set_option autoImplicit false

namespace RowSync

/-- The number of MySQL's error for a second row with one key. -/
def duplicateEntryCode : Nat := 1062

/-- The reply reports a second row with one primary key. -/
def MysqlReply.isPrimaryCollision (reply : MysqlReply) : Bool :=
  reply.code == duplicateEntryCode && Text.contains reply.message "PRIMARY"

def MysqlFault.failure : MysqlFault → Failure
  | server reply =>
    if reply.isPrimaryCollision then .duplicateKey reply.message else .mysql (server reply)
  | fault => .mysql fault

end RowSync
