import RowSync.Database.Batch
import RowSync.Database.Dialect
import RowSync.Schema.Basic

/-!
A database as runs see it: requests that each give an answer and move the database to its next
state. Nothing else is known of the state.
-/

set_option autoImplicit false

namespace RowSync

/-- A request's answer and the state after it. -/
abbrev Request (σ α : Type) := σ → Outcome α × σ

/-- A live connection to a database with states in `σ`. -/
structure Database (σ : Type) where
  dialect : Dialect
  /-- The description of every table. -/
  schemaRows : Request σ (List SchemaRow)
  /-- Suspends the checks between tables. -/
  disableConstraints : Request σ Unit
  /-- Restores the checks between tables. -/
  enableConstraints : Request σ Unit
  /-- Runs a statement that gives rows. -/
  query : String → List Value → Request σ (List Row)
  /-- Runs a statement and delivers its rows in batches of a size. -/
  stream : String → List Value → Nat → σ → Stream × σ
  /-- Runs a statement and counts the rows it changes. -/
  execute : String → List Value → Request σ Nat
  /-- Gives up the connection. -/
  close : Request σ Unit

namespace Database

variable {σ : Type}

def truncate (db : Database σ) (table : String) : Request σ Unit := fun s =>
  let (answer, s) := db.execute (db.dialect.truncateStatement table) [] s
  (answer.map fun _ => (), s)

end Database

end RowSync
