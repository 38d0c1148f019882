import RowSync.Sync.Plan
import RowSync.Sync.Run

/-!
Rows on their way from a source table: reading them in batches, handing each to a consumer, and
asking the destination whether it has an equal row.
-/

set_option autoImplicit false

namespace RowSync.RowFlow

variable {σ τ β : Type}

/-- Starts reading source rows. -/
def openStream (sides : Sides σ τ) (options : Options) (sql : String) (parameters : List Value) :
    Run σ τ Stream := do
  Run.logSql options.diagnostics sql
  fun s =>
    let (stream, source) :=
      sides.source.stream sql parameters options.migration.readBatchSize s.source
    (.ok stream, { s with source })

/-- Hands every delivered row to the consumer, then takes the count of the reader; a failure of
the consumer comes before one of the reader. -/
def consume (plan : TablePlan) (step : β → Row → Run σ τ β) (acc : β) (stream : Stream) :
    Run σ τ (Nat × β) := do
  let acc ← Run.foldList step acc stream.batches.flatten
  let count ←
    (Run.ofOutcome stream.outcome).within s!"failed to select rows from {plan.source.name}"
  pure (count, acc)

def firstCell? (rows : List Row) : Option Value := rows.head?.bind (·.head?)

/-- A value, or the failure to find one in the answer about a table. -/
def orMissing {α : Type} (table message : String) : Option α → Outcome α
  | some a => .ok a
  | none => .error (.transfer table message)

/-- Tells whether the destination has a row equal to this one. -/
def probe (sides : Sides σ τ) (plan : TablePlan) (options : DiagnosticOptions) (row : Row) :
    Run σ τ Bool := do
  Run.logRow options plan.source.name row
  let rows ← (Run.onTarget (sides.target.query plan.existsSql row)).within
    "failed to check if row exists"
  Run.ofOutcome (orMissing plan.target.name "existence probe returned no value"
    ((firstCell? rows).bind Value.toBool?))

/-- The number in the answer to a counting statement. -/
def countIn (table : String) (rows : List Row) : Outcome Int :=
  orMissing table "COUNT(*) returned no value" ((firstCell? rows).bind Value.toInt?)

end RowSync.RowFlow
