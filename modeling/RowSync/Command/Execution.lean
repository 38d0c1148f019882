import RowSync.Command.Arguments
import RowSync.Report.Console

/-!
Commands carried out on two connected databases, with what is written to standard output.
-/

set_option autoImplicit false

namespace RowSync

/-- A command carried out: its outcome, its output, and the databases and reports after it. -/
structure Execution (σ τ : Type) where
  outcome : Outcome Unit
  output : String
  state : RunState σ τ

namespace Execution

variable {σ τ α : Type}

/-- Carries out a run. Its notifications are written unless a document is asked for, and what its
result is written as comes last. -/
def ofRun (json : Bool) (label : String) (run : Run σ τ α) (document : α → JsonTree)
    (summary : α → String) (s : RunState σ τ) : Execution σ τ :=
  let (outcome, s) := run s
  let progress := if json then "" else eventsText s.journal.events.toList
  match outcome with
  | .error failure => ⟨.error (failure.within label), progress, s⟩
  | .ok a =>
    let result := if json then line (document a).indented else summary a
    ⟨.ok (), progress ++ result, s⟩

def ofArguments (arguments : Arguments) (options : Options) (timing : Timing) (sides : Sides σ τ)
    (s : RunState σ τ) : Execution σ τ :=
  let json := arguments.jsonOutput
  match arguments.command with
  | .migrate _ =>
    ofRun json "failed migrating" (Migration.run sides options) (Migration.document timing)
      (Migration.summary timing) s
  | .validate =>
    ofRun json "failed to validate" (Validation.run sides options)
      (fun tables => .list (tables.map TableValidation.document)) validationSummary s
  | .verify =>
    ofRun json "failed to verify" (Verification.run sides options) (Verification.document timing)
      Verification.summary s

end Execution

end RowSync
