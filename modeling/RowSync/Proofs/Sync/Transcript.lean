import RowSync.Proofs.Sync.RelatedRuns

/-!
Databases that keep a transcript: each request with its answer, oldest first. A run on them does
what it does without transcripts, so what the transcripts show is what runs ask and are told.
-/

set_option autoImplicit false

namespace RowSync

def Outcome.failure? {α : Type} : Outcome α → Option Failure
  | .ok _ => none
  | .error failure => some failure

/-- A request made of a database, with its answer. -/
inductive Entry
  | schemaRows (answer : Outcome (List SchemaRow))
  | disableConstraints (answer : Outcome Unit)
  | enableConstraints (answer : Outcome Unit)
  | query (sql : String) (parameters : List Value) (answer : Outcome (List Row))
  | stream (sql : String) (parameters : List Value) (size : Nat) (answer : Stream)
  | execute (sql : String) (parameters : List Value) (answer : Outcome Nat)
  | close (answer : Outcome Unit)

/-- A database state with the requests that led to it, oldest first. -/
structure Transcript (σ : Type) where
  state : σ
  entries : List Entry := []

namespace Database

variable {σ α : Type}

/-- Makes a request and enters it with its answer. -/
def entering (entry : Outcome α → Entry) (request : Request σ α) : Request (Transcript σ) α :=
  fun s =>
    let (answer, state) := request s.state
    (answer, ⟨state, s.entries ++ [entry answer]⟩)

def transcribed (db : Database σ) : Database (Transcript σ) where
  dialect := db.dialect
  schemaRows := entering .schemaRows db.schemaRows
  disableConstraints := entering .disableConstraints db.disableConstraints
  enableConstraints := entering .enableConstraints db.enableConstraints
  query := fun sql parameters => entering (.query sql parameters) (db.query sql parameters)
  stream := fun sql parameters size s =>
    let (stream, state) := db.stream sql parameters size s.state
    (stream, ⟨state, s.entries ++ [.stream sql parameters size stream]⟩)
  execute := fun sql parameters => entering (.execute sql parameters) (db.execute sql parameters)
  close := entering .close db.close

end Database

variable {σ τ : Type}

def Sides.transcribed (sides : Sides σ τ) : Sides (Transcript σ) (Transcript τ) :=
  ⟨sides.source.transcribed, sides.target.transcribed⟩

namespace RunState

/-- The state with transcripts that are still empty. -/
def transcribed (s : RunState σ τ) : RunState (Transcript σ) (Transcript τ) :=
  ⟨{ state := s.source }, { state := s.target }, s.journal⟩

def erased (s : RunState (Transcript σ) (Transcript τ)) : RunState σ τ :=
  ⟨s.source.state, s.target.state, s.journal⟩

end RunState

namespace Transcript

variable {α : Type} (sides : Sides σ τ)

private def Erases (s : RunState σ τ) (s' : RunState (Transcript σ) (Transcript τ)) : Prop :=
  s'.erased = s

private theorem reports : Run.Reports (Erases : RunState σ τ → RunState _ _ → Prop) := by
  rintro f _ s' rfl
  exact ⟨rfl, rfl⟩

private theorem onSource (entry : Outcome α → Entry) (request : Request σ α) :
    Run.Corresponds Erases (Run.onSource request : Run σ τ α)
      (Run.onSource (Database.entering entry request)) := by
  rintro _ s' rfl
  exact ⟨rfl, rfl⟩

private theorem onTarget (entry : Outcome α → Entry) (request : Request τ α) :
    Run.Corresponds Erases (Run.onTarget request : Run σ τ α)
      (Run.onTarget (Database.entering entry request)) := by
  rintro _ s' rfl
  exact ⟨rfl, rfl⟩

private theorem loads : SchemaPair.Alike Erases sides sides.transcribed where
  source_dialect := rfl
  target_dialect := rfl
  reports := reports
  source_rows := onSource _ _
  target_rows := onTarget _ _

private theorem copies : RowFlow.Alike False Erases (.writing fun _ => True) sides
    sides.transcribed where
  source_dialect := rfl
  target_dialect := rfl
  reports := reports
  source_query := fun _ _ _ => onSource _ _
  open_stream := by
    intro options sql parameters _
    refine RowFlow.Alike.openStream_relates ((Run.Corresponds.logSql reports _ _).bind fun _ => ?_)
    rintro _ s' rfl
    exact ⟨rfl, rfl⟩
  target_query := fun _ _ _ => onTarget _ _
  execute := fun _ _ _ => onTarget _ _

theorem load_erased (options : DiagnosticOptions) (s : RunState σ τ) :
    ((SchemaPair.load sides.transcribed options s.transcribed).1,
      (SchemaPair.load sides.transcribed options s.transcribed).2.erased) =
      SchemaPair.load sides options s := by
  have both := (loads sides).load_corresponds options s s.transcribed rfl
  exact Prod.ext both.1.symm both.2

/-- Transcripts change neither what a migration does nor what it answers. -/
theorem run_erased (options : Options) (s : RunState σ τ) :
    ((Migration.run sides.transcribed options s.transcribed).1,
      (Migration.run sides.transcribed options s.transcribed).2.erased) =
      Migration.run sides options s := by
  have both := Migration.run_corresponds (loads sides) (copies sides) (onTarget _ _)
    (onTarget _ _) options s s.transcribed rfl
  exact Prod.ext both.1.symm both.2

end Transcript

end RowSync
