import RowSync.Proofs.Sync.InsertAccounting

/-!
Destinations that differ in nothing but their answers to inserts. Runs on them leave the same
databases behind and fail with the same failure or not at all: the answers to inserts are counted,
and decide nothing else.
-/

set_option autoImplicit false

namespace RowSync

variable {σ τ : Type}

/-- The statement inserts a row, which its text tells. -/
def insertsRow (sql : String) : Bool := Text.startsWith sql "INSERT INTO "

theorem Dialect.insertsRow_truncateStatement (d : Dialect) (table : String) :
    insertsRow (d.truncateStatement table) = false := by
  rw [insertsRow, Text.startsWith, Dialect.truncateStatement, String.toList_append]
  rfl

theorem TablePlan.Made.insertsRow {sourceDialect targetDialect : Dialect} {source target : Table}
    {plan : TablePlan} (made : plan.Made sourceDialect targetDialect source target) :
    insertsRow plan.insertSql = true := by
  obtain ⟨pairs, -, insert⟩ := made.statements
  rw [insert, RowSync.insertsRow, Text.startsWith]
  unfold TablePlan.insertStatement
  rw [String.append_assoc, String.append_assoc, String.append_assoc, String.append_assoc,
    String.append_assoc, String.toList_append]
  exact List.isPrefixOf_iff_prefix.mpr (List.prefix_append _ _)

def Database.answering (db : Database σ) (answer : String → List Value → σ → Outcome Nat) :
    Database σ :=
  { db with
    execute := fun sql parameters s =>
      let (affected, s') := db.execute sql parameters s
      (if insertsRow sql then answer sql parameters s else affected, s') }

def Sides.answering (sides : Sides σ τ) (answer : String → List Value → τ → Outcome Nat) :
    Sides σ τ :=
  ⟨sides.source, sides.target.answering answer⟩

/-- Both databases are in the same state. -/
def RunState.Agree (s s' : RunState σ τ) : Prop := s.source = s'.source ∧ s.target = s'.target

namespace Migration

variable (sides : Sides σ τ) (answer : String → List Value → τ → Outcome Nat) (options : Options)

private theorem reports_agree :
    Run.Reports (RunState.Agree : RunState σ τ → RunState σ τ → Prop) :=
  fun _ _ _ agree => ⟨rfl, agree⟩

private theorem onSource_agree {α : Type} (request : Request σ α) :
    Run.Corresponds RunState.Agree (Run.onSource request : Run σ τ α) (Run.onSource request) := by
  rintro s ⟨_, _, journal⟩ ⟨rfl, rfl⟩
  exact ⟨rfl, rfl, rfl⟩

private theorem onTarget_agree {α : Type} (request : Request τ α) :
    Run.Corresponds RunState.Agree (Run.onTarget request : Run σ τ α) (Run.onTarget request) := by
  rintro s ⟨_, _, journal⟩ ⟨rfl, rfl⟩
  exact ⟨rfl, rfl, rfl⟩

private theorem answering_loads :
    SchemaPair.Alike RunState.Agree sides (sides.answering answer) where
  source_dialect := rfl
  target_dialect := rfl
  reports := reports_agree
  source_rows := onSource_agree _
  target_rows := onTarget_agree _

private theorem insertCounted_agree (plan : TablePlan) (tally tally' : Tally) (row : Row) :
    Run.Relates False RunState.Agree (Tally.Same True)
      (insertCounted sides options plan tally row)
      (insertCounted (sides.answering answer) options plan tally' row) := by
  rintro s ⟨_, _, journal⟩ ⟨rfl, rfl⟩
  obtain ⟨_, one, -⟩ := insertCounted_apply sides options plan tally row s
  obtain ⟨_, other, -⟩ := insertCounted_apply (sides.answering answer) options plan tally' row
    ⟨s.source, s.target, journal⟩
  rw [one, other]
  exact ⟨.ok (.inl trivial), rfl, rfl⟩

private theorem answering_copies :
    RowFlow.Related False True RunState.Agree (.writing fun _ => True) sides
      (sides.answering answer) where
  source_dialect := rfl
  target_dialect := rfl
  reports := fun _ _ _ _ _ agree => agree
  source_query := fun _ _ _ => onSource_agree _
  open_stream := by
    intro options sql parameters _
    refine .bind_same (.logSql reports_agree _ _) fun _ => ?_
    rintro s ⟨_, _, journal⟩ ⟨rfl, rfl⟩
    exact ⟨.ok ⟨rfl, .refl _ _⟩, rfl, rfl⟩
  target_query := fun _ _ _ => onTarget_agree _
  truncate := by
    rintro table - s ⟨_, _, journal⟩ ⟨rfl, rfl⟩
    refine ⟨?_, rfl, rfl⟩
    let sql := sides.target.dialect.truncateStatement table
    let answered := (sides.target.execute sql [] s.target).1
    have other : insertsRow sql = false := Dialect.insertsRow_truncateStatement _ _
    show answered.map _ = Except.map _ (if insertsRow sql then _ else answered)
    rw [other]
    rfl
  insert := fun options plan tally tally' row _ _ =>
    insertCounted_agree sides answer options plan tally tally' row

/-- What inserts are answered decides nothing but the tallies. -/
theorem run_answering :
    Run.Relates False RunState.Agree
      (fun m m' => List.Forall₂ (TableMigration.Same True) m.tables m'.tables)
      (run sides options) (run (sides.answering answer) options) :=
  run_relates (answering_loads sides answer) (answering_copies sides answer) (onTarget_agree _)
    (onTarget_agree _) options

end Migration

end RowSync
