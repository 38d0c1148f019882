import RowSync.Proofs.Sync.ConstraintBracket
import RowSync.Proofs.Sync.Triple
import RowSync.Sync.Validation
import RowSync.Sync.Verification

/-!
Runs that only read: verifications, validations, and migrations that stop at the comparison of the
schemas. What such a run does is related on any two pairs of databases whose reading requests are
related, so it can be followed by the calls it makes and by the stores it is made on.
-/

set_option autoImplicit false

namespace RowSync

theorem Stream.Rel.eq {stream stream' : Stream} (related : Rel False stream stream') :
    stream = stream' := by
  obtain ⟨batches, outcome⟩ := stream
  obtain ⟨batches', outcome'⟩ := stream'
  obtain ⟨rfl, outcomes⟩ := related
  cases outcomes.eq
  rfl

section Reading

variable {σ τ σ' τ' : Type} {R : RunState σ τ → RunState σ' τ' → Prop} {sides : Sides σ τ}
  {sides' : Sides σ' τ'} {writes : String → Prop}

open Run (Corresponds)

section

variable (reads : RowFlow.Alike False R (.writing writes) sides sides') (options : Options)
include reads

private theorem openStream_corresponds (sql : String) (parameters : List Value) :
    Corresponds R (RowFlow.openStream sides options sql parameters)
      (RowFlow.openStream sides' options sql parameters) :=
  ((reads.open_stream options sql parameters trivial).mono fun _ _ same => same.eq).corresponds

namespace Verification

private theorem checkRow_corresponds (plan : TablePlan) (missing : MissingRows) (row : Row) :
    Corresponds R (checkRow sides options plan missing row)
      (checkRow sides' options plan missing row) := by
  unfold checkRow
  rw [reads.target_dialect]
  refine (reads.related.probe_corresponds _ _ trivial).bind fun present => ?_
  exact .ite (fun _ => .pure _) (.pure _)

private theorem scan_corresponds (plan : TablePlan) :
    Corresponds R (scan sides options plan) (scan sides' options plan) := by
  refine (openStream_corresponds reads options _ _).bind fun stream => ?_
  refine (Corresponds.logSql reads.reports _ _).bind fun _ => ?_
  refine (Corresponds.foldList (fun missing row _ =>
    checkRow_corresponds reads options plan missing row) {}).bind fun missing => ?_
  exact ((Corresponds.ofOutcome _).within _).bind fun _ => .pure _

private theorem verifyTable_corresponds (source target : Table) :
    Corresponds R (verifyTable sides options source target)
      (verifyTable sides' options source target) := by
  unfold verifyTable
  rw [reads.source_dialect, reads.target_dialect]
  refine (Corresponds.reported reads.reports _).bind fun plan => ?_
  refine (scan_corresponds reads options plan).bind fun found => ?_
  refine Corresponds.bind ?_ fun _ => .pure _
  unfold warnOverLimit
  split
  · exact .pure ()
  · exact .ite (fun _ => .log reads.reports _ _) (.pure ())

private theorem verifyReported_corresponds (source target : Table) :
    Corresponds R (verifyReported sides options source target)
      (verifyReported sides' options source target) := by
  refine (Corresponds.notify reads.reports _).bind fun _ => ?_
  refine (verifyTable_corresponds reads options source target).attempt.bind fun outcome => ?_
  cases outcome with
  | ok missing => exact (Corresponds.notify reads.reports _).bind fun _ => .pure _
  | error failure =>
    refine (Corresponds.log reads.reports _ _).bind fun _ => ?_
    exact (Corresponds.notify reads.reports _).bind fun _ => .pure _

/-- Databases that answer all reading statements alike make verifications correspond. -/
theorem run_corresponds (loads : SchemaPair.Alike R sides sides') :
    Corresponds R (run sides options) (run sides' options) := by
  refine (loads.load_corresponds options.diagnostics).bind fun pair => ?_
  refine Corresponds.bind (.mapList fun source _ => ?_) fun tables =>
    (Corresponds.log reads.reports _ _).bind fun _ => .pure _
  exact (Corresponds.ofOutcome _).bind fun target =>
    verifyReported_corresponds reads options source target

end Verification

namespace Validation

private theorem listRows_corresponds (options : DiagnosticOptions) (source : Table) (id : Column)
    (condition : String) (found : TableValidation) :
    Corresponds R (listRows sides options source id condition found)
      (listRows sides' options source id condition found) := by
  unfold listRows
  rw [reads.source_dialect]
  refine (Corresponds.logSql reads.reports _ _).bind fun _ => ?_
  exact ((reads.source_query _ _ trivial).within _).bind fun rows => .pure _

private theorem countRows_corresponds (options : DiagnosticOptions) (source : Table)
    (condition : String) (found : TableValidation) :
    Corresponds R (countRows sides options source condition found)
      (countRows sides' options source condition found) := by
  unfold countRows
  rw [reads.source_dialect]
  refine (Corresponds.logSql reads.reports _ _).bind fun _ => ?_
  refine ((reads.source_query _ _ trivial).within _).bind fun rows => ?_
  exact (Corresponds.ofOutcome _).bind fun count => .pure _

private theorem findRows_corresponds (options : DiagnosticOptions) (source target : Table)
    (pairs : List ColumnPair) :
    Corresponds R (findRows sides options source target pairs)
      (findRows sides' options source target pairs) := by
  have warned (found : TableValidation) : Corresponds R
      (if found.isClean then pure found
        else Run.log .warn (exceededLine found) >>= fun _ => pure found)
      (if found.isClean then pure found
        else Run.log .warn (exceededLine found) >>= fun _ => pure found) :=
    .ite (fun _ => .pure found) ((Corresponds.log reads.reports _ _).bind fun _ => .pure found)
  unfold findRows
  rw [reads.source_dialect]
  dsimp only
  split
  · exact (listRows_corresponds reads options source _ _ _).bind warned
  · exact (countRows_corresponds reads options source _ _).bind warned

private theorem validateTable_corresponds (options : DiagnosticOptions) (source target : Table) :
    Corresponds R (validateTable sides options source target)
      (validateTable sides' options source target) := by
  refine (Corresponds.reported reads.reports _).bind fun pairs => ?_
  refine .ite (fun _ => ?_) (findRows_corresponds reads options source target pairs)
  exact (Corresponds.log reads.reports _ _).bind fun _ => .pure _

/-- Databases that answer all reading statements alike make validations correspond. -/
theorem run_corresponds (loads : SchemaPair.Alike R sides sides') :
    Corresponds R (run sides options) (run sides' options) := by
  refine (loads.load_corresponds options.diagnostics).bind fun pair => ?_
  refine Corresponds.bind (.mapList fun source _ => ?_) fun tables =>
    (Corresponds.log reads.reports _ _).bind fun _ => .pure _
  refine ((Corresponds.ofOutcome _).within _).bind fun target => ?_
  have validated := validateTable_corresponds reads options.diagnostics source target
  exact .ite (fun _ => validated) ((Corresponds.log reads.reports _ _).bind fun _ => validated)

end Validation

end

end Reading

namespace SchemaPair

variable {σ τ : Type}

def described (db : Database σ) (s : σ) : Outcome Schema := (db.schemaRows s).1 >>= Schema.ofRows

private theorem build_apply (rows : Run σ τ (List SchemaRow)) (flavor : Flavor)
    (s : RunState σ τ) : ∃ journal, build rows flavor s =
      ((rows s).1 >>= Schema.ofRows, { (rows s).2 with journal }) := by
  rw [build, Run.bind_apply]
  rcases rows s with ⟨failure | listed, t⟩
  · exact ⟨t.journal, rfl⟩
  · dsimp only
    rw [Run.bind_apply]
    change ∃ journal, _ = (Schema.ofRows listed, { t with journal })
    dsimp only [Run.ofOutcome]
    cases Schema.ofRows listed with
    | error failure => exact ⟨t.journal, rfl⟩
    | ok schema => exact ⟨_, rfl⟩

theorem load_of_stop {options : DiagnosticOptions} (dumps : options.dumpSchemaDiff = true)
    (stops : options.stopAfterSchemaDump = true) (sides : Sides σ τ) (s : RunState σ τ) :
    ∃ failure, (load sides options s).1 = .error failure ∧ (failure = .stopRequested ↔
      (∃ schema, described sides.source s.source = .ok schema) ∧
        ∃ schema, described sides.target s.target = .ok schema) := by
  obtain ⟨journal, first⟩ :=
    build_apply (Run.onSource sides.source.schemaRows) sides.source.dialect.flavor s
  change build _ _ s = (described sides.source s.source,
    ⟨(sides.source.schemaRows s.source).2, s.target, journal⟩) at first
  obtain ⟨journal', second⟩ := build_apply (Run.onTarget sides.target.schemaRows)
    sides.target.dialect.flavor
    (⟨(sides.source.schemaRows s.source).2, s.target, journal⟩ : RunState σ τ)
  change build _ _ _ = (described sides.target s.target, _) at second
  rw [load, Run.bind_apply, Run.within, first]
  cases described sides.source s.source with
  | error failure =>
    refine ⟨_, rfl, ?_, ?_⟩
    · intro stopped
      cases stopped
    · rintro ⟨⟨_, found⟩, -⟩
      cases found
  | ok source =>
    dsimp only [Outcome.within]
    rw [Run.bind_apply, Run.within, second]
    cases described sides.target s.target with
    | error failure =>
      refine ⟨_, rfl, ?_, ?_⟩
      · intro stopped
        cases stopped
      · rintro ⟨-, _, found⟩
        cases found
    | ok target =>
      refine ⟨.stopRequested, ?_, fun _ => ⟨⟨source, rfl⟩, target, rfl⟩, fun _ => rfl⟩
      dsimp only [Outcome.within]
      rw [dump, if_pos dumps, if_pos stops]
      rfl

end SchemaPair

/-- The store has the tables and the checks that it had, and these were not touched meanwhile. -/
structure MemoryStore.Keeps (before after : MemoryStore) : Prop where
  tables : after.tables = before.tables
  constraintsEnabled : after.constraintsEnabled = before.constraintsEnabled
  toggles : after.toggles = before.toggles

/-- On all databases the engine makes reading calls only, and stores in memory it leaves with what
they hold. -/
structure ReadsOnly {α : Type} (engine : ∀ {σ τ : Type}, Sides σ τ → Run σ τ α) : Prop where
  recorded : ∀ {σ τ : Type} (sides : Sides σ τ) (s : RunState σ τ),
    let ran := engine sides.recorded s.recorded
    (ran.1, ran.2.plain) = engine sides s ∧ (∀ e ∈ ran.2.source.calls, e.call.Reads) ∧
      ∀ e ∈ ran.2.target.calls, e.call.Reads
  inMemory : ∀ (source target : MemorySettings) (s : RunState MemoryStore MemoryStore),
    let t := (engine (Sides.inMemory source target) s).2
    s.source.Keeps t.source ∧ s.target.Keeps t.target

namespace ReadsOnly

private def Kept (before s s' : RunState MemoryStore MemoryStore) : Prop :=
  s' = s ∧ before.source.Keeps s.source ∧ before.target.Keeps s.target

section Kept

variable {before : RunState MemoryStore MemoryStore} {source target : MemorySettings}

private theorem kept_reports : Run.Reports (Kept before) := by
  rintro f s _ ⟨rfl, kept⟩
  exact ⟨rfl, rfl, kept⟩

private theorem kept_loads : SchemaPair.Alike (Kept before) (Sides.inMemory source target)
    (Sides.inMemory source target) where
  source_dialect := rfl
  target_dialect := rfl
  reports := kept_reports
  source_rows := by
    rintro s _ ⟨rfl, kept⟩
    exact ⟨rfl, rfl, kept⟩
  target_rows := by
    rintro s _ ⟨rfl, kept⟩
    exact ⟨rfl, rfl, kept⟩

private theorem kept_reads : RowFlow.Alike False (Kept before) (.writing fun _ => False)
    (Sides.inMemory source target) (Sides.inMemory source target) where
  source_dialect := rfl
  target_dialect := rfl
  reports := kept_reports
  source_query := by
    rintro sql parameters - s _ ⟨rfl, ⟨tables, enabled, toggles⟩, kept⟩
    exact ⟨rfl, rfl, ⟨tables, enabled, toggles⟩, kept⟩
  open_stream := by
    intro options sql parameters _
    refine RowFlow.Alike.openStream_relates
      ((Run.Corresponds.logSql kept_reports _ _).bind fun _ => ?_)
    rintro s _ ⟨rfl, ⟨tables, enabled, toggles⟩, kept⟩
    exact ⟨rfl, rfl, ⟨tables, enabled, toggles⟩, kept⟩
  target_query := by
    rintro sql parameters - s _ ⟨rfl, kept, tables, enabled, toggles⟩
    exact ⟨rfl, rfl, kept, tables, enabled, toggles⟩
  execute := fun _ _ written => written.elim

end Kept

variable {α : Type} {engine : ∀ {σ τ : Type}, Sides σ τ → Run σ τ α}

/-- An engine that cannot tell databases apart by more than their answers to reading requests makes
no other requests. -/
theorem of_corresponds
    (each : ∀ {σ τ σ' τ' : Type} {R : RunState σ τ → RunState σ' τ' → Prop} {sides : Sides σ τ}
      {sides' : Sides σ' τ'}, SchemaPair.Alike R sides sides' →
      RowFlow.Alike False R (.writing fun _ => False) sides sides' →
      Run.Corresponds R (engine sides) (engine sides')) : ReadsOnly engine where
  recorded := by
    intro σ τ sides s ran
    have loads : SchemaPair.Alike (Recording Call.Reads []) sides sides.recorded :=
      Recording.loads trivial
    have both := each loads
      (Recording.copies (fun _ _ => trivial) fun _ _ written => written.elim) s s.recorded
      ⟨rfl, by simp [RunState.recorded], [], rfl, by simp⟩
    obtain ⟨same, plain, reads, more, calls, only⟩ := both
    refine ⟨Prod.ext same.symm plain, reads, fun e member => only e ?_⟩
    rwa [calls, List.nil_append] at member
  inMemory := by
    intro source target s t
    have loads : SchemaPair.Alike (Kept s) (Sides.inMemory source target)
        (Sides.inMemory source target) := kept_loads
    have both := each loads kept_reads s s ⟨rfl, ⟨rfl, rfl, rfl⟩, rfl, rfl, rfl⟩
    exact both.2.2

end ReadsOnly

section Asking

variable {σ τ α : Type}

private def Asked (source target : List Call) (s : RunState (Recorded σ) (Recorded τ)) : Prop :=
  s.source.calls.map (·.call) = source ∧ s.target.calls.map (·.call) = target

variable {source target : List Call}

private theorem asked_silent :
    Run.Silent (Asked source target : RunState (Recorded σ) (Recorded τ) → Prop) :=
  fun _ _ asked => asked

private theorem asks_source (call : Call) (request : Request σ α) :
    Run.Triple (Asked source target)
      (Run.onSource (Database.recording call request) : Run (Recorded σ) (Recorded τ) α)
      (fun _ => Asked (source ++ [call]) target) fun _ => Asked (source ++ [call]) target := by
  refine .of_state fun s ⟨front, other⟩ => ⟨?_, other⟩
  change List.map Exchange.call (s.source.calls ++ [⟨call, _⟩]) = _
  rw [List.map_append, front]
  rfl

private theorem asks_target (call : Call) (request : Request τ α) :
    Run.Triple (Asked source target)
      (Run.onTarget (Database.recording call request) : Run (Recorded σ) (Recorded τ) α)
      (fun _ => Asked source (target ++ [call])) fun _ => Asked source (target ++ [call]) := by
  refine .of_state fun s ⟨other, front⟩ => ⟨other, ?_⟩
  change List.map Exchange.call (s.target.calls ++ [⟨call, _⟩]) = _
  rw [List.map_append, front]
  rfl

/-- However it ends, the run has taken the calls on the source from these to those. -/
private abbrev Sends (before after target : List Call)
    (run : Run (Recorded σ) (Recorded τ) α) : Prop :=
  Run.Triple (Asked before target) run (fun _ => Asked after target) fun _ => Asked after target

private theorem load_asks (sides : Sides σ τ) (options : DiagnosticOptions) :
    Run.Triple (Asked [] []) (SchemaPair.load sides.recorded options)
      (fun _ => Asked [.schemaRows] [.schemaRows])
      fun _ s => Asked [.schemaRows] [] s ∨ Asked [.schemaRows] [.schemaRows] s := by
  have built {rows : Run (Recorded σ) (Recorded τ) (List SchemaRow)} {flavor : Flavor}
      {source target source' target' : List Call}
      (asks : Run.Triple (Asked source target) rows (fun _ => Asked source' target')
        fun _ => Asked source' target') (label : String) :
      Run.Triple (Asked source target) ((SchemaPair.build rows flavor).within label)
        (fun _ => Asked source' target') fun _ => Asked source' target' := by
    refine .within (asks.bind fun listed => ?_)
    refine (Run.Triple.ofOutcome (fun _ _ _ asked => asked) fun _ _ _ asked => asked).bind
      fun schema => ?_
    exact (Run.Triple.log asked_silent _ _).bind fun _ => .pure fun _ asked => asked
  unfold SchemaPair.load
  refine ((built (asks_source _ _) _).mono (fun _ asked => asked) (fun _ _ asked => asked)
    fun _ _ asked => .inl asked).bind fun source => ?_
  refine ((built (asks_target _ _) _).mono (fun _ asked => asked) (fun _ _ asked => asked)
    fun _ _ asked => .inr asked).bind fun target => ?_
  refine Run.Triple.bind (Q := fun _ => Asked [.schemaRows] [.schemaRows]) ?_
    fun _ => .pure fun _ asked => asked
  unfold SchemaPair.dump
  refine .ite (fun _ => ?_) fun _ => .pure fun _ asked => asked
  refine (Run.Triple.report asked_silent _).bind fun _ => ?_
  exact .ite (fun _ => .throw fun _ asked => .inr asked) fun _ => .pure fun _ asked => asked

namespace Validation

/-- The statement that finds the rows of a source table, when it has columns whose values may not
fit: it goes by identities where both tables have one. -/
def statement? (db : Dialect) (target : Schema) (source : Table) : Option String :=
  match target.table source.key with
  | .error _ => none
  | .ok destination =>
    match (incompatibleColumns source destination).1 with
    | .error _ => none
    | .ok [] => none
    | .ok (pair :: pairs) =>
      let condition :=
        lengthPredicate db ((pair :: pairs).map fun pair => (pair.source, pair.target))
      match source.identity?, destination.hasIdentity with
      | some id, true => some (idsStatement db source id condition)
      | _, _ => some (countingStatement db source condition)

def calls (db : Dialect) (target : Schema) (tables : List Table) : List Call :=
  (tables.filterMap (statement? db target)).map (.query · [])

/-- What a validation asks for: the schema of the destination and nothing else there, the schema of
the source and then at most one statement for each of its tables in turn, up to a failure. -/
structure Asks (sides : Sides σ τ) (options : Options) (s : RunState σ τ) : Prop where
  target : ∀ e ∈ (run sides.recorded options s.recorded).2.target.calls, e.call = .schemaRows
  source :
    let ran := run sides.recorded options s.recorded
    match SchemaPair.load sides options.diagnostics s with
    | (.error _, _) => ran.2.source.calls.map (·.call) = [.schemaRows]
    | (.ok pair, _) =>
      ∃ tables, tables <+: pair.source.tables ∧ (ran.1.isOk = true → tables = pair.source.tables) ∧
        ran.2.source.calls.map (·.call) =
          .schemaRows :: calls sides.source.dialect pair.target tables

variable {db : Dialect} {schema : Schema} {table destination : Table}

private theorem calls_cons (table : Table) (tables : List Table) :
    calls db schema (table :: tables) = calls db schema [table] ++ calls db schema tables := by
  rw [calls, calls, calls, ← List.map_append, ← List.filterMap_append]
  rfl

private theorem statement?_of_ok {pairs : List ColumnPair}
    (matched : schema.table table.key = .ok destination)
    (found : (incompatibleColumns table destination).1 = .ok pairs) (clash : pairs ≠ []) :
    statement? db schema table =
      let condition := lengthPredicate db (pairs.map fun pair => (pair.source, pair.target))
      match table.identity?, destination.hasIdentity with
      | some id, true => some (idsStatement db table id condition)
      | _, _ => some (countingStatement db table condition) := by
  cases pairs with
  | nil => exact absurd rfl clash
  | cons pair pairs => simp only [statement?, matched, found]

private theorem warned_sends (calls : List Call) (result : TableValidation) :
    Sends calls calls target (if result.isClean then pure result
      else Run.log .warn (exceededLine result) >>= fun _ =>
        pure result : Run (Recorded σ) (Recorded τ) TableValidation) :=
  .ite (fun _ => .pure fun _ asked => asked) fun _ =>
    (Run.Triple.log asked_silent _ _).bind fun _ => .pure fun _ asked => asked

private theorem findRows_sends (sides : Sides σ τ) (options : DiagnosticOptions)
    {pairs : List ColumnPair} (matched : schema.table table.key = .ok destination)
    (found : (incompatibleColumns table destination).1 = .ok pairs) (clash : pairs ≠ []) :
    Sends source (source ++ calls sides.source.dialect schema [table]) target
      (findRows sides.recorded options table destination pairs) := by
  have stated : statement? sides.source.dialect schema table = _ :=
    statement?_of_ok matched found clash
  have sends {sql : String} (label : String)
      (sent : statement? sides.source.dialect schema table = some sql) :
      Sends source (source ++ calls sides.source.dialect schema [table]) target
        ((Run.onSource (sides.recorded.source.query sql []) :
          Run (Recorded σ) (Recorded τ) (List Row)).within label) := by
    have call : calls sides.source.dialect schema [table] = [.query sql []] := by
      rw [calls, List.filterMap_cons_some sent]
      rfl
    rw [call]
    exact .within (asks_source _ _)
  have counted (sent : statement? sides.source.dialect schema table =
      some (countingStatement sides.source.dialect table (lengthPredicate sides.source.dialect
        (pairs.map fun pair => (pair.source, pair.target))))) (result : TableValidation) :
      Sends source (source ++ calls sides.source.dialect schema [table]) target
        (countRows sides.recorded options table (lengthPredicate sides.source.dialect
          (pairs.map fun pair => (pair.source, pair.target))) result) := by
    refine (Run.Triple.logSql asked_silent _ _).bind fun _ => (sends _ sent).bind fun rows => ?_
    exact (Run.Triple.ofOutcome (fun _ _ _ asked => asked) fun _ _ _ asked => asked).bind
      fun count => .pure fun _ asked => asked
  unfold findRows
  dsimp only at stated ⊢
  cases identity : table.identity? with
  | none =>
    rw [identity] at stated
    exact (counted stated _).bind (warned_sends _)
  | some id =>
    rw [identity] at stated
    cases there : destination.hasIdentity with
    | false =>
      rw [there] at stated
      exact (counted stated _).bind (warned_sends _)
    | true =>
      rw [there] at stated
      refine Run.Triple.bind ?_ (warned_sends _)
      refine (Run.Triple.logSql asked_silent _ _).bind fun _ => (sends _ stated).bind fun rows => ?_
      exact .pure fun _ asked => asked

private theorem validateTable_sends (sides : Sides σ τ) (options : DiagnosticOptions)
    (matched : schema.table table.key = .ok destination) :
    Sends source (source ++ calls sides.source.dialect schema [table]) target
      (validateTable sides.recorded options table destination) := by
  -- without columns that clash there is no statement
  have quiet (fits : ∀ pair pairs,
      (incompatibleColumns table destination).1 ≠ .ok (pair :: pairs)) :
      source ++ calls sides.source.dialect schema [table] = source := by
    have unsaid : statement? sides.source.dialect schema table = none := by
      rw [statement?, matched]
      dsimp only
      cases found : (incompatibleColumns table destination).1 with
      | error failure => rfl
      | ok pairs =>
        cases pairs with
        | nil => rfl
        | cons pair pairs => exact absurd found (fits pair pairs)
    rw [calls, List.filterMap_cons_none unsaid]
    exact List.append_nil source
  refine Run.Triple.bind (Q := fun pairs s =>
    (incompatibleColumns table destination).1 = .ok pairs ∧ Asked source target s) ?_
    fun pairs => .given fun found => ?_
  · refine .reported asked_silent (fun pairs found s asked => ⟨found, asked⟩)
      fun failure failed s asked => ?_
    rwa [quiet fun pair pairs found => nomatch failed.symm.trans found]
  · refine .ite (fun none => ?_) fun some => ?_
    · rw [quiet fun pair more clash => ?_]
      · exact (Run.Triple.log asked_silent _ _).bind fun _ => .pure fun _ asked => asked
      · cases found.symm.trans clash
        cases none
    · refine findRows_sends sides options matched found fun empty => some ?_
      rw [empty]
      rfl

private def validateNext (sides : Sides σ τ) (options : Options) (schema : Schema)
    (source : Table) : Run σ τ TableValidation := do
  let target ← (Run.ofOutcome (schema.table source.key)).within
    "failed to get table from destination schema"
  unless target.name == source.name do Run.log .warn (spellingLine source target)
  validateTable sides options.diagnostics source target

private def validateAll (sides : Sides σ τ) (options : Options) (pair : SchemaPair) :
    Run σ τ (List TableValidation) := do
  let results ← Run.mapList (validateNext sides options pair.target) pair.source.tables
  Run.log .info (doneLine results)
  pure results

private theorem run_eq (sides : Sides σ τ) (options : Options) :
    run sides options = SchemaPair.load sides options.diagnostics >>= validateAll sides options :=
  rfl

private theorem validateNext_sends (sides : Sides σ τ) (options : Options) :
    Sends source (source ++ calls sides.source.dialect schema [table]) target
      (validateNext sides.recorded options schema table) := by
  refine Run.Triple.bind (Q := fun destination s =>
    schema.table table.key = .ok destination ∧ Asked source target s) ?_
    fun destination => .given fun matched => ?_
  · refine .within (.ofOutcome (fun destination matched s asked => ⟨matched, asked⟩)
      fun failure failed s asked => ?_)
    have unsaid : statement? sides.source.dialect schema table = none := by
      rw [statement?, failed]
    rwa [calls, List.filterMap_cons_none unsaid, List.filterMap_nil, List.map_nil,
      List.append_nil]
  · have validated : Sends source (source ++ calls sides.source.dialect schema [table]) target
        (validateTable sides.recorded options.diagnostics table destination) :=
      validateTable_sends sides options.diagnostics matched
    exact .ite (fun _ => validated) fun _ =>
      (Run.Triple.log asked_silent _ _).bind fun _ => validated

private theorem mapList_sends (sides : Sides σ τ) (options : Options) (tables : List Table) :
    Run.Triple (Asked source target)
      (Run.mapList (validateNext sides.recorded options schema) tables)
      (fun _ => Asked (source ++ calls sides.source.dialect schema tables) target)
      fun _ s => ∃ front, front <+: tables ∧
        Asked (source ++ calls sides.source.dialect schema front) target s := by
  induction tables generalizing source with
  | nil =>
    refine .pure fun s asked => ?_
    rwa [calls, List.filterMap_nil, List.map_nil, List.append_nil]
  | cons table tables ih =>
    have joined (front : List Table) :
        source ++ calls sides.source.dialect schema [table] ++
          calls sides.source.dialect schema front =
        source ++ calls sides.source.dialect schema (table :: front) := by
      rw [calls_cons table front, List.append_assoc]
    refine ((validateNext_sends sides options).mono (fun _ asked => asked) (fun _ _ asked => asked)
      fun _ s asked => ⟨[table], ?first, asked⟩).bind fun result => ?others
    case first => exact (List.prefix_cons_inj table).mpr List.nil_prefix
    case others =>
      rw [← joined tables]
      refine (ih.mono (fun _ asked => asked) (fun _ _ asked => asked) ?_).bind
        fun results => .pure fun _ asked => asked
      rintro _ s ⟨front, rest, asked⟩
      exact ⟨table :: front, (List.prefix_cons_inj table).mpr rest, joined front ▸ asked⟩

private theorem validateAll_sends (sides : Sides σ τ) (options : Options) (pair : SchemaPair) :
    Run.Triple (Asked source target) (validateAll sides.recorded options pair)
      (fun _ => Asked (source ++ calls sides.source.dialect pair.target pair.source.tables) target)
      fun _ s => ∃ front, front <+: pair.source.tables ∧
        Asked (source ++ calls sides.source.dialect pair.target front) target s :=
  (mapList_sends sides options pair.source.tables).bind fun results =>
    (Run.Triple.log asked_silent .info (doneLine results)).bind fun _ => .pure fun _ asked => asked

/-- Whatever the databases answer, that is all a validation asks for. -/
theorem run_asks (sides : Sides σ τ) (options : Options) (s : RunState σ τ) :
    Asks sides options s := by
  have loads : SchemaPair.Alike (Recording Call.Reads []) sides sides.recorded :=
    Recording.loads trivial
  obtain ⟨same, -⟩ := loads.load_corresponds options.diagnostics s s.recorded
    ⟨rfl, by simp [RunState.recorded], [], rfl, by simp⟩
  have asks := load_asks sides options.diagnostics s.recorded ⟨rfl, rfl⟩
  have only {s : RunState (Recorded σ) (Recorded τ)}
      (asked : s.target.calls.map (·.call) = [.schemaRows]) :
      ∀ e ∈ s.target.calls, e.call = .schemaRows := fun e member =>
    List.mem_singleton.mp (asked ▸ List.mem_map_of_mem member)
  rcases loaded : SchemaPair.load sides options.diagnostics s with ⟨answer, t⟩
  rcases loaded' : SchemaPair.load sides.recorded options.diagnostics s.recorded with ⟨answer', t'⟩
  rw [loaded, loaded'] at same
  rw [loaded'] at asks
  obtain rfl : answer = answer' := same
  cases answer with
  | error failure =>
    have ran : run sides.recorded options s.recorded = (.error failure, t') := by
      rw [run_eq, Run.bind_apply, loaded']
    obtain ⟨source, target⟩ | ⟨source, target⟩ := asks
    · refine ⟨?_, ?_⟩
      · rw [ran, List.map_eq_nil_iff.mp target]
        exact List.forall_mem_nil _
      · rwa [ran, loaded]
    · refine ⟨?_, ?_⟩
      · rw [ran]
        exact only target
      · rwa [ran, loaded]
  | ok pair =>
    have ran : run sides.recorded options s.recorded =
        validateAll sides.recorded options pair t' := by
      rw [run_eq, Run.bind_apply, loaded']
    have ended := validateAll_sends sides options pair t' asks
    rw [← ran] at ended
    rcases answered : run sides.recorded options s.recorded with ⟨failure | results, u⟩
    · rw [answered] at ended
      obtain ⟨front, started, source, target⟩ := ended
      refine ⟨?_, ?_⟩
      · rw [answered]
        exact only target
      · rw [answered, loaded]
        refine ⟨front, started, fun succeeded => ?_, source⟩
        cases succeeded
    · rw [answered] at ended
      obtain ⟨source, target⟩ := ended
      refine ⟨?_, ?_⟩
      · rw [answered]
        exact only target
      · rw [answered, loaded]
        exact ⟨_, List.prefix_rfl, fun _ => rfl, source⟩

end Validation

end Asking

namespace Migration

variable {σ τ : Type} {options : Options}

theorem run_of_stop (dumps : options.diagnostics.dumpSchemaDiff = true)
    (stops : options.diagnostics.stopAfterSchemaDump = true) (sides : Sides σ τ)
    (s : RunState σ τ) :
    let read := SchemaPair.load sides options.diagnostics s
    ∃ failure, read.1 = .error failure ∧ run sides options s = (.error failure, read.2) ∧
      (failure = .stopRequested ↔
        (∃ schema, SchemaPair.described sides.source s.source = .ok schema) ∧
          ∃ schema, SchemaPair.described sides.target s.target = .ok schema) := by
  intro read
  obtain ⟨failure, failed, why⟩ := SchemaPair.load_of_stop dumps stops sides s
  exact ⟨failure, failed, run_of_load_error (Prod.ext failed rfl), why⟩

theorem run_corresponds_of_stop {σ' τ' : Type} {R : RunState σ τ → RunState σ' τ' → Prop}
    {sides : Sides σ τ} {sides' : Sides σ' τ'}
    (dumps : options.diagnostics.dumpSchemaDiff = true)
    (stops : options.diagnostics.stopAfterSchemaDump = true)
    (loads : SchemaPair.Alike R sides sides') :
    Run.Corresponds R (run sides options) (run sides' options) := by
  intro s s' related
  obtain ⟨failure, failed, ran, -⟩ := run_of_stop dumps stops sides s
  obtain ⟨failure', failed', ran', -⟩ := run_of_stop dumps stops sides' s'
  obtain ⟨same, related'⟩ := loads.load_corresponds options.diagnostics s s' related
  rw [failed, failed'] at same
  rw [ran, ran']
  exact ⟨congrArg _ (Except.error.inj same), related'⟩

end Migration

/-- Whatever the databases answer, verifications, validations and migrations that stop at the
comparison of the schemas change nothing. A validation asks the source for rows of the tables that
may not fit and the destination for nothing but its schema; a migration that is to stop does so
with the failure for that, unless there is a schema that it could not read. -/
theorem reading_runs (options : Options) :
    ReadsOnly (fun sides => Verification.run sides options) ∧
    ReadsOnly (fun sides => Validation.run sides options) ∧
    (∀ {σ τ : Type} (sides : Sides σ τ) (s : RunState σ τ), Validation.Asks sides options s) ∧
    (options.diagnostics.dumpSchemaDiff = true →
      options.diagnostics.stopAfterSchemaDump = true →
      ReadsOnly (fun sides => Migration.run sides options) ∧
      ∀ {σ τ : Type} (sides : Sides σ τ) (s : RunState σ τ),
        (Migration.run sides options s).1 = .error .stopRequested ↔
          (∃ schema, SchemaPair.described sides.source s.source = .ok schema) ∧
            ∃ schema, SchemaPair.described sides.target s.target = .ok schema) := by
  refine ⟨.of_corresponds fun loads reads => Verification.run_corresponds reads options loads,
    .of_corresponds fun loads reads => Validation.run_corresponds reads options loads,
    fun sides s => Validation.run_asks sides options s,
    fun dumps stops => ⟨.of_corresponds fun loads _ =>
      Migration.run_corresponds_of_stop dumps stops loads, fun sides s => ?_⟩⟩
  obtain ⟨failure, -, ran, why⟩ := Migration.run_of_stop dumps stops sides s
  rw [ran, ← why]
  exact ⟨Except.error.inj, congrArg Except.error⟩

private def stopping : Options where
  migration := { truncateFirst := true }
  diagnostics := { dumpSchemaDiff := true, stopAfterSchemaDump := true }

private def twoPeople : RunState MemoryStore MemoryStore where
  source := { tables := [⟨"people", [⟨"id", "integer", none⟩], [[.int32 1]]⟩] }
  target := { tables := [⟨"people", [⟨"id", "integer", none⟩], [[.int32 2]]⟩] }

/-- Nobody is removed and nobody added. -/
theorem reading_runs_stopping_at_people :
    stopping.diagnostics.dumpSchemaDiff = true ∧ stopping.diagnostics.stopAfterSchemaDump = true ∧
      let ran := Migration.run (Sides.inMemory {} {}) stopping twoPeople
      ran.1 = .error .stopRequested ∧ twoPeople.source.Keeps ran.2.source ∧
        twoPeople.target.Keeps ran.2.target := by
  obtain ⟨-, -, -, stopped⟩ := reading_runs stopping
  obtain ⟨reads, answers⟩ := stopped rfl rfl
  have source : SchemaPair.described (MemoryStore.database {}) twoPeople.source =
      .ok ⟨[⟨"people", [⟨"id", "integer", 0⟩]⟩]⟩ := by decide +kernel
  have target : SchemaPair.described (MemoryStore.database {}) twoPeople.target =
      .ok ⟨[⟨"people", [⟨"id", "integer", 0⟩]⟩]⟩ := by decide +kernel
  exact ⟨rfl, rfl, (answers _ twoPeople).mpr ⟨⟨_, source⟩, _, target⟩,
    reads.inMemory {} {} twoPeople⟩

end RowSync
