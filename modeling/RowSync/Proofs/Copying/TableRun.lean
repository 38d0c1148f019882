import RowSync.Proofs.Copying.Answers
import RowSync.Proofs.Sync.Yields

/-!
The run that migrates one table between two stores in memory does what the copy says on rows: by
its outcome, by its counts and by the rows it leaves.
-/

set_option autoImplicit false

namespace RowSync

theorem Migration.truncate_yields {u : MemoryTable} {source target : List MemoryTable}
    (stored : u.StoredIn target) (settings settings' : MemorySettings) :
    (truncate (.inMemory settings settings') u.name).Yields source target (.ok ())
      (MemoryStore.putRows u.name [] target) := by
  have emptied : (Run.onTarget ((MemoryStore.database settings').truncate u.name) :
      Run MemoryStore MemoryStore Unit).Yields source target (.ok ())
      (MemoryStore.putRows u.name [] target) := by
    refine .onTarget fun s tables => ?_
    rw [← tables] at stored
    let sql := (Dialect.plain settings'.resolution).truncateStatement u.name
    have words : sql.toList = "TRUNCATE TABLE ".toList ++ u.name.toList := String.toList_append
    have executed : MemoryStore.execute settings' sql [] s =
        (.ok u.rows.length, (s.remember sql).setRows u.name []) :=
      MemoryStore.execute_truncate stored words []
    have answer : (MemoryStore.database settings').truncate u.name s =
        (.ok (), (s.remember sql).setRows u.name []) :=
      congrArg (fun result : Outcome Nat × MemoryStore => (result.1.map fun _ => (), result.2))
        executed
    rw [answer, ← tables]
    exact ⟨rfl, MemoryStore.updateFirst_eq_putRows stored.distinct⟩
  exact .bind_ok (.notify _) (.bind_ok (emptied.within _) (.notify _))

namespace TableCopy

variable (copy : TableCopy)

def hasIdentity : Bool := copy.source.hasId && copy.target.hasId

def strategy : Strategy := if copy.hasIdentity then .identity else .fullRow

/-- The rows of the destination when the copy begins. -/
def initial (options : MigrationOptions) : List Row :=
  if options.truncateFirst then [] else copy.target.rows

/-- The identities that the destination has when the copy begins. -/
def existing (options : MigrationOptions) : List Value :=
  (copy.initial options).map copy.target.idOf

def isNew (existing : List Value) (row : Row) : Bool :=
  !existing.any fun p => (copy.source.idOf row).nullSafeEq p

/-- The source rows that are read. -/
def sent (options : MigrationOptions) : List Row :=
  if copy.hasIdentity && Migration.filtersSource options (copy.existing options) then
    copy.source.rows.filter (copy.isNew (copy.existing options))
  else copy.source.rows

/-- The rows that are added to those of the destination when they are admitted by a rule. -/
def added (admits : List Row → Row → Bool) (options : MigrationOptions) : List Row :=
  copy.appended admits (copy.initial options) copy.source.rows

/-- How far the copy comes. -/
def finished (options : MigrationOptions) : CopyState :=
  copy.runRows (!copy.hasIdentity) ⟨copy.initial options, {}⟩ (copy.sent options)

/-- Rows that are compared by their values are refused when the source has too many. -/
def limitCheck (options : MigrationOptions) : Outcome Unit :=
  match options.fullRowProbeLimit? with
  | none => .ok ()
  | some limit =>
    let rows := (Int64.ofNat copy.source.rows.length).toInt
    if (limit : Int) < rows then .error (.fullRowLimitExceeded copy.source.name rows limit)
    else .ok ()

/-- Whether the table is migrated, or why it is not. -/
def admission (options : MigrationOptions) : Outcome Unit :=
  match copy.plan with
  | .error failure => .error failure
  | .ok _ =>
    if copy.hasIdentity then .ok ()
    else (copy.limitCheck options).within "failed migrating table without ids"

def migrated (options : MigrationOptions) : Outcome TableMigration :=
  (copy.admission options).map fun _ =>
    ⟨copy.source.name, copy.strategy, (copy.finished options).tally⟩

def migratedRows (options : MigrationOptions) : List Row :=
  match copy.admission options with
  | .error _ => copy.initial options
  | .ok () => (copy.finished options).rows

theorem migrated_of_admission {copy : TableCopy} {options : MigrationOptions}
    (admitted : copy.admission options = .ok ()) :
    copy.migrated options = .ok ⟨copy.source.name, copy.strategy, (copy.finished options).tally⟩ ∧
      copy.migratedRows options = (copy.finished options).rows := by
  rw [migrated, migratedRows, admitted]
  exact ⟨rfl, rfl⟩

theorem admission_of_migrated {copy : TableCopy} {options : MigrationOptions}
    {result : TableMigration} (success : copy.migrated options = .ok result) :
    copy.admission options = .ok () := by
  cases admitted : copy.admission options with
  | ok _ => rfl
  | error failure =>
    rw [migrated, admitted] at success
    cases success

theorem plan_of_admission {copy : TableCopy} {options : MigrationOptions}
    (admitted : copy.admission options = .ok ()) : ∃ plan, copy.plan = .ok plan := by
  cases made : copy.plan with
  | ok plan => exact ⟨plan, rfl⟩
  | error failure =>
    rw [admission, made] at admitted
    cases admitted

/-- The tables of the copy, as the two databases have them. -/
structure Ready (copy : TableCopy) (source target : List MemoryTable) : Prop where
  source_wellFormed : copy.source.WellFormed
  target_wellNamed : copy.target.WellNamed
  some : copy.source.columns ≠ []
  source_stored : copy.source.StoredIn source
  target_stored : copy.target.StoredIn target

section Rows

variable {copy : TableCopy} {plan : TablePlan} {pairs : ColumnMatches} {options : Options}
  {source target : List MemoryTable} {settings : MemorySettings}

private theorem countInserted_yields (options : MigrationOptions) (table : String) (tally : Tally) :
    (Migration.countInserted options table tally).Yields source target
      (.ok { tally with inserted := tally.inserted + 1 }) target := by
  unfold Migration.countInserted
  dsimp only
  split
  · exact .bind_ok (.notify _) (.pure _)
  · exact .pure _

private theorem countDuplicate_yields (plan : TablePlan) (row : Row) (tally : Tally) :
    (Migration.countDuplicate plan row tally).Yields source target
      (.ok { tally with duplicate := tally.duplicate + 1 }) target := by
  unfold Migration.countDuplicate
  cases plan.rowId? row with
  | none => exact .pure _
  | some id => exact .bind_ok (.log _ _) (.pure _)

private theorem countFailed_yields (plan : TablePlan) (failure : Failure) (tally : Tally) :
    (Migration.countFailed plan failure tally).Yields source target
      (.ok { tally with failed := tally.failed + 1 }) target := by
  unfold Migration.countFailed
  refine .bind_ok (.log _ _) ?_
  dsimp only
  split
  · exact .bind_ok (.log _ _) (.pure _)
  · exact .pure _

/-- The destination's tables with those rows in the table of the copy. -/
def tablesWith (copy : TableCopy) (target : List MemoryTable) (rows : List Row) :
    List MemoryTable := MemoryStore.putRows copy.target.name rows target

private theorem stored_tablesWith (ready : copy.Ready source target) (rows : List Row) :
    MemoryTable.StoredIn { copy.target with rows } (copy.tablesWith target rows) :=
  MemoryStore.storedIn_putRows ready.target_stored rows

theorem tablesWith_initial (ready : copy.Ready source target) :
    copy.tablesWith target copy.target.rows = target :=
  MemoryStore.putRows_rows ready.target_stored

private theorem putRows_tablesWith (rows rows' : List Row) :
    MemoryStore.putRows copy.target.name rows' (copy.tablesWith target rows) =
      copy.tablesWith target rows' := MemoryStore.putRows_putRows

private theorem insert_yields (ready : copy.Ready source target)
    (planned : copy.Planned plan pairs) (settings : MemorySettings) (rows : List Row) {row : Row}
    (complete : row.length = copy.source.columns.length) :
    (Migration.insert (.inMemory settings copy.settings) plan (row.map copy.normalized)).Yields
      source (copy.tablesWith target rows) ((copy.insertAnswer rows row).map fun _ => ())
      (copy.tablesWith target (match copy.insertAnswer rows row with
        | .ok _ => rows ++ [copy.storedRow row]
        | .error _ => rows)) := by
  have executed : (Run.onTarget (MemoryStore.execute copy.settings plan.insertSql
      (row.map copy.normalized)) : Run MemoryStore MemoryStore Nat).Yields source
      (copy.tablesWith target rows) (copy.insertAnswer rows row)
      (copy.tablesWith target (match copy.insertAnswer rows row with
        | .ok _ => rows ++ [copy.storedRow row]
        | .error _ => rows)) := by
    refine .onTarget fun s tables => ?_
    have stored := stored_tablesWith ready rows
    rw [← tables] at stored
    obtain ⟨answer, left⟩ := planned.execute_insert ready.source_wellFormed.toWellNamed
      ready.target_wellNamed ready.some stored complete
    refine ⟨answer, left.trans ?_⟩
    cases copy.insertAnswer rows row with
    | ok _ => exact (congrArg _ tables).trans (putRows_tablesWith rows _)
    | error _ => exact tables
  have told := copy.tells_insertAnswer rows row
  unfold Migration.insert
  cases answer : copy.insertAnswer rows row with
  | error failure =>
    rw [answer] at executed
    exact .bind_error executed
  | ok affected =>
    rw [answer] at executed told
    refine .bind_ok executed ?_
    have one : affected = 1 := by
      cases fate : copy.fate false rows row <;> simp [fate, Tells] at told
      exact told
    subst one
    exact .pure ()

private theorem insertCounted_yields (ready : copy.Ready source target)
    (planned : copy.Planned plan pairs) (settings : MemorySettings) (options : Options)
    (s : CopyState) {row : Row}
    (complete : row.length = copy.source.columns.length) :
    (Migration.insertCounted (.inMemory settings copy.settings) options plan s.tally
      (row.map copy.normalized)).Yields source (copy.tablesWith target s.rows)
      (.ok (copy.step false s row).tally)
      (copy.tablesWith target (copy.step false s row).rows) := by
  have tried := (insert_yields ready planned settings s.rows complete).attempt
  have told := copy.tells_insertAnswer s.rows row
  unfold Migration.insertCounted step
  cases fate : copy.fate false s.rows row with
  | present =>
    rw [fate] at told
    exact told.elim
  | inserted =>
    rw [fate] at told
    have answer : copy.insertAnswer s.rows row = .ok 1 := told
    rw [answer] at tried
    exact .bind_ok tried (countInserted_yields _ _ _)
  | duplicate =>
    rw [fate] at told
    obtain ⟨failure, answer, duplicate⟩ := told
    rw [answer] at tried
    refine .bind_ok tried ?_
    dsimp only [Except.map]
    rw [if_pos duplicate]
    exact countDuplicate_yields _ _ _
  | failed =>
    rw [fate] at told
    obtain ⟨failure, answer, other⟩ := told
    rw [answer] at tried
    refine .bind_ok tried ?_
    dsimp only [Except.map]
    rw [if_neg (by simp [other])]
    exact countFailed_yields _ _ _

theorem probe_yields (ready : copy.Ready source target) (planned : copy.Planned plan pairs)
    (settings : MemorySettings) (diagnostics : DiagnosticOptions) (rows : List Row) (row : Row) :
    (RowFlow.probe (.inMemory settings copy.settings) plan diagnostics
      (row.map copy.normalized)).Yields source (copy.tablesWith target rows)
      (.ok (rows.any (copy.agrees copy.probedValue · row))) (copy.tablesWith target rows) := by
  have queried : (Run.onTarget (MemoryStore.query plan.existsSql (row.map copy.normalized)) :
      Run MemoryStore MemoryStore (List Row)).Yields source (copy.tablesWith target rows)
      (.ok [[.int64 (if rows.any (copy.agrees copy.probedValue · row) then 1 else 0)]])
      (copy.tablesWith target rows) := by
    refine .onTarget fun s tables => ?_
    have stored := stored_tablesWith ready rows
    rw [← tables] at stored
    rw [planned.query_exists ready.target_wellNamed ready.some stored row]
    exact ⟨rfl, tables⟩
  unfold RowFlow.probe
  refine .bind_ok (.logRow _ _ _) (.bind_ok (queried.within _) ?_)
  cases rows.any (copy.agrees copy.probedValue · row) with
  | false => exact .ofOutcome _
  | true => exact .ofOutcome _

theorem step_eq (copy : TableCopy) (probing : Bool) (s : CopyState) (row : Row) :
    copy.step probing s row =
      if probing && s.rows.any (copy.agrees copy.probedValue · row) then s
      else copy.step false s row := by
  unfold step fate
  by_cases found : (probing && s.rows.any (copy.agrees copy.probedValue · row)) = true
  · rw [if_pos found, if_pos found]
  · rw [if_neg found, if_neg found, Bool.false_and, if_neg Bool.false_ne_true]

private theorem copyRow_yields (ready : copy.Ready source target)
    (planned : copy.Planned plan pairs) (settings : MemorySettings) (options : Options)
    (probing : Bool) (s : CopyState) {row : Row}
    (complete : row.length = copy.source.columns.length) :
    (Migration.copyRow (.inMemory settings copy.settings) options plan probing s.tally row).Yields
      source (copy.tablesWith target s.rows) (.ok (copy.step probing s row).tally)
      (copy.tablesWith target (copy.step probing s row).rows) := by
  have counted := insertCounted_yields ready planned settings options s complete
  rw [step_eq]
  unfold Migration.copyRow
  cases probing with
  | false => exact .bind_ok (.pure false) counted
  | true =>
    refine .bind_ok (probe_yields ready planned settings _ s.rows row) ?_
    cases s.rows.any (copy.agrees copy.probedValue · row) with
    | true => exact .pure _
    | false => exact counted

private theorem copyRows_yields (ready : copy.Ready source target)
    (planned : copy.Planned plan pairs) (settings : MemorySettings) (options : Options)
    (probing : Bool) {sql : String} {parameters : List Value}
    {sent : List Row} (complete : ∀ row ∈ sent, row.length = copy.source.columns.length)
    (answers : ∀ s : MemoryStore, s.tables = source →
      MemoryStore.query sql parameters s = (.ok sent, s.remember sql)) (rows : List Row) :
    (Migration.copyRows (.inMemory settings copy.settings) options plan probing sql
      parameters).Yields source (copy.tablesWith target rows)
      (.ok (copy.runRows probing ⟨rows, {}⟩ sent).tally)
      (copy.tablesWith target (copy.runRows probing ⟨rows, {}⟩ sent).rows) := by
  have consumed := RowFlow.consume_yields plan sent (copy.step probing) CopyState.tally
    (fun s => copy.tablesWith target s.rows)
    (fun s row member =>
      copyRow_yields ready planned settings options probing s (complete row member))
    ⟨rows, {}⟩ options.migration.readBatchSize
  unfold Migration.copyRows
  refine .bind_ok (RowFlow.openStream_yields settings copy.settings options answers) ?_
  cases probing with
  | false => exact .bind_ok consumed (.bind_ok (.log _ _) (.pure _))
  | true => exact .bind_ok (.logSql _ _) (.bind_ok consumed (.bind_ok (.log _ _) (.pure _)))

end Rows

section Tables

variable {copy : TableCopy} {plan : TablePlan} {pairs : ColumnMatches} {options : Options}
  {source target : List MemoryTable} {settings : MemorySettings}

theorem Planned.hasIdentity_eq (planned : copy.Planned plan pairs)
    (source : copy.source.WellNamed) (target : copy.target.WellNamed) :
    plan.hasIdentity = copy.hasIdentity := by
  rw [TablePlan.hasIdentity, planned.source_eq, planned.target_eq,
    MemoryTable.hasIdentity_described source, MemoryTable.hasIdentity_described target,
    hasIdentity]

private theorem firstCells_map (f : Row → Value) (rows : List Row) :
    Migration.firstCells (rows.map fun row => [f row]) = rows.map f := by
  rw [Migration.firstCells, List.filterMap_map]
  exact congrFun (List.filterMap_eq_map) rows

theorem mem_of_mem_sent {options : MigrationOptions} {row : Row}
    (member : row ∈ copy.sent options) : row ∈ copy.source.rows := by
  unfold sent at member
  split at member
  · exact List.mem_of_mem_filter member
  · exact member

private theorem sent_complete (ready : copy.Ready source target) (options : MigrationOptions) :
    ∀ row ∈ copy.sent options, row.length = copy.source.columns.length :=
  fun row member => ready.source_wellFormed.rows_complete row (mem_of_mem_sent member)

private theorem copyByIdentity_yields (ready : copy.Ready source target)
    (planned : copy.Planned plan pairs) (identified : copy.hasIdentity = true) :
    (Migration.copyByIdentity (.inMemory settings copy.settings) options plan).Yields source
      (copy.tablesWith target (copy.initial options.migration))
      (.ok (copy.finished options.migration).tally)
      (copy.tablesWith target (copy.finished options.migration).rows) := by
  obtain ⟨source_hasId, target_hasId⟩ := (Bool.and_eq_true _ _).mp identified
  have asked : (Run.onTarget (MemoryStore.query
      (plan.targetIdsSql (.plain copy.settings.resolution))
      []) : Run MemoryStore MemoryStore (List Row)).Yields source
      (copy.tablesWith target (copy.initial options.migration))
      (.ok ((copy.initial options.migration).map fun row => [copy.target.idOf row]))
      (copy.tablesWith target (copy.initial options.migration)) := by
    refine .onTarget fun s tables => ?_
    have stored := stored_tablesWith ready (copy.initial options.migration)
    rw [← tables] at stored
    rw [planned.query_targetIds ready.target_wellNamed target_hasId stored []]
    exact ⟨rfl, tables⟩
  have answers (s : MemoryStore) (tables : s.tables = source) :
      MemoryStore.query (Migration.sourceStatement (.inMemory settings copy.settings)
        options.migration plan (copy.existing options.migration)).1
        (Migration.sourceStatement (.inMemory settings copy.settings) options.migration plan
          (copy.existing options.migration)).2 s =
      (.ok (copy.sent options.migration), s.remember (Migration.sourceStatement
        (.inMemory settings copy.settings) options.migration plan
          (copy.existing options.migration)).1) := by
    have stored := ready.source_stored
    rw [← tables] at stored
    unfold sent Migration.sourceStatement
    rw [identified, Bool.true_and]
    by_cases filters : Migration.filtersSource options.migration
        (copy.existing options.migration) = true
    · rw [if_pos filters, if_pos filters]
      have nonempty : copy.existing options.migration ≠ [] := by
        rintro empty
        simp [Migration.filtersSource, empty] at filters
      exact planned.query_excluding ready.source_wellFormed source_hasId stored nonempty
    · rw [if_neg filters, if_neg filters]
      exact planned.query_source ready.source_wellFormed ready.some stored []
  have copied := copyRows_yields ready planned settings options false
    (sent_complete ready options.migration) answers (copy.initial options.migration)
  unfold Migration.copyByIdentity
  refine .bind_ok (.logSql _ _) (.bind_ok (asked.within _) ?_)
  dsimp only
  rw [firstCells_map, finished, identified, Bool.not_true]
  split
  · exact .bind_ok (.log _ _) copied
  · exact copied

private theorem checkLimit_yields (ready : copy.Ready source target)
    (planned : copy.Planned plan pairs) (settings : MemorySettings) (options : MigrationOptions)
    (tables : List MemoryTable) :
    (Migration.checkLimit (.inMemory settings copy.settings) options plan).Yields source tables
      (copy.limitCheck options) tables := by
  unfold Migration.checkLimit limitCheck
  cases options.fullRowProbeLimit? with
  | none => exact .pure _
  | some limit =>
    have asked : (Run.onSource (MemoryStore.query (countStatement (.plain settings.resolution)
        plan.source) []) : Run MemoryStore MemoryStore (List Row)).Yields source tables
        (.ok [[.int64 (Int64.ofNat copy.source.rows.length)]]) tables := by
      refine .onSource fun s same => ?_
      have stored := ready.source_stored
      rw [← same] at stored
      rw [planned.query_count ready.source_wellFormed.toWellNamed stored []]
      exact ⟨rfl, same⟩
    have counted : (Migration.countSource (.inMemory settings copy.settings) plan).Yields source
        tables (.ok (Int64.ofNat copy.source.rows.length).toInt) tables :=
      .bind_ok asked (.ofOutcome (.ok (Int64.ofNat copy.source.rows.length).toInt))
    refine .bind_ok counted ?_
    dsimp only
    rw [planned.source_eq, MemoryTable.name_described]
    split
    · exact .throw _
    · exact .pure _

private theorem copyByFullRow_yields (ready : copy.Ready source target)
    (planned : copy.Planned plan pairs) (unidentified : copy.hasIdentity = false)
    (admitted : copy.limitCheck options.migration = .ok ()) :
    (Migration.copyByFullRow (.inMemory settings copy.settings) options plan).Yields source
      (copy.tablesWith target (copy.initial options.migration))
      (.ok (copy.finished options.migration).tally)
      (copy.tablesWith target (copy.finished options.migration).rows) := by
  have checked := checkLimit_yields ready planned settings options.migration
    (copy.tablesWith target (copy.initial options.migration))
  have answers (s : MemoryStore) (tables : s.tables = source) :
      MemoryStore.query plan.selectSql [] s =
        (.ok (copy.sent options.migration), s.remember plan.selectSql) := by
    have stored := ready.source_stored
    rw [← tables] at stored
    rw [sent, unidentified, Bool.false_and, if_neg Bool.false_ne_true]
    exact planned.query_source ready.source_wellFormed ready.some stored []
  have copied := copyRows_yields ready planned settings options true
    (sent_complete ready options.migration) answers (copy.initial options.migration)
  rw [admitted] at checked
  rw [finished, unidentified, Bool.not_false]
  exact .bind_ok checked copied

private theorem copyTable_yields (ready : copy.Ready source target)
    (planned : copy.Planned plan pairs) (made : copy.plan = .ok plan) (settings : MemorySettings)
    (options : Options) :
    (Migration.copyTable (.inMemory settings copy.settings) options plan).Yields source
      (copy.tablesWith target (copy.initial options.migration))
      ((copy.admission options.migration).map fun _ => (copy.finished options.migration).tally)
      (copy.tablesWith target (copy.migratedRows options.migration)) := by
  have strategy := planned.hasIdentity_eq ready.source_wellFormed.toWellNamed
    ready.target_wellNamed
  unfold Migration.copyTable TablePlan.strategy migratedRows admission
  rw [strategy, made]
  cases identified : copy.hasIdentity with
  | true => exact (copyByIdentity_yields ready planned identified).within _
  | false =>
    cases checked : copy.limitCheck options.migration with
    | ok _ => exact (copyByFullRow_yields ready planned identified checked).within _
    | error failure =>
      have refused := checkLimit_yields ready planned settings options.migration
        (copy.tablesWith target (copy.initial options.migration))
      rw [checked] at refused
      exact (Run.Yields.bind_error refused).within _

/-- Migrating a table leads to the outcome and to the rows that the copy says. -/
theorem migrateTable_yields (ready : copy.Ready source target) (settings : MemorySettings)
    (options : Options) :
    (Migration.migrateTable (.inMemory settings copy.settings) options copy.source.described
      copy.target.described).Yields source target (copy.migrated options.migration)
      (copy.tablesWith target (copy.migratedRows options.migration)) := by
  have named := ready.source_wellFormed.toWellNamed
  have entered : (if options.migration.truncateFirst then
        Migration.truncate (.inMemory settings copy.settings) copy.target.described.name
      else pure () : Run MemoryStore MemoryStore Unit).Yields source target (.ok ())
      (copy.tablesWith target (copy.initial options.migration)) := by
    unfold initial
    split
    · exact Migration.truncate_yields ready.target_stored settings copy.settings
    · rw [tablesWith_initial ready]
      exact .pure ()
  have reported : (Run.reported (TablePlan.make (.plain settings.resolution)
      (.plain copy.settings.resolution) copy.source.described copy.target.described) :
      Run MemoryStore MemoryStore TablePlan).Yields source
      (copy.tablesWith target (copy.initial options.migration)) copy.plan
      (copy.tablesWith target (copy.initial options.migration)) := .reported _
  unfold Migration.migrateTable
  refine .ite_bind entered ?_
  cases made : copy.plan with
  | error failure =>
    rw [made] at reported
    unfold migrated migratedRows admission
    rw [made]
    exact .bind_error reported
  | ok plan =>
    rw [made] at reported
    obtain ⟨pairs, planned⟩ := copy.planned_of_plan named ready.target_wellNamed made
    have copied := copyTable_yields ready planned made settings options
    have strategy : plan.strategy = copy.strategy := by
      rw [TablePlan.strategy, planned.hasIdentity_eq named ready.target_wellNamed, strategy]
    refine .bind_ok reported (.bind_ok (.logSql _ _) (.bind_ok (.notify _)
      (.bind_ok (.log _ _) ?_)))
    unfold migrated
    cases admitted : copy.admission options.migration with
    | error failure =>
      rw [admitted] at copied
      exact .bind_error copied
    | ok _ =>
      rw [admitted] at copied
      refine .bind_ok copied ?_
      rw [strategy]
      dsimp only
      split
      · exact .bind_ok (.log _ _) (.bind_ok (.notify _) (.pure _))
      · exact .bind_ok (.notify _) (.pure _)

end Tables

end TableCopy

end RowSync
