import RowSync.Proofs.Schema.Description
import RowSync.Proofs.Sync.RunAccounting

/-!
The notifications of a migration. They form a sentence of a small grammar whatever the databases
answer: the checks between tables are suspended, each table has a block of its own, and the checks
are restored. The transcript of the destination tells how far the rows of each block have come.
-/

set_option autoImplicit false

namespace RowSync

namespace Migration

/-- The notifications of progress up to a number of inserted rows: the multiples of the interval,
none when the interval is zero. -/
def progress (interval : Nat) (table : String) (inserted : Nat) : List Event :=
  (List.range (inserted / interval)).map fun i => .progress table ((i + 1) * interval)

def emptying (options : MigrationOptions) (target : Table) : List Event :=
  if options.truncateFirst then [.willTruncate target.name, .truncated target.name] else []

/-- What is told of a table while its rows are copied, with the answers to its inserts so far. -/
def copying (options : MigrationOptions) (source target : Table) (answers : List (Outcome Nat)) :
    List Event :=
  emptying options target ++ .started source.name ::
    progress options.progressInterval source.name (answers.countP Tally.inserts)

/-- The block of a table whose migration fails, with the answers to its inserts. -/
inductive CutBlock (options : MigrationOptions) (schema : Schema) (source : Table) :
    List (Outcome Nat) → List Event → Prop
  /-- The destination has no such table. -/
  | unmatched {failure : Failure} (missing : schema.table source.key = .error failure) :
    CutBlock options schema source [] []
  /-- The table could not be emptied. -/
  | unemptied {target : Table} (matched : schema.table source.key = .ok target)
    (first : options.truncateFirst = true) :
    CutBlock options schema source [] [.willTruncate target.name]
  /-- Some column has no counterpart. -/
  | unplanned {target : Table} (matched : schema.table source.key = .ok target) :
    CutBlock options schema source [] (emptying options target)
  /-- Not all rows could be read or looked for. -/
  | uncopied {target : Table} (matched : schema.table source.key = .ok target)
    (answers : List (Outcome Nat)) :
    CutBlock options schema source answers (copying options source target answers)

/-- The blocks of tables in turn, with the answers to all inserts and the outcome: every block is
complete, or the last one is cut short and the outcome is a failure. -/
inductive Blocks (options : MigrationOptions) (schema : Schema) :
    List Table → List (Outcome Nat) → List Event → Outcome (List TableMigration) → Prop
  | done : Blocks options schema [] [] [] (.ok [])
  | next {source target : Table} {sources : List Table} {answers more : List (Outcome Nat)}
    {events : List Event} {outcome : Outcome (List TableMigration)} (result : TableMigration)
    (matched : schema.table source.key = .ok target) (named : result.table = source.name)
    (counted : result.tally.inserted = answers.countP Tally.inserts)
    (others : Blocks options schema sources more events outcome) :
    Blocks options schema (source :: sources) (answers ++ more)
      (copying options source target answers ++
        .finished source.name result.tally.inserted :: events)
      (outcome.map (result :: ·))
  | cut {source : Table} {sources : List Table} {answers : List (Outcome Nat)}
    {events : List Event} (failure : Failure)
    (block : CutBlock options schema source answers events) :
    Blocks options schema (source :: sources) answers events (.error failure)

def restoredEvent : Outcome Unit → Event
  | .ok () => .enabledConstraints
  | .error failure => .enableConstraintsFailed failure.message

/-- The notifications of a migration once the schemas are loaded, by the answer to the suspending
of the checks, with the transcript of the destination and the outcome. -/
inductive Notified (options : MigrationOptions) (pair : SchemaPair) :
    Outcome Unit → List Entry → List Event → Outcome Migration → Prop
  | unsuspended (refusal failure : Failure) (entries : List Entry) :
    Notified options pair (.error refusal) entries [.willDisableConstraints] (.error failure)
  | suspended {entries : List Entry} {blocks : List Event}
    {outcome : Outcome (List TableMigration)}
    (tables : Blocks options pair.target pair.source.tables (Entry.insertAnswers entries) blocks
      outcome)
    (restored : Outcome Unit) (last : entries.getLast? = some (.enableConstraints restored)) :
    Notified options pair (.ok ()) entries
      (.willDisableConstraints :: .didDisableConstraints ::
        (blocks ++ [.willEnableConstraints, restoredEvent restored]))
      (outcome.map Migration.mk)

theorem progress_counting (interval : Nat) (table : String) (tally : Tally)
    (answer : Outcome Nat) :
    progress interval table (tally.counting [answer]).inserted =
      progress interval table tally.inserted ++
        tally.news interval table (tally.counting [answer]) := by
  cases inserted : Tally.inserts answer with
  | false =>
    have same : (tally.counting [answer]).inserted = tally.inserted := by
      simp [Tally.counting, inserted]
    rw [Tally.news_of_inserted_eq _ _ same, same, List.append_nil]
  | true =>
    have next : (tally.counting [answer]).inserted = tally.inserted + 1 := by
      simp [Tally.counting, inserted]
    rw [Tally.news, next, progress, progress, Nat.succ_div]
    by_cases full : interval ∣ tally.inserted + 1
    · have positive : 0 < interval := Nat.pos_of_dvd_of_pos full (Nat.succ_pos _)
      have multiple : (tally.inserted / interval + 1) * interval = tally.inserted + 1 := by
        rw [← Nat.succ_div_of_dvd full]
        exact Nat.div_mul_cancel full
      simp [full, positive, List.range_succ, multiple, Nat.mod_eq_zero_of_dvd full]
    · have open_interval : (tally.inserted + 1) % interval ≠ 0 := fun rest =>
        full (Nat.dvd_of_mod_eq_zero rest)
      simp [full, open_interval]

section Telling

variable {σ τ α : Type}

private def Heard (events : List Event) (answers : List (Outcome Nat))
    (s : RunState (Transcript σ) (Transcript τ)) : Prop :=
  s.journal.events.toList = events ∧ Answered answers s

private abbrev Quiet (run : Run (Transcript σ) (Transcript τ) α) : Prop :=
  ∀ events answers, Run.Triple (Heard events answers) run (fun _ => Heard events answers)
    fun _ => Heard events answers

private theorem quiet_pure (a : α) : Quiet (pure a : Run (Transcript σ) (Transcript τ) α) :=
  fun _ _ => .pure fun _ told => told

private theorem quiet_throw (failure : Failure) :
    Quiet (throw failure : Run (Transcript σ) (Transcript τ) α) :=
  fun _ _ => .throw fun _ told => told

private theorem quiet_ofOutcome (outcome : Outcome α) :
    Quiet (Run.ofOutcome outcome : Run (Transcript σ) (Transcript τ) α) :=
  fun _ _ => .ofOutcome (fun _ _ _ told => told) fun _ _ _ told => told

private theorem Quiet.bind {β : Type} {run : Run (Transcript σ) (Transcript τ) α}
    {next : α → Run (Transcript σ) (Transcript τ) β} (first : Quiet run)
    (rest : ∀ a, Quiet (next a)) : Quiet (run >>= next) :=
  fun events answers => (first events answers).bind fun a => rest a events answers

private theorem Quiet.within {run : Run (Transcript σ) (Transcript τ) α} (quiet : Quiet run)
    (label : String) : Quiet (run.within label) :=
  fun events answers => Run.Triple.within (quiet events answers)

private theorem quiet_ite {c : Prop} [Decidable c]
    {run other : Run (Transcript σ) (Transcript τ) α} (yes : Quiet run) (no : Quiet other) :
    Quiet (if c then run else other) := by
  split
  · exact yes
  · exact no

private theorem quiet_report (f : Journal → Journal) (keeps : ∀ j, (f j).events = j.events) :
    Quiet (Run.report f : Run (Transcript σ) (Transcript τ) Unit) := by
  intro events answers s ⟨told, answered⟩
  refine ⟨?_, answered⟩
  change (f s.journal).events.toList = events
  rw [keeps, told]

private theorem quiet_log (level : LogLevel) (text : String) :
    Quiet (Run.log level text : Run (Transcript σ) (Transcript τ) Unit) :=
  quiet_report _ fun _ => rfl

private theorem quiet_logAll (lines : List LogLine) :
    Quiet (Run.logAll lines : Run (Transcript σ) (Transcript τ) Unit) := by
  refine quiet_report _ fun j => ?_
  induction lines generalizing j with
  | nil => rfl
  | cons line lines ih => exact ih (j.log line.level line.text)

private theorem quiet_logSql (options : DiagnosticOptions) (sql : String) :
    Quiet (Run.logSql options sql : Run (Transcript σ) (Transcript τ) Unit) :=
  quiet_ite (quiet_log _ _) (quiet_pure ())

private theorem quiet_logRow (options : DiagnosticOptions) (table : String) (row : Row) :
    Quiet (Run.logRow options table row : Run (Transcript σ) (Transcript τ) Unit) :=
  quiet_ite (quiet_log _ _) (quiet_pure ())

private theorem quiet_source (request : Request (Transcript σ) α) :
    Quiet (Run.onSource request : Run (Transcript σ) (Transcript τ) α) :=
  fun _ _ => .onSource (fun _ _ told _ => told) fun _ _ told _ => told

private theorem quiet_target (entry : Outcome α → Entry) (request : Request τ α)
    (other : ∀ answer, (entry answer).insertAnswer? = none) :
    Quiet (Run.onTarget (Database.entering entry request) :
      Run (Transcript σ) (Transcript τ) α) := by
  refine fun events answers => .of_state fun s ⟨told, answered⟩ => ⟨told, ?_⟩
  refine (Entry.insertAnswers_quiet _ fun e member => ?_).trans answered
  rw [List.mem_singleton.mp member]
  exact other _

private theorem notify_tells {events : List Event} {answers : List (Outcome Nat)} (event : Event)
    {F : Failure → RunState (Transcript σ) (Transcript τ) → Prop} :
    Run.Triple (Heard events answers) (Run.notify event) (fun _ => Heard (events ++ [event]) answers)
      F := by
  intro s ⟨told, answered⟩
  refine ⟨?_, answered⟩
  change (s.journal.events.push event).toList = _
  rw [Array.toList_push, told]

variable {sides : Sides σ τ} {options : Options} {plan : TablePlan}

private theorem quiet_load (options : DiagnosticOptions) :
    Quiet (SchemaPair.load sides.transcribed options) := by
  have built {rows : Run (Transcript σ) (Transcript τ) (List SchemaRow)} {flavor : Flavor}
      (quiet : Quiet rows) (label : String) :
      Quiet ((SchemaPair.build rows flavor).within label) :=
    (quiet.bind fun _ => (quiet_ofOutcome _).bind fun schema =>
      (quiet_log _ _).bind fun _ => quiet_pure schema).within label
  refine Quiet.bind (built (quiet_source _) _) fun source => ?_
  refine Quiet.bind (built (quiet_target _ _ fun _ => rfl) _) fun target => ?_
  refine Quiet.bind (quiet_ite ?_ (quiet_pure ())) fun _ => quiet_pure _
  exact (quiet_logAll _).bind fun _ => quiet_ite (quiet_throw _) (quiet_pure ())

/-- Since those notifications and answers some rows were offered, whose inserts were answered and
told of. -/
private def Offered (interval : Nat) (table : String) (events : List Event)
    (answers more : List (Outcome Nat)) (s : RunState (Transcript σ) (Transcript τ)) : Prop :=
  Heard (events ++ progress interval table (more.countP Tally.inserts)) (answers ++ more) s

section Copying

variable {events : List Event} {answers : List (Outcome Nat)}

private def Counting (options : Options) (plan : TablePlan) (events : List Event)
    (answers : List (Outcome Nat)) (tally : Tally)
    (s : RunState (Transcript σ) (Transcript τ)) : Prop :=
  ∃ more, tally = Tally.counting {} more ∧
    Offered options.migration.progressInterval plan.source.name events answers more s

private def Broken (options : Options) (plan : TablePlan) (events : List Event)
    (answers : List (Outcome Nat)) (_ : Failure)
    (s : RunState (Transcript σ) (Transcript τ)) : Prop :=
  ∃ more, Offered options.migration.progressInterval plan.source.name events answers more s

private theorem Quiet.counting {run : Run (Transcript σ) (Transcript τ) α} (quiet : Quiet run)
    (tally : Tally) :
    Run.Triple (Counting options plan events answers tally) run
      (fun _ => Counting options plan events answers tally)
      (Broken options plan events answers) := by
  rintro s ⟨more, counted, offered⟩
  exact (quiet _ _).mono (fun _ told => told) (fun _ _ told => ⟨more, counted, told⟩)
    (fun _ _ told => ⟨more, told⟩) s offered

private theorem insertCounted_counting (insert : insertsRow plan.insertSql = true) (tally : Tally)
    (row : Row) :
    Run.Triple (Counting options plan events answers tally)
      (insertCounted sides.transcribed options plan tally row)
      (Counting options plan events answers) (Broken options plan events answers) := by
  rintro s ⟨more, rfl, told, answered⟩
  obtain ⟨journal, ran, added⟩ :=
    insertCounted_apply sides.transcribed options plan (Tally.counting {} more) row s
  rw [ran]
  let asked := sides.transcribed.target.execute plan.insertSql row s.target
  have entered : asked.2.entries = s.target.entries ++ [.execute plan.insertSql row asked.1] := rfl
  have inserted (answers : List (Outcome Nat)) :
      (Tally.counting {} answers).inserted = answers.countP Tally.inserts := Nat.zero_add _
  refine ⟨more ++ [asked.1], Tally.counting_counting _ _ _, ?_, ?_⟩
  · rw [added, told, List.append_assoc, ← inserted more, ← progress_counting,
      Tally.counting_counting, inserted]
  · have own : Entry.insertAnswers [.execute plan.insertSql row asked.1] = [asked.1] :=
      List.filterMap_cons_some (if_pos insert)
    rw [Answered, entered, Entry.insertAnswers_append, answered, own, List.append_assoc]

private theorem copyRow_counting (insert : insertsRow plan.insertSql = true) (probing : Bool)
    (tally : Tally) (row : Row) :
    Run.Triple (Counting options plan events answers tally)
      (copyRow sides.transcribed options plan probing tally row)
      (Counting options plan events answers) (Broken options plan events answers) := by
  have probed (row : Row) : Quiet (RowFlow.probe sides.transcribed plan options.diagnostics row) :=
    (quiet_logRow _ _ _).bind fun _ =>
      ((quiet_target _ _ fun _ => rfl).within _).bind fun _ => quiet_ofOutcome _
  have rest (row : Row) (present : Bool) :
      Run.Triple (Counting options plan events answers tally)
        (if present then pure tally
          else insertCounted sides.transcribed options plan tally row)
        (Counting options plan events answers) (Broken options plan events answers) :=
    .ite (fun _ => .pure fun _ counting => counting)
      fun _ => insertCounted_counting insert tally row
  unfold copyRow
  cases probing with
  | true => exact ((probed _).counting tally).bind (rest _)
  | false => exact ((quiet_pure false).counting tally).bind (rest _)

private theorem offered_nil {interval : Nat} {table : String}
    {s : RunState (Transcript σ) (Transcript τ)} (told : Heard events answers s) :
    Offered interval table events answers [] s := by
  rw [Offered, progress, List.countP_nil, Nat.zero_div, List.range_zero, List.map_nil,
    List.append_nil, List.append_nil]
  exact told

private theorem Quiet.starting {run : Run (Transcript σ) (Transcript τ) α} (quiet : Quiet run) :
    Run.Triple (Heard events answers) run (fun _ => Heard events answers)
      (Broken options plan events answers) :=
  (quiet _ _).mono (fun _ told => told) (fun _ _ told => told)
    fun _ _ told => ⟨[], offered_nil told⟩

private theorem copyRows_counting (insert : insertsRow plan.insertSql = true) (probing : Bool)
    (sql : String) (parameters : List Value) :
    Run.Triple (Heard events answers)
      (copyRows sides.transcribed options plan probing sql parameters)
      (Counting options plan events answers) (Broken options plan events answers) := by
  have opened : Quiet (RowFlow.openStream sides.transcribed options sql parameters) :=
    (quiet_logSql _ _).bind fun _ _ _ _ told => told
  refine opened.starting.bind fun stream => ?_
  refine .ite_bind (fun _ => (quiet_logSql _ _).starting) ?_
  have handled : Run.Triple (Heard events answers)
      (Run.foldList (copyRow sides.transcribed options plan probing) {} stream.batches.flatten)
      (Counting options plan events answers) (Broken options plan events answers) :=
    (Run.Triple.foldList (fun tally row _ => copyRow_counting insert probing tally row) {}).mono
      (fun _ told => ⟨[], rfl, offered_nil told⟩) (fun _ _ counting => counting)
      fun _ _ broken => broken
  have consumed : Run.Triple (Heard events answers)
      (RowFlow.consume plan (copyRow sides.transcribed options plan probing) {} stream)
      (fun read => Counting options plan events answers read.2)
      (Broken options plan events answers) :=
    handled.bind fun tally => (((quiet_ofOutcome _).within _).counting tally).bind fun _ =>
      .pure fun _ counting => counting
  exact consumed.bind fun ⟨count, tally⟩ =>
    ((quiet_log _ _).counting tally).bind fun _ => .pure fun _ counting => counting

private theorem copyByIdentity_counting (insert : insertsRow plan.insertSql = true) :
    Run.Triple (Heard events answers) (copyByIdentity sides.transcribed options plan)
      (Counting options plan events answers) (Broken options plan events answers) := by
  refine (quiet_logSql _ _).starting.bind fun _ => ?_
  refine ((quiet_target _ _ fun _ => rfl).within _).starting.bind fun rows => ?_
  exact .ite_bind (fun _ => (quiet_log _ _).starting) (copyRows_counting insert _ _ _)

private theorem copyByFullRow_counting (insert : insertsRow plan.insertSql = true) :
    Run.Triple (Heard events answers) (copyByFullRow sides.transcribed options plan)
      (Counting options plan events answers) (Broken options plan events answers) := by
  have limited : Quiet (checkLimit sides.transcribed options.migration plan) := by
    unfold checkLimit
    split
    · exact quiet_pure ()
    · exact ((quiet_source _).bind fun _ => quiet_ofOutcome _).bind fun rows =>
        quiet_ite (quiet_throw _) (quiet_pure ())
  exact limited.starting.bind fun _ => copyRows_counting insert _ _ _

private theorem copyTable_counting (insert : insertsRow plan.insertSql = true) :
    Run.Triple (Heard events answers) (copyTable sides.transcribed options plan)
      (Counting options plan events answers) (Broken options plan events answers) := by
  unfold copyTable
  split
  · exact .within (copyByIdentity_counting insert)
  · exact .within (copyByFullRow_counting insert)

private def Completed (options : MigrationOptions) (source target : Table) (events : List Event)
    (answers : List (Outcome Nat)) (result : TableMigration)
    (s : RunState (Transcript σ) (Transcript τ)) : Prop :=
  ∃ more, result.table = source.name ∧ result.tally.inserted = more.countP Tally.inserts ∧
    Heard (events ++ (copying options source target more ++
      [.finished source.name result.tally.inserted])) (answers ++ more) s

private def CutOff (options : MigrationOptions) (schema : Schema) (source : Table)
    (events : List Event) (answers : List (Outcome Nat)) (_ : Failure)
    (s : RunState (Transcript σ) (Transcript τ)) : Prop :=
  ∃ more block, CutBlock options schema source more block ∧
    Heard (events ++ block) (answers ++ more) s

variable {schema : Schema} {source target : Table}

/-- The part of a migration of a table that follows its emptying. -/
private def fill (sides : Sides σ τ) (options : Options) (source target : Table) :
    Run σ τ TableMigration := do
  let plan ← Run.reported (TablePlan.make sides.source.dialect sides.target.dialect source target)
  Run.logSql options.diagnostics plan.insertSql
  Run.notify (.started source.name)
  Run.log .debug s!"Migrating {source.name} with {plan.strategy.name} strategy"
  let tally ← copyTable sides options plan
  if 0 < tally.duplicate || 0 < tally.failed then Run.log .info (tallyLine source.name tally)
  Run.notify (.finished source.name tally.inserted)
  pure ⟨source.name, plan.strategy, tally⟩

private theorem Quiet.cutting {run : Run (Transcript σ) (Transcript τ) α} (quiet : Quiet run)
    {more : List (Outcome Nat)} {block : List Event}
    (cut : CutBlock options.migration schema source more block) :
    Run.Triple (Heard (events ++ block) (answers ++ more)) run
      (fun _ => Heard (events ++ block) (answers ++ more))
      (CutOff options.migration schema source events answers) :=
  (quiet _ _).mono (fun _ told => told) (fun _ _ told => told)
    fun _ _ told => ⟨more, block, cut, told⟩

/-- From the announcement of a table on its block grows with the answers to its inserts. -/
private theorem copyTable_tells (matched : schema.table source.key = .ok target)
    (insert : insertsRow plan.insertSql = true) (named : plan.source = source) :
    Run.Triple (Heard (events ++ copying options.migration source target []) (answers ++ []))
      (copyTable sides.transcribed options plan)
      (fun tally s => ∃ more, tally = Tally.counting {} more ∧
        Heard (events ++ copying options.migration source target more) (answers ++ more) s)
      (CutOff options.migration schema source events answers) := by
  have grown {more : List (Outcome Nat)} {s : RunState (Transcript σ) (Transcript τ)}
      (offered : Offered options.migration.progressInterval plan.source.name
        (events ++ copying options.migration source target []) (answers ++ []) more s) :
      Heard (events ++ copying options.migration source target more) (answers ++ more) s := by
    rw [Offered, named, List.append_nil] at offered
    rw [copying, progress, List.countP_nil, Nat.zero_div, List.range_zero, List.map_nil] at offered
    simpa [copying] using offered
  refine (copyTable_counting insert).mono (fun _ told => told) ?_ ?_
  · rintro tally s ⟨more, counted, offered⟩
    exact ⟨more, counted, grown offered⟩
  · rintro failure s ⟨more, offered⟩
    exact ⟨more, _, .uncopied matched more, grown offered⟩

private theorem fill_tells (matched : schema.table source.key = .ok target) :
    Run.Triple (Heard (events ++ emptying options.migration target) (answers ++ []))
      (fill sides.transcribed options source target)
      (Completed options.migration source target events answers)
      (CutOff options.migration schema source events answers) := by
  have planned : Run.Triple (Heard (events ++ emptying options.migration target) (answers ++ []))
      (Run.reported (TablePlan.make sides.source.dialect sides.target.dialect source target))
      (fun plan s => plan.Made sides.source.dialect sides.target.dialect source target ∧
        Heard (events ++ emptying options.migration target) (answers ++ []) s)
      (CutOff options.migration schema source events answers :
        Failure → RunState (Transcript σ) (Transcript τ) → Prop) :=
    ((quiet_logAll _).cutting (.unplanned matched)).bind fun _ =>
      .ofOutcome (fun plan made s told => ⟨TablePlan.make_ok made, told⟩)
        fun _ _ _ told => ⟨[], _, .unplanned matched, told⟩
  refine planned.bind fun plan => .given fun made => ?_
  refine ((quiet_logSql _ _).cutting (.unplanned matched)).bind fun _ => ?_
  have announced : events ++ emptying options.migration target ++ [.started source.name] =
      events ++ copying options.migration source target [] := by
    simp [copying, progress]
  refine (notify_tells _).bind fun _ => ?_
  rw [announced]
  refine ((quiet_log _ _).cutting (.uncopied matched [])).bind fun _ => ?_
  refine (copyTable_tells matched made.insertsRow made.source_eq).bind fun tally => ?_
  rintro s ⟨more, rfl, told⟩
  have closed : Run.Triple
      (Heard (events ++ copying options.migration source target more) (answers ++ more))
      (Run.notify (.finished source.name (Tally.counting {} more).inserted) >>= fun _ =>
        pure ⟨source.name, plan.strategy, Tally.counting {} more⟩)
      (Completed options.migration source target events answers)
      (CutOff options.migration schema source events answers :
        Failure → RunState (Transcript σ) (Transcript τ) → Prop) := by
    refine (notify_tells _).bind fun _ => .pure fun s told => ?_
    rw [List.append_assoc] at told
    exact ⟨more, rfl, Nat.zero_add _, told⟩
  exact Run.Triple.ite_bind (fun _ => (quiet_log _ _).cutting (.uncopied matched more)) closed
    s told

private theorem quiet_truncate (table : String) :
    Quiet (Run.onTarget (sides.transcribed.target.truncate table) :
      Run (Transcript σ) (Transcript τ) Unit) := by
  refine fun events answers => .of_state fun s ⟨told, answered⟩ => ⟨told, ?_⟩
  refine (Entry.insertAnswers_quiet _ fun e member => ?_).trans answered
  rw [List.mem_singleton.mp member, Entry.insertAnswer?, Dialect.insertsRow_truncateStatement]
  rfl

private theorem migrateTable_tells (matched : schema.table source.key = .ok target) :
    Run.Triple (Heard events answers) (migrateTable sides.transcribed options source target)
      (Completed options.migration source target events answers)
      (CutOff options.migration schema source events answers) := by
  have filled : Run.Triple (Heard (events ++ emptying options.migration target) (answers ++ []))
      (fill sides.transcribed options source target)
      (Completed options.migration source target events answers)
      (CutOff options.migration schema source events answers) := fill_tells matched
  change Run.Triple _ (if options.migration.truncateFirst then
    truncate sides.transcribed target.name >>= fun _ => fill sides.transcribed options source target
    else fill sides.transcribed options source target) _ _
  cases first : options.migration.truncateFirst with
  | false =>
    rw [emptying, first, List.append_nil] at filled
    simpa using filled
  | true =>
    rw [emptying, if_pos first, List.append_nil] at filled
    rw [if_pos rfl]
    have cut : CutBlock options.migration schema source [] [.willTruncate target.name] :=
      .unemptied matched first
    have quiet : Quiet ((Run.onTarget (sides.transcribed.target.truncate target.name) :
        Run (Transcript σ) (Transcript τ) Unit).within s!"failed truncating {target.name}") :=
      (quiet_truncate target.name).within _
    have emptied : Run.Triple (Heard (events ++ [.willTruncate target.name]) (answers ++ [])) _ _
        (CutOff options.migration schema source events answers) := quiet.cutting cut
    rw [List.append_nil] at emptied
    refine Run.Triple.bind ((notify_tells _).bind fun _ => emptied.bind fun _ => notify_tells _)
      fun _ => ?_
    rw [List.append_assoc]
    exact filled

private theorem migrateTables_tells (schema : Schema) (sources : List Table) :
    Run.Triple (Heard events answers)
      (Run.mapList (fun source => do
        let target ← Run.ofOutcome (schema.table source.key)
        migrateTable sides.transcribed options source target) sources)
      (fun done s => ∃ more blocks, Blocks options.migration schema sources more blocks (.ok done) ∧
        Heard (events ++ blocks) (answers ++ more) s)
      fun failure s => ∃ more blocks,
        Blocks options.migration schema sources more blocks (.error failure) ∧
        Heard (events ++ blocks) (answers ++ more) s := by
  induction sources generalizing events answers with
  | nil =>
    refine .pure fun s told => ⟨[], [], .done, ?_⟩
    rwa [List.append_nil, List.append_nil]
  | cons source sources ih =>
    have one : Run.Triple (Heard events answers)
        (Run.ofOutcome (schema.table source.key) >>= fun target =>
          migrateTable sides.transcribed options source target)
        (fun result s => ∃ target, schema.table source.key = .ok target ∧
          Completed options.migration source target events answers result s)
        (CutOff options.migration schema source events answers) := by
      refine Run.Triple.bind (Q := fun target s =>
        schema.table source.key = .ok target ∧ Heard events answers s) ?_
        fun target => .given fun matched => ?_
      · refine .ofOutcome (fun target matched s told => ⟨matched, told⟩)
          fun failure missing s told => ⟨[], [], .unmatched missing, ?_⟩
        rwa [List.append_nil, List.append_nil]
      · exact (migrateTable_tells matched).mono (fun _ told => told)
          (fun _ _ completed => ⟨target, matched, completed⟩) fun _ _ cut => cut
    refine Run.Triple.bind (one.mono (fun _ told => told) (fun _ _ completed => completed) ?_)
      fun result => ?_
    · rintro failure s ⟨more, block, cut, told⟩
      exact ⟨more, block, .cut failure cut, told⟩
    · rintro s ⟨target, matched, more, named, counted, told⟩
      -- the other blocks come behind this one, and so do their answers
      have joined {blocks : List Event} {later : List (Outcome Nat)}
          {s : RunState (Transcript σ) (Transcript τ)}
          (told : Heard (events ++ (copying options.migration source target more ++
              [.finished source.name result.tally.inserted]) ++ blocks)
            (answers ++ more ++ later) s) :
          Heard (events ++ (copying options.migration source target more ++
              .finished source.name result.tally.inserted :: blocks))
            (answers ++ (more ++ later)) s := by
        simpa using told
      have others := (@ih _ (answers ++ more)).mono
        (fun _ told => told)
        (fun done s ⟨later, blocks, grammar, told⟩ =>
          (⟨_, _, .next result matched named counted grammar, joined told⟩ :
            ∃ more blocks, Blocks options.migration schema (source :: sources) more blocks
              ((Except.ok done).map (result :: ·)) ∧ Heard (events ++ blocks) (answers ++ more) s))
        (fun failure s ⟨later, blocks, grammar, told⟩ =>
          (⟨_, _, .next result matched named counted grammar, joined told⟩ :
            ∃ more blocks, Blocks options.migration schema (source :: sources) more blocks
              ((Except.error failure).map (result :: ·)) ∧
              Heard (events ++ blocks) (answers ++ more) s))
      exact (others.bind fun done => .pure fun _ told => told) s told

end Copying

section Bracket

variable {events : List Event} {pair : SchemaPair}

private def Ended (options : Options) (pair : SchemaPair) (events : List Event)
    (suspended : Outcome Unit) (outcome : Outcome Migration)
    (s : RunState (Transcript σ) (Transcript τ)) : Prop :=
  ∃ added, s.journal.events.toList = events ++ added ∧
    Notified options.migration pair suspended s.target.entries added outcome

private theorem with_databases {K : Transcript σ → Transcript τ → Prop} {f : Journal → Journal}
    {pre post : RunState (Transcript σ) (Transcript τ) → Prop}
    {fault fault' : Failure → RunState (Transcript σ) (Transcript τ) → Prop}
    (reported : Run.Triple pre (Run.report f) (fun _ => post) fault') :
    Run.Triple (fun s => K s.source s.target ∧ pre s) (Run.report f)
      (fun _ s => K s.source s.target ∧ post s) fault :=
  fun s ⟨here, holds⟩ => ⟨here, reported s holds⟩

private theorem suspend_tells (suspended : Outcome Unit) :
    Run.Triple (fun s => (sides.target.disableConstraints s.target.state).1 = suspended ∧
        Heard events [] s)
      (suspendConstraints sides.transcribed)
      (fun _ s => suspended = .ok () ∧
        Heard (events ++ [.willDisableConstraints, .didDisableConstraints]) [] s)
      (fun failure => Ended options pair events suspended (.error failure)) := by
  have quiet : Quiet (Run.onTarget sides.transcribed.target.disableConstraints :
      Run (Transcript σ) (Transcript τ) Unit) := quiet_target _ _ fun _ => rfl
  refine (with_databases (K := fun _ target =>
    (sides.target.disableConstraints target.state).1 = suspended)
    (notify_tells (F := fun _ _ => False) _)).bind fun _ => ?_
  refine Run.Triple.bind (Q := fun _ s => suspended = .ok () ∧
    Heard (events ++ [.willDisableConstraints]) [] s) (.within (.onTarget ?_ ?_)) fun _ => ?_
  · rintro s done ⟨asked, told⟩ accepted
    exact ⟨asked.symm.trans accepted, (quiet _ _).state told⟩
  · rintro s failure ⟨asked, told⟩ refused
    rw [show suspended = .error failure from asked.symm.trans refused]
    exact ⟨[.willDisableConstraints], ((quiet _ _).state told).1, .unsuspended _ _ _⟩
  · refine .given fun accepted s told => ⟨accepted, ?_⟩
    rw [List.append_cons]
    exact (notify_tells (F := fun _ => Heard _ _) .didDisableConstraints).state told

private theorem restore_tells {answers : List (Outcome Nat)}
    {fault : Failure → RunState (Transcript σ) (Transcript τ) → Prop} :
    Run.Triple (Heard events answers) (restoreConstraints sides.transcribed)
      (fun _ s => ∃ restored, s.target.entries.getLast? = some (.enableConstraints restored) ∧
        Heard (events ++ [.willEnableConstraints, restoredEvent restored]) answers s) fault := by
  have quiet : Quiet (Run.onTarget sides.transcribed.target.enableConstraints :
      Run (Transcript σ) (Transcript τ) Unit) := quiet_target _ _ fun _ => rfl
  have asked : Run.Triple (Heard (events ++ [.willEnableConstraints]) answers)
      (Run.onTarget sides.transcribed.target.enableConstraints).attempt
      (fun restored s => s.target.entries.getLast? = some (.enableConstraints restored) ∧
        Heard (events ++ [.willEnableConstraints]) answers s) fault :=
    fun s told => ⟨List.getLast?_concat, (quiet _ _).state told⟩
  have closing (restored : Outcome Unit) : Run.Triple
      (fun s : RunState (Transcript σ) (Transcript τ) =>
        s.target.entries.getLast? = some (.enableConstraints restored) ∧
          Heard (events ++ [.willEnableConstraints]) answers s)
      (Run.notify (restoredEvent restored))
      (fun _ s => ∃ restored, s.target.entries.getLast? = some (.enableConstraints restored) ∧
        Heard (events ++ [.willEnableConstraints, restoredEvent restored]) answers s) fault := by
    refine (with_databases (K := fun _ target =>
      target.entries.getLast? = some (.enableConstraints restored))
      (notify_tells (F := fun _ _ => False) _)).mono
      (fun _ held => held) ?_ fun _ _ impossible => impossible
    rintro _ s ⟨last, told⟩
    rw [List.append_assoc] at told
    exact ⟨restored, last, told⟩
  refine (notify_tells _).bind fun _ => asked.bind fun restored => ?_
  cases restored with
  | ok _ => exact closing (.ok ())
  | error failure =>
    exact (with_databases (K := fun _ target => target.entries.getLast? =
      some (.enableConstraints (.error failure))) (quiet_log _ _ _ _)).bind fun _ =>
        closing (.error failure)

private def migrateAll (sides : Sides σ τ) (options : Options) (pair : SchemaPair) :
    Run σ τ Migration := do
  suspendConstraints sides
  let outcome ← (migrateTables sides options pair).attempt
  restoreConstraints sides
  let tables ← Run.ofOutcome outcome
  let migration : Migration := ⟨tables⟩
  Run.log .info migration.doneLine
  pure migration

private theorem migrateAll_tells (suspended : Outcome Unit) :
    Run.Triple (fun s => (sides.target.disableConstraints s.target.state).1 = suspended ∧
        Heard events [] s)
      (migrateAll sides.transcribed options pair)
      (fun m => Ended options pair events suspended (.ok m))
      (fun failure => Ended options pair events suspended (.error failure)) := by
  refine (suspend_tells suspended).bind fun _ => .given fun accepted => ?_
  subst accepted
  let suspending : List Event := [.willDisableConstraints, .didDisableConstraints]
  have copied : Run.Triple (Heard (events ++ suspending) [])
      (migrateTables sides.transcribed options pair).attempt
      (fun outcome s => ∃ more blocks,
        Blocks options.migration pair.target pair.source.tables more blocks outcome ∧
        Heard (events ++ suspending ++ blocks) ([] ++ more) s)
      (fun failure => Ended options pair events (.ok ()) (.error failure)) :=
    .attempt (migrateTables_tells pair.target pair.source.tables)
  refine copied.bind fun outcome => ?_
  rintro s ⟨more, blocks, grammar, told⟩
  refine (restore_tells.bind fun _ => ?_) s told
  rintro s ⟨restored, last, told, answered⟩
  have notified : Notified options.migration pair (.ok ()) s.target.entries
      (suspending ++ (blocks ++ [.willEnableConstraints, restoredEvent restored]))
      (outcome.map Migration.mk) :=
    .suspended (by rwa [answered]) restored last
  rw [List.append_assoc, List.append_assoc] at told
  cases outcome with
  | ok tables => exact ⟨_, told, notified⟩
  | error failure => exact ⟨_, told, notified⟩

end Bracket

end Telling

private theorem load_ordered {σ τ : Type} (sides : Sides σ τ) (options : DiagnosticOptions) :
    Run.Triple (fun _ => True) (SchemaPair.load sides options)
      (fun pair _ => Schema.Ordered pair.source.tables) fun _ _ => True := by
  have anything {α : Type} (run : Run σ τ α) :
      Run.Triple (fun _ => True) run (fun _ _ => True) fun _ _ => True :=
    .of_state fun _ _ => trivial
  have built : Run.Triple (fun _ => True)
      (SchemaPair.build (Run.onSource sides.source.schemaRows) sides.source.dialect.flavor)
      (fun schema _ => Schema.Ordered schema.tables)
      (fun _ _ => True : Failure → RunState σ τ → Prop) := by
    refine (anything _).bind fun rows => Run.Triple.bind (Q := fun schema _ =>
      Schema.Ordered schema.tables) ?_ fun schema => ?_
    · exact .ofOutcome (fun schema read _ _ => Schema.ordered_of_ofRows read)
        fun _ _ _ _ => trivial
    · exact (Run.Triple.log (fun _ _ ordered => ordered) _ _).bind fun _ =>
        .pure fun _ ordered => ordered
  refine (Run.Triple.within built).bind fun source s ordered => ?_
  refine Run.Triple.bind (anything _) (fun target => ?_) s trivial
  exact (anything _).bind fun _ => .pure fun _ _ => ordered

/-- Whatever the databases answer, the notifications of a migration follow the grammar, with the
tables of the source in the order of their keys. -/
theorem run_notifies {σ τ : Type} (sides : Sides σ τ) (options : Options) (s : RunState σ τ) :
    let ran := run sides.transcribed options s.transcribed
    (ran.1, ran.2.erased) = run sides options s ∧
    ∃ events, ran.2.journal.events.toList = s.journal.events.toList ++ events ∧
      match SchemaPair.load sides options.diagnostics s with
      | (.error failure, _) => ran.1 = .error failure ∧ events = []
      | (.ok pair, t) =>
        Schema.Ordered pair.source.tables ∧
          Notified options.migration pair (sides.target.disableConstraints t.target).1
            ran.2.target.entries events ran.1 := by
  intro ran
  refine ⟨Transcript.run_erased sides options s, ?_⟩
  have unchanged := Transcript.load_erased sides options.diagnostics s
  have loads : Quiet (SchemaPair.load sides.transcribed options.diagnostics) := quiet_load _
  have quiet := loads s.journal.events.toList [] s.transcribed ⟨rfl, rfl⟩
  rw [← unchanged]
  rcases loaded : SchemaPair.load sides.transcribed options.diagnostics s.transcribed with
    ⟨failure | pair, t⟩
  · rw [loaded] at quiet
    have ended : ran = (.error failure, t) := by
      change run sides.transcribed options s.transcribed = _
      rw [run, Run.bind_apply, loaded]
    rw [ended]
    exact ⟨[], quiet.1.trans (List.append_nil _).symm, rfl, rfl⟩
  · rw [loaded] at quiet unchanged
    have ordered : Schema.Ordered pair.source.tables :=
      (load_ordered sides options.diagnostics).success trivial (congrArg Prod.fst unchanged.symm)
    have ended : ran = migrateAll sides.transcribed options pair t := by
      change (SchemaPair.load sides.transcribed options.diagnostics >>=
        migrateAll sides.transcribed options) s.transcribed = _
      rw [Run.bind_apply, loaded]
    have told := @migrateAll_tells σ τ sides options s.journal.events.toList pair _ t ⟨rfl, quiet⟩
    rw [← ended] at told
    rcases ran with ⟨failure | m, u⟩
    · obtain ⟨added, events, notified⟩ := told
      exact ⟨added, events, ordered, notified⟩
    · obtain ⟨added, events, notified⟩ := told
      exact ⟨added, events, ordered, notified⟩

/-- Three users are told of by twos. -/
example :
    let users (rows : List Row) : MemoryStore :=
      { tables := [⟨"users", [⟨"id", "int", none⟩], rows⟩] }
    let options : Options := { migration := { truncateFirst := true, progressInterval := 2 } }
    let start : RunState MemoryStore MemoryStore :=
      ⟨users [[.int32 1], [.int32 2], [.int32 3]], users [[.int32 9]], {}⟩
    (run (Sides.inMemory {} {}) options start).2.journal.events.toList =
      [.willDisableConstraints, .didDisableConstraints, .willTruncate "users", .truncated "users",
        .started "users", .progress "users" 2, .finished "users" 3, .willEnableConstraints,
        .enabledConstraints] := by
  decide +kernel

end Migration

end RowSync
