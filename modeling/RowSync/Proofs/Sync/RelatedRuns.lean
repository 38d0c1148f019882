import RowSync.Proofs.Sync.Correspondence

/-!
Runs through tables and whole migrations on two pairs of databases that answer their statements
alike. How much of the answers may differ is said once, and every part of a run keeps to it.
-/

set_option autoImplicit false

namespace RowSync

variable {σ τ σ' τ' : Type}

/-- The texts of statements, by what they are for. -/
structure RowFlow.Talk where
  /-- Count the rows of the source. -/
  counts : String → Prop
  /-- Read the rows of the source. -/
  streams : String → Prop
  /-- Ask the destination. -/
  asks : String → Prop
  /-- Change the destination. -/
  writes : String → Prop

/-- All statements for reading, and those for writing. -/
def RowFlow.Talk.writing (writes : String → Prop) : Talk :=
  ⟨fun _ => True, fun _ => True, fun _ => True, writes⟩

/-- All statements of the plan are among those. -/
structure RowFlow.Talk.Admits (talk : Talk) (sourceDb targetDb : Dialect) (plan : TablePlan) :
    Prop where
  count : talk.counts (countStatement sourceDb plan.source)
  select : talk.streams plan.selectSql
  excluding : ∀ excluded, talk.streams (plan.excludingSql sourceDb excluded)
  ids : talk.asks (plan.targetIdsSql targetDb)
  probe : talk.asks plan.existsSql
  insert : talk.writes plan.insertSql

theorem RowFlow.Talk.writing_admits {writes : String → Prop} {plan : TablePlan}
    (inserts : writes plan.insertSql) (sourceDb targetDb : Dialect) :
    (writing writes).Admits sourceDb targetDb plan :=
  ⟨trivial, trivial, fun _ => trivial, trivial, trivial, inserts⟩

/-- The same tally, unless tallies are not looked at. -/
def Tally.Same (blind : Prop) (tally tally' : Tally) : Prop := blind ∨ tally = tally'

/-- What was done with the table differs in the tally at most. -/
structure TableMigration.Same (blind : Prop) (m m' : TableMigration) : Prop where
  table_eq : m.table = m'.table
  strategy_eq : m.strategy = m'.strategy
  tally_same : Tally.Same blind m.tally m'.tally

theorem TableMigration.Same.eq {m m' : TableMigration} (same : Same False m m') : m = m' := by
  obtain ⟨table, strategy, tally⟩ := m
  obtain ⟨rfl, rfl, impossible | rfl⟩ := same
  · exact impossible.elim
  · rfl

theorem TableMigration.eq_of_forall₂_same {blind : Prop} {l l' : List TableMigration}
    (same : List.Forall₂ (Same blind) l l') : blind ∨ l = l' := by
  by_cases blindly : blind
  · exact .inl blindly
  · refine .inr (List.forall₂_eq_eq_eq ▸ same.imp fun m m' one => ?_)
    exact Same.eq ⟨one.table_eq, one.strategy_eq, one.tally_same.imp_left blindly⟩

/-- The same rows, and outcomes that differ in their failures at most. -/
structure Stream.Rel (lax : Prop) (stream stream' : Stream) : Prop where
  batches_eq : stream.batches = stream'.batches
  outcomes : Outcome.Rel lax Eq stream.outcome stream'.outcome

/-- The databases answer alike while a run goes through the tables with those statements. Failures
of streams may differ when runs are compared laxly, and what is counted and reported when they are
compared blindly. -/
structure RowFlow.Related (lax blind : Prop) (R : RunState σ τ → RunState σ' τ' → Prop)
    (talk : RowFlow.Talk) (sides : Sides σ τ) (sides' : Sides σ' τ') : Prop where
  source_dialect : sides.source.dialect = sides'.source.dialect
  target_dialect : sides.target.dialect = sides'.target.dialect
  reports : ∀ f f' : Journal → Journal, (blind ∨ f = f') → ∀ s s', R s s' →
    R { s with journal := f s.journal } { s' with journal := f' s'.journal }
  source_query : ∀ sql parameters, talk.counts sql → Run.Corresponds R
    (Run.onSource (sides.source.query sql parameters))
    (Run.onSource (sides'.source.query sql parameters))
  open_stream : ∀ options sql parameters, talk.streams sql → Run.Relates lax R (Stream.Rel lax)
    (RowFlow.openStream sides options sql parameters)
    (RowFlow.openStream sides' options sql parameters)
  target_query : ∀ sql parameters, talk.asks sql → Run.Corresponds R
    (Run.onTarget (sides.target.query sql parameters))
    (Run.onTarget (sides'.target.query sql parameters))
  truncate : ∀ table, talk.writes (sides.target.dialect.truncateStatement table) →
    Run.Corresponds R (Run.onTarget (sides.target.truncate table))
      (Run.onTarget (sides'.target.truncate table))
  insert : ∀ options plan tally tally' row, talk.writes plan.insertSql →
    Tally.Same blind tally tally' → Run.Relates lax R (Tally.Same blind)
      (Migration.insertCounted sides options plan tally row)
      (Migration.insertCounted sides' options plan tally' row)

namespace RowFlow.Related

open Run (Relates Corresponds)

variable {lax blind : Prop} {R : RunState σ τ → RunState σ' τ' → Prop} {talk : Talk}
  {sides : Sides σ τ} {sides' : Sides σ' τ'} {options : Options} {plan : TablePlan}

section

variable (related : Related lax blind R talk sides sides')
include related

theorem reports_same : Run.Reports R :=
  fun f s s' states => ⟨rfl, related.reports f f (.inr rfl) s s' states⟩

theorem probe_corresponds (options : DiagnosticOptions) (row : Row)
    (asked : talk.asks plan.existsSql) :
    Corresponds R (probe sides plan options row) (probe sides' plan options row) := by
  refine (Corresponds.logRow related.reports_same _ _ _).bind fun _ => ?_
  exact ((related.target_query _ _ asked).within _).bind fun rows => .ofOutcome _

theorem copyRow_relates (probing : Bool) (row : Row) (asked : talk.asks plan.existsSql)
    (inserts : talk.writes plan.insertSql) {tally tally' : Tally}
    (same : Tally.Same blind tally tally') :
    Relates lax R (Tally.Same blind) (Migration.copyRow sides options plan probing tally row)
      (Migration.copyRow sides' options plan probing tally' row) := by
  unfold Migration.copyRow
  rw [related.target_dialect]
  have rest (row : Row) (present : Bool) : Relates lax R (Tally.Same blind)
      (if present then pure tally else Migration.insertCounted sides options plan tally row)
      (if present then pure tally' else Migration.insertCounted sides' options plan tally' row) := by
    cases present with
    | true => exact .pure same
    | false => exact related.insert options plan tally tally' row inserts same
  cases probing with
  | true => exact .bind_same (related.probe_corresponds _ _ asked) (rest _)
  | false => exact .bind_same (.pure false) (rest _)

theorem copyRows_relates (probing : Bool) {sql : String} (parameters : List Value)
    (reads : talk.streams sql) (asked : talk.asks plan.existsSql)
    (inserts : talk.writes plan.insertSql) :
    Relates lax R (Tally.Same blind)
      (Migration.copyRows sides options plan probing sql parameters)
      (Migration.copyRows sides' options plan probing sql parameters) := by
  refine (related.open_stream options sql parameters reads).bind fun stream stream' streams => ?_
  refine .ite_bind (fun _ => .logSql related.reports_same _ _) ?_
  have handled : Relates lax R (Tally.Same blind)
      (Run.foldList (Migration.copyRow sides options plan probing) {} stream.batches.flatten)
      (Run.foldList (Migration.copyRow sides' options plan probing) {} stream'.batches.flatten) := by
    rw [streams.batches_eq]
    exact .foldList (fun _ _ same row _ => related.copyRow_relates probing row asked inserts same)
      (.inr rfl)
  have consumed : Relates lax R (fun read read' => read.1 = read'.1 ∧ Tally.Same blind read.2 read'.2)
      (consume plan (Migration.copyRow sides options plan probing) {} stream)
      (consume plan (Migration.copyRow sides' options plan probing) {} stream') := by
    refine handled.bind fun tally tally' same => ?_
    refine ((Relates.ofOutcome streams.outcomes).within _).bind fun count count' equal => ?_
    exact .pure ⟨equal, same⟩
  refine consumed.bind ?_
  rintro ⟨count, tally⟩ ⟨_, tally'⟩ ⟨rfl, same⟩
  exact .bind_same (.log related.reports_same _ _) fun _ => .pure same

theorem copyByIdentity_relates (admits : talk.Admits sides.source.dialect sides.target.dialect plan) :
    Relates lax R (Tally.Same blind) (Migration.copyByIdentity sides options plan)
      (Migration.copyByIdentity sides' options plan) := by
  have stated (existing : List Value) :
      Migration.sourceStatement sides' options.migration plan existing =
        Migration.sourceStatement sides options.migration plan existing := by
    rw [Migration.sourceStatement, Migration.sourceStatement, related.source_dialect]
  have reads (existing : List Value) :
      talk.streams (Migration.sourceStatement sides options.migration plan existing).1 := by
    unfold Migration.sourceStatement
    split
    · exact admits.excluding _
    · exact admits.select
  unfold Migration.copyByIdentity
  rw [← related.target_dialect]
  refine .bind_same (.logSql related.reports_same _ _) fun _ => ?_
  refine .bind_same ((related.target_query _ _ admits.ids).within _) fun rows => ?_
  refine .ite_bind (fun _ => .log related.reports_same _ _) ?_
  rw [stated]
  exact related.copyRows_relates false _ (reads _) admits.probe admits.insert

theorem checkLimit_corresponds
    (counts : talk.counts (countStatement sides.source.dialect plan.source)) :
    Corresponds R (Migration.checkLimit sides options.migration plan)
      (Migration.checkLimit sides' options.migration plan) := by
  unfold Migration.checkLimit Migration.countSource
  rw [← related.source_dialect]
  split
  · exact .pure ()
  · refine ((related.source_query _ _ counts).bind fun _ => .ofOutcome _).bind fun rows => ?_
    exact .ite (fun _ => .throw _) (.pure ())

theorem copyTable_relates (admits : talk.Admits sides.source.dialect sides.target.dialect plan) :
    Relates lax R (Tally.Same blind) (Migration.copyTable sides options plan)
      (Migration.copyTable sides' options plan) := by
  unfold Migration.copyTable
  split
  · exact (related.copyByIdentity_relates admits).within _
  · refine .within _ (.bind_same (related.checkLimit_corresponds admits.count) fun _ => ?_)
    exact related.copyRows_relates true _ admits.select admits.probe admits.insert

theorem truncate_corresponds (table : String)
    (truncates : talk.writes (sides.target.dialect.truncateStatement table)) :
    Corresponds R (Migration.truncate sides table) (Migration.truncate sides' table) := by
  refine (Corresponds.notify related.reports_same _).bind fun _ => ?_
  exact ((related.truncate table truncates).within _).bind fun _ => .notify related.reports_same _

theorem closing_relates {tally tally' : Tally} (same : Tally.Same blind tally tally')
    (table : String) (strategy : Strategy) :
    Relates lax R (TableMigration.Same blind)
      (do
        if 0 < tally.duplicate || 0 < tally.failed then
          Run.log .info (Migration.tallyLine table tally)
        Run.notify (.finished table tally.inserted)
        pure (⟨table, strategy, tally⟩ : TableMigration))
      (do
        if 0 < tally'.duplicate || 0 < tally'.failed then
          Run.log .info (Migration.tallyLine table tally')
        Run.notify (.finished table tally'.inserted)
        pure (⟨table, strategy, tally'⟩ : TableMigration)) := by
  have ended : TableMigration.Same blind ⟨table, strategy, tally⟩ ⟨table, strategy, tally'⟩ :=
    ⟨rfl, rfl, same⟩
  rcases same with blindly | rfl
  · intro s s' states
    -- Both sides end in a state that differs in its reports only.
    refine ⟨?_, ?_⟩
    · split <;> split <;> exact .ok ended
    · split <;> split <;> exact related.reports (fun _ => _) (fun _ => _) (.inl blindly) s s' states
  · refine .ite_bind (fun _ => .log related.reports_same _ _) ?_
    exact .bind_same (.notify related.reports_same _) fun _ => .pure ended

theorem migrateTable_relates (source target : Table)
    (truncates : options.migration.truncateFirst = true →
      talk.writes (sides.target.dialect.truncateStatement target.name))
    (admits : ∀ plan, (TablePlan.make sides.source.dialect sides.target.dialect source target).1 =
      .ok plan → talk.Admits sides.source.dialect sides.target.dialect plan) :
    Relates lax R (TableMigration.Same blind) (Migration.migrateTable sides options source target)
      (Migration.migrateTable sides' options source target) := by
  unfold Migration.migrateTable
  refine .ite_bind (fun first => related.truncate_corresponds _ (truncates first)) ?_
  rw [← related.source_dialect, ← related.target_dialect]
  refine .reported_bind related.reports_same _ fun plan made => ?_
  refine .bind_same (.logSql related.reports_same _ _) fun _ => ?_
  refine .bind_same (.notify related.reports_same _) fun _ => ?_
  refine .bind_same (.log related.reports_same _ _) fun _ => ?_
  refine (related.copyTable_relates (admits plan made)).bind fun tally tally' same => ?_
  exact related.closing_relates same _ _

end

theorem migrateTables_relates
    (related : Related lax blind R (.writing fun _ => True) sides sides') (pair : SchemaPair) :
    Relates lax R (List.Forall₂ (TableMigration.Same blind))
      (Migration.migrateTables sides options pair)
      (Migration.migrateTables sides' options pair) := by
  refine .mapList fun source _ => .bind_same (.ofOutcome _) fun target => ?_
  exact related.migrateTable_relates source target (fun _ => trivial) fun _ _ =>
    Talk.writing_admits trivial _ _

end RowFlow.Related

/-- The databases answer alike while a run goes through the tables with those statements. -/
structure RowFlow.Alike (lax : Prop) (R : RunState σ τ → RunState σ' τ' → Prop)
    (talk : RowFlow.Talk) (sides : Sides σ τ) (sides' : Sides σ' τ') : Prop where
  source_dialect : sides.source.dialect = sides'.source.dialect
  target_dialect : sides.target.dialect = sides'.target.dialect
  reports : Run.Reports R
  source_query : ∀ sql parameters, talk.counts sql → Run.Corresponds R
    (Run.onSource (sides.source.query sql parameters))
    (Run.onSource (sides'.source.query sql parameters))
  open_stream : ∀ options sql parameters, talk.streams sql → Run.Relates lax R (Stream.Rel lax)
    (RowFlow.openStream sides options sql parameters)
    (RowFlow.openStream sides' options sql parameters)
  target_query : ∀ sql parameters, talk.asks sql → Run.Corresponds R
    (Run.onTarget (sides.target.query sql parameters))
    (Run.onTarget (sides'.target.query sql parameters))
  execute : ∀ sql parameters, talk.writes sql → Run.Corresponds R
    (Run.onTarget (sides.target.execute sql parameters))
    (Run.onTarget (sides'.target.execute sql parameters))

namespace RowFlow.Alike

variable {lax : Prop} {R : RunState σ τ → RunState σ' τ' → Prop} {talk : Talk}
  {sides : Sides σ τ} {sides' : Sides σ' τ'} {options : Options}

theorem openStream_relates {sql : String} {parameters : List Value}
    (both : Run.Corresponds R (openStream sides options sql parameters)
      (openStream sides' options sql parameters)) :
    Run.Relates lax R (Stream.Rel lax) (openStream sides options sql parameters)
      (openStream sides' options sql parameters) :=
  (Run.Relates.of_corresponds both).mono fun _ _ same => same ▸ ⟨rfl, .refl _ _⟩

theorem insertCounted_corresponds {plan : TablePlan} (reports : Run.Reports R) {row : Row}
    (inserts : Run.Corresponds R (Run.onTarget (sides.target.execute plan.insertSql row))
      (Run.onTarget (sides'.target.execute plan.insertSql row))) (tally : Tally) :
    Run.Corresponds R (Migration.insertCounted sides options plan tally row)
      (Migration.insertCounted sides' options plan tally row) := by
  have inserted : Run.Corresponds R (Migration.insert sides plan row)
      (Migration.insert sides' plan row) :=
    inserts.bind fun _ => .ite (fun _ => .throw _) (.pure ())
  refine inserted.attempt.bind fun outcome => ?_
  cases outcome with
  | ok _ => exact .ite_bind (fun _ => .notify reports _) (.pure _)
  | error failure =>
    refine .ite (fun _ => ?_) ?_
    · unfold Migration.countDuplicate
      split
      · exact (Run.Corresponds.log reports _ _).bind fun _ => .pure _
      · exact .pure _
    · refine (Run.Corresponds.log reports _ _).bind fun _ => ?_
      exact .ite_bind (fun _ => .log reports _ _) (.pure _)

theorem related (alike : Alike lax R talk sides sides') :
    Related lax False R talk sides sides' where
  source_dialect := alike.source_dialect
  target_dialect := alike.target_dialect
  reports := by
    rintro f _ (impossible | rfl) s s' states
    · exact impossible.elim
    · exact (alike.reports f s s' states).2
  source_query := alike.source_query
  open_stream := alike.open_stream
  target_query := alike.target_query
  truncate := by
    intro table truncates s s' states
    obtain ⟨same, states'⟩ := alike.execute _ [] truncates s s' states
    rw [alike.target_dialect] at same states'
    have answer : (sides.target.execute (sides'.target.dialect.truncateStatement table) []
        s.target).1 = (sides'.target.execute (sides'.target.dialect.truncateStatement table) []
        s'.target).1 := same
    rw [Run.onTarget, Run.onTarget, Database.truncate, Database.truncate, alike.target_dialect]
    exact ⟨congrArg (Except.map fun _ => ()) answer, states'⟩
  insert := by
    rintro options plan tally _ row inserts (impossible | rfl)
    · exact impossible.elim
    · exact (Run.Relates.of_corresponds (insertCounted_corresponds alike.reports
        (alike.execute _ _ inserts) tally)).mono fun _ _ same => .inr same

theorem migrateTable_relates (alike : Alike lax R talk sides sides') (source target : Table)
    (truncates : options.migration.truncateFirst = true →
      talk.writes (sides.target.dialect.truncateStatement target.name))
    (admits : ∀ plan, (TablePlan.make sides.source.dialect sides.target.dialect source target).1 =
      .ok plan → talk.Admits sides.source.dialect sides.target.dialect plan) :
    Run.Relates lax R Eq (Migration.migrateTable sides options source target)
      (Migration.migrateTable sides' options source target) :=
  (alike.related.migrateTable_relates source target truncates admits).mono fun _ _ same => same.eq

/-- Databases that answer all statements alike make runs through all tables correspond. -/
theorem migrateTables_corresponds (alike : Alike False R (.writing fun _ => True) sides sides')
    (pair : SchemaPair) :
    Run.Corresponds R (Migration.migrateTables sides options pair)
      (Migration.migrateTables sides' options pair) := by
  refine Run.Relates.corresponds ((alike.related.migrateTables_relates pair).mono fun _ _ same => ?_)
  exact (TableMigration.eq_of_forall₂_same same).resolve_left id

end RowFlow.Alike

/-- The requests of a run through the tables with those statements keep the invariant. -/
structure RowFlow.Keeps (inv : RunState σ τ → Prop) (talk : RowFlow.Talk) (sides : Sides σ τ) :
    Prop where
  reports : ∀ s journal, inv s → inv { s with journal }
  source_query : ∀ s sql parameters, talk.counts sql → inv s →
    inv { s with source := (sides.source.query sql parameters s.source).2 }
  stream : ∀ s sql parameters size, talk.streams sql → inv s →
    inv { s with source := (sides.source.stream sql parameters size s.source).2 }
  target_query : ∀ s sql parameters, talk.asks sql → inv s →
    inv { s with target := (sides.target.query sql parameters s.target).2 }
  execute : ∀ s sql parameters, talk.writes sql → inv s →
    inv { s with target := (sides.target.execute sql parameters s.target).2 }

namespace RowFlow.Keeps

variable {inv : RunState σ τ → Prop} {talk : Talk} {sides : Sides σ τ} {options : Options}

private theorem alike (keeps : Keeps inv talk sides) :
    Alike False (fun s s' => s = s' ∧ inv s) talk sides sides := by
  have reports : Run.Reports fun s s' : RunState σ τ => s = s' ∧ inv s := by
    rintro f s _ ⟨rfl, holds⟩
    exact ⟨rfl, rfl, keeps.reports s _ holds⟩
  refine ⟨rfl, rfl, reports, ?_, fun options sql parameters streams => ?_, ?_, ?_⟩
  · rintro sql parameters counts s _ ⟨rfl, holds⟩
    exact ⟨rfl, rfl, keeps.source_query s sql parameters counts holds⟩
  · refine Alike.openStream_relates ((Run.Corresponds.logSql reports _ _).bind fun _ => ?_)
    rintro s _ ⟨rfl, holds⟩
    exact ⟨rfl, rfl, keeps.stream s sql parameters _ streams holds⟩
  · rintro sql parameters asks s _ ⟨rfl, holds⟩
    exact ⟨rfl, rfl, keeps.target_query s sql parameters asks holds⟩
  · rintro sql parameters writes s _ ⟨rfl, holds⟩
    exact ⟨rfl, rfl, keeps.execute s sql parameters writes holds⟩

theorem migrateTable (keeps : Keeps inv talk sides) (source target : Table)
    (truncates : options.migration.truncateFirst = true →
      talk.writes (sides.target.dialect.truncateStatement target.name))
    (admits : ∀ plan, (TablePlan.make sides.source.dialect sides.target.dialect source target).1 =
      .ok plan → talk.Admits sides.source.dialect sides.target.dialect plan)
    {s : RunState σ τ} (holds : inv s) :
    inv (Migration.migrateTable sides options source target s).2 :=
  (keeps.alike.migrateTable_relates source target truncates admits s s ⟨rfl, holds⟩).2.2

end RowFlow.Keeps

namespace Migration

variable {R : RunState σ τ → RunState σ' τ' → Prop} {sides : Sides σ τ} {sides' : Sides σ' τ'}

theorem suspend_corresponds (reports : Run.Reports R)
    (disable : Run.Corresponds R (Run.onTarget sides.target.disableConstraints)
      (Run.onTarget sides'.target.disableConstraints)) :
    Run.Corresponds R (suspendConstraints sides) (suspendConstraints sides') := by
  refine (Run.Corresponds.notify reports _).bind fun _ => ?_
  exact (disable.within _).bind fun _ => .notify reports _

theorem restore_corresponds (reports : Run.Reports R)
    (enable : Run.Corresponds R (Run.onTarget sides.target.enableConstraints)
      (Run.onTarget sides'.target.enableConstraints)) :
    Run.Corresponds R (restoreConstraints sides) (restoreConstraints sides') := by
  refine (Run.Corresponds.notify reports _).bind fun _ => enable.attempt.bind fun answer => ?_
  cases answer with
  | ok _ => exact .notify reports _
  | error failure => exact (Run.Corresponds.log reports _ _).bind fun _ => .notify reports _

/-- Databases that answer all statements alike make whole migrations related. -/
theorem run_relates {lax blind : Prop} (loads : SchemaPair.Alike R sides sides')
    (copies : RowFlow.Related lax blind R (.writing fun _ => True) sides sides')
    (disable : Run.Corresponds R (Run.onTarget sides.target.disableConstraints)
      (Run.onTarget sides'.target.disableConstraints))
    (enable : Run.Corresponds R (Run.onTarget sides.target.enableConstraints)
      (Run.onTarget sides'.target.enableConstraints)) (options : Options) :
    Run.Relates lax R (fun m m' => List.Forall₂ (TableMigration.Same blind) m.tables m'.tables)
      (run sides options) (run sides' options) := by
  refine .bind_same (loads.load_corresponds options.diagnostics) fun pair => ?_
  refine .bind_same (suspend_corresponds loads.reports disable) fun _ => ?_
  refine (copies.migrateTables_relates pair).attempt_bind
    (restore_corresponds loads.reports enable) fun tables tables' same s s' states => ?_
  refine ⟨.ok same, copies.reports (·.log .info (doneLine ⟨tables⟩))
    (·.log .info (doneLine ⟨tables'⟩)) ?_ s s' states⟩
  exact (TableMigration.eq_of_forall₂_same same).imp_right fun equal => by rw [equal]

theorem run_corresponds (loads : SchemaPair.Alike R sides sides')
    (copies : RowFlow.Alike False R (.writing fun _ => True) sides sides')
    (disable : Run.Corresponds R (Run.onTarget sides.target.disableConstraints)
      (Run.onTarget sides'.target.disableConstraints))
    (enable : Run.Corresponds R (Run.onTarget sides.target.enableConstraints)
      (Run.onTarget sides'.target.enableConstraints)) (options : Options) :
    Run.Corresponds R (run sides options) (run sides' options) := by
  have both := run_relates loads copies.related disable enable options
  refine (both.mono fun m m' same => ?_).corresponds
  exact congrArg Migration.mk ((TableMigration.eq_of_forall₂_same same).resolve_left id)

end Migration

end RowSync
