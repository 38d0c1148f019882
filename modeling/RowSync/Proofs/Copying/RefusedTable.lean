import RowSync.Proofs.Copying.PlanText
import RowSync.Proofs.Schema.Description
import RowSync.Proofs.Sync.RelatedRuns

/-!
Tables that a migration refuses. The refusal comes after the table is emptied when it is to be
emptied at all, and before any of its rows is copied; and since the tables come in the order of
their keys, nothing that the run does for earlier ones reaches it.
-/

set_option autoImplicit false

namespace RowSync.Migration

section Tables

variable {settings settings' : MemorySettings} {options : Options}

private def Entered (options : MigrationOptions) (key : String)
    (before after : List MemoryTable) : Prop :=
  if options.truncateFirst then
    ∃ t ∈ before, Text.lower t.name = key ∧
      after = MemoryStore.updateFirst t.name MemoryStore.emptied before
  else after = before

/-- The failure refuses the table of that key only, and nothing was copied before. -/
private def RefusedAt (options : MigrationOptions) (key : String) (before : List MemoryTable)
    (failure : Failure) (s : RunState MemoryStore MemoryStore) : Prop :=
  ∀ table, failure.Refuses table →
    Text.lower table = key ∧ Entered options key before s.target.tables

private theorem refusedAt_of_unrefused {key : String} {before : List MemoryTable}
    {failure : Failure} {s : RunState MemoryStore MemoryStore} (unrefused : Unrefused failure s) :
    RefusedAt options.migration key before failure s :=
  fun table refused => absurd refused (unrefused table)

private theorem checkLimit_triple {plan : TablePlan} {before : List MemoryTable} :
    Run.Triple (fun s => Entered options.migration plan.source.key before s.target.tables)
      (checkLimit (.inMemory settings settings') options.migration plan) (fun _ _ => True)
      (RefusedAt options.migration plan.source.key before) := by
  unfold checkLimit
  split
  · exact .pure fun _ _ => trivial
  rename_i limit _
  have counted : Run.Triple
      (fun s => Entered options.migration plan.source.key before s.target.tables)
      (countSource (.inMemory settings settings') plan)
      (fun _ s => Entered options.migration plan.source.key before s.target.tables)
      (RefusedAt options.migration plan.source.key before) := by
    refine Run.Triple.bind
      (.onSource (fun s rows entered _ => entered) fun s failure _ failed => ?_)
      fun rows => .ofOutcome (fun _ _ _ entered => entered) fun failure failed s _ => ?_
    · obtain ⟨message, rfl⟩ := MemoryStore.query_error failed
      exact refusedAt_of_unrefused (unrefused_value message _)
    · unfold RowFlow.countIn RowFlow.orMissing at failed
      split at failed
      · cases failed
      · cases failed
        exact refusedAt_of_unrefused (unrefused_transfer _ _ s)
  refine counted.bind fun rows => .ite (fun _ => .throw fun s entered => ?_) fun _ =>
    .pure fun _ _ => trivial
  rintro table (⟨column, refused⟩ | ⟨rows, limit, refused⟩)
  · cases refused
  · cases refused
    exact ⟨rfl, entered⟩

private theorem copyTable_triple {plan : TablePlan} {before : List MemoryTable} :
    Run.Triple (fun s => Entered options.migration plan.source.key before s.target.tables)
      (copyTable (.inMemory settings settings') options plan) (fun _ _ => True)
      (RefusedAt options.migration plan.source.key before) := by
  unfold copyTable
  split
  · refine (within_unrefused _ neverRefuses_copyByIdentity).mono (fun _ _ => trivial)
      (fun _ _ _ => trivial) ?_
    exact fun failure s unrefused => refusedAt_of_unrefused unrefused
  · refine Run.Triple.within (checkLimit_triple.bind fun _ => ?_)
    refine (neverRefuses_copyRows _ _ _).mono (fun _ _ => trivial) (fun _ _ _ => trivial) ?_
    exact fun failure s unrefused => refusedAt_of_unrefused unrefused

private theorem truncate_apply (settings : MemorySettings) (name : String) (s : MemoryStore) :
    (MemoryStore.database settings).truncate name s =
      match s.table name with
      | .ok _ => (.ok (), (s.remember
          ((Dialect.plain settings.resolution).truncateStatement name)).setRows name [])
      | .error failure => (.error failure,
          s.remember ((Dialect.plain settings.resolution).truncateStatement name)) := by
  change (match MemoryStore.execute settings
    ((Dialect.plain settings.resolution).truncateStatement name) [] s with
    | (answer, s) => (answer.map fun _ => (), s)) = _
  rw [MemoryStore.execute_truncateStatement]
  cases s.table name with
  | ok t => rfl
  | error failure => rfl

private theorem truncate_triple {name key : String} {before : List MemoryTable}
    (first : options.migration.truncateFirst = true) (keyed : Text.lower name = key) :
    Run.Triple (fun s => s.target.tables = before)
      (truncate (.inMemory settings settings') name)
      (fun _ s => Entered options.migration key before s.target.tables)
      (RefusedAt options.migration key before) := by
  refine (Run.Triple.notify (fun _ _ same => same) _).bind fun _ => ?_
  refine Run.Triple.bind (.within ?_) fun _ => .notify (fun _ _ entered => entered) _
  refine .onTarget (fun s _ same ok => ?_) fun s failure _ failed => ?_
  · change ((MemoryStore.database settings').truncate name s.target).1 = _ at ok
    change Entered _ _ _ ((MemoryStore.database settings').truncate name s.target).2.tables
    rw [truncate_apply] at ok ⊢
    cases found : s.target.table name with
    | error failure =>
      rw [found] at ok
      cases ok
    | ok t =>
      obtain ⟨member, named⟩ := MemoryStore.table_ok found
      rw [Entered, if_pos first]
      refine ⟨t, same ▸ member, (Text.lower_eq_of_sameAscii named).trans keyed, ?_⟩
      rw [MemoryStore.updateFirst_congr named, ← same]
      rfl
  · change ((MemoryStore.database settings').truncate name s.target).1 = _ at failed
    rw [truncate_apply] at failed
    cases found : s.target.table name with
    | error failure' =>
      rw [found] at failed
      cases failed
      obtain ⟨message, rfl⟩ := MemoryStore.table_error found
      exact refusedAt_of_unrefused (unrefused_value message s)
    | ok t =>
      rw [found] at failed
      cases failed

private theorem migrateTable_triple {source target : Table} (paired : target.key = source.key)
    (before : List MemoryTable) :
    Run.Triple (fun s => s.target.tables = before)
      (migrateTable (.inMemory settings settings') options source target) (fun _ _ => True)
      (RefusedAt options.migration source.key before) := by
  have silent : Run.Silent fun s : RunState MemoryStore MemoryStore =>
      Entered options.migration source.key before s.target.tables := fun _ _ entered => entered
  have rest : Run.Triple (fun s => Entered options.migration source.key before s.target.tables)
      (do
        let plan ← Run.reported (TablePlan.make (Sides.inMemory settings settings').source.dialect
          (Sides.inMemory settings settings').target.dialect source target)
        Run.logSql options.diagnostics plan.insertSql
        Run.notify (.started source.name)
        Run.log .debug s!"Migrating {source.name} with {plan.strategy.name} strategy"
        let tally ← copyTable (.inMemory settings settings') options plan
        if 0 < tally.duplicate || 0 < tally.failed then
          Run.log .info (tallyLine source.name tally)
        Run.notify (.finished source.name tally.inserted)
        pure (⟨source.name, plan.strategy, tally⟩ : TableMigration)) (fun _ _ => True)
      (RefusedAt options.migration source.key before) := by
    have made : Run.Triple (fun s => Entered options.migration source.key before s.target.tables)
        (Run.reported (TablePlan.make (Sides.inMemory settings settings').source.dialect
          (Sides.inMemory settings settings').target.dialect source target))
        (fun plan s => plan.source = source ∧
          Entered options.migration source.key before s.target.tables)
        (RefusedAt options.migration source.key before) := by
      refine .reported silent (fun plan made s entered => ?_) fun failure failed s entered => ?_
      · exact ⟨(TablePlan.make_ok made).source_eq, entered⟩
      · obtain ⟨column, rfl⟩ := TablePlan.make_error failed
        rintro table (⟨column, refused⟩ | ⟨rows, limit, refused⟩)
        · cases refused
          exact ⟨paired, entered⟩
        · cases refused
    refine made.bind fun plan s ⟨planned, entered⟩ => ?_
    refine Run.Triple.bind (.logSql silent _ _) (fun _ => ?_) s entered
    refine (Run.Triple.notify silent _).bind fun _ => (Run.Triple.log silent _ _).bind fun _ => ?_
    have copied : Run.Triple
        (fun s => Entered options.migration plan.source.key before s.target.tables)
        (copyTable (.inMemory settings settings') options plan) (fun _ _ => True)
        (RefusedAt options.migration plan.source.key before) := copyTable_triple
    rw [planned] at copied
    refine copied.bind fun tally => .ite_bind (fun _ => .log silent_true _ _) ?_
    exact (Run.Triple.notify silent_true _).bind fun _ => .pure fun _ _ => trivial
  refine .ite (fun first => ?_) fun keeps => ?_
  · exact (truncate_triple first paired).bind fun _ => rest
  · refine rest.mono (fun s same => ?_) (fun _ _ _ => trivial) fun _ _ refused => refused
    rw [Entered, if_neg keeps]
    exact same

private def Writes (resolution : Value.TimeResolution) (target : Table) (sql : String) : Prop :=
  sql = (Dialect.plain resolution).truncateStatement target.name ∨
    ∃ pairs, sql = TablePlan.insertStatement (.plain resolution) target pairs

private theorem tablesNamed_execute {target : Table} {name sql : String}
    (behind : target.key < Text.lower name) (writes : Writes settings.resolution target sql)
    (parameters : List Value) (s : MemoryStore) :
    MemoryStore.tablesNamed name (MemoryStore.execute settings sql parameters s).2.tables =
      MemoryStore.tablesNamed name s.tables := by
  rcases writes with rfl | ⟨pairs, rfl⟩
  · exact MemoryStore.tablesNamed_execute_truncate settings.resolution (ne_of_lt behind)
  · obtain ⟨rest, words⟩ := TablePlan.insertStatement_toList settings.resolution target pairs
    exact MemoryStore.tablesNamed_execute_insert words behind

private theorem tablesNamed_migrateTable {source target : Table} {name : String}
    (behind : target.key < Text.lower name) (s : RunState MemoryStore MemoryStore) :
    MemoryStore.tablesNamed name
        (migrateTable (.inMemory settings settings') options source target s).2.target.tables =
      MemoryStore.tablesNamed name s.target.tables := by
  have keeps : RowFlow.Keeps
      (fun t => MemoryStore.tablesNamed name t.target.tables =
        MemoryStore.tablesNamed name s.target.tables)
      (.writing (Writes settings'.resolution target)) (.inMemory settings settings') := by
    refine ⟨fun _ _ same => same, fun _ _ _ _ same => same, fun _ _ _ _ _ same => same,
      fun _ _ _ _ same => same, fun t sql parameters writes same => ?_⟩
    exact (tablesNamed_execute behind writes parameters t.target).trans same
  exact keeps.migrateTable source target (fun _ => .inl rfl)
    (fun plan made => RowFlow.Talk.writing_admits
      (.inr ((TablePlan.make_ok made).statements.imp fun _ => And.right)) _ _) rfl

/-- Where the tables of a refused table's name stand, at the beginning and at the refusal. -/
private def Intact (options : MigrationOptions) (before : List MemoryTable) (failure : Failure)
    (s : RunState MemoryStore MemoryStore) : Prop :=
  ∀ table, failure.Refuses table → Entered options (Text.lower table)
    (MemoryStore.tablesNamed table before) (MemoryStore.tablesNamed table s.target.tables)

private theorem entered_tablesNamed {table : String} {before after : List MemoryTable}
    (entered : Entered options.migration (Text.lower table) before after) :
    Entered options.migration (Text.lower table) (MemoryStore.tablesNamed table before)
      (MemoryStore.tablesNamed table after) := by
  unfold Entered at entered ⊢
  split
  · rename_i first
    rw [if_pos first] at entered
    obtain ⟨t, member, named, rfl⟩ := entered
    refine ⟨t, ?_, named, MemoryStore.tablesNamed_updateFirst named fun _ => rfl⟩
    exact List.mem_filter.mpr ⟨member, by rw [named, beq_self_eq_true]⟩
  · rename_i keeps
    rw [if_neg keeps] at entered
    rw [entered]

private theorem mapList_cons_error {σ τ α β : Type} {step : α → Run σ τ β} {a : α} {l : List α}
    {s s' : RunState σ τ} {failure : Failure}
    (ran : Run.mapList step (a :: l) s = (.error failure, s')) :
    step a s = (.error failure, s') ∨
      ∃ b t, step a s = (.ok b, t) ∧ Run.mapList step l t = (.error failure, s') := by
  rw [Run.mapList, Run.bind_apply] at ran
  cases one : step a s with
  | mk outcome t =>
    rw [one] at ran
    cases outcome with
    | error failure' =>
      cases ran
      exact .inl rfl
    | ok b =>
      refine .inr ⟨b, t, rfl, ?_⟩
      simp only [Run.bind_apply] at ran
      cases others : Run.mapList step l t with
      | mk outcome' t' =>
        rw [others] at ran
        cases outcome' with
        | error failure' =>
          cases ran
          rfl
        | ok bs => cases ran

/-- The tables of a source schema come in increasing order, so none before a refused one has
written to it. -/
private theorem migrateTables_refused {schema : Schema} {sources : List Table}
    (ordered : Schema.Ordered sources) (table : String) {failure : Failure}
    (refused : failure.Refuses table) {s s' : RunState MemoryStore MemoryStore}
    (ran : Run.mapList (fun source => do
      let target ← Run.ofOutcome (schema.table source.key)
      migrateTable (.inMemory settings settings') options source target) sources s =
        (.error failure, s')) :
    (∃ source ∈ sources, Text.lower table = source.key) ∧
      Entered options.migration (Text.lower table)
        (MemoryStore.tablesNamed table s.target.tables)
        (MemoryStore.tablesNamed table s'.target.tables) := by
  induction sources generalizing s with
  | nil => cases ran
  | cons source sources ih =>
    obtain ⟨first, ordered⟩ := List.pairwise_cons.mp ordered
    have paired {target : Table} (found : schema.table source.key = .ok target) :
        target.key = source.key := by
      unfold Schema.table at found
      split at found
      · rename_i target' search
        cases found
        have keyed : target.key = Text.lower source.key := by simpa using List.find?_some search
        rw [keyed, Table.key, Text.lower_lower]
      · cases found
    rcases mapList_cons_error ran with here | ⟨result, t, one, others⟩
    · rw [Run.bind_apply] at here
      cases found : schema.table source.key with
      | error failure' =>
        -- A table that is not there is no refusal.
        rw [found] at here
        cases here
        unfold Schema.table at found
        split at found
        · cases found
        · cases found
          rcases refused with ⟨column, refused⟩ | ⟨rows, limit, refused⟩
          · cases refused
          · cases refused
      | ok target =>
        rw [found] at here
        have refusal := (migrateTable_triple (paired found) s.target.tables).error rfl here
        obtain ⟨keyed, entered⟩ := refusal table refused
        exact ⟨⟨source, List.mem_cons_self, keyed⟩, entered_tablesNamed (keyed ▸ entered)⟩
    · obtain ⟨⟨source', member, keyed⟩, entered⟩ := ih ordered others
      refine ⟨⟨source', List.mem_cons_of_mem source member, keyed⟩, ?_⟩
      rw [Run.bind_apply] at one
      cases found : schema.table source.key with
      | error failure' =>
        rw [found] at one
        cases one
      | ok target =>
        rw [found] at one
        -- The table refused later has a greater key than the one written to now.
        have behind : target.key < Text.lower table := by
          rw [paired found, keyed]
          exact first source' member
        have unchanged : MemoryStore.tablesNamed table t.target.tables =
            MemoryStore.tablesNamed table s.target.tables := by
          have moved :
              (migrateTable (.inMemory settings settings') options source target s).2 = t :=
            congrArg Prod.snd one
          rw [← moved]
          exact tablesNamed_migrateTable behind s
        rwa [unchanged] at entered

private theorem unrefused_schemaExtraction (message : String)
    (s : RunState MemoryStore MemoryStore) : Unrefused (.schemaExtraction message) s := by
  rintro table (⟨column, refused⟩ | ⟨rows, limit, refused⟩)
  · cases refused
  · cases refused

private theorem build_triple {before : List MemoryTable}
    {described : Run MemoryStore MemoryStore (List SchemaRow)} (flavor : Flavor)
    (asked : Run.Triple (fun s => s.target.tables = before) described
      (fun _ s => s.target.tables = before) Unrefused) :
    Run.Triple (fun s => s.target.tables = before) (SchemaPair.build described flavor)
      (fun schema s => Schema.Ordered schema.tables ∧ s.target.tables = before) Unrefused := by
  have read (rows : List SchemaRow) : Run.Triple (fun s => s.target.tables = before)
      (Run.ofOutcome (Schema.ofRows rows))
      (fun schema s => Schema.Ordered schema.tables ∧ s.target.tables = before) Unrefused := by
    refine .ofOutcome (fun schema read s same => ⟨?_, same⟩) fun failure failed s _ => ?_
    · exact Schema.ordered_of_ofRows read
    · obtain ⟨message, rfl⟩ := Schema.addRows_error failed
      exact unrefused_schemaExtraction message s
  refine asked.bind fun rows => (read rows).bind fun schema => ?_
  exact (Run.Triple.log (fun _ _ known => known) _ _).bind fun _ => .pure fun _ known => known

private theorem load_triple {before : List MemoryTable} :
    Run.Triple (fun s => s.target.tables = before)
      (SchemaPair.load (.inMemory settings settings') options.diagnostics)
      (fun pair s => Schema.Ordered pair.source.tables ∧ s.target.tables = before) Unrefused := by
  have sourceRows : Run.Triple (fun s => s.target.tables = before)
      (Run.onSource (MemoryStore.database settings).schemaRows)
      (fun _ s => s.target.tables = before) Unrefused := by
    refine .onSource (fun s _ same _ => same) fun s failure _ failed => ?_
    change (if settings.failSchema then _ else _) = _ at failed
    split at failed
    · cases failed
      exact unrefused_schemaExtraction _ s
    · cases failed
  have targetRows : Run.Triple (fun s => s.target.tables = before)
      (Run.onTarget (MemoryStore.database settings').schemaRows)
      (fun _ s => s.target.tables = before) Unrefused := by
    refine .onTarget (fun s _ same _ => same) fun s failure _ failed => ?_
    change (if settings'.failSchema then _ else _) = _ at failed
    split at failed
    · cases failed
      exact unrefused_schemaExtraction _ s
    · cases failed
  refine (within_unrefused _ (build_triple _ sourceRows)).bind fun source s ⟨ordered, same⟩ => ?_
  refine Run.Triple.bind (within_unrefused _ (build_triple _ targetRows)) (fun target => ?_) s same
  have dumped : Run.Triple (fun s => s.target.tables = before)
      (SchemaPair.dump options.diagnostics ⟨source, target⟩)
      (fun _ s => s.target.tables = before) Unrefused := by
    refine .ite (fun _ => ?_) fun _ => .pure fun _ same => same
    refine (Run.Triple.report (fun _ _ same => same) _).bind fun _ => ?_
    refine .ite (fun _ => .throw fun s _ => ?_) fun _ => .pure fun _ same => same
    rintro table (⟨column, refused⟩ | ⟨rows, limit, refused⟩)
    · cases refused
    · cases refused
  intro s known
  exact (dumped.bind fun _ => .pure fun _ same => ⟨ordered, same⟩) s known.2

end Tables

section Bracket

variable {settings settings' : MemorySettings} {options : Options} {before : List MemoryTable}

private theorem suspendConstraints_triple :
    Run.Triple (fun s => s.target.tables = before)
      (suspendConstraints (.inMemory settings settings')) (fun _ s => s.target.tables = before)
      (Intact options.migration before) := by
  have disabled : Run.Triple (fun s => s.target.tables = before)
      ((Run.onTarget (MemoryStore.database settings').disableConstraints).within
        "failed to disable constraints") (fun _ s => s.target.tables = before)
      (Intact options.migration before) :=
    .within (.onTarget (fun s _ same _ => same) fun s _ _ failed => by cases failed)
  refine (Run.Triple.notify (fun _ _ same => same) _).bind fun _ => disabled.bind fun _ => ?_
  exact .notify (fun _ _ same => same) _

private def Told (options : MigrationOptions) (before : List MemoryTable)
    (outcome : Outcome (List TableMigration)) (s : RunState MemoryStore MemoryStore) : Prop :=
  ∀ failure, outcome = .error failure → Intact options before failure s

private theorem migrateTables_triple {pair : SchemaPair}
    (ordered : Schema.Ordered pair.source.tables) :
    Run.Triple (fun s => s.target.tables = before)
      (migrateTables (.inMemory settings settings') options pair).attempt
      (Told options.migration before) (Intact options.migration before) := by
  refine .attempt fun s same => ?_
  subst same
  cases ran : migrateTables (.inMemory settings settings') options pair s with
  | mk outcome t =>
    cases outcome with
    | ok results =>
      intro failure failed
      cases failed
    | error failure =>
      intro failure' failed table refused
      cases failed
      exact (migrateTables_refused ordered table refused ran).2

private theorem restoreConstraints_triple (outcome : Outcome (List TableMigration)) :
    Run.Triple (Told options.migration before outcome)
      (restoreConstraints (.inMemory settings settings'))
      (fun _ => Told options.migration before outcome) (Intact options.migration before) := by
  have untouched (s : MemoryStore) :
      ((MemoryStore.database settings').enableConstraints s).2.tables = s.tables := by
    change (if settings'.failEnable then _ else _ : Outcome Unit × MemoryStore).2.tables = _
    split
    · rfl
    · rfl
  have kept (s : RunState MemoryStore MemoryStore)
      (told : Told options.migration before outcome s) :
      Told options.migration before outcome
        { s with target := ((MemoryStore.database settings').enableConstraints s.target).2 } := by
    intro failure failed table refused
    have entered := told failure failed table refused
    rwa [← untouched s.target] at entered
  have enabled : Run.Triple (Told options.migration before outcome)
      (Run.onTarget (MemoryStore.database settings').enableConstraints).attempt
      (fun _ => Told options.migration before outcome) (Intact options.migration before) :=
    .attempt (.onTarget (fun s _ told _ => kept s told) fun s _ told _ => kept s told)
  refine (Run.Triple.notify (fun _ _ told => told) _).bind fun _ => enabled.bind fun answer => ?_
  cases answer with
  | ok _ => exact .notify (fun _ _ told => told) _
  | error failure =>
    refine (Run.Triple.log (fun _ _ told => told) _ _).bind fun _ => ?_
    exact .notify (fun _ _ told => told) _

private theorem run_triple (before : List MemoryTable) :
    Run.Triple (fun s => s.target.tables = before) (run (.inMemory settings settings') options)
      (fun _ _ => True) (Intact options.migration before) := by
  have loaded : Run.Triple (fun s => s.target.tables = before)
      (SchemaPair.load (.inMemory settings settings') options.diagnostics)
      (fun pair s => Schema.Ordered pair.source.tables ∧ s.target.tables = before)
      (Intact options.migration before) :=
    load_triple.mono (fun _ same => same) (fun _ _ known => known)
      fun failure s unrefused table refused => absurd refused (unrefused table)
  refine loaded.bind fun pair s ⟨ordered, same⟩ => ?_
  refine (suspendConstraints_triple.bind fun _ => ?_) s same
  refine (migrateTables_triple ordered).bind fun outcome => ?_
  refine (restoreConstraints_triple outcome).bind fun _ => ?_
  have ended : Run.Triple (Told options.migration before outcome) (Run.ofOutcome outcome)
      (fun _ _ => True) (Intact options.migration before) :=
    .ofOutcome (fun _ _ _ _ => trivial) fun failure failed s told => told failure failed
  refine ended.bind fun tables => ?_
  exact (Run.Triple.log silent_true _ _).bind fun _ => .pure fun _ _ => trivial

end Bracket

/-- A migration that refuses a table leaves every table of that name in any case as it was, unless
tables are to be emptied first: then the refused table has lost its rows. -/
theorem tables_of_refused {settings settings' : MemorySettings} {options : Options}
    {s s' : RunState MemoryStore MemoryStore} {failure : Failure} {table : String}
    (ran : run (.inMemory settings settings') options s = (.error failure, s'))
    (refused : failure.Refuses table) :
    (options.migration.truncateFirst = false →
      MemoryStore.tablesNamed table s'.target.tables =
        MemoryStore.tablesNamed table s.target.tables) ∧
    (options.migration.truncateFirst = true →
      ∃ t ∈ MemoryStore.tablesNamed table s.target.tables,
        MemoryStore.tablesNamed table s'.target.tables =
          MemoryStore.updateFirst t.name MemoryStore.emptied
            (MemoryStore.tablesNamed table s.target.tables)) := by
  have entered := (run_triple s.target.tables).error rfl ran table refused
  unfold Entered at entered
  constructor
  · intro keeps
    rwa [if_neg (by simp [keeps])] at entered
  · intro first
    rw [if_pos first] at entered
    obtain ⟨t, member, -, emptied⟩ := entered
    exact ⟨t, member, emptied⟩

private def refusedSource : MemoryStore where
  tables := [⟨"notes", [⟨"line", "text", none⟩], [[.text "a"], [.text "b"]]⟩]

private def refusedTarget : MemoryStore where
  tables := [⟨"Notes", [⟨"Line", "text", none⟩], [[.text "old"]]⟩]

private def unpairedTarget : MemoryStore where
  tables := [⟨"Notes", [⟨"Mark", "text", none⟩], [[.text "old"]]⟩]

private def limited (truncateFirst : Bool) : Options :=
  { migration := { truncateFirst, fullRowProbeLimit? := some 1 } }

/-- Notes are two, one more than are compared, or they have no column for their lines. -/
theorem tables_of_refused_notes :
    (∃ s', run (.inMemory {} {}) (limited false) ⟨refusedSource, refusedTarget, {}⟩ =
        (.error (.context "failed migrating table without ids"
          (.fullRowLimitExceeded "notes" 2 1)), s') ∧
      MemoryStore.tablesNamed "notes" s'.target.tables = refusedTarget.tables) ∧
    ∃ s', run (.inMemory {} {}) (limited true) ⟨refusedSource, unpairedTarget, {}⟩ =
        (.error (.columnNotFound "Notes" "line"), s') ∧
      MemoryStore.tablesNamed "Notes" s'.target.tables =
        unpairedTarget.tables.map MemoryStore.emptied := by
  have tooMany : (run (.inMemory {} {}) (limited false) ⟨refusedSource, refusedTarget, {}⟩).1 =
      .error (.context "failed migrating table without ids"
        (.fullRowLimitExceeded "notes" 2 1)) := by
    decide +kernel
  have unpaired : (run (.inMemory {} {}) (limited true) ⟨refusedSource, unpairedTarget, {}⟩).1 =
      .error (.columnNotFound "Notes" "line") := by
    decide +kernel
  constructor
  · have kept := (tables_of_refused (Run.eq_of_outcome tooMany) (.inr ⟨2, 1, rfl⟩)).1 rfl
    exact ⟨_, Run.eq_of_outcome tooMany, kept.trans (by decide)⟩
  · obtain ⟨t, member, emptied⟩ :=
      (tables_of_refused (Run.eq_of_outcome unpaired) (.inl ⟨"line", rfl⟩)).2 rfl
    refine ⟨_, Run.eq_of_outcome unpaired, emptied.trans ?_⟩
    obtain rfl : t = ⟨"Notes", [⟨"Mark", "text", none⟩], [[.text "old"]]⟩ := by
      have listed : MemoryStore.tablesNamed "Notes" unpairedTarget.tables =
          [⟨"Notes", [⟨"Mark", "text", none⟩], [[.text "old"]]⟩] := by decide
      exact List.mem_singleton.mp (listed ▸ member)
    decide

/-- With tables emptied first, notes are lost for being too many as well as for want of a column. -/
theorem refused_notes_emptied :
    (∃ s', run (.inMemory {} {}) (limited true) ⟨refusedSource, refusedTarget, {}⟩ =
        (.error (.context "failed migrating table without ids"
          (.fullRowLimitExceeded "notes" 2 1)), s') ∧
      s'.target.rowsOf "Notes" = [] ∧ refusedTarget.rowsOf "Notes" = [[.text "old"]]) ∧
    ∃ s', run (.inMemory {} {}) (limited true) ⟨refusedSource, unpairedTarget, {}⟩ =
        (.error (.columnNotFound "Notes" "line"), s') ∧
      s'.target.rowsOf "Notes" = [] ∧ unpairedTarget.rowsOf "Notes" = [[.text "old"]] := by
  constructor
  · refine ⟨_, Run.eq_of_outcome (by decide +kernel), ?_, by decide⟩
    decide +kernel
  · refine ⟨_, Run.eq_of_outcome (by decide +kernel), ?_, by decide⟩
    decide +kernel

end RowSync.Migration
