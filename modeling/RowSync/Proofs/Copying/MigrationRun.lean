import RowSync.Proofs.Copying.TableRun
import RowSync.Proofs.Sync.Loading

/-!
A migration between two stores in memory goes through the source tables one after the other. Since
tables are told apart by their names, each table is migrated as if it were the only one.
-/

set_option autoImplicit false

namespace RowSync

namespace Migration

variable {sourceSettings settings : MemorySettings} {options : Options}
  {source target target' : List MemoryTable} {tables : List MemoryTable}

/-- The outcome of migrating source tables one after the other, and the tables that the destination
has then. -/
def migratedAll (settings : MemorySettings) (options : MigrationOptions) :
    List MemoryTable → List MemoryTable → Outcome (List TableMigration) × List MemoryTable
  | target, [] => (.ok [], target)
  | target, m :: rest =>
    match m.partner? target with
    | none => (.error (.tableNotFound m.described.key), target)
    | some t =>
      let copy : TableCopy := ⟨settings, m, t⟩
      let after := copy.tablesWith target (copy.migratedRows options)
      match copy.migrated options with
      | .error failure => (.error failure, after)
      | .ok result =>
        ((migratedAll settings options after rest).1.map (result :: ·),
          (migratedAll settings options after rest).2)

private theorem migrateTables_yields {schema : Schema}
    (source_wellFormed : ∀ m ∈ tables, m.WellFormed ∧ m.columns ≠ [] ∧ m.StoredIn source)
    (wellNamed : MemoryStore.WellNamed target) (describes : schema.Describes target) :
    (Run.mapList (fun source => do
        let target ← Run.ofOutcome (schema.table source.key)
        migrateTable (.inMemory sourceSettings settings) options source target)
      (tables.map MemoryTable.described)).Yields source target
      (migratedAll settings options.migration target tables).1
      (migratedAll settings options.migration target tables).2 := by
  -- By induction on the tables, for any destination, since each turn leaves another one.
  induction tables generalizing target with
  | nil => exact .pure []
  | cons m rest ih =>
    obtain ⟨wellFormed, some, stored⟩ := source_wellFormed m List.mem_cons_self
    have outcome := describes.table_eq wellNamed.named wellFormed.name_plain
    have looked {answer : Outcome Table} (answered : schema.table m.described.key = answer) :
        (Run.ofOutcome (schema.table m.described.key) :
          Run MemoryStore MemoryStore Table).Yields source target answer target :=
      answered ▸ .ofOutcome _
    rw [List.map_cons, Run.mapList, migratedAll]
    cases found : m.partner? target with
    | none =>
      rw [found] at outcome
      exact .bind_error (.bind_error (looked outcome))
    | some t =>
      rw [found] at outcome
      obtain ⟨member, -, -⟩ := MemoryTable.partner?_eq_some found
      let copy : TableCopy := ⟨settings, m, t⟩
      have ready : copy.Ready source target :=
        ⟨wellFormed, wellNamed.tables_wellNamed t member, some, stored,
          wellNamed.names_distinct, member⟩
      have migrated := Run.Yields.bind_ok (looked outcome)
        (TableCopy.migrateTable_yields ready sourceSettings options)
      have rest_yields := ih (fun m' member => source_wellFormed m' (List.mem_cons_of_mem m member))
        (wellNamed.putRows t.name (copy.migratedRows options.migration))
        (describes.putRows t.name (copy.migratedRows options.migration))
      dsimp only
      cases done : copy.migrated options.migration with
      | error failure =>
        rw [done] at migrated
        exact .bind_error migrated
      | ok result =>
        rw [done] at migrated
        refine .bind_ok migrated ?_
        change Run.Yields _ _ (MemoryStore.putRows t.name _ target) (Except.map _ (migratedAll _ _
          (MemoryStore.putRows t.name _ target) rest).1) _
        cases others : (migratedAll settings options.migration (MemoryStore.putRows t.name
            (copy.migratedRows options.migration) target) rest).1 with
        | error failure =>
          rw [others] at rest_yields
          exact .bind_error rest_yields
        | ok results =>
          rw [others] at rest_yields
          exact .bind_ok rest_yields (.pure _)

private theorem suspendConstraints_yields :
    (suspendConstraints (.inMemory sourceSettings settings)).Yields source target (.ok ())
      target := by
  have suspended : (Run.onTarget (MemoryStore.database settings).disableConstraints :
      Run MemoryStore MemoryStore Unit).Yields source target (.ok ()) target :=
    .onTarget fun _ tables => ⟨rfl, tables⟩
  exact .bind_ok (.notify _) (.bind_ok (suspended.within _) (.notify _))

private theorem restoreConstraints_yields :
    (restoreConstraints (.inMemory sourceSettings settings)).Yields source target (.ok ())
      target := by
  have restored : (Run.onTarget (MemoryStore.database settings).enableConstraints :
      Run MemoryStore MemoryStore Unit).Yields source target
      (if settings.failEnable then .error (.value "simulated enable failure") else .ok ())
      target := by
    refine .onTarget fun s tables => ?_
    simp only [MemoryStore.database]
    split
    · exact ⟨rfl, tables⟩
    · exact ⟨rfl, tables⟩
  refine .bind_ok (.notify _) (.bind_ok restored.attempt ?_)
  split
  · exact .notify _
  · exact .bind_ok (.log _ _) (.notify _)

/-- A run that has its route leads to what migrating the tables one after the other leads to. -/
theorem run_yields {s : MemoryStore} (wellFormed : s.WellFormed)
    (wellNamed : MemoryStore.WellNamed target)
    (route : Route sourceSettings settings options.diagnostics s.tables target tables) :
    (run (.inMemory sourceSettings settings) options).Yields s.tables target
      ((migratedAll settings options.migration target tables).1.map Migration.mk)
      (migratedAll settings options.migration target tables).2 := by
  obtain ⟨pair, loaded, ordered⟩ := route.loaded
  have describes := (SchemaPair.describes_of_loaded wellFormed.wellNamed.named wellNamed.named loaded).2
  have sources : ∀ m ∈ tables, m.WellFormed ∧ m.columns ≠ [] ∧ m.StoredIn s.tables := by
    intro m member
    obtain ⟨here, some⟩ := (route.mem_iff m).mp member
    exact ⟨wellFormed.tables_wellFormed m here, some, wellFormed.names_distinct, here⟩
  have read : (SchemaPair.load (.inMemory sourceSettings settings) options.diagnostics).Yields
      s.tables target (.ok pair) target := loaded ▸ SchemaPair.load_yields
  have migrated : (migrateTables (.inMemory sourceSettings settings) options pair).Yields s.tables
      target (migratedAll settings options.migration target tables).1
      (migratedAll settings options.migration target tables).2 := by
    unfold migrateTables
    rw [ordered]
    exact migrateTables_yields sources wellNamed describes
  refine .bind_ok read (.bind_ok suspendConstraints_yields (.bind_ok migrated.attempt
    (.bind_ok restoreConstraints_yields ?_)))
  cases (migratedAll settings options.migration target tables).1 with
  | error failure => exact .bind_error (.ofOutcome (.error failure))
  | ok results => exact .bind_ok (.ofOutcome (.ok results)) (.bind_ok (.log _ _) (.pure _))

theorem exists_route_of_run_eq_ok {s s' : RunState MemoryStore MemoryStore} {m : Migration}
    (source_wellFormed : s.source.WellFormed) (target_wellFormed : s.target.WellFormed)
    (ran : run (.inMemory sourceSettings settings) options s = (.ok m, s')) :
    ∃ tables,
      Route sourceSettings settings options.diagnostics s.source.tables s.target.tables tables ∧
      migratedAll settings options.migration s.target.tables tables =
        (.ok m.tables, s'.target.tables) ∧ s'.source.tables = s.source.tables := by
  cases loaded : SchemaPair.loaded sourceSettings settings options.diagnostics s.source.tables
      s.target.tables with
  | error failure =>
    have read : (SchemaPair.load (.inMemory sourceSettings settings) options.diagnostics).Yields
        s.source.tables s.target.tables (.error failure) s.target.tables :=
      loaded ▸ SchemaPair.load_yields
    have failed : (run (.inMemory sourceSettings settings) options).Yields s.source.tables
        s.target.tables (.error failure) s.target.tables := .bind_error read
    obtain ⟨outcome, -⟩ := failed s rfl rfl
    rw [ran] at outcome
    cases outcome
  | ok pair =>
    obtain ⟨tables, route⟩ := exists_route source_wellFormed.wellNamed.named
      target_wellFormed.wellNamed.named loaded
    obtain ⟨outcome, source_eq, target_eq⟩ :=
      run_yields source_wellFormed target_wellFormed.wellNamed route s rfl rfl
    rw [ran] at outcome source_eq target_eq
    refine ⟨tables, route, ?_, source_eq⟩
    cases done : migratedAll settings options.migration s.target.tables tables with
    | mk results final =>
      rw [done] at outcome target_eq
      cases results with
      | error failure => cases outcome
      | ok results =>
        cases outcome
        exact Prod.ext rfl target_eq.symm

theorem migratedAll_preserves {P : List MemoryTable → Prop}
    (preserved : ∀ tables name rows, P tables → P (MemoryStore.putRows name rows tables))
    {options : MigrationOptions} {outcome : Outcome (List TableMigration)}
    (done : migratedAll settings options target tables = (outcome, target')) (start : P target) :
    P target' := by
  induction tables generalizing target outcome with
  | nil =>
    cases done
    exact start
  | cons m rest ih =>
    rw [migratedAll] at done
    cases found : m.partner? target with
    | none =>
      rw [found] at done
      cases done
      exact start
    | some t =>
      rw [found] at done
      let copy : TableCopy := ⟨settings, m, t⟩
      have after := preserved target t.name (copy.migratedRows options) start
      dsimp only at done
      cases first : copy.migrated options with
      | error failure =>
        rw [first] at done
        cases done
        exact after
      | ok result =>
        rw [first] at done
        cases done
        exact ih rfl after

/-- A source table, its partner and the result of their migration: the table was migrated as if it
were the only one. -/
structure Paired (settings : MemorySettings) (options : MigrationOptions)
    (target target' : List MemoryTable) (m t : MemoryTable) (result : TableMigration) : Prop where
  stored : t.StoredIn target
  same : Text.sameAscii t.name m.name = true
  some : t.columns ≠ []
  admitted : (⟨settings, m, t⟩ : TableCopy).admission options = .ok ()
  result_eq : result = ⟨m.name, (⟨settings, m, t⟩ : TableCopy).strategy,
    ((⟨settings, m, t⟩ : TableCopy).finished options).tally⟩
  left : MemoryTable.StoredIn
    { t with rows := ((⟨settings, m, t⟩ : TableCopy).finished options).rows } target'

private theorem mem_migratedAll (settings : MemorySettings) (options : MigrationOptions)
    {t : MemoryTable} (member : t ∈ target)
    (apart : ∀ m ∈ tables, Text.sameAscii t.name m.name = false) :
    t ∈ (migratedAll settings options target tables).2 := by
  induction tables generalizing target with
  | nil => exact member
  | cons m rest ih =>
    rw [migratedAll]
    cases found : m.partner? target with
    | none => exact member
    | some u =>
      have other : Text.sameAscii t.name u.name = false := by
        have same := (MemoryTable.partner?_eq_some found).2.1
        rw [Text.sameAscii, Text.sameAscii_iff.mp same]
        exact apart m List.mem_cons_self
      have after : t ∈ (⟨settings, m, u⟩ : TableCopy).tablesWith target
          ((⟨settings, m, u⟩ : TableCopy).migratedRows options) :=
        MemoryStore.mem_putRows_of_other member other
      dsimp only
      cases (⟨settings, m, u⟩ : TableCopy).migrated options with
      | error failure => exact after
      | ok result =>
        exact ih after fun m' here => apart m' (List.mem_cons_of_mem m here)

theorem migratedAll_cons_of_admission {options : MigrationOptions} {m t : MemoryTable}
    {results : List TableMigration} (found : m.partner? target = some t)
    (admitted : (⟨settings, m, t⟩ : TableCopy).admission options = .ok ())
    (others : migratedAll settings options (MemoryStore.putRows t.name
      ((⟨settings, m, t⟩ : TableCopy).finished options).rows target) tables =
        (.ok results, target')) :
    migratedAll settings options target (m :: tables) =
      (.ok (⟨m.name, (⟨settings, m, t⟩ : TableCopy).strategy,
        ((⟨settings, m, t⟩ : TableCopy).finished options).tally⟩ :: results), target') := by
  obtain ⟨done, rows⟩ := TableCopy.migrated_of_admission admitted
  rw [migratedAll, found]
  simp only [done, rows, TableCopy.tablesWith, others]
  rfl

theorem migratedAll_cons_eq_ok {options : MigrationOptions} {m : MemoryTable}
    {results : List TableMigration}
    (success : migratedAll settings options target (m :: tables) = (.ok results, target')) :
    ∃ t result more, m.partner? target = some t ∧
      (⟨settings, m, t⟩ : TableCopy).migrated options = .ok result ∧ results = result :: more ∧
      migratedAll settings options (MemoryStore.putRows t.name
        ((⟨settings, m, t⟩ : TableCopy).migratedRows options) target) tables =
          (.ok more, target') := by
  rw [migratedAll] at success
  cases found : m.partner? target with
  | none =>
    rw [found] at success
    cases success
  | some t =>
    rw [found] at success
    dsimp only at success
    cases done : (⟨settings, m, t⟩ : TableCopy).migrated options with
    | error failure =>
      rw [done] at success
      cases success
    | ok result =>
      rw [done] at success
      cases others : migratedAll settings options (MemoryStore.putRows t.name
          ((⟨settings, m, t⟩ : TableCopy).migratedRows options) target) tables with
      | mk outcome final =>
        simp only [TableCopy.tablesWith, others, Prod.mk.injEq] at success
        obtain ⟨listed, rfl⟩ := success
        cases outcome with
        | error failure => cases listed
        | ok more => exact ⟨t, result, more, rfl, done, (Except.ok.inj listed).symm, others⟩

/-- In a migration that succeeds every source table was migrated from its partner. -/
theorem paired_of_migratedAll {options : MigrationOptions} {results : List TableMigration}
    (names_distinct : (target.map MemoryTable.key).Nodup)
    (distinct : (tables.map MemoryTable.key).Nodup)
    (success : migratedAll settings options target tables = (.ok results, target')) :
    List.Forall₂ (fun m result => ∃ t, Paired settings options target target' m t result) tables
      results := by
  induction tables generalizing target results with
  | nil =>
    cases success
    exact .nil
  | cons m rest ih =>
    rw [List.map_cons, List.nodup_cons] at distinct
    obtain ⟨t, result, more, found, done, rfl, others⟩ := migratedAll_cons_eq_ok success
    obtain ⟨member, same, some⟩ := MemoryTable.partner?_eq_some found
    have stored : t.StoredIn target := ⟨names_distinct, member⟩
    have after := MemoryStore.storedIn_putRows stored
      ((⟨settings, m, t⟩ : TableCopy).migratedRows options)
    have apart : ∀ m' ∈ rest, Text.sameAscii t.name m'.name = false := by
      intro m' here
      rw [Bool.eq_false_iff]
      intro also
      refine distinct.1 (List.mem_map.mpr ⟨m', here, ?_⟩)
      exact (Text.sameAscii_iff.mp also).symm.trans (Text.sameAscii_iff.mp same)
    have kept : MemoryTable.StoredIn
        { t with rows := (⟨settings, m, t⟩ : TableCopy).migratedRows options } target' := by
      have final := migratedAll_preserves (P := fun tables =>
        (tables.map MemoryTable.key).Nodup)
        (fun tables name rows start => by rwa [MemoryStore.map_key_putRows]) others after.distinct
      have present := mem_migratedAll settings options after.member apart
      rw [others] at present
      exact ⟨final, present⟩
    have admitted := TableCopy.admission_of_migrated done
    obtain ⟨migrated, rows⟩ := TableCopy.migrated_of_admission admitted
    rw [migrated, Except.ok.injEq] at done
    rw [rows] at kept
    refine .cons ⟨t, stored, same, some, admitted, done.symm, kept⟩ ?_
    have paired := (List.forall₂_and_left _ _).mpr ⟨apart, ih after.distinct distinct.2 others⟩
    refine paired.imp fun m' result' both => ?_
    obtain ⟨other, t', paired'⟩ := both
    have elsewhere : Text.sameAscii t'.name t.name = false := by
      rw [Text.sameAscii, Text.sameAscii_iff.mp paired'.same, ← Text.sameAscii,
        Text.sameAscii_comm]
      exact other
    have before := MemoryStore.mem_of_mem_putRows paired'.stored.member elsewhere
    exact ⟨t', { paired' with stored := ⟨names_distinct, before⟩ }⟩

theorem Paired.unique {options : MigrationOptions} {m t u : MemoryTable} {result : TableMigration}
    (paired : Paired settings options target target' m t result) (member : u ∈ target)
    (same : Text.sameAscii u.name m.name = true) : u = t :=
  List.inj_on_of_nodup_map paired.stored.distinct member paired.stored.member
    ((Text.sameAscii_iff.mp same).trans (Text.sameAscii_iff.mp paired.same).symm)

theorem Paired.partner?_eq {options : MigrationOptions} {m t : MemoryTable}
    {result : TableMigration} (paired : Paired settings options target target' m t result) :
    m.partner? target' =
      Option.some { t with rows := ((⟨settings, m, t⟩ : TableCopy).finished options).rows } :=
  MemoryTable.partner?_of_stored paired.left paired.same paired.some

theorem exists_paired_of_run {s s' : RunState MemoryStore MemoryStore} {m : Migration}
    (source_wellFormed : s.source.WellFormed) (target_wellFormed : s.target.WellFormed)
    (ran : run (.inMemory sourceSettings settings) options s = (.ok m, s'))
    {sourceTable targetTable : MemoryTable} (source_mem : sourceTable ∈ s.source.tables)
    (some : sourceTable.columns ≠ []) (target_mem : targetTable ∈ s.target.tables)
    (same : Text.sameAscii targetTable.name sourceTable.name = true) :
    ∃ result ∈ m.tables, Paired settings options.migration s.target.tables s'.target.tables
      sourceTable targetTable result := by
  obtain ⟨tables, route, done, -⟩ :=
    exists_route_of_run_eq_ok source_wellFormed target_wellFormed ran
  obtain ⟨result, listed, t, pair⟩ := exists_of_forall₂
    (paired_of_migratedAll target_wellFormed.names_distinct route.distinct done)
    ((route.mem_iff sourceTable).mpr ⟨source_mem, some⟩)
  rw [← pair.unique target_mem same] at pair
  exact ⟨result, listed, pair⟩

theorem exists_migratedAll_eq_ok {options : MigrationOptions}
    (admitted : ∀ m ∈ tables, ∃ t, m.partner? target = some t ∧
      (⟨settings, m, t⟩ : TableCopy).admission options = .ok ()) :
    ∃ results target', migratedAll settings options target tables = (.ok results, target') := by
  induction tables generalizing target with
  | nil => exact ⟨[], target, rfl⟩
  | cons m rest ih =>
    obtain ⟨t, found, admits⟩ := admitted m List.mem_cons_self
    have later : ∀ m' ∈ rest, ∃ u, m'.partner? (MemoryStore.putRows t.name
        ((⟨settings, m, t⟩ : TableCopy).finished options).rows target) = some u ∧
          (⟨settings, m', u⟩ : TableCopy).admission options = .ok () := by
      intro m' here
      obtain ⟨u, found', admits'⟩ := admitted m' (List.mem_cons_of_mem m here)
      rw [MemoryTable.partner?_putRows, found', Option.map_some]
      refine ⟨_, rfl, ?_⟩
      split
      · exact admits'
      · exact admits'
    obtain ⟨results, final, others⟩ := ih later
    exact ⟨_, final, migratedAll_cons_of_admission found admits others⟩

theorem exists_run_of_run {s s' : RunState MemoryStore MemoryStore} {m : Migration}
    (source_wellFormed : s.source.WellFormed) (target_wellFormed : s.target.WellFormed)
    (ran : run (.inMemory sourceSettings settings) options s = (.ok m, s')) (ids batch : Nat) :
    ∃ m' s'', run (.inMemory sourceSettings settings) { options with
      migration := { options.migration with maxInClauseIds := ids, readBatchSize := batch } } s =
        (.ok m', s'') := by
  obtain ⟨tables, route, done, -⟩ :=
    exists_route_of_run_eq_ok source_wellFormed target_wellFormed ran
  have paired := paired_of_migratedAll target_wellFormed.names_distinct route.distinct done
  have admitted : ∀ m ∈ tables, ∃ t, m.partner? s.target.tables = some t ∧
      (⟨settings, m, t⟩ : TableCopy).admission { options.migration with
        maxInClauseIds := ids, readBatchSize := batch } = .ok () := by
    intro m member
    obtain ⟨result, -, t, pair⟩ := exists_of_forall₂ paired member
    exact ⟨t, MemoryTable.partner?_of_stored pair.stored pair.same pair.some, pair.admitted⟩
  obtain ⟨results, target', again⟩ := exists_migratedAll_eq_ok admitted
  have yields : (run (.inMemory sourceSettings settings) { options with
      migration := { options.migration with
        maxInClauseIds := ids, readBatchSize := batch } }).Yields _ _ _ _ :=
    run_yields source_wellFormed target_wellFormed.wellNamed route
  obtain ⟨outcome, -⟩ := yields s rfl rfl
  rw [again] at outcome
  exact ⟨⟨results⟩, _, Prod.ext outcome rfl⟩

theorem migratedAll_of_kept {options : MigrationOptions}
    (kept : ∀ m ∈ tables, ∃ t, m.partner? target = some t ∧ t.StoredIn target ∧
      (⟨settings, m, t⟩ : TableCopy).admission options = .ok () ∧
      ((⟨settings, m, t⟩ : TableCopy).finished options).rows = t.rows ∧
      ((⟨settings, m, t⟩ : TableCopy).finished options).tally.inserted = 0) :
    ∃ results, migratedAll settings options target tables = (.ok results, target) ∧
      List.Forall₂ (fun m result => result.table = m.name ∧ result.tally.inserted = 0) tables
        results := by
  induction tables with
  | nil => exact ⟨[], rfl, .nil⟩
  | cons m rest ih =>
    obtain ⟨t, found, stored, admitted, same, inserted⟩ := kept m List.mem_cons_self
    obtain ⟨results, others, properties⟩ := ih fun m' here => kept m' (List.mem_cons_of_mem m here)
    have unchanged : MemoryStore.putRows t.name
        ((⟨settings, m, t⟩ : TableCopy).finished options).rows target = target := by
      rw [same]
      exact MemoryStore.putRows_rows stored
    refine ⟨_, migratedAll_cons_of_admission found admitted ?_, .cons ⟨rfl, inserted⟩ properties⟩
    rw [unchanged]
    exact others

theorem route_of_migratedAll {targetSettings : MemorySettings} {diagnostics : DiagnosticOptions}
    {options : MigrationOptions} {visited : List MemoryTable}
    {outcome : Outcome (List TableMigration)}
    (done : migratedAll settings options target visited = (outcome, target'))
    (route : Route sourceSettings targetSettings diagnostics source target tables) :
    Route sourceSettings targetSettings diagnostics source target' tables := by
  obtain ⟨pair, loaded, ordered⟩ := route.loaded
  have final := migratedAll_preserves (P := fun target =>
    SchemaPair.loaded sourceSettings targetSettings diagnostics source target = .ok pair)
    (fun tables name rows same => (SchemaPair.loaded_putRows name rows).trans same) done loaded
  exact ⟨⟨pair, final, ordered⟩, route.mem_iff, route.distinct⟩

theorem wellNamed_of_migratedAll {options : MigrationOptions} {visited : List MemoryTable}
    {outcome : Outcome (List TableMigration)}
    (done : migratedAll settings options target visited = (outcome, target'))
    (wellNamed : MemoryStore.WellNamed target) : MemoryStore.WellNamed target' :=
  migratedAll_preserves (fun _ name rows named => named.putRows name rows) done wellNamed

end Migration

end RowSync
