import RowSync.Proofs.Copying.PlanText
import RowSync.Proofs.Copying.TableRun
import RowSync.Proofs.Memory.Growth
import RowSync.Proofs.Sync.ConstraintBracket
import RowSync.Proofs.Sync.Loading
import RowSync.Proofs.Sync.RelatedRuns

/-!
What a migration between two stores does to their tables, whether it succeeds or not: those of the
source stay, and those of the destination grow, each in the turn of its source table only.
-/

set_option autoImplicit false

namespace RowSync

namespace Migration

open MemoryStore (Evolves Named)

variable {settings settings' : MemorySettings} {options : Options}
  {s : RunState MemoryStore MemoryStore}

section Turn

variable {source target : Table} {u : MemoryTable}

private def Writing (options : MigrationOptions) (target : Table) (sql : String) : Prop :=
  options.truncateFirst = true ∧ sql = truncation target.name ∨
    ∃ resolution pairs, sql = TablePlan.insertStatement (.plain resolution) target pairs

private def turnTalk (options : MigrationOptions) (target : Table) : RowFlow.Talk :=
  ⟨fun _ => True, fun _ => True, fun sql => ∀ name, sql ≠ truncation name, Writing options target⟩

private theorem ne_truncation {sql name : String} {rest : List Char}
    (words : sql.toList = 'S' :: rest) : sql ≠ truncation name := by
  rintro rfl
  rw [truncation_toList] at words
  cases words

private theorem turnTalk_admits {plan : TablePlan} (made : (TablePlan.make
      (.plain settings.resolution) (.plain settings'.resolution) source target).1 = .ok plan) :
    (turnTalk options.migration target).Admits (.plain settings.resolution)
      (.plain settings'.resolution) plan := by
  obtain ⟨-, -, -, pairs, probe, insert⟩ := TablePlan.make_ok made
  refine ⟨trivial, trivial, fun _ => trivial, fun name => ?_, fun name => ?_, ?_⟩
  · exact ne_truncation (plan.targetIdsSql_toList settings'.resolution)
  · obtain ⟨clauses, words⟩ := TablePlan.existsStatement_toList settings'.resolution target pairs
    exact ne_truncation (by rw [probe, words]; rfl)
  · exact .inr ⟨_, pairs, insert⟩

/-- A migration of a table leaves the source as it is and makes the table grow, which is emptied
only if tables are to be emptied. -/
theorem migrateTable_evolves (plain : Text.IsPlain u.name) (named : target.name = u.name)
    (stored : u.StoredIn s.target.tables) :
    let t := (migrateTable (.inMemory settings settings') options source target s).2
    t.source.tables = s.source.tables ∧
      Evolves (fun name => Text.sameAscii name u.name = true)
        (fun _ => options.migration.truncateFirst = true) s.target t.target := by
  have keeps : RowFlow.Keeps (fun t : RunState MemoryStore MemoryStore =>
      t.source.tables = s.source.tables ∧
        Evolves (fun name => Text.sameAscii name u.name = true)
          (fun _ => options.migration.truncateFirst = true) s.target t.target)
      (turnTalk options.migration target) (.inMemory settings settings') := by
    refine ⟨fun _ _ kept => kept, fun _ _ _ _ kept => kept, fun _ _ _ _ _ kept => kept,
      fun t sql parameters asks kept => ⟨kept.1, kept.2.trans (.query asks parameters)⟩,
      fun t sql parameters writes ⟨source, evolves⟩ => ⟨source, evolves.trans ?_⟩⟩
    obtain ⟨sent, u', -, stored', grown⟩ := evolves.exists_stored stored
    rcases writes with ⟨first, rfl⟩ | ⟨resolution, pairs, rfl⟩
    · rw [named, ← grown.name_eq]
      exact .execute_truncation stored' first
    · obtain ⟨rest, words⟩ := TablePlan.insertStatement_toList resolution target pairs
      rw [named] at words
      exact .execute_insert stored'.distinct plain words
  exact keeps.migrateTable source target (fun first => .inl ⟨first, rfl⟩)
    (fun plan made => turnTalk_admits made) ⟨rfl, .refl _⟩

private def keepingRows (options : Options) : Options :=
  { options with migration := { options.migration with truncateFirst := false } }

private theorem migrateTable_of_truncateFirst {σ τ : Type} (sides : Sides σ τ)
    (first : options.migration.truncateFirst = true) (source target : Table) :
    migrateTable sides options source target =
      truncate sides target.name >>= fun _ =>
        migrateTable sides (keepingRows options) source target := by
  rw [migrateTable, if_pos first, migrateTable, if_neg (by simp [keepingRows])]
  rfl

private theorem exists_stored_of_keeping (u : MemoryTable) (plain : Text.IsPlain u.name)
    (named : target.name = u.name) (stored : u.StoredIn s.target.tables)
    (keeps : options.migration.truncateFirst = false) :
    ∃ more, MemoryTable.StoredIn { u with rows := u.rows ++ more }
      (migrateTable (.inMemory settings settings') options source target s).2.target.tables := by
  obtain ⟨sent, u', allowed, stored', grown⟩ :=
    (migrateTable_evolves plain named stored).2.exists_stored stored
  have never : truncation u.name ∉ sent := fun member => by
    have first := allowed u.name member
    rw [keeps] at first
    cases first
  obtain ⟨more, rfl⟩ := grown.grown
  rw [if_neg never] at stored'
  exact ⟨more, stored'⟩

theorem exists_stored_of_migrateTable (plain : Text.IsPlain u.name)
    (named : target.name = u.name) (stored : u.StoredIn s.target.tables)
    {result : TableMigration} {t : RunState MemoryStore MemoryStore}
    (ran : migrateTable (.inMemory settings settings') options source target s =
      (.ok result, t)) :
    ∃ more, MemoryTable.StoredIn
      { u with rows := (if options.migration.truncateFirst then [] else u.rows) ++ more }
      t.target.tables := by
  cases first : options.migration.truncateFirst with
  | false =>
    have kept : ∃ more, MemoryTable.StoredIn { u with rows := u.rows ++ more }
        (migrateTable (.inMemory settings settings') options source target s).2.target.tables :=
      exists_stored_of_keeping _ plain named stored first
    rw [ran] at kept
    exact kept
  | true =>
    obtain ⟨success, -, tables⟩ := truncate_yields stored settings settings' s rfl rfl
    rw [migrateTable_of_truncateFirst _ first, named, Run.bind_apply,
      Run.eq_of_outcome success] at ran
    dsimp only at ran
    have stored' := MemoryStore.storedIn_putRows stored []
    rw [← tables] at stored'
    have kept : ∃ more, MemoryTable.StoredIn { u with rows := [] ++ more }
        (migrateTable (.inMemory settings settings') (keepingRows options) source target
          (truncate (.inMemory settings settings') u.name s).2).2.target.tables :=
      exists_stored_of_keeping (MemoryStore.emptied u) plain named stored' rfl
    rw [ran] at kept
    exact kept

end Turn

section Loop

variable {pair : SchemaPair} {sources : List MemoryTable}

/-- A migration of tables leaves the source as it is and makes their partners grow. -/
theorem migrateTables_evolves (listed : pair.source.tables = sources.map MemoryTable.described)
    (plain : ∀ m ∈ sources, Text.IsPlain m.name) (named : Named s.target.tables)
    (describes : pair.target.Describes s.target.tables) :
    let t := (migrateTables (.inMemory settings settings') options pair s).2
    t.source.tables = s.source.tables ∧
      Evolves (fun name => ∃ m ∈ sources, Text.sameAscii name m.name = true)
        (fun _ => options.migration.truncateFirst = true) s.target t.target := by
  let kept (t : RunState MemoryStore MemoryStore) : Prop := t.source.tables = s.source.tables ∧
    Evolves (fun name => ∃ m ∈ sources, Text.sameAscii name m.name = true)
      (fun _ => options.migration.truncateFirst = true) s.target t.target
  have turn (source : Table) (member : source ∈ pair.source.tables) :
      Run.Triple kept (do
        let target ← Run.ofOutcome (pair.target.table source.key)
        migrateTable (.inMemory settings settings') options source target)
        (fun _ => kept) (fun _ => kept) := by
    rw [listed] at member
    obtain ⟨m, routed, rfl⟩ := List.mem_map.mp member
    have looked : Run.Triple kept (Run.ofOutcome (pair.target.table m.described.key))
        (fun target t => pair.target.table m.described.key = .ok target ∧ kept t)
        (fun _ => kept) :=
      .ofOutcome (fun target found t kept => ⟨found, kept⟩) fun _ _ _ kept => kept
    refine looked.bind fun target => .of_state fun t ⟨found, source, evolves⟩ => ?_
    rw [describes.table_eq named (plain m routed)] at found
    cases partner : m.partner? s.target.tables with
    | none =>
      rw [partner] at found
      cases found
    | some u =>
      rw [partner] at found
      cases found
      obtain ⟨here, same, -⟩ := MemoryTable.partner?_eq_some partner
      -- Turns before this one may have written to the partner, so it is taken as it is now.
      obtain ⟨sent, u', -, stored, grown⟩ := evolves.exists_stored ⟨named.names_distinct, here⟩
      have plain' : Text.IsPlain u'.name := grown.name_eq ▸ named.names_plain u here
      have turn : let t' := (migrateTable (.inMemory settings settings') options m.described
            u.described t).2
          t'.source.tables = t.source.tables ∧
            Evolves (fun name => Text.sameAscii name u'.name = true)
              (fun _ => options.migration.truncateFirst = true) t.target t'.target :=
        migrateTable_evolves plain' grown.name_eq.symm stored
      obtain ⟨source', evolves'⟩ := turn
      refine ⟨source'.trans source, evolves.trans (evolves'.mono (fun name reached => ?_) ?_)⟩
      · rw [grown.name_eq, Text.sameAscii_iff] at reached
        exact ⟨m, routed, Text.sameAscii_iff.mpr (reached.trans (Text.sameAscii_iff.mp same))⟩
      · exact fun _ first => first
  have all : Run.Triple kept (migrateTables (.inMemory settings settings') options pair)
      (fun _ => kept) (fun _ => kept) :=
    .mapList (fun _ source member => turn source member) []
  exact all.state ⟨rfl, .refl _⟩

end Loop

private theorem load_keeps (settings settings' : MemorySettings) (options : DiagnosticOptions)
    (s : RunState MemoryStore MemoryStore) :
    let t := (SchemaPair.load (.inMemory settings settings') options s).2
    t.source = s.source ∧ t.target = s.target := by
  have alike : SchemaPair.Alike (fun t t' => t = t' ∧ t.source = s.source ∧ t.target = s.target)
      (.inMemory settings settings') (.inMemory settings settings') := by
    refine ⟨rfl, rfl, ?_, ?_, ?_⟩
    · rintro f t _ ⟨rfl, kept⟩
      exact ⟨rfl, rfl, kept⟩
    · rintro t _ ⟨rfl, kept⟩
      exact ⟨rfl, rfl, kept⟩
    · rintro t _ ⟨rfl, kept⟩
      exact ⟨rfl, rfl, kept⟩
  exact (alike.load_corresponds options s s ⟨rfl, rfl, rfl⟩).2.2

theorem run_inMemory (settings settings' : MemorySettings) (options : Options)
    (s : RunState MemoryStore MemoryStore) :
    let ran := run (.inMemory settings settings') options s
    (∃ failure, ran.1 = .error failure ∧ ran.2.source = s.source ∧ ran.2.target = s.target) ∨
      ∃ pair u, SchemaPair.loaded settings settings' options.diagnostics s.source.tables
          s.target.tables = .ok pair ∧
        u.source = s.source ∧ u.target = s.target.toggle false ∧
        let copied := migrateTables (.inMemory settings settings') options pair u
        ran.1 = copied.1.map Migration.mk ∧ ran.2.source = copied.2.source ∧
          ran.2.target.tables = copied.2.target.tables ∧
          ran.2.target.statements = copied.2.target.statements := by
  intro ran
  obtain ⟨source, target⟩ := load_keeps settings settings' options.diagnostics s
  obtain ⟨answer, -, -⟩ := SchemaPair.load_yields s rfl rfl
  cases loaded : SchemaPair.load (.inMemory settings settings') options.diagnostics s with
  | mk outcome t =>
    rw [loaded] at source target answer
    cases outcome with
    | error failure =>
      have failed : ran = (.error failure, t) := run_of_load_error loaded
      exact .inl ⟨failure, by rw [failed], by rw [failed, source], by rw [failed, target]⟩
    | ok pair =>
      obtain ⟨journal, suspended⟩ := suspendConstraints_apply (.inMemory settings settings') t
      let u : RunState MemoryStore MemoryStore := ⟨t.source, t.target.toggle false, journal⟩
      have suspended : suspendConstraints (.inMemory settings settings') t = (.ok (), u) := suspended
      let copied := migrateTables (.inMemory settings settings') options pair u
      obtain ⟨journal', ended⟩ : ∃ journal, ran = (copied.1.map Migration.mk, ⟨copied.2.source,
          ((MemoryStore.database settings').enableConstraints copied.2.target).2, journal⟩) :=
        run_of_suspended loaded suspended
      -- The constraints may stay off in the end, but the tables are not touched for it.
      have enabled (r : MemoryStore) :
          ((MemoryStore.database settings').enableConstraints r).2.tables = r.tables ∧
            ((MemoryStore.database settings').enableConstraints r).2.statements = r.statements := by
        rw [MemoryStore.database]
        dsimp only
        split
        · exact ⟨rfl, rfl⟩
        · exact ⟨rfl, rfl⟩
      refine .inr ⟨pair, u, answer.symm, source, by rw [← target], ?_⟩
      rw [ended]
      exact ⟨rfl, rfl, enabled _⟩

/-- Whether a migration succeeds or fails, and wherever it fails, it leaves the tables of the source
as they are, and what it does to those of the destination is to let them grow: only those with a
partner in the source, and none is emptied unless that is asked for. -/
theorem run_evolves (source : Named s.source.tables) (target : Named s.target.tables) :
    let t := (run (.inMemory settings settings') options s).2
    t.source.tables = s.source.tables ∧
      Evolves (fun name => ∃ m ∈ s.source.tables, m.columns ≠ [] ∧
          Text.sameAscii name m.name = true)
        (fun _ => options.migration.truncateFirst = true) s.target t.target := by
  intro t
  have quiet (r r' : MemoryStore) (tables : r'.tables = r.tables)
      (statements : r'.statements = r.statements) {written cleared : String → Prop} :
      Evolves written cleared r r' :=
    .of_quiet tables (statements.trans (List.append_nil _).symm) fun _ => List.not_mem_nil
  rcases run_inMemory settings settings' options s with
    ⟨failure, -, kept, kept'⟩ | ⟨pair, u, loaded, entered, entered', -, left, tables, statements⟩
  · exact ⟨congrArg _ kept, quiet _ _ (congrArg _ kept') (congrArg _ kept')⟩
  obtain ⟨sources, describes⟩ := SchemaPair.describes_of_loaded source target loaded
  obtain ⟨l, listed, mem_iff, -⟩ := sources.exists_tables source
  have target' : u.target.tables = s.target.tables := by
    rw [entered']
    rfl
  have copied : let t := (migrateTables (.inMemory settings settings') options pair u).2
      t.source.tables = u.source.tables ∧
        Evolves (fun name => ∃ m ∈ l, Text.sameAscii name m.name = true)
          (fun _ => options.migration.truncateFirst = true) u.target t.target :=
    migrateTables_evolves listed
      (fun m member => source.names_plain m ((mem_iff m).mp member).1)
      (by rwa [target']) (by rwa [target'])
  refine ⟨?_, ?_⟩
  · exact (congrArg _ left).trans (copied.1.trans (congrArg _ entered))
  · refine (quiet s.target u.target target' (by rw [entered']; rfl)).trans
      ((copied.2.mono (fun name => ?_) fun _ first => first).trans (quiet _ _ tables statements))
    rintro ⟨m, member, same⟩
    obtain ⟨here, some⟩ := (mem_iff m).mp member
    exact ⟨m, here, some, same⟩

end Migration

end RowSync
