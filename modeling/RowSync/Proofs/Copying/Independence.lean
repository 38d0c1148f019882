import RowSync.Proofs.Copying.Appending
import RowSync.Proofs.Memory.Lookup

/-!
Migrations on stores that have one pair of tables in common. Every statement sent in the turn of
that pair is answered by the two tables alone, so both migrations do the same with them.
-/

set_option autoImplicit false

namespace RowSync

namespace MemoryStore

/-- The names of the tables are plain and told apart, and those of the columns are plain. -/
structure Legible (tables : List MemoryTable) : Prop extends Named tables where
  columns_plain : ColumnsPlain tables

theorem legible_iff (tables : List MemoryTable) :
    Legible tables ↔ (∀ t ∈ tables, Text.IsPlain t.name) ∧ (tables.map MemoryTable.key).Nodup ∧
      ∀ t ∈ tables, ∀ c ∈ t.columns, Text.IsPlain c.name :=
  ⟨fun h => ⟨h.names_plain, h.names_distinct, h.columns_plain⟩, fun h => ⟨⟨h.1, h.2.1⟩, h.2.2⟩⟩

instance (tables : List MemoryTable) : Decidable (Legible tables) :=
  decidable_of_iff' _ (legible_iff tables)

end MemoryStore

theorem TablePlan.identityName_described {u : MemoryTable}
    (plain : ∀ c ∈ u.columns, Text.IsPlain c.name) : Text.IsPlain (identityName u.described) := by
  unfold identityName
  cases found : u.described.identity? with
  | none => exact (by decide : Text.IsPlain "id")
  | some c =>
    obtain ⟨d, member, rfl⟩ := List.mem_map.mp (List.mem_of_find?_eq_some found)
    exact plain d member

namespace Migration

open MemoryStore (Evolves Named Legible ColumnsPlain AnsweredBy Unanswered Changes)

variable {settings settings' : MemorySettings} {options : Options} {m u : MemoryTable}

section Turn

private structure AlikeAt (m u : MemoryTable) (s s' : RunState MemoryStore MemoryStore) : Prop where
  source : s.source.table m.name = s'.source.table m.name
  plain : ColumnsPlain s.source.tables
  plain' : ColumnsPlain s'.source.tables
  target : s.target.table u.name = s'.target.table u.name

private def talkOf (settings' : MemorySettings) (m u : MemoryTable) : RowFlow.Talk :=
  ⟨AnsweredBy m.name, fun sql => AnsweredBy m.name sql ∨ Unanswered sql, AnsweredBy u.name,
    Changes settings' u.name⟩

private theorem reports_alikeAt : Run.Reports (AlikeAt m u) := fun _ _ _ states =>
  ⟨rfl, states.source, states.plain, states.plain', states.target⟩

private theorem alike : RowFlow.Alike True (AlikeAt m u) (talkOf settings' m u)
    (.inMemory settings settings') (.inMemory settings settings') := by
  refine ⟨rfl, rfl, reports_alikeAt, ?_, ?_, ?_, ?_⟩
  · intro sql parameters answered s s' states
    obtain ⟨answer, answers⟩ := answered parameters
    refine ⟨?_, states.source, states.plain, states.plain', states.target⟩
    exact (answers s.source).trans ((congrArg answer states.source).trans (answers s'.source).symm)
  · intro options sql parameters reads
    refine .bind_same (.logSql reports_alikeAt _ _) fun _ s s' states => ?_
    refine ⟨.ok ?_, states.source, states.plain, states.plain', states.target⟩
    change Stream.Rel True
      (MemoryStore.streamOf _ (MemoryStore.query sql parameters s.source).1)
      (MemoryStore.streamOf _ (MemoryStore.query sql parameters s'.source).1)
    rcases reads with answered | unanswered
    · obtain ⟨answer, answers⟩ := answered parameters
      rw [answers, answers, states.source]
      exact ⟨rfl, .refl _ _⟩
    · -- Both fail, but what a source says of it may tell of its other tables.
      obtain ⟨failure, failed⟩ := unanswered parameters s.source states.plain
      obtain ⟨failure', failed'⟩ := unanswered parameters s'.source states.plain'
      rw [failed, failed']
      exact ⟨rfl, .error (.inl trivial)⟩
  · intro sql parameters answered s s' states
    obtain ⟨answer, answers⟩ := answered parameters
    refine ⟨?_, states.source, states.plain, states.plain', states.target⟩
    exact (answers s.target).trans ((congrArg answer states.target).trans (answers s'.target).symm)
  · intro sql parameters changes s s' states
    obtain ⟨same, kept⟩ := changes.execute_eq states.target parameters
    exact ⟨same, states.source, states.plain, states.plain', kept⟩

private theorem admits (source : Text.IsPlain m.name)
    (source_columns : ∀ c ∈ m.columns, Text.IsPlain c.name) (target : Text.IsPlain u.name)
    (target_columns : ∀ c ∈ u.columns, Text.IsPlain c.name) {plan : TablePlan}
    (made : (TablePlan.make (.plain settings.resolution) (.plain settings'.resolution)
      m.described u.described).1 = .ok plan) :
    (talkOf settings' m u).Admits (.plain settings.resolution) (.plain settings'.resolution)
      plan := by
  obtain ⟨source_eq, target_eq, select, pairs, probe, insert⟩ := TablePlan.make_ok made
  have selects : plan.selectSql.toList = "SELECT ".toList ++
      (namesText m.columns ++ (" FROM ".toList ++ m.name.toList)) := by
    rw [select]
    exact TableCopy.selectStatement_plain m
  have all : AnsweredBy m.name plan.selectSql ∨ Unanswered plan.selectSql := by
    rw [← List.append_nil m.name.toList] at selects
    exact MemoryStore.answeredBy_or_unanswered source source_columns (.inl rfl) selects
  refine ⟨?_, all, fun excluded => ?_, ?_, ?_, ?_⟩
  · have words := TablePlan.countStatement_toList settings.resolution plan.source
    rw [source_eq] at words ⊢
    exact MemoryStore.answeredBy_count source words
  · rcases plan.excludingSql_toList settings.resolution excluded with same | ⟨marks, words⟩
    · rwa [String.toList_inj.mp same]
    · rw [selects, List.append_assoc, List.append_assoc, List.append_assoc] at words
      exact MemoryStore.answeredBy_or_unanswered source source_columns (.inr ⟨_, rfl⟩) words
  · have words := plan.targetIdsSql_toList settings'.resolution
    rw [target_eq] at words
    exact MemoryStore.answeredBy_column target (TablePlan.identityName_described target_columns)
      words
  · obtain ⟨clauses, words⟩ :=
      TablePlan.existsStatement_toList settings'.resolution u.described pairs
    rw [← probe] at words
    exact MemoryStore.answeredBy_exists target words
  · obtain ⟨rest, words⟩ :=
      TablePlan.insertStatement_toList settings'.resolution u.described pairs
    rw [← insert] at words
    exact MemoryStore.changes_insert settings' target words

private theorem migrateTable_source_settings (settings settings₂ settings' : MemorySettings)
    (options : Options) (source target : Table) :
    migrateTable (.inMemory settings₂ settings') options source target =
      migrateTable (.inMemory settings settings') options source target := rfl

private theorem migrateTable_alike (settings settings₂ settings' : MemorySettings)
    (options : Options) (source : Text.IsPlain m.name)
    (source_columns : ∀ c ∈ m.columns, Text.IsPlain c.name) (target : Text.IsPlain u.name)
    (target_columns : ∀ c ∈ u.columns, Text.IsPlain c.name) :
    Run.Relates True (AlikeAt m u) Eq
      (migrateTable (.inMemory settings settings') options m.described u.described)
      (migrateTable (.inMemory settings₂ settings') options m.described u.described) := by
  rw [migrateTable_source_settings settings settings₂]
  exact alike.migrateTable_relates m.described u.described
    (fun _ => MemoryStore.changes_truncation settings' u.name)
    fun _ made => admits source source_columns target target_columns made

private theorem migrateTable_names {σ τ : Type} (sides : Sides σ τ) (source target : Table) :
    Run.Triple (fun _ => True) (migrateTable sides options source target)
      (fun result _ => result.table = source.name) (fun _ _ => True) := by
  have any {α : Type} (run : Run σ τ α) :
      Run.Triple (fun _ => True) run (fun _ _ => True) (fun _ _ => True) :=
    .of_state fun _ _ => trivial
  unfold migrateTable
  refine .ite_bind (fun _ => any _) ((any _).bind fun plan => (any _).bind fun _ => ?_)
  refine (any _).bind fun _ => (any _).bind fun _ => (any _).bind fun tally => ?_
  exact .ite_bind (fun _ => any _) ((any _).bind fun _ => .pure fun _ _ => rfl)

end Turn

section Route

variable {schema : Schema} {sources : List MemoryTable} {name : String}
  {s t : RunState MemoryStore MemoryStore} {results : List TableMigration}

private structure Apart (name : String) (results : List TableMigration)
    (s t : RunState MemoryStore MemoryStore) : Prop where
  source : t.source.tables = s.source.tables
  target : t.target.table name = s.target.table name
  shape : t.target.tables.map MemoryStore.emptied = s.target.tables.map MemoryStore.emptied
  unnamed : ∀ result ∈ results, Text.sameAscii name result.table = false

private theorem Apart.filter_eq_nil (apart : Apart name results s t)
    (same : Text.sameAscii name m.name = true) :
    results.filter (fun result => result.table == m.name) = [] := by
  refine List.filter_eq_nil_iff.mpr fun result member equal => ?_
  rw [← eq_of_beq equal, apart.unnamed result member] at same
  cases same

private theorem migrateTables_apart (plain : ∀ m ∈ sources, Text.IsPlain m.name)
    (named : Named s.target.tables) (describes : schema.Describes s.target.tables)
    (others : ∀ m ∈ sources, Text.sameAscii name m.name = false)
    (ran : migrateTables (.inMemory settings settings') options
      ⟨⟨sources.map MemoryTable.described⟩, schema⟩ s = (.ok results, t)) :
    Apart name results s t := by
  have moved : let t := (migrateTables (.inMemory settings settings') options
        ⟨⟨sources.map MemoryTable.described⟩, schema⟩ s).2
      t.source.tables = s.source.tables ∧
        Evolves (fun name => ∃ m ∈ sources, Text.sameAscii name m.name = true)
          (fun _ => options.migration.truncateFirst = true) s.target t.target :=
    migrateTables_evolves rfl plain named describes
  rw [ran] at moved
  refine ⟨moved.1, moved.2.table_eq ?_, moved.2.map_emptied, ?_⟩
  · rintro other same ⟨m, member, also⟩
    rw [Text.sameAscii_comm] at same
    have shared := (Text.sameAscii_iff.mp same).trans (Text.sameAscii_iff.mp also)
    rw [← Text.sameAscii_iff, others m member] at shared
    cases shared
  · have each (done : List TableMigration) (source : Table)
        (member : source ∈ sources.map MemoryTable.described) :
        Run.Triple (fun _ => ∀ result ∈ done, Text.sameAscii name result.table = false)
          (do
            let target ← Run.ofOutcome (schema.table source.key)
            migrateTable (.inMemory settings settings') options source target)
          (fun result _ =>
            ∀ other ∈ done ++ [result], Text.sameAscii name other.table = false)
          (fun _ _ => True) := by
      obtain ⟨m, here, rfl⟩ := List.mem_map.mp member
      intro r unnamed
      have looked : Run.Triple (fun _ : RunState MemoryStore MemoryStore => True)
          (Run.ofOutcome (schema.table m.described.key)) (fun _ _ => True) (fun _ _ => True) :=
        .of_state fun _ _ => trivial
      refine (looked.bind fun target => ?_) r trivial
      refine (migrateTable_names _ m.described target).mono (fun _ _ => trivial) ?_
        fun _ _ _ => trivial
      intro result _ same other member'
      rcases List.mem_append.mp member' with old | new
      · exact unnamed other old
      · rw [List.mem_singleton.mp new, same]
        exact others m here
    have all := Run.Triple.mapList each []
    exact all.success (fun _ member => by cases member) (congrArg Prod.fst ran)

private structure Passage (settings settings' : MemorySettings) (options : Options)
    (s t : RunState MemoryStore MemoryStore) (done : Migration) (pair : SchemaPair)
    (l : List MemoryTable) (x y : RunState MemoryStore MemoryStore) : Prop where
  listed : pair.source.tables = l.map MemoryTable.described
  mem_iff : ∀ m, m ∈ l ↔ m ∈ s.source.tables ∧ m.columns ≠ []
  distinct : (l.map MemoryTable.key).Nodup
  describes : pair.target.Describes x.target.tables
  source_begin : x.source.tables = s.source.tables
  target_begin : x.target.tables = s.target.tables
  copied : migrateTables (.inMemory settings settings') options pair x = (.ok done.tables, y)
  target_end : t.target.tables = y.target.tables

private theorem exists_passage (source : Named s.source.tables) (target : Named s.target.tables)
    {done : Migration} (ran : run (.inMemory settings settings') options s = (.ok done, t)) :
    ∃ pair l x y, Passage settings settings' options s t done pair l x y := by
  have taken := run_inMemory settings settings' options s
  rw [ran] at taken
  rcases taken with ⟨failure, failed, -⟩ | ⟨pair, x, loaded, entered, entered', success, -, left, -⟩
  · cases failed
  obtain ⟨sources, describes⟩ := SchemaPair.describes_of_loaded source target loaded
  obtain ⟨l, listed, mem_iff, distinct⟩ := sources.exists_tables source
  have target_begin : x.target.tables = s.target.tables := by
    rw [entered']
    rfl
  cases copied : migrateTables (.inMemory settings settings') options pair x with
  | mk outcome y =>
    rw [copied] at success left
    cases outcome with
    | error failure => cases success
    | ok results =>
      cases success
      exact ⟨pair, l, x, y, listed, mem_iff, distinct, by rwa [target_begin],
        congrArg _ entered, target_begin, copied, left⟩

end Route

section Common

variable {s t : RunState MemoryStore MemoryStore} {done : Migration}

/-- The turn of a pair of tables in a migration that succeeds: they are as they were before, and
what the turn leaves of the destination's table is left in the end. -/
private structure HasTurn (settings settings' : MemorySettings) (options : Options)
    (m u : MemoryTable) (s t : RunState MemoryStore MemoryStore) (done : Migration)
    (r r' : RunState MemoryStore MemoryStore) (result : TableMigration) : Prop where
  source : r.source.tables = s.source.tables
  stored : u.StoredIn r.target.tables
  ran : migrateTable (.inMemory settings settings') options m.described u.described r =
    (.ok result, r')
  left : t.target.table u.name = r'.target.table u.name
  counted : done.tables.filter (fun result => result.table == m.name) = [result]

private theorem others_of_nodup {before after : List MemoryTable}
    (distinct : ((before ++ m :: after).map MemoryTable.key).Nodup)
    (same : Text.sameAscii u.name m.name = true) {m' : MemoryTable}
    (member : m' ∈ before ++ after) : Text.sameAscii u.name m'.name = false := by
  rw [List.map_append, List.map_cons, List.nodup_middle, List.nodup_cons,
    ← List.map_append] at distinct
  rw [Bool.eq_false_iff]
  intro also
  refine distinct.1 (List.mem_map.mpr ⟨m', member, ?_⟩)
  exact (Text.sameAscii_iff.mp also).symm.trans (Text.sameAscii_iff.mp same)

private theorem eq_described_of_table {schema : Schema} {tables : List MemoryTable}
    (describes : schema.Describes tables) (named : Named tables) (plain : Text.IsPlain m.name)
    (member : u ∈ tables) (same : Text.sameAscii u.name m.name = true) {found : Table}
    (looked : schema.table m.described.key = .ok found) : found = u.described := by
  rw [describes.table_eq named plain] at looked
  cases partner : m.partner? tables with
  | none =>
    rw [partner] at looked
    cases looked
  | some u' =>
    rw [partner] at looked
    cases looked
    obtain ⟨here, also, -⟩ := MemoryTable.partner?_eq_some partner
    rw [List.inj_on_of_nodup_map named.names_distinct here member
      ((Text.sameAscii_iff.mp also).trans (Text.sameAscii_iff.mp same).symm)]

private theorem exists_hasTurn (source : Named s.source.tables) (target : Named s.target.tables)
    (ran : run (.inMemory settings settings') options s = (.ok done, t))
    (m_mem : m ∈ s.source.tables) (u_mem : u ∈ s.target.tables)
    (same : Text.sameAscii u.name m.name = true) (some : m.columns ≠ []) :
    ∃ r r' result, HasTurn settings settings' options m u s t done r r' result := by
  obtain ⟨pair, l, x, y, passage⟩ := exists_passage source target ran
  obtain ⟨before, after, rfl⟩ := List.append_of_mem ((passage.mem_iff m).mpr ⟨m_mem, some⟩)
  have named : Named x.target.tables := by rwa [passage.target_begin]
  have stored : u.StoredIn x.target.tables :=
    ⟨named.names_distinct, by rwa [passage.target_begin]⟩
  have plain (m' : MemoryTable) (member : m' ∈ before ++ m :: after) : Text.IsPlain m'.name :=
    source.names_plain m' ((passage.mem_iff m').mp member).1
  have plain_target : Text.IsPlain u.name := target.names_plain u u_mem
  have others (m' : MemoryTable) (member : m' ∈ before ++ after) :
      Text.sameAscii u.name m'.name = false :=
    others_of_nodup passage.distinct same member
  -- The turns before that of `m` and the turns behind it leave the pair alone.
  have copied := passage.copied
  rw [migrateTables, passage.listed, List.map_append, List.map_cons] at copied
  obtain ⟨bs, result, bs', r, r', whole, first, turn, last⟩ :=
    Run.exists_of_mapList_append copied
  have first : migrateTables (.inMemory settings settings') options
      ⟨⟨before.map MemoryTable.described⟩, pair.target⟩ x = (.ok bs, r) := first
  have last : migrateTables (.inMemory settings settings') options
      ⟨⟨after.map MemoryTable.described⟩, pair.target⟩ r' = (.ok bs', y) := last
  have entered : Apart u.name bs x r :=
    migrateTables_apart (fun m' member => plain m' (List.mem_append_left _ member)) named
      passage.describes (fun m' member => others m' (List.mem_append_left _ member)) first
  have there : u.StoredIn r.target.tables := by
    have found := entered.target.trans (MemoryStore.table_eq stored)
    refine ⟨?_, (MemoryStore.table_ok found).1⟩
    rw [MemoryStore.map_key_of_map_emptied entered.shape]
    exact named.names_distinct
  obtain ⟨target', r₀, looked, turn⟩ := Run.exists_of_bind_ok turn
  obtain ⟨found, rfl⟩ := Prod.mk.inj looked
  obtain rfl : target' = u.described :=
    eq_described_of_table passage.describes named (source.names_plain m m_mem) stored.member same
      found
  have moved : let r' := (migrateTable (.inMemory settings settings') options m.described
        u.described r).2
      r'.source.tables = r.source.tables ∧
        Evolves (fun name => Text.sameAscii name u.name = true)
          (fun _ => options.migration.truncateFirst = true) r.target r'.target :=
    migrateTable_evolves plain_target rfl there
  rw [turn] at moved
  have shape := moved.2.map_emptied.trans entered.shape
  have ended : Apart u.name bs' r' y :=
    migrateTables_apart (fun m' member => plain m' (by simp [member]))
      (named.of_map_emptied shape) (passage.describes.of_map_emptied shape)
      (fun m' member => others m' (List.mem_append_right _ member)) last
  have named_result : result.table = m.name :=
    (migrateTable_names _ m.described u.described).success trivial (congrArg Prod.fst turn)
  refine ⟨r, r', result, entered.source.trans passage.source_begin, there, turn, ?_, ?_⟩
  · rw [← ended.target, MemoryStore.table, MemoryStore.table, passage.target_end]
  · rw [whole, List.filter_append, List.filter_cons_of_pos (by simp [named_result]),
      entered.filter_eq_nil same, ended.filter_eq_nil same, List.nil_append]

private theorem left_of_no_columns (source : Named s.source.tables) (target : Named s.target.tables)
    (ran : run (.inMemory settings settings') options s = (.ok done, t))
    (m_mem : m ∈ s.source.tables) (u_mem : u ∈ s.target.tables)
    (same : Text.sameAscii u.name m.name = true) (none : m.columns = []) :
    t.target.table u.name = .ok u ∧
      done.tables.filter (fun result => result.table == m.name) = [] := by
  obtain ⟨pair, l, x, y, passage⟩ := exists_passage source target ran
  have others (m' : MemoryTable) (member : m' ∈ l) : Text.sameAscii u.name m'.name = false := by
    rw [Bool.eq_false_iff]
    intro also
    obtain ⟨here, some⟩ := (passage.mem_iff m').mp member
    rw [List.inj_on_of_nodup_map source.names_distinct here m_mem
      ((Text.sameAscii_iff.mp also).symm.trans (Text.sameAscii_iff.mp same))] at some
    exact some none
  have copied := passage.copied
  rw [migrateTables, passage.listed] at copied
  have apart : Apart u.name done.tables x y :=
    migrateTables_apart
      (fun m' member => source.names_plain m' ((passage.mem_iff m').mp member).1)
      (by rwa [passage.target_begin]) passage.describes others copied
  constructor
  · have kept := MemoryStore.table_eq ⟨target.names_distinct, u_mem⟩
    rw [MemoryStore.table, ← passage.target_begin, ← MemoryStore.table, ← apart.target,
      MemoryStore.table, ← passage.target_end] at kept
    exact kept
  · exact apart.filter_eq_nil same

end Common

section Pairs

variable {settings₂ : MemorySettings} {s s₂ t t₂ : RunState MemoryStore MemoryStore}
  {done done₂ : Migration} (source : Legible s.source.tables) (target : Legible s.target.tables)
  (source₂ : Legible s₂.source.tables) (m_mem : m ∈ s.source.tables)
  (m_mem₂ : m ∈ s₂.source.tables) (u_mem : u ∈ s.target.tables)
include source target source₂ m_mem m_mem₂ u_mem

private theorem same_of_hasTurn {r r' r₂ r₂' : RunState MemoryStore MemoryStore}
    {result result₂ : TableMigration}
    (turn : HasTurn settings settings' options m u s t done r r' result)
    (turn₂ : HasTurn settings₂ settings' options m u s₂ t₂ done₂ r₂ r₂' result₂) :
    result = result₂ ∧ ∃ more, let u' : MemoryTable :=
        { u with rows := (if options.migration.truncateFirst then [] else u.rows) ++ more }
      t.target.table u.name = .ok u' ∧ t₂.target.table u.name = .ok u' := by
  have stored : m.StoredIn r.source.tables := by
    rw [turn.source]
    exact ⟨source.names_distinct, m_mem⟩
  have stored₂ : m.StoredIn r₂.source.tables := by
    rw [turn₂.source]
    exact ⟨source₂.names_distinct, m_mem₂⟩
  -- The turns begin in states that need not agree on anything but the pair.
  have states : AlikeAt m u r r₂ := by
    refine ⟨?_, ?_, ?_, ?_⟩
    · rw [MemoryStore.table_eq stored, MemoryStore.table_eq stored₂]
    · rw [turn.source]
      exact source.columns_plain
    · rw [turn₂.source]
      exact source₂.columns_plain
    · rw [MemoryStore.table_eq turn.stored, MemoryStore.table_eq turn₂.stored]
  have plain := target.names_plain u u_mem
  have both := migrateTable_alike settings settings₂ settings' options
    (source.names_plain m m_mem) (source.columns_plain m m_mem) plain
    (target.columns_plain u u_mem) r r₂ states
  rw [turn.ran, turn₂.ran] at both
  obtain ⟨outcomes, -, -, -, left⟩ := both
  obtain ⟨more, kept⟩ := exists_stored_of_migrateTable plain rfl turn.stored turn.ran
  have final := MemoryStore.table_eq kept
  refine ⟨?_, more, turn.left.trans final, turn₂.left.trans (left.symm.trans final)⟩
  cases outcomes with
  | ok equal => exact equal

private theorem same_of_pair (target₂ : Legible s₂.target.tables)
    (u_mem₂ : u ∈ s₂.target.tables) (same : Text.sameAscii u.name m.name = true)
    (ran : run (.inMemory settings settings') options s = (.ok done, t))
    (ran₂ : run (.inMemory settings₂ settings') options s₂ = (.ok done₂, t₂)) :
    done.tables.filter (fun result => result.table == m.name) =
        done₂.tables.filter (fun result => result.table == m.name) ∧
      ∃ more, let u' : MemoryTable := { u with rows :=
          (if options.migration.truncateFirst = true ∧ m.columns ≠ [] then [] else u.rows) ++
            more }
        t.target.table u.name = .ok u' ∧ t₂.target.table u.name = .ok u' := by
  by_cases none : m.columns = []
  · obtain ⟨left, counted⟩ :=
      left_of_no_columns source.toNamed target.toNamed ran m_mem u_mem same none
    obtain ⟨left₂, counted₂⟩ :=
      left_of_no_columns source₂.toNamed target₂.toNamed ran₂ m_mem₂ u_mem₂ same none
    refine ⟨counted.trans counted₂.symm, [], ?_⟩
    rw [if_neg fun both => both.2 none, List.append_nil]
    exact ⟨left, left₂⟩
  · obtain ⟨r, r', result, turn⟩ :=
      exists_hasTurn source.toNamed target.toNamed ran m_mem u_mem same none
    obtain ⟨r₂, r₂', result₂, turn₂⟩ :=
      exists_hasTurn source₂.toNamed target₂.toNamed ran₂ m_mem₂ u_mem₂ same none
    obtain ⟨equal, more, left⟩ :=
      same_of_hasTurn source target source₂ m_mem m_mem₂ u_mem turn turn₂
    refine ⟨by rw [turn.counted, turn₂.counted, equal], more, ?_⟩
    simpa only [none, ne_eq, not_false_eq_true, and_true] using left

end Pairs

/-- Migrations append and nothing else. Wherever one ends, the source is as it was, and a table of
the destination is what it was, or nothing where it was emptied, with more rows behind; it is the
same if the source has no partner for it. And tables do not matter to each other: two migrations
that succeed do the same to a table, and count the same, if they find the same table and the same
partner there. -/
theorem run_appends_apart (settings settings₂ settings' : MemorySettings) (options : Options)
    {s s₂ : RunState MemoryStore MemoryStore} (source : Legible s.source.tables)
    (target : Legible s.target.tables) (source₂ : Legible s₂.source.tables)
    (target₂ : Legible s₂.target.tables) :
    let ran := run (.inMemory settings settings') options s
    let ran₂ := run (.inMemory settings₂ settings') options s₂
    (ran.2.source.tables = s.source.tables ∧
      Evolves (fun name => ∃ m ∈ s.source.tables, m.columns ≠ [] ∧
          Text.sameAscii name m.name = true)
        (fun _ => options.migration.truncateFirst = true) s.target ran.2.target ∧
      (options.migration.truncateFirst = false →
        List.Forall₂ (fun u u' => ∃ more, u' = { u with rows := u.rows ++ more })
          s.target.tables ran.2.target.tables)) ∧
    ∀ done done₂, ran.1 = .ok done → ran₂.1 = .ok done₂ →
      ∀ m ∈ s.source.tables, m ∈ s₂.source.tables →
        ∀ u ∈ s.target.tables, u ∈ s₂.target.tables → Text.sameAscii u.name m.name = true →
          done.tables.filter (fun result => result.table == m.name) =
            done₂.tables.filter (fun result => result.table == m.name) ∧
          ∃ more, let u' : MemoryTable := { u with rows :=
              (if options.migration.truncateFirst = true ∧ m.columns ≠ [] then []
                else u.rows) ++ more }
            ran.2.target.table u.name = .ok u' ∧ ran₂.2.target.table u.name = .ok u' := by
  intro ran ran₂
  have evolved : ran.2.source.tables = s.source.tables ∧
      Evolves (fun name => ∃ m ∈ s.source.tables, m.columns ≠ [] ∧
          Text.sameAscii name m.name = true)
        (fun _ => options.migration.truncateFirst = true) s.target ran.2.target :=
    run_evolves source.toNamed target.toNamed
  refine ⟨⟨evolved.1, evolved.2, fun keeps => evolved.2.appended fun _ first => ?_⟩, ?_⟩
  · rw [keeps] at first
    cases first
  · intro done done₂ success success₂ m m_mem m_mem₂ u u_mem u_mem₂ same
    exact same_of_pair source target source₂ m_mem m_mem₂ u_mem target₂ u_mem₂ same
      (Run.eq_of_outcome success) (Run.eq_of_outcome success₂)

private def peopleTable : MemoryTable :=
  ⟨"people", [⟨"id", "integer", none⟩, ⟨"name", "text", none⟩],
    [[.int32 1, .text "Ada"], [.int32 2, .text "Bo"]]⟩

private def peoplePartner : MemoryTable :=
  ⟨"People", [⟨"Name", "text", none⟩, ⟨"ID", "int", none⟩], [[.text "Di", .int64 1]]⟩

private def peopleAmongOthers : RunState MemoryStore MemoryStore where
  source := { tables := [⟨"notes", [⟨"line", "text", none⟩], [[.text "a"]]⟩, peopleTable] }
  target := { tables := [peoplePartner, ⟨"Notes", [⟨"line", "text", none⟩], []⟩,
    ⟨"archive", [⟨"id", "int", none⟩], [[.int64 7]]⟩] }

private def peopleOnly : RunState MemoryStore MemoryStore where
  source := { tables := [peopleTable] }
  target := { tables := [peoplePartner] }

/-- People are added to those that are there in the same way with notes around and without. -/
theorem run_appends_apart_people :
    (Legible peopleAmongOthers.source.tables ∧ Legible peopleAmongOthers.target.tables ∧
      Legible peopleOnly.source.tables ∧ Legible peopleOnly.target.tables) ∧
    ∃ t t₂,
      run (.inMemory {} {}) {} peopleAmongOthers =
        (.ok ⟨[⟨"notes", .fullRow, ⟨1, 0, 0⟩⟩, ⟨"people", .identity, ⟨1, 0, 0⟩⟩]⟩, t) ∧
      run (.inMemory {} {}) {} peopleOnly = (.ok ⟨[⟨"people", .identity, ⟨1, 0, 0⟩⟩]⟩, t₂) ∧
      t.source.tables = peopleAmongOthers.source.tables ∧
      List.Forall₂ (fun u u' => ∃ more, u' = { u with rows := u.rows ++ more })
        peopleAmongOthers.target.tables t.target.tables ∧
      ∃ more, t.target.table peoplePartner.name =
          .ok { peoplePartner with rows := peoplePartner.rows ++ more } ∧
        t₂.target.table peoplePartner.name =
          .ok { peoplePartner with rows := peoplePartner.rows ++ more } := by
  have legible : Legible peopleAmongOthers.source.tables ∧
      Legible peopleAmongOthers.target.tables ∧ Legible peopleOnly.source.tables ∧
      Legible peopleOnly.target.tables := by decide
  have success : (run (.inMemory {} {}) {} peopleAmongOthers).1 =
      .ok ⟨[⟨"notes", .fullRow, ⟨1, 0, 0⟩⟩, ⟨"people", .identity, ⟨1, 0, 0⟩⟩]⟩ := by
    decide +kernel
  have success₂ : (run (.inMemory {} {}) {} peopleOnly).1 =
      .ok ⟨[⟨"people", .identity, ⟨1, 0, 0⟩⟩]⟩ := by
    decide +kernel
  obtain ⟨⟨source, -, appended⟩, apart⟩ :=
    run_appends_apart {} {} {} {} legible.1 legible.2.1 legible.2.2.1 legible.2.2.2
  obtain ⟨-, more, left, left₂⟩ := apart _ _ success success₂ peopleTable (by decide) (by decide)
    peoplePartner (by decide) (by decide) (by decide)
  have keeps : ¬(({} : Options).migration.truncateFirst = true ∧ peopleTable.columns ≠ []) := by
    decide
  rw [if_neg keeps] at left left₂
  exact ⟨legible, _, _, Run.eq_of_outcome success, Run.eq_of_outcome success₂, source,
    appended rfl, more, left, left₂⟩

end Migration

end RowSync
