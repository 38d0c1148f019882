import RowSync.Proofs.Copying.ExactValidation

/-!
Which rows stand behind the reports of a validation between two stores in memory. Every such row
has a value that is longer than the declared bound of the column it goes to, or one that leaves a
column with a bound for a column without: there the number zero, which says that no bound is
declared, is compared with as if it were one.
-/

set_option autoImplicit false

namespace RowSync

/-- The names of the table and its columns stay whole in statements about the lengths of values. -/
structure Table.Whole (t : Table) : Prop where
  name : ¬ " WHERE ".toList <:+: t.name.toList ++ [' ']
  columns : ∀ c ∈ t.columns, WholeName c.name

instance (t : Table) : Decidable t.Whole :=
  decidable_of_iff (¬ " WHERE ".toList <:+: t.name.toList ++ [' '] ∧
    ∀ c ∈ t.columns, WholeName c.name)
    ⟨fun both => ⟨both.1, both.2⟩, fun whole => ⟨whole.name, whole.columns⟩⟩

namespace Validation

/-- The value stands in a row of a source column and goes to that destination column. -/
structure Goes (m : MemoryTable) (source target : Table) (row : Row) (c d : Column) (v : Value) :
    Prop where
  mem_source : c ∈ source.columns
  mem_target : d ∈ target.columns
  paired : c.key = d.key
  value : ∃ index, m.columnIndex c.name = .ok index ∧ v = MemoryStore.cell row index

/-- A value of the row is longer than the bound that is declared where it goes. -/
def Exceeds (m : MemoryTable) (source target : Table) (row : Row) : Prop :=
  ∃ c d v, Goes m source target row c d v ∧
    0 < d.maxChars ∧ d.maxChars < MemoryStore.valueLength v

/-- A value of the row that is not empty leaves a declared bound behind. -/
def Loosened (m : MemoryTable) (source target : Table) (row : Row) : Prop :=
  ∃ c d v, Goes m source target row c d v ∧
    0 < c.maxChars ∧ d.maxChars = 0 ∧ 0 < MemoryStore.valueLength v

/-- Behind the report stand these rows of the table, all of which are as described. -/
structure Backed (m : MemoryTable) (source : Table) (described : Row → Prop) (rows : List Row)
    (e : TableValidation) : Prop where
  table : e.table = source.name
  within : rows.Sublist m.rows
  each : ∀ row ∈ rows, described row
  counted : e.rowCount ≤ rows.length
  listed : e.rowIds = [] ∨ ∃ id ∈ source.columns, id.isIdentity = true ∧ ∃ index,
    m.columnIndex id.name = .ok index ∧
    e.rowIds = rows.map fun row => (MemoryStore.cell row index).idText

/-- The report is about rows that the store has under the name of the source table, and each of
them exceeds a bound or is let go of one. -/
def Justified (store : MemoryStore) (source target : Table) (e : TableValidation) : Prop :=
  ∃ m rows, store.table source.name = .ok m ∧
    Backed m source (fun row => Exceeds m source target row ∨ Loosened m source target row) rows e

section Pairs

variable {source target : Table} {p : ColumnPair}

/-- The columns of the pair go together, and their bounds do not say that every value fits. -/
structure Clashing (source target : Table) (p : ColumnPair) : Prop where
  mem_source : p.source ∈ source.columns
  mem_target : p.target ∈ target.columns
  paired : p.source.key = p.target.key
  unfit : isCompatible p.source p.target = false

/-- What is asked about the pair: a value in the source column may not be longer than that. -/
def limitOf (p : ColumnPair) : BoundedColumn :=
  (⟨p.source.name, p.source.dataType, none⟩, p.target.maxChars.toNat)

theorem clashing_of_incompatibleColumns {pairs : List ColumnPair}
    (found : (incompatibleColumns source target).1 = .ok pairs) :
    ∀ p ∈ pairs, Clashing source target p := by
  intro p member
  rw [incompatibleAmong_ok found, List.mem_filterMap] at member
  obtain ⟨d, here, clash⟩ := member
  obtain ⟨c, search, unfit⟩ := Option.bind_eq_some_iff.mp clash
  split at unfit
  · cases unfit
  · rename_i unfit'
    cases unfit
    exact ⟨List.mem_of_find?_eq_some search, here, by simpa using List.find?_some search,
      by simpa using unfit'⟩

/-- Of two columns that clash the destination column has a bound, or else the source column alone
has one. -/
theorem Clashing.bounds (clash : Clashing source target p)
    (source_bounded : 0 ≤ p.source.maxChars) (target_bounded : 0 ≤ p.target.maxChars) :
    0 < p.target.maxChars ∨ 0 < p.source.maxChars ∧ p.target.maxChars = 0 := by
  by_cases declared : 0 < p.target.maxChars
  · exact .inl declared
  · have undeclared : p.target.maxChars = 0 := by omega
    refine .inr ⟨?_, undeclared⟩
    by_contra open_source
    have unbounded : p.source.maxChars = 0 := by omega
    have fits := clash.unfit
    rw [isCompatible, unbounded, undeclared, beq_self_eq_true, Bool.and_self, if_pos rfl] at fits
    cases fits

variable {m : MemoryTable} {pairs : List ColumnPair}

def rowsAbove (m : MemoryTable) (pairs : List ColumnPair) : List Row :=
  m.rows.filter (MemoryStore.exceeds m (pairs.map limitOf))

/-- A row with a value above a limit exceeds a bound, or is let go of one. -/
theorem exceeds_or_loosened (source_bounded : ∀ c ∈ source.columns, 0 ≤ c.maxChars)
    (target_bounded : ∀ d ∈ target.columns, 0 ≤ d.maxChars)
    (clash : ∀ p ∈ pairs, Clashing source target p)
    (there : ∀ c ∈ pairs.map limitOf, m.columnIndex c.1.name = .ok (m.indexOf c.1)) {row : Row}
    (member : row ∈ rowsAbove m pairs) :
    Exceeds m source target row ∨ Loosened m source target row := by
  have longer := (List.mem_filter.mp member).2
  rw [MemoryStore.exceeds, List.any_map, List.any_eq_true] at longer
  obtain ⟨p, member, above⟩ := longer
  have above : p.target.maxChars.toNat <
      MemoryStore.valueLength (MemoryStore.cell row (m.indexOf (limitOf p).1)) :=
    of_decide_eq_true above
  have clashes := clash p member
  have bounded := target_bounded p.target clashes.mem_target
  have goes : Goes m source target row p.source p.target
      (MemoryStore.cell row (m.indexOf (limitOf p).1)) :=
    ⟨clashes.mem_source, clashes.mem_target, clashes.paired, _,
      there (limitOf p) (List.mem_map_of_mem member), rfl⟩
  rcases clashes.bounds (source_bounded p.source clashes.mem_source) bounded with
    declared | ⟨left, undeclared⟩
  · exact .inl ⟨p.source, p.target, _, goes, declared, by omega⟩
  · exact .inr ⟨p.source, p.target, _, goes, left, undeclared, by omega⟩

theorem whole_limits (whole : source.Whole) (clash : ∀ p ∈ pairs, Clashing source target p) :
    ∀ c ∈ pairs.map limitOf, WholeName c.1.name := by
  intro c member
  obtain ⟨p, here, rfl⟩ := List.mem_map.mp member
  exact whole.columns p.source (clash p here).mem_source

end Pairs

private theorem identity_name {id : Column} (identity : id.isIdentity = true) :
    ' ' ∉ id.name.toList ∧ ',' ∉ id.name.toList ∧
      (id.name ≠ "EXISTS" ∧ id.name ≠ "COUNT(*)") := by
  have lowered : Text.lower id.name = "id" := beq_iff_eq.mp identity
  refine ⟨fun member => ?_, fun member => ?_, ?_, ?_⟩
  · have stays := Text.mem_lower (by unfold Text.Settled; decide) member
    rw [lowered] at stays
    exact absurd stays (by decide)
  · have stays := Text.mem_lower (by unfold Text.Settled; decide) member
    rw [lowered] at stays
    exact absurd stays (by decide)
  · intro same
    rw [same] at lowered
    exact absurd lowered (by decide)
  · intro same
    rw [same] at lowered
    exact absurd lowered (by decide)

private theorem toInt_ofNat_le (n : Nat) : (Int64.ofNat n).toInt ≤ n := by
  rw [Int64.toInt_ofNat', Int.bmod, Int64.size]
  split
  · omega
  · omega

private theorem table_of_tables {s s' : MemoryStore} (same : s.tables = s'.tables) {name : String} :
    s.table name = s'.table name := by
  rw [MemoryStore.table, MemoryStore.table, same]

section Asking

variable {sourceSettings settings : MemorySettings} {options : DiagnosticOptions}
  {store : MemoryStore} {source target : Table} {pairs : List ColumnPair} {condition : String}
  {found : TableValidation}
  (whole : source.Whole) (source_bounded : ∀ c ∈ source.columns, 0 ≤ c.maxChars)
  (target_bounded : ∀ d ∈ target.columns, 0 ≤ d.maxChars)
  (clash : ∀ p ∈ pairs, Clashing source target p) (some : pairs ≠ [])
  (conditioned : condition.toList = BoundedColumn.filterText (pairs.map limitOf))
  (named : found.table = source.name)

include whole source_bounded target_bounded clash some conditioned named

theorem countRows_justified (unlisted : found.rowIds = []) :
    Finds store.tables (countRows (.inMemory sourceSettings settings) options source condition
      found) (Justified store source target) := by
  have words : (countingStatement (.plain sourceSettings.resolution) source condition).toList =
      "SELECT COUNT(*) FROM ".toList ++ (source.name.toList ++ (" WHERE ".toList ++
        BoundedColumn.filterText (pairs.map limitOf))) := by
    rw [toList_countingStatement, conditioned]
  have answered : ∀ (s : MemoryStore) (rows : List Row), s.tables = store.tables →
      (MemoryStore.query (countingStatement (.plain sourceSettings.resolution) source condition) []
        s).1 = .ok rows →
      ∃ m, store.table source.name = .ok m ∧
        (∀ c ∈ pairs.map limitOf, m.columnIndex c.1.name = .ok (m.indexOf c.1)) ∧
        rows = [[.int64 (Int64.ofNat (rowsAbove m pairs).length)]] := by
    intro s rows tables answered
    rw [← table_of_tables tables]
    exact MemoryStore.query_count_exceeding_named whole.name (by simpa using some)
      (whole_limits whole clash) words [] answered
  unfold countRows
  refine .logSql_bind (.bind (.within (.query answered)) fun rows read => ?_)
  obtain ⟨m, here, there, rfl⟩ := read
  refine .bind (R := (· ≤ ((rowsAbove m pairs).length : Int)))
    (.ofOutcome fun count counted => ?_) fun count few => .pure ?_
  · cases counted
    exact toInt_ofNat_le _
  · exact ⟨m, rowsAbove m pairs, here, named, List.filter_sublist,
      fun _ => exceeds_or_loosened source_bounded target_bounded clash there, few, .inl unlisted⟩

theorem listRows_justified {id : Column} (member : id ∈ source.columns)
    (identity : id.isIdentity = true) :
    Finds store.tables (listRows (.inMemory sourceSettings settings) options source id condition
      found) (Justified store source target) := by
  have words : (idsStatement (.plain sourceSettings.resolution) source id condition).toList =
      "SELECT ".toList ++ (id.name.toList ++ (" FROM ".toList ++ (source.name.toList ++
        (" WHERE ".toList ++ BoundedColumn.filterText (pairs.map limitOf))))) := by
    rw [toList_idsStatement, conditioned]
  have answered : ∀ (s : MemoryStore) (rows : List Row), s.tables = store.tables →
      (MemoryStore.query (idsStatement (.plain sourceSettings.resolution) source id condition) []
        s).1 = .ok rows →
      ∃ m index, store.table source.name = .ok m ∧ m.columnIndex id.name = .ok index ∧
        (∀ c ∈ pairs.map limitOf, m.columnIndex c.1.name = .ok (m.indexOf c.1)) ∧
        rows = (rowsAbove m pairs).map fun row => [MemoryStore.cell row index] := by
    intro s rows tables answered
    have name := identity_name identity
    rw [← table_of_tables tables]
    exact MemoryStore.query_column_exceeding_named whole.name (by simpa using some)
      (whole_limits whole clash) name.1 name.2.1 name.2.2 words [] answered
  unfold listRows
  refine .logSql_bind (.bind (.within (.query answered)) fun rows read => .pure ?_)
  obtain ⟨m, index, here, place, there, rfl⟩ := read
  have ids (kept : List Row) : idsIn (kept.map fun row => [MemoryStore.cell row index]) =
      kept.map fun row => (MemoryStore.cell row index).idText := by
    simp [idsIn, List.filterMap_map, Function.comp_def]
  refine ⟨m, rowsAbove m pairs, here, named, List.filter_sublist,
    fun _ => exceeds_or_loosened source_bounded target_bounded clash there, ?_, .inr ?_⟩
  · rw [ids, List.length_map]
  · exact ⟨id, member, identity, index, place, ids _⟩

end Asking

section Tables

variable {sourceSettings settings : MemorySettings} {options : DiagnosticOptions}
  {store : MemoryStore} {source target : Table}
  (whole : source.Whole) (source_bounded : ∀ c ∈ source.columns, 0 ≤ c.maxChars)
  (target_bounded : ∀ d ∈ target.columns, 0 ≤ d.maxChars)

include whole source_bounded target_bounded

theorem findRows_justified {pairs : List ColumnPair}
    (clash : ∀ p ∈ pairs, Clashing source target p) (some : pairs ≠ []) :
    Finds store.tables (findRows (.inMemory sourceSettings settings) options source target pairs)
      (Justified store source target) := by
  have conditioned : (lengthPredicate (.plain sourceSettings.resolution)
      (pairs.map fun p => (p.source, p.target))).toList =
        BoundedColumn.filterText (pairs.map limitOf) :=
    toList_lengthPredicate fun p member =>
      ⟨rfl, Int.toNat_of_nonneg (target_bounded p.target (clash p member).mem_target)⟩
  unfold findRows
  -- identities are asked for only where both tables have one, and rows are counted otherwise
  cases identified : source.identity? with
  | none =>
    exact (countRows_justified whole source_bounded target_bounded clash some conditioned rfl
      rfl).logged
  | some id =>
    cases target.hasIdentity with
    | false =>
      exact (countRows_justified whole source_bounded target_bounded clash some conditioned rfl
        rfl).logged
    | true =>
      exact (listRows_justified whole source_bounded target_bounded clash some conditioned rfl
        (List.mem_of_find?_eq_some identified) (List.find?_some identified)).logged

theorem validateTable_justified (stored : ∃ m, store.table source.name = .ok m) :
    Finds store.tables
      (validateTable (.inMemory sourceSettings settings) options source target)
      (Justified store source target) := by
  unfold validateTable
  refine .bind (.reported fun pairs => clashing_of_incompatibleColumns) fun pairs clash => ?_
  refine .ite (fun _ => .log_bind (.pure ?_)) fun some => ?_
  · obtain ⟨m, here⟩ := stored
    exact ⟨m, [], here, rfl, List.nil_sublist _, by simp, Int.le_refl 0, .inl rfl⟩
  · exact findRows_justified whole source_bounded target_bounded clash (by simpa using some)

end Tables

section Running

variable {sourceSettings settings : MemorySettings} {tables : List MemoryTable} {schema : Schema}

theorem whole_of_ofRows (read : Schema.ofRows (tables.flatMap MemoryTable.schemaRows) = .ok schema)
    (whole : ∀ m ∈ tables, m.described.Whole) : ∀ t ∈ schema.tables, t.Whole := by
  intro t member
  have recorded := Schema.recorded_of_ofRows read t member
  have origin {row : SchemaRow} (listed : row ∈ tables.flatMap MemoryTable.schemaRows) :
      ∃ m ∈ tables, row.table = m.name ∧ ∃ c ∈ m.columns, row.column = c.name := by
    obtain ⟨m, here, describing⟩ := List.mem_flatMap.mp listed
    obtain ⟨c, column, rfl⟩ := List.mem_map.mp describing
    exact ⟨m, here, rfl, c, column, rfl⟩
  constructor
  · obtain ⟨row, listed, same⟩ := recorded.named
    obtain ⟨m, here, name, -⟩ := origin listed
    rw [← same, name]
    exact (whole m here).name
  · intro c column
    obtain ⟨row, listed, -, rfl⟩ := recorded.columns c column
    obtain ⟨m, here, -, d, there, name⟩ := origin listed
    have kept := (whole m here).columns d.described (List.mem_map_of_mem there)
    rw [MemoryColumn.described, ← name] at kept
    exact kept

theorem exists_table_of_ofRows {store : MemoryStore}
    (read : Schema.ofRows (store.tables.flatMap MemoryTable.schemaRows) = .ok schema) :
    ∀ t ∈ schema.tables, ∃ m, store.table t.name = .ok m := by
  intro t member
  obtain ⟨row, listed, same⟩ := (Schema.recorded_of_ofRows read t member).named
  obtain ⟨m, here, describing⟩ := List.mem_flatMap.mp listed
  obtain ⟨c, -, rfl⟩ := List.mem_map.mp describing
  rw [MemoryStore.table]
  cases search : store.tables.find? fun u => Text.sameAscii u.name t.name with
  | some u => exact ⟨u, rfl⟩
  | none =>
    have absent := List.find?_eq_none.mp search m here
    rw [← same, Text.sameAscii_iff] at absent
    exact absurd rfl absent

/-- Behind the reports of a validation that succeeds stand only rows with a value that is longer
than a bound declared where it goes, or with one that is let go of a bound. The names in the source
must stay whole in the statements, which a store in memory takes apart without quotes. -/
theorem run_justified {options : Options} {s s' : RunState MemoryStore MemoryStore}
    {results : List TableValidation} (whole : ∀ m ∈ s.source.tables, m.described.Whole)
    (ran : run (.inMemory sourceSettings settings) options s = (.ok results, s')) :
    ∃ pair t, SchemaPair.load (.inMemory sourceSettings settings) options.diagnostics s =
        (.ok pair, t) ∧
      List.Forall₂ (fun source e => ∃ target, pair.target.table source.key = .ok target ∧
        Justified s.source source target e) pair.source.tables results := by
  obtain ⟨pair, t, read, ran⟩ := Run.exists_of_bind_ok ran
  obtain ⟨results', t', validated, ran⟩ := Run.exists_of_bind_ok ran
  obtain ⟨-, -, -, ran⟩ := Run.exists_of_bind_ok ran
  cases ran
  obtain ⟨loaded, kept, -⟩ := SchemaPair.load_yields s rfl rfl
  rw [read] at loaded kept
  obtain ⟨source_read, target_read⟩ := SchemaPair.ofRows_of_loaded loaded.symm
  refine ⟨pair, t, read, (Run.Triple.success (Finds.mapList fun source member => ?_) kept
    (congrArg Prod.fst validated)).1⟩
  refine .bind (R := fun target => pair.target.table source.key = .ok target)
    (.within (.ofOutcome fun target => id)) fun target found => ?_
  have listed : target ∈ pair.target.tables := by
    unfold Schema.table at found
    split at found
    · rename_i search
      cases found
      exact List.mem_of_find?_eq_some search
    · cases found
  have validates : Finds s.source.tables (validateTable (.inMemory sourceSettings settings)
      options.diagnostics source target) (fun e => ∃ target,
        pair.target.table source.key = .ok target ∧ Justified s.source source target e) :=
    (validateTable_justified (whole_of_ofRows source_read whole source member)
      (Schema.bounds_of_ofRows source_read source member)
      (Schema.bounds_of_ofRows target_read target listed)
      (exists_table_of_ofRows source_read source member)).mono fun e holds =>
        ⟨target, found, holds⟩
  exact .ite (fun _ => validates) fun _ => .log_bind validates

private def boundedSource : MemoryStore where
  tables := [
    ⟨"people", [⟨"id", "integer", none⟩, ⟨"full name", "text", none⟩],
      [[.int32 1, .text "Ann"], [.int32 2, .text "Charlotte"], [.int32 3, .null]]⟩,
    ⟨"notes", [⟨"line", "varchar", some 5⟩], [[.text "four"], [.text ""], [.null]]⟩]

private def boundedTarget : MemoryStore where
  tables := [
    ⟨"notes", [⟨"line", "text", none⟩], []⟩,
    ⟨"People", [⟨"Full Name", "varchar", some 5⟩, ⟨"ID", "int", none⟩], []⟩]

/-- The person with the long name is listed, and the note is counted that is not empty. -/
theorem run_justified_people_and_notes :
    (∀ m ∈ boundedSource.tables, m.described.Whole) ∧
      ∃ pair t results s', SchemaPair.load (.inMemory {} {}) {} ⟨boundedSource, boundedTarget, {}⟩ =
        (.ok pair, t) ∧
      run (.inMemory {} {}) {} ⟨boundedSource, boundedTarget, {}⟩ = (.ok results, s') ∧
      List.Forall₂ (fun source e => ∃ target, pair.target.table source.key = .ok target ∧
        Justified boundedSource source target e) pair.source.tables results ∧
      results = [⟨"notes", ["line"], [], 1⟩, ⟨"people", ["Full Name"], ["2"], 1⟩] := by
  have whole : ∀ m ∈ boundedSource.tables, m.described.Whole := by decide +kernel
  have outcome : (run (.inMemory {} {}) {} ⟨boundedSource, boundedTarget, {}⟩).1 =
      .ok [⟨"notes", ["line"], [], 1⟩, ⟨"people", ["Full Name"], ["2"], 1⟩] := by decide +kernel
  have ran := Run.eq_of_outcome outcome
  obtain ⟨pair, t, read, justified⟩ := run_justified whole ran
  exact ⟨whole, pair, t, _, _, read, ran, justified, rfl⟩

private def looseSource : MemoryStore where
  tables := [⟨"notes", [⟨"line", "varchar", some 5⟩], [[.text "Ann"]]⟩]

private def looseTarget : MemoryStore where
  tables := [⟨"notes", [⟨"line", "text", none⟩], []⟩]

/-- A row is counted although no bound is declared where its only value goes. -/
theorem fitting_row_counted :
    ∃ pair t e s', SchemaPair.load (.inMemory {} {}) {} ⟨looseSource, looseTarget, {}⟩ =
        (.ok pair, t) ∧
      run (.inMemory {} {}) {} ⟨looseSource, looseTarget, {}⟩ = (.ok [e], s') ∧
      ∃ source ∈ pair.source.tables, ∃ target, pair.target.table source.key = .ok target ∧
        (∀ d ∈ target.columns, d.maxChars = 0) ∧
        ∀ m rows, ¬ Backed m source (Exceeds m source target) rows e := by
  have outcome : (run (.inMemory {} {}) {} ⟨looseSource, looseTarget, {}⟩).1 =
      .ok [⟨"notes", ["line"], [], 1⟩] := by decide +kernel
  have schemas : ((SchemaPair.load (.inMemory {} {}) {} ⟨looseSource, looseTarget, {}⟩).1.map
      fun pair => (pair.source, pair.target)) =
      .ok (⟨[⟨"notes", [⟨"line", "varchar", 5⟩]⟩]⟩, ⟨[⟨"notes", [⟨"line", "text", 0⟩]⟩]⟩) := by
    decide +kernel
  cases read : SchemaPair.load (.inMemory {} {}) {} ⟨looseSource, looseTarget, {}⟩ with
  | mk answer t =>
    rw [read] at schemas
    cases answer with
    | error failure => cases schemas
    | ok pair =>
      obtain ⟨source, target⟩ := pair
      obtain ⟨rfl, rfl⟩ := Prod.mk.inj (Except.ok.inj schemas)
      refine ⟨_, t, _, _, rfl, Run.eq_of_outcome outcome, _, List.mem_singleton_self _,
        ⟨"notes", [⟨"line", "text", 0⟩]⟩, by decide +kernel, by decide, fun m rows backed => ?_⟩
      cases rows with
      | nil => exact absurd backed.counted (by decide)
      | cons row rows =>
        obtain ⟨c, d, v, goes, declared, -⟩ := backed.each row List.mem_cons_self
        obtain rfl := List.mem_singleton.mp goes.mem_target
        exact absurd declared (by decide)

end Running

end Validation

end RowSync
