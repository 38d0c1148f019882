import RowSync.Proofs.Copying.StoredRows
import RowSync.Proofs.Copying.VerificationRun
import RowSync.Proofs.Schema.Readable

/-!
What a verification between two stores in memory reports is exact: every source table with columns
has one finding, made of its own rows and those of its partner and of nothing else.
-/

set_option autoImplicit false

namespace RowSync

/-- Both databases can be described, and the run is not to stop with their schemas. -/
structure SchemaPair.Loadable (sourceSettings settings : MemorySettings)
    (options : DiagnosticOptions) (source target : List MemoryTable) : Prop where
  source_described : sourceSettings.failSchema = false
  target_described : settings.failSchema = false
  source_readable : ∀ t ∈ source, t.Readable
  target_readable : ∀ t ∈ target, t.Readable
  continues : (options.dumpSchemaDiff && options.stopAfterSchemaDump) = false

namespace SchemaPair

variable {sourceSettings settings : MemorySettings} {options : DiagnosticOptions}
  {source target : List MemoryTable}

private theorem exists_schemaOf {tables : List MemoryTable}
    (described : settings.failSchema = false)
    (wellNamed : MemoryStore.WellNamed tables) (readable : ∀ t ∈ tables, t.Readable) :
    ∃ s, schemaOf settings tables = .ok s := by
  obtain ⟨s, read⟩ := Schema.exists_ofRows wellNamed readable
  refine ⟨s, ?_⟩
  rw [schemaOf, rowsOf, described]
  exact read

private theorem schemaOf_ok {tables : List MemoryTable} {s : Schema}
    (read : schemaOf settings tables = .ok s) :
    settings.failSchema = false ∧ ∀ t ∈ tables, t.Readable := by
  unfold schemaOf rowsOf at read
  split at read
  · cases read
  · rename_i described
    exact ⟨by simpa using described, Schema.readable_of_ofRows read⟩

private theorem schemaOf_error {tables : List MemoryTable} {failure : Failure}
    (failed : schemaOf settings tables = .error failure) :
    ∃ message, failure = .schemaExtraction message := by
  unfold schemaOf rowsOf at failed
  split at failed
  · cases failed
    exact ⟨_, rfl⟩
  · exact Schema.addRows_error failed

theorem Loadable.exists_loaded
    (loadable : Loadable sourceSettings settings options source target)
    (source_wellNamed : MemoryStore.WellNamed source)
    (target_wellNamed : MemoryStore.WellNamed target) :
    ∃ pair, loaded sourceSettings settings options source target = .ok pair := by
  obtain ⟨s, one⟩ := exists_schemaOf loadable.source_described source_wellNamed
    loadable.source_readable
  obtain ⟨t, other⟩ := exists_schemaOf loadable.target_described target_wellNamed
    loadable.target_readable
  refine ⟨⟨s, t⟩, ?_⟩
  have goes : stopCheck options = .ok () := by
    rw [stopCheck, loadable.continues]
    rfl
  rw [loaded, one, other, goes]
  rfl

theorem loaded_of_not_loadable
    (refused : ¬Loadable sourceSettings settings options source target) :
    ∃ failure, loaded sourceSettings settings options source target = .error failure ∧
      ((∃ message, failure.innermost = .schemaExtraction message) ∨
        failure.innermost = .stopRequested) := by
  cases one : schemaOf sourceSettings source with
  | error failure =>
    obtain ⟨message, rfl⟩ := schemaOf_error one
    refine ⟨_, by rw [loaded, one]; rfl, .inl ⟨message, rfl⟩⟩
  | ok s =>
    cases other : schemaOf settings target with
    | error failure =>
      obtain ⟨message, rfl⟩ := schemaOf_error other
      refine ⟨_, by rw [loaded, one, other]; rfl, .inl ⟨message, rfl⟩⟩
    | ok t =>
      have stops : (options.dumpSchemaDiff && options.stopAfterSchemaDump) = true := by
        by_contra continues
        have readable := schemaOf_ok one
        have readable' := schemaOf_ok other
        exact refused ⟨readable.1, readable'.1, readable.2, readable'.2, by simpa using continues⟩
      have stopped : stopCheck options = .error .stopRequested := by
        rw [stopCheck, if_pos stops]
      exact ⟨.stopRequested, by rw [loaded, one, other, stopped]; rfl, .inr rfl⟩

theorem loadable_of_loaded {pair : SchemaPair}
    (success : loaded sourceSettings settings options source target = .ok pair) :
    Loadable sourceSettings settings options source target := by
  by_contra refused
  obtain ⟨failure, failed, -⟩ := loaded_of_not_loadable refused
  rw [failed] at success
  cases success

end SchemaPair

namespace TableCopy

variable (copy : TableCopy)

/-- The source rows that no row of the destination agrees with, in their order. -/
def lacking : List Row :=
  copy.source.rows.filter fun row => !copy.target.rows.any (copy.agrees copy.storedValue · row)

/-- The identity of a source row as text, its time as the destination stores it. -/
def idText (row : Row) : String := (copy.normalized (copy.source.idOf row)).idText

/-- The first source column without a column of its name in the destination. -/
def unmatched? : Option MemoryColumn :=
  copy.source.columns.find? fun c => (copy.target.column? c.name).isNone

/-- What is to be reported about the table. -/
def finding : TableVerification :=
  match copy.unmatched? with
  | some c =>
    ⟨copy.source.name, {}, some (Failure.columnNotFound copy.target.name c.name).message⟩
  | none =>
    ⟨copy.source.name, ⟨copy.lacking.length,
      if copy.source.hasId then copy.lacking.map copy.idText else []⟩, none⟩

section Findings

variable {copy}

private theorem matchColumns_eq {target : MemoryTable} (named : target.WellNamed)
    {columns : List MemoryColumn} (plain : ∀ c ∈ columns, Text.IsPlain c.name) :
    match columns.find? fun c => (target.column? c.name).isNone with
    | some c => (TablePlan.matchColumns target.described
        (columns.map MemoryColumn.described)).1 = .error (.columnNotFound target.name c.name)
    | none => ∃ ds, (TablePlan.matchColumns target.described
        (columns.map MemoryColumn.described)).1 = .ok ds := by
  induction columns with
  | nil => exact ⟨[], rfl⟩
  | cons c columns ih =>
    have lookup := MemoryTable.find?_described named (plain c List.mem_cons_self)
    have rest := ih fun d member => plain d (List.mem_cons_of_mem c member)
    rw [List.find?_cons, List.map_cons, TablePlan.matchColumns, Table.lookup, Table.column]
    change Table.find? target.described (Text.lower c.described.name) = _ at lookup
    rw [lookup]
    cases found : target.column? c.name with
    | none => rfl
    | some d =>
      simp only [Option.isNone_some, Option.map_some]
      cases search : columns.find? fun c => (target.column? c.name).isNone with
      | some e =>
        rw [search] at rest
        simp only [rest]
        rfl
      | none =>
        rw [search] at rest
        obtain ⟨ds, matched⟩ := rest
        simp only [matched]
        exact ⟨_, rfl⟩

private theorem rowId?_eq {plan : TablePlan} {pairs : ColumnMatches}
    (planned : copy.Planned plan pairs) (named : copy.source.WellNamed) {row : Row}
    (complete : row.length = copy.source.columns.length) :
    (plan.rowId? (row.map copy.normalized)).toList =
      if copy.source.hasId then [copy.idText row] else [] := by
  rw [TablePlan.rowId?, planned.source_eq, MemoryTable.identityIndex?_described named,
    MemoryTable.hasId]
  cases position : copy.source.position? "id" with
  | none => rfl
  | some i =>
    have bound : i < row.length := complete ▸ MemoryTable.position?_lt position
    have cell : copy.source.idOf row = row[i] := by
      simp [MemoryTable.idOf, position, MemoryStore.cell, List.getD_eq_getElem?_getD, bound]
    simp [idText, cell, bound]

private theorem foldl_countMissing {plan : TablePlan} {pairs : ColumnMatches}
    (planned : copy.Planned plan pairs) (named : copy.source.WellNamed) {rows : List Row}
    (complete : ∀ row ∈ rows, row.length = copy.source.columns.length) (missing : MissingRows) :
    let left := rows.filter fun row => !copy.target.rows.any (copy.agrees copy.probedValue · row)
    rows.foldl (copy.countMissing plan) missing =
      ⟨missing.count + left.length,
        missing.ids ++ if copy.source.hasId then left.map copy.idText else []⟩ := by
  induction rows generalizing missing with
  | nil => simp
  | cons row rows ih =>
    have rest := ih (fun r member => complete r (List.mem_cons_of_mem row member))
    rw [List.foldl_cons, rest, countMissing]
    by_cases present : copy.target.rows.any (copy.agrees copy.probedValue · row) = true
    · simp [present]
    · have id := rowId?_eq planned named (complete row List.mem_cons_self)
      simp only [if_neg present, id]
      cases copy.source.hasId with
      | true => simp [present, Nat.add_assoc, Nat.add_comm]
      | false => simp [present, Nat.add_assoc, Nat.add_comm]

theorem table_verified (copy : TableCopy) : copy.verified.table = copy.source.name := by
  rw [verified]
  split <;> rfl

/-- What a verification reports is what is to be reported. The spelling of types only matters where
rows are compared. -/
theorem verified_eq_finding (source : copy.source.WellFormed) (target : copy.target.WellNamed)
    (spelled : copy.unmatched? = none → copy.source.UuidsSpelled) :
    copy.verified = copy.finding := by
  have matched := matchColumns_eq target source.columns_plain
  change match copy.unmatched? with | some c => _ | none => _ at matched
  unfold verified finding
  cases unmatched : copy.unmatched? with
  | some c =>
    rw [unmatched] at matched
    have refused : copy.plan = .error (.columnNotFound copy.target.name c.name) := by
      rw [plan, TablePlan.make]
      change Except.map _ (TablePlan.matchColumns copy.target.described
        (copy.source.columns.map MemoryColumn.described)).1 = _
      rw [matched]
      rfl
    rw [refused]
  | none =>
    rw [unmatched] at matched
    obtain ⟨ds, matched⟩ := matched
    have made : ∃ plan, copy.plan = .ok plan := by
      rw [plan, TablePlan.make]
      change ∃ plan, Except.map _ (TablePlan.matchColumns copy.target.described
        (copy.source.columns.map MemoryColumn.described)).1 = _
      rw [matched]
      exact ⟨_, rfl⟩
    obtain ⟨plan, made⟩ := made
    obtain ⟨pairs, planned⟩ := copy.planned_of_plan source.toWellNamed target made
    have counted := foldl_countMissing planned source.toWellNamed source.rows_complete {}
    have same : copy.lacking = copy.source.rows.filter fun row =>
        !copy.target.rows.any (copy.agrees copy.probedValue · row) := by
      simp only [lacking, agrees_probedValue (spelled unmatched)]
    rw [made, same]
    simp only [missing]
    rw [counted]
    simp

end Findings

end TableCopy

/-- The stores that a verification is exact about. -/
structure Verification.Comparable (settings : MemorySettings) (source target : MemoryStore) :
    Prop where
  source_wellFormed : source.WellFormed
  target_wellFormed : target.WellFormed
  partnered : ∀ m ∈ source.tables, m.columns ≠ [] → (m.partner? target.tables).isSome = true
  /-- Where rows are compared, no value makes the program panic. -/
  resolvable : ∀ m ∈ source.tables, (copyOf settings target.tables m).unmatched? = none →
    ∀ row ∈ m.rows, ∀ v ∈ row, v.isResolvable settings.resolution = true

namespace Verification

variable {sourceSettings settings : MemorySettings} {options : Options}
  {s : RunState MemoryStore MemoryStore} {v : Verification}

/-- The source tables that have columns, in increasing order of their names without case. -/
structure Visits (source tables : List MemoryTable) : Prop where
  perm : tables.Perm (source.filter fun m => !m.columns.isEmpty)
  ordered : tables.Pairwise fun m n => m.key < n.key

/-- The entry is about the table, and is what is to be reported about it. Where rows are compared,
this is said of tables whose types are spelled exactly. -/
def Reports (settings : MemorySettings) (target : List MemoryTable) (m : MemoryTable)
    (e : TableVerification) : Prop :=
  e.table = m.name ∧ (((copyOf settings target m).unmatched? = none → m.UuidsSpelled) →
    e = (copyOf settings target m).finding)

/-- What was found about the table of a name in any case. -/
def reportOn? (v : Verification) (name : String) : Option TableVerification :=
  v.tables.find? fun e => Text.sameAscii e.table name

theorem visits_of_route {target tables : List MemoryTable}
    (source_wellNamed : MemoryStore.WellNamed s.source.tables)
    (target_wellNamed : MemoryStore.WellNamed target)
    (route : Route sourceSettings settings options.diagnostics s.source.tables target tables) :
    Visits s.source.tables tables := by
  constructor
  · have distinct : s.source.tables.Nodup := source_wellNamed.names_distinct.of_map _
    rw [List.perm_ext_iff_of_nodup (route.distinct.of_map _) (distinct.filter _)]
    intro m
    simp [route.mem_iff m]
  · obtain ⟨pair, loaded, same⟩ := route.loaded
    have ordered := (SchemaPair.describes_of_loaded source_wellNamed.named target_wellNamed.named
      loaded).1.ordered
    have keyed (m : MemoryTable) (member : m ∈ tables) : m.described.key = m.key :=
      MemoryTable.key_described
        (source_wellNamed.tables_wellNamed m ((route.mem_iff m).mp member).1).name_plain
    rw [same, Schema.Ordered, List.pairwise_map] at ordered
    refine ordered.imp_of_mem fun {m n} m_mem n_mem less => ?_
    rwa [keyed m m_mem, keyed n n_mem] at less

private theorem run_verified (comparable : Comparable settings s.source s.target)
    (loadable : SchemaPair.Loadable sourceSettings settings options.diagnostics s.source.tables
      s.target.tables) :
    ∃ tables s', Visits s.source.tables tables ∧
      run (.inMemory sourceSettings settings) options s =
        (.ok ⟨tables.map fun m => (copyOf settings s.target.tables m).verified⟩, s') := by
  have source_wellNamed := comparable.source_wellFormed.wellNamed
  have target_wellNamed := comparable.target_wellFormed.wellNamed
  obtain ⟨pair, loaded⟩ := loadable.exists_loaded source_wellNamed target_wellNamed
  obtain ⟨tables, route⟩ := exists_route source_wellNamed.named target_wellNamed.named loaded
  have partnered : ∀ m ∈ tables, ∃ t, m.partner? s.target.tables = some t := by
    intro m member
    obtain ⟨here, some⟩ := (route.mem_iff m).mp member
    exact Option.isSome_iff_exists.mp (comparable.partnered m here some)
  obtain ⟨outcome, -⟩ :=
    run_yields comparable.source_wellFormed target_wellNamed route partnered s rfl rfl
  exact ⟨tables, _, visits_of_route source_wellNamed target_wellNamed route, Prod.ext outcome rfl⟩

private theorem reports_verified (comparable : Comparable settings s.source s.target) {m : MemoryTable}
    (member : m ∈ s.source.tables) (some : m.columns ≠ []) :
    Reports settings s.target.tables m (copyOf settings s.target.tables m).verified := by
  obtain ⟨t, found⟩ := Option.isSome_iff_exists.mp (comparable.partnered m member some)
  have partner := (comparable.target_wellFormed.tables_wellFormed t
    (MemoryTable.partner?_eq_some found).1).toWellNamed
  have copied : copyOf settings s.target.tables m = ⟨settings, m, t⟩ := by
    rw [copyOf, found, Option.getD_some]
  rw [Reports, copied]
  exact ⟨TableCopy.table_verified _, TableCopy.verified_eq_finding
    (comparable.source_wellFormed.tables_wellFormed m member) partner⟩

private theorem run_refused (refused : ¬SchemaPair.Loadable sourceSettings settings
      options.diagnostics s.source.tables s.target.tables) :
    ∃ failure s', run (.inMemory sourceSettings settings) options s = (.error failure, s') ∧
      ((∃ message, failure.innermost = .schemaExtraction message) ∨
        failure.innermost = .stopRequested) := by
  obtain ⟨failure, loaded, reason⟩ := SchemaPair.loaded_of_not_loadable refused
  have read : (SchemaPair.load (.inMemory sourceSettings settings) options.diagnostics).Yields
      s.source.tables s.target.tables (.error failure) s.target.tables :=
    loaded ▸ SchemaPair.load_yields
  have ended : (run (.inMemory sourceSettings settings) options).Yields s.source.tables
      s.target.tables (.error failure) s.target.tables := .bind_error read
  exact ⟨failure, _, Prod.ext (ended s rfl rfl).1 rfl, reason⟩

section Isolation

variable {source source' target target' tables tables' : List MemoryTable} {name : String}

private theorem find?_named_congr {l l' : List MemoryTable} {p : MemoryTable → Bool}
    (distinct : (l'.map MemoryTable.key).Nodup)
    (named : ∀ t, p t = true → Text.sameAscii t.name name = true)
    (same : ∀ t, Text.sameAscii t.name name = true → (t ∈ l ↔ t ∈ l')) :
    l.find? p = l'.find? p := by
  cases found : l.find? p with
  | none =>
    symm
    rw [List.find?_eq_none] at found ⊢
    exact fun t member holds => found t ((same t (named t holds)).mpr member) holds
  | some t =>
    have holds := List.find?_some found
    have member := (same t (named t holds)).mp (List.mem_of_find?_eq_some found)
    refine (find?_of_nodup distinct member fun u here => ⟨fun also => ?_, fun shared => ?_⟩).symm
    · exact (Text.sameAscii_iff.mp (named u also)).trans
        (Text.sameAscii_iff.mp (named t holds)).symm
    · rwa [List.inj_on_of_nodup_map distinct here member shared]

private theorem Visits.nodup (visits : Visits source tables) :
    (tables.map MemoryTable.key).Nodup := by
  rw [List.Nodup, List.pairwise_map]
  exact visits.ordered.imp fun less => ne_of_lt less

theorem Visits.mem_iff (visits : Visits source tables) (m : MemoryTable) :
    m ∈ tables ↔ m ∈ source ∧ m.columns ≠ [] := by
  rw [visits.perm.mem_iff]
  simp

private theorem reportOn?_map_verified :
    reportOn? ⟨tables.map fun m => (copyOf settings target m).verified⟩ name =
      (tables.find? fun m => Text.sameAscii m.name name).map fun m =>
        (copyOf settings target m).verified := by
  have asked : ((fun e : TableVerification => Text.sameAscii e.table name) ∘ fun m =>
      (copyOf settings target m).verified) = fun m => Text.sameAscii m.name name := by
    funext m
    exact congrArg (Text.sameAscii · name) (TableCopy.table_verified _)
  rw [reportOn?, List.find?_map, asked]

private theorem Visits.reportOn?_congr (visits : Visits source tables)
    (visits' : Visits source' tables') (distinct : (target'.map MemoryTable.key).Nodup)
    (same : ∀ t, Text.sameAscii t.name name = true →
      (t ∈ source ↔ t ∈ source') ∧ (t ∈ target ↔ t ∈ target')) :
    reportOn? ⟨tables.map fun m => (copyOf settings target m).verified⟩ name =
      reportOn? ⟨tables'.map fun m => (copyOf settings target' m).verified⟩ name := by
  have sought : tables.find? (fun m => Text.sameAscii m.name name) =
      tables'.find? fun m => Text.sameAscii m.name name := by
    refine find?_named_congr visits'.nodup (fun _ => id) fun t named => ?_
    rw [visits.mem_iff, visits'.mem_iff, (same t named).1]
  rw [reportOn?_map_verified, reportOn?_map_verified, sought]
  cases found : tables'.find? fun m => Text.sameAscii m.name name with
  | none => rfl
  | some m =>
    have named : Text.sameAscii m.name name = true := by simpa using List.find?_some found
    have shared := Text.sameAscii_iff.mp named
    have partner : m.partner? target = m.partner? target' := by
      refine find?_named_congr distinct (fun t holds => ?_) fun t named => (same t named).2
      rw [Bool.and_eq_true, Text.sameAscii_iff, shared] at holds
      exact Text.sameAscii_iff.mpr holds.1
    rw [Option.map_some, Option.map_some, copyOf, copyOf, partner]

end Isolation

private theorem loadable_of_run_eq_ok {s' : RunState MemoryStore MemoryStore}
    (ran : run (.inMemory sourceSettings settings) options s = (.ok v, s')) :
    SchemaPair.Loadable sourceSettings settings options.diagnostics s.source.tables
      s.target.tables := by
  by_contra refused
  obtain ⟨failure, t, failed, -⟩ := run_refused refused
  rw [failed] at ran
  cases ran

/-- A verification of comparable stores reports exactly what is to be reported about each source
table with columns, unless a schema does not load, and what it reports about a table is the same
whatever the tables of other names are. -/
theorem run_exact (comparable : Comparable settings s.source s.target) :
    (SchemaPair.Loadable sourceSettings settings options.diagnostics s.source.tables
        s.target.tables →
      ∃ v tables s', run (.inMemory sourceSettings settings) options s = (.ok v, s') ∧
        Visits s.source.tables tables ∧
        List.Forall₂ (Reports settings s.target.tables) tables v.tables) ∧
    (¬SchemaPair.Loadable sourceSettings settings options.diagnostics s.source.tables
        s.target.tables →
      ∃ failure s', run (.inMemory sourceSettings settings) options s = (.error failure, s') ∧
        ((∃ message, failure.innermost = .schemaExtraction message) ∨
          failure.innermost = .stopRequested)) ∧
    ∀ t s' t' v v' name, Comparable settings t.source t.target →
      run (.inMemory sourceSettings settings) options s = (.ok v, s') →
      run (.inMemory sourceSettings settings) options t = (.ok v', t') →
      (∀ u, Text.sameAscii u.name name = true →
        (u ∈ s.source.tables ↔ u ∈ t.source.tables) ∧
          (u ∈ s.target.tables ↔ u ∈ t.target.tables)) →
      v.reportOn? name = v'.reportOn? name := by
  refine ⟨fun loadable => ?_, run_refused, fun t s' t' v v' name other ran ran' same => ?_⟩
  · obtain ⟨tables, s', visits, ran⟩ := run_verified comparable loadable
    refine ⟨_, tables, s', ran, visits, List.forall₂_map_right_iff.mpr ?_⟩
    refine List.forall₂_same.mpr fun m member => ?_
    obtain ⟨here, some⟩ := (visits.mem_iff m).mp member
    exact reports_verified comparable here some
  · obtain ⟨tables, _, visits, one⟩ := run_verified comparable (loadable_of_run_eq_ok ran)
    obtain ⟨tables', _, visits', two⟩ := run_verified other (loadable_of_run_eq_ok ran')
    rw [ran] at one
    rw [ran'] at two
    cases one
    cases two
    exact visits.reportOn?_congr visits' other.target_wellFormed.names_distinct same

private def exactSource : MemoryStore where
  tables := [
    ⟨"people", [⟨"id", "integer", none⟩, ⟨"since", "timestamp", none⟩],
      [[.int32 1, .dateTime ⟨⟨1999, 12, 31, by decide⟩,
        ⟨23 * 3600 + 59 * 60 + 59, 600000000, by decide, by decide⟩⟩], [.int32 2, .null]]⟩,
    ⟨"notes", [⟨"line", "text", none⟩], [[.text "a"], [.text "b"], [.text "a"]]⟩,
    ⟨"tags", [⟨"word", "text", none⟩], [[.text "c"]]⟩]

private def exactTarget : MemoryStore where
  tables := [
    ⟨"Tags", [⟨"label", "text", none⟩], []⟩,
    ⟨"Notes", [⟨"mark", "text", none⟩, ⟨"Line", "text", none⟩], [[.text "old", .text "b"]]⟩,
    ⟨"People", [⟨"Since", "datetime", none⟩, ⟨"ID", "int", none⟩],
      [[.dateTime .epoch, .int32 1]]⟩]

/-- The first person is found on the next day, the second is missing, the note that is read twice is
missing twice, and the tags have no column for their words. -/
theorem run_exact_of_people_notes_and_tags :
    ∃ v tables s', run (.inMemory {} { resolution := .rounded }) {} ⟨exactSource, exactTarget, {}⟩ =
        (.ok v, s') ∧
      Visits exactSource.tables tables ∧
      List.Forall₂ (Reports { resolution := .rounded } exactTarget.tables) tables v.tables ∧
      v.tables = [⟨"notes", ⟨2, []⟩, none⟩, ⟨"people", ⟨1, ["2"]⟩, none⟩,
        ⟨"tags", {}, some "Column word not found in table Tags"⟩] := by
  have comparable : Comparable { resolution := .rounded } exactSource exactTarget :=
    ⟨by decide, by decide, by decide, by decide⟩
  obtain ⟨v, tables, s', ran, checked⟩ : ∃ v tables s',
      run (.inMemory {} { resolution := .rounded }) {} ⟨exactSource, exactTarget, {}⟩ =
        (.ok v, s') ∧ Visits exactSource.tables tables ∧
      List.Forall₂ (Reports { resolution := .rounded } exactTarget.tables) tables v.tables :=
    (run_exact comparable).1 ⟨rfl, rfl, by decide, by decide, rfl⟩
  refine ⟨v, tables, s', ran, checked.1, checked.2, ?_⟩
  have outcome : (run (.inMemory {} { resolution := .rounded }) {}
      ⟨exactSource, exactTarget, {}⟩).1 = .ok ⟨[⟨"notes", ⟨2, []⟩, none⟩,
        ⟨"people", ⟨1, ["2"]⟩, none⟩,
        ⟨"tags", {}, some "Column word not found in table Tags"⟩]⟩ := by decide +kernel
  rw [ran] at outcome
  cases outcome
  rfl

private def guid : Bytes := [0x6b, 0xa7, 0xb8, 0x10, 0x9d, 0xad, 0x11, 0xd1, 0x80, 0xb4, 0x00, 0xc0,
  0x4f, 0xd4, 0x30, 0xc8]

private def oneTable (name : String) (columns : List MemoryColumn) (rows : List Row := []) :
    MemoryStore :=
  ⟨[⟨name, columns, rows⟩], true, [], []⟩

/-- A table without columns has no entry, a negative bound ends the run, and so does a counterpart
without columns; an identifier whose type is not spelled `uuid` is missed though its bytes are
there. -/
theorem run_inexact :
    ((oneTable "tags" []).WellFormed ∧
      ∃ s', run (.inMemory {} {}) {} ⟨oneTable "tags" [], oneTable "tags" [], {}⟩ =
        (.ok ⟨[]⟩, s')) ∧
    ((oneTable "notes" [⟨"line", "text", some (-1)⟩]).WellFormed ∧
      (oneTable "notes" [⟨"line", "text", none⟩]).WellFormed ∧
      ∃ s', run (.inMemory {} {}) {} ⟨oneTable "notes" [⟨"line", "text", some (-1)⟩],
          oneTable "notes" [⟨"line", "text", none⟩], {}⟩ =
        (.error (.context "failed to build source schema"
          (.schemaExtraction "negative bound -1 for notes.line")), s')) ∧
    ((oneTable "notes" [⟨"line", "text", none⟩]).WellFormed ∧ (oneTable "notes" []).WellFormed ∧
      ∃ s', run (.inMemory {} {}) {} ⟨oneTable "notes" [⟨"line", "text", none⟩],
          oneTable "notes" [], {}⟩ = (.error (.tableNotFound "notes"), s')) ∧
    ((oneTable "keys" [⟨"guid", "UUID", none⟩] [[.uuid ⟨guid, rfl⟩]]).WellFormed ∧
      (oneTable "keys" [⟨"guid", "binary", some 16⟩] [[.bytes guid]]).WellFormed ∧
      ∃ s', run (.inMemory {} {}) {} ⟨oneTable "keys" [⟨"guid", "UUID", none⟩]
          [[.uuid ⟨guid, rfl⟩]], oneTable "keys" [⟨"guid", "binary", some 16⟩] [[.bytes guid]],
          {}⟩ = (.ok ⟨[⟨"keys", ⟨1, []⟩, none⟩]⟩, s')) := by
  refine ⟨⟨by decide, _, Run.eq_of_outcome ?_⟩, ⟨by decide, by decide, _, Run.eq_of_outcome ?_⟩,
    ⟨by decide, by decide, _, Run.eq_of_outcome ?_⟩, by decide, by decide, _,
    Run.eq_of_outcome ?_⟩
  all_goals decide +kernel

end Verification

end RowSync
