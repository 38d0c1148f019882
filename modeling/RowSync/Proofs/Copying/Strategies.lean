import RowSync.Proofs.Copying.MigrationRun
import RowSync.Proofs.Copying.Settled

/-!
A migration copies a pair of tables by one of two strategies. Each adds exactly the source rows that
its rule admits, in the order of the source, however the source is read.
-/

set_option autoImplicit false

namespace RowSync

namespace TableCopy

variable {copy : TableCopy} {options : MigrationOptions}

theorem Matched.finished_by_identity (matched : copy.Matched) (identified : copy.hasIdentity = true)
    (stored : copy.IdsStored (copy.initial options)) :
    (copy.finished options).rows = copy.initial options ++ copy.added copy.admitsById options ∧
      (copy.finished options).tally.inserted = (copy.added copy.admitsById options).length := by
  have same := matched.appended_sent identified stored
  rw [finished_rows, finished_inserted, identified, Bool.not_true, inserts_false, same]
  exact ⟨rfl, rfl⟩

theorem finished_by_values (copy : TableCopy) (options : MigrationOptions)
    (target_noId : copy.target.hasId = false) (spelled : copy.source.UuidsSpelled) :
    (copy.finished options).rows = copy.initial options ++ copy.added copy.admitsByValues options ∧
      (copy.finished options).tally.inserted =
        (copy.added copy.admitsByValues options).length := by
  have unidentified : copy.hasIdentity = false := by
    rw [hasIdentity, target_noId, Bool.and_false]
  have sent_eq : copy.sent options = copy.source.rows := by
    rw [sent, unidentified, Bool.false_and, if_neg Bool.false_ne_true]
  rw [finished_rows, finished_inserted, unidentified, Bool.not_false,
    inserts_true target_noId spelled, sent_eq]
  exact ⟨rfl, rfl⟩

theorem mem_appended {admits : List Row → Row → Bool} {there rows : List Row} {stored : Row}
    (member : stored ∈ copy.appended admits there rows) :
    ∃ row ∈ rows, stored = copy.storedRow row := by
  induction rows generalizing there with
  | nil => cases member
  | cons row rows ih =>
    have later {there : List Row} (member : stored ∈ copy.appended admits there rows) :
        ∃ row' ∈ row :: rows, stored = copy.storedRow row' := by
      obtain ⟨row', here, equal⟩ := ih member
      exact ⟨row', List.mem_cons_of_mem row here, equal⟩
    rw [appended] at member
    split at member
    · rcases List.mem_cons.mp member with rfl | member
      · exact ⟨row, List.mem_cons_self, rfl⟩
      · exact later member
    · exact later member

/-- A stored form that keeps its source rows out once it is there is appended at most once. -/
theorem count_appended_le_one {admits : List Row → Row → Bool} {rows : List Row} {stored : Row}
    (once : ∀ there, stored ∈ there → ∀ row ∈ rows, copy.storedRow row = stored →
      admits there row = false) (there : List Row) :
    (copy.appended admits there rows).count stored ≤ if stored ∈ there then 0 else 1 := by
  induction rows generalizing there with
  | nil => exact Nat.zero_le _
  | cons row rows ih =>
    have later := ih fun there here r member => once there here r (List.mem_cons_of_mem row member)
    rw [appended]
    by_cases admitted : admits there row = true
    · rw [if_pos admitted, List.count_cons]
      by_cases equal : copy.storedRow row = stored
      · have absent : stored ∉ there := fun here =>
          Bool.false_ne_true ((once there here row List.mem_cons_self equal).symm.trans admitted)
        have rest := later (there ++ [copy.storedRow row])
        rw [if_pos (by simp [equal])] at rest
        rw [if_neg absent]
        split <;> omega
      · have rest := later (there ++ [copy.storedRow row])
        have same : stored ∈ there ++ [copy.storedRow row] ↔ stored ∈ there := by
          simp [Ne.symm equal]
        simp only [same] at rest
        simpa [equal] using rest
    · rw [if_neg admitted]
      exact later there

theorem count_le_count_appended {admits : List Row → Row → Bool} {row : Row}
    (always : ∀ there, admits there row = true) (there rows : List Row) :
    rows.count row ≤ (copy.appended admits there rows).count (copy.storedRow row) := by
  induction rows generalizing there with
  | nil => exact Nat.zero_le _
  | cons r rows ih =>
    rw [appended]
    by_cases equal : r = row
    · rw [equal, if_pos (always there), List.count_cons_self, List.count_cons_self]
      exact Nat.succ_le_succ (ih _)
    · rw [List.count_cons_of_ne equal]
      split
      · exact (ih _).trans List.count_le_count_cons
      · exact ih there

theorem Matched.count_added_le_one (matched : copy.Matched) (options : MigrationOptions)
    {row : Row} (member : row ∈ copy.source.rows) (numbers : ∀ v ∈ row, v.isNaN = false) :
    (copy.added copy.admitsByValues options).count (copy.storedRow row) ≤ 1 := by
  have complete := matched.source.rows_complete
  have once : ∀ there, copy.storedRow row ∈ there → ∀ row' ∈ copy.source.rows,
      copy.storedRow row' = copy.storedRow row → copy.admitsByValues there row' = false := by
    intro there here row' member' equal
    have agreed := agrees_of_storedRow_eq matched.source.toWellNamed matched.mapped
      (complete row member) (complete row' member') numbers equal
    have found : there.any (copy.agrees copy.storedValue · row') = true :=
      List.any_eq_true.mpr ⟨_, here, agreed⟩
    rw [admitsByValues, found, Bool.not_true, Bool.and_false]
  refine (count_appended_le_one once _).trans ?_
  split
  · exact Nat.zero_le 1
  · exact Nat.le_refl 1

/-- A row with a NaN is added by its values as often as it occurs, unless it is refused. -/
theorem Matched.count_le_count_added (matched : copy.Matched) (options : MigrationOptions)
    {row : Row} (member : row ∈ copy.source.rows) (nan : ∃ v ∈ row, v.isNaN = true)
    (accepted : copy.isRefused row = false) :
    copy.source.rows.count row ≤
      (copy.added copy.admitsByValues options).count (copy.storedRow row) := by
  refine count_le_count_appended (fun there => ?_) _ _
  have alone : there.any (copy.agrees copy.storedValue · row) = false := by
    rw [List.any_eq_false]
    intro r _
    rw [not_agrees_of_isNaN (matched.source.rows_complete row member) nan]
    exact Bool.false_ne_true
  rw [admitsByValues, accepted, alone]
  rfl

private theorem fate_ne_duplicate (target_noId : copy.target.hasId = false) (probing : Bool)
    (there : List Row) (row : Row) : copy.fate probing there row ≠ .duplicate := by
  have apart : there.any (copy.sameId · (copy.storedRow row)) = false := by
    simp [sameId, target_noId]
  unfold fate
  rw [apart]
  split
  · exact RowFate.noConfusion
  · split
    · exact RowFate.noConfusion
    · exact RowFate.noConfusion

theorem duplicate_runRows (target_noId : copy.target.hasId = false) (probing : Bool)
    (s : CopyState) (rows : List Row) :
    (copy.runRows probing s rows).tally.duplicate = s.tally.duplicate := by
  induction rows generalizing s with
  | nil => rfl
  | cons row rows ih =>
    have stepped : (copy.step probing s row).tally.duplicate = s.tally.duplicate := by
      unfold step
      cases fate : copy.fate probing s.rows row with
      | duplicate => exact absurd fate (fate_ne_duplicate target_noId probing s.rows row)
      | present => rfl
      | inserted => rfl
      | failed => rfl
    rw [runRows_cons, ih, stepped]

end TableCopy

namespace Migration

variable {sourceSettings : MemorySettings} {options : Options} {copy : TableCopy}
  {s s' : RunState MemoryStore MemoryStore} {m : Migration}

/-- A pair of tables is migrated as if it were the only one. -/
theorem finished_of_run (source_wellFormed : s.source.WellFormed)
    (target_wellFormed : s.target.WellFormed) (source_mem : copy.source ∈ s.source.tables)
    (some : copy.source.columns ≠ []) (target_mem : copy.target ∈ s.target.tables)
    (same : Text.sameAscii copy.target.name copy.source.name = true)
    (ran : run (.inMemory sourceSettings copy.settings) options s = (.ok m, s')) :
    copy.Matched ∧ s'.target.rowsOf copy.target.name = (copy.finished options.migration).rows ∧
      ⟨copy.source.name, copy.strategy, (copy.finished options.migration).tally⟩ ∈ m.tables := by
  obtain ⟨result, listed, pair⟩ := exists_paired_of_run source_wellFormed target_wellFormed ran
    source_mem some target_mem same
  have target_wellNamed := (target_wellFormed.tables_wellFormed copy.target target_mem).toWellNamed
  have matched := TableCopy.matched_of_admission
    (source_wellFormed.tables_wellFormed copy.source source_mem) target_wellNamed pair.admitted
  have rows := MemoryStore.rowsOf_eq pair.left
  rw [pair.result_eq] at listed
  exact ⟨matched, rows, listed⟩

private theorem left_by_identity (source_wellFormed : s.source.WellFormed)
    (target_wellFormed : s.target.WellFormed)
    (ran : run (.inMemory sourceSettings copy.settings) options s = (.ok m, s'))
    (source_mem : copy.source ∈ s.source.tables) (target_mem : copy.target ∈ s.target.tables)
    (same : Text.sameAscii copy.target.name copy.source.name = true)
    (identified : copy.hasIdentity = true)
    (stored : copy.IdsStored (copy.initial options.migration)) :
    s'.target.rowsOf copy.target.name = copy.initial options.migration ++
        copy.added copy.admitsById options.migration ∧
      ∃ result ∈ m.tables, result.table = copy.source.name ∧ result.strategy = .identity ∧
        result.tally.inserted = (copy.added copy.admitsById options.migration).length := by
  have source_hasId : copy.source.hasId = true := ((Bool.and_eq_true _ _).mp identified).1
  obtain ⟨matched, rows, listed⟩ := finished_of_run source_wellFormed target_wellFormed source_mem
    (MemoryTable.columns_ne_nil source_hasId) target_mem same ran
  obtain ⟨rows_eq, inserted⟩ := matched.finished_by_identity identified stored
  have strategy : copy.strategy = .identity := by rw [TableCopy.strategy, identified, if_pos rfl]
  exact ⟨rows.trans rows_eq, _, listed, rfl, strategy, inserted⟩

/-- A pair of tables with identities, those of the destination being in stored form: the rows of the
destination are followed by the stored source rows whose identity was still free, and neither they
nor their number depend on how many identities are sent to the source or rows read at a time. -/
theorem run_by_identity (source_wellFormed : s.source.WellFormed)
    (target_wellFormed : s.target.WellFormed) (source_mem : copy.source ∈ s.source.tables)
    (target_mem : copy.target ∈ s.target.tables)
    (same : Text.sameAscii copy.target.name copy.source.name = true)
    (identified : copy.source.hasId = true ∧ copy.target.hasId = true)
    (stored : copy.IdsStored (copy.initial options.migration))
    (ran : run (.inMemory sourceSettings copy.settings) options s = (.ok m, s')) :
    s'.target.rowsOf copy.target.name = copy.initial options.migration ++
        copy.added copy.admitsById options.migration ∧
      (∃ result ∈ m.tables, result.table = copy.source.name ∧ result.strategy = .identity ∧
        result.tally.inserted = (copy.added copy.admitsById options.migration).length) ∧
      ∀ ids batch, ∃ m' s'', run (.inMemory sourceSettings copy.settings) { options with
          migration := { options.migration with maxInClauseIds := ids, readBatchSize := batch } }
            s = (.ok m', s'') ∧
        s''.target.rowsOf copy.target.name = s'.target.rowsOf copy.target.name ∧
        ∃ result ∈ m'.tables, result.table = copy.source.name ∧ result.strategy = .identity ∧
          result.tally.inserted = (copy.added copy.admitsById options.migration).length := by
  have both : copy.hasIdentity = true := (Bool.and_eq_true _ _).mpr identified
  obtain ⟨rows, counted⟩ := left_by_identity source_wellFormed target_wellFormed ran source_mem
    target_mem same both stored
  refine ⟨rows, counted, fun ids batch => ?_⟩
  obtain ⟨m', s'', again⟩ := exists_run_of_run source_wellFormed target_wellFormed ran ids batch
  obtain ⟨rows', counted'⟩ := left_by_identity source_wellFormed target_wellFormed again
    source_mem target_mem same both stored
  exact ⟨m', s'', again, rows'.trans rows.symm, counted'⟩

private def peopleCopy : TableCopy where
  settings := {}
  source := ⟨"people", [⟨"id", "integer", none⟩, ⟨"name", "text", none⟩],
    [[.int32 1, .text "Ada"], [.int32 2, .text "Bo"], [.int32 2, .text "Cy"]]⟩
  target := ⟨"People", [⟨"Name", "text", none⟩, ⟨"ID", "int", none⟩], [[.text "Di", .int64 1]]⟩

private def peopleStart : RunState MemoryStore MemoryStore :=
  ⟨{ tables := [peopleCopy.source] }, { tables := [peopleCopy.target] }, {}⟩

/-- One person is there, one comes twice; no limit for identities changes what is inserted. -/
theorem run_by_identity_of_people :
    ∃ m s', run (.inMemory {} {}) {} peopleStart = (.ok m, s') ∧
      s'.target.rowsOf "People" = [[.text "Di", .int64 1], [.text "Bo", .int32 2]] ∧
      (∃ result ∈ m.tables, result.table = "people" ∧ result.strategy = .identity ∧
        result.tally.inserted = 1) ∧
      ∀ ids batch, ∃ m' s'', run (.inMemory {} {})
          { migration := { maxInClauseIds := ids, readBatchSize := batch } } peopleStart =
            (.ok m', s'') ∧
        s''.target.rowsOf "People" = s'.target.rowsOf "People" ∧
        ∃ result ∈ m'.tables, result.table = "people" ∧ result.strategy = .identity ∧
          result.tally.inserted = 1 := by
  have outcome : (run (.inMemory {} {}) {} peopleStart).1 =
      .ok ⟨[⟨"people", .identity, ⟨1, 1, 0⟩⟩]⟩ := by decide +kernel
  have ran : run (.inMemory {} peopleCopy.settings) {} peopleStart = (_, _) :=
    Run.eq_of_outcome outcome
  have added : peopleCopy.added peopleCopy.admitsById {} = [[.text "Bo", .int32 2]] := by
    decide +kernel
  obtain ⟨rows, counted, others⟩ := run_by_identity (by decide) (by decide)
    (by decide) (by decide) (by decide) (by decide) (by decide) ran
  rw [added] at rows counted
  refine ⟨_, _, ran, rows, counted, fun ids batch => ?_⟩
  have other := others ids batch
  rw [added] at other
  exact other

/-- A pair of tables without identities: the rows of the destination are followed by the stored
source rows that no row then there agreed with, NULL standing in the columns that the source lacks.
Nothing is a duplicate, a row without NaN is added once at most, and one with a NaN each time.
Tables without columns are left out since no description lists them. -/
theorem run_by_values (source_wellFormed : s.source.WellFormed)
    (target_wellFormed : s.target.WellFormed) (spelled : copy.source.UuidsSpelled)
    (source_mem : copy.source ∈ s.source.tables) (target_mem : copy.target ∈ s.target.tables)
    (same : Text.sameAscii copy.target.name copy.source.name = true)
    (some : copy.source.columns ≠ [])
    (unidentified : copy.source.hasId = false ∧ copy.target.hasId = false)
    (ran : run (.inMemory sourceSettings copy.settings) options s = (.ok m, s')) :
    s'.target.rowsOf copy.target.name = copy.initial options.migration ++
        copy.added copy.admitsByValues options.migration ∧
      (∃ result ∈ m.tables, result.table = copy.source.name ∧ result.strategy = .fullRow ∧
        result.tally.inserted = (copy.added copy.admitsByValues options.migration).length ∧
        result.tally.duplicate = 0) ∧
      (∀ row ∈ copy.added copy.admitsByValues options.migration,
        ∀ i, ∀ bound : i < copy.target.columns.length,
          copy.source.position? copy.target.columns[i].name = none →
            MemoryStore.cell row i = .null) ∧
      (∀ row ∈ copy.source.rows, (∀ v ∈ row, v.isNaN = false) →
        (copy.added copy.admitsByValues options.migration).count (copy.storedRow row) ≤ 1) ∧
      ∀ row ∈ copy.source.rows, (∃ v ∈ row, v.isNaN = true) → copy.isRefused row = false →
        copy.source.rows.count row ≤
          (copy.added copy.admitsByValues options.migration).count (copy.storedRow row) := by
  obtain ⟨source_noId, target_noId⟩ := unidentified
  obtain ⟨matched, rows, listed⟩ := finished_of_run source_wellFormed target_wellFormed source_mem
    some target_mem same ran
  obtain ⟨rows_eq, inserted⟩ := copy.finished_by_values options.migration target_noId spelled
  have strategy : copy.strategy = .fullRow := by
    rw [TableCopy.strategy, TableCopy.hasIdentity, source_noId, Bool.false_and,
      if_neg Bool.false_ne_true]
  have duplicate : (copy.finished options.migration).tally.duplicate = 0 :=
    TableCopy.duplicate_runRows target_noId _ _ _
  refine ⟨rows.trans rows_eq, ⟨_, listed, rfl, strategy, inserted, duplicate⟩, ?_, ?_, ?_⟩
  · intro row member i bound absent
    obtain ⟨row', -, rfl⟩ := TableCopy.mem_appended member
    exact TableCopy.cell_storedRow_of_absent bound absent
  · intro row member numbers
    exact matched.count_added_le_one options.migration member numbers
  · intro row member nan accepted
    exact matched.count_le_count_added options.migration member nan accepted

private def notesCopy : TableCopy where
  settings := {}
  source := ⟨"notes", [⟨"line", "text", none⟩, ⟨"weight", "real", none⟩],
    [[.text "a", .null], [.text "b", .float32 ⟨0x7FC00000⟩], [.text "a", .null],
      [.text "b", .float32 ⟨0x7FC00000⟩]]⟩
  target := ⟨"Notes", [⟨"mark", "text", none⟩, ⟨"Weight", "float", none⟩, ⟨"Line", "text", none⟩],
    []⟩

private def notesStart : RunState MemoryStore MemoryStore :=
  ⟨{ tables := [notesCopy.source] }, { tables := [notesCopy.target] }, {}⟩

/-- Of two equal notes one is inserted, of two with a NaN both are. -/
theorem run_by_values_of_notes :
    ∃ m s', run (.inMemory {} {}) {} notesStart = (.ok m, s') ∧
      s'.target.rowsOf "Notes" = [[.null, .null, .text "a"],
        [.null, .float32 ⟨0x7FC00000⟩, .text "b"], [.null, .float32 ⟨0x7FC00000⟩, .text "b"]] ∧
      ∃ result ∈ m.tables, result.table = "notes" ∧ result.strategy = .fullRow ∧
        result.tally.inserted = 3 ∧ result.tally.duplicate = 0 := by
  have outcome : (run (.inMemory {} {}) {} notesStart).1 =
      .ok ⟨[⟨"notes", .fullRow, ⟨3, 0, 0⟩⟩]⟩ := by decide +kernel
  have ran : run (.inMemory {} notesCopy.settings) {} notesStart = (_, _) :=
    Run.eq_of_outcome outcome
  have added : notesCopy.added notesCopy.admitsByValues {} = [[.null, .null, .text "a"],
      [.null, .float32 ⟨0x7FC00000⟩, .text "b"], [.null, .float32 ⟨0x7FC00000⟩, .text "b"]] := by
    decide +kernel
  obtain ⟨rows, counted, -⟩ := run_by_values (by decide) (by decide) (by decide)
    (by decide) (by decide) (by decide) (by decide) (by decide) ran
  rw [added] at rows counted
  exact ⟨_, _, ran, rows, counted⟩

end Migration

end RowSync
