import RowSync.Proofs.Copying.MigrationRun
import RowSync.Proofs.Copying.Settled

/-!
Migrating a second time changes nothing: whatever became of a source row the first time, it is not
inserted the second time, even if the second run reads the source by another statement.
-/

set_option autoImplicit false

namespace RowSync.Migration

variable {sourceSettings settings : MemorySettings} {options : Options}
  {s s' : RunState MemoryStore MemoryStore} {m : Migration}

private theorem map_table_eq {tables : List MemoryTable} {results : List TableMigration}
    (named : List.Forall₂ (fun m result => result.table = m.name) tables results) :
    results.map TableMigration.table = tables.map MemoryTable.name := by
  induction named with
  | nil => rfl
  | cons first _ ih => rw [List.map_cons, List.map_cons, first, ih]

private theorem kept_of_paired {source t : MemoryTable} {target target' : List MemoryTable}
    {result : TableMigration} {options : MigrationOptions} (source_wellFormed : source.WellFormed)
    (target_wellNamed : t.WellNamed) (numbers : source.NaNFree) (spelled : source.UuidsSpelled)
    (ids_stored : source.hasId = true → t.hasId = true →
      (⟨settings, source, t⟩ : TableCopy).IdsStored t.rows)
    (keeps : options.truncateFirst = false)
    (pair : Paired settings options target target' source t result) :
    ∃ u, source.partner? target' = some u ∧ u.StoredIn target' ∧
      (⟨settings, source, u⟩ : TableCopy).admission options = .ok () ∧
      ((⟨settings, source, u⟩ : TableCopy).finished options).rows = u.rows ∧
      ((⟨settings, source, u⟩ : TableCopy).finished options).tally.inserted = 0 := by
  let copy : TableCopy := ⟨settings, source, t⟩
  have matched : copy.Matched :=
    TableCopy.matched_of_admission source_wellFormed target_wellNamed pair.admitted
  have stored : copy.hasIdentity = true → copy.IdsStored (copy.initial options) := by
    intro identified
    obtain ⟨source_hasId, target_hasId⟩ := (Bool.and_eq_true _ _).mp identified
    rw [TableCopy.initial, keeps]
    exact ids_stored source_hasId target_hasId
  obtain ⟨rows, inserted⟩ := matched.finished_again spelled numbers stored keeps
  exact ⟨_, pair.partner?_eq, pair.left, pair.admitted, rows, inserted⟩

/-- After a migration that kept the rows of the destination, another one with the same options
succeeds, goes through the same tables, inserts nothing and leaves every table as it is. -/
theorem rerun_inserts_nothing (source_wellFormed : s.source.WellFormed)
    (target_wellFormed : s.target.WellFormed)
    (numbers : ∀ t ∈ s.source.tables, t.NaNFree)
    (spelled : ∀ t ∈ s.source.tables, t.UuidsSpelled)
    (ids_stored : ∀ m ∈ s.source.tables, ∀ t ∈ s.target.tables,
      Text.sameAscii t.name m.name = true → m.hasId = true → t.hasId = true →
        (⟨settings, m, t⟩ : TableCopy).IdsStored t.rows)
    (keeps : options.migration.truncateFirst = false)
    (ran : run (.inMemory sourceSettings settings) options s = (.ok m, s')) (journal : Journal) :
    ∃ again s'', run (.inMemory sourceSettings settings) options
        ⟨s'.source, s'.target, journal⟩ = (.ok again, s'') ∧
      again.tables.map TableMigration.table = m.tables.map TableMigration.table ∧
      (∀ result ∈ again.tables, result.tally.inserted = 0) ∧
      s''.target.tables = s'.target.tables := by
  obtain ⟨tables, route, done, source_eq⟩ :=
    exists_route_of_run_eq_ok source_wellFormed target_wellFormed ran
  have paired := paired_of_migratedAll target_wellFormed.names_distinct route.distinct done
  have kept : ∀ source ∈ tables, ∃ u, source.partner? s'.target.tables = some u ∧
      u.StoredIn s'.target.tables ∧
      (⟨settings, source, u⟩ : TableCopy).admission options.migration = .ok () ∧
      ((⟨settings, source, u⟩ : TableCopy).finished options.migration).rows = u.rows ∧
      ((⟨settings, source, u⟩ : TableCopy).finished options.migration).tally.inserted = 0 := by
    intro source member
    obtain ⟨result, -, t, pair⟩ := exists_of_forall₂ paired member
    have here := ((route.mem_iff source).mp member).1
    have partner_mem := pair.stored.member
    exact kept_of_paired (source_wellFormed.tables_wellFormed source here)
      (target_wellFormed.tables_wellFormed t partner_mem).toWellNamed (numbers source here)
      (spelled source here) (ids_stored source here t partner_mem pair.same) keeps pair
  obtain ⟨results, again, properties⟩ := migratedAll_of_kept kept
  obtain ⟨outcome, -, target_eq⟩ := run_yields source_wellFormed
    (wellNamed_of_migratedAll done target_wellFormed.wellNamed) (route_of_migratedAll done route)
    ⟨s'.source, s'.target, journal⟩ source_eq rfl
  rw [again] at outcome target_eq
  have names := map_table_eq (properties.imp fun _ _ both => both.1)
  have names' := map_table_eq (paired.imp fun _ _ pair => by
    obtain ⟨t, pair⟩ := pair
    rw [pair.result_eq])
  refine ⟨⟨results⟩, _, Prod.ext outcome rfl, names.trans names'.symm, fun result member => ?_,
    target_eq⟩
  obtain ⟨source, -, -, inserted⟩ := exists_of_forall₂ properties.flip member
  exact inserted

private def rerunOptions : Options := { migration := { maxInClauseIds := 2 } }

private def rerunSource : MemoryStore where
  tables := [
    ⟨"people", [⟨"id", "integer", none⟩, ⟨"name", "text", none⟩],
      [[.int32 1, .text "Ada"], [.int32 2, .text "Bo"], [.int32 2, .text "Cy"]]⟩,
    ⟨"notes", [⟨"line", "text", none⟩], [[.text "a"], [.text "b"], [.text "a"]]⟩]

private def rerunTarget : MemoryStore where
  tables := [
    ⟨"Notes", [⟨"mark", "text", none⟩, ⟨"Line", "text", none⟩], []⟩,
    ⟨"People", [⟨"Name", "text", none⟩, ⟨"ID", "int", none⟩], [[.text "Di", .int64 1]]⟩]

private def rerunStart : RunState MemoryStore MemoryStore := ⟨rerunSource, rerunTarget, {}⟩

/-- The first run asks the source for new identities only, the second reads every row. -/
theorem rerun_of_people_and_notes :
    ∃ m s', run (.inMemory {} {}) rerunOptions rerunStart = (.ok m, s') ∧
      m.tables = [⟨"notes", .fullRow, ⟨2, 0, 0⟩⟩, ⟨"people", .identity, ⟨1, 1, 0⟩⟩] ∧
      ∃ again s'', run (.inMemory {} {}) rerunOptions ⟨s'.source, s'.target, {}⟩ =
          (.ok again, s'') ∧
        again.tables.map TableMigration.table = m.tables.map TableMigration.table ∧
        (∀ result ∈ again.tables, result.tally.inserted = 0) ∧
        s''.target.tables = s'.target.tables := by
  have outcome : (run (.inMemory {} {}) rerunOptions rerunStart).1 =
      .ok ⟨[⟨"notes", .fullRow, ⟨2, 0, 0⟩⟩, ⟨"people", .identity, ⟨1, 1, 0⟩⟩]⟩ := by
    decide +kernel
  exact ⟨_, _, Run.eq_of_outcome outcome, rfl, rerun_inserts_nothing (by decide)
    (by decide) (by decide) (by decide) (by decide) rfl (Run.eq_of_outcome outcome) {}⟩

end RowSync.Migration
