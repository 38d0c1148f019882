import RowSync.Proofs.Copying.Settled
import RowSync.Proofs.Copying.VerificationRun

/-!
A verification right after a migration finds what the migration stored: the values that it looks for
are those that were inserted, so a table none of whose rows was turned down has no row missing.
-/

set_option autoImplicit false

namespace RowSync

namespace TableCopy

variable {copy : TableCopy} {options : MigrationOptions}

/-- Every source row is read when rows are compared by their values, or none is there. -/
theorem sent_eq_of_fresh
    (fresh : copy.strategy = .fullRow ∨ copy.initial options = []) :
    copy.sent options = copy.source.rows := by
  unfold sent
  rcases fresh with values | empty
  · cases identified : copy.hasIdentity with
    | true =>
      rw [strategy, identified, if_pos rfl] at values
      cases values
    | false => rw [Bool.false_and, if_neg Bool.false_ne_true]
  · have none : copy.existing options = [] := by rw [existing, empty, List.map_nil]
    have unfiltered : Migration.filtersSource options (copy.existing options) = false := by
      rw [none]
      rfl
    rw [unfiltered, Bool.and_false, if_neg Bool.false_ne_true]

theorem Matched.verified_onto (matched : copy.Matched) (spelled : copy.source.UuidsSpelled)
    (numbers : copy.source.NaNFree) {plan : TablePlan} (made : copy.plan = .ok plan)
    (noDuplicate : (copy.finished options).tally.duplicate = 0)
    (noFailed : (copy.finished options).tally.failed = 0)
    (fresh : copy.strategy = .fullRow ∨ copy.initial options = []) :
    (copy.onto (copy.finished options).rows).verified = ⟨copy.source.name, {}, none⟩ := by
  have agreed : ∀ row ∈ copy.sent options, (copy.finished options).rows.any
      (copy.agrees copy.probedValue · row) = true :=
    agreed_of_clean (fun row member => matched.agrees_probedValue_storedRow spelled numbers
      (mem_of_mem_sent member)) noDuplicate noFailed
  rw [sent_eq_of_fresh fresh] at agreed
  have nothing : (copy.onto (copy.finished options).rows).missing plan = {} :=
    missing_eq_empty agreed
  have planned : (copy.onto (copy.finished options).rows).plan = .ok plan := made
  rw [verified, planned]
  dsimp only
  rw [nothing]
  rfl

end TableCopy

/-- No row of the table was turned down, and either rows were compared by their values or the table
of the destination was empty when it was its turn. -/
def TableMigration.IsClean (options : MigrationOptions) (target : MemoryStore)
    (result : TableMigration) : Prop :=
  result.tally.duplicate = 0 ∧ result.tally.failed = 0 ∧
    (result.strategy = .fullRow ∨ options.truncateFirst = true ∨
      ∃ t ∈ target.tables, Text.sameAscii t.name result.table = true ∧ t.rows = [])

instance (options : MigrationOptions) (target : MemoryStore) (result : TableMigration) :
    Decidable (result.IsClean options target) :=
  inferInstanceAs (Decidable (_ ∧ _ ∧ (_ ∨ _ ∨ ∃ t ∈ target.tables, _ ∧ _)))

def TableVerification.IsClean (check : TableVerification) : Prop :=
  check.error? = none ∧ check.missing.count = 0 ∧ check.missing.ids = []

namespace Migration

variable {sourceSettings settings : MemorySettings} {options : Options}
  {s s' : RunState MemoryStore MemoryStore} {m : Migration}

private theorem verified_of_paired {source t : MemoryTable} {result : TableMigration}
    {target' : List MemoryTable} (source_wellFormed : source.WellFormed)
    (target_wellFormed : s.target.WellFormed) (spelled : source.UuidsSpelled)
    (numbers : source.NaNFree)
    (pair : Paired settings options.migration s.target.tables target' source t result) :
    (Verification.copyOf settings target' source).verified.table = result.table ∧
      (result.IsClean options.migration s.target →
        (Verification.copyOf settings target' source).verified.IsClean) := by
  let copy : TableCopy := ⟨settings, source, t⟩
  obtain ⟨plan, made⟩ := TableCopy.plan_of_admission pair.admitted
  have copied : Verification.copyOf settings target' source =
      copy.onto (copy.finished options.migration).rows := by
    rw [Verification.copyOf, pair.partner?_eq, Option.getD_some]
    rfl
  have planned : (copy.onto (copy.finished options.migration).rows).plan = .ok plan := made
  rw [copied, pair.result_eq]
  constructor
  · rw [TableCopy.verified, planned]
    rfl
  · rintro ⟨noDuplicate, noFailed, fresh⟩
    have matched := TableCopy.matched_of_admission source_wellFormed
      (target_wellFormed.tables_wellFormed t pair.stored.member).toWellNamed pair.admitted
    have start : copy.strategy = .fullRow ∨ copy.initial options.migration = [] := by
      rcases fresh with values | truncated | ⟨u, member, same, empty⟩
      · exact .inl values
      · exact .inr (if_pos truncated)
      · have initial : copy.initial options.migration = if options.migration.truncateFirst then []
            else u.rows := by rw [pair.unique member same]; rfl
        rw [initial, empty, ite_self]
        exact .inr rfl
    rw [matched.verified_onto spelled numbers made noDuplicate noFailed start]
    exact ⟨rfl, rfl, rfl⟩

/-- A verification right after a migration reports nothing about the tables that were migrated
cleanly; when all were, the databases are in sync. -/
theorem verify_after_migrate (source_wellFormed : s.source.WellFormed)
    (target_wellFormed : s.target.WellFormed)
    (numbers : ∀ t ∈ s.source.tables, t.NaNFree)
    (spelled : ∀ t ∈ s.source.tables, t.UuidsSpelled)
    (ran : run (.inMemory sourceSettings settings) options s = (.ok m, s')) (journal : Journal) :
    ∃ v s'', Verification.run (.inMemory sourceSettings settings) options
        ⟨s'.source, s'.target, journal⟩ = (.ok v, s'') ∧
      List.Forall₂ (fun result check => check.table = result.table ∧
        (result.IsClean options.migration s.target → check.IsClean)) m.tables v.tables ∧
      ((∀ result ∈ m.tables, result.IsClean options.migration s.target) → v.inSync = true) := by
  obtain ⟨tables, route, done, source_eq⟩ :=
    exists_route_of_run_eq_ok source_wellFormed target_wellFormed ran
  have paired := paired_of_migratedAll target_wellFormed.names_distinct route.distinct done
  have partnered : ∀ source ∈ tables, ∃ t, source.partner? s'.target.tables = some t := by
    intro source member
    obtain ⟨result, -, t, pair⟩ := exists_of_forall₂ paired member
    exact ⟨_, pair.partner?_eq⟩
  obtain ⟨outcome, -⟩ := Verification.run_yields source_wellFormed
    (wellNamed_of_migratedAll done target_wellFormed.wellNamed) (route_of_migratedAll done route)
    partnered ⟨s'.source, s'.target, journal⟩ source_eq rfl
  have checks : List.Forall₂ (fun result check => check.table = result.table ∧
      (result.IsClean options.migration s.target → check.IsClean)) m.tables
      (tables.map fun source =>
        (Verification.copyOf settings s'.target.tables source).verified) := by
    rw [List.forall₂_map_right_iff]
    have known : ∀ source ∈ tables, source ∈ s.source.tables :=
      fun source member => ((route.mem_iff source).mp member).1
    have both := (List.forall₂_and_left _ _).mpr ⟨known, paired⟩
    refine (both.imp fun source result here => ?_).flip
    obtain ⟨member, t, pair⟩ := here
    exact verified_of_paired (source_wellFormed.tables_wellFormed source member) target_wellFormed
      (spelled source member) (numbers source member) pair
  refine ⟨_, _, Prod.ext outcome rfl, checks, fun clean => ?_⟩
  rw [Verification.inSync, List.all_eq_true]
  intro check listed
  obtain ⟨result, member, -, reports⟩ := exists_of_forall₂ checks.flip listed
  obtain ⟨noError, noMissing, -⟩ := reports (clean result member)
  rw [noError, noMissing]
  rfl

private def verifiedSource : MemoryStore where
  tables := [
    ⟨"people", [⟨"id", "integer", none⟩, ⟨"since", "time", none⟩],
      [[.int32 1, .time ⟨30615, 600000000, by decide, by decide⟩], [.int32 2, .null]]⟩,
    ⟨"notes", [⟨"line", "text", none⟩], [[.text "a"], [.text "b"], [.text "a"]]⟩]

private def verifiedTarget : MemoryStore where
  tables := [
    ⟨"Notes", [⟨"mark", "text", none⟩, ⟨"Line", "text", none⟩], [[.text "old", .text "b"]]⟩,
    ⟨"People", [⟨"Since", "time", none⟩, ⟨"ID", "int", none⟩], []⟩]

private def verifiedStart : RunState MemoryStore MemoryStore := ⟨verifiedSource, verifiedTarget, {}⟩

/-- People go to an empty table that rounds their times, notes to one that has one of them. -/
theorem verify_after_migrate_of_people_and_notes :
    ∃ m s', run (.inMemory {} { resolution := .rounded }) {} verifiedStart = (.ok m, s') ∧
      m.tables = [⟨"notes", .fullRow, ⟨1, 0, 0⟩⟩, ⟨"people", .identity, ⟨2, 0, 0⟩⟩] ∧
      ∃ v s'', Verification.run (.inMemory {} { resolution := .rounded }) {}
        ⟨s'.source, s'.target, {}⟩ = (.ok v, s'') ∧ v.inSync = true := by
  have outcome : (run (.inMemory {} { resolution := .rounded }) {} verifiedStart).1 =
      .ok ⟨[⟨"notes", .fullRow, ⟨1, 0, 0⟩⟩, ⟨"people", .identity, ⟨2, 0, 0⟩⟩]⟩ := by
    decide +kernel
  obtain ⟨v, s'', verified, -, inSync⟩ := verify_after_migrate (by decide)
    (by decide) (by decide) (by decide) (Run.eq_of_outcome outcome) {}
  exact ⟨_, _, Run.eq_of_outcome outcome, rfl, v, s'', verified, inSync (by decide)⟩

end Migration

end RowSync
