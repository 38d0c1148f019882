import RowSync.Proofs.Copying.MigrationRun
import RowSync.Sync.Verification

/-!
A verification between two stores in memory reports, for each source table, the rows that no row of
the destination agrees with, and leaves all tables as they are.
-/

set_option autoImplicit false

namespace RowSync

namespace TableCopy

variable (copy : TableCopy)

/-- A source row as a verification takes it: counted unless a row there agrees with it. -/
def countMissing (plan : TablePlan) (missing : MissingRows) (row : Row) : MissingRows :=
  if copy.target.rows.any (copy.agrees copy.probedValue · row) then missing
  else ⟨missing.count + 1, missing.ids ++ (plan.rowId? (row.map copy.normalized)).toList⟩

def missing (plan : TablePlan) : MissingRows := copy.source.rows.foldl (copy.countMissing plan) {}

/-- What a verification reports about the table. -/
def verified : TableVerification :=
  match copy.plan with
  | .ok plan => ⟨copy.source.name, copy.missing plan, none⟩
  | .error failure => ⟨copy.source.name, {}, some failure.message⟩

theorem missing_eq_empty {copy : TableCopy} {plan : TablePlan}
    (agreed : ∀ row ∈ copy.source.rows,
      copy.target.rows.any (copy.agrees copy.probedValue · row) = true) :
    copy.missing plan = {} := by
  have kept (rows : List Row) (within : ∀ row ∈ rows, row ∈ copy.source.rows) :
      rows.foldl (copy.countMissing plan) {} = {} := by
    induction rows with
    | nil => rfl
    | cons row rows ih =>
      have passed : copy.countMissing plan {} row = {} :=
        if_pos (agreed row (within row List.mem_cons_self))
      rw [List.foldl_cons, passed]
      exact ih fun r member => within r (List.mem_cons_of_mem row member)
  exact kept copy.source.rows fun row member => member

section Running

variable {copy : TableCopy} {plan : TablePlan} {pairs : ColumnMatches}
  {source target : List MemoryTable}

private theorem checkRow_yields (ready : copy.Ready source target)
    (planned : copy.Planned plan pairs) (settings : MemorySettings) (options : Options)
    (missing : MissingRows) (row : Row) :
    (Verification.checkRow (.inMemory settings copy.settings) options plan missing row).Yields
      source target (.ok (copy.countMissing plan missing row)) target := by
  have probed := probe_yields ready planned settings options.diagnostics copy.target.rows row
  rw [tablesWith_initial ready] at probed
  unfold Verification.checkRow countMissing
  refine .bind_ok probed ?_
  cases copy.target.rows.any (copy.agrees copy.probedValue · row) with
  | true => exact .pure _
  | false => exact .pure _

private theorem verifyTable_yields (ready : copy.Ready source target) (settings : MemorySettings)
    (options : Options) :
    (Verification.verifyTable (.inMemory settings copy.settings) options copy.source.described
      copy.target.described).Yields source target (copy.plan.map copy.missing) target := by
  have reported : (Run.reported (TablePlan.make (.plain settings.resolution)
      (.plain copy.settings.resolution) copy.source.described copy.target.described) :
      Run MemoryStore MemoryStore TablePlan).Yields source target copy.plan target := .reported _
  unfold Verification.verifyTable
  cases made : copy.plan with
  | error failure =>
    rw [made] at reported
    exact .bind_error reported
  | ok plan =>
    rw [made] at reported
    obtain ⟨pairs, planned⟩ := copy.planned_of_plan ready.source_wellFormed.toWellNamed
      ready.target_wellNamed made
    have answers (s : MemoryStore) (tables : s.tables = source) :
        MemoryStore.query plan.selectSql [] s =
          (.ok copy.source.rows, s.remember plan.selectSql) := by
      have stored := ready.source_stored
      rw [← tables] at stored
      exact planned.query_source ready.source_wellFormed ready.some stored []
    have consumed := RowFlow.consume_yields plan copy.source.rows (copy.countMissing plan) id
      (fun _ => target)
      (fun missing row _ => checkRow_yields ready planned settings options missing row) {}
      options.migration.readBatchSize
    have scanned : (Verification.scan (.inMemory settings copy.settings) options plan).Yields
        source target (.ok (copy.source.rows.length, copy.missing plan)) target :=
      .bind_ok (RowFlow.openStream_yields settings copy.settings options answers)
        (.bind_ok (.logSql _ _) consumed)
    have warned : (Verification.warnOverLimit options.migration copy.source.described.name
        copy.source.rows.length : Run MemoryStore MemoryStore Unit).Yields source target (.ok ())
        target := by
      unfold Verification.warnOverLimit
      cases options.migration.fullRowProbeLimit? with
      | none => exact .pure ()
      | some limit =>
        dsimp only
        split
        · exact .log _ _
        · exact .pure ()
    exact .bind_ok reported (.bind_ok scanned (.bind_ok warned (.pure _)))

private theorem verifyReported_yields (ready : copy.Ready source target)
    (settings : MemorySettings) (options : Options) :
    (Verification.verifyReported (.inMemory settings copy.settings) options copy.source.described
      copy.target.described).Yields source target (.ok copy.verified) target := by
  have checked := verifyTable_yields ready settings options
  unfold Verification.verifyReported verified
  cases made : copy.plan with
  | error failure =>
    rw [made] at checked
    exact .bind_ok (.notify _) (.bind_ok checked.attempt (.bind_ok (.log _ _)
      (.bind_ok (.notify _) (.pure _))))
  | ok plan =>
    rw [made] at checked
    exact .bind_ok (.notify _) (.bind_ok checked.attempt (.bind_ok (.notify _) (.pure _)))

end Running

end TableCopy

namespace Verification

variable {sourceSettings settings : MemorySettings} {options : Options}
  {target tables : List MemoryTable}

/-- The copy between a source table and its partner. -/
def copyOf (settings : MemorySettings) (target : List MemoryTable) (m : MemoryTable) : TableCopy :=
  ⟨settings, m, (m.partner? target).getD m⟩

/-- A run along its route, each of whose tables has a partner, reports about every table. -/
theorem run_yields {s : MemoryStore} (wellFormed : s.WellFormed)
    (wellNamed : MemoryStore.WellNamed target)
    (route : Route sourceSettings settings options.diagnostics s.tables target tables)
    (partnered : ∀ m ∈ tables, ∃ t, m.partner? target = some t) :
    (run (.inMemory sourceSettings settings) options).Yields s.tables target
      (.ok ⟨tables.map fun m => (copyOf settings target m).verified⟩) target := by
  obtain ⟨pair, loaded, ordered⟩ := route.loaded
  have describes := (SchemaPair.describes_of_loaded wellFormed.wellNamed.named wellNamed.named loaded).2
  have read : (SchemaPair.load (.inMemory sourceSettings settings) options.diagnostics).Yields
      s.tables target (.ok pair) target := loaded ▸ SchemaPair.load_yields
  have verified : (Run.mapList (fun source => do
      let target ← Run.ofOutcome (pair.target.table source.key)
      verifyReported (.inMemory sourceSettings settings) options source target)
        pair.source.tables).Yields s.tables target
      (.ok (tables.map fun m => (copyOf settings target m).verified)) target := by
    rw [ordered]
    refine .mapList fun m member => ?_
    obtain ⟨here, some⟩ := (route.mem_iff m).mp member
    obtain ⟨t, found⟩ := partnered m member
    have partner_mem := (MemoryTable.partner?_eq_some found).1
    have m_wellFormed := wellFormed.tables_wellFormed m here
    have ready : (⟨settings, m, t⟩ : TableCopy).Ready s.tables target :=
      ⟨m_wellFormed, wellNamed.tables_wellNamed t partner_mem, some,
        ⟨wellFormed.names_distinct, here⟩, ⟨wellNamed.names_distinct, partner_mem⟩⟩
    have outcome := describes.table_eq wellNamed.named m_wellFormed.name_plain
    rw [found] at outcome
    rw [copyOf, found, Option.getD_some, outcome]
    exact .bind_ok (.ofOutcome _) (TableCopy.verifyReported_yields ready sourceSettings options)
  exact .bind_ok read (.bind_ok verified (.bind_ok (.log _ _) (.pure _)))

end Verification

end RowSync
