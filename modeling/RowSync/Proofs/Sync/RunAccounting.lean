import RowSync.Database.Scripted
import RowSync.Proofs.Sync.InsertAnswers
import Mathlib.Algebra.GroupWithZero.Nat

/-!
The inserts of a whole migration: the transcript of the destination holds the answers that the
tallies of the tables count.
-/

set_option autoImplicit false

namespace RowSync

namespace Entry

def insertAnswer? : Entry → Option (Outcome Nat)
  | execute sql _ answer => if insertsRow sql then some answer else none
  | _ => none

/-- The answers to inserts, oldest first. -/
def insertAnswers (entries : List Entry) : List (Outcome Nat) := entries.filterMap insertAnswer?

theorem insertAnswers_append (entries more : List Entry) :
    insertAnswers (entries ++ more) = insertAnswers entries ++ insertAnswers more :=
  List.filterMap_append

theorem insertAnswers_quiet (entries : List Entry) {more : List Entry}
    (quiet : ∀ e ∈ more, e.insertAnswer? = none) :
    insertAnswers (entries ++ more) = insertAnswers entries := by
  rw [insertAnswers_append, insertAnswers, insertAnswers,
    List.filterMap_eq_nil_iff.mpr quiet, List.append_nil]

theorem IsQuestion.insertAnswer?_eq {e : Entry} (question : e.IsQuestion) :
    e.insertAnswer? = none := by
  cases e with
  | query => rfl
  | _ => exact question.elim

end Entry

theorem Fate.insertAnswers_trail {plan : TablePlan} (insert : insertsRow plan.insertSql = true)
    {rows : List Row} : ∀ {fates : List Fate}, fates.length = rows.length →
      Entry.insertAnswers (trail plan rows fates) = fates.filterMap answer? := by
  induction rows with
  | nil =>
    intro fates length
    rw [List.length_eq_zero_iff.mp length]
    rfl
  | cons row rows ih =>
    intro fates length
    cases fates with
    | nil => cases length
    | cons fate fates =>
      have later := ih (Nat.succ.inj length)
      have inserted (answer : Outcome Nat) :
          (Entry.execute plan.insertSql row answer).insertAnswer? = some answer := if_pos insert
      have here : Entry.insertAnswers (fate.entries plan row) = fate.answer?.toList := by
        cases fate with
        | found rows => rfl
        | missed rows answer =>
          exact (List.filterMap_cons_none rfl).trans (List.filterMap_cons_some (inserted answer))
        | unprobed answer => exact List.filterMap_cons_some (inserted answer)
      have parts : trail plan (row :: rows) (fate :: fates) =
          fate.entries plan row ++ trail plan rows fates := rfl
      rw [parts, Entry.insertAnswers_append, here, later]
      cases fate <;> rfl

namespace Migration

variable {σ τ : Type}

def Answered (answers : List (Outcome Nat)) (s : RunState (Transcript σ) (Transcript τ)) : Prop :=
  Entry.insertAnswers s.target.entries = answers

private def Counted (answers : List (Outcome Nat)) (tally : Tally)
    (s : RunState (Transcript σ) (Transcript τ)) : Prop :=
  ∃ more, Answered (answers ++ more) s ∧ tally = Tally.counting {} more

/-- The answers to inserts fall into parts, one for each table that is done. -/
private def Parted (done : List TableMigration) (s : RunState (Transcript σ) (Transcript τ)) :
    Prop :=
  ∃ parts : List (List (Outcome Nat)), Answered parts.flatten s ∧
    done.map (·.tally) = parts.map (Tally.counting {})

private def unsaid (_ : Failure) (_ : RunState (Transcript σ) (Transcript τ)) : Prop := True

variable {α : Type} {answers : List (Outcome Nat)} {sides : Sides σ τ} {options : Options}
  {plan : TablePlan}

private theorem silent_answered :
    Run.Silent (Answered answers : RunState (Transcript σ) (Transcript τ) → Prop) :=
  fun _ _ answered => answered

private theorem silent_counted {tally : Tally} :
    Run.Silent (Counted answers tally : RunState (Transcript σ) (Transcript τ) → Prop) :=
  fun _ _ counted => counted

private theorem target_answered (entry : Outcome α → Entry) (request : Request τ α)
    (quiet : ∀ answer, (entry answer).insertAnswer? = none) :
    Run.Triple (Answered answers : RunState (Transcript σ) (Transcript τ) → Prop)
      (Run.onTarget (Database.entering entry request)) (fun _ => Answered answers) unsaid := by
  refine .onTarget (fun s a answered _ => ?_) fun _ _ _ _ => trivial
  refine (Entry.insertAnswers_quiet _ fun e member => ?_).trans answered
  rw [List.mem_singleton.mp member]
  exact quiet _

private theorem build_answered {rows : Run (Transcript σ) (Transcript τ) (List SchemaRow)}
    (described : Run.Triple (Answered answers) rows (fun _ => Answered answers) unsaid)
    (flavor : Flavor) :
    Run.Triple (Answered answers) (SchemaPair.build rows flavor) (fun _ => Answered answers)
      unsaid := by
  refine described.bind fun rows => ?_
  refine Run.Triple.bind (.ofOutcome (fun _ _ _ answered => answered) fun _ _ _ _ => trivial)
    fun schema => ?_
  exact (Run.Triple.log silent_answered _ _).bind fun _ => .pure fun _ answered => answered

private theorem load_answered :
    Run.Triple (Answered answers) (SchemaPair.load sides.transcribed options.diagnostics)
      (fun _ => Answered answers) unsaid := by
  have source : Run.Triple (Answered answers)
      (Run.onSource sides.transcribed.source.schemaRows :
        Run (Transcript σ) (Transcript τ) (List SchemaRow)) (fun _ => Answered answers) unsaid :=
    .onSource (fun _ _ answered _ => answered) fun _ _ _ _ => trivial
  refine Run.Triple.bind (.within (build_answered source _)) fun source => ?_
  refine Run.Triple.bind (.within (build_answered
    (target_answered .schemaRows sides.target.schemaRows fun _ => rfl) _)) fun target => ?_
  refine Run.Triple.bind ?_ fun _ => .pure fun _ answered => answered
  refine .ite (fun _ => ?_) fun _ => .pure fun _ answered => answered
  refine (Run.Triple.report silent_answered _).bind fun _ => ?_
  exact .ite (fun _ => .throw fun _ _ => trivial) fun _ => .pure fun _ answered => answered

private theorem suspend_answered :
    Run.Triple (Answered answers) (suspendConstraints sides.transcribed)
      (fun _ => Answered answers) unsaid := by
  refine (Run.Triple.notify silent_answered _).bind fun _ => ?_
  refine Run.Triple.bind ?_ fun _ => .notify silent_answered _
  exact .within (target_answered .disableConstraints _ fun _ => rfl)

private theorem truncate_answered (table : String) :
    Run.Triple (Answered answers) (truncate sides.transcribed table) (fun _ => Answered answers)
      unsaid := by
  refine (Run.Triple.notify silent_answered _).bind fun _ => ?_
  refine Run.Triple.bind (.within ?_) fun _ => .notify silent_answered _
  refine .onTarget (fun s a answered _ => ?_) fun _ _ _ _ => trivial
  refine (Entry.insertAnswers_quiet _ fun e member => ?_).trans answered
  rw [List.mem_singleton.mp member, Entry.insertAnswer?, Dialect.insertsRow_truncateStatement]
  rfl

private theorem counted_of_accounted (insert : insertsRow plan.insertSql = true) {probing : Bool}
    {size : Nat} {normalize : Row → Row} {s t : RunState (Transcript σ) (Transcript τ)}
    {tally : Tally} (answered : Answered answers s)
    (account : TableAccounted plan probing size normalize s t (.ok tally)) :
    Counted answers tally t := by
  obtain _ | ⟨⟨_, asked, questions, target⟩, sql, parameters, stream, added, _, _, entries,
    account⟩ := account
  generalize Outcome.within stream.outcome _ = reader at account
  generalize ended : Except.ok tally = outcome at account
  cases account with
  | stopped => cases ended
  | finished fates length fits =>
    cases reader with
    | error failure => cases ended
    | ok count =>
      cases ended
      refine ⟨fates.filterMap Fate.answer?, ?_, rfl⟩
      have before := Entry.insertAnswers_quiet s.target.entries fun e member =>
        (questions e member).insertAnswer?_eq
      rw [Answered, entries, target, Entry.insertAnswers_append, before, answered,
        Fate.insertAnswers_trail insert length]

private theorem copyTable_answered (insert : insertsRow plan.insertSql = true) :
    Run.Triple (Answered answers) (copyTable sides.transcribed options plan) (Counted answers)
      unsaid := by
  intro s answered
  obtain ⟨outcome, label, ended, account⟩ := copyTable_accounted sides options plan s
  generalize copyTable sides.transcribed options plan s = ran at *
  obtain ⟨outcome', t⟩ := ran
  cases outcome with
  | error failure =>
    cases ended
    trivial
  | ok tally =>
    cases ended
    exact counted_of_accounted insert answered account

private theorem migrateTable_answered (source target : Table) :
    Run.Triple (Answered answers) (migrateTable sides.transcribed options source target)
      (fun result => Counted answers result.tally) unsaid := by
  refine .ite_bind (fun _ => truncate_answered target.name) ?_
  have planned : Run.Triple (Answered answers)
      (Run.reported (TablePlan.make sides.source.dialect sides.target.dialect source target))
      (fun plan s => insertsRow plan.insertSql = true ∧ Answered answers s)
      (unsaid : Failure → RunState (Transcript σ) (Transcript τ) → Prop) :=
    .reported silent_answered (fun plan made _ answered =>
      ⟨(TablePlan.make_ok made).insertsRow, answered⟩) fun _ _ _ _ => trivial
  refine planned.bind fun plan s ⟨insert, answered⟩ => ?_
  refine Run.Triple.bind (.logSql silent_answered _ _) (fun _ => ?_) s answered
  refine (Run.Triple.notify silent_answered _).bind fun _ => ?_
  refine (Run.Triple.log silent_answered _ _).bind fun _ => ?_
  refine (copyTable_answered insert).bind fun tally => ?_
  refine .ite_bind (fun _ => .log silent_counted _ _) ?_
  exact (Run.Triple.notify silent_counted _).bind fun _ => .pure fun _ counted => counted

private theorem migrateTables_answered (pair : SchemaPair) :
    Run.Triple (Answered []) (migrateTables sides.transcribed options pair) Parted unsaid := by
  have each (done : List TableMigration) (source : Table) : Run.Triple (Parted done)
      (Run.ofOutcome (pair.target.table source.key) >>= fun target =>
        migrateTable sides.transcribed options source target)
      (fun result => Parted (done ++ [result])) unsaid := by
    rintro s ⟨parts, answered, tallied⟩
    refine Run.Triple.bind (.ofOutcome (fun _ _ _ answered => answered) fun _ _ _ _ => trivial)
      (fun target => ?_) s answered
    refine (migrateTable_answered source target).mono (fun _ answered => answered)
      (fun result s counted => ?_) fun _ _ _ => trivial
    obtain ⟨more, answered, counted⟩ := counted
    refine ⟨parts ++ [more], ?_, ?_⟩
    · rwa [List.flatten_append, List.flatten_singleton]
    · rw [List.map_append, List.map_append, tallied, List.map_singleton, List.map_singleton,
        counted]
  exact Run.Triple.mono (Run.Triple.mapList (fun done source _ => each done source) [])
    (fun s answered => ⟨[], answered, rfl⟩) (fun _ _ parted => parted) fun _ _ _ => trivial

private theorem restore_parted (done : List TableMigration) :
    Run.Triple (Parted done) (restoreConstraints sides.transcribed) (fun _ => Parted done)
      unsaid := by
  have silent : Run.Silent (Parted done : RunState (Transcript σ) (Transcript τ) → Prop) :=
    fun _ _ parted => parted
  have enabled : Run.Triple (Parted done)
      (Run.onTarget sides.transcribed.target.enableConstraints).attempt (fun _ => Parted done)
      (unsaid : Failure → RunState (Transcript σ) (Transcript τ) → Prop) := by
    rintro s ⟨parts, answered, tallied⟩
    refine ⟨parts, (Entry.insertAnswers_quiet _ fun e member => ?_).trans answered, tallied⟩
    rw [List.mem_singleton.mp member]
    rfl
  refine (Run.Triple.notify silent _).bind fun _ => enabled.bind fun answer => ?_
  cases answer with
  | ok _ => exact .notify silent _
  | error failure => exact (Run.Triple.log silent _ _).bind fun _ => .notify silent _

private theorem run_answered :
    Run.Triple (Answered []) (run sides.transcribed options) (fun m => Parted m.tables)
      unsaid := by
  refine load_answered.bind fun pair => suspend_answered.bind fun _ => ?_
  let both : Outcome (List TableMigration) → RunState (Transcript σ) (Transcript τ) → Prop
    | .ok done => Parted done
    | .error _ => fun _ => True
  have tables : Run.Triple (Answered []) (migrateTables sides.transcribed options pair).attempt
      both unsaid :=
    .attempt ((migrateTables_answered pair).mono (fun _ answered => answered)
      (fun _ _ parted => parted) fun _ _ _ => trivial)
  refine tables.bind fun outcome => ?_
  have restored : Run.Triple (both outcome) (restoreConstraints sides.transcribed)
      (fun _ => both outcome) unsaid := by
    cases outcome with
    | ok done => exact restore_parted done
    | error failure =>
      intro s _
      split
      · trivial
      · trivial
  have decided : Run.Triple (both outcome) (Run.ofOutcome outcome) Parted
      (unsaid : Failure → RunState (Transcript σ) (Transcript τ) → Prop) := by
    refine .ofOutcome (fun done success s held => ?_) fun _ _ _ _ => trivial
    rw [success] at held
    exact held
  refine restored.bind fun _ => decided.bind fun done => ?_
  exact (Run.Triple.log (fun _ _ parted => parted) _ _).bind fun _ => .pure fun _ parted => parted

private theorem sum_parts (p : Outcome Nat → Bool) (count : Tally → Nat)
    (counts : ∀ answers, count (Tally.counting {} answers) = answers.countP p)
    {tallies : List Tally} {parts : List (List (Outcome Nat))}
    (tallied : tallies = parts.map (Tally.counting {})) :
    (tallies.map count).sum = parts.flatten.countP p := by
  subst tallied
  induction parts with
  | nil => rfl
  | cons part parts ih =>
    rw [List.map_cons, List.map_cons, List.sum_cons, ih, counts, List.flatten_cons,
      List.countP_append]

/-- Inserts are accounted for, whatever they are answered. Each row of a table has its fate, in the
order of the stream, unless a probe gives no verdict; no answer to an insert has a say in whether
the migration fails; and a migration that succeeds reports the counts of the answers. -/
theorem inserts_accounted (sides : Sides σ τ) (options : Options) :
    (∀ (plan : TablePlan) (s : RunState (Transcript σ) (Transcript τ)),
      let ran := copyTable sides.transcribed options plan s
      ∃ outcome label, ran.1 = Outcome.within outcome label ∧
        TableAccounted plan (plan.strategy == .fullRow) options.migration.readBatchSize
          (TablePlan.normalizeRow sides.target.dialect) s ran.2 outcome) ∧
    (∀ answer, Run.Relates False RunState.Agree
      (fun m m' => List.Forall₂ (TableMigration.Same True) m.tables m'.tables)
      (run sides options) (run (sides.answering answer) options)) ∧
    ∀ s : RunState σ τ,
      let ran := run sides.transcribed options s.transcribed
      (ran.1, ran.2.erased) = run sides options s ∧
      ∀ m, ran.1 = .ok m → ∃ parts : List (List (Outcome Nat)),
        Entry.insertAnswers ran.2.target.entries = parts.flatten ∧
        m.tables.map (·.tally) = parts.map (Tally.counting {}) ∧
        m.tables.map (fun t => t.tally.inserted + t.tally.duplicate + t.tally.failed) =
          parts.map List.length ∧
        m.rowsInserted = (m.tables.map (·.tally.inserted)).sum ∧
        m.rowsFailed = (m.tables.map (·.tally.failed)).sum ∧
        m.rowsInserted = (Entry.insertAnswers ran.2.target.entries).countP Tally.inserts ∧
        m.rowsFailed = (Entry.insertAnswers ran.2.target.entries).countP Tally.refuses := by
  refine ⟨copyTable_accounted sides options, fun answer => run_answering sides answer options, ?_⟩
  intro s ran
  refine ⟨Transcript.run_erased sides options s, fun m success => ?_⟩
  have empty : Answered [] s.transcribed := rfl
  obtain ⟨parts, answered, tallied⟩ : Parted m.tables ran.2 := run_answered.success empty success
  have lengths : m.tables.map (fun t => t.tally.inserted + t.tally.duplicate + t.tally.failed) =
      parts.map List.length := by
    have sums := congrArg (List.map fun t : Tally => t.inserted + t.duplicate + t.failed) tallied
    rw [List.map_map, List.map_map] at sums
    exact sums.trans (List.map_congr_left fun part _ => Tally.sum_counting part)
  have inserted := sum_parts Tally.inserts Tally.inserted
    (fun answers => Nat.zero_add _) tallied
  have refused := sum_parts Tally.refuses Tally.failed
    (fun answers => Nat.zero_add _) tallied
  rw [List.map_map] at inserted refused
  refine ⟨parts, answered, tallied, lengths, rfl, rfl, ?_, ?_⟩
  · rw [answered]
    exact inserted
  · rw [answered]
    exact refused

private def userServers : Sides Script Script where
  source := Script.database
    { dialect := .postgres, schema := .ok [⟨"users", "id", "bigint", none⟩] }
  target := Script.database
    { dialect := .mysql true, schema := .ok [⟨"users", "id", "bigint", none⟩] }

private def beforeUsers : RunState Script Script where
  source := { replies := [{ rows := [[.int64 1], [.int64 2], [.int64 3]] }] }
  target := { replies := [{}, { affected := 1 }, { affected := 0 },
    { failure? := some ((Failure.duplicateKey "3").within "users") }] }

private def usersRun :
    Except Failure Migration × RunState (Transcript Script) (Transcript Script) :=
  run userServers.transcribed {} beforeUsers.transcribed

private def usersDone : Migration := ⟨[⟨"users", .identity, ⟨1, 1, 1⟩⟩]⟩

theorem inserts_accounted_of_users :
    usersRun.1 = .ok usersDone ∧ ∃ parts : List (List (Outcome Nat)),
      Entry.insertAnswers usersRun.2.target.entries = parts.flatten ∧
      usersDone.tables.map (·.tally) = parts.map (Tally.counting {}) ∧
      usersDone.rowsInserted =
        (Entry.insertAnswers usersRun.2.target.entries).countP Tally.inserts ∧
      usersDone.rowsFailed =
        (Entry.insertAnswers usersRun.2.target.entries).countP Tally.refuses := by
  have success : usersRun.1 = .ok usersDone := by decide +kernel
  have accounts := inserts_accounted userServers {}
  obtain ⟨parts, answered, tallied, -, -, -, inserted, failed⟩ :=
    (accounts.2.2 beforeUsers).2 usersDone success
  rw [← usersRun] at answered inserted failed
  exact ⟨success, parts, answered, tallied, inserted, failed⟩

end Migration

end RowSync
