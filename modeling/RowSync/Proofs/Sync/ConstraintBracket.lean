import RowSync.Proofs.Sync.RelatedRuns

/-!
Every call that a migration makes, and the order of the calls on the destination: whatever the
databases answer, rows are read and written there only while the checks between tables are
suspended, and suspended checks are restored by the last call.
-/

set_option autoImplicit false

namespace RowSync

/-- What a run asks of a database. Emptying a table is a statement like any other. -/
inductive Call
  | schemaRows
  | disableConstraints
  | enableConstraints
  | query (sql : String) (parameters : List Value)
  | stream (sql : String) (parameters : List Value) (size : Nat)
  | execute (sql : String) (parameters : List Value)
  | close

namespace Call

def Reads : Call → Prop
  | schemaRows | query _ _ | stream _ _ _ => True
  | disableConstraints | enableConstraints | execute _ _ | close => False

/-- The call is a statement on the rows of the destination. -/
def OnRows : Call → Prop
  | query _ _ | execute _ _ => True
  | schemaRows | disableConstraints | enableConstraints | stream _ _ _ | close => False

end Call

/-- A call and whether the database answered it without a failure. -/
structure Exchange where
  call : Call
  succeeded : Bool

/-- A database state with the calls that led to it, oldest first. -/
structure Recorded (σ : Type) where
  state : σ
  calls : List Exchange := []

namespace Database

variable {σ α : Type}

def recording (call : Call) (request : Request σ α) : Request (Recorded σ) α := fun s =>
  let (answer, state) := request s.state
  (answer, ⟨state, s.calls ++ [⟨call, answer.isOk⟩]⟩)

private theorem recording_apply (call : Call) (request : Request σ α) (s : Recorded σ) :
    recording call request s = ((request s.state).1,
      ⟨(request s.state).2, s.calls ++ [⟨call, (request s.state).1.isOk⟩]⟩) := rfl

/-- The same database with a record of its calls. -/
def recorded (db : Database σ) : Database (Recorded σ) where
  dialect := db.dialect
  schemaRows := recording .schemaRows db.schemaRows
  disableConstraints := recording .disableConstraints db.disableConstraints
  enableConstraints := recording .enableConstraints db.enableConstraints
  query := fun sql parameters => recording (.query sql parameters) (db.query sql parameters)
  stream := fun sql parameters size s =>
    let (stream, state) := db.stream sql parameters size s.state
    (stream, ⟨state, s.calls ++ [⟨.stream sql parameters size, stream.outcome.isOk⟩]⟩)
  execute := fun sql parameters => recording (.execute sql parameters) (db.execute sql parameters)
  close := recording .close db.close

end Database

variable {σ τ : Type}

def Sides.recorded (sides : Sides σ τ) : Sides (Recorded σ) (Recorded τ) :=
  ⟨sides.source.recorded, sides.target.recorded⟩

/-- The same databases with another answer to the restoring of the checks. -/
def Sides.restoring (sides : Sides σ τ) (enable : Request τ Unit) : Sides σ τ :=
  { sides with target := { sides.target with enableConstraints := enable } }

namespace RunState

/-- The state with records that are still empty. -/
def recorded (s : RunState σ τ) : RunState (Recorded σ) (Recorded τ) :=
  ⟨{ state := s.source }, { state := s.target }, s.journal⟩

def plain (s : RunState (Recorded σ) (Recorded τ)) : RunState σ τ :=
  ⟨s.source.state, s.target.state, s.journal⟩

end RunState

/-- The second state is the first with records: only reads of the source, and after some first
calls on the destination only those that are allowed. -/
structure Recording (allowed : Call → Prop) (first : List Exchange) (s : RunState σ τ)
    (s' : RunState (Recorded σ) (Recorded τ)) : Prop where
  plain : s'.plain = s
  source : ∀ e ∈ s'.source.calls, e.call.Reads
  target : ∃ more, s'.target.calls = first ++ more ∧ ∀ e ∈ more, allowed e.call

namespace Recording

variable {α : Type} {allowed : Call → Prop} {first : List Exchange} {sides : Sides σ τ}

theorem reports :
    Run.Reports (Recording allowed first : RunState σ τ → RunState _ _ → Prop) := by
  intro f s s' ⟨plain, source, target⟩
  subst plain
  exact ⟨rfl, rfl, source, target⟩

private theorem extend {calls more : List Exchange} {call : Call} (succeeded : Bool)
    (known : calls = first ++ more ∧ ∀ e ∈ more, allowed e.call) (here : allowed call) :
    ∃ more, calls ++ [⟨call, succeeded⟩] = first ++ more ∧ ∀ e ∈ more, allowed e.call := by
  refine ⟨more ++ [⟨call, succeeded⟩], by rw [known.1, List.append_assoc], ?_⟩
  intro e member
  rcases List.mem_append.mp member with old | new
  · exact known.2 e old
  · rwa [List.mem_singleton.mp new]

theorem onSource {call : Call} (request : Request σ α) (reads : call.Reads) :
    Run.Corresponds (Recording allowed first) (Run.onSource request : Run σ τ α)
      (Run.onSource (Database.recording call request)) := by
  intro s s' ⟨plain, source, target⟩
  subst plain
  refine ⟨rfl, rfl, ?_, target⟩
  intro e member
  rcases List.mem_append.mp member with old | new
  · exact source e old
  · rwa [List.mem_singleton.mp new]

theorem onTarget {call : Call} (request : Request τ α) (here : allowed call) :
    Run.Corresponds (Recording allowed first) (Run.onTarget request : Run σ τ α)
      (Run.onTarget (Database.recording call request)) := by
  intro s s' ⟨plain, source, more, known⟩
  subst plain
  exact ⟨rfl, rfl, source, extend _ known here⟩

theorem loads (rows : allowed .schemaRows) :
    SchemaPair.Alike (Recording allowed first) sides sides.recorded where
  source_dialect := rfl
  target_dialect := rfl
  reports := reports
  source_rows := onSource _ trivial
  target_rows := onTarget _ rows

theorem copies {writes : String → Prop}
    (queries : ∀ sql parameters, allowed (.query sql parameters))
    (executes : ∀ sql parameters, writes sql → allowed (.execute sql parameters)) :
    RowFlow.Alike False (Recording allowed first) (.writing writes) sides sides.recorded where
  source_dialect := rfl
  target_dialect := rfl
  reports := reports
  source_query := fun _ _ _ => onSource _ trivial
  open_stream := by
    intro options sql parameters _
    refine RowFlow.Alike.openStream_relates ((Run.Corresponds.logSql reports _ _).bind fun _ => ?_)
    intro s s' ⟨plain, source, target⟩
    subst plain
    refine ⟨rfl, rfl, ?_, target⟩
    intro e member
    rcases List.mem_append.mp member with old | new
    · exact source e old
    · rw [List.mem_singleton.mp new]
      trivial
  target_query := fun sql parameters _ => onTarget _ (queries sql parameters)
  execute := fun sql parameters written => onTarget _ (executes sql parameters written)

end Recording

namespace Migration

variable (sides : Sides σ τ) (options : Options)

/-- Recording the calls changes neither what a migration does nor what it answers, and the record
of the source shows reads only. -/
theorem run_recorded (s : RunState σ τ) :
    let ran := run sides.recorded options s.recorded
    (ran.1, ran.2.plain) = run sides options s ∧ ∀ e ∈ ran.2.source.calls, e.call.Reads := by
  have loads : SchemaPair.Alike (Recording (fun _ => True) []) sides sides.recorded :=
    Recording.loads trivial
  have copies : RowFlow.Alike False (Recording (fun _ => True) [])
      (.writing fun _ => True) sides sides.recorded :=
    Recording.copies (fun _ _ => trivial) fun _ _ _ => trivial
  have both := run_corresponds loads copies (Recording.onTarget _ trivial)
    (Recording.onTarget _ trivial) options s s.recorded ⟨rfl, by simp [RunState.recorded], [],
      rfl, by simp⟩
  exact ⟨Prod.ext both.1.symm both.2.plain, both.2.source⟩

variable {sides options} {s t u : RunState σ τ} {pair : SchemaPair} {failure : Failure}
  {answer : Outcome SchemaPair}

theorem run_of_load_error
    (loaded : SchemaPair.load sides options.diagnostics s = (.error failure, t)) :
    run sides options s = (.error failure, t) := by
  rw [run, Run.bind_apply, loaded]

private theorem run_of_suspend_error
    (loaded : SchemaPair.load sides options.diagnostics s = (.ok pair, t))
    (suspended : suspendConstraints sides t = (.error failure, u)) :
    run sides options s = (.error failure, u) := by
  rw [run, Run.bind_apply, loaded]
  simp only [Run.bind_apply, suspended]

private theorem onTarget_apply {α : Type} (request : Request τ α) (s : RunState σ τ) :
    Run.onTarget request s =
      ((request s.target).1, ⟨s.source, (request s.target).2, s.journal⟩) := rfl

theorem suspendConstraints_apply (sides : Sides σ τ) (s : RunState σ τ) :
    ∃ journal, suspendConstraints sides s =
      (Outcome.within (sides.target.disableConstraints s.target).1
        "failed to disable constraints",
      ⟨s.source, (sides.target.disableConstraints s.target).2, journal⟩) := by
  simp only [suspendConstraints, Run.notify, Run.report, Run.bind_apply, Run.within,
    onTarget_apply]
  cases sides.target.disableConstraints s.target with
  | mk outcome state => cases outcome <;> exact ⟨_, rfl⟩

private theorem restoreConstraints_apply (sides : Sides σ τ) (s : RunState σ τ) :
    ∃ journal, restoreConstraints sides s =
      (.ok (), ⟨s.source, (sides.target.enableConstraints s.target).2, journal⟩) := by
  simp only [restoreConstraints, Run.notify, Run.log, Run.report, Run.bind_apply, Run.attempt,
    onTarget_apply]
  cases sides.target.enableConstraints s.target with
  | mk outcome state => cases outcome <;> exact ⟨_, rfl⟩

theorem run_of_suspended
    (loaded : SchemaPair.load sides options.diagnostics s = (.ok pair, t))
    (suspended : suspendConstraints sides t = (.ok (), u)) :
    let copied := migrateTables sides options pair u
    ∃ journal, run sides options s = (copied.1.map Migration.mk,
      ⟨copied.2.source, (sides.target.enableConstraints copied.2.target).2, journal⟩) := by
  intro copied
  obtain ⟨journal, restored⟩ := restoreConstraints_apply sides copied.2
  have attempted : (migrateTables sides options pair).attempt u = (.ok copied.1, copied.2) := rfl
  rw [run, Run.bind_apply, loaded]
  simp only [Run.bind_apply, suspended, attempted, restored, Run.ofOutcome]
  cases copied.1 with
  | error failure => exact ⟨_, rfl⟩
  | ok tables => exact ⟨_, rfl⟩

private theorem exists_load_recorded
    (loaded : SchemaPair.load sides options.diagnostics s = (answer, t)) :
    ∃ t' : RunState (Recorded σ) (Recorded τ),
      SchemaPair.load sides.recorded options.diagnostics s.recorded = (answer, t') ∧
      t'.plain = t ∧ (∀ e ∈ t'.source.calls, e.call.Reads) ∧
      ∀ e ∈ t'.target.calls, e.call = .schemaRows := by
  have loads : SchemaPair.Alike (Recording (· = .schemaRows) []) sides sides.recorded :=
    Recording.loads rfl
  have both := loads.load_corresponds options.diagnostics s s.recorded
    ⟨rfl, by simp [RunState.recorded], [], rfl, by simp⟩
  rw [loaded] at both
  obtain ⟨same, plain, source, more, calls, rows⟩ := both
  refine ⟨_, Prod.ext same.symm rfl, plain, source, fun e member => rows e ?_⟩
  rwa [calls, List.nil_append] at member

private theorem migrateTables_recorded (sides : Sides σ τ) (options : Options)
    (pair : SchemaPair) (s : RunState (Recorded σ) (Recorded τ))
    (reads : ∀ e ∈ s.source.calls, e.call.Reads) :
    ∃ body, (∀ e ∈ body, e.call.OnRows) ∧
      (migrateTables sides.recorded options pair s).2.target.calls = s.target.calls ++ body := by
  have copies : RowFlow.Alike False (Recording Call.OnRows s.target.calls)
      (.writing fun _ => True) sides sides.recorded :=
    Recording.copies (fun _ _ => trivial) fun _ _ _ => trivial
  have both : Run.Corresponds (Recording Call.OnRows s.target.calls)
      (migrateTables sides options pair) (migrateTables sides.recorded options pair) :=
    copies.migrateTables_corresponds pair
  obtain ⟨-, -, -, body, calls, onRows⟩ := both s.plain s ⟨rfl, reads, [], by simp, by simp⟩
  exact ⟨body, onRows, calls⟩

/-- The calls on the destination once the schemas are loaded: suspending the checks comes first,
and only when it succeeds anything follows. -/
private theorem run_of_loaded
    (loaded : SchemaPair.load sides options.diagnostics s = (.ok pair, t)) :
    ∃ rows, (∀ e ∈ rows, e.call = .schemaRows) ∧
      match suspendConstraints sides t with
      | (.error failure, _) => (run sides options s).1 = .error failure ∧
        (run sides.recorded options s.recorded).2.target.calls =
          rows ++ [⟨.disableConstraints, false⟩]
      | (.ok (), u) =>
        (run sides options s).1 = (migrateTables sides options pair u).1.map Migration.mk ∧
        ∃ body restored, (∀ e ∈ body, e.call.OnRows) ∧
          (run sides.recorded options s.recorded).2.target.calls =
            rows ++ ⟨.disableConstraints, true⟩ :: body ++ [⟨.enableConstraints, restored⟩] := by
  obtain ⟨t', loaded', plain, reads, rows⟩ := exists_load_recorded loaded
  refine ⟨t'.target.calls, rows, ?_⟩
  obtain ⟨journal, suspended⟩ := suspendConstraints_apply sides t
  obtain ⟨journal', suspended'⟩ := suspendConstraints_apply sides.recorded t'
  subst plain
  cases answer : sides.target.disableConstraints t'.target.state with
  | mk outcome state =>
    have answer' : sides.recorded.target.disableConstraints t'.target =
        (outcome, ⟨state, t'.target.calls ++ [⟨.disableConstraints, outcome.isOk⟩]⟩) := by
      refine (Database.recording_apply _ sides.target.disableConstraints _).trans ?_
      rw [answer]
    rw [answer'] at suspended'
    rw [show t'.plain.target = t'.target.state from rfl, answer] at suspended
    rw [suspended]
    cases outcome with
    | error failure =>
      refine ⟨by rw [run_of_suspend_error loaded suspended], ?_⟩
      rw [run_of_suspend_error loaded' suspended']
      rfl
    | ok done =>
      let u : RunState (Recorded σ) (Recorded τ) :=
        ⟨t'.source, ⟨state, t'.target.calls ++ [⟨.disableConstraints, true⟩]⟩, journal'⟩
      have suspended' : suspendConstraints sides.recorded t' = (.ok (), u) := suspended'
      obtain ⟨end_journal, ran⟩ := run_of_suspended loaded suspended
      obtain ⟨end_journal', ran'⟩ := run_of_suspended loaded' suspended'
      obtain ⟨body, onRows, calls⟩ := migrateTables_recorded sides options pair u reads
      have ended : ∃ restored, (run sides.recorded options s.recorded).2.target.calls =
          (migrateTables sides.recorded options pair u).2.target.calls ++
            [⟨.enableConstraints, restored⟩] :=
        ⟨_, congrArg (·.2.target.calls) ran'⟩
      obtain ⟨restored, ended⟩ := ended
      refine ⟨by rw [ran], body, restored, onRows, ?_⟩
      rw [ended, calls]
      simp [u]

private theorem run_restoring (enable : Request τ Unit) :
    (run (sides.restoring enable) options s).1 = (run sides options s).1 := by
  cases loaded : SchemaPair.load sides options.diagnostics s with
  | mk answer t =>
    have loaded' : SchemaPair.load (sides.restoring enable) options.diagnostics s = (answer, t) :=
      loaded
    cases answer with
    | error failure => rw [run_of_load_error loaded, run_of_load_error loaded']
    | ok pair =>
      cases suspended : suspendConstraints sides t with
      | mk answer u =>
        have suspended' : suspendConstraints (sides.restoring enable) t = (answer, u) := suspended
        cases answer with
        | error failure =>
          rw [run_of_suspend_error loaded suspended, run_of_suspend_error loaded' suspended']
        | ok done =>
          obtain ⟨journal, ran⟩ := run_of_suspended loaded suspended
          obtain ⟨journal', ran'⟩ := run_of_suspended loaded' suspended'
          rw [ran, ran']
          rfl

/-- Whatever the databases answer, a migration leaves its source as it is, and what it asks of the
destination is one of three sequences of calls. Without schemas to go on with, it asks for nothing
else. When the checks between tables cannot be suspended, that is its last call. And when they
are, all statements on rows come next, and the restoring of the checks is the last call, whose
answer plays no part in the outcome. -/
theorem run_brackets_writes (sides : Sides σ τ) (options : Options) (s : RunState σ τ) :
    let outcome := (run sides options s).1
    let ran := run sides.recorded options s.recorded
    let calls := ran.2.target.calls
    (ran.1, ran.2.plain) = run sides options s ∧
    (∀ e ∈ ran.2.source.calls, e.call.Reads) ∧
    (match SchemaPair.load sides options.diagnostics s with
      | (.error failure, _) => outcome = .error failure ∧ ∀ e ∈ calls, e.call = .schemaRows
      | (.ok pair, t) =>
        ∃ rows, (∀ e ∈ rows, e.call = .schemaRows) ∧
          match suspendConstraints sides t with
          | (.error failure, _) =>
            outcome = .error failure ∧ calls = rows ++ [⟨.disableConstraints, false⟩]
          | (.ok (), u) =>
            outcome = (migrateTables sides options pair u).1.map Migration.mk ∧
            ∃ body restored, (∀ e ∈ body, e.call.OnRows) ∧
              calls = rows ++ ⟨.disableConstraints, true⟩ :: body ++
                [⟨.enableConstraints, restored⟩]) ∧
    ∀ enable, (run (sides.restoring enable) options s).1 = outcome := by
  intro outcome ran calls
  obtain ⟨erased, reads⟩ := run_recorded sides options s
  refine ⟨erased, reads, ?_, run_restoring⟩
  cases loaded : SchemaPair.load sides options.diagnostics s with
  | mk answer t =>
    cases answer with
    | error failure =>
      obtain ⟨t', loaded', -, -, rows⟩ := exists_load_recorded loaded
      have ended : calls = t'.target.calls :=
        congrArg (·.2.target.calls) (run_of_load_error loaded')
      exact ⟨congrArg Prod.fst (run_of_load_error loaded), by rwa [ended]⟩
    | ok pair => exact run_of_loaded loaded

end Migration

end RowSync
