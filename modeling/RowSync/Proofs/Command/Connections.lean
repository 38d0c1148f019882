import RowSync.Command.Program
import RowSync.Proofs.Failure.Contexts
import RowSync.Proofs.Sync.ReadOnly

/-!
What the program has to do with its two databases from its start to its end: no connection before
the configuration is accepted, the destination before the source, and every connection that was
opened closed once, by the last call. What closing answers matters for the log only, and the exit
status is that of the innermost failure.
-/

set_option autoImplicit false

namespace RowSync

section Alike

variable {σ τ σ' τ' α : Type} {R : RunState σ τ → RunState σ' τ' → Prop} {sides : Sides σ τ}
  {sides' : Sides σ' τ'} {s : RunState σ τ} {s' : RunState σ' τ'}

/-- The databases answer alike whatever a command asks of them. -/
structure Sides.Alike (R : RunState σ τ → RunState σ' τ' → Prop) (sides : Sides σ τ)
    (sides' : Sides σ' τ') : Prop where
  loads : SchemaPair.Alike R sides sides'
  copies : RowFlow.Alike False R (.writing fun _ => True) sides sides'
  disable : Run.Corresponds R (Run.onTarget sides.target.disableConstraints)
    (Run.onTarget sides'.target.disableConstraints)
  enable : Run.Corresponds R (Run.onTarget sides.target.enableConstraints)
    (Run.onTarget sides'.target.enableConstraints)
  journal_eq : ∀ s s', R s s' → s.journal = s'.journal

namespace Execution

structure Alike (R : RunState σ τ → RunState σ' τ' → Prop) (e : Execution σ τ)
    (e' : Execution σ' τ') : Prop where
  outcome_eq : e.outcome = e'.outcome
  output_eq : e.output = e'.output
  states : R e.state e'.state

theorem ofRun_alike (journal_eq : ∀ s s', R s s' → s.journal = s'.journal) {run : Run σ τ α}
    {run' : Run σ' τ' α} (both : Run.Corresponds R run run') (states : R s s') (json : Bool)
    (label : String) (document : α → JsonTree) (summary : α → String) :
    Alike R (ofRun json label run document summary s)
      (ofRun json label run' document summary s') := by
  obtain ⟨same, states'⟩ := both s s' states
  have journals := journal_eq _ _ states'
  unfold ofRun
  generalize run s = ended at *
  generalize run' s' = ended' at *
  obtain ⟨outcome, t⟩ := ended
  obtain ⟨outcome', t'⟩ := ended'
  dsimp only at same journals states' ⊢
  rw [same, journals]
  cases outcome' with
  | error failure => exact ⟨rfl, rfl, states'⟩
  | ok a => exact ⟨rfl, rfl, states'⟩

theorem ofArguments_alike (alike : Sides.Alike R sides sides') (states : R s s')
    (arguments : Arguments) (options : Options) (timing : Timing) :
    Alike R (ofArguments arguments options timing sides s)
      (ofArguments arguments options timing sides' s') := by
  obtain ⟨loads, copies, disable, enable, journal_eq⟩ := alike
  unfold ofArguments
  cases arguments.command with
  | migrate truncate =>
    exact ofRun_alike journal_eq (Migration.run_corresponds loads copies disable enable options)
      states ..
  | validate =>
    exact ofRun_alike journal_eq (Validation.run_corresponds copies options loads) states ..
  | verify =>
    exact ofRun_alike journal_eq (Verification.run_corresponds copies options loads) states ..

end Execution

end Alike

/-- What the program has to do with a database. -/
inductive Contact
  /-- An attempt to connect. -/
  | opening (succeeded : Bool)
  | call (exchange : Exchange)

/-- A database state with the contacts that led to it, oldest first. -/
structure Tracked (σ : Type) where
  state : σ
  contacts : List Contact := []

namespace Database

variable {σ α : Type}

/-- Makes a call and keeps track of it. -/
def tracking (call : Call) (request : Request σ α) : Request (Tracked σ) α := fun s =>
  let (answer, state) := request s.state
  (answer, ⟨state, s.contacts ++ [.call ⟨call, answer.isOk⟩]⟩)

/-- The same database with track kept of its calls. -/
def tracked (db : Database σ) : Database (Tracked σ) where
  dialect := db.dialect
  schemaRows := tracking .schemaRows db.schemaRows
  disableConstraints := tracking .disableConstraints db.disableConstraints
  enableConstraints := tracking .enableConstraints db.enableConstraints
  query := fun sql parameters => tracking (.query sql parameters) (db.query sql parameters)
  stream := fun sql parameters size s =>
    let (stream, state) := db.stream sql parameters size s.state
    (stream, ⟨state, s.contacts ++ [.call ⟨.stream sql parameters size, stream.outcome.isOk⟩]⟩)
  execute := fun sql parameters => tracking (.execute sql parameters) (db.execute sql parameters)
  close := tracking .close db.close

end Database

def Access.tracked {σ : Type} (access : Access σ) : Access (Tracked σ) where
  database := fun settings => (access.database settings).tracked
  connect := fun settings s =>
    let (attempt, state) := access.connect settings s.state
    (attempt, ⟨state, s.contacts ++ [.opening attempt.outcome.isOk]⟩)

/-- The same access with other answers to the closing of connections. -/
def Access.closing {σ : Type} (access : Access σ) (close : DatabaseSettings → Request σ Unit) :
    Access σ where
  database := fun settings => { access.database settings with close := close settings }
  connect := access.connect

namespace Surroundings

variable {σ τ : Type}

def tracked (surroundings : Surroundings σ τ) : Surroundings (Tracked σ) (Tracked τ) :=
  ⟨surroundings.file, surroundings.source.tracked, surroundings.target.tracked,
    surroundings.timing⟩

def closing (surroundings : Surroundings σ τ) (closeSource : DatabaseSettings → Request σ Unit)
    (closeTarget : DatabaseSettings → Request τ Unit) : Surroundings σ τ :=
  { surroundings with
    source := surroundings.source.closing closeSource
    target := surroundings.target.closing closeTarget }

end Surroundings

section Tracking

variable {σ τ α : Type} {sides : Sides σ τ}

/-- The connection was opened and has not been closed since. -/
def Contact.IsOpen (contacts : List Contact) : Prop :=
  ∃ uses : List Exchange, (∀ e ∈ uses, e.call ≠ .close) ∧
    contacts = .opening true :: uses.map .call

theorem Contact.isOpen_concat {contacts : List Contact} {call : Call} {succeeded : Bool}
    (used : IsOpen contacts) (use : call ≠ .close) :
    IsOpen (contacts ++ [.call ⟨call, succeeded⟩]) := by
  obtain ⟨uses, others, rfl⟩ := used
  refine ⟨uses ++ [⟨call, succeeded⟩], ?_, by simp⟩
  intro e member
  rcases List.mem_append.mp member with old | new
  · exact others e old
  · rwa [List.mem_singleton.mp new]

/-- The second state is the first with track kept of two connections that are still open. -/
structure Tracking (s : RunState σ τ) (s' : RunState (Tracked σ) (Tracked τ)) : Prop where
  source_eq : s'.source.state = s.source
  target_eq : s'.target.state = s.target
  journal_eq : s'.journal = s.journal
  source_used : Contact.IsOpen s'.source.contacts
  target_used : Contact.IsOpen s'.target.contacts

namespace Tracking

theorem reports : Run.Reports (Tracking : RunState σ τ → RunState _ _ → Prop) := by
  intro f s s' ⟨source, target, journal, used, used'⟩
  exact ⟨rfl, source, target, congrArg f journal, used, used'⟩

theorem onSource {call : Call} (request : Request σ α) (use : call ≠ .close) :
    Run.Corresponds Tracking (Run.onSource request : Run σ τ α)
      (Run.onSource (Database.tracking call request)) := by
  rintro ⟨_, _, _⟩ s' ⟨rfl, rfl, rfl, used, used'⟩
  exact ⟨rfl, rfl, rfl, rfl, Contact.isOpen_concat used use, used'⟩

theorem onTarget {call : Call} (request : Request τ α) (use : call ≠ .close) :
    Run.Corresponds Tracking (Run.onTarget request : Run σ τ α)
      (Run.onTarget (Database.tracking call request)) := by
  rintro ⟨_, _, _⟩ s' ⟨rfl, rfl, rfl, used, used'⟩
  exact ⟨rfl, rfl, rfl, rfl, used, Contact.isOpen_concat used' use⟩

theorem alike (sides : Sides σ τ) :
    Sides.Alike Tracking sides ⟨sides.source.tracked, sides.target.tracked⟩ where
  loads := ⟨rfl, rfl, reports, onSource _ nofun, onTarget _ nofun⟩
  copies :=
    { source_dialect := rfl
      target_dialect := rfl
      reports := reports
      source_query := fun _ _ _ => onSource _ nofun
      open_stream := by
        intro options sql parameters _
        refine RowFlow.Alike.openStream_relates
          ((Run.Corresponds.logSql reports _ _).bind fun _ => ?_)
        rintro ⟨_, _, _⟩ s' ⟨rfl, rfl, rfl, used, used'⟩
        exact ⟨rfl, rfl, rfl, rfl, Contact.isOpen_concat used nofun, used'⟩
      target_query := fun _ _ _ => onTarget _ nofun
      execute := fun _ _ _ => onTarget _ nofun }
  disable := onTarget _ nofun
  enable := onTarget _ nofun
  journal_eq := fun _ _ states => states.journal_eq.symm

end Tracking

/-- Databases that differ in the closing of their connections only. -/
theorem Sides.alike_of_close (sides : Sides σ τ) (closeSource : Request σ Unit)
    (closeTarget : Request τ Unit) :
    Sides.Alike Eq sides ⟨{ sides.source with close := closeSource },
      { sides.target with close := closeTarget }⟩ := by
  have same {α : Type} (run : Run σ τ α) : Run.Corresponds Eq run run := by
    rintro s _ rfl
    exact ⟨rfl, rfl⟩
  exact
    { loads := ⟨rfl, rfl, fun _ => same _, same _, same _⟩
      copies :=
        { source_dialect := rfl
          target_dialect := rfl
          reports := fun _ => same _
          source_query := fun _ _ _ => same _
          open_stream := fun _ _ _ _ => RowFlow.Alike.openStream_relates (same _)
          target_query := fun _ _ _ => same _
          execute := fun _ _ _ => same _ }
      disable := same _
      enable := same _
      journal_eq := fun _ _ states => congrArg RunState.journal states }

end Tracking

/-- The connection was opened and used, and closing it was the last call. -/
def Contact.IsScoped (contacts : List Contact) : Prop :=
  ∃ used closed, IsOpen used ∧ contacts = used ++ [.call ⟨.close, closed⟩]

/-- The second end is the first with track kept of the contacts. -/
structure Ending.IsTracked {σ τ : Type} (e : Ending σ τ) (e' : Ending (Tracked σ) (Tracked τ)) :
    Prop where
  outcome_eq : e'.outcome = e.outcome
  output_eq : e'.output = e.output
  logs_eq : e'.logs = e.logs
  source_eq : e'.source.state = e.source
  target_eq : e'.target.state = e.target

theorem Ending.exitCode_spec {σ τ : Type} (e : Ending σ τ) :
    match e.outcome with
    | .ok () => e.exitCode = 0
    | .error failure => e.exitCode = failure.innermost.exitCode ∧ e.exitCode ≠ 0 ∧
      ∀ label cause, failure.innermost ≠ .context label cause := by
  unfold exitCode
  cases e.outcome with
  | ok done => rfl
  | error failure =>
    exact ⟨failure.exitCode_innermost.symm, failure.exitCode_ne_zero, failure.innermost_ne_context⟩

namespace Program

section Closing

variable {α : Type} (db : Database α) (side : String)

theorem close_tracked (a : Tracked α) :
    close db.tracked side a = ((close db side a.state).1,
      ⟨(close db side a.state).2,
        a.contacts ++ [.call ⟨.close, (db.close a.state).1.isOk⟩]⟩) := by
  have closed : db.tracked.close a = ((db.close a.state).1,
      ⟨(db.close a.state).2,
        a.contacts ++ [.call ⟨.close, (db.close a.state).1.isOk⟩]⟩) := rfl
  rw [close, close, closed]
  rcases db.close a.state with ⟨_ | _, _⟩ <;> rfl

end Closing

section Paths

variable {σ τ : Type} {surroundings : Surroundings σ τ} {arguments : Arguments}
  {c : Configuration} {s s' : σ} {t t' : τ} {failure : Failure} {lines lines' : List LogLine}

theorem run_of_refused (configured : configure surroundings arguments = .error failure) :
    run surroundings arguments s t = { outcome := .error failure, source := s, target := t } := by
  rw [run, configured]

section

variable (configured : configure surroundings arguments = .ok c)
include configured

theorem run_of_unreached
    (unreached : surroundings.target.connect c.target t = (⟨.error failure, lines⟩, t')) :
    run surroundings arguments s t =
      { outcome := .error failure, logs := loadedLine arguments :: lines, source := s
        target := t' } := by
  rw [run, configured]
  simp only [unreached]

variable (reached : surroundings.target.connect c.target t = (⟨.ok (), lines⟩, t'))
include reached

theorem run_of_source_unreached
    (unreached : surroundings.source.connect c.source s = (⟨.error failure, lines'⟩, s')) :
    let closed := close (surroundings.target.database c.target) "destination" t'
    run surroundings arguments s t =
      { outcome := .error failure
        logs := loadedLine arguments :: lines ++ connectedLine "destination" c.target ::
          (lines' ++ closed.1)
        source := s', target := closed.2 } := by
  rw [run, configured]
  simp only [reached, runOnTarget, unreached]

theorem run_of_connected
    (connected : surroundings.source.connect c.source s = (⟨.ok (), lines'⟩, s')) :
    let source := surroundings.source.database c.source
    let target := surroundings.target.database c.target
    let execution := Execution.ofArguments arguments c.options surroundings.timing ⟨source, target⟩
      { source := s', target := t' }
    let closed := close source "source" execution.state.source
    let closed' := close target "destination" execution.state.target
    run surroundings arguments s t =
      { outcome := execution.outcome, output := execution.output
        logs := loadedLine arguments :: lines ++ connectedLine "destination" c.target ::
          (lines' ++ connectedLine "source" c.source ::
            execution.state.journal.logs.toList ++ closed.1 ++ closed'.1)
        source := closed.2, target := closed'.2 } := by
  rw [run, configured]
  simp only [reached, runOnTarget, connected]

end

end Paths

section Tracked

variable {σ τ : Type} {surroundings : Surroundings σ τ} {arguments : Arguments}
  {c : Configuration} {s s' : σ} {t t' : τ} {outcome : Outcome Unit}
  {lines lines' : List LogLine}

theorem connect_tracked {access : Access σ} {settings : DatabaseSettings}
    (attempted : access.connect settings s = (⟨outcome, lines⟩, s')) :
    access.tracked.connect settings ⟨s, []⟩ =
      (⟨outcome, lines⟩, ⟨s', [.opening outcome.isOk]⟩) := by
  rw [Access.tracked]
  simp only [attempted, List.nil_append]

private theorem run_tracked_of_connected (configured : configure surroundings arguments = .ok c)
    (reached : surroundings.target.connect c.target t = (⟨.ok (), lines⟩, t'))
    (connected : surroundings.source.connect c.source s = (⟨.ok (), lines'⟩, s')) :
    let tracked := run surroundings.tracked arguments ⟨s, []⟩ ⟨t, []⟩
    (run surroundings arguments s t).IsTracked tracked ∧
      Contact.IsScoped tracked.source.contacts ∧ Contact.IsScoped tracked.target.contacts := by
  have opened : Contact.IsOpen [.opening true] := ⟨[], by simp, rfl⟩
  have start : Tracking (⟨s', t', {}⟩ : RunState σ τ)
      ⟨⟨s', [.opening true]⟩, ⟨t', [.opening true]⟩, {}⟩ := ⟨rfl, rfl, rfl, opened, opened⟩
  have both := Execution.ofArguments_alike
    (Tracking.alike ⟨surroundings.source.database c.source, surroundings.target.database c.target⟩)
    start arguments c.options surroundings.timing
  have ran := run_of_connected configured reached connected
  have configured' : configure surroundings.tracked arguments = .ok c := configured
  have ran' := run_of_connected configured' (connect_tracked reached) (connect_tracked connected)
  -- The executions stay related to their ends, so that closing finds the same states twice.
  dsimp only [Surroundings.tracked, Access.tracked, Except.isOk, Except.toBool] at ran ran' both ⊢
  rw [ran, ran']
  clear ran ran'
  generalize Execution.ofArguments _ _ _ _ (_ : RunState σ τ) = plain at both ⊢
  generalize Execution.ofArguments _ _ _ _ (_ : RunState (Tracked σ) _) = tracked at both ⊢
  obtain ⟨same, printed, source, target, journal, used, used'⟩ := both
  rw [close_tracked, close_tracked, source, target, journal]
  exact ⟨⟨same.symm, printed.symm, rfl, rfl, rfl⟩, ⟨_, _, used, rfl⟩, ⟨_, _, used', rfl⟩⟩

private theorem run_closing (surroundings : Surroundings σ τ) (arguments : Arguments) (s : σ)
    (t : τ) (closeSource : DatabaseSettings → Request σ Unit)
    (closeTarget : DatabaseSettings → Request τ Unit) :
    let other := run (surroundings.closing closeSource closeTarget) arguments s t
    other.outcome = (run surroundings arguments s t).outcome ∧
      other.output = (run surroundings arguments s t).output := by
  intro other
  have configured' : configure (surroundings.closing closeSource closeTarget) arguments =
      configure surroundings arguments := rfl
  cases configured : configure surroundings arguments with
  | error failure =>
    rw [configured] at configured'
    rw [run_of_refused configured, show other = _ from run_of_refused configured']
    exact ⟨rfl, rfl⟩
  | ok c =>
    rw [configured] at configured'
    rcases reached : surroundings.target.connect c.target t with ⟨⟨failure | _, lines⟩, t'⟩
    · rw [run_of_unreached configured reached,
        show other = _ from run_of_unreached configured' reached]
      exact ⟨rfl, rfl⟩
    rcases connected : surroundings.source.connect c.source s with ⟨⟨failure | _, lines'⟩, s'⟩
    · rw [run_of_source_unreached configured reached connected,
        show other = _ from run_of_source_unreached configured' reached connected]
      exact ⟨rfl, rfl⟩
    · have both := Execution.ofArguments_alike
        (Sides.alike_of_close
          ⟨surroundings.source.database c.source, surroundings.target.database c.target⟩
          (closeSource c.source) (closeTarget c.target))
        (rfl : (⟨s', t', {}⟩ : RunState σ τ) = _) arguments c.options surroundings.timing
      rw [run_of_connected configured reached connected,
        show other = _ from run_of_connected configured' reached connected]
      exact ⟨both.outcome_eq.symm, both.output_eq.symm⟩

/-- The courses that the program takes, with its contacts and the beginning of its log. -/
inductive Course (surroundings : Surroundings σ τ) (arguments : Arguments) (s : σ) (t : τ)
    (ending : Ending σ τ) (source target : List Contact) : Prop
  /-- Nothing is opened for a configuration that is not accepted. -/
  | refused {failure : Failure} (configured : configure surroundings arguments = .error failure)
      (outcome : ending.outcome = .error failure) (untouched : source = [])
      (untouched' : target = [])
  /-- Without the destination, the source is not reached for. -/
  | destinationUnreached {c : Configuration} {failure : Failure} {lines : List LogLine} {t' : τ}
      (configured : configure surroundings arguments = .ok c)
      (unreached : surroundings.target.connect c.target t = (⟨.error failure, lines⟩, t'))
      (outcome : ending.outcome = .error failure) (untouched : source = [])
      (attempted : target = [.opening false])
      (logs : ending.logs = loadedLine arguments :: lines)
  /-- Without the source, the destination is closed at once. -/
  | sourceUnreached {c : Configuration} {failure : Failure} {lines lines' rest : List LogLine}
      {s' : σ} {t' : τ} {closed : Bool} (configured : configure surroundings arguments = .ok c)
      (reached : surroundings.target.connect c.target t = (⟨.ok (), lines⟩, t'))
      (unreached : surroundings.source.connect c.source s = (⟨.error failure, lines'⟩, s'))
      (outcome : ending.outcome = .error failure) (attempted : source = [.opening false])
      (released : target = [.opening true, .call ⟨.close, closed⟩])
      (logs : ending.logs = loadedLine arguments :: lines ++
        connectedLine "destination" c.target :: (lines' ++ rest))
  /-- The outcome is that of the command, and whatever it is, both connections are closed by their
  last calls. -/
  | connected {c : Configuration} {lines lines' rest : List LogLine} {s' : σ} {t' : τ}
      (configured : configure surroundings arguments = .ok c)
      (reached : surroundings.target.connect c.target t = (⟨.ok (), lines⟩, t'))
      (reached' : surroundings.source.connect c.source s = (⟨.ok (), lines'⟩, s'))
      (outcome : ending.outcome = (Execution.ofArguments arguments c.options surroundings.timing
        ⟨surroundings.source.database c.source, surroundings.target.database c.target⟩
        { source := s', target := t' }).outcome)
      (source_scoped : Contact.IsScoped source) (target_scoped : Contact.IsScoped target)
      (logs : ending.logs = loadedLine arguments :: lines ++
        connectedLine "destination" c.target ::
          (lines' ++ connectedLine "source" c.source :: rest))

private theorem run_tracked (surroundings : Surroundings σ τ) (arguments : Arguments) (s : σ)
    (t : τ) :
    let ending := run surroundings arguments s t
    let tracked := run surroundings.tracked arguments ⟨s, []⟩ ⟨t, []⟩
    ending.IsTracked tracked ∧
      Course surroundings arguments s t ending tracked.source.contacts tracked.target.contacts := by
  intro ending tracked
  have configured' : configure surroundings.tracked arguments =
      configure surroundings arguments := rfl
  cases configured : configure surroundings arguments with
  | error failure =>
    rw [configured] at configured'
    rw [show ending = _ from run_of_refused configured,
      show tracked = _ from run_of_refused configured']
    exact ⟨⟨rfl, rfl, rfl, rfl, rfl⟩, .refused configured rfl rfl rfl⟩
  | ok c =>
    rw [configured] at configured'
    rcases reached : surroundings.target.connect c.target t with ⟨⟨failure | _, lines⟩, t'⟩
    · rw [show ending = _ from run_of_unreached configured reached,
        show tracked = _ from run_of_unreached configured' (connect_tracked reached)]
      exact ⟨⟨rfl, rfl, rfl, rfl, rfl⟩, .destinationUnreached configured reached rfl rfl rfl rfl⟩
    rcases connected : surroundings.source.connect c.source s with ⟨⟨failure | _, lines'⟩, s'⟩
    · rw [show ending = _ from run_of_source_unreached configured reached connected,
        show tracked = _ from run_of_source_unreached configured' (connect_tracked reached)
          (connect_tracked connected)]
      dsimp only [Surroundings.tracked, Access.tracked]
      rw [close_tracked]
      exact ⟨⟨rfl, rfl, rfl, rfl, rfl⟩,
        .sourceUnreached configured reached connected rfl rfl rfl rfl⟩
    · obtain ⟨same, source, target⟩ := run_tracked_of_connected configured reached connected
      have ran := run_of_connected configured reached connected
      have logs : ∃ rest, ending.logs = loadedLine arguments :: lines ++
          connectedLine "destination" c.target ::
            (lines' ++ connectedLine "source" c.source :: rest) := by
        rw [show ending = _ from ran]
        simp only [List.append_assoc, List.cons_append]
        exact ⟨_, rfl⟩
      obtain ⟨rest, logs⟩ := logs
      exact ⟨same, .connected configured reached connected (congrArg Ending.outcome ran) source
        target logs⟩

end Tracked

/-- Whatever the files hold, the arguments ask for and the databases answer, no connection outlives
the program. A refused configuration opens none, the source is reached for once the destination is
open, and an open connection is closed by its last call. What closing answers changes neither
outcome nor exit status, which is zero on success and else that of the innermost failure. -/
theorem run_scopes_connections {σ τ : Type} (surroundings : Surroundings σ τ)
    (arguments : Arguments) (s : σ) (t : τ) :
    let ending := run surroundings arguments s t
    let tracked := run surroundings.tracked arguments ⟨s, []⟩ ⟨t, []⟩
    ending.IsTracked tracked ∧
    Course surroundings arguments s t ending tracked.source.contacts tracked.target.contacts ∧
    (∀ closeSource closeTarget,
      let other := run (surroundings.closing closeSource closeTarget) arguments s t
      other.outcome = ending.outcome ∧ other.output = ending.output ∧
        other.exitCode = ending.exitCode) ∧
    match ending.outcome with
    | .ok () => ending.exitCode = 0
    | .error failure => ending.exitCode = failure.innermost.exitCode ∧ ending.exitCode ≠ 0 ∧
      ∀ label cause, failure.innermost ≠ .context label cause := by
  intro ending tracked
  obtain ⟨same, course⟩ := run_tracked surroundings arguments s t
  refine ⟨same, course, ?_, ?_⟩
  · intro closeSource closeTarget other
    obtain ⟨outcome, output⟩ := run_closing surroundings arguments s t closeSource closeTarget
    refine ⟨outcome, output, ?_⟩
    rw [Ending.exitCode, Ending.exitCode, outcome]
  · exact ending.exitCode_spec

end Program

end RowSync
