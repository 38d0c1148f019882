import RowSync.Proofs.Sync.Refusal
import RowSync.Proofs.Sync.Transcript

/-!
Every row that is offered to the destination is accounted for. The transcript of the destination
shows one insert for each row that no probe found, in the order in which the rows arrived, and the
tally counts the answers to them; no answer to an insert ends the copying.
-/

set_option autoImplicit false

namespace RowSync

variable {σ τ : Type}

/-- The failure under all contexts is a collision of primary keys. -/
def Failure.IsCollision (failure : Failure) : Bool :=
  match failure.innermost with
  | .duplicateKey _ => true
  | _ => false

theorem Failure.isDuplicateKey_eq (failure : Failure) :
    failure.isDuplicateKey = failure.IsCollision := by
  induction failure with
  | context label cause ih => exact ih
  | _ => rfl

namespace Tally

def inserts : Outcome Nat → Bool
  | .ok affected => 0 < affected
  | .error _ => false

def collides : Outcome Nat → Bool
  | .ok _ => false
  | .error failure => failure.IsCollision

/-- The answer to an insert tells neither. -/
def refuses (answer : Outcome Nat) : Bool := !inserts answer && !collides answer

/-- The tally with more answers to inserts. -/
def counting (t : Tally) (answers : List (Outcome Nat)) : Tally where
  inserted := t.inserted + answers.countP inserts
  duplicate := t.duplicate + answers.countP collides
  failed := t.failed + answers.countP refuses

theorem counting_counting (t : Tally) (answers more : List (Outcome Nat)) :
    (t.counting answers).counting more = t.counting (answers ++ more) := by
  simp [counting, List.countP_append, Nat.add_assoc]

theorem sum_counting (answers : List (Outcome Nat)) :
    let t := counting {} answers
    t.inserted + t.duplicate + t.failed = answers.length := by
  induction answers with
  | nil => rfl
  | cons answer answers ih =>
    simp only [counting, List.countP_cons, List.length_cons] at ih ⊢
    have once : (if inserts answer then 1 else 0) + (if collides answer then 1 else 0) +
        (if refuses answer then 1 else 0) = 1 := by
      rcases answer with failure | affected
      · cases collision : failure.IsCollision <;> simp [inserts, collides, refuses, collision]
      · cases positive : decide (0 < affected) <;> simp [inserts, collides, refuses, positive]
    omega

/-- What is told when an insert has changed the tally: a full interval of inserted rows. -/
def news (interval : Nat) (table : String) (before after : Tally) : List Event :=
  if before.inserted < after.inserted && 0 < interval && after.inserted % interval == 0 then
    [.progress table after.inserted]
  else []

theorem news_of_inserted_eq (interval : Nat) (table : String) {before after : Tally}
    (same : after.inserted = before.inserted) : news interval table before after = [] := by
  simp [news, same]

end Tally

/-- What becomes of a row: a probe finds it, or it is offered to the destination after a probe that
does not find it, or without one. -/
inductive Fate
  | found (rows : List Row)
  | missed (rows : List Row) (answer : Outcome Nat)
  | unprobed (answer : Outcome Nat)

namespace Fate

/-- The truth value in the answer to a probe. -/
def verdict? (rows : List Row) : Option Bool := (RowFlow.firstCell? rows).bind Value.toBool?

/-- The fate is one that copying with or without probes has for a row. -/
def Fits (probing : Bool) : Fate → Prop
  | found rows => probing = true ∧ verdict? rows = some true
  | missed rows _ => probing = true ∧ verdict? rows = some false
  | unprobed _ => probing = false

/-- The answer to the insert of the row, if it is offered. -/
def answer? : Fate → Option (Outcome Nat)
  | found _ => none
  | missed _ answer | unprobed answer => some answer

/-- What is asked of the destination for the row. -/
def entries (plan : TablePlan) (row : Row) : Fate → List Entry
  | found rows => [.query plan.existsSql row (.ok rows)]
  | missed rows answer =>
    [.query plan.existsSql row (.ok rows), .execute plan.insertSql row answer]
  | unprobed answer => [.execute plan.insertSql row answer]

/-- What is asked of the destination for rows, one after the other. -/
def trail (plan : TablePlan) (rows : List Row) (fates : List Fate) : List Entry :=
  (rows.zip fates).flatMap fun rowAndFate => rowAndFate.2.entries plan rowAndFate.1

end Fate

/-- The answer to a probe from which no verdict can be taken. -/
def Indecisive (answer : Outcome (List Row)) : Prop :=
  ∀ rows, answer = .ok rows → Fate.verdict? rows = none

/-- The failure of a run after such an answer. -/
def TablePlan.probeFailure (plan : TablePlan) : Outcome (List Row) → Failure
  | .error failure => failure.within "failed to check if row exists"
  | .ok _ => .transfer plan.target.name "existence probe returned no value"

/-- The account of a copying of rows, by what is asked of the destination on the way and how it
ends, the outcome of the reader of the rows known. -/
inductive Accounted (plan : TablePlan) (probing : Bool) (rows : List Row) (reader : Outcome Nat) :
    List Entry → Outcome Tally → Prop
  /-- Every row has a fate, and the reader decides. -/
  | finished (fates : List Fate) (length : fates.length = rows.length)
    (fits : ∀ fate ∈ fates, Fate.Fits probing fate) :
    Accounted plan probing rows reader (Fate.trail plan rows fates)
      (reader.map fun _ => Tally.counting {} (fates.filterMap Fate.answer?))
  /-- No verdict can be taken from the answer to a probe. -/
  | stopped (handled : List Row) (row : Row) (rest : List Row)
    (split : rows = handled ++ row :: rest) (fates : List Fate)
    (length : fates.length = handled.length) (fits : ∀ fate ∈ fates, Fate.Fits probing fate)
    (probed : probing = true) (answer : Outcome (List Row)) (indecisive : Indecisive answer) :
    Accounted plan probing rows reader
      (Fate.trail plan handled fates ++ [.query plan.existsSql row answer])
      (.error (plan.probeFailure answer))

/-- The entry is a question, which changes no table. -/
def Entry.IsQuestion : Entry → Prop
  | query _ _ _ => True
  | _ => False

/-- Since the earlier entries only questions were asked. -/
def Entry.Questions (before after : List Entry) : Prop :=
  ∃ asked, (∀ e ∈ asked, e.IsQuestion) ∧ after = before ++ asked

theorem Entry.Questions.refl (entries : List Entry) : Questions entries entries :=
  ⟨[], nofun, (List.append_nil _).symm⟩

theorem Entry.Questions.ask {before after : List Entry} (questions : Questions before after)
    {e : Entry} (question : e.IsQuestion) : Questions before (after ++ [e]) := by
  obtain ⟨asked, all, rfl⟩ := questions
  refine ⟨asked ++ [e], fun other member => ?_, List.append_assoc _ _ _⟩
  rcases List.mem_append.mp member with early | here
  · exact all other early
  · rwa [List.mem_singleton.mp here]

/-- Since then only questions were asked of both databases. -/
def Questioned (s t : RunState (Transcript σ) (Transcript τ)) : Prop :=
  Entry.Questions s.source.entries t.source.entries ∧
    Entry.Questions s.target.entries t.target.entries

/-- The account of a copying of a table, by what is asked of both databases and how it ends. -/
inductive TableAccounted (plan : TablePlan) (probing : Bool) (size : Nat) (normalize : Row → Row)
    (s t : RunState (Transcript σ) (Transcript τ)) : Outcome Tally → Prop
  /-- No row is read. -/
  | unread (questioned : Questioned s t) (failure : Failure) :
    TableAccounted plan probing size normalize s t (.error failure)
  /-- The rows of one stream are copied. -/
  | read {u : RunState (Transcript σ) (Transcript τ)} (questioned : Questioned s u) (sql : String)
    (parameters : List Value) (stream : Stream) (added : List Entry) (outcome : Outcome Tally)
    (source : t.source.entries = u.source.entries ++ [.stream sql parameters size stream])
    (target : t.target.entries = u.target.entries ++ added)
    (account : Accounted plan probing (stream.batches.flatten.map normalize)
      (Outcome.within stream.outcome s!"failed to select rows from {plan.source.name}") added
      outcome) :
    TableAccounted plan probing size normalize s t outcome

namespace Migration

variable (sides : Sides σ τ) (options : Options) (plan : TablePlan)

private theorem report_apply (f : Journal → Journal) (s : RunState σ τ) :
    (Run.report f : Run σ τ Unit) s = (.ok (), { s with journal := f s.journal }) := rfl

private theorem countInserted_apply (table : String) (tally : Tally) (s : RunState σ τ) :
    let after := { tally with inserted := tally.inserted + 1 }
    ∃ journal, (countInserted options.migration table tally : Run σ τ Tally) s =
      (.ok after, { s with journal }) ∧ journal.events.toList =
        s.journal.events.toList ++ tally.news options.migration.progressInterval table after := by
  unfold countInserted Tally.news
  simp only [Nat.lt_add_one, decide_true, Bool.true_and]
  split
  · exact ⟨_, rfl, Array.toList_push⟩
  · exact ⟨s.journal, rfl, (List.append_nil _).symm⟩

private theorem countDuplicate_apply (row : Row) (tally : Tally) (s : RunState σ τ) :
    ∃ journal, (countDuplicate plan row tally : Run σ τ Tally) s =
      (.ok { tally with duplicate := tally.duplicate + 1 }, { s with journal }) ∧
      journal.events = s.journal.events := by
  unfold countDuplicate
  cases plan.rowId? row with
  | some id => exact ⟨_, rfl, rfl⟩
  | none => exact ⟨s.journal, rfl, rfl⟩

private theorem countFailed_apply (failure : Failure) (tally : Tally) (s : RunState σ τ) :
    ∃ journal, (countFailed plan failure tally : Run σ τ Tally) s =
      (.ok { tally with failed := tally.failed + 1 }, { s with journal }) ∧
      journal.events = s.journal.events := by
  unfold countFailed
  dsimp only
  simp only [Run.bind_apply, Run.log, report_apply]
  split
  · exact ⟨_, rfl, rfl⟩
  · exact ⟨_, rfl, rfl⟩

private theorem insert_apply (row : Row) (s : RunState σ τ) :
    let answered := sides.target.execute plan.insertSql row s.target
    (insert sides plan row).attempt s =
      (.ok (match answered.1 with
        | .error failure => .error failure
        | .ok affected =>
          if affected == 0 then .error (.transfer plan.target.name "no rows affected by insert")
          else .ok ()), ⟨s.source, answered.2, s.journal⟩) := by
  intro answered
  have asked : (Run.onTarget (sides.target.execute plan.insertSql row) : Run σ τ Nat) s =
      (answered.1, ⟨s.source, answered.2, s.journal⟩) := rfl
  rw [Run.attempt, insert, Run.bind_apply, asked]
  cases answered.1 with
  | error failure => rfl
  | ok affected =>
    cases affected with
    | zero => rfl
    | succ n => rfl

/-- A row is inserted by one statement, whose answer is counted; what is told is the progress. -/
theorem insertCounted_apply (tally : Tally) (row : Row) (s : RunState σ τ) :
    let answered := sides.target.execute plan.insertSql row s.target
    let after := tally.counting [answered.1]
    ∃ journal, insertCounted sides options plan tally row s =
      (.ok after, ⟨s.source, answered.2, journal⟩) ∧ journal.events.toList =
        s.journal.events.toList ++
          tally.news options.migration.progressInterval plan.source.name after := by
  intro answered after
  -- what is not inserted is counted without being told
  have untold {counted : Run σ τ Tally} {result : Tally}
      (counts : ∃ journal, counted ⟨s.source, answered.2, s.journal⟩ =
        (.ok result, ⟨s.source, answered.2, journal⟩) ∧ journal.events = s.journal.events)
      (known : after = result) (same : after.inserted = tally.inserted) :
      ∃ journal, counted ⟨s.source, answered.2, s.journal⟩ =
        (.ok after, ⟨s.source, answered.2, journal⟩) ∧ journal.events.toList =
        s.journal.events.toList ++
          tally.news options.migration.progressInterval plan.source.name after := by
    obtain ⟨journal, ran, events⟩ := counts
    refine ⟨journal, known ▸ ran, ?_⟩
    rw [events, Tally.news_of_inserted_eq _ _ same, List.append_nil]
  rw [insertCounted, Run.bind_apply, insert_apply]
  cases answer : answered.1 with
  | error failure =>
    have after_eq : after = tally.counting [.error failure] := congrArg (tally.counting [·]) answer
    dsimp only
    cases collision : failure.isDuplicateKey with
    | true =>
      refine untold (countDuplicate_apply plan row tally _) ?_ ?_ <;>
      · rw [Failure.isDuplicateKey_eq] at collision
        simp [after_eq, Tally.counting, Tally.inserts, Tally.collides, Tally.refuses, collision]
    | false =>
      refine untold (countFailed_apply plan failure tally _) ?_ ?_ <;>
      · rw [Failure.isDuplicateKey_eq] at collision
        simp [after_eq, Tally.counting, Tally.inserts, Tally.collides, Tally.refuses, collision]
  | ok affected =>
    have after_eq : after = tally.counting [.ok affected] := congrArg (tally.counting [·]) answer
    cases affected with
    | zero => exact untold (countFailed_apply plan _ tally _) after_eq (by rw [after_eq]; rfl)
    | succ n =>
      have counts : after = { tally with inserted := tally.inserted + 1 } := by
        simp [after_eq, Tally.counting, Tally.inserts, Tally.collides, Tally.refuses]
      rw [counts]
      exact countInserted_apply options _ tally _

private theorem probe_apply (row : Row) (s : RunState σ τ) :
    let answered := sides.target.query plan.existsSql row s.target
    ∃ journal, RowFlow.probe sides plan options.diagnostics row s =
      (match answered.1 with
        | .error failure => .error (plan.probeFailure (.error failure))
        | .ok rows =>
          match Fate.verdict? rows with
          | none => .error (plan.probeFailure (.ok rows))
          | some verdict => .ok verdict, ⟨s.source, answered.2, journal⟩) := by
  intro answered
  obtain ⟨journal, logged⟩ := Run.logRow_apply options.diagnostics plan.source.name row s
  refine ⟨journal, ?_⟩
  have asked : ((Run.onTarget (sides.target.query plan.existsSql row)).within
      "failed to check if row exists" : Run σ τ (List Row)) { s with journal } =
      (Outcome.within answered.1 "failed to check if row exists",
        ⟨s.source, answered.2, journal⟩) := rfl
  rw [RowFlow.probe, Run.bind_apply, logged]
  dsimp only
  rw [Run.bind_apply, asked]
  cases answered.1 with
  | error failure => rfl
  | ok rows =>
    dsimp only [Outcome.within]
    rw [← Fate.verdict?]
    cases Fate.verdict? rows <;> rfl

/-- A row meets its fate, or its probe is answered without a verdict. -/
theorem copyRow_apply (probing : Bool) (tally : Tally) (row : Row)
    (s : RunState (Transcript σ) (Transcript τ)) :
    let row' := TablePlan.normalizeRow sides.target.dialect row
    (∃ fate t, Fate.Fits probing fate ∧
      copyRow sides.transcribed options plan probing tally row s =
        (.ok (tally.counting fate.answer?.toList), t) ∧
      t.source = s.source ∧
      t.target.entries = s.target.entries ++ fate.entries plan row') ∨
    ∃ answer t, probing = true ∧ Indecisive answer ∧
      copyRow sides.transcribed options plan probing tally row s =
        (.error (plan.probeFailure answer), t) ∧
      t.source = s.source ∧
      t.target.entries = s.target.entries ++ [.query plan.existsSql row' answer] := by
  intro row'
  cases probing with
  | false =>
    obtain ⟨journal, ran, -⟩ := insertCounted_apply sides.transcribed options plan tally row' s
    exact .inl ⟨.unprobed _, _, rfl, ran, rfl, rfl⟩
  | true =>
    obtain ⟨journal, probed⟩ := probe_apply sides.transcribed options plan row' s
    have unfolded : copyRow sides.transcribed options plan true tally row s =
        (RowFlow.probe sides.transcribed plan options.diagnostics row' >>= fun present =>
          if present then pure tally
          else insertCounted sides.transcribed options plan tally row') s := rfl
    rw [unfolded, Run.bind_apply, probed]
    -- The probe is entered in any case, and what it is answered says whether an insert follows.
    let asked := sides.transcribed.target.query plan.existsSql row' s.target
    have entered : asked.2.entries = s.target.entries ++ [.query plan.existsSql row' asked.1] :=
      rfl
    change (∃ fate t, Fate.Fits true fate ∧ _) ∨ ∃ answer t, _
    cases answer : asked.1 with
    | error failure =>
      rw [answer] at entered
      exact .inr ⟨.error failure, _, rfl, nofun, rfl, rfl, entered⟩
    | ok rows =>
      rw [answer] at entered
      dsimp only
      cases decided : Fate.verdict? rows with
      | none =>
        have indecisive : Indecisive (.ok rows) := by
          rintro _ ⟨⟩
          exact decided
        exact .inr ⟨.ok rows, _, rfl, indecisive, rfl, rfl, entered⟩
      | some verdict =>
        cases verdict with
        | true => exact .inl ⟨.found rows, _, ⟨rfl, decided⟩, rfl, rfl, entered⟩
        | false =>
          obtain ⟨journal', ran, -⟩ := insertCounted_apply sides.transcribed options plan tally row'
            ⟨s.source, asked.2, journal⟩
          refine .inl ⟨.missed rows _, _, ⟨rfl, decided⟩, ran, rfl, ?_⟩
          show asked.2.entries ++ [_] = _
          rw [entered, List.append_assoc]
          rfl

/-- Rows are handled in order, each after all before it, up to the first probe without a verdict. -/
theorem foldRows_apply (probing : Bool) (rows : List Row) :
    ∀ (tally : Tally) (s : RunState (Transcript σ) (Transcript τ)),
      let normalize := TablePlan.normalizeRow sides.target.dialect
      ∃ handled rest fates t, rows.map normalize = handled ++ rest ∧
        fates.length = handled.length ∧ (∀ fate ∈ fates, Fate.Fits probing fate) ∧
        t.source = s.source ∧
        ((rest = [] ∧
          Run.foldList (copyRow sides.transcribed options plan probing) tally rows s =
            (.ok (tally.counting (fates.filterMap Fate.answer?)), t) ∧
          t.target.entries = s.target.entries ++ Fate.trail plan handled fates) ∨
        ∃ row more answer, rest = row :: more ∧ probing = true ∧ Indecisive answer ∧
          Run.foldList (copyRow sides.transcribed options plan probing) tally rows s =
            (.error (plan.probeFailure answer), t) ∧
          t.target.entries = s.target.entries ++ Fate.trail plan handled fates ++
            [.query plan.existsSql row answer]) := by
  -- By induction on the rows, for any tally and any entries that are there before them.
  induction rows with
  | nil =>
    intro tally s normalize
    exact ⟨[], [], [], s, rfl, rfl, nofun, rfl, .inl ⟨rfl, rfl, (List.append_nil _).symm⟩⟩
  | cons row rows ih =>
    intro tally s normalize
    rcases copyRow_apply sides options plan probing tally row s with
      ⟨fate, t, fits, ran, source, entries⟩ | ⟨answer, t, probed, indecisive, ran, source, entries⟩
    · obtain ⟨handled, rest, fates, u, split, length, all, source', ended⟩ :=
        ih (tally.counting fate.answer?.toList) t
      have first : Run.foldList (copyRow sides.transcribed options plan probing) tally
          (row :: rows) s = Run.foldList (copyRow sides.transcribed options plan probing)
          (tally.counting fate.answer?.toList) rows t := by
        rw [Run.foldList, Run.bind_apply, ran]
      have counted : ((tally.counting fate.answer?.toList).counting
          (fates.filterMap Fate.answer?)) = tally.counting ((fate :: fates).filterMap Fate.answer?) := by
        rw [Tally.counting_counting]
        cases fate <;> rfl
      have trailed : t.target.entries ++ Fate.trail plan handled fates =
          s.target.entries ++ Fate.trail plan (normalize row :: handled) (fate :: fates) := by
        rw [entries, List.append_assoc]
        rfl
      refine ⟨normalize row :: handled, rest, fate :: fates, u, ?_, ?_, ?_, source'.trans source, ?_⟩
      · rw [List.map_cons, split, List.cons_append]
      · rw [List.length_cons, List.length_cons, length]
      · exact List.forall_mem_cons.mpr ⟨fits, all⟩
      · rw [first, ← counted, ← trailed]
        exact ended
    · refine ⟨[], normalize row :: rows.map normalize, [], t, rfl, rfl, nofun, source,
        .inr ⟨normalize row, rows.map normalize, answer, rfl, probed, indecisive, ?_, ?_⟩⟩
      · rw [Run.foldList, Run.bind_apply, ran]
      · rw [entries]
        exact congrArg (· ++ _) (List.append_nil _).symm

private theorem openStream_apply (sql : String) (parameters : List Value) (s : RunState σ τ) :
    let opened := sides.source.stream sql parameters options.migration.readBatchSize s.source
    ∃ journal, RowFlow.openStream sides options sql parameters s =
      (.ok opened.1, ⟨opened.2, s.target, journal⟩) := by
  intro opened
  obtain ⟨journal, logged⟩ := Run.logSql_apply options.diagnostics sql s
  refine ⟨journal, ?_⟩
  rw [RowFlow.openStream, Run.bind_apply, logged]

private theorem consume_apply {β : Type} (step : β → Row → Run σ τ β) (acc : β) (stream : Stream)
    (s : RunState σ τ) :
    let handled := Run.foldList step acc stream.batches.flatten s
    RowFlow.consume plan step acc stream s =
      (handled.1.bind fun acc =>
        (Outcome.within stream.outcome s!"failed to select rows from {plan.source.name}").map
          fun count => (count, acc), handled.2) := by
  intro handled
  rw [RowFlow.consume, Run.bind_apply]
  cases ran : Run.foldList step acc stream.batches.flatten s with
  | mk outcome t =>
    rw [show handled = (outcome, t) from ran]
    cases outcome with
    | error failure => rfl
    | ok acc =>
      dsimp only
      rw [Run.bind_apply, Run.within, Run.ofOutcome]
      cases stream.outcome <;> rfl

private theorem copyRows_apply (probing : Bool) (sql : String) (parameters : List Value)
    (s : RunState σ τ) :
    let opened := sides.source.stream sql parameters options.migration.readBatchSize s.source
    ∃ journal, ∀ (outcome : Outcome Tally) (t : RunState σ τ),
      Run.foldList (copyRow sides options plan probing) {} opened.1.batches.flatten
        ⟨opened.2, s.target, journal⟩ = (outcome, t) →
      ∃ journal', copyRows sides options plan probing sql parameters s =
        (outcome.bind fun tally =>
          (Outcome.within opened.1.outcome s!"failed to select rows from {plan.source.name}").map
            fun _ => tally, ⟨t.source, t.target, journal'⟩) := by
  intro opened
  obtain ⟨journal, opening⟩ := openStream_apply sides options sql parameters s
  -- The probe is logged once, in front of the rows.
  have logged : ∃ journal', copyRows sides options plan probing sql parameters s =
      (RowFlow.consume plan (copyRow sides options plan probing) {} opened.1 >>= fun read =>
        Run.log .debug s!"{plan.source.name}: read {read.1} source rows" >>= fun _ => pure read.2)
        ⟨opened.2, s.target, journal'⟩ := by
    rw [copyRows, Run.bind_apply, opening]
    cases probing with
    | false => exact ⟨journal, rfl⟩
    | true =>
      obtain ⟨journal', logged⟩ := Run.logSql_apply options.diagnostics plan.existsSql
        (⟨opened.2, s.target, journal⟩ : RunState σ τ)
      refine ⟨journal', ?_⟩
      dsimp only
      rw [if_pos rfl, Run.bind_apply, logged]
  obtain ⟨journal', logged⟩ := logged
  refine ⟨journal', fun outcome t folded => ?_⟩
  rw [logged, Run.bind_apply, consume_apply, folded]
  cases outcome with
  | error failure => exact ⟨t.journal, rfl⟩
  | ok tally => cases opened.1.outcome <;> exact ⟨_, rfl⟩

/-- Copying rows is accounted for: only a probe without a verdict leaves rows without a fate. -/
theorem copyRows_accounted (probing : Bool) (sql : String) (parameters : List Value)
    (s : RunState (Transcript σ) (Transcript τ)) :
    let size := options.migration.readBatchSize
    let stream := (sides.source.stream sql parameters size s.source.state).1
    let rows := stream.batches.flatten.map (TablePlan.normalizeRow sides.target.dialect)
    let reader := Outcome.within stream.outcome s!"failed to select rows from {plan.source.name}"
    let ran := copyRows sides.transcribed options plan probing sql parameters s
    ran.2.source.entries = s.source.entries ++ [.stream sql parameters size stream] ∧
    ∃ added, ran.2.target.entries = s.target.entries ++ added ∧
      Accounted plan probing rows reader added ran.1 := by
  intro size stream rows reader ran
  obtain ⟨journal, copied⟩ :=
    copyRows_apply sides.transcribed options plan probing sql parameters s
  obtain ⟨handled, rest, fates, t, split, length, fits, source, ended⟩ :=
    foldRows_apply sides options plan probing stream.batches.flatten {}
      ⟨(sides.transcribed.source.stream sql parameters size s.source).2, s.target, journal⟩
  have read : t.source.entries = s.source.entries ++ [.stream sql parameters size stream] := by
    rw [source]
    rfl
  rcases ended with ⟨rfl, folded, entries⟩ |
    ⟨row, more, answer, rfl, probed, indecisive, folded, entries⟩
  · obtain ⟨journal', result⟩ := copied _ _ folded
    have result : ran = _ := result
    rw [List.append_nil] at split
    subst split
    rw [result]
    exact ⟨read, _, entries, .finished fates length fits⟩
  · obtain ⟨journal', result⟩ := copied _ _ folded
    have result : ran = _ := result
    rw [result]
    rw [List.append_assoc] at entries
    exact ⟨read, _, entries,
      .stopped handled row more split fates length fits probed answer indecisive⟩

section Tables

variable {sides options plan} {s : RunState (Transcript σ) (Transcript τ)}

private theorem silent_questioned : Run.Silent (Questioned s) := fun _ _ questioned => questioned

private theorem question_source (sql : String) (parameters : List Value) :
    Run.Triple (Questioned s) (Run.onSource (sides.transcribed.source.query sql parameters))
      (fun _ => Questioned s) fun _ => Questioned s :=
  .onSource (fun _ _ questioned _ => ⟨questioned.1.ask trivial, questioned.2⟩)
    fun _ _ questioned _ => ⟨questioned.1.ask trivial, questioned.2⟩

private theorem question_target (sql : String) (parameters : List Value) :
    Run.Triple (Questioned s) (Run.onTarget (sides.transcribed.target.query sql parameters))
      (fun _ => Questioned s) fun _ => Questioned s :=
  .onTarget (fun _ _ questioned _ => ⟨questioned.1, questioned.2.ask trivial⟩)
    fun _ _ questioned _ => ⟨questioned.1, questioned.2.ask trivial⟩

variable (sides options plan) in
private def Accounts (probing : Bool) (s : RunState (Transcript σ) (Transcript τ))
    (outcome : Outcome Tally) (t : RunState (Transcript σ) (Transcript τ)) : Prop :=
  TableAccounted plan probing options.migration.readBatchSize
    (TablePlan.normalizeRow sides.target.dialect) s t outcome

private theorem copyRows_table (probing : Bool) (sql : String) (parameters : List Value) :
    Run.Triple (Questioned s) (copyRows sides.transcribed options plan probing sql parameters)
      (fun tally => Accounts sides options plan probing s (.ok tally))
      fun failure => Accounts sides options plan probing s (.error failure) := by
  intro u questioned
  obtain ⟨read, added, entries, account⟩ :=
    copyRows_accounted sides options plan probing sql parameters u
  generalize copyRows sides.transcribed options plan probing sql parameters u = ended at *
  obtain ⟨outcome, t⟩ := ended
  have accounts : Accounts sides options plan probing s outcome t :=
    .read questioned sql parameters _ added outcome read entries account
  cases outcome with
  | ok tally => exact accounts
  | error failure => exact accounts

private theorem copyByIdentity_table :
    Run.Triple (Questioned s) (copyByIdentity sides.transcribed options plan)
      (fun tally => Accounts sides options plan false s (.ok tally))
      fun failure => Accounts sides options plan false s (.error failure) := by
  refine (Run.Triple.logSql silent_questioned _ _).bind fun _ => ?_
  refine Run.Triple.bind (.within ((question_target _ _).mono (fun _ questioned => questioned)
    (fun _ _ questioned => questioned) fun _ _ questioned => .unread questioned _)) fun rows => ?_
  exact .ite_bind (fun _ => .log silent_questioned _ _) (copyRows_table false _ _)

private theorem copyByFullRow_table :
    Run.Triple (Questioned s) (copyByFullRow sides.transcribed options plan)
      (fun tally => Accounts sides options plan true s (.ok tally))
      fun failure => Accounts sides options plan true s (.error failure) := by
  refine Run.Triple.bind ?_ fun _ => copyRows_table true _ _
  unfold checkLimit
  split
  · exact .pure fun _ questioned => questioned
  · refine Run.Triple.bind ?_ fun rows => .ite ?_ fun _ => .pure fun _ questioned => questioned
    · refine Run.Triple.bind ((question_source _ _).mono (fun _ questioned => questioned)
        (fun _ _ questioned => questioned) fun failure u questioned => .unread questioned _)
        fun rows => ?_
      exact .ofOutcome (fun _ _ _ questioned => questioned) fun _ _ _ questioned =>
        .unread questioned _
    · exact fun _ => .throw fun _ questioned => .unread questioned _

variable (sides options plan) in
theorem copyTable_accounted (s : RunState (Transcript σ) (Transcript τ)) :
    let ran := copyTable sides.transcribed options plan s
    ∃ outcome label, ran.1 = Outcome.within outcome label ∧
      TableAccounted plan (plan.strategy == .fullRow) options.migration.readBatchSize
        (TablePlan.normalizeRow sides.target.dialect) s ran.2 outcome := by
  intro ran
  have begins : Questioned s s := ⟨.refl _, .refl _⟩
  have unfolded : ran = copyTable sides.transcribed options plan s := rfl
  unfold copyTable at unfolded
  cases strategy : plan.strategy with
  | identity =>
    rw [strategy] at unfolded
    rw [unfolded]
    exact ⟨_, _, rfl, copyByIdentity_table.outcome begins⟩
  | fullRow =>
    rw [strategy] at unfolded
    rw [unfolded]
    exact ⟨_, _, rfl, copyByFullRow_table.outcome begins⟩

end Tables

end Migration

end RowSync
