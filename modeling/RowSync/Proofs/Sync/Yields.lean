import RowSync.Database.Memory
import RowSync.Sync.RowFlow

/-!
Runs on two stores in memory, seen by what they make of the tables. What a run yields is a function
of the tables alone: neither its reports nor the record of the statements decide anything.
-/

set_option autoImplicit false

namespace RowSync

def Sides.inMemory (source target : MemorySettings) : Sides MemoryStore MemoryStore :=
  ⟨MemoryStore.database source, MemoryStore.database target⟩

namespace Run

variable {α β γ : Type} {source target target' target'' : List MemoryTable}
  {run : Run MemoryStore MemoryStore α} {outcome : Outcome α}

/-- Started with those tables in the two stores, the run comes to the outcome. It leaves the tables
of the source as they are, and those of the destination as given. -/
def Yields (run : Run MemoryStore MemoryStore α) (source target : List MemoryTable)
    (outcome : Outcome α) (target' : List MemoryTable) : Prop :=
  ∀ s, s.source.tables = source → s.target.tables = target →
    (run s).1 = outcome ∧ (run s).2.source.tables = source ∧ (run s).2.target.tables = target'

theorem bind_apply {σ τ : Type} (run : Run σ τ α) (next : α → Run σ τ β) (s : RunState σ τ) :
    (run >>= next) s =
      match run s with
      | (.ok a, s) => next a s
      | (.error failure, s) => (.error failure, s) := by
  change (match run s with
    | (outcome, s) => (ExceptT.bindCont next outcome : StateM (RunState σ τ) _) s) = _
  cases run s with
  | mk outcome s => cases outcome <;> rfl

theorem exists_of_bind_ok {σ τ : Type} {run : Run σ τ α} {next : α → Run σ τ β}
    {s t : RunState σ τ} {b : β} (ran : (run >>= next) s = (.ok b, t)) :
    ∃ a r, run s = (.ok a, r) ∧ next a r = (.ok b, t) := by
  rw [bind_apply] at ran
  cases first : run s with
  | mk outcome r =>
    rw [first] at ran
    cases outcome with
    | ok a => exact ⟨a, r, rfl, ran⟩
    | error failure => cases ran

theorem exists_of_mapList_append {σ τ : Type} {step : α → Run σ τ β} {before after : List α}
    {a : α} {s t : RunState σ τ} {results : List β}
    (ran : mapList step (before ++ a :: after) s = (.ok results, t)) :
    ∃ bs b bs' r r', results = bs ++ b :: bs' ∧ mapList step before s = (.ok bs, r) ∧
      step a r = (.ok b, r') ∧ mapList step after r' = (.ok bs', t) := by
  induction before generalizing s results with
  | nil =>
    obtain ⟨b, r', one, ran⟩ := exists_of_bind_ok ran
    obtain ⟨bs', r, others, ran⟩ := exists_of_bind_ok ran
    cases ran
    exact ⟨[], b, bs', s, r', rfl, rfl, one, others⟩
  | cons c before ih =>
    obtain ⟨d, r₀, first, ran⟩ := exists_of_bind_ok ran
    obtain ⟨ds, r₁, others, ran⟩ := exists_of_bind_ok ran
    cases ran
    obtain ⟨bs, b, bs', r, r', rfl, front, one, back⟩ := ih others
    refine ⟨d :: bs, b, bs', r, r', rfl, ?_, one, back⟩
    rw [mapList, bind_apply, first]
    dsimp only
    rw [bind_apply, front]
    rfl

theorem eq_of_outcome {σ τ : Type} {run : Run σ τ α} {s : RunState σ τ} {outcome : Outcome α}
    (known : (run s).1 = outcome) : run s = (outcome, (run s).2) :=
  Prod.ext known rfl

theorem logSql_apply {σ τ : Type} (options : DiagnosticOptions) (sql : String)
    (s : RunState σ τ) :
    ∃ journal, (logSql options sql : Run σ τ Unit) s = (.ok (), { s with journal }) := by
  unfold logSql
  split
  · exact ⟨_, rfl⟩
  · exact ⟨s.journal, rfl⟩

theorem logRow_apply {σ τ : Type} (options : DiagnosticOptions) (table : String) (row : Row)
    (s : RunState σ τ) :
    ∃ journal, (logRow options table row : Run σ τ Unit) s = (.ok (), { s with journal }) := by
  unfold logRow
  split
  · exact ⟨_, rfl⟩
  · exact ⟨s.journal, rfl⟩

namespace Yields

theorem pure (a : α) :
    (pure a : Run MemoryStore MemoryStore α).Yields source target (.ok a) target :=
  fun _ hs ht => ⟨rfl, hs, ht⟩

theorem throw (failure : Failure) :
    (throw failure : Run MemoryStore MemoryStore α).Yields source target (.error failure) target :=
  fun _ hs ht => ⟨rfl, hs, ht⟩

theorem bind_ok {next : α → Run MemoryStore MemoryStore β} {a : α} {result : Outcome β}
    (first : run.Yields source target (.ok a) target')
    (rest : (next a).Yields source target' result target'') :
    (run >>= next).Yields source target result target'' := by
  intro s hs ht
  obtain ⟨ok, hs', ht'⟩ := first s hs ht
  rw [bind_apply]
  cases answer : run s with
  | mk outcome s' =>
    rw [answer] at ok hs' ht'
    subst ok
    exact rest s' hs' ht'

theorem bind_error {next : α → Run MemoryStore MemoryStore β} {failure : Failure}
    (first : run.Yields source target (.error failure) target') :
    (run >>= next).Yields source target (.error failure) target' := by
  intro s hs ht
  obtain ⟨failed, hs', ht'⟩ := first s hs ht
  rw [bind_apply]
  cases answer : run s with
  | mk outcome s' =>
    rw [answer] at failed hs' ht'
    subst failed
    exact ⟨rfl, hs', ht'⟩

theorem andThen {next : α → Run MemoryStore MemoryStore β} {result : α → Outcome β}
    (first : run.Yields source target outcome target)
    (rest : ∀ a, (next a).Yields source target (result a) target) :
    (run >>= next).Yields source target (outcome >>= result) target := by
  cases outcome with
  | error failure => exact bind_error first
  | ok a => exact bind_ok first (rest a)

theorem ite_bind {c : Prop} [Decidable c] {first : Run MemoryStore MemoryStore Unit}
    (entered : (if c then first else Pure.pure ()).Yields source target (.ok ()) target')
    (rest : run.Yields source target' outcome target'') :
    (if c then first >>= fun _ => run else run).Yields source target outcome target'' := by
  have both : ((if c then first else Pure.pure ()) >>= fun _ => run).Yields source target outcome
      target'' := bind_ok entered rest
  by_cases first : c
  · rw [if_pos first] at both ⊢
    exact both
  · rw [if_neg first] at both ⊢
    rwa [pure_bind] at both

theorem report (f : Journal → Journal) :
    (report f : Run MemoryStore MemoryStore Unit).Yields source target (.ok ()) target :=
  fun _ hs ht => ⟨rfl, hs, ht⟩

theorem log (level : LogLevel) (text : String) :
    (log level text : Run MemoryStore MemoryStore Unit).Yields source target (.ok ()) target :=
  report _

theorem logAll (lines : List LogLine) :
    (logAll lines : Run MemoryStore MemoryStore Unit).Yields source target (.ok ()) target :=
  report _

theorem notify (event : Event) :
    (notify event : Run MemoryStore MemoryStore Unit).Yields source target (.ok ()) target :=
  report _

theorem logSql (options : DiagnosticOptions) (sql : String) :
    (logSql options sql : Run MemoryStore MemoryStore Unit).Yields source target (.ok ())
      target := by
  unfold Run.logSql
  split
  · exact log _ _
  · exact pure ()

theorem logRow (options : DiagnosticOptions) (table : String) (row : Row) :
    (logRow options table row : Run MemoryStore MemoryStore Unit).Yields source target (.ok ())
      target := by
  unfold Run.logRow
  split
  · exact log _ _
  · exact pure ()

theorem ofOutcome (outcome : Outcome α) :
    (ofOutcome outcome : Run MemoryStore MemoryStore α).Yields source target outcome target :=
  fun _ hs ht => ⟨rfl, hs, ht⟩

theorem reported (result : Outcome α × List LogLine) :
    (reported result : Run MemoryStore MemoryStore α).Yields source target result.1 target :=
  bind_ok (logAll _) (ofOutcome _)

theorem within (label : String) (yields : run.Yields source target outcome target') :
    (run.within label).Yields source target (Outcome.within outcome label) target' := by
  intro s hs ht
  obtain ⟨equal, hs', ht'⟩ := yields s hs ht
  exact ⟨congrArg (Outcome.within · label) equal, hs', ht'⟩

theorem attempt (yields : run.Yields source target outcome target') :
    run.attempt.Yields source target (.ok outcome) target' := by
  intro s hs ht
  obtain ⟨equal, hs', ht'⟩ := yields s hs ht
  exact ⟨congrArg Except.ok equal, hs', ht'⟩

theorem onSource {request : Request MemoryStore α}
    (answers : ∀ s : MemoryStore, s.tables = source →
      (request s).1 = outcome ∧ (request s).2.tables = source) :
    (onSource request : Run MemoryStore MemoryStore α).Yields source target outcome target :=
  fun s hs ht => ⟨(answers s.source hs).1, (answers s.source hs).2, ht⟩

theorem onTarget {request : Request MemoryStore α}
    (answers : ∀ s : MemoryStore, s.tables = target →
      (request s).1 = outcome ∧ (request s).2.tables = target') :
    (onTarget request : Run MemoryStore MemoryStore α).Yields source target outcome target' :=
  fun s hs ht => ⟨(answers s.target ht).1, hs, (answers s.target ht).2⟩

/-- A fold follows a step on states that each stand for an accumulator and for tables. -/
theorem foldList {step : β → α → Run MemoryStore MemoryStore β} (next : γ → α → γ)
    (accOf : γ → β) (tablesOf : γ → List MemoryTable) {l : List α}
    (follows : ∀ c, ∀ a ∈ l, (step (accOf c) a).Yields source (tablesOf c)
      (.ok (accOf (next c a))) (tablesOf (next c a))) (c : γ) :
    (foldList step (accOf c) l).Yields source (tablesOf c) (.ok (accOf (l.foldl next c)))
      (tablesOf (l.foldl next c)) := by
  induction l generalizing c with
  | nil => exact pure _
  | cons a l ih =>
    refine bind_ok (follows c a List.mem_cons_self) ?_
    exact ih (fun c b member => follows c b (List.mem_cons_of_mem a member)) (next c a)

theorem mapList {step : γ → Run MemoryStore MemoryStore β} {g : α → γ} {f : α → β} {l : List α}
    (each : ∀ a ∈ l, (step (g a)).Yields source target (.ok (f a)) target) :
    (mapList step (l.map g)).Yields source target (.ok (l.map f)) target := by
  induction l with
  | nil => exact pure _
  | cons a l ih =>
    refine bind_ok (each a List.mem_cons_self) (bind_ok ?_ (pure _))
    exact ih fun b member => each b (List.mem_cons_of_mem a member)

end Yields

end Run

namespace Stream

private theorem run_ok (b : RowBatcher) (rows : List Row) :
    (run b (rows.map .ok)).batches.flatten = b.pending ++ rows ∧
      (run b (rows.map .ok)).outcome = .ok (b.total + rows.length) := by
  induction rows generalizing b with
  | nil =>
    refine ⟨?_, rfl⟩
    simp only [List.map_nil, run, RowBatcher.rest?]
    cases pending : b.pending <;> simp
  | cons row rows ih =>
    have sent := (ih (b.push row).1).1
    have counted := (ih (b.push row).1).2
    simp only [List.map_cons, run]
    unfold RowBatcher.push at sent counted ⊢
    by_cases complete : b.size ≤ (b.pending ++ [row]).length
    · simp only [if_pos complete] at sent counted ⊢
      refine ⟨by simp [sent], ?_⟩
      rw [counted, List.length_cons]
      congr 1
      omega
    · simp only [if_neg complete] at sent counted ⊢
      refine ⟨by simp [sent], ?_⟩
      rw [counted, List.length_cons]
      congr 1
      omega

theorem flatten_ofRows (size : Nat) (rows : List Row) :
    (ofRows size (rows.map .ok)).batches.flatten = rows := (run_ok _ rows).1

theorem outcome_ofRows (size : Nat) (rows : List Row) :
    (ofRows size (rows.map .ok)).outcome = .ok rows.length := by
  have counted := (run_ok (.ofSize size) rows).2
  rw [ofRows, counted, RowBatcher.ofSize, Nat.zero_add]

end Stream

namespace RowFlow

variable {α β γ : Type} {source target : List MemoryTable} {sql : String}
  {parameters : List Value} {sent : List Row}

theorem openStream_yields (settings settings' : MemorySettings) (options : Options)
    (answers : ∀ s : MemoryStore, s.tables = source →
      MemoryStore.query sql parameters s = (.ok sent, s.remember sql)) :
    (openStream (.inMemory settings settings') options sql parameters).Yields source target
      (.ok (Stream.ofRows options.migration.readBatchSize (sent.map .ok))) target := by
  refine .bind_ok (.logSql _ _) fun s hs ht => ?_
  change (_ : Outcome Stream) = _ ∧ _ ∧ _
  simp only [Sides.inMemory, MemoryStore.database, answers s.source hs, MemoryStore.streamOf]
  exact ⟨trivial, hs, ht⟩

/-- Consuming a stream of rows hands them to the step in order. -/
theorem consume_yields (plan : TablePlan) (sent : List Row)
    {step : β → Row → Run MemoryStore MemoryStore β}
    (next : γ → Row → γ) (accOf : γ → β) (tablesOf : γ → List MemoryTable)
    (follows : ∀ c, ∀ row ∈ sent, (step (accOf c) row).Yields source (tablesOf c)
      (.ok (accOf (next c row))) (tablesOf (next c row))) (c : γ) (size : Nat) :
    (consume plan step (accOf c) (Stream.ofRows size (sent.map .ok))).Yields source (tablesOf c)
      (.ok (sent.length, accOf (sent.foldl next c))) (tablesOf (sent.foldl next c)) := by
  unfold consume
  rw [Stream.flatten_ofRows, Stream.outcome_ofRows]
  refine .bind_ok (.foldList next accOf tablesOf follows c) ?_
  exact .bind_ok ((Run.Yields.ofOutcome _).within _) (.pure _)

end RowFlow

end RowSync
