import RowSync.Proofs.Memory.Frames
import RowSync.Proofs.Sync.Triple
import RowSync.Sync.Migration

/-!
Failures by which a migration refuses a table: for want of a destination column, or for too many
rows to compare. Plans refuse for the first reason only, and copying rows refuses nothing.
-/

set_option autoImplicit false

namespace RowSync

/-- The failure is the refusal of a table, for a column without a counterpart or for its size. -/
def Failure.Refuses (failure : Failure) (table : String) : Prop :=
  (∃ column, failure.innermost = .columnNotFound table column) ∨
    ∃ rows limit, failure.innermost = .fullRowLimitExceeded table rows limit

namespace TablePlan

variable {sourceDb targetDb : Dialect} {source target : Table}

private theorem matchColumns_error {columns : List Column} {failure : Failure}
    (failed : (matchColumns target columns).1 = .error failure) :
    ∃ column, failure = .columnNotFound target.name column := by
  induction columns with
  | nil => cases failed
  | cons c rest ih =>
    unfold matchColumns at failed
    split at failed
    · rename_i failure' logs found
      cases failed
      unfold Table.lookup Table.column at found
      cases search : target.find? (Text.lower c.name) with
      | some d =>
        rw [search] at found
        cases found
      | none =>
        rw [search] at found
        cases found
        exact ⟨c.name, rfl⟩
    · cases others : (matchColumns target rest).1 with
      | error failure' =>
        simp only [others] at failed
        cases failed
        exact ih others
      | ok columns =>
        simp only [others] at failed
        cases failed

theorem make_error {failure : Failure}
    (failed : (make sourceDb targetDb source target).1 = .error failure) :
    ∃ column, failure = .columnNotFound target.name column := by
  unfold make at failed
  cases found : (matchColumns target source.columns).1 with
  | error failure' =>
    simp only [found] at failed
    cases failed
    exact matchColumns_error found
  | ok columns =>
    simp only [found] at failed
    cases failed

/-- A plan for the two tables. -/
structure Made (sourceDb targetDb : Dialect) (source target : Table) (plan : TablePlan) :
    Prop where
  source_eq : plan.source = source
  target_eq : plan.target = target
  select_eq : plan.selectSql = selectStatement sourceDb source
  statements : ∃ pairs, plan.existsSql = existsStatement targetDb target pairs ∧
    plan.insertSql = insertStatement targetDb target pairs

theorem make_ok {plan : TablePlan}
    (made : (make sourceDb targetDb source target).1 = .ok plan) :
    Made sourceDb targetDb source target plan := by
  unfold make at made
  cases found : (matchColumns target source.columns).1 with
  | error failure' =>
    simp only [found] at made
    cases made
  | ok columns =>
    simp only [found] at made
    cases made
    exact ⟨rfl, rfl, rfl, _, rfl, rfl⟩

end TablePlan

namespace Migration

section Copying

variable {settings settings' : MemorySettings} {options : Options} {plan : TablePlan}

/-- The failure refuses no table. -/
def Unrefused (failure : Failure) (_ : RunState MemoryStore MemoryStore) : Prop :=
  ∀ table, ¬failure.Refuses table

theorem unrefused_value (message : String) (s : RunState MemoryStore MemoryStore) :
    Unrefused (.value message) s := by
  rintro table (⟨column, refused⟩ | ⟨rows, limit, refused⟩)
  · cases refused
  · cases refused

theorem unrefused_transfer (table message : String)
    (s : RunState MemoryStore MemoryStore) : Unrefused (.transfer table message) s := by
  rintro table (⟨column, refused⟩ | ⟨rows, limit, refused⟩)
  · cases refused
  · cases refused

theorem within_unrefused {α : Type} {run : Run MemoryStore MemoryStore α}
    {pre : RunState MemoryStore MemoryStore → Prop}
    {post : α → RunState MemoryStore MemoryStore → Prop} (label : String)
    (triple : Run.Triple pre run post Unrefused) :
    Run.Triple pre (run.within label) post Unrefused :=
  .within triple

/-- Nothing is known before the run or after its success, and failures refuse nothing. -/
abbrev NeverRefuses {α : Type} (run : Run MemoryStore MemoryStore α) : Prop :=
  Run.Triple (fun _ => True) run (fun _ _ => True) Unrefused

theorem silent_true {σ τ : Type} : Run.Silent fun _ : RunState σ τ => True :=
  fun _ _ _ => trivial

private theorem neverRefuses_orMissing {α : Type} (table message : String) (found : Option α) :
    NeverRefuses (Run.ofOutcome (RowFlow.orMissing table message found)) := by
  refine .ofOutcome (fun _ _ _ _ => trivial) fun failure failed s _ => ?_
  cases found with
  | some a => cases failed
  | none =>
    cases failed
    exact unrefused_transfer table message s

private theorem neverRefuses_query (sql : String) (parameters : List Value) :
    NeverRefuses (Run.onTarget (MemoryStore.query sql parameters)) := by
  refine .onTarget (fun _ _ _ _ => trivial) fun s failure _ failed => ?_
  obtain ⟨message, rfl⟩ := MemoryStore.query_error failed
  exact unrefused_value message _

private theorem neverRefuses_probe (row : Row) :
    NeverRefuses (RowFlow.probe (.inMemory settings settings') plan options.diagnostics row) := by
  refine (Run.Triple.logRow silent_true _ _ _).bind fun _ => ?_
  exact (within_unrefused _ (neverRefuses_query _ _)).bind fun rows => neverRefuses_orMissing _ _ _

private theorem neverRefuses_insertCounted (tally : Tally) (row : Row) :
    NeverRefuses (insertCounted (.inMemory settings settings') options plan tally row) := by
  have tried : Run.Triple (fun _ => True)
      (insert (.inMemory settings settings') plan row).attempt (fun _ _ => True) Unrefused :=
    .attempt fun s _ => by split <;> trivial
  refine tried.bind fun outcome => ?_
  cases outcome with
  | ok _ => exact .ite_bind (fun _ => .notify silent_true _) (.pure fun _ _ => trivial)
  | error failure =>
    refine .ite (fun _ => ?_) fun _ => ?_
    · unfold countDuplicate
      split
      · exact (Run.Triple.log silent_true _ _).bind fun _ => .pure fun _ _ => trivial
      · exact .pure fun _ _ => trivial
    · refine (Run.Triple.log silent_true _ _).bind fun _ => ?_
      exact .ite_bind (fun _ => .log silent_true _ _) (.pure fun _ _ => trivial)

private theorem neverRefuses_copyRow (probing : Bool) (tally : Tally) (row : Row) :
    NeverRefuses (copyRow (.inMemory settings settings') options plan probing tally row) := by
  have rest (row : Row) (present : Bool) : NeverRefuses (if present then pure tally
      else insertCounted (.inMemory settings settings') options plan tally row) :=
    .ite (fun _ => .pure fun _ _ => trivial) fun _ => neverRefuses_insertCounted tally row
  cases probing with
  | true => exact (neverRefuses_probe _).bind (rest _)
  | false => exact Run.Triple.bind (.pure fun _ _ => trivial) (rest _)

private theorem openStream_triple (sql : String) (parameters : List Value) :
    Run.Triple (fun _ => True)
      (RowFlow.openStream (.inMemory settings settings') options sql parameters)
      (fun stream s => ∀ failure, stream.outcome = .error failure → Unrefused failure s)
      Unrefused := by
  refine (Run.Triple.logSql silent_true _ _).bind fun _ s _ failure failed => ?_
  change (MemoryStore.streamOf _ (MemoryStore.query sql parameters s.source).1).outcome = _
    at failed
  cases answer : (MemoryStore.query sql parameters s.source).1 with
  | error failure' =>
    rw [answer] at failed
    cases failed
    obtain ⟨message, rfl⟩ := MemoryStore.query_error answer
    exact unrefused_value message _
  | ok rows =>
    rw [answer, MemoryStore.streamOf, Stream.outcome_ofRows] at failed
    cases failed

theorem neverRefuses_copyRows (probing : Bool) (sql : String) (parameters : List Value) :
    NeverRefuses (copyRows (.inMemory settings settings') options plan probing sql parameters) := by
  refine (openStream_triple sql parameters).bind fun stream s known => ?_
  have ended : NeverRefuses (Run.ofOutcome stream.outcome) :=
    .ofOutcome (fun _ _ _ _ => trivial) fun failure failed _ _ => known failure failed
  have consumed : NeverRefuses (RowFlow.consume plan
      (copyRow (.inMemory settings settings') options plan probing) {} stream) := by
    refine (Run.Triple.foldList (fun tally row _ => neverRefuses_copyRow probing tally row)
      {}).bind fun tally => ?_
    exact (within_unrefused _ ended).bind fun count => .pure fun _ _ => trivial
  refine Run.Triple.ite_bind (fun _ => .logSql silent_true _ _) ?_ s trivial
  refine consumed.bind fun result => ?_
  exact (Run.Triple.log silent_true _ _).bind fun _ => .pure fun _ _ => trivial

theorem neverRefuses_copyByIdentity :
    NeverRefuses (copyByIdentity (.inMemory settings settings') options plan) := by
  refine (Run.Triple.logSql silent_true _ _).bind fun _ => ?_
  refine (within_unrefused _ (neverRefuses_query _ _)).bind fun rows => ?_
  exact .ite_bind (fun _ => .log silent_true _ _) (neverRefuses_copyRows _ _ _)

end Copying

end Migration

end RowSync
