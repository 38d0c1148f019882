import Mathlib.Data.List.Forall2
import RowSync.Proofs.Sync.Yields
import RowSync.Sync.Migration

/-!
Two runs that go hand in hand: started in related states they come to the same outcome in related
states, or to outcomes that differ in no more than is allowed. What relates the states of two pairs
of databases request by request relates every run on them, so an invariant of the requests is an
invariant of a run.
-/

set_option autoImplicit false

namespace RowSync

variable {σ τ σ' τ' : Type}

namespace Run

variable {α β γ : Type}

/-- Started in related states, the runs come to the same outcome in related states. -/
def Corresponds (R : RunState σ τ → RunState σ' τ' → Prop) (run : Run σ τ α)
    (run' : Run σ' τ' α) : Prop :=
  ∀ s s', R s s' → (run s).1 = (run' s').1 ∧ R (run s).2 (run' s').2

/-- Reports do not matter for the relation. -/
def Reports (R : RunState σ τ → RunState σ' τ' → Prop) : Prop :=
  ∀ f, Corresponds R (report f) (report f)

namespace Corresponds

variable {R : RunState σ τ → RunState σ' τ' → Prop} {run : Run σ τ α} {run' : Run σ' τ' α}

protected theorem pure (a : α) :
    Corresponds R (pure a : Run σ τ α) (pure a : Run σ' τ' α) :=
  fun _ _ related => ⟨rfl, related⟩

protected theorem throw (failure : Failure) :
    Corresponds R (throw failure : Run σ τ α) (throw failure : Run σ' τ' α) :=
  fun _ _ related => ⟨rfl, related⟩

theorem ofOutcome (outcome : Outcome α) :
    Corresponds R (ofOutcome outcome : Run σ τ α) (ofOutcome outcome : Run σ' τ' α) :=
  fun _ _ related => ⟨rfl, related⟩

protected theorem bind {next : α → Run σ τ β} {next' : α → Run σ' τ' β}
    (first : Corresponds R run run') (rest : ∀ a, Corresponds R (next a) (next' a)) :
    Corresponds R (run >>= next) (run' >>= next') := by
  intro s s' related
  obtain ⟨same, related'⟩ := first s s' related
  rw [bind_apply, bind_apply]
  cases answer : run s with
  | mk outcome t =>
    cases answer' : run' s' with
    | mk outcome' t' =>
      rw [answer, answer'] at same related'
      subst same
      cases outcome with
      | error failure => exact ⟨rfl, related'⟩
      | ok a => exact rest a t t' related'

theorem ite {c : Prop} [Decidable c] {other : Run σ τ α} {other' : Run σ' τ' α}
    (yes : c → Corresponds R run run') (no : Corresponds R other other') :
    Corresponds R (if c then run else other) (if c then run' else other') := by
  split
  · exact yes ‹_›
  · exact no

theorem ite_bind {c : Prop} [Decidable c] {first : Run σ τ Unit} {first' : Run σ' τ' Unit}
    (entered : c → Corresponds R first first') (rest : Corresponds R run run') :
    Corresponds R (if c then first >>= fun _ => run else run)
      (if c then first' >>= fun _ => run' else run') :=
  ite (fun holds => (entered holds).bind fun _ => rest) rest

theorem within (label : String) (both : Corresponds R run run') :
    Corresponds R (run.within label) (run'.within label) := by
  intro s s' related
  obtain ⟨same, related'⟩ := both s s' related
  exact ⟨congrArg (Outcome.within · label) same, related'⟩

theorem attempt (both : Corresponds R run run') :
    Corresponds R run.attempt run'.attempt := by
  intro s s' related
  obtain ⟨same, related'⟩ := both s s' related
  exact ⟨congrArg Except.ok same, related'⟩

theorem foldList {step : β → γ → Run σ τ β} {step' : β → γ → Run σ' τ' β} {l : List γ}
    (each : ∀ b, ∀ c ∈ l, Corresponds R (step b c) (step' b c)) (b : β) :
    Corresponds R (foldList step b l) (foldList step' b l) := by
  induction l generalizing b with
  | nil => exact .pure b
  | cons c l ih =>
    refine (each b c List.mem_cons_self).bind fun b' => ?_
    exact ih (fun b d member => each b d (List.mem_cons_of_mem c member)) b'

theorem mapList {step : γ → Run σ τ β} {step' : γ → Run σ' τ' β} {l : List γ}
    (each : ∀ c ∈ l, Corresponds R (step c) (step' c)) :
    Corresponds R (mapList step l) (mapList step' l) := by
  induction l with
  | nil => exact .pure []
  | cons c l ih =>
    refine (each c List.mem_cons_self).bind fun b => ?_
    refine (ih fun d member => each d (List.mem_cons_of_mem c member)).bind fun bs => ?_
    exact .pure (b :: bs)

section Reports

variable (reports : Reports R)
include reports

theorem log (level : LogLevel) (text : String) :
    Corresponds R (log level text : Run σ τ Unit) (log level text : Run σ' τ' Unit) := reports _

theorem notify (event : Event) :
    Corresponds R (notify event : Run σ τ Unit) (notify event : Run σ' τ' Unit) := reports _

theorem logAll (lines : List LogLine) :
    Corresponds R (logAll lines : Run σ τ Unit) (logAll lines : Run σ' τ' Unit) := reports _

theorem logSql (options : DiagnosticOptions) (sql : String) :
    Corresponds R (logSql options sql : Run σ τ Unit) (logSql options sql : Run σ' τ' Unit) :=
  ite (fun _ => log reports _ _) (.pure ())

theorem logRow (options : DiagnosticOptions) (table : String) (row : Row) :
    Corresponds R (logRow options table row : Run σ τ Unit)
      (logRow options table row : Run σ' τ' Unit) :=
  ite (fun _ => log reports _ _) (.pure ())

theorem reported (result : Outcome α × List LogLine) :
    Corresponds R (reported result : Run σ τ α) (reported result : Run σ' τ' α) :=
  (logAll reports result.2).bind fun _ => ofOutcome result.1

end Reports

end Corresponds

end Run

/-- Results of which the relation holds, or failures, the same ones unless any will do. -/
inductive Outcome.Rel {α β : Type} (lax : Prop) (V : α → β → Prop) : Outcome α → Outcome β → Prop
  | ok {a : α} {b : β} (results : V a b) : Rel lax V (.ok a) (.ok b)
  | error {failure failure' : Failure} (failures : lax ∨ failure = failure') :
    Rel lax V (.error failure) (.error failure')

theorem Outcome.Rel.refl {α : Type} (lax : Prop) (outcome : Outcome α) : Rel lax Eq outcome outcome := by
  cases outcome with
  | ok a => exact .ok rfl
  | error failure => exact .error (.inr rfl)

theorem Outcome.Rel.eq {α : Type} {outcome outcome' : Outcome α}
    (related : Rel False Eq outcome outcome') : outcome = outcome' := by
  cases related with
  | ok results => rw [results]
  | error failures => rw [failures.resolve_left id]

namespace Run

variable {α β γ δ ε : Type}

/-- Started in related states, the runs come to related outcomes in related states. -/
def Relates (lax : Prop) (R : RunState σ τ → RunState σ' τ' → Prop) (V : α → β → Prop)
    (run : Run σ τ α) (run' : Run σ' τ' β) : Prop :=
  ∀ s s', R s s' → Outcome.Rel lax V (run s).1 (run' s').1 ∧ R (run s).2 (run' s').2

namespace Relates

variable {lax : Prop} {R : RunState σ τ → RunState σ' τ' → Prop} {V : α → β → Prop}
  {W : γ → δ → Prop} {run : Run σ τ α} {run' : Run σ' τ' β}

protected theorem pure {a : α} {b : β} (results : V a b) :
    Relates lax R V (pure a : Run σ τ α) (pure b : Run σ' τ' β) :=
  fun _ _ related => ⟨.ok results, related⟩

theorem ofOutcome {outcome : Outcome α} {outcome' : Outcome β}
    (outcomes : Outcome.Rel lax V outcome outcome') :
    Relates lax R V (ofOutcome outcome : Run σ τ α) (ofOutcome outcome' : Run σ' τ' β) :=
  fun _ _ related => ⟨outcomes, related⟩

theorem of_corresponds {run : Run σ τ α} {run' : Run σ' τ' α} (both : Corresponds R run run') :
    Relates lax R Eq run run' := by
  intro s s' related
  obtain ⟨same, related'⟩ := both s s' related
  exact ⟨same ▸ .refl lax _, related'⟩

theorem corresponds {run : Run σ τ α} {run' : Run σ' τ' α} (both : Relates False R Eq run run') :
    Corresponds R run run' :=
  fun s s' related => (both s s' related).imp_left Outcome.Rel.eq

theorem mono {V' : α → β → Prop} (both : Relates lax R V run run')
    (weaker : ∀ a b, V a b → V' a b) : Relates lax R V' run run' := by
  intro s s' related
  obtain ⟨outcomes, related'⟩ := both s s' related
  refine ⟨?_, related'⟩
  generalize (run s).1 = outcome at *
  generalize (run' s').1 = outcome' at *
  cases outcomes with
  | ok results => exact .ok (weaker _ _ results)
  | error failures => exact .error failures

protected theorem bind {next : α → Run σ τ γ} {next' : β → Run σ' τ' δ}
    (first : Relates lax R V run run')
    (rest : ∀ a b, V a b → Relates lax R W (next a) (next' b)) :
    Relates lax R W (run >>= next) (run' >>= next') := by
  intro s s' related
  obtain ⟨outcomes, related'⟩ := first s s' related
  rw [bind_apply, bind_apply]
  generalize run s = ended at *
  generalize run' s' = ended' at *
  obtain ⟨outcome, t⟩ := ended
  obtain ⟨outcome', t'⟩ := ended'
  cases outcomes with
  | ok results => exact rest _ _ results t t' related'
  | error failures => exact ⟨.error failures, related'⟩

theorem bind_same_of {first : Run σ τ ε} {first' : Run σ' τ' ε} {next : ε → Run σ τ α}
    {next' : ε → Run σ' τ' β} (both : Corresponds R first first')
    (rest : ∀ e, (∃ s, (first s).1 = .ok e) → Relates lax R V (next e) (next' e)) :
    Relates lax R V (first >>= next) (first' >>= next') := by
  intro s s' related
  obtain ⟨same, related'⟩ := both s s' related
  rw [bind_apply, bind_apply]
  cases answer : first s with
  | mk outcome t =>
    cases answer' : first' s' with
    | mk outcome' t' =>
      rw [answer, answer'] at same related'
      subst same
      cases outcome with
      | error failure => exact ⟨.error (.inr rfl), related'⟩
      | ok e => exact rest e ⟨s, by rw [answer]⟩ t t' related'

theorem bind_same {first : Run σ τ ε} {first' : Run σ' τ' ε} {next : ε → Run σ τ α}
    {next' : ε → Run σ' τ' β} (both : Corresponds R first first')
    (rest : ∀ e, Relates lax R V (next e) (next' e)) :
    Relates lax R V (first >>= next) (first' >>= next') :=
  bind_same_of both fun e _ => rest e

theorem reported_bind (reports : Reports R) (result : Outcome ε × List LogLine)
    {next : ε → Run σ τ α} {next' : ε → Run σ' τ' β}
    (rest : ∀ e, result.1 = .ok e → Relates lax R V (next e) (next' e)) :
    Relates lax R V (reported result >>= next) (reported result >>= next') := by
  refine bind_same_of (.reported reports result) fun e ⟨s, success⟩ => rest e ?_
  rwa [reported, bind_apply] at success

theorem ite_bind {c : Prop} [Decidable c] {first : Run σ τ Unit} {first' : Run σ' τ' Unit}
    (entered : c → Corresponds R first first') (rest : Relates lax R V run run') :
    Relates lax R V (if c then first >>= fun _ => run else run)
      (if c then first' >>= fun _ => run' else run') := by
  split
  · rename_i holds
    exact bind_same (entered holds) fun _ => rest
  · exact rest

theorem within (label : String) (both : Relates lax R V run run') :
    Relates lax R V (run.within label) (run'.within label) := by
  intro s s' related
  obtain ⟨outcomes, related'⟩ := both s s' related
  refine ⟨?_, related'⟩
  change Outcome.Rel lax V (Outcome.within (run s).1 label) (Outcome.within (run' s').1 label)
  generalize (run s).1 = outcome at *
  generalize (run' s').1 = outcome' at *
  cases outcomes with
  | ok results => exact .ok results
  | error failures => exact .error (failures.imp_right (congrArg (Failure.within · label)))

theorem foldList {step : α → ε → Run σ τ α} {step' : β → ε → Run σ' τ' β} {l : List ε}
    (each : ∀ a b, V a b → ∀ e ∈ l, Relates lax R V (step a e) (step' b e)) {a : α} {b : β}
    (start : V a b) : Relates lax R V (foldList step a l) (foldList step' b l) := by
  induction l generalizing a b with
  | nil => exact .pure start
  | cons e l ih =>
    refine (each a b start e List.mem_cons_self).bind fun a' b' results => ?_
    exact ih (fun c d also f member => each c d also f (List.mem_cons_of_mem e member)) results

theorem mapList {step : ε → Run σ τ α} {step' : ε → Run σ' τ' β} {l : List ε}
    (each : ∀ e ∈ l, Relates lax R V (step e) (step' e)) :
    Relates lax R (List.Forall₂ V) (mapList step l) (mapList step' l) := by
  induction l with
  | nil => exact .pure .nil
  | cons e l ih =>
    refine (each e List.mem_cons_self).bind fun a b results => ?_
    refine (ih fun c member => each c (List.mem_cons_of_mem e member)).bind fun as bs more => ?_
    exact .pure (.cons results more)

theorem attempt_bind {last : Run σ τ Unit} {last' : Run σ' τ' Unit} {next : α → Run σ τ γ}
    {next' : β → Run σ' τ' δ} (both : Relates lax R V run run') (after : Corresponds R last last')
    (rest : ∀ a b, V a b → Relates lax R W (next a) (next' b)) :
    Relates lax R W (run.attempt >>= fun outcome => last >>= fun _ => Run.ofOutcome outcome >>= next)
      (run'.attempt >>= fun outcome => last' >>= fun _ => Run.ofOutcome outcome >>= next') := by
  intro s s' related
  obtain ⟨outcomes, related'⟩ := both s s' related
  have later : Relates lax R W _ _ := bind_same after fun _ => (ofOutcome outcomes).bind rest
  exact later _ _ related'

end Relates

end Run

/-- The databases answer alike while a run reads the schemas. -/
structure SchemaPair.Alike (R : RunState σ τ → RunState σ' τ' → Prop) (sides : Sides σ τ)
    (sides' : Sides σ' τ') : Prop where
  source_dialect : sides.source.dialect = sides'.source.dialect
  target_dialect : sides.target.dialect = sides'.target.dialect
  reports : Run.Reports R
  source_rows : Run.Corresponds R (Run.onSource sides.source.schemaRows)
    (Run.onSource sides'.source.schemaRows)
  target_rows : Run.Corresponds R (Run.onTarget sides.target.schemaRows)
    (Run.onTarget sides'.target.schemaRows)

namespace SchemaPair

variable {R : RunState σ τ → RunState σ' τ' → Prop} {sides : Sides σ τ} {sides' : Sides σ' τ'}

private theorem build_corresponds (reports : Run.Reports R) {rows : Run σ τ (List SchemaRow)}
    {rows' : Run σ' τ' (List SchemaRow)} (both : Run.Corresponds R rows rows') (flavor : Flavor) :
    Run.Corresponds R (build rows flavor) (build rows' flavor) := by
  refine both.bind fun described => ?_
  refine (Run.Corresponds.ofOutcome _).bind fun schema => ?_
  exact (Run.Corresponds.log reports _ _).bind fun _ => .pure schema

theorem Alike.load_corresponds (alike : Alike R sides sides') (options : DiagnosticOptions) :
    Run.Corresponds R (load sides options) (load sides' options) := by
  unfold load
  rw [alike.source_dialect, alike.target_dialect]
  refine ((build_corresponds alike.reports alike.source_rows _).within _).bind fun source => ?_
  refine ((build_corresponds alike.reports alike.target_rows _).within _).bind fun target => ?_
  refine Run.Corresponds.bind ?_ fun _ => .pure _
  refine .ite (fun _ => ?_) (.pure ())
  exact (Run.Corresponds.logAll alike.reports _).bind fun _ => .ite (fun _ => .throw _) (.pure ())

end SchemaPair

end RowSync
