import Mathlib.Data.List.Forall2
import RowSync.Proofs.Sync.Yields

/-!
Triples of runs: what holds of the state before, what then holds of the result and the state when
the run succeeds, and what holds of the failure and the state when it fails.
-/

set_option autoImplicit false

namespace RowSync.Run

variable {σ τ α β γ : Type}

theorem mapList_map {δ : Type} (step : γ → Run σ τ β) (f : δ → γ) (l : List δ) :
    mapList step (l.map f) = mapList (fun a => step (f a)) l := by
  induction l with
  | nil => rfl
  | cons a l ih => rw [List.map_cons, mapList, ih, mapList]

/-- Started in a state with `pre`, the run succeeds with `post` or fails with `fault`. -/
def Triple (pre : RunState σ τ → Prop) (run : Run σ τ α) (post : α → RunState σ τ → Prop)
    (fault : Failure → RunState σ τ → Prop) : Prop :=
  ∀ s, pre s →
    match run s with
    | (.ok a, t) => post a t
    | (.error failure, t) => fault failure t

/-- Reports change nothing about whether a state has the property. -/
def Silent (holds : RunState σ τ → Prop) : Prop :=
  ∀ s journal, holds s → holds { s with journal }

namespace Triple

variable {pre pre' : RunState σ τ → Prop} {run : Run σ τ α}
  {post post' : α → RunState σ τ → Prop} {fault fault' : Failure → RunState σ τ → Prop}

theorem error (triple : Triple pre run post fault) {s t : RunState σ τ} (holds : pre s)
    {failure : Failure} (ran : run s = (.error failure, t)) : fault failure t := by
  have met := triple s holds
  rwa [ran] at met

theorem success (triple : Triple pre run post fault) {s : RunState σ τ} (holds : pre s) {a : α}
    (ran : (run s).1 = .ok a) : post a (run s).2 := by
  have met := triple s holds
  generalize run s = ended at *
  obtain ⟨outcome, t⟩ := ended
  cases ran
  exact met

theorem outcome {both : Outcome α → RunState σ τ → Prop}
    (triple : Triple pre run (fun a => both (.ok a)) fun failure => both (.error failure))
    {s : RunState σ τ} (holds : pre s) : both (run s).1 (run s).2 := by
  have met := triple s holds
  cases answer : run s with
  | mk outcome t =>
    rw [answer] at met
    cases outcome with
    | ok a => exact met
    | error failure => exact met

theorem of_state {holds : RunState σ τ → Prop} (each : ∀ s, pre s → holds (run s).2) :
    Triple pre run (fun _ => holds) fun _ => holds := by
  intro s here
  have met := each s here
  cases answer : run s with
  | mk outcome t =>
    rw [answer] at met
    cases outcome with
    | ok a => exact met
    | error failure => exact met

theorem state {holds : RunState σ τ → Prop} (triple : Triple pre run (fun _ => holds) fun _ => holds)
    {s : RunState σ τ} (here : pre s) : holds (run s).2 := by
  have met := triple s here
  cases answer : run s with
  | mk outcome t =>
    rw [answer] at met
    cases outcome with
    | ok a => exact met
    | error failure => exact met

theorem mono (triple : Triple pre run post fault) (weaker : ∀ s, pre' s → pre s)
    (stronger : ∀ a s, post a s → post' a s)
    (stronger_fault : ∀ failure s, fault failure s → fault' failure s) :
    Triple pre' run post' fault' := by
  intro s holds
  have met := triple s (weaker s holds)
  split at met
  · exact stronger _ _ met
  · exact stronger_fault _ _ met

theorem given {known : Prop} (triple : known → Triple pre run post fault) :
    Triple (fun s => known ∧ pre s) run post fault :=
  fun s ⟨here, holds⟩ => triple here s holds

protected theorem pure {a : α} (holds : ∀ s, pre s → post a s) :
    Triple pre (pure a) post fault :=
  fun s here => holds s here

protected theorem throw {failure : Failure} (holds : ∀ s, pre s → fault failure s) :
    Triple pre (throw failure : Run σ τ α) post fault :=
  fun s here => holds s here

theorem ofOutcome {outcome : Outcome α} (success : ∀ a, outcome = .ok a → ∀ s, pre s → post a s)
    (failing : ∀ failure, outcome = .error failure → ∀ s, pre s → fault failure s) :
    Triple pre (ofOutcome outcome) post fault := by
  intro s here
  change match (outcome, s) with
    | (.ok a, t) => post a t
    | (.error failure, t) => fault failure t
  cases outcome with
  | ok a => exact success a rfl s here
  | error failure => exact failing failure rfl s here

protected theorem bind {next : α → Run σ τ β} {Q : α → RunState σ τ → Prop}
    {last : β → RunState σ τ → Prop} (first : Triple pre run Q fault)
    (rest : ∀ a, Triple (Q a) (next a) last fault) :
    Triple pre (run >>= next) last fault := by
  intro s holds
  have met := first s holds
  rw [bind_apply]
  cases answer : run s with
  | mk outcome t =>
    rw [answer] at met
    cases outcome with
    | ok a => exact rest a t met
    | error failure => exact met

theorem ite {c : Prop} [Decidable c] {other : Run σ τ α} (yes : c → Triple pre run post fault)
    (no : ¬c → Triple pre other post fault) :
    Triple pre (if c then run else other) post fault := by
  split
  · exact yes ‹_›
  · exact no ‹_›

theorem within {label : String}
    (triple : Triple pre run post fun failure s => fault (failure.within label) s) :
    Triple pre (run.within label) post fault := by
  intro s holds
  have met := triple s holds
  change match (Outcome.within (run s).1 label, (run s).2) with
    | (.ok a, t) => post a t
    | (.error failure, t) => fault failure t
  cases answer : run s with
  | mk outcome t =>
    rw [answer] at met
    cases outcome with
    | ok a => exact met
    | error failure => exact met

theorem attempt {both : Outcome α → RunState σ τ → Prop}
    (triple : Triple pre run (fun a => both (.ok a)) fun failure => both (.error failure)) :
    Triple pre run.attempt both fault :=
  fun _ holds => triple.outcome holds

/-- What every step preserves is what a fold preserves. -/
theorem foldList {step : β → γ → Run σ τ β} {l : List γ} {inv : β → RunState σ τ → Prop}
    (each : ∀ b, ∀ a ∈ l, Triple (inv b) (step b a) inv fault) (b : β) :
    Triple (inv b) (foldList step b l) inv fault := by
  induction l generalizing b with
  | nil => exact .pure fun _ holds => holds
  | cons a l ih =>
    refine (each b a List.mem_cons_self).bind fun b' => ?_
    exact ih (fun c d member => each c d (List.mem_cons_of_mem a member)) b'

/-- What every step makes of the results so far is what a list of steps makes of them. -/
theorem mapList {step : γ → Run σ τ β} {l : List γ} {inv : List β → RunState σ τ → Prop}
    (each : ∀ done, ∀ a ∈ l, Triple (inv done) (step a) (fun b => inv (done ++ [b])) fault)
    (done : List β) : Triple (inv done) (mapList step l) (fun bs => inv (done ++ bs)) fault := by
  induction l generalizing done with
  | nil =>
    refine .pure fun s holds => ?_
    rwa [List.append_nil]
  | cons a l ih =>
    refine (each done a List.mem_cons_self).bind fun b => ?_
    refine (ih (fun done c member => each done c (List.mem_cons_of_mem a member)) _).bind
      fun bs => .pure fun s holds => ?_
    rwa [List.append_assoc] at holds

theorem mapList_related {R : γ → β → Prop} {step : γ → Run σ τ β} {l : List γ}
    {holds : RunState σ τ → Prop}
    (each : ∀ a ∈ l, Triple holds (step a) (fun b s => R a b ∧ holds s) fault) :
    Triple holds (Run.mapList step l) (fun bs s => List.Forall₂ R l bs ∧ holds s) fault := by
  induction l with
  | nil => exact .pure fun _ here => ⟨.nil, here⟩
  | cons a l ih =>
    refine (each a List.mem_cons_self).bind fun b s first => ?_
    have others := ih fun c member => each c (List.mem_cons_of_mem a member)
    refine (others.bind fun bs => .pure fun _ rest => ?_) s first.2
    exact ⟨.cons first.1 rest.1, rest.2⟩

theorem onTarget {request : Request τ α}
    (success : ∀ s a, pre s → (request s.target).1 = .ok a →
      post a { s with target := (request s.target).2 })
    (failing : ∀ s failure, pre s → (request s.target).1 = .error failure →
      fault failure { s with target := (request s.target).2 }) :
    Triple pre (onTarget request) post fault := by
  intro s holds
  change match ((request s.target).1, { s with target := (request s.target).2 }) with
    | (.ok a, t) => post a t
    | (.error failure, t) => fault failure t
  cases answer : (request s.target).1 with
  | ok a => exact success s a holds answer
  | error failure => exact failing s failure holds answer

theorem onSource {request : Request σ α}
    (success : ∀ s a, pre s → (request s.source).1 = .ok a →
      post a { s with source := (request s.source).2 })
    (failing : ∀ s failure, pre s → (request s.source).1 = .error failure →
      fault failure { s with source := (request s.source).2 }) :
    Triple pre (onSource request) post fault := by
  intro s holds
  change match ((request s.source).1, { s with source := (request s.source).2 }) with
    | (.ok a, t) => post a t
    | (.error failure, t) => fault failure t
  cases answer : (request s.source).1 with
  | ok a => exact success s a holds answer
  | error failure => exact failing s failure holds answer

theorem ite_bind {c : Prop} [Decidable c] {first : Run σ τ Unit}
    (entered : c → Triple pre first (fun _ => pre) fault) (rest : Triple pre run post fault) :
    Triple pre (if c then first >>= fun _ => run else run) post fault :=
  ite (fun holds => (entered holds).bind fun _ => rest) fun _ => rest

section Reports

variable (silent : Silent pre)
include silent

theorem report (f : Journal → Journal) :
    Triple pre (report f : Run σ τ Unit) (fun _ => pre) fault :=
  fun s holds => silent s (f s.journal) holds

theorem log (level : LogLevel) (text : String) :
    Triple pre (log level text : Run σ τ Unit) (fun _ => pre) fault := report silent _

theorem notify (event : Event) :
    Triple pre (notify event : Run σ τ Unit) (fun _ => pre) fault := report silent _

theorem logSql (options : DiagnosticOptions) (sql : String) :
    Triple pre (logSql options sql : Run σ τ Unit) (fun _ => pre) fault :=
  ite (fun _ => log silent _ _) fun _ => .pure fun _ holds => holds

theorem logRow (options : DiagnosticOptions) (table : String) (row : Row) :
    Triple pre (logRow options table row : Run σ τ Unit) (fun _ => pre) fault :=
  ite (fun _ => log silent _ _) fun _ => .pure fun _ holds => holds

theorem reported {result : Outcome α × List LogLine}
    (success : ∀ a, result.1 = .ok a → ∀ s, pre s → post a s)
    (failing : ∀ failure, result.1 = .error failure → ∀ s, pre s → fault failure s) :
    Triple pre (reported result) post fault :=
  (report silent _).bind fun _ => ofOutcome success failing

end Reports

end Triple

end RowSync.Run
