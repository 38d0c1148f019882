import RowSync.Proofs.Postgres.StatementCache
import RowSync.Proofs.Sync.PipelineSafety

/-!
Streaming from a server and querying it. A query takes in the whole answer before it decodes the
first row, a stream decodes and sends its rows as they arrive, so that the two meet a failure at
different moments. Both are compared with the rows in front of the first failure.
-/

set_option autoImplicit false

namespace RowSync

namespace Stream

/-- The rows in front of the first failure. -/
def front : List (Outcome Row) → List Row
  | .ok row :: arriving => row :: front arriving
  | _ => []

def failure? : List (Outcome Row) → Option Failure
  | .ok _ :: arriving => failure? arriving
  | .error failure :: _ => some failure
  | [] => none

section Arriving

variable {arriving : List (Outcome Row)} {failure : Failure}

theorem eq_front_of_failure?_none (complete : failure? arriving = none) :
    arriving = (front arriving).map .ok := by
  induction arriving with
  | nil => rfl
  | cons item arriving ih =>
    cases item with
    | ok row => exact congrArg (Except.ok row :: ·) (ih complete)
    | error failure => cases complete

theorem exists_of_failure?_some (cut : failure? arriving = some failure) :
    ∃ rest, arriving = (front arriving).map .ok ++ .error failure :: rest := by
  induction arriving with
  | nil => cases cut
  | cons item arriving ih =>
    cases item with
    | ok row =>
      obtain ⟨rest, split⟩ := ih cut
      exact ⟨rest, congrArg (Except.ok row :: ·) split⟩
    | error failure' =>
      cases cut
      exact ⟨arriving, rfl⟩

theorem front_append_failures (later : List (Outcome Row)) (failing : front later = []) :
    front (arriving ++ later) = front arriving := by
  induction arriving with
  | nil => exact failing
  | cons item arriving ih =>
    cases item with
    | ok row => exact congrArg (row :: ·) ih
    | error failure => rfl

theorem failure?_append (later : List (Outcome Row)) :
    failure? (arriving ++ later) = (failure? arriving).or (failure? later) := by
  induction arriving with
  | nil => rfl
  | cons item arriving ih =>
    cases item with
    | ok row => exact ih
    | error failure => rfl

end Arriving

theorem mapM_eq {ι : Type} (read : ι → Outcome Row) (items : List ι) :
    items.mapM read =
      match failure? (items.map read) with
      | some failure => .error failure
      | none => .ok (front (items.map read)) := by
  induction items with
  | nil => rfl
  | cons item items ih =>
    rw [List.mapM_cons, List.map_cons, ih]
    cases read item with
    | error failure => rfl
    | ok row =>
      rw [failure?, front]
      cases failure? (items.map read) with
      | some failure => rfl
      | none => rfl

/-- What a stream in batches of a size is worth: the rows in front of the first failure, cut down to
full batches if there is one. -/
theorem ofRows_delivers (size : Nat) (arriving : List (Outcome Row)) :
    match failure? arriving with
    | none =>
      (ofRows size arriving).outcome = .ok (front arriving).length ∧
        (ofRows size arriving).batches.flatten = front arriving
    | some failure =>
      (ofRows size arriving).outcome = .error failure ∧
        (∀ batch ∈ (ofRows size arriving).batches, batch.length = max size 1) ∧
        (ofRows size arriving).batches.flatten =
          (front arriving).take ((front arriving).length / max size 1 * max size 1) := by
  cases ends : failure? arriving with
  | none =>
    have whole := eq_front_of_failure?_none ends
    generalize front arriving = rows at whole ⊢
    subst whole
    exact ⟨outcome_ofRows size rows, flatten_ofRows size rows⟩
  | some failure =>
    obtain ⟨rest, split⟩ := exists_of_failure?_some ends
    generalize front arriving = rows at split ⊢
    subst split
    have room : (RowBatcher.ofSize size).pending.length < (RowBatcher.ofSize size).size :=
      Nat.le_max_right size 1
    obtain ⟨sent, failed⟩ := run_of_failure room rows failure rest
    exact ⟨failed, length_of_failure room rows failure rest, sent⟩

end Stream

namespace PostgresSession

section Answering

variable (sql : String) (parameters : List Value) (size : Nat) (s : PostgresSession)

/-- The rows of the server's answer, up to the first that does not decode. -/
def readable : List Row :=
  match (exchange sql parameters s).1 with
  | .ok (statement, answer) =>
    Stream.front (answer.rows.map (PostgresColumn.decodeRow statement.columns))
  | .error _ => []

/-- The failure of the first row that does not decode. -/
def undecoded? : Option Failure :=
  match (exchange sql parameters s).1 with
  | .ok (statement, answer) =>
    Stream.failure? (answer.rows.map (PostgresColumn.decodeRow statement.columns))
  | .error _ => none

/-- What keeps the server from answering at all, or the failure behind its rows. -/
def refused? : Option Failure :=
  match (exchange sql parameters s).1 with
  | .ok (_, answer) => answer.failure?.map fun reply => (PostgresFault.server reply).failure
  | .error fault => some fault.failure

private theorem arriving_parts :
    Stream.front (arriving sql parameters s).1 = readable sql parameters s ∧
      Stream.failure? (arriving sql parameters s).1 =
        (undecoded? sql parameters s).or (refused? sql parameters s) := by
  unfold arriving readable undecoded? refused?
  rcases exchange sql parameters s with ⟨fault | ⟨statement, answer⟩, s'⟩
  · exact ⟨rfl, rfl⟩
  · dsimp only
    rw [Stream.failure?_append]
    cases answer.failure? with
    | none => exact ⟨Stream.front_append_failures _ rfl, rfl⟩
    | some reply => exact ⟨Stream.front_append_failures _ rfl, rfl⟩

/-- A query knows the failure behind the rows before it decodes the first of them. -/
private theorem query_parts :
    (query sql parameters s).1 =
      match (refused? sql parameters s).or (undecoded? sql parameters s) with
      | some failure => .error failure
      | none => .ok (readable sql parameters s) := by
  unfold query readable undecoded? refused?
  rcases exchange sql parameters s with ⟨fault | ⟨statement, answer⟩, s'⟩
  · rfl
  · change ((finish answer ()).mapError PostgresFault.failure >>= fun _ =>
      answer.rows.mapM (PostgresColumn.decodeRow statement.columns)) = _
    dsimp only
    unfold finish
    cases answer.failure? with
    | some reply => rfl
    | none => exact Stream.mapM_eq _ _

private theorem stream_parts :
    match (undecoded? sql parameters s).or (refused? sql parameters s) with
    | none =>
      (stream sql parameters size s).1.outcome = .ok (readable sql parameters s).length ∧
        (stream sql parameters size s).1.batches.flatten = readable sql parameters s
    | some failure =>
      (stream sql parameters size s).1.outcome = .error failure ∧
        (∀ batch ∈ (stream sql parameters size s).1.batches, batch.length = max size 1) ∧
        (stream sql parameters size s).1.batches.flatten = (readable sql parameters s).take
          ((readable sql parameters s).length / max size 1 * max size 1) := by
  obtain ⟨rows, ends⟩ := arriving_parts sql parameters s
  rw [← rows, ← ends]
  exact Stream.ofRows_delivers size (arriving sql parameters s).1

/-- A stream succeeds when the query does, with the same rows and their number. When it fails, it
has delivered full batches, as many as the rows make that decode. -/
theorem stream_agrees (sql : String) (parameters : List Value) (size : Nat) (s : PostgresSession) :
    let queried := query sql parameters s
    let streamed := stream sql parameters size s
    streamed.2 = queried.2 ∧
      match queried.1 with
      | .ok rows => streamed.1.outcome = .ok rows.length ∧ streamed.1.batches.flatten = rows
      | .error _ =>
        (∃ failure, streamed.1.outcome = .error failure) ∧
          (∀ batch ∈ streamed.1.batches, batch.length = max size 1) ∧
          let rows := readable sql parameters s
          streamed.1.batches.flatten = rows.take (rows.length / max size 1 * max size 1) := by
  refine ⟨snd_arriving sql parameters s, ?_⟩
  have delivers := stream_parts sql parameters size s
  rw [query_parts]
  cases refused : refused? sql parameters s with
  | none =>
    cases undecoded : undecoded? sql parameters s with
    | none =>
      rw [undecoded, refused] at delivers
      exact delivers
    | some failure =>
      rw [undecoded, refused] at delivers
      exact ⟨⟨failure, delivers.1⟩, delivers.2⟩
  | some failure =>
    cases undecoded : undecoded? sql parameters s with
    | none =>
      rw [undecoded, refused] at delivers
      exact ⟨⟨failure, delivers.1⟩, delivers.2⟩
    | some earlier =>
      rw [undecoded, refused] at delivers
      exact ⟨⟨earlier, delivers.1⟩, delivers.2⟩

/-- The two tell the same failure unless a row does not decode and the server fails behind it. -/
theorem outcome_stream_eq (alone : undecoded? sql parameters s = none ∨
      refused? sql parameters s = none) :
    (stream sql parameters size s).1.outcome = (query sql parameters s).1.map List.length := by
  have delivers := stream_parts sql parameters size s
  rw [query_parts]
  obtain none | none := alone
  · rw [none, Option.none_or] at delivers
    rw [none, Option.or_none]
    cases refused : refused? sql parameters s with
    | none =>
      rw [refused] at delivers
      exact delivers.1
    | some failure =>
      rw [refused] at delivers
      exact delivers.1
  · rw [none, Option.or_none] at delivers
    rw [none, Option.none_or]
    cases undecoded : undecoded? sql parameters s with
    | none =>
      rw [undecoded] at delivers
      exact delivers.1
    | some failure =>
      rw [undecoded] at delivers
      exact delivers.1

end Answering

end PostgresSession

end RowSync
