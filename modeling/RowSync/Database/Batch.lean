import RowSync.Failure
import RowSync.Value.Basic

/-!
Rows gathered into batches of a fixed size, and the bounded channel that carries the batches from
a reader to the consumer of its rows.
-/

set_option autoImplicit false

namespace RowSync

abbrev Batch := List Row

/-- Rows gathered so far. -/
structure RowBatcher where
  /-- The number of rows at which a batch is complete. -/
  size : Nat
  pending : Batch := []
  /-- Rows taken in altogether. -/
  total : Nat := 0

namespace RowBatcher

/-- An empty batcher; a size of zero counts as one. Its room is not bounded here: the panic of the
program at a size for which no memory can be reserved is left out. -/
def ofSize (size : Nat) : RowBatcher := { size := max size 1 }

/-- Takes in a row and gives out the batch it completes. -/
def push (b : RowBatcher) (row : Row) : RowBatcher × Option Batch :=
  let pending := b.pending ++ [row]
  if b.size ≤ pending.length then ({ b with pending := [], total := b.total + 1 }, some pending)
  else ({ b with pending, total := b.total + 1 }, none)

/-- The last batch, if rows are left. -/
def rest? (b : RowBatcher) : Option Batch := if b.pending.isEmpty then none else some b.pending

end RowBatcher

/-- Batches on their way, and whether the two ends are still there. -/
structure Channel where
  queue : List Batch := []
  senderOpen : Bool := true
  receiverOpen : Bool := true

/-- What a receiver finds. -/
inductive Received
  | batch (rows : Batch)
  | empty
  | closed

namespace Channel

/-- Batches that fit between a reader and its consumer. -/
def capacity : Nat := 2

/-- Sends a batch, which is lost when nobody receives any more. -/
def send (c : Channel) (batch : Batch) : Outcome Channel :=
  if c.receiverOpen then .ok { c with queue := c.queue ++ [batch] } else .error .streamClosed

def send? (c : Channel) : Option Batch → Outcome Channel
  | some batch => c.send batch
  | none => .ok c

/-- Takes the oldest batch. -/
def receive (c : Channel) : Received × Channel :=
  match c.queue with
  | batch :: queue => (.batch batch, { c with queue })
  | [] => (if c.senderOpen then .empty else .closed, c)

end Channel

/-- A reader's end of a channel. -/
structure RowSender where
  batcher : RowBatcher
  channel : Channel := {}

namespace RowSender

/-- Takes in a row and sends the batch it completes. -/
def push (s : RowSender) (row : Row) : Outcome Unit × RowSender :=
  let (batcher, batch?) := s.batcher.push row
  match s.channel.send? batch? with
  | .ok channel => (.ok (), { batcher, channel })
  | .error failure => (.error failure, { s with batcher })

/-- Sends the rows left and hangs up; the answer is the number of rows taken in. -/
def finish (s : RowSender) : Outcome Nat × Channel :=
  match s.channel.send? s.batcher.rest? with
  | .ok channel => (.ok s.batcher.total, { channel with senderOpen := false })
  | .error failure => (.error failure, { s.channel with senderOpen := false })

end RowSender

/-- What a reader delivers: batches in order, then a row count or a failure. -/
structure Stream where
  batches : List Batch
  outcome : Outcome Nat

namespace Stream

/-- The stream of a reader whose consumer takes every batch, from a batcher on. -/
def run (b : RowBatcher) : List (Outcome Row) → Stream
  | [] => ⟨b.rest?.toList, .ok b.total⟩
  | .error e :: _ => ⟨[], .error e⟩
  | .ok row :: rows =>
    let (b, batch?) := b.push row
    let s := run b rows
    ⟨batch?.toList ++ s.batches, s.outcome⟩

/-- The stream of a reader whose consumer is gone: the first batch sent ends it. -/
def runClosed (b : RowBatcher) : List (Outcome Row) → Stream
  | [] => ⟨[], if b.rest?.isSome then .error .streamClosed else .ok b.total⟩
  | .error e :: _ => ⟨[], .error e⟩
  | .ok row :: rows =>
    match b.push row with
    | (_, some _) => ⟨[], .error .streamClosed⟩
    | (b, none) => runClosed b rows

def ofRows (size : Nat) (rows : List (Outcome Row)) : Stream := run (.ofSize size) rows

end Stream

end RowSync
