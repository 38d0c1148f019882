import RowSync.Sync.RowFlow

/-!
The two parties that copy the rows of a table side by side: a reader that sends batches of rows, and
a consumer that takes them and handles row after row. A turn of a party is its work up to the next
point at which the other may go on.
-/

set_option autoImplicit false

namespace RowSync

namespace Channel

def hasRoom (c : Channel) : Bool := c.queue.length < capacity

/-- The channel once its sender is gone; what is queued is still received. -/
def hangUp (c : Channel) : Channel := { c with senderOpen := false }

/-- The channel once its receiver is gone, and with it what is queued. -/
def leave (c : Channel) : Channel := { c with queue := [], receiverOpen := false }

end Channel

/-- How a reader ended. -/
inductive ReaderEnd
  /-- It read its last row, or failed to read. -/
  | stopped (outcome : Outcome Nat)
  /-- Nobody was there to receive a batch. -/
  | cutOff

def ReaderEnd.outcome : ReaderEnd → Outcome Nat
  | stopped outcome => outcome
  | cutOff => .error .streamClosed

/-- Who has a turn. -/
inductive Party
  | reader
  | consumer

/-- A reader and a consumer at work, what is between them, and what they did. -/
structure Pipeline (σ τ β : Type) where
  /-- What the reader will still read. -/
  arriving : List (Outcome Row)
  batcher : RowBatcher
  /-- A complete batch that is to be sent. -/
  outbox? : Option Batch := none
  readerEnd? : Option ReaderEnd := none
  channel : Channel := {}
  /-- Rows of the batch received last that are to be handled. -/
  inbox : Batch := []
  acc : β
  world : RunState σ τ
  consumed? : Option (Outcome β) := none
  /-- The rows that the reader has read. -/
  pushed : List Row := []
  /-- The batches that the reader has sent. -/
  sent : List Batch := []
  /-- The rows that the consumer has handled; on the last of them it may have failed. -/
  handled : List Row := []

namespace Pipeline

variable {σ τ β : Type}

def start (size : Nat) (arriving : List (Outcome Row)) (acc : β) (world : RunState σ τ) :
    Pipeline σ τ β :=
  { arriving, batcher := .ofSize size, acc, world }

/-- The reader is gone. A batch it could not send is lost. -/
def endReader (p : Pipeline σ τ β) (ending : ReaderEnd) : Pipeline σ τ β :=
  { p with outbox? := none, readerEnd? := some ending, channel := p.channel.hangUp }

def endConsumer (p : Pipeline σ τ β) (outcome : Outcome β) : Pipeline σ τ β :=
  { p with inbox := [], consumed? := some outcome, channel := p.channel.leave }

/-- A turn of the reader. It has none while it waits for room, and once it has ended. -/
def read (p : Pipeline σ τ β) : Option (Pipeline σ τ β) :=
  match p.readerEnd?, p.outbox? with
  | some _, _ => none
  | none, some batch =>
    if p.channel.receiverOpen && !p.channel.hasRoom then none
    else
      match p.channel.send batch with
      | .ok channel => some { p with outbox? := none, channel, sent := p.sent ++ [batch] }
      | .error _ => some (p.endReader .cutOff)
  | none, none =>
    match p.arriving with
    | .ok row :: arriving =>
      let (batcher, outbox?) := p.batcher.push row
      some { p with arriving, batcher, outbox?, pushed := p.pushed ++ [row] }
    | .error failure :: _ => some (p.endReader (.stopped (.error failure)))
    | [] =>
      match p.batcher.rest? with
      | some batch =>
        some { p with batcher := { p.batcher with pending := [] }, outbox? := some batch }
      | none => some (p.endReader (.stopped (.ok p.batcher.total)))

/-- A turn of the consumer. It has none while it waits for a batch, and once it has ended. -/
def consume (handle : β → Row → Run σ τ β) (p : Pipeline σ τ β) : Option (Pipeline σ τ β) :=
  match p.consumed?, p.inbox with
  | some _, _ => none
  | none, row :: inbox =>
    let p := { p with inbox, handled := p.handled ++ [row] }
    match handle p.acc row p.world with
    | (.ok acc, world) => some { p with acc, world }
    | (.error failure, world) => some ({ p with world }.endConsumer (.error failure))
  | none, [] =>
    match p.channel.receive with
    | (.batch rows, channel) => some { p with inbox := rows, channel }
    | (.empty, _) => none
    | (.closed, _) => some (p.endConsumer (.ok p.acc))

def step (handle : β → Row → Run σ τ β) : Party → Pipeline σ τ β → Option (Pipeline σ τ β)
  | .reader => read
  | .consumer => consume handle

/-- Gives the parties turns in that order; one that has to wait is passed over. -/
def run (handle : β → Row → Run σ τ β) (p : Pipeline σ τ β) (schedule : List Party) :
    Pipeline σ τ β :=
  schedule.foldl (fun p party => (step handle party p).getD p) p

def isDone (p : Pipeline σ τ β) : Bool := p.readerEnd?.isSome && p.consumed?.isSome

/-- The answer of the two parties together; a failure of the consumer comes before one of the
reader. -/
def result (plan : TablePlan) (p : Pipeline σ τ β) : Option (Outcome (Nat × β)) :=
  match p.readerEnd?, p.consumed? with
  | some ending, some consumed => some do
    let acc ← consumed
    let count ← ending.outcome.within s!"failed to select rows from {plan.source.name}"
    .ok (count, acc)
  | _, _ => none

end Pipeline

end RowSync
