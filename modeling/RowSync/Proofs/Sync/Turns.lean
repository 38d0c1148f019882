import Mathlib.Data.List.Infix
import RowSync.Proofs.Sync.Yields
import RowSync.Sync.Pipeline

/-!
What a turn of a party does to a pipeline, and what all turns leave true: every row that was read is
with the reader, in the channel, with the consumer or handled, and in its place.
-/

set_option autoImplicit false

namespace RowSync

namespace Run

variable {σ τ α β : Type} {step : β → α → Run σ τ β} {b b' : β} {l m : List α}
  {s s' : RunState σ τ} {failure : Failure}

/-- The elements that are handed to the step, up to the first on which it fails. -/
def offered (step : β → α → Run σ τ β) (b : β) : List α → RunState σ τ → List α
  | [], _ => []
  | a :: rest, s =>
    match step b a s with
    | (.ok b, s) => a :: offered step b rest s
    | (.error _, _) => [a]

theorem foldList_cons (step : β → α → Run σ τ β) (b : β) (a : α) (l : List α)
    (s : RunState σ τ) :
    foldList step b (a :: l) s =
      match step b a s with
      | (.ok b, s) => foldList step b l s
      | (.error failure, s) => (.error failure, s) := by
  rw [foldList, bind_apply]
  cases step b a s with
  | mk outcome s' =>
    cases outcome with
    | ok b' => rfl
    | error failure => rfl

theorem foldList_append_of_ok (done : foldList step b l s = (.ok b', s')) (m : List α) :
    foldList step b (l ++ m) s = foldList step b' m s' := by
  induction l generalizing b s with
  | nil =>
    cases done
    rfl
  | cons a l ih =>
    rw [foldList_cons] at done
    rw [List.cons_append, foldList_cons]
    cases one : step b a s with
    | mk outcome s₁ =>
      rw [one] at done
      cases outcome with
      | ok b₁ => exact ih done
      | error failure => cases done

theorem foldList_append_of_error (failed : foldList step b l s = (.error failure, s'))
    (m : List α) : foldList step b (l ++ m) s = (.error failure, s') := by
  induction l generalizing b s with
  | nil => cases failed
  | cons a l ih =>
    rw [foldList_cons] at failed
    rw [List.cons_append, foldList_cons]
    cases one : step b a s with
    | mk outcome s₁ =>
      rw [one] at failed
      cases outcome with
      | ok b₁ => exact ih failed
      | error failure => exact failed

theorem offered_append_of_ok (done : foldList step b l s = (.ok b', s')) (m : List α) :
    offered step b (l ++ m) s = l ++ offered step b' m s' := by
  induction l generalizing b s with
  | nil =>
    cases done
    rfl
  | cons a l ih =>
    rw [foldList_cons] at done
    rw [List.cons_append, offered]
    cases one : step b a s with
    | mk outcome s₁ =>
      rw [one] at done
      cases outcome with
      | ok b₁ => exact congrArg (a :: ·) (ih done)
      | error failure => cases done

theorem offered_append_of_error (failed : foldList step b l s = (.error failure, s'))
    (m : List α) : offered step b (l ++ m) s = offered step b l s := by
  induction l generalizing b s with
  | nil => cases failed
  | cons a l ih =>
    rw [foldList_cons] at failed
    rw [List.cons_append, offered, offered]
    cases one : step b a s with
    | mk outcome s₁ =>
      rw [one] at failed
      cases outcome with
      | ok b₁ => exact congrArg (a :: ·) (ih failed)
      | error failure => rfl

end Run

namespace Pipeline

variable {σ τ β : Type} {handle : β → Row → Run σ τ β} {p p' : Pipeline σ τ β}

/-- The turns that there are. -/
inductive Move (handle : β → Row → Run σ τ β) (p : Pipeline σ τ β) : Pipeline σ τ β → Prop
  | take {row : Row} {arriving : List (Outcome Row)} (reading : p.readerEnd? = none)
      (free : p.outbox? = none) (next : p.arriving = .ok row :: arriving) :
      Move handle p { p with
        arriving, batcher := (p.batcher.push row).1, outbox? := (p.batcher.push row).2,
        pushed := p.pushed ++ [row] }
  | flush {batch : Batch} (reading : p.readerEnd? = none) (free : p.outbox? = none)
      (exhausted : p.arriving = []) (left : p.batcher.rest? = some batch) :
      Move handle p
        { p with batcher := { p.batcher with pending := [] }, outbox? := some batch }
  | finish (reading : p.readerEnd? = none) (free : p.outbox? = none) (exhausted : p.arriving = [])
      (nothing : p.batcher.rest? = none) :
      Move handle p (p.endReader (.stopped (.ok p.batcher.total)))
  | fail {failure : Failure} {arriving : List (Outcome Row)} (reading : p.readerEnd? = none)
      (free : p.outbox? = none) (next : p.arriving = .error failure :: arriving) :
      Move handle p (p.endReader (.stopped (.error failure)))
  | send {batch : Batch} (reading : p.readerEnd? = none) (full : p.outbox? = some batch)
      (received : p.channel.receiverOpen = true) (room : p.channel.hasRoom = true) :
      Move handle p { p with
        outbox? := none, sent := p.sent ++ [batch],
        channel := { p.channel with queue := p.channel.queue ++ [batch] } }
  | cut {batch : Batch} (reading : p.readerEnd? = none) (full : p.outbox? = some batch)
      (alone : p.channel.receiverOpen = false) : Move handle p (p.endReader .cutOff)
  | receive {batch : Batch} {queue : List Batch} (running : p.consumed? = none)
      (idle : p.inbox = []) (waiting : p.channel.queue = batch :: queue) :
      Move handle p { p with inbox := batch, channel := { p.channel with queue } }
  | close (running : p.consumed? = none) (idle : p.inbox = []) (drained : p.channel.queue = [])
      (hungUp : p.channel.senderOpen = false) : Move handle p (p.endConsumer (.ok p.acc))
  | accept {row : Row} {inbox : Batch} {acc : β} {world : RunState σ τ}
      (running : p.consumed? = none) (next : p.inbox = row :: inbox)
      (done : handle p.acc row p.world = (.ok acc, world)) :
      Move handle p { p with inbox, handled := p.handled ++ [row], acc, world }
  | refuse {row : Row} {inbox : Batch} {failure : Failure} {world : RunState σ τ}
      (running : p.consumed? = none) (next : p.inbox = row :: inbox)
      (failed : handle p.acc row p.world = (.error failure, world)) :
      Move handle p
        ({ p with inbox, handled := p.handled ++ [row], world }.endConsumer (.error failure))

private theorem move_of_read (turn : p.read = some p') : Move handle p p' := by
  unfold read at turn
  split at turn
  · cases turn
  · rename_i batch reading full
    split at turn
    · cases turn
    · rename_i free
      rw [Channel.send] at turn
      by_cases received : p.channel.receiverOpen = true
      · have room : p.channel.hasRoom = true := by simpa [received] using free
        rw [if_pos received] at turn
        cases turn
        exact .send reading full received room
      · rw [if_neg received] at turn
        cases turn
        exact .cut reading full (Bool.eq_false_iff.mpr received)
  · rename_i reading free
    split at turn
    · rename_i next
      cases turn
      exact .take reading free next
    · rename_i next
      cases turn
      exact .fail reading free next
    · rename_i exhausted
      split at turn
      · rename_i left
        cases turn
        exact .flush reading free exhausted left
      · rename_i nothing
        cases turn
        exact .finish reading free exhausted nothing

private theorem move_of_consume (turn : p.consume handle = some p') : Move handle p p' := by
  unfold consume at turn
  split at turn
  · cases turn
  · rename_i running next
    dsimp only at turn
    split at turn
    · rename_i done
      cases turn
      exact .accept running next done
    · rename_i failed
      cases turn
      exact .refuse running next failed
  · rename_i running idle
    rw [Channel.receive] at turn
    cases waiting : p.channel.queue with
    | cons batch queue =>
      rw [waiting] at turn
      cases turn
      exact .receive running idle waiting
    | nil =>
      rw [waiting] at turn
      cases hungUp : p.channel.senderOpen with
      | true =>
        rw [hungUp] at turn
        cases turn
      | false =>
        rw [hungUp] at turn
        cases turn
        exact .close running idle waiting hungUp

/-- Every turn is one of these. -/
theorem move_of_step {party : Party} (turn : step handle party p = some p') :
    Move handle p p' := by
  cases party with
  | reader => exact move_of_read turn
  | consumer => exact move_of_consume turn

/-- The ends of the channel are there as long as the parties, and no more is queued than fits. -/
structure Linked (p : Pipeline σ τ β) : Prop where
  sender : p.channel.senderOpen = p.readerEnd?.isNone
  receiver : p.channel.receiverOpen = p.consumed?.isNone
  bounded : p.channel.queue.length ≤ Channel.capacity

theorem Linked.move (linked : p.Linked) (move : Move handle p p') : p'.Linked := by
  cases move with
  | take | flush | accept => exact ⟨linked.sender, linked.receiver, linked.bounded⟩
  | finish | fail | cut => exact ⟨rfl, linked.receiver, linked.bounded⟩
  | send reading full received room =>
    refine ⟨linked.sender, linked.receiver, ?_⟩
    rw [Channel.hasRoom, decide_eq_true_iff] at room
    rw [List.length_append]
    exact room
  | receive running idle waiting =>
    refine ⟨linked.sender, linked.receiver, ?_⟩
    have bounded := linked.bounded
    rw [waiting, List.length_cons] at bounded
    exact Nat.le_of_succ_le bounded
  | close | refuse => exact ⟨linked.sender, rfl, Nat.zero_le _⟩

/-- What the reader would still send if everything were received, and how it would end. -/
def ahead (p : Pipeline σ τ β) : Stream :=
  match p.readerEnd? with
  | some ending => ⟨[], ending.outcome⟩
  | none =>
    ⟨p.outbox?.toList ++ (Stream.run p.batcher p.arriving).batches,
      (Stream.run p.batcher p.arriving).outcome⟩

/-- The reader has come so far with its rows. Unless it was cut off, it has sent and will send what
a reader sends of which everything is received. -/
structure Reads (size : Nat) (arriving : List (Outcome Row)) (p : Pipeline σ τ β) : Prop where
  taken : p.pushed.map .ok ++ p.arriving = arriving
  kept : p.readerEnd? = none →
    p.sent.flatten ++ (p.outbox?.toList.flatten ++ p.batcher.pending) = p.pushed
  sent_pushed : p.sent.flatten <+: p.pushed
  exhausted : ∀ outcome, p.readerEnd? = some (.stopped outcome) →
    ∀ row rest, p.arriving ≠ .ok row :: rest
  delivered : p.sent <+: (Stream.ofRows size arriving).batches
  ahead : p.readerEnd? ≠ some .cutOff →
    p.sent ++ p.ahead.batches = (Stream.ofRows size arriving).batches ∧
      p.ahead.outcome = (Stream.ofRows size arriving).outcome

section Reading

variable {size : Nat} {arriving : List (Outcome Row)}

private theorem Reads.of_ahead (reads : p.Reads size arriving) (reading : p.readerEnd? = none)
    (taken : p'.pushed.map .ok ++ p'.arriving = arriving)
    (kept : p'.readerEnd? = none →
      p'.sent.flatten ++ (p'.outbox?.toList.flatten ++ p'.batcher.pending) = p'.pushed)
    (sent_pushed : p'.sent.flatten <+: p'.pushed)
    (exhausted : ∀ outcome, p'.readerEnd? = some (.stopped outcome) →
      ∀ row rest, p'.arriving ≠ .ok row :: rest)
    (batches : p'.sent ++ p'.ahead.batches = p.sent ++ p.ahead.batches)
    (outcome : p'.ahead.outcome = p.ahead.outcome) : p'.Reads size arriving := by
  obtain ⟨whole, ended⟩ := reads.ahead (by simp [reading])
  exact ⟨taken, kept, sent_pushed, exhausted, whole ▸ batches ▸ List.prefix_append _ _,
    fun _ => ⟨batches.trans whole, outcome.trans ended⟩⟩

private theorem Reads.stopped (reads : p.Reads size arriving) (reading : p.readerEnd? = none)
    (exhausted : ∀ row rest, p.arriving ≠ .ok row :: rest) {outcome : Outcome Nat}
    (last : p.ahead = ⟨[], outcome⟩) : (p.endReader (.stopped outcome)).Reads size arriving :=
  reads.of_ahead reading reads.taken nofun reads.sent_pushed (fun _ _ => exhausted)
    (by rw [last]; rfl) (by rw [last]; rfl)

private theorem pending_push (b : RowBatcher) (row : Row) :
    (b.push row).2.toList.flatten ++ (b.push row).1.pending = b.pending ++ [row] := by
  unfold RowBatcher.push
  dsimp only
  split <;> simp

theorem Reads.move (reads : p.Reads size arriving) (move : Move handle p p') :
    p'.Reads size arriving := by
  have still {q : Pipeline σ τ β} (reading : q.readerEnd? = none) (outcome : Outcome Nat)
      (ended : q.readerEnd? = some (.stopped outcome)) (row : Row) (rest : List (Outcome Row)) :
      q.arriving ≠ .ok row :: rest := by
    rw [reading] at ended
    cases ended
  cases move with
  | @take row rest reading free next =>
    refine reads.of_ahead reading ?_ (fun _ => ?_) ?_ (still reading) ?_ ?_
    · have taken := reads.taken
      rw [next] at taken
      simpa using taken
    · have kept := reads.kept reading
      rw [free] at kept
      change _ ++ ((p.batcher.push row).2.toList.flatten ++ (p.batcher.push row).1.pending) = _
      rw [pending_push, ← kept]
      simp
    · exact reads.sent_pushed.trans (List.prefix_append _ _)
    · simp [Pipeline.ahead, reading, free, next, Stream.run]
    · simp [Pipeline.ahead, reading, next, Stream.run]
  | @flush batch reading free exhausted left =>
    have pending : p.batcher.pending = batch := by
      unfold RowBatcher.rest? at left
      split at left
      · cases left
      · exact Option.some.inj left
    refine reads.of_ahead reading reads.taken (fun _ => ?_) reads.sent_pushed (still reading) ?_ ?_
    · have kept := reads.kept reading
      rw [free, pending] at kept
      simpa using kept
    · rw [Pipeline.ahead, Pipeline.ahead, reading, free, exhausted, Stream.run, Stream.run, left]
      rfl
    · simp [Pipeline.ahead, reading, exhausted, Stream.run]
  | finish reading free exhausted nothing =>
    refine reads.stopped reading (by simp [exhausted]) ?_
    rw [Pipeline.ahead, reading, free, exhausted, Stream.run, nothing]
    rfl
  | fail reading free next =>
    refine reads.stopped reading (by simp [next]) ?_
    rw [Pipeline.ahead, reading, free, next, Stream.run]
    rfl
  | @send batch reading full received room =>
    have kept := reads.kept reading
    rw [full] at kept
    have same : (p.sent ++ [batch]).flatten ++ p.batcher.pending = p.pushed := by
      simpa using kept
    refine reads.of_ahead reading reads.taken (fun _ => ?_) ?_ (still reading) ?_ ?_
    · simpa using same
    · exact same ▸ List.prefix_append _ _
    · simp [Pipeline.ahead, reading, full]
    · simp [Pipeline.ahead, reading]
  | cut =>
    refine ⟨reads.taken, fun reading => ?_, reads.sent_pushed, fun outcome stopped => ?_,
      reads.delivered, fun uncut => absurd rfl uncut⟩
    · cases reading
    · cases stopped
  -- The consumer's turns touch nothing of the reader's.
  | receive | close | accept | refuse =>
    exact ⟨reads.taken, reads.kept, reads.sent_pushed, reads.exhausted, reads.delivered,
      reads.ahead⟩

end Reading

def progress (p : Pipeline σ τ β) : Outcome β := p.consumed?.getD (.ok p.acc)

/-- The consumer has handled its rows one after the other. While it works, all that was sent and is
not handled is before it, in order. -/
structure Consumes (handle : β → Row → Run σ τ β) (acc : β) (world : RunState σ τ)
    (p : Pipeline σ τ β) : Prop where
  folded : Run.foldList handle acc p.handled world = (p.progress, p.world)
  offered : Run.offered handle acc p.handled world = p.handled
  carried : p.consumed? = none →
    p.handled ++ (p.inbox ++ p.channel.queue.flatten) = p.sent.flatten
  handled_sent : p.handled <+: p.sent.flatten

section Consuming

variable {acc : β} {world : RunState σ τ}

private theorem Consumes.handle_next (consumes : p.Consumes handle acc world)
    (running : p.consumed? = none) (row : Row) :
    Run.foldList handle acc (p.handled ++ [row]) world =
        Run.foldList handle p.acc [row] p.world ∧
      Run.offered handle acc (p.handled ++ [row]) world =
        p.handled ++ Run.offered handle p.acc [row] p.world := by
  have folded := consumes.folded
  rw [progress, running, Option.getD_none] at folded
  exact ⟨Run.foldList_append_of_ok folded [row], Run.offered_append_of_ok folded [row]⟩

private theorem offered_singleton (b : β) (row : Row) (s : RunState σ τ) :
    Run.offered handle b [row] s = [row] := by
  rw [Run.offered]
  split
  · rfl
  · rfl

theorem Consumes.move (consumes : p.Consumes handle acc world) (move : Move handle p p') :
    p'.Consumes handle acc world := by
  cases move with
  | take | flush | finish | fail | cut =>
    exact ⟨consumes.folded, consumes.offered, consumes.carried, consumes.handled_sent⟩
  | @send batch =>
    refine ⟨consumes.folded, consumes.offered, fun running => ?_,
      consumes.handled_sent.trans (List.prefix_append _ _).flatten⟩
    change p.handled ++ (p.inbox ++ (p.channel.queue ++ [batch]).flatten) = _
    rw [List.flatten_append, List.flatten_append, ← consumes.carried running]
    simp
  | receive running idle waiting =>
    refine ⟨consumes.folded, consumes.offered, fun _ => ?_, consumes.handled_sent⟩
    rw [← consumes.carried running, idle, waiting]
    simp
  | close running =>
    refine ⟨?_, consumes.offered, nofun, consumes.handled_sent⟩
    have folded := consumes.folded
    rwa [progress, running, Option.getD_none] at folded
  | @accept row inbox acc' world' running next done =>
    obtain ⟨folded, offered⟩ := consumes.handle_next running row
    rw [Run.foldList_cons, done] at folded
    rw [offered_singleton] at offered
    have carried := consumes.carried running
    rw [next, List.cons_append, List.append_cons] at carried
    refine ⟨folded.trans ?_, offered, fun _ => carried, carried ▸ List.prefix_append _ _⟩
    rw [progress, running]
    rfl
  | @refuse row inbox failure world' running next failed =>
    obtain ⟨folded, offered⟩ := consumes.handle_next running row
    rw [Run.foldList_cons, failed] at folded
    rw [offered_singleton] at offered
    have carried := consumes.carried running
    rw [next, List.cons_append, List.append_cons] at carried
    exact ⟨folded, offered, nofun, carried ▸ List.prefix_append _ _⟩

end Consuming

/-- Only a failure of the consumer cuts the reader off, and a consumer that ends well has handled
all that was sent by a reader that stopped by itself. -/
structure Ends (p : Pipeline σ τ β) : Prop where
  cut : p.readerEnd? = some .cutOff → ∃ failure, p.consumed? = some (.error failure)
  complete : ∀ b, p.consumed? = some (.ok b) →
    p.handled = p.sent.flatten ∧ ∃ outcome, p.readerEnd? = some (.stopped outcome)

theorem Ends.move {acc : β} {world : RunState σ τ} (ends : p.Ends) (linked : p.Linked)
    (consumes : p.Consumes handle acc world) (move : Move handle p p') : p'.Ends := by
  -- While the reader works, the consumer has not ended well.
  have working (reading : p.readerEnd? = none) (b : β) : p.consumed? ≠ some (.ok b) := by
    intro well
    obtain ⟨-, outcome, ended⟩ := ends.complete b well
    rw [reading] at ended
    cases ended
  cases move with
  | take reading | flush reading | send reading =>
    exact ⟨ends.cut, fun b well => absurd well (working reading b)⟩
  | finish reading | fail reading =>
    exact ⟨nofun, fun b well => absurd well (working reading b)⟩
  | cut reading full alone =>
    refine ⟨fun _ => ?_, fun b well => absurd well (working reading b)⟩
    have gone := linked.receiver
    rw [alone] at gone
    cases consumed : p.consumed? with
    | none => simp [consumed] at gone
    | some outcome =>
      cases outcome with
      | ok b => exact absurd consumed (working reading b)
      | error failure => exact ⟨failure, consumed⟩
  | receive running => exact ⟨ends.cut, fun b well => nomatch running.symm.trans well⟩
  | close running idle drained hungUp =>
    have carried := consumes.carried running
    rw [idle, drained] at carried
    have all : p.handled = p.sent.flatten := by simpa using carried
    have gone := linked.sender
    rw [hungUp] at gone
    cases ended : p.readerEnd? with
    | none => simp [ended] at gone
    | some ending =>
      cases ending with
      | stopped outcome =>
        refine ⟨fun cut => ?_, fun b _ => ⟨all, outcome, ended⟩⟩
        exact nomatch ended.symm.trans cut
      | cutOff =>
        obtain ⟨failure, failed⟩ := ends.cut ended
        exact nomatch running.symm.trans failed
  | accept running =>
    exact ⟨fun cut => absurd (ends.cut cut) (by simp [running]),
      fun b well => nomatch running.symm.trans well⟩
  | refuse => exact ⟨fun _ => ⟨_, rfl⟩, nofun⟩

end Pipeline

end RowSync
