import RowSync.Proofs.Sync.Turns

/-!
A reader and a consumer side by side never block each other, and come to what reading everything
first and handling it afterwards comes to, in whatever order they have their turns.
-/

set_option autoImplicit false

namespace RowSync

theorem RowBatcher.push_cases {b : RowBatcher} (room : b.pending.length < b.size) (row : Row) :
    (b.push row = ({ b with pending := [], total := b.total + 1 }, some (b.pending ++ [row])) ∧
        (b.pending ++ [row]).length = b.size) ∨
      (b.push row = ({ b with pending := b.pending ++ [row], total := b.total + 1 }, none) ∧
        (b.pending ++ [row]).length < b.size) := by
  by_cases complete : b.size ≤ (b.pending ++ [row]).length
  · refine .inl ⟨if_pos complete, ?_⟩
    rw [List.length_append] at complete ⊢
    exact Nat.le_antisymm room complete
  · exact .inr ⟨if_neg complete, Nat.not_le.mp complete⟩

namespace Stream

/-- A reader that fails has sent as many full batches as its rows make. -/
theorem run_of_failure {b : RowBatcher} (room : b.pending.length < b.size) (rows : List Row)
    (failure : Failure) (rest : List (Outcome Row)) :
    (run b (rows.map .ok ++ .error failure :: rest)).batches.flatten =
        (b.pending ++ rows).take ((b.pending ++ rows).length / b.size * b.size) ∧
      (run b (rows.map .ok ++ .error failure :: rest)).outcome = .error failure := by
  induction rows generalizing b with
  | nil =>
    have none : b.pending.length / b.size = 0 := Nat.div_eq_of_lt room
    simp [run, none]
  | cons row rows ih =>
    have regroup : b.pending ++ row :: rows = b.pending ++ [row] ++ rows := by simp
    rw [List.map_cons, List.cons_append, run]
    obtain ⟨pushed, full⟩ | ⟨pushed, space⟩ := RowBatcher.push_cases room row
    · -- A complete batch takes one size off the length and off what is delivered.
      have positive : 0 < b.size := Nat.lt_of_le_of_lt (Nat.zero_le _) room
      obtain ⟨sent, failed⟩ := ih (b := { b with pending := [], total := b.total + 1 }) positive
      have counted : (b.pending ++ row :: rows).length / b.size * b.size =
          (b.pending ++ [row]).length + rows.length / b.size * b.size := by
        have split : (b.pending ++ row :: rows).length = rows.length + b.size := by
          rw [regroup, List.length_append, full, Nat.add_comm]
        rw [split, Nat.add_div_right _ positive, Nat.succ_mul, full, Nat.add_comm]
      rw [pushed]
      refine ⟨?_, failed⟩
      rw [counted, regroup, List.take_length_add_append]
      simpa using sent
    · obtain ⟨sent, failed⟩ := ih
        (b := { b with pending := b.pending ++ [row], total := b.total + 1 }) space
      rw [pushed]
      refine ⟨?_, failed⟩
      rw [regroup]
      simpa using sent

theorem length_of_failure {b : RowBatcher} (room : b.pending.length < b.size) (rows : List Row)
    (failure : Failure) (rest : List (Outcome Row)) :
    ∀ batch ∈ (run b (rows.map .ok ++ .error failure :: rest)).batches, batch.length = b.size := by
  induction rows generalizing b with
  | nil => simp [run]
  | cons row rows ih =>
    rw [List.map_cons, List.cons_append, run]
    obtain ⟨pushed, full⟩ | ⟨pushed, space⟩ := RowBatcher.push_cases room row
    · have positive : 0 < b.size := Nat.lt_of_le_of_lt (Nat.zero_le _) room
      rw [pushed]
      intro batch sent
      obtain rfl | later := List.mem_cons.mp sent
      · exact full
      · exact ih (b := { b with pending := [], total := b.total + 1 }) positive batch later
    · rw [pushed]
      exact ih (b := { b with pending := b.pending ++ [row], total := b.total + 1 }) space

end Stream

namespace Pipeline

variable {σ τ β : Type} {handle : β → Row → Run σ τ β} {p p' : Pipeline σ τ β} {size : Nat}
  {arriving : List (Outcome Row)} {acc : β} {world : RunState σ τ}

/-- What all turns leave true. -/
structure Sound (handle : β → Row → Run σ τ β) (size : Nat) (arriving : List (Outcome Row))
    (acc : β) (world : RunState σ τ) (p : Pipeline σ τ β) : Prop where
  linked : p.Linked
  reads : p.Reads size arriving
  consumes : p.Consumes handle acc world
  ends : p.Ends

theorem sound_start (handle : β → Row → Run σ τ β) (size : Nat) (arriving : List (Outcome Row))
    (acc : β) (world : RunState σ τ) :
    (start size arriving acc world).Sound handle size arriving acc world where
  linked := ⟨rfl, rfl, Nat.zero_le _⟩
  reads := ⟨rfl, fun _ => rfl, List.nil_prefix, nofun, List.nil_prefix, fun _ => ⟨rfl, rfl⟩⟩
  consumes := ⟨rfl, rfl, fun _ => rfl, List.nil_prefix⟩
  ends := ⟨nofun, nofun⟩

theorem Sound.move (sound : p.Sound handle size arriving acc world) (move : Move handle p p') :
    p'.Sound handle size arriving acc world :=
  ⟨sound.linked.move move, sound.reads.move move, sound.consumes.move move,
    sound.ends.move sound.linked sound.consumes move⟩

theorem Sound.run (sound : p.Sound handle size arriving acc world) (schedule : List Party) :
    (p.run handle schedule).Sound handle size arriving acc world := by
  induction schedule generalizing p with
  | nil => exact sound
  | cons party schedule ih =>
    refine ih (p := (step handle party p).getD p) ?_
    cases turn : step handle party p with
    | none => exact sound
    | some p' => exact sound.move (move_of_step turn)

section Progress

private theorem read_isSome (reading : p.readerEnd? = none)
    (free : p.outbox? = none ∨ p.channel.receiverOpen = false ∨ p.channel.hasRoom = true) :
    p.read.isSome = true := by
  unfold read
  rw [reading]
  cases outbox : p.outbox? with
  | none =>
    dsimp only
    split
    · rfl
    · rfl
    · split <;> rfl
  | some batch =>
    have goes : (p.channel.receiverOpen && !p.channel.hasRoom) = false := by
      rcases free with free | alone | room
      · exact nomatch outbox.symm.trans free
      · rw [alone, Bool.false_and]
      · rw [room, Bool.not_true, Bool.and_false]
    dsimp only
    rw [goes, Channel.send]
    split
    · rename_i blocked
      cases blocked
    · split <;> rfl

private theorem consume_isSome (running : p.consumed? = none)
    (free : p.channel.queue ≠ [] ∨ p.channel.senderOpen = false) :
    (p.consume handle).isSome = true := by
  unfold consume
  rw [running]
  cases p.inbox with
  | cons row inbox =>
    dsimp only
    split <;> rfl
  | nil =>
    dsimp only
    rw [Channel.receive]
    cases queue : p.channel.queue with
    | cons batch queue => rfl
    | nil =>
      rcases free with waiting | hungUp
      · exact absurd queue waiting
      · rw [hungUp]
        rfl

/-- As long as a party has not ended, there is one that has a turn. -/
theorem Linked.exists_step (linked : p.Linked) (handle : β → Row → Run σ τ β)
    (working : p.isDone = false) : ∃ party p', step handle party p = some p' := by
  -- The reader waits only for a consumer that is there, and then the channel is not empty.
  by_cases ready : p.readerEnd? = none ∧
      (p.outbox? = none ∨ p.channel.receiverOpen = false ∨ p.channel.hasRoom = true)
  · obtain ⟨p', turn⟩ := Option.isSome_iff_exists.mp (read_isSome ready.1 ready.2)
    exact ⟨.reader, p', turn⟩
  have running : p.consumed? = none := by
    cases ended : p.consumed? with
    | none => rfl
    | some outcome =>
      have alone : p.channel.receiverOpen = false := by
        rw [linked.receiver, ended, Option.isNone_some]
      have reading : p.readerEnd? = none := by simpa [isDone, ended] using working
      exact absurd ⟨reading, .inr (.inl alone)⟩ ready
  have free : p.channel.queue ≠ [] ∨ p.channel.senderOpen = false := by
    by_cases reading : p.readerEnd? = none
    · left
      intro drained
      exact ready ⟨reading, .inr (.inr (by simp [Channel.hasRoom, Channel.capacity, drained]))⟩
    · right
      rw [linked.sender, Option.isNone_eq_false_iff]
      exact Option.isSome_iff_ne_none.mpr reading
  obtain ⟨p', turn⟩ := Option.isSome_iff_exists.mp (consume_isSome running free)
  exact ⟨.consumer, p', turn⟩

/-- The work that is left: a row costs less the further it has come, and so does a batch. -/
def work (p : Pipeline σ τ β) : Nat :=
  9 * p.arriving.length + 8 * p.batcher.pending.length +
    (p.outbox?.elim 0 fun batch => 4 * batch.length + 2) +
    2 * p.channel.queue.flatten.length + p.channel.queue.length + p.inbox.length +
    p.readerEnd?.isNone.toNat + p.consumed?.isNone.toNat

private theorem work_push (b : RowBatcher) (row : Row) :
    8 * (b.push row).1.pending.length +
      ((b.push row).2.elim 0 fun batch => 4 * batch.length + 2) < 8 * b.pending.length + 9 := by
  unfold RowBatcher.push
  dsimp only
  split
  · simp only [List.length_nil, Option.elim_some, List.length_append, List.length_singleton]
    omega
  · simp only [Option.elim_none, List.length_append, List.length_singleton]
    omega

/-- Every turn leaves less work. -/
theorem work_lt_of_move (move : Move handle p p') : p'.work < p.work := by
  cases move with
  | @take row arriving reading free next =>
    have pushed := work_push p.batcher row
    simp only [work, free, next, List.length_cons, Option.elim_none]
    omega
  | @flush batch reading free exhausted left =>
    have pending : p.batcher.pending = batch ∧ batch ≠ [] := by
      unfold RowBatcher.rest? at left
      split at left
      · cases left
      · rename_i some
        cases left
        exact ⟨rfl, by simpa using some⟩
    have positive : 0 < batch.length := List.length_pos_iff.mpr pending.2
    simp only [work, free, pending.1, Option.elim_none, Option.elim_some, List.length_nil]
    omega
  | finish reading free | fail reading free =>
    simp only [work, endReader, Channel.hangUp, reading, free, Option.isNone_none,
      Option.isNone_some, Bool.toNat_true, Bool.toNat_false, Option.elim_none]
    omega
  | @send batch reading full =>
    simp only [work, full, Option.elim_none, Option.elim_some, List.flatten_append,
      List.flatten_cons, List.flatten_nil, List.length_append, List.length_nil, List.length_cons]
    omega
  | @cut batch reading full =>
    simp only [work, endReader, Channel.hangUp, reading, full, Option.isNone_none,
      Option.isNone_some, Bool.toNat_true, Bool.toNat_false, Option.elim_none,
      Option.elim_some]
    omega
  | receive running idle waiting =>
    simp only [work, idle, waiting, List.flatten_cons, List.length_append, List.length_cons,
      List.length_nil]
    omega
  | close running idle drained =>
    simp only [work, endConsumer, Channel.leave, running, idle, drained, Option.isNone_none,
      Option.isNone_some, Bool.toNat_true, Bool.toNat_false]
    omega
  | accept running next =>
    simp only [work, next, List.length_cons]
    omega
  | refuse running next =>
    simp only [work, endConsumer, Channel.leave, running, next, Option.isNone_none,
      Option.isNone_some, Bool.toNat_true, Bool.toNat_false, List.flatten_nil, List.length_nil,
      List.length_cons]
    omega

theorem Sound.exists_done {p : Pipeline σ τ β} (sound : p.Sound handle size arriving acc world) :
    ∃ schedule, (p.run handle schedule).isDone = true := by
  cases working : p.isDone with
  | true => exact ⟨[], working⟩
  | false =>
    obtain ⟨party, p', turn⟩ := sound.linked.exists_step handle working
    have move := move_of_step turn
    obtain ⟨schedule, done⟩ := (sound.move move).exists_done
    refine ⟨party :: schedule, ?_⟩
    rw [Pipeline.run, List.foldl_cons, turn]
    exact done
termination_by p.work
decreasing_by exact work_lt_of_move move

end Progress

/-- Rows that arrive, and the failure that ends them. -/
def arrivals (rows : List Row) (failure? : Option Failure) : List (Outcome Row) :=
  rows.map .ok ++ failure?.toList.map .error

section Arrivals

variable {rows pushed : List Row} {failure? : Option Failure} {rest : List (Outcome Row)}

private theorem prefix_of_arrivals (taken : pushed.map .ok ++ rest = arrivals rows failure?) :
    pushed <+: rows := by
  induction pushed generalizing rows with
  | nil => exact List.nil_prefix
  | cons row pushed ih =>
    cases rows with
    | nil =>
      cases failure? with
      | none => cases taken
      | some failure => cases taken
    | cons row' rows =>
      obtain ⟨same, others⟩ := List.cons.inj taken
      obtain rfl := Except.ok.inj same
      exact (List.prefix_cons_inj row).mpr (ih others)

private theorem eq_of_arrivals (taken : pushed.map .ok ++ rest = arrivals rows failure?)
    (exhausted : ∀ row more, rest ≠ .ok row :: more) : pushed = rows := by
  obtain ⟨more, rfl⟩ := prefix_of_arrivals taken
  cases more with
  | nil => exact (List.append_nil pushed).symm
  | cons row more =>
    rw [arrivals, List.map_append, List.append_assoc] at taken
    exact absurd (List.append_cancel_left taken) (exhausted row _)

private theorem stream_of_failure (size : Nat) (rows : List Row) (failure : Failure) :
    (Stream.ofRows size (arrivals rows (some failure))).batches.flatten =
        rows.take (rows.length / max size 1 * max size 1) ∧
      (Stream.ofRows size (arrivals rows (some failure))).outcome = .error failure :=
  Stream.run_of_failure (b := .ofSize size) (Nat.le_max_right size 1) rows failure []

private theorem stream_of_none (size : Nat) (rows : List Row) :
    (Stream.ofRows size (arrivals rows none)).batches.flatten = rows ∧
      (Stream.ofRows size (arrivals rows none)).outcome = .ok rows.length := by
  have whole : arrivals rows none = rows.map .ok := List.append_nil _
  rw [whole]
  exact ⟨Stream.flatten_ofRows size rows, Stream.outcome_ofRows size rows⟩

end Arrivals

/-- A reader of rows that may end with a failure, and a consumer of them, after some turns. -/
structure Safe (plan : TablePlan) (handle : β → Row → Run σ τ β) (size : Nat) (rows : List Row)
    (failure? : Option Failure) (acc : β) (world : RunState σ τ) (p : Pipeline σ τ β) : Prop where
  /-- Rows are handed to the consumer in the order in which they were read. -/
  handled_pushed : p.handled <+: p.pushed
  pushed_rows : p.pushed <+: rows
  /-- While the reader works, every row it has read is sent or about to be. -/
  kept : p.readerEnd? = none →
    p.sent.flatten ++ (p.outbox?.toList.flatten ++ p.batcher.pending) = p.pushed
  /-- While the consumer works, every row that was sent is handled or on its way to be. -/
  carried : p.consumed? = none →
    p.handled ++ (p.inbox ++ p.channel.queue.flatten) = p.sent.flatten
  bounded : p.channel.queue.length ≤ Channel.capacity
  /-- As long as a party works, one of them has a turn. -/
  moves : p.isDone = true ∨ ∃ party p', step handle party p = some p'
  ends : ∃ schedule, (p.run handle schedule).isDone = true
  /-- At the end there is what the rows handled one after the other lead to, whatever the turns. -/
  outcome : p.isDone = true →
    let stream := Stream.ofRows size (arrivals rows failure?)
    p.result plan = some (RowFlow.consume plan handle acc stream world).1 ∧
      p.world = (RowFlow.consume plan handle acc stream world).2 ∧
      p.handled = Run.offered handle acc stream.batches.flatten world
  /-- A reader that has failed has delivered its full batches and no more. -/
  failed : ∀ failure, p.readerEnd? = some (.stopped (.error failure)) →
    failure? = some failure ∧ p.pushed = rows ∧
      p.sent.flatten = rows.take (rows.length / max size 1 * max size 1)
  finished : ∀ count, p.readerEnd? = some (.stopped (.ok count)) →
    failure? = none ∧ p.pushed = rows ∧ p.sent.flatten = rows ∧ count = rows.length
  /-- A failure of the consumer is the answer, whatever the reader did. -/
  refused : ∀ failure, p.consumed? = some (.error failure) → p.isDone = true →
    p.result plan = some (.error failure)
  /-- When the consumer succeeds, the reader was not cut off and has the answer. -/
  accepted : ∀ b, p.consumed? = some (.ok b) → ∃ outcome,
    p.readerEnd? = some (.stopped outcome) ∧
      p.result plan = some ((outcome.within
        s!"failed to select rows from {plan.source.name}").map fun count => (count, b))
  cut : p.readerEnd? = some .cutOff → ∃ failure, p.consumed? = some (.error failure)

section Outcomes

variable {rows : List Row} {failure? : Option Failure}

private theorem Reads.of_stopped (reads : p.Reads size arriving) {outcome : Outcome Nat}
    (stopped : p.readerEnd? = some (.stopped outcome)) :
    p.sent = (Stream.ofRows size arriving).batches ∧
      (Stream.ofRows size arriving).outcome = outcome := by
  obtain ⟨batches, same⟩ := reads.ahead (by simp [stopped])
  have nothing : p.ahead = ⟨[], outcome⟩ := by
    rw [Pipeline.ahead, stopped]
    rfl
  rw [nothing, List.append_nil] at batches
  rw [nothing] at same
  exact ⟨batches, same.symm⟩

private theorem Sound.delivered_of_ok (sound : p.Sound handle size arriving acc world) {b : β}
    (well : p.consumed? = some (.ok b)) :
    ∃ outcome, p.readerEnd? = some (.stopped outcome) ∧
      (Stream.ofRows size arriving).outcome = outcome ∧
      p.handled = (Stream.ofRows size arriving).batches.flatten := by
  obtain ⟨all, outcome, stopped⟩ := sound.ends.complete b well
  obtain ⟨batches, same⟩ := sound.reads.of_stopped stopped
  exact ⟨outcome, stopped, same, all.trans (congrArg List.flatten batches)⟩

/-- The end of a pipeline is that of handling one after the other what the reader delivers. -/
private theorem Sound.outcome (sound : p.Sound handle size arriving acc world) (plan : TablePlan)
    (done : p.isDone = true) :
    p.result plan = some (RowFlow.consume plan handle acc (Stream.ofRows size arriving) world).1 ∧
      p.world = (RowFlow.consume plan handle acc (Stream.ofRows size arriving) world).2 ∧
      p.handled =
        Run.offered handle acc (Stream.ofRows size arriving).batches.flatten world := by
  have folded := sound.consumes.folded
  rw [isDone, Bool.and_eq_true, Option.isSome_iff_exists, Option.isSome_iff_exists] at done
  obtain ⟨⟨ending, ended⟩, consumed, known⟩ := done
  rw [progress, known, Option.getD_some] at folded
  rw [RowFlow.consume, Run.bind_apply, result, ended, known]
  cases consumed with
  | ok b =>
    obtain ⟨outcome, stopped, same, all⟩ := sound.delivered_of_ok known
    obtain rfl := Option.some.inj (ended.symm.trans stopped)
    have offered := sound.consumes.offered
    rw [all] at folded offered
    rw [folded, all, offered, ← same]
    cases (Stream.ofRows size arriving).outcome with
    | ok count => exact ⟨rfl, rfl, rfl⟩
    | error failure => exact ⟨rfl, rfl, rfl⟩
  | error failure =>
    -- The rows handled are the first of those delivered, and the fold over them fails already.
    obtain ⟨more, delivered⟩ :=
      sound.consumes.handled_sent.trans sound.reads.delivered.flatten
    rw [← delivered, Run.foldList_append_of_error folded, Run.offered_append_of_error folded]
    exact ⟨rfl, rfl, sound.consumes.offered.symm⟩

private theorem Sound.failed
    (sound : p.Sound handle size (arrivals rows failure?) acc world) {failure : Failure}
    (stopped : p.readerEnd? = some (.stopped (.error failure))) :
    failure? = some failure ∧ p.pushed = rows ∧
      p.sent.flatten = rows.take (rows.length / max size 1 * max size 1) := by
  obtain ⟨batches, same⟩ := sound.reads.of_stopped stopped
  have read := eq_of_arrivals sound.reads.taken (sound.reads.exhausted _ stopped)
  rw [batches]
  cases failure? with
  | none => exact nomatch same.symm.trans (stream_of_none size rows).2
  | some failure' =>
    obtain ⟨sent, ended⟩ := stream_of_failure size rows failure'
    cases same.symm.trans ended
    exact ⟨rfl, read, sent⟩

private theorem Sound.finished
    (sound : p.Sound handle size (arrivals rows failure?) acc world) {count : Nat}
    (stopped : p.readerEnd? = some (.stopped (.ok count))) :
    failure? = none ∧ p.pushed = rows ∧ p.sent.flatten = rows ∧ count = rows.length := by
  obtain ⟨batches, same⟩ := sound.reads.of_stopped stopped
  have read := eq_of_arrivals sound.reads.taken (sound.reads.exhausted _ stopped)
  rw [batches]
  cases failure? with
  | none =>
    obtain ⟨sent, ended⟩ := stream_of_none size rows
    cases same.symm.trans ended
    exact ⟨rfl, read, sent, rfl⟩
  | some failure => exact nomatch same.symm.trans (stream_of_failure size rows failure).2

end Outcomes

/-- Whatever turns the reader and the consumer have, rows are handled in order and none is lost,
they do not block each other, and they end as reading everything before handling it would. -/
theorem run_safe (plan : TablePlan) (handle : β → Row → Run σ τ β) (size : Nat) (rows : List Row)
    (failure? : Option Failure) (acc : β) (world : RunState σ τ) (schedule : List Party) :
    Safe plan handle size rows failure? acc world
      ((start size (arrivals rows failure?) acc world).run handle schedule) := by
  have sound := (sound_start handle size (arrivals rows failure?) acc world).run schedule
  generalize (start size (arrivals rows failure?) acc world).run handle schedule = p at sound
  exact {
    handled_pushed := sound.consumes.handled_sent.trans sound.reads.sent_pushed
    pushed_rows := prefix_of_arrivals sound.reads.taken
    kept := sound.reads.kept
    carried := sound.consumes.carried
    bounded := sound.linked.bounded
    moves := by
      cases working : p.isDone with
      | true => exact .inl rfl
      | false => exact .inr (sound.linked.exists_step handle working)
    ends := sound.exists_done
    outcome := sound.outcome plan
    failed := fun failure => sound.failed
    finished := fun count => sound.finished
    refused := by
      intro failure known done
      rw [isDone, Bool.and_eq_true, Option.isSome_iff_exists] at done
      obtain ⟨⟨ending, ended⟩, -⟩ := done
      rw [result, ended, known]
      rfl
    accepted := by
      intro b known
      obtain ⟨outcome, stopped, -⟩ := sound.delivered_of_ok known
      refine ⟨outcome, stopped, ?_⟩
      rw [result, stopped, known]
      cases outcome with
      | ok count => rfl
      | error failure => rfl
    cut := sound.ends.cut }

-- The consumer refuses the first row, and the reader learns of it with its second batch.
example :
    let p := (start 1 (arrivals [[], [], []] none) () (⟨(), (), {}⟩ : RunState Unit Unit)).run
      (fun _ _ => throw .stopRequested)
      [.reader, .reader, .consumer, .consumer, .reader, .reader]
    p.readerEnd? = some .cutOff ∧ p.consumed? = some (.error .stopRequested) ∧ p.handled = [[]] :=
  ⟨rfl, rfl, rfl⟩

end Pipeline

end RowSync
