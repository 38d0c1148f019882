import RowSync.Proofs.Sync.PipelineSafety

/-!
A sender of rows next to a receiver that takes its batches and may leave. As long as the receiver
stays, every batch is full but perhaps the last, and together they are the rows. Once it has left,
whatever has a batch to send fails, and what was received is the beginning of those batches.
-/

set_option autoImplicit false

namespace RowSync

namespace Stream

/-- The batches of rows all of which are received. -/
def batchesOf (size : Nat) (rows : List Row) : List Batch := (ofRows size (rows.map .ok)).batches

private theorem mem_dropLast_cons {α : Type} {a x : α} {xs : List α}
    (member : a ∈ (x :: xs).dropLast) : a = x ∨ a ∈ xs.dropLast := by
  cases xs with
  | nil => cases member
  | cons y ys =>
    rw [List.dropLast_cons_cons] at member
    exact List.mem_cons.mp member

/-- From a batcher on full batches are sent, then perhaps one that is not full. -/
theorem run_shape {b : RowBatcher} (room : b.pending.length < b.size) (rows : List Row) :
    (∀ batch ∈ (run b (rows.map .ok)).batches.dropLast, batch.length = b.size) ∧
      ∀ batch ∈ (run b (rows.map .ok)).batches, batch ≠ [] ∧ batch.length ≤ b.size := by
  induction rows generalizing b with
  | nil =>
    rw [List.map_nil, run, RowBatcher.rest?]
    cases left : b.pending with
    | nil => simp
    | cons row pending =>
      rw [left] at room
      simpa using Nat.le_of_lt room
  | cons row rows ih =>
    rw [List.map_cons, run]
    obtain ⟨pushed, full⟩ | ⟨pushed, space⟩ := RowBatcher.push_cases room row
    · have positive : 0 < b.size := Nat.lt_of_le_of_lt (Nat.zero_le _) room
      obtain ⟨whole, bounded⟩ := ih (b := { b with pending := [], total := b.total + 1 }) positive
      rw [pushed]
      constructor
      · intro batch sent
        obtain rfl | later := mem_dropLast_cons sent
        · exact full
        · exact whole batch later
      · intro batch sent
        obtain rfl | later := List.mem_cons.mp sent
        · exact ⟨by simp, Nat.le_of_eq full⟩
        · exact bounded batch later
    · rw [pushed]
      exact ih (b := { b with pending := b.pending ++ [row], total := b.total + 1 }) space

end Stream

namespace RowBatcher

@[simp] theorem size_push (b : RowBatcher) (row : Row) : (b.push row).1.size = b.size := by
  unfold push
  dsimp only
  split <;> rfl

@[simp] theorem total_push (b : RowBatcher) (row : Row) : (b.push row).1.total = b.total + 1 := by
  unfold push
  dsimp only
  split <;> rfl

/-- The batcher completes batches of that size and has taken in that many rows. -/
structure Took (size count : Nat) (b : RowBatcher) : Prop where
  size_eq : b.size = max size 1
  total_eq : b.total = count
  pending_eq : b.pending.length = count % max size 1

theorem took_ofSize (size : Nat) : (ofSize size).Took size 0 := ⟨rfl, rfl, (Nat.zero_mod _).symm⟩

namespace Took

variable {size count : Nat} {b : RowBatcher} (took : b.Took size count)

include took

theorem room : b.pending.length < b.size := by
  rw [took.pending_eq, took.size_eq]
  exact Nat.mod_lt _ (Nat.lt_of_lt_of_le Nat.zero_lt_one (Nat.le_max_right size 1))

theorem push (row : Row) : (b.push row).1.Took size (count + 1) := by
  refine ⟨?_, ?_, ?_⟩
  · rw [size_push, took.size_eq]
  · rw [total_push, took.total_eq]
  · rw [← Nat.mod_add_mod, ← took.pending_eq, ← took.size_eq]
    obtain ⟨pushed, full⟩ | ⟨pushed, space⟩ := push_cases took.room row
    · rw [List.length_append, List.length_singleton] at full
      rw [pushed, full, Nat.mod_self]
      rfl
    · rw [pushed]
      rw [List.length_append, List.length_singleton] at space ⊢
      rw [Nat.mod_eq_of_lt space]

/-- A row completes a batch when its number is a multiple of the size. -/
theorem completes_iff (row : Row) :
    (b.push row).2.isSome = true ↔ max size 1 ∣ count + 1 := by
  rw [Nat.dvd_iff_mod_eq_zero, ← Nat.mod_add_mod, ← took.pending_eq, ← took.size_eq]
  obtain ⟨pushed, full⟩ | ⟨pushed, space⟩ := push_cases took.room row
  · rw [List.length_append, List.length_singleton] at full
    simp [pushed, full]
  · rw [List.length_append, List.length_singleton] at space
    rw [Nat.mod_eq_of_lt space]
    simp [pushed]

theorem leaves_iff : b.rest?.isSome = true ↔ ¬max size 1 ∣ count := by
  rw [Nat.dvd_iff_mod_eq_zero, ← took.pending_eq, List.length_eq_zero_iff, rest?]
  cases b.pending with
  | nil => simp
  | cons row pending => simp

end Took

end RowBatcher

namespace Channel

variable {c : Channel} (batch? : Option Batch)

theorem send?_of_open (received : c.receiverOpen = true) :
    c.send? batch? = .ok { c with queue := c.queue ++ batch?.toList } := by
  cases batch? with
  | none => simp [send?]
  | some batch => simp [send?, send, received]

theorem send?_of_closed (alone : c.receiverOpen = false) :
    c.send? batch? = if batch?.isSome then .error .streamClosed else .ok c := by
  cases batch? with
  | none => simp [send?]
  | some batch => simp [send?, send, alone]

end Channel

namespace RowSender

variable {s : RowSender} (row : Row)

theorem push_of_open (received : s.channel.receiverOpen = true) :
    s.push row = (.ok (), {
      batcher := (s.batcher.push row).1
      channel := { s.channel with queue := s.channel.queue ++ (s.batcher.push row).2.toList } }) := by
  unfold push
  dsimp only
  rw [Channel.send?_of_open _ received]

theorem push_of_closed (alone : s.channel.receiverOpen = false) :
    s.push row =
      (if (s.batcher.push row).2.isSome then .error .streamClosed else .ok (),
        { s with batcher := (s.batcher.push row).1 }) := by
  unfold push
  dsimp only
  rw [Channel.send?_of_closed _ alone]
  cases (s.batcher.push row).2.isSome <;> rfl

theorem push_batcher : (s.push row).2.batcher = (s.batcher.push row).1 := by
  cases received : s.channel.receiverOpen with
  | true => rw [push_of_open row received]
  | false => rw [push_of_closed row received]

theorem finish_of_open (received : s.channel.receiverOpen = true) :
    s.finish = (.ok s.batcher.total, { s.channel with
      queue := s.channel.queue ++ s.batcher.rest?.toList, senderOpen := false }) := by
  rw [finish, Channel.send?_of_open _ received]

theorem finish_of_closed (alone : s.channel.receiverOpen = false) :
    s.finish.1 = if s.batcher.rest?.isSome then .error .streamClosed else .ok s.batcher.total := by
  rw [finish, Channel.send?_of_closed _ alone]
  cases s.batcher.rest?.isSome <;> rfl

end RowSender

/-- What happens to a sender and at the other end of its channel. -/
inductive SenderEvent
  | push (row : Row)
  /-- The receiver takes the oldest batch, if there is one. -/
  | receive
  /-- The receiver leaves, and with it what it has not taken. -/
  | leave

def SenderEvent.row? : SenderEvent → Option Row
  | push row => some row
  | _ => none

/-- A sender at work, and what was received from it. -/
structure Delivery where
  sender : RowSender
  received : List Batch := []

namespace Delivery

def start (size : Nat) : Delivery := { sender := { batcher := .ofSize size } }

/-- What an event does. A row for which the sender has to wait until there is room is pushed at the
moment at which the sender goes on, so that room need not be asked for here. -/
def step (d : Delivery) : SenderEvent → Delivery
  | .push row => { d with sender := (d.sender.push row).2 }
  | .receive =>
    match d.sender.channel.receive with
    | (.batch batch, channel) =>
      { sender := { d.sender with channel }, received := d.received ++ [batch] }
    | _ => d
  | .leave => { d with sender := { d.sender with channel := d.sender.channel.leave } }

/-- A sender of batches of that size after the events. -/
def run (size : Nat) (events : List SenderEvent) : Delivery := events.foldl step (start size)

def pushed (events : List SenderEvent) : List Row := events.filterMap SenderEvent.row?

/-- What is true of a sender that took in the rows, and of what was received from it. -/
structure Kept (size : Nat) (rows : List Row) (d : Delivery) : Prop where
  took : d.sender.batcher.Took size rows.length
  lost : d.sender.channel.receiverOpen = false → d.sender.channel.queue = []
  /-- As long as the receiver stays, what it took, what is under way and what more rows will be
  sent in are all batches. -/
  ahead : d.sender.channel.receiverOpen = true → ∀ more : List Row,
    d.received ++ (d.sender.channel.queue ++
      (Stream.run d.sender.batcher (more.map .ok)).batches) = Stream.batchesOf size (rows ++ more)
  received_prefix : ∀ more : List Row, d.received <+: Stream.batchesOf size (rows ++ more)

section Steps

variable {size : Nat} {rows : List Row} {d : Delivery}

theorem kept_start (size : Nat) : (start size).Kept size [] where
  took := RowBatcher.took_ofSize size
  lost := nofun
  ahead := fun _ _ => rfl
  received_prefix := fun _ => List.nil_prefix

theorem Kept.push (kept : d.Kept size rows) (row : Row) :
    (d.step (.push row)).Kept size (rows ++ [row]) := by
  have took : (d.step (.push row)).sender.batcher.Took size (rows ++ [row]).length := by
    rw [List.length_append, List.length_singleton]
    change (d.sender.push row).2.batcher.Took size _
    rw [RowSender.push_batcher]
    exact kept.took.push row
  have regroup (more : List Row) : rows ++ [row] ++ more = rows ++ row :: more := by simp
  have received_prefix (more : List Row) :
      d.received <+: Stream.batchesOf size (rows ++ [row] ++ more) := by
    rw [regroup]
    exact kept.received_prefix (row :: more)
  cases received : d.sender.channel.receiverOpen with
  | false =>
    have sent := RowSender.push_of_closed row received
    refine ⟨took, fun _ => ?_, ?_, received_prefix⟩
    · rw [step, sent]
      exact kept.lost received
    · rw [step, sent]
      exact fun stays => nomatch received.symm.trans stays
  | true =>
    have sent := RowSender.push_of_open row received
    refine ⟨took, ?_, fun _ more => ?_, received_prefix⟩
    · rw [step, sent]
      exact fun leaves => nomatch received.symm.trans leaves
    · have ahead := kept.ahead received (row :: more)
      rw [step, sent, regroup, ← ahead, List.map_cons, Stream.run]
      simp

theorem step_receive_of_nil (queued : d.sender.channel.queue = []) : d.step .receive = d := by
  rw [step, Channel.receive, queued]
  cases d.sender.channel.senderOpen <;> rfl

theorem step_receive_of_cons {batch : Batch} {queue : List Batch}
    (queued : d.sender.channel.queue = batch :: queue) :
    d.step .receive = {
      sender := { d.sender with channel := { d.sender.channel with queue } }
      received := d.received ++ [batch] } := by
  rw [step, Channel.receive, queued]

theorem Kept.receive (kept : d.Kept size rows) : (d.step .receive).Kept size rows := by
  cases queued : d.sender.channel.queue with
  | nil =>
    rw [step_receive_of_nil queued]
    exact kept
  | cons batch queue =>
    have received : d.sender.channel.receiverOpen = true := by
      rw [← Bool.not_eq_false]
      exact fun alone => nomatch queued.symm.trans (kept.lost alone)
    have ahead (more : List Row) : d.received ++ [batch] ++ (queue ++
        (Stream.run d.sender.batcher (more.map .ok)).batches) =
          Stream.batchesOf size (rows ++ more) := by
      rw [← kept.ahead received more, queued]
      simp
    rw [step_receive_of_cons queued]
    refine ⟨kept.took, ?_, fun _ => ahead, fun more => ?_⟩
    · exact fun alone => nomatch received.symm.trans alone
    · exact ahead more ▸ List.prefix_append _ _

theorem Kept.leave (kept : d.Kept size rows) : (d.step .leave).Kept size rows :=
  ⟨kept.took, fun _ => rfl, nofun, kept.received_prefix⟩

theorem Kept.step (kept : d.Kept size rows) (event : SenderEvent) :
    (d.step event).Kept size (rows ++ event.row?.toList) := by
  cases event with
  | push row => exact kept.push row
  | receive =>
    change (d.step .receive).Kept size (rows ++ [])
    rw [List.append_nil]
    exact kept.receive
  | leave =>
    change (d.step .leave).Kept size (rows ++ [])
    rw [List.append_nil]
    exact kept.leave

theorem receiverOpen_step (d : Delivery) (event : SenderEvent) :
    (d.step event).sender.channel.receiverOpen = true ↔
      d.sender.channel.receiverOpen = true ∧ .leave ≠ event := by
  cases event with
  | push row =>
    rw [step]
    cases received : d.sender.channel.receiverOpen with
    | false => simp [RowSender.push_of_closed row received, received]
    | true => simp [RowSender.push_of_open row received, received]
  | receive =>
    cases queued : d.sender.channel.queue with
    | nil => simp [step_receive_of_nil queued]
    | cons batch queue => simp [step_receive_of_cons queued]
  | leave => simp [step, Channel.leave]

end Steps

section Runs

variable (size : Nat) (events : List SenderEvent)

theorem kept_run : (run size events).Kept size (pushed events) := by
  induction events using List.reverseRecOn with
  | nil => exact kept_start size
  | append_singleton events event ih =>
    rw [run, List.foldl_concat, pushed, List.filterMap_append]
    exact ih.step event

theorem receiverOpen_run :
    (run size events).sender.channel.receiverOpen = true ↔ .leave ∉ events := by
  induction events using List.reverseRecOn with
  | nil => simp [run, start]
  | append_singleton events event ih =>
    rw [run, List.foldl_concat, receiverOpen_step, ← run, ih]
    simp

end Runs

/-- Batches of rows are full but perhaps for the last, none is empty, and together they are the
rows. A receiver has taken the first of them, whatever rows are still to come. If it stays, nothing
fails, it is sent all of them, and the rows are counted. Once it has left, a row fails exactly when
it completes a batch, and the end when rows are left for one. -/
theorem run_delivers (size : Nat) (events : List SenderEvent) :
    let full := max size 1
    let rows := pushed events
    let d := run size events
    let batches := Stream.batchesOf size
    ((batches rows).flatten = rows ∧ (∀ batch ∈ (batches rows).dropLast, batch.length = full) ∧
      ∀ batch ∈ batches rows, batch ≠ [] ∧ batch.length ≤ full) ∧
    (∀ more : List Row, d.received <+: batches (rows ++ more)) ∧
    (.leave ∉ events → (∀ row, (d.sender.push row).1 = .ok ()) ∧
      d.sender.finish.1 = .ok rows.length ∧
      d.received ++ d.sender.finish.2.queue = batches rows) ∧
    (.leave ∈ events →
      (∀ row, (d.sender.push row).1 =
        if full ∣ rows.length + 1 then .error .streamClosed else .ok ()) ∧
      d.sender.finish.1 =
        if full ∣ rows.length then .ok rows.length else .error .streamClosed) := by
  intro full rows d batches
  have kept : d.Kept size rows := kept_run size events
  have shape := Stream.run_shape (RowBatcher.took_ofSize size).room rows
  refine ⟨⟨Stream.flatten_ofRows size rows, shape⟩, kept.received_prefix, fun stays => ?_,
    fun leaves => ?_⟩
  · have received : d.sender.channel.receiverOpen = true := (receiverOpen_run size events).mpr stays
    have ended := RowSender.finish_of_open received
    refine ⟨fun row => ?_, ?_, ?_⟩
    · rw [RowSender.push_of_open row received]
    · rw [ended, kept.took.total_eq]
    · have all := kept.ahead received []
      rw [List.map_nil, Stream.run, List.append_nil] at all
      rw [ended]
      exact all
  · have received : d.sender.channel.receiverOpen = false := by
      rw [← Bool.not_eq_true, receiverOpen_run]
      exact fun stays => stays leaves
    constructor
    · intro row
      rw [RowSender.push_of_closed row received]
      exact if_congr (kept.took.completes_iff row) rfl rfl
    · rw [RowSender.finish_of_closed received, kept.took.total_eq]
      exact (if_congr kept.took.leaves_iff rfl rfl).trans (ite_not _ _ _)

private def numbered (n : Int64) : Row := [.int64 n]

private def threeRows : List SenderEvent :=
  [.push (numbered 1), .push (numbered 2), .receive, .push (numbered 3)]

/-- In batches of two, the third row is sent by the end. When the receiver has left, the end fails
for its sake, and so would a fourth row. -/
theorem run_delivers_of_three_rows :
    let staying := run 2 threeRows
    let leaving := run 2 (threeRows ++ [.leave])
    .leave ∉ threeRows ∧ (staying.sender.push (numbered 4)).1 = .ok () ∧
      staying.sender.finish.1 = .ok 3 ∧
      staying.received ++ staying.sender.finish.2.queue =
        [[numbered 1, numbered 2], [numbered 3]] ∧
      .leave ∈ threeRows ++ [.leave] ∧
      (leaving.sender.push (numbered 4)).1 = .error .streamClosed ∧
      leaving.sender.finish.1 = .error .streamClosed := by
  have stays : .leave ∉ threeRows := by simp [threeRows]
  have leaves : .leave ∈ threeRows ++ [.leave] := by simp
  obtain ⟨-, -, open_end, -⟩ := run_delivers 2 threeRows
  obtain ⟨-, -, -, closed_end⟩ := run_delivers 2 (threeRows ++ [.leave])
  obtain ⟨taken, counted, all⟩ := open_end stays
  obtain ⟨refused, failed⟩ := closed_end leaves
  exact ⟨stays, taken _, counted, all, leaves, refused _, failed⟩

end Delivery

end RowSync
