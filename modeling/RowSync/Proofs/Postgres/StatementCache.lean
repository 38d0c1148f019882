import Mathlib.Data.List.Induction
import RowSync.Postgres.Connecting

/-!
The statements that a session keeps prepared. One turn is a call together with the server as it is
at that time, so that every call may be answered differently. What a turn can do to the session is
said once; the law of the cache follows by induction on the turns.
-/

set_option autoImplicit false

namespace RowSync

/-- What is asked of a session at once. -/
inductive PostgresCall
  | query (sql : String) (parameters : List Value)
  | execute (sql : String) (parameters : List Value)
  | truncate (table : String)
  /-- The batches of the stream are received, or nobody is there to receive them. -/
  | stream (sql : String) (parameters : List Value) (size : Nat) (received : Bool)
  | schemaRows
  | disableConstraints
  | enableConstraints
  | close
  deriving DecidableEq

namespace PostgresCall

open PostgresSession

/-- The statement that the call has prepared, known already or not. -/
def text? : PostgresCall → Option String
  | query sql _ | execute sql _ | stream sql _ _ _ => some sql
  | truncate table => some (Dialect.postgres.truncateStatement table)
  | _ => none

def ended {α : Type} (result : Outcome α × PostgresSession) : Outcome Unit × PostgresSession :=
  (result.1.map fun _ => (), result.2)

/-- How the call ends, and the session after it. -/
def make (call : PostgresCall) (s : PostgresSession) : Outcome Unit × PostgresSession :=
  match call with
  | query sql parameters => ended (toDatabase.query sql parameters s)
  | execute sql parameters => ended (toDatabase.execute sql parameters s)
  | truncate table => ended (toDatabase.truncate table s)
  | stream sql parameters size received =>
    let (rows, s) := arriving sql parameters s
    let delivered :=
      if received then Stream.ofRows size rows else Stream.runClosed (.ofSize size) rows
    ended (delivered.outcome, s)
  | schemaRows => ended (toDatabase.schemaRows s)
  | disableConstraints => toDatabase.disableConstraints s
  | enableConstraints => toDatabase.enableConstraints s
  | close => toDatabase.close s

end PostgresCall

/-- A call, and the server that it meets. -/
structure PostgresTurn where
  server : PostgresServer
  call : PostgresCall

namespace PostgresMessage

def text? : PostgresMessage → Option String
  | parse sql => some sql
  | _ => none

/-- The message has a prepared statement executed. -/
def isBind : PostgresMessage → Bool
  | bind _ => true
  | _ => false

theorem text?_eq_none {m : PostgresMessage} (bound : m.isBind = true) : m.text? = none := by
  cases m <;> simp_all [isBind, text?]

end PostgresMessage

namespace PostgresSession

/-- The texts of the statements that are known to be prepared. -/
def cached (s : PostgresSession) : List String := s.statements.map (·.1)

/-- The connection is open and nothing is prepared yet. -/
structure Fresh (s : PostgresSession) : Prop where
  isOpen : s.isOpen = true
  statements : s.statements = []

theorem fresh_connect {settings : DatabaseSettings} {s : PostgresSession}
    (made : (connect settings s).1.outcome = .ok ()) : (connect settings s).2.Fresh := by
  unfold connect at made ⊢
  split
  · simp_all
  · split <;> simp_all
    split at made
    · cases made
    · exact ⟨rfl, rfl⟩

def turned (s : PostgresSession) (turn : PostgresTurn) : Outcome Unit × PostgresSession :=
  turn.call.make { s with server := turn.server }

def after (s : PostgresSession) (turn : PostgresTurn) : PostgresSession := (s.turned turn).2

def messages (s : PostgresSession) (turn : PostgresTurn) : List PostgresMessage :=
  (s.after turn).sent.toList.drop s.sent.size

/-- The texts that a turn asks the server to prepare. -/
def asked (s : PostgresSession) (turn : PostgresTurn) : List String :=
  (s.messages turn).filterMap PostgresMessage.text?

def run (s : PostgresSession) (turns : List PostgresTurn) : PostgresSession := turns.foldl after s

/-- In this turn the server was asked to prepare the text of the call, and did so. -/
structure Prepares (s : PostgresSession) (turn : PostgresTurn) (sql : String) : Prop where
  text : turn.call.text? = some sql
  sent : sql ∈ s.asked turn
  accepted : (turn.server.answer sql).refusal? = none

/-- In one of the turns the text was prepared, and no later one closes the connection. -/
def PreparedSince (s : PostgresSession) (turns : List PostgresTurn) (sql : String) : Prop :=
  ∃ before turn later, turns = before ++ turn :: later ∧ (s.run before).Prepares turn sql ∧
    ∀ t ∈ later, t.call ≠ .close

/-- What a request about a text does to a session while it meets a server: the statements that are
known and the messages that are sent, by whether the request failed. -/
inductive Exchanged (sql : String) (server : PostgresServer) (failed : Prop)
    (s s' : PostgresSession) : Prop
  /-- The statement is known, and may be executed. -/
  | known {binds : List PostgresMessage} (found : sql ∈ s.cached) (kept : s'.cached = s.cached)
    (sent : s'.sent.toList = s.sent.toList ++ binds) (bound : ∀ m ∈ binds, m.isBind = true)
  /-- The server prepares the statement, which is kept, and may be executed. -/
  | prepared {binds : List PostgresMessage} (missed : sql ∉ s.cached) (reached : s.isOpen = true)
    (accepted : (server.answer sql).refusal? = none) (added : s'.cached = sql :: s.cached)
    (sent : s'.sent.toList = s.sent.toList ++ .parse sql :: binds)
    (bound : ∀ m ∈ binds, m.isBind = true)
  /-- The server does not prepare the statement. -/
  | refused (missed : sql ∉ s.cached) (reached : s.isOpen = true)
    (declined : (server.answer sql).refusal? ≠ none) (ended : failed) (kept : s'.cached = s.cached)
    (sent : s'.sent.toList = s.sent.toList ++ [.parse sql])
  /-- The statement would have to be prepared, and nothing is sent on a closed connection. -/
  | unsent (missed : sql ∉ s.cached) (closed : s.isOpen = false) (ended : failed)
    (kept : s'.cached = s.cached) (sent : s'.sent.toList = s.sent.toList ++ [])

theorem Exchanged.imp {sql : String} {server : PostgresServer} {failed failed' : Prop}
    {s s' : PostgresSession} (done : Exchanged sql server failed s s') (more : failed → failed') :
    Exchanged sql server failed' s s' := by
  cases done with
  | known found kept sent bound => exact .known found kept sent bound
  | prepared missed reached accepted added sent bound =>
    exact .prepared missed reached accepted added sent bound
  | refused missed reached declined ended kept sent =>
    exact .refused missed reached declined (more ended) kept sent
  | unsent missed closed ended kept sent => exact .unsent missed closed (more ended) kept sent

theorem lookup_eq_none_iff {s : PostgresSession} {sql : String} :
    s.statements.lookup sql = none ↔ sql ∉ s.cached := by
  rw [List.lookup_eq_none_iff, cached, List.mem_map]
  constructor
  · rintro other ⟨entry, member, rfl⟩
    simpa using other entry member
  · intro absent entry member
    rw [bne_iff_ne]
    rintro rfl
    exact absent ⟨entry, member, rfl⟩

theorem send_of_open {s : PostgresSession} (reached : s.isOpen = true) (m : PostgresMessage) :
    s.send m = .ok { s with sent := s.sent.push m } := if_pos reached

theorem send_of_closed {s : PostgresSession} (closed : s.isOpen = false) (m : PostgresMessage) :
    s.send m = .error .closed := if_neg (by simp [closed])

theorem executePrepared_sends (sql : String)
    (parameters : Except PostgresFault (List (Option Bytes))) (s : PostgresSession) :
    ∃ binds : List PostgresMessage,
      (executePrepared sql parameters s).2 = { s with sent := s.sent ++ binds.toArray } ∧
        ∀ m ∈ binds, m.isBind = true := by
  unfold executePrepared
  cases parameters with
  | error fault => exact ⟨[], by simp, by simp⟩
  | ok values =>
    obtain reached | closed := Bool.eq_false_or_eq_true s.isOpen
    · exact ⟨[.bind values], by simp [send_of_open reached], by simp [PostgresMessage.isBind]⟩
    · exact ⟨[], by simp [send_of_closed closed], by simp⟩

theorem describe_sends (sql : String) (s : PostgresSession) :
    ∃ parses : List PostgresMessage,
      (describe sql s).2 = { s with sent := s.sent ++ parses.toArray } := by
  unfold describe
  obtain reached | closed := Bool.eq_false_or_eq_true s.isOpen
  · refine ⟨[.parse sql], ?_⟩
    rw [send_of_open reached]
    cases declined : (s.server.answer sql).refusal? <;> simp [declined]
  · exact ⟨[], by simp [send_of_closed closed]⟩

theorem isOpen_exchange (sql : String) (parameters : List Value) (s : PostgresSession) :
    (exchange sql parameters s).2.isOpen = s.isOpen := by
  have prepares : (prepare sql s).2.isOpen = s.isOpen := by
    obtain ⟨parses, described⟩ := describe_sends sql s
    unfold prepare
    split
    · rfl
    · split <;> simp_all
  unfold exchange
  split
  · simp_all
  · rename_i statement s' prepared
    obtain ⟨binds, executed, -⟩ := executePrepared_sends sql
      (encodeAll PostgresParameter.encode statement.parameters parameters) s'
    simp_all

theorem schemaRows_sends (s : PostgresSession) :
    ∃ messages : List PostgresMessage,
      (schemaRows s).2 = { s with sent := s.sent ++ messages.toArray } := by
  obtain ⟨parses, described⟩ := describe_sends schemaQuery s
  obtain ⟨binds, executed, -⟩ := executePrepared_sends schemaQuery
    ((describe schemaQuery s).1.bind fun statement =>
      encodeAll SchemaParameter.encode statement.parameters
        [.name (describe schemaQuery s).2.schema, .name (describe schemaQuery s).2.database,
          .names (describe schemaQuery s).2.excludedTables]) (describe schemaQuery s).2
  refine ⟨parses ++ binds, executed.trans ?_⟩
  simp [described]

theorem exchange_exchanged (sql : String) (parameters : List Value) (s : PostgresSession) :
    Exchanged sql s.server (∃ fault, (exchange sql parameters s).1 = .error fault) s
      (exchange sql parameters s).2 := by
  unfold exchange prepare
  cases found : s.statements.lookup sql with
  | some statement =>
    have known : sql ∈ s.cached := by
      refine Classical.byContradiction fun absent => ?_
      rw [lookup_eq_none_iff.mpr absent] at found
      cases found
    obtain ⟨binds, executed, bound⟩ := executePrepared_sends sql
      (encodeAll PostgresParameter.encode statement.parameters parameters) s
    refine .known known ?_ ?_ bound <;> simp [executed, cached]
  | none =>
    have missed : sql ∉ s.cached := lookup_eq_none_iff.mp found
    unfold describe
    obtain reached | closed := Bool.eq_false_or_eq_true s.isOpen
    · rw [send_of_open reached]
      cases declined : (s.server.answer sql).refusal? with
      | some reply =>
        simp only [declined]
        exact .refused missed reached (by simp [declined]) ⟨.server reply, rfl⟩ rfl (by simp)
      | none =>
        simp only [declined]
        obtain ⟨binds, executed, bound⟩ := executePrepared_sends sql
          (encodeAll PostgresParameter.encode (s.server.answer sql).parameters parameters)
          { s with
            sent := s.sent.push (.parse sql)
            statements := (sql, ⟨(s.server.answer sql).parameters,
              (s.server.answer sql).columns⟩) :: s.statements }
        refine .prepared missed reached declined ?_ ?_ bound <;> rw [executed] <;> simp [cached]
    · rw [send_of_closed closed]
      exact .unsent missed closed ⟨.closed, rfl⟩ rfl (by simp)

/-- The connection is never given up in these turns. -/
def StaysOpen (turns : List PostgresTurn) : Prop := ∀ turn ∈ turns, turn.call ≠ .close

/-- What a turn about a text does to the statements that are known, while the connection is reached
or not. -/
structure KeepsCache (s : PostgresSession) (reached : Prop) (turn : PostgresTurn) (sql : String) :
    Prop where
  asks : reached → sql ∉ s.cached → s.asked turn = [sql]
  asksNothing : ¬reached ∨ sql ∈ s.cached → s.asked turn = []
  /-- Nothing is kept or executed when the text could not be prepared. -/
  unprepared : sql ∉ s.cached → ¬reached ∨ (turn.server.answer sql).refusal? ≠ none →
    (∃ failure, (s.turned turn).1 = .error failure) ∧ (s.after turn).cached = s.cached ∧
      ∀ m ∈ s.messages turn, m.isBind = false
  /-- However the call ends, a text that was prepared is kept. -/
  prepared : sql ∉ s.cached → reached → (turn.server.answer sql).refusal? = none →
    (s.after turn).cached = sql :: s.cached
  known : sql ∈ s.cached → (s.after turn).cached = s.cached

section Turn

variable {s : PostgresSession} {turn : PostgresTurn} {sql : String}

theorem messages_eq {added : List PostgresMessage}
    (sent : (s.after turn).sent.toList = s.sent.toList ++ added) : s.messages turn = added := by
  rw [messages, sent, ← Array.length_toList, List.drop_left]

theorem make_fails {call : PostgresCall} {parameters : List Value} {fault : PostgresFault}
    (calls : call = .query sql parameters ∨ call = .execute sql parameters ∨
      ∃ size received, call = .stream sql parameters size received)
    (failed : (exchange sql parameters s).1 = .error fault) :
    (call.make s).1 = .error fault.failure := by
  obtain rfl | rfl | ⟨size, received, rfl⟩ := calls
  · simp only [PostgresCall.make, PostgresCall.ended, toDatabase, query, failed]
    rfl
  · simp only [PostgresCall.make, PostgresCall.ended, toDatabase, execute, failed]
    rfl
  · -- the failure is all that arrives, whether anybody receives it or not
    have arrives :
        arriving sql parameters s = ([.error fault.failure], (exchange sql parameters s).2) := by
      unfold arriving
      split <;> simp_all
    cases received <;> simp only [PostgresCall.make, PostgresCall.ended, arrives] <;> rfl

theorem snd_arriving (sql : String) (parameters : List Value) (s : PostgresSession) :
    (arriving sql parameters s).2 = (exchange sql parameters s).2 := by
  unfold arriving
  split <;> simp_all

theorem make_truncate (table : String) (s : PostgresSession) :
    (PostgresCall.truncate table).make s =
      (PostgresCall.execute (Dialect.postgres.truncateStatement table) []).make s := by
  simp only [PostgresCall.make, PostgresCall.ended, Database.truncate, toDatabase]
  cases (execute (Dialect.postgres.truncateStatement table) [] s).1 <;> rfl

theorem make_exchanged {call : PostgresCall} (named : call.text? = some sql)
    (s : PostgresSession) :
    Exchanged sql s.server (∃ failure, (call.make s).1 = .error failure) s (call.make s).2 := by
  cases call with
  | query sql parameters =>
    cases named
    exact (exchange_exchanged sql parameters s).imp fun ⟨_, failed⟩ =>
      ⟨_, make_fails (.inl rfl) failed⟩
  | execute sql parameters =>
    cases named
    exact (exchange_exchanged sql parameters s).imp fun ⟨_, failed⟩ =>
      ⟨_, make_fails (.inr (.inl rfl)) failed⟩
  | truncate table =>
    cases named
    rw [make_truncate]
    exact (exchange_exchanged _ [] s).imp fun ⟨_, failed⟩ =>
      ⟨_, make_fails (.inr (.inl rfl)) failed⟩
  | stream sql parameters size received =>
    cases named
    have through := exchange_exchanged sql parameters s
    rw [← snd_arriving] at through
    exact through.imp fun ⟨_, failed⟩ => ⟨_, make_fails (.inr (.inr ⟨size, received, rfl⟩)) failed⟩
  | schemaRows => cases named
  | disableConstraints => cases named
  | enableConstraints => cases named
  | close => cases named

theorem keepsCache (named : turn.call.text? = some sql) :
    s.KeepsCache (s.isOpen = true) turn sql := by
  have silent {binds : List PostgresMessage} (bound : ∀ m ∈ binds, m.isBind = true) :
      binds.filterMap PostgresMessage.text? = [] :=
    List.filterMap_eq_nil_iff.mpr fun m member => PostgresMessage.text?_eq_none (bound m member)
  -- meeting another server changes neither what is known nor what was sent before
  have done : Exchanged sql turn.server (∃ failure, (s.turned turn).1 = .error failure) s
      (s.after turn) := by
    cases make_exchanged named { s with server := turn.server } with
    | known found kept sent bound => exact .known found kept sent bound
    | prepared missed reached accepted added sent bound =>
      exact .prepared missed reached accepted added sent bound
    | refused missed reached declined ended kept sent =>
      exact .refused missed reached declined ended kept sent
    | unsent missed closed ended kept sent => exact .unsent missed closed ended kept sent
  -- an exchange can go in four ways, and the law is read off each of them
  cases done with
  | known found kept sent bound =>
    have quiet : s.asked turn = [] := by rw [asked, messages_eq sent, silent bound]
    constructor <;> simp_all
  | prepared missed reached accepted added sent bound =>
    have once : s.asked turn = [sql] := by
      rw [asked, messages_eq sent]
      simp [PostgresMessage.text?, silent bound]
    constructor <;> simp_all
  | refused missed reached declined ended kept sent =>
    have once : s.asked turn = [sql] := by simp [asked, messages_eq sent, PostgresMessage.text?]
    have silence : ∀ m ∈ s.messages turn, m.isBind = false := by
      simp [messages_eq sent, PostgresMessage.isBind]
    constructor <;> simp_all
  | unsent missed closed ended kept sent =>
    have quiet : s.asked turn = [] := by simp [asked, messages_eq sent]
    have silence : ∀ m ∈ s.messages turn, m.isBind = false := by simp [messages_eq sent]
    constructor <;> simp_all

theorem after_of_silent (silent : turn.call.text? = none) (stays : turn.call ≠ .close) :
    (s.after turn).cached = s.cached ∧ (s.after turn).isOpen = s.isOpen := by
  unfold after turned
  cases called : turn.call with
  | query sql parameters => simp [called, PostgresCall.text?] at silent
  | execute sql parameters => simp [called, PostgresCall.text?] at silent
  | truncate table => simp [called, PostgresCall.text?] at silent
  | stream sql parameters size received => simp [called, PostgresCall.text?] at silent
  | schemaRows =>
    obtain ⟨messages, described⟩ := schemaRows_sends { s with server := turn.server }
    change (schemaRows { s with server := turn.server }).2.cached = _ ∧
      (schemaRows { s with server := turn.server }).2.isOpen = _
    rw [described]
    exact ⟨rfl, rfl⟩
  | disableConstraints => exact ⟨rfl, rfl⟩
  | enableConstraints => exact ⟨rfl, rfl⟩
  | close => exact absurd called stays

theorem after_of_close (gives : turn.call = .close) :
    (s.after turn).cached = [] ∧ (s.after turn).isOpen = false := by
  unfold after turned
  rw [gives]
  exact ⟨rfl, rfl⟩

theorem isOpen_after_of_text (named : turn.call.text? = some sql) :
    (s.after turn).isOpen = s.isOpen := by
  unfold after turned
  cases called : turn.call with
  | query sql parameters => exact isOpen_exchange sql parameters _
  | execute sql parameters => exact isOpen_exchange sql parameters _
  | truncate table =>
    rw [make_truncate]
    exact isOpen_exchange _ [] _
  | stream sql parameters size received =>
    have through := isOpen_exchange sql parameters { s with server := turn.server }
    rw [← snd_arriving] at through
    exact through
  | schemaRows => simp [called, PostgresCall.text?] at named
  | disableConstraints => simp [called, PostgresCall.text?] at named
  | enableConstraints => simp [called, PostgresCall.text?] at named
  | close => simp [called, PostgresCall.text?] at named

theorem isOpen_after : (s.after turn).isOpen = true ↔ s.isOpen = true ∧ turn.call ≠ .close := by
  by_cases gives : turn.call = .close
  · simp [after_of_close gives, gives]
  · cases named : turn.call.text? with
    | some sql => simp [isOpen_after_of_text named, gives]
    | none => simp [(after_of_silent named gives).2, gives]

theorem prepares_iff {text : String} (named : turn.call.text? = some text) :
    s.Prepares turn sql ↔ sql = text ∧ text ∉ s.cached ∧ s.isOpen = true ∧
      (turn.server.answer text).refusal? = none := by
  have law := keepsCache (s := s) named
  constructor
  · rintro ⟨same, sent, accepted⟩
    cases named.symm.trans same
    refine ⟨rfl, ?_⟩
    refine Classical.byContradiction fun otherwise => ?_
    have quiet : s.asked turn = [] := law.asksNothing (by grind)
    rw [quiet] at sent
    cases sent
  · rintro ⟨rfl, missed, reached, accepted⟩
    exact ⟨named, by simp [law.asks reached missed], accepted⟩

/-- While the connection is kept, a turn leaves what is known, or adds the text that it prepares. -/
theorem cached_after (stays : turn.call ≠ .close) :
    ((s.after turn).cached = s.cached ∧ ∀ sql, ¬s.Prepares turn sql) ∨
      ∃ text ∉ s.cached, (s.after turn).cached = text :: s.cached ∧
        ∀ sql, s.Prepares turn sql ↔ sql = text := by
  cases named : turn.call.text? with
  | none =>
    refine .inl ⟨(after_of_silent named stays).1, fun sql prepares => ?_⟩
    have text := prepares.text
    rw [named] at text
    cases text
  | some text =>
    have law := keepsCache (s := s) named
    by_cases known : text ∈ s.cached
    · exact .inl ⟨law.known known, fun sql prepares => ((prepares_iff named).mp prepares).2.1 known⟩
    · by_cases accepted : s.isOpen = true ∧ (turn.server.answer text).refusal? = none
      · refine .inr ⟨text, known, law.prepared known accepted.1 accepted.2, fun sql => ?_⟩
        rw [prepares_iff named]
        exact and_iff_left ⟨known, accepted⟩
      · refine .inl ⟨(law.unprepared known (by grind)).2.1, fun sql prepares => ?_⟩
        exact accepted ((prepares_iff named).mp prepares).2.2

/-- After a turn a text is known if it was before and the connection is kept, or by the turn. -/
theorem mem_cached_after : sql ∈ (s.after turn).cached ↔
    sql ∈ s.cached ∧ turn.call ≠ .close ∨ s.Prepares turn sql := by
  by_cases gives : turn.call = .close
  · have idle : ¬s.Prepares turn sql := fun prepares => by
      have text := prepares.text
      rw [gives] at text
      cases text
    simp [after_of_close gives, gives, idle]
  · obtain ⟨kept, idle⟩ | ⟨text, -, added, prepares⟩ := cached_after (s := s) gives
    · simp [kept, gives, idle]
    · simp [added, gives, prepares, or_comm]

theorem nodup_after (distinct : s.cached.Nodup) : (s.after turn).cached.Nodup := by
  by_cases gives : turn.call = .close
  · simp [after_of_close gives]
  · obtain ⟨kept, -⟩ | ⟨text, missed, added, -⟩ := cached_after (s := s) gives
    · rwa [kept]
    · rw [added]
      exact List.nodup_cons.mpr ⟨missed, distinct⟩

end Turn

section Run

variable {s₀ : PostgresSession}

theorem run_concat (turns : List PostgresTurn) (turn : PostgresTurn) :
    s₀.run (turns ++ [turn]) = (s₀.run turns).after turn := by simp [run]

theorem preparedSince_concat {turns : List PostgresTurn} {turn : PostgresTurn} {sql : String} :
    s₀.PreparedSince (turns ++ [turn]) sql ↔
      s₀.PreparedSince turns sql ∧ turn.call ≠ .close ∨ (s₀.run turns).Prepares turn sql := by
  constructor
  · rintro ⟨before, first, later, split, prepares, stays⟩
    -- the turn that prepares is the last one, or the last one comes after it
    obtain rfl | ⟨later, last, rfl⟩ := later.eq_nil_or_concat
    · obtain ⟨rfl, same⟩ := List.append_inj' split rfl
      cases same
      exact .inr prepares
    · have regrouped : turns ++ [turn] = (before ++ first :: later) ++ [last] := by simp [split]
      obtain ⟨rfl, same⟩ := List.append_inj' regrouped rfl
      cases same
      exact .inl ⟨⟨before, first, later, rfl, prepares, fun t member => stays t (by simp [member])⟩,
        stays turn (by simp)⟩
  · rintro (⟨⟨before, first, later, rfl, prepares, stays⟩, kept⟩ | prepares)
    · refine ⟨before, first, later ++ [turn], by simp, prepares, fun t member => ?_⟩
      obtain member | member := List.mem_append.mp member
      · exact stays t member
      · exact List.mem_singleton.mp member ▸ kept
    · exact ⟨turns, turn, [], rfl, prepares, by simp⟩

theorem isOpen_run (fresh : s₀.Fresh) (turns : List PostgresTurn) :
    (s₀.run turns).isOpen = true ↔ StaysOpen turns := by
  induction turns using List.reverseRecOn with
  | nil => simp [run, fresh.isOpen, StaysOpen]
  | append_singleton turns turn ih =>
    rw [run_concat, isOpen_after, ih]
    simp [StaysOpen, or_imp, forall_and]

theorem mem_cached_run (fresh : s₀.Fresh) (turns : List PostgresTurn) (sql : String) :
    sql ∈ (s₀.run turns).cached ↔ s₀.PreparedSince turns sql := by
  induction turns using List.reverseRecOn with
  | nil => simp [run, cached, fresh.statements, PreparedSince]
  | append_singleton turns turn ih => rw [run_concat, mem_cached_after, ih, preparedSince_concat]

theorem nodup_cached_run (fresh : s₀.Fresh) (turns : List PostgresTurn) :
    (s₀.run turns).cached.Nodup := by
  induction turns using List.reverseRecOn with
  | nil => simp [run, cached, fresh.statements]
  | append_singleton turns turn ih =>
    rw [run_concat]
    exact nodup_after ih

/-- After any calls and answers the texts that are known are those prepared since the connection
was last given up, each once. The next call about a text asks the server to prepare it exactly when
it is not known and the connection was never given up, keeps it however the call ends, and neither
keeps nor executes anything when it could not be prepared. The other calls keep what is known. -/
theorem cache_exact (fresh : s₀.Fresh) (turns : List PostgresTurn) :
    (s₀.run turns).cached.Nodup ∧
      (∀ sql, sql ∈ (s₀.run turns).cached ↔ s₀.PreparedSince turns sql) ∧
        ∀ turn : PostgresTurn,
          (∀ sql, turn.call.text? = some sql →
            (s₀.run turns).KeepsCache (StaysOpen turns) turn sql) ∧
          (turn.call ∈ [.schemaRows, .disableConstraints, .enableConstraints] →
            ((s₀.run turns).after turn).cached = (s₀.run turns).cached) := by
  refine ⟨nodup_cached_run fresh turns, mem_cached_run fresh turns, fun turn => ⟨?_, ?_⟩⟩
  · intro sql named
    have law := keepsCache (s := s₀.run turns) named
    rwa [propext (isOpen_run fresh turns)] at law
  · intro quiet
    have silent : turn.call.text? = none ∧ turn.call ≠ .close := by
      simp only [List.mem_cons, List.not_mem_nil, or_false] at quiet
      obtain called | called | called := quiet <;> simp [called, PostgresCall.text?]
    exact (after_of_silent silent.1 silent.2).1

private def failingTurns : List PostgresTurn :=
  [⟨{ answer := fun _ => { refusal? := some ⟨"42601", "refused", none⟩ } }, .query "SELECT 1" []⟩,
    ⟨{ answer := fun _ => { columns := [⟨"a", .int4⟩], rows := [[none]] } },
      .stream "SELECT 1" [] 1 false⟩,
    ⟨{ answer := fun _ => { failure? := some ⟨"57014", "canceled", none⟩ } },
      .execute "DELETE FROM a" []⟩]

theorem preparedSince_of_failing :
    Fresh { server := {} } ∧ PreparedSince { server := {} } failingTurns "SELECT 1" ∧
      PreparedSince { server := {} } failingTurns "DELETE FROM a" := by
  have fresh : Fresh { server := {} } := ⟨rfl, rfl⟩
  exact ⟨fresh, ((cache_exact fresh failingTurns).2.1 _).mp (by decide),
    ((cache_exact fresh failingTurns).2.1 _).mp (by decide)⟩

/-- On a connection that was given up nothing is sent, although nothing is known. -/
theorem closed_asks_nothing :
    ¬∀ (turns : List PostgresTurn) (turn : PostgresTurn) (sql : String),
      turn.call.text? = some sql →
        (sql ∈ (run { server := {} } turns).asked turn ↔
          sql ∉ (run { server := {} } turns).cached) := by
  intro asks
  have asked := (asks [⟨{}, .close⟩] ⟨{}, .query "SELECT 1" []⟩ "SELECT 1" rfl).mpr (by decide)
  exact absurd asked (by decide)

end Run

end PostgresSession

end RowSync
