import Mathlib.Data.List.Sublists
import RowSync.Postgres.Session
import RowSync.Proofs.Sync.ReadOnly
import RowSync.Proofs.Sync.Refusal

/-!
How the statements that runs send to their source read columns. Migrations and verifications read
every column by the expression that the source has for its declared type. Validations read no other
column than an identity, and that by its bare name: where the expression is another one, the source
may answer with values that have no decoding.
-/

set_option autoImplicit false

namespace RowSync

variable {σ τ α β γ : Type}

namespace Dialect

def readColumn (d : Dialect) (c : Column) : String := d.selectExpression c.name c.dataType

def nameColumn (d : Dialect) (c : Column) : String := d.quote c.name

/-- PostgreSQL columns have another expression than their names where their types have no
decoding. -/
theorem readColumn_postgres_iff (c : Column) :
    postgres.readColumn c = postgres.nameColumn c ↔
      decodedTypes.contains (Text.asciiLower c.dataType) = true := by
  change (if _ then quoteWith doubleQuote c.name else quoteWith doubleQuote c.name ++ "::text") =
    quoteWith doubleQuote c.name ↔ _
  split
  · rename_i decoded
    exact iff_of_true rfl decoded
  · rename_i undecoded
    refine iff_of_false (fun same => ?_) undecoded
    have lengths := congrArg String.length same
    rw [String.length_append] at lengths
    have suffix : "::text".length = 6 := rfl
    omega

end Dialect

/-- The condition as it stands behind a statement, if there is one. -/
def whereText : Option String → String
  | none => ""
  | some condition => " WHERE " ++ condition

/-- The statement that reads columns of a table, each as it is written, under a condition. -/
def rowsText (write : Column → String) (d : Dialect) (t : Table) (columns : List Column)
    (condition? : Option String) : String :=
  "SELECT " ++ TablePlan.commaSeparated (columns.map write) ++ " FROM " ++ d.quote t.name ++
    whereText condition?

def countText (d : Dialect) (t : Table) (condition? : Option String) : String :=
  countStatement d t ++ whereText condition?

namespace TablePlan

theorem selectStatement_eq (d : Dialect) (t : Table) :
    selectStatement d t = rowsText d.readColumn d t t.columns none :=
  (String.append_empty ..).symm

theorem Made.exists_excludingSql {d d' : Dialect} {source target : Table} {plan : TablePlan}
    (made : plan.Made d d' source target) (excluded : Nat) :
    ∃ condition?, plan.excludingSql d excluded =
      rowsText d.readColumn d source source.columns condition? := by
  unfold excludingSql
  split
  · exact ⟨none, made.select_eq.trans (selectStatement_eq d source)⟩
  · refine ⟨some (d.quote (identityName plan.source) ++ " NOT IN (" ++
      commaSeparated ((List.range excluded).map d.marker) ++ ")"), ?_⟩
    rw [made.select_eq]
    simp only [rowsText, whereText, selectStatement, String.append_assoc]
    rfl

end TablePlan

namespace Call

/-- The statement for rows that is sent, if there is one. -/
def rowsSql? : Call → Option String
  | query sql _ | stream sql _ _ => some sql
  | schemaRows | disableConstraints | enableConstraints | execute _ _ | close => none

/-- A call on a source: it asks for the schema, counts the rows of a table, or reads columns of one,
each by its expression. -/
inductive ByExpression (d : Dialect) (known : Table → Prop) (call : Call) : Prop
  | schema (same : call = .schemaRows)
  | count (t : Table) (here : known t) (condition? : Option String)
    (text : call.rowsSql? = some (countText d t condition?))
  | rows (t : Table) (here : known t) (columns : List Column) (some_of : columns.Sublist t.columns)
    (condition? : Option String)
    (text : call.rowsSql? = some (rowsText d.readColumn d t columns condition?))

theorem ByExpression.exists_start {d : Dialect} {known : Table → Prop} {call : Call} {sql : String}
    (by_expression : call.ByExpression d known) (text : call.rowsSql? = some sql) :
    ∃ t, known t ∧ ((countText d t none).toList <+: sql.toList ∨
      ∃ columns, columns.Sublist t.columns ∧
        (rowsText d.readColumn d t columns none).toList <+: sql.toList) := by
  have extends_none (front : String) (condition? : Option String) :
      (front ++ whereText none).toList <+: (front ++ whereText condition?).toList := by
    simp [whereText]
  cases by_expression with
  | schema same =>
    subst same
    cases text
  | count t here condition? text' =>
    cases text'.symm.trans text
    exact ⟨t, here, .inl (extends_none _ _)⟩
  | rows t here columns some_of condition? text' =>
    cases text'.symm.trans text
    exact ⟨t, here, .inr ⟨columns, some_of, extends_none _ _⟩⟩

/-- A call that reads the identity column of a table by its bare name, though its expression is
another one. -/
structure ByName (d : Dialect) (known : Table → Prop) (call : Call) (t : Table) (id : Column) :
    Prop where
  here : known t
  identity : t.identity? = some id
  text : ∃ condition, call.rowsSql? = some (rowsText d.nameColumn d t [id] (some condition))
  other : d.readColumn id ≠ d.nameColumn id

end Call

/-- The source describes the table. -/
def Sides.Known (sides : Sides σ τ) (s : RunState σ τ) (t : Table) : Prop :=
  ∃ schema, SchemaPair.described sides.source s.source = .ok schema ∧ t ∈ schema.tables

/-- Calls that count the rows of a table and those that read all of its columns have the
property. -/
structure Statements (P : Call → Prop) (d : Dialect) (t : Table) : Prop where
  count : ∀ parameters, P (.query (countStatement d t) parameters)
  rows : ∀ condition? parameters size,
    P (.stream (rowsText d.readColumn d t t.columns condition?) parameters size)

section Keeping

variable {P : Call → Prop} {sides : Sides σ τ}

private def Only (P : Call → Prop) (s : RunState (Recorded σ) (Recorded τ)) : Prop :=
  ∀ e ∈ s.source.calls, P e.call

private abbrev Adds (P : Call → Prop) (run : Run (Recorded σ) (Recorded τ) α) : Prop :=
  Run.Triple (Only P) run (fun _ => Only P) fun _ => Only P

private theorem only_silent :
    Run.Silent (Only P : RunState (Recorded σ) (Recorded τ) → Prop) := fun _ _ only => only

private theorem Only.concat {s : RunState (Recorded σ) (Recorded τ)} (only : Only P s) {call : Call}
    (sound : P call) (state : σ) (succeeded : Bool) :
    Only P { s with source := ⟨state, s.source.calls ++ [⟨call, succeeded⟩]⟩ } := by
  intro e member
  rcases List.mem_append.mp member with before | last
  · exact only e before
  · rwa [List.mem_singleton.mp last]

private theorem adds_source {call : Call} (request : Request σ α) (sound : P call) :
    Adds P (Run.onSource (Database.recording call request) : Run (Recorded σ) (Recorded τ) α) :=
  .of_state fun _ only => only.concat sound _ _

private theorem adds_target (request : Request (Recorded τ) α) :
    Adds P (Run.onTarget request : Run (Recorded σ) (Recorded τ) α) :=
  .of_state fun _ only => only

private theorem adds_outcome (outcome : Outcome α) :
    Adds P (Run.ofOutcome outcome : Run (Recorded σ) (Recorded τ) α) :=
  .ofOutcome (fun _ _ _ only => only) fun _ _ _ only => only

private theorem adds_attempt {run : Run (Recorded σ) (Recorded τ) α} (adds : Adds P run) :
    Adds P run.attempt :=
  .of_state fun _ only => adds.state only

private theorem adds_foldList {step : β → γ → Run (Recorded σ) (Recorded τ) β} {l : List γ}
    (each : ∀ b, ∀ a ∈ l, Adds P (step b a)) (b : β) : Adds P (Run.foldList step b l) :=
  Run.Triple.foldList each b

private theorem adds_mapList {step : γ → Run (Recorded σ) (Recorded τ) β} {l : List γ}
    (each : ∀ a ∈ l, Adds P (step a)) : Adds P (Run.mapList step l) := by
  have kept := Run.Triple.mapList (fun (_ : List β) a (member : a ∈ l) => each a member) []
  exact kept

private theorem keeps_fact {fact : Prop} (run : Run σ τ α) :
    Run.Triple (fun _ => fact) run (fun _ _ => fact) fun _ _ => True := by
  intro s holds
  split
  · exact holds
  · trivial

theorem SchemaPair.described_of_load {options : DiagnosticOptions} {s t : RunState σ τ}
    {pair : SchemaPair} (loaded : load sides options s = (.ok pair, t)) :
    described sides.source s.source = .ok pair.source := by
  have built : Run.Triple (· = s)
      ((build (Run.onSource sides.source.schemaRows) sides.source.dialect.flavor).within
        "failed to build source schema")
      (fun source _ => described sides.source s.source = .ok source) fun _ _ => True := by
    refine .within (Run.Triple.bind
      (Q := fun listed _ => (sides.source.schemaRows s.source).1 = .ok listed) ?_ fun listed => ?_)
    · refine .onSource ?_ fun _ _ _ _ => trivial
      rintro _ listed rfl answer
      exact answer
    · refine Run.Triple.bind (.ofOutcome ?_ fun _ _ _ _ => trivial) fun schema =>
        (keeps_fact _).bind fun _ => .pure fun _ known => known
      intro schema read _ answer
      rw [described, answer]
      exact read
  have loads : Run.Triple (· = s) (load sides options)
      (fun pair _ => described sides.source s.source = .ok pair.source) fun _ _ => True :=
    built.bind fun source => (keeps_fact _).bind fun target => (keeps_fact _).bind fun _ =>
      .pure fun _ known => known
  exact loads.success rfl (congrArg Prod.fst loaded)

private theorem only_of_load {options : DiagnosticOptions} (s : RunState σ τ)
    {rest : SchemaPair → Run (Recorded σ) (Recorded τ) α} (schema : P .schemaRows)
    (each : ∀ pair, SchemaPair.described sides.source s.source = .ok pair.source →
      Adds P (rest pair)) :
    Only P ((SchemaPair.load sides.recorded options >>= rest) s.recorded).2 := by
  have builds {rows : Run (Recorded σ) (Recorded τ) (List SchemaRow)} (flavor : Flavor)
      (label : String) (asks : Adds P rows) :
      Adds P ((SchemaPair.build rows flavor).within label) := by
    refine .within (asks.bind fun listed => (adds_outcome _).bind fun schema => ?_)
    exact (Run.Triple.log only_silent _ _).bind fun _ => .pure fun _ only => only
  have dumps (pair : SchemaPair) : Adds P (SchemaPair.dump options pair :
      Run (Recorded σ) (Recorded τ) Unit) := by
    refine .ite (fun _ => ?_) fun _ => .pure fun _ only => only
    refine (Run.Triple.report only_silent _).bind fun _ => ?_
    exact .ite (fun _ => .throw fun _ only => only) fun _ => .pure fun _ only => only
  have loads : Adds P (SchemaPair.load sides.recorded options) :=
    (builds _ _ (adds_source _ schema)).bind fun source =>
      (builds _ _ (adds_target _)).bind fun target => (dumps _).bind fun _ =>
        .pure fun _ only => only
  have started : Only P s.recorded := List.forall_mem_nil _
  rw [Run.bind_apply]
  have loaded := loads _ started
  cases ended : SchemaPair.load sides.recorded options s.recorded with
  | mk outcome t =>
    rw [ended] at loaded
    cases outcome with
    | error failure => exact loaded
    | ok pair =>
      have described := SchemaPair.described_of_load ended
      exact (each pair described).state loaded

namespace Migration

variable {options : Options}

private theorem adds_migrateTable (source target : Table)
    (sound : Statements P sides.source.dialect source) :
    Adds P (migrateTable sides.recorded options source target) := by
  -- Statements are told apart by what they are for; those on the destination do not matter.
  let talk : RowFlow.Talk := ⟨fun sql => ∀ parameters, P (.query sql parameters),
    fun sql => ∀ parameters size, P (.stream sql parameters size), fun _ => True, fun _ => True⟩
  have keeps : RowFlow.Keeps (Only P) talk sides.recorded := {
    reports := fun _ _ only => only
    source_query := fun _ _ parameters counted only => only.concat (counted parameters) _ _
    stream := fun _ _ parameters size streamed only => only.concat (streamed parameters size) _ _
    target_query := fun _ _ _ _ only => only
    execute := fun _ _ _ _ only => only }
  refine .of_state fun s only =>
    keeps.migrateTable source target (fun _ => trivial) (fun plan made => ?_) only
  have planned := TablePlan.make_ok made
  constructor
  case count =>
    rw [planned.source_eq]
    exact sound.count
  case select =>
    rw [planned.select_eq, TablePlan.selectStatement_eq]
    exact sound.rows none
  case excluding =>
    intro excluded
    obtain ⟨condition?, text⟩ := planned.exists_excludingSql excluded
    rw [text]
    exact sound.rows condition?
  all_goals trivial

variable (sides options) in
private theorem only_run (s : RunState σ τ) (schema : P .schemaRows)
    (sound : ∀ t, sides.Known s t → Statements P sides.source.dialect t) :
    Only P (run sides.recorded options s.recorded).2 := by
  refine only_of_load s schema fun pair described => ?_
  have migrates : Adds P (migrateTables sides.recorded options pair) := by
    refine adds_mapList fun t member => ?_
    refine (adds_outcome _).bind fun target => ?_
    exact adds_migrateTable t target (sound t ⟨pair.source, described, member⟩)
  have suspends : Adds P (suspendConstraints sides.recorded) := by
    refine (Run.Triple.notify only_silent _).bind fun _ => ?_
    exact (Run.Triple.within (adds_target _)).bind fun _ => .notify only_silent _
  have restores : Adds P (restoreConstraints sides.recorded) := by
    refine (Run.Triple.notify only_silent _).bind fun _ => ?_
    refine (adds_attempt (adds_target _)).bind fun answer => ?_
    cases answer with
    | ok _ => exact .notify only_silent _
    | error failure =>
      exact (Run.Triple.log only_silent _ _).bind fun _ => .notify only_silent _
  refine suspends.bind fun _ => (adds_attempt migrates).bind fun outcome => ?_
  refine restores.bind fun _ => (adds_outcome outcome).bind fun tables => ?_
  exact (Run.Triple.log only_silent _ _).bind fun _ => .pure fun _ only => only

end Migration

namespace Verification

variable {options : Options}

private theorem adds_verifyTable (source target : Table)
    (sound : Statements P sides.source.dialect source) :
    Adds P (verifyTable sides.recorded options source target) := by
  refine Run.Triple.bind (Q := fun plan s =>
    (TablePlan.make sides.source.dialect sides.target.dialect source target).1 = .ok plan ∧
      Only P s) ?_ fun plan => .given fun made => ?_
  · exact .reported only_silent (fun plan made _ only => ⟨made, only⟩) fun _ _ _ only => only
  have planned := TablePlan.make_ok made
  have opens : Adds P (RowFlow.openStream sides.recorded options plan.selectSql []) := by
    refine (Run.Triple.logSql only_silent _ _).bind fun _ => ?_
    have read := sound.rows none [] options.migration.readBatchSize
    rw [← TablePlan.selectStatement_eq, ← planned.select_eq] at read
    exact .of_state fun _ only => only.concat read _ _
  have probes (row : Row) : Adds P (RowFlow.probe sides.recorded plan options.diagnostics row) := by
    refine (Run.Triple.logRow only_silent _ _ _).bind fun _ => ?_
    exact (Run.Triple.within (adds_target _)).bind fun rows => adds_outcome _
  have scans : Adds P (scan sides.recorded options plan) := by
    refine opens.bind fun stream => (Run.Triple.logSql only_silent _ _).bind fun _ => ?_
    refine (adds_foldList (fun missing row _ => ?_) _).bind fun missing => ?_
    · refine (probes _).bind fun present => ?_
      exact .ite (fun _ => .pure fun _ only => only) fun _ => .pure fun _ only => only
    · exact (Run.Triple.within (adds_outcome _)).bind fun count => .pure fun _ only => only
  refine scans.bind fun read => Run.Triple.bind (Q := fun _ => Only P) ?_ fun _ =>
    .pure fun _ only => only
  unfold warnOverLimit
  split
  · exact .pure fun _ only => only
  · exact .ite (fun _ => .log only_silent _ _) fun _ => .pure fun _ only => only

variable (sides options) in
private theorem only_run (s : RunState σ τ) (schema : P .schemaRows)
    (sound : ∀ t, sides.Known s t → Statements P sides.source.dialect t) :
    Only P (run sides.recorded options s.recorded).2 := by
  refine only_of_load s schema fun pair described => ?_
  refine (adds_mapList fun t member => ?_).bind fun tables =>
    (Run.Triple.log only_silent _ _).bind fun _ => .pure fun _ only => only
  refine (adds_outcome _).bind fun target => (Run.Triple.notify only_silent _).bind fun _ => ?_
  have verifies : Adds P (verifyTable sides.recorded options t target) :=
    adds_verifyTable t target (sound t ⟨pair.source, described, member⟩)
  refine (adds_attempt verifies).bind fun outcome => ?_
  cases outcome with
  | ok missing => exact (Run.Triple.notify only_silent _).bind fun _ => .pure fun _ only => only
  | error failure =>
    refine (Run.Triple.log only_silent _ _).bind fun _ => ?_
    exact (Run.Triple.notify only_silent _).bind fun _ => .pure fun _ only => only

end Verification

end Keeping

namespace Validation

theorem countingStatement_eq (d : Dialect) (t : Table) (condition : String) :
    countingStatement d t condition = countText d t (some condition) :=
  String.append_assoc ..

theorem idsStatement_eq (d : Dialect) (t : Table) (id : Column) (condition : String) :
    idsStatement d t id condition = rowsText d.nameColumn d t [id] (some condition) := by
  have single : TablePlan.commaSeparated [d.quote id.name] = d.quote id.name := rfl
  simp only [rowsText, whereText, List.map_cons, List.map_nil, Dialect.nameColumn, single,
    ← String.append_assoc]
  rfl

theorem statement?_eq_some {d : Dialect} {target : Schema} {source : Table} {sql : String}
    (stated : statement? d target source = some sql) :
    (∃ condition, sql = countText d source (some condition)) ∨ ∃ id condition,
      source.identity? = some id ∧ sql = rowsText d.nameColumn d source [id] (some condition) := by
  unfold statement? at stated
  split at stated
  · cases stated
  · split at stated
    · cases stated
    · cases stated
    · dsimp only at stated
      split at stated
      · rename_i id identity _
        cases stated
        exact .inr ⟨id, _, identity, idsStatement_eq ..⟩
      · cases stated
        exact .inl ⟨_, countingStatement_eq ..⟩

variable (sides : Sides σ τ) (options : Options)

/-- The calls of a validation, by what they read. -/
theorem calls_read (s : RunState σ τ) :
    ∀ e ∈ (run sides.recorded options s.recorded).2.source.calls,
      e.call.ByExpression sides.source.dialect (sides.Known s) ∨
        ∃ t id, e.call.ByName sides.source.dialect (sides.Known s) t id := by
  intro e member
  have asks := (run_asks sides options s).source
  have asked := List.mem_map_of_mem (f := Exchange.call) member
  dsimp only at asks
  cases loaded : SchemaPair.load sides options.diagnostics s with
  | mk outcome t =>
    rw [loaded] at asks
    cases outcome with
    | error failure =>
      rw [asks] at asked
      exact .inl (.schema (List.mem_singleton.mp asked))
    | ok pair =>
      obtain ⟨tables, front, -, calls⟩ := asks
      rw [calls] at asked
      rcases List.mem_cons.mp asked with schema | sent
      · exact .inl (.schema schema)
      obtain ⟨sql, stated, call⟩ := List.mem_map.mp sent
      obtain ⟨t, here, stated⟩ := List.mem_filterMap.mp stated
      have known : sides.Known s t :=
        ⟨pair.source, SchemaPair.described_of_load loaded, front.subset here⟩
      have text : e.call.rowsSql? = some sql := by
        rw [← call]
        rfl
      rcases statement?_eq_some stated with ⟨condition, rfl⟩ | ⟨id, condition, identity, rfl⟩
      · exact .inl (.count t known _ text)
      · by_cases same : sides.source.dialect.readColumn id = sides.source.dialect.nameColumn id
        · have among : id ∈ t.columns := List.mem_of_find?_eq_some identity
          refine .inl (.rows t known [id] (List.singleton_sublist.mpr among) (some condition) ?_)
          rwa [rowsText, List.map_singleton, same]
        · exact .inr ⟨t, id, known, identity, ⟨condition, text⟩, same⟩

end Validation

/-- Whatever the databases answer, migrations and verifications read every source column by its
expression. Validations do so too, except that they read identity columns by their bare names where
the expression is another one; with a PostgreSQL source that is where the type of an identity column
has no decoding. -/
theorem source_columns_read (sides : Sides σ τ) (options : Options) (s : RunState σ τ) :
    (∀ e ∈ (Migration.run sides.recorded options s.recorded).2.source.calls,
      e.call.ByExpression sides.source.dialect (sides.Known s)) ∧
    (∀ e ∈ (Verification.run sides.recorded options s.recorded).2.source.calls,
      e.call.ByExpression sides.source.dialect (sides.Known s)) ∧
    (∀ e ∈ (Validation.run sides.recorded options s.recorded).2.source.calls,
      e.call.ByExpression sides.source.dialect (sides.Known s) ∨
        ∃ t id, e.call.ByName sides.source.dialect (sides.Known s) t id ∧
          (sides.source.dialect = .postgres →
            Dialect.decodedTypes.contains (Text.asciiLower id.dataType) = false)) := by
  have sound (t : Table) (known : sides.Known s t) :
      Statements (Call.ByExpression sides.source.dialect (sides.Known s)) sides.source.dialect t :=
    ⟨fun parameters => .count t known none (congrArg some (String.append_empty ..).symm),
      fun condition? _ _ => .rows t known _ (List.Sublist.refl _) condition? rfl⟩
  refine ⟨Migration.only_run sides options s (.schema rfl) sound,
    Verification.only_run sides options s (.schema rfl) sound, fun e member => ?_⟩
  refine (Validation.calls_read sides options s e member).imp_right ?_
  rintro ⟨t, id, by_name⟩
  refine ⟨t, id, by_name, fun postgres => Bool.eq_false_iff.mpr fun decoded => by_name.other ?_⟩
  rw [postgres]
  exact (Dialect.readColumn_postgres_iff id).mpr decoded

/-- A source with people whose identities have a type without a decoding. -/
private def caseless : PostgresServer where
  answer := fun sql =>
    let cell (text : String) : Option Bytes := some (Utf8.encode text)
    if sql == PostgresSession.schemaQuery then
      { parameters := [.name, .name, .other "_text"]
        columns := [⟨"table_name", .text⟩, ⟨"column_name", .text⟩, ⟨"data_type", .text⟩,
          ⟨"character_maximum_length", .int8⟩]
        rows := [[cell "people", cell "id", cell "USER-DEFINED", none],
          [cell "people", cell "name", cell "character varying", some [0, 0, 0, 0, 0, 0, 0, 20]]] }
    else if sql == "SELECT \"id\"::text, \"name\" FROM \"people\"" then
      { columns := [⟨"id", .text⟩, ⟨"name", .varchar⟩], rows := [[cell "a", cell "Bartholomew"]] }
    else { columns := [⟨"id", .other "citext"⟩], rows := [[cell "a"]] }

private def caselessPeople : RunState PostgresSession MemoryStore where
  source := { server := caseless }
  target := { tables := [⟨"people", [⟨"id", "text", none⟩, ⟨"name", "varchar", some 10⟩],
    [[.text "a", .text "Bartholomew"]]⟩] }

private def caselessSides : Sides PostgresSession MemoryStore :=
  ⟨PostgresSession.toDatabase, MemoryStore.database {}⟩

/-- A verification reads the people and finds them all; a validation asks for their identities by
name and cannot decode the answer. -/
theorem bare_identity_unreadable :
    (Verification.run caselessSides {} caselessPeople).1 = .ok ⟨[⟨"people", {}, none⟩]⟩ ∧
    let ran := Validation.run caselessSides.recorded {} caselessPeople.recorded
    ran.1 = .error (.context "failed getting incompatible row ids" (.value
      "column id has type citext without a binary decoding; select it as text")) ∧
    ∃ e ∈ ran.2.source.calls,
      ¬ e.call.ByExpression .postgres (caselessSides.Known caselessPeople) := by
  refine ⟨by decide +kernel, by decide +kernel, ?_⟩
  let people : Table := ⟨"people", [⟨"id", "USER-DEFINED", 0⟩, ⟨"name", "character varying", 20⟩]⟩
  let sql := "SELECT \"id\" FROM \"people\" WHERE LENGTH(\"name\") > 10"
  have described : SchemaPair.described caselessSides.source caselessPeople.source =
      .ok ⟨[people]⟩ := by decide +kernel
  have texts : (Validation.run caselessSides.recorded {} caselessPeople.recorded).2.source.calls.map
      (·.call.rowsSql?) = [none, some sql] := by decide +kernel
  have counts : ¬ (countText .postgres people none).toList <+: sql.toList := by decide +kernel
  have reads : ∀ columns ∈ people.columns.sublists,
      ¬ (rowsText Dialect.postgres.readColumn .postgres people columns none).toList <+:
        sql.toList := by decide +kernel
  have sent : some sql ∈ (Validation.run caselessSides.recorded {}
      caselessPeople.recorded).2.source.calls.map (·.call.rowsSql?) := by simp [texts]
  obtain ⟨e, member, text⟩ := List.mem_map.mp sent
  refine ⟨e, member, fun by_expression => ?_⟩
  obtain ⟨t, ⟨schema, described', here⟩, starts⟩ := by_expression.exists_start text
  cases described.symm.trans described'
  cases List.mem_singleton.mp here
  rcases starts with counted | ⟨columns, some_of, read⟩
  · exact counts counted
  · exact reads columns (List.mem_sublists.mpr some_of) read

end RowSync
