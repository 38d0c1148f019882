import RowSync.Database.Scripted
import RowSync.Sync.Migration
import RowSync.Proofs.Sync.Refusal

/-!
What the filter of the identity strategy selects on a server. A comparison with NULL is neither
true nor false there, so the filter is a matter of three truth values, and a single NULL among the
identities of the destination keeps every source row out.
-/

set_option autoImplicit false

namespace RowSync

/-- A truth value of a condition on a server; nothing is the truth of a comparison with NULL. -/
abbrev Truth := Option Bool

namespace Truth

/-- A disjunction holds when a side of it holds, and fails when both fail. -/
def either : Truth → Truth → Truth
  | some true, _ => some true
  | _, some true => some true
  | some false, some false => some false
  | _, _ => none

def negated (t : Truth) : Truth := t.map (!·)

theorem either_eq_false_iff {s t : Truth} :
    s.either t = some false ↔ s = some false ∧ t = some false := by
  rcases s with _ | _ | _ <;> rcases t with _ | _ | _ <;> decide

theorem negated_eq_true_iff {t : Truth} : t.negated = some true ↔ t = some false := by
  rcases t with _ | _ | _ <;> decide

end Truth

namespace Value

/-- The comparison of two values with `=`, where `same` compares those that are not NULL. -/
def equals (same : Value → Value → Bool) (v w : Value) : Truth :=
  if v.isNull || w.isNull then none else some (same v w)

/-- The condition `v IN (…)`: a disjunction of comparisons. -/
def isIn (same : Value → Value → Bool) (v : Value) : List Value → Truth
  | [] => some false
  | w :: ws => (v.equals same w).either (isIn same v ws)

variable {same : Value → Value → Bool} {v : Value}

theorem equals_eq_false_iff {w : Value} :
    v.equals same w = some false ↔ v.isNull = false ∧ w.isNull = false ∧ same v w = false := by
  cases left : v.isNull <;> cases right : w.isNull <;> simp [equals, left, right]

theorem isIn_eq_false_iff {ws : List Value} :
    v.isIn same ws = some false ↔ ∀ w ∈ ws, v.equals same w = some false := by
  induction ws with
  | nil => simp [isIn]
  | cons w ws ih => rw [isIn, Truth.either_eq_false_iff, ih, List.forall_mem_cons]

end Value

/-- A read of a table, the rows left out whose identity is among values, if there are any. -/
structure IdentityRead where
  table : Table
  excluded : List Value

namespace IdentityRead

/-- The statement, with a parameter for each value. -/
def text (read : IdentityRead) (db : Dialect) : String :=
  if read.excluded.isEmpty then TablePlan.selectStatement db read.table
  else
    TablePlan.selectStatement db read.table ++ " WHERE " ++
      db.quote (TablePlan.identityName read.table) ++ " NOT IN (" ++
      TablePlan.commaSeparated ((List.range read.excluded.length).map db.marker) ++ ")"

def cell? (table : Table) (name : String) (row : Row) : Option Value :=
  (table.columns.findIdx? (·.name == name)).bind (row[·]?)

/-- A server selects the rows of which the condition is true. -/
def selects (read : IdentityRead) (same : Value → Value → Bool) (row : Row) : Bool :=
  read.excluded.isEmpty ||
    match cell? read.table (TablePlan.identityName read.table) row with
    | some id => (id.isIn same read.excluded).negated == some true
    | none => false

/-- What the identity strategy sends to the source, the identities of the destination known. -/
def ofExisting (options : MigrationOptions) (table : Table) (existing : List Value) :
    IdentityRead :=
  ⟨table, if Migration.filtersSource options existing then existing else []⟩

/-- The first column that identifies rows is the first of its exact name, which decides the key. -/
theorem findIdx?_name {columns : List Column} {c : Column}
    (found : columns.find? (·.isIdentity) = some c) :
    columns.findIdx? (·.name == c.name) = columns.findIdx? (·.isIdentity) := by
  induction columns with
  | nil => cases found
  | cons d columns ih =>
    rw [List.findIdx?_cons, List.findIdx?_cons]
    cases identity : d.isIdentity with
    | true =>
      rw [List.find?_cons, identity] at found
      cases found
      rw [beq_self_eq_true]
      rfl
    | false =>
      rw [List.find?_cons, identity] at found
      have other : (d.name == c.name) = false := by
        rw [beq_eq_false_iff_ne]
        intro spelled
        have key : c.isIdentity = true := List.find?_some found
        rw [Column.isIdentity, Column.key, ← spelled] at key
        exact absurd (identity.symm.trans key) (by decide)
      rw [other, ih found]

theorem cell?_identityName {table : Table} {index : Nat} {row : Row}
    (identified : table.identityIndex? = some index) :
    cell? table (TablePlan.identityName table) row = row[index]? := by
  rw [Table.identityIndex?] at identified
  cases found : table.columns.find? (·.isIdentity) with
  | none =>
    have absent : table.columns.findIdx? (·.isIdentity) = none := by
      apply List.findIdx?_eq_none_iff.mpr
      intro c mem
      simpa using List.find?_eq_none.mp found c mem
    rw [absent] at identified
    cases identified
  | some c =>
    have name : TablePlan.identityName table = c.name := by
      rw [TablePlan.identityName, Table.identity?, found]
    rw [cell?, name, findIdx?_name found, identified]
    rfl

/-- With some identities in the filter, a row is selected when its own is a value that differs from
all of them, which are values too. -/
theorem selects_iff {read : IdentityRead} {same : Value → Value → Bool} {index : Nat} {row : Row}
    {id : Value} (identified : read.table.identityIndex? = some index)
    (cell : row[index]? = some id) :
    read.selects same row = true ↔ read.excluded = [] ∨
      ∀ v ∈ read.excluded, id.isNull = false ∧ v.isNull = false ∧ same id v = false := by
  rw [selects, cell?_identityName identified, cell, Bool.or_eq_true, List.isEmpty_iff,
    beq_iff_eq, Truth.negated_eq_true_iff, Value.isIn_eq_false_iff]
  simp only [Value.equals_eq_false_iff]

end IdentityRead

namespace Migration

variable {σ τ : Type}

theorem sourceStatement_eq {sides : Sides σ τ} {options : MigrationOptions} {plan : TablePlan}
    {source target : Table}
    (made : TablePlan.Made sides.source.dialect sides.target.dialect source target plan)
    (existing : List Value) :
    sourceStatement sides options plan existing =
      ((IdentityRead.ofExisting options source existing).text sides.source.dialect,
        (IdentityRead.ofExisting options source existing).excluded) := by
  cases filtering : filtersSource options existing with
  | false =>
    simp only [sourceStatement, IdentityRead.ofExisting, IdentityRead.text, filtering,
      Bool.false_eq_true, if_false, List.isEmpty_nil, if_true, made.select_eq]
  | true =>
    have some_id : existing.isEmpty = false := by
      rw [filtersSource, Bool.and_eq_true, Bool.not_eq_true'] at filtering
      exact filtering.1
    have count : (existing.length == 0) = false := by
      simpa using some_id
    simp only [sourceStatement, IdentityRead.ofExisting, IdentityRead.text, filtering, if_true,
      some_id, TablePlan.excludingSql, count, Bool.false_eq_true, if_false, made.select_eq,
      made.source_eq]

/-- Once the destination has told its identities, the identity strategy copies the rows of one read
of the source, whatever the source's answer is. -/
theorem copyByIdentity_apply {sides : Sides σ τ} {options : Options} {plan : TablePlan}
    {source target : Table}
    (made : TablePlan.Made sides.source.dialect sides.target.dialect source target plan)
    {s : RunState σ τ} {rows : List Row} {t : τ}
    (answered : sides.target.query (plan.targetIdsSql sides.target.dialect) [] s.target =
      (.ok rows, t)) :
    ∃ journal, copyByIdentity sides options plan s =
      let read := IdentityRead.ofExisting options.migration source (firstCells rows)
      copyRows sides options plan false (read.text sides.source.dialect) read.excluded
        { s with target := t, journal } := by
  obtain ⟨journal, logged⟩ := Run.logSql_apply options.diagnostics
    (plan.targetIdsSql sides.target.dialect) s
  have asked : ((Run.onTarget (sides.target.query (plan.targetIdsSql sides.target.dialect) [])).within
      "failed to select id from rows" : Run σ τ (List Row)) { s with journal } =
      (.ok rows, { s with target := t, journal }) := by
    simp only [Run.within, Run.onTarget, answered]
    rfl
  unfold copyByIdentity
  simp only [Run.bind_apply, logged, asked, sourceStatement_eq made]
  split
  · exact ⟨_, rfl⟩
  · exact ⟨journal, rfl⟩

/-- The identity strategy reads a source row exactly when no filter is sent, or when its identity
and all those of the destination are values and it differs from them. -/
theorem copyByIdentity_selects {sides : Sides σ τ} (options : Options) {plan : TablePlan}
    {source target : Table}
    (made : (TablePlan.make sides.source.dialect sides.target.dialect source target).1 = .ok plan)
    {index : Nat} (identified : source.identityIndex? = some index) {s : RunState σ τ}
    {rows : List Row} {t : τ}
    (answered : sides.target.query (plan.targetIdsSql sides.target.dialect) [] s.target =
      (.ok rows, t)) (same : Value → Value → Bool) :
    let read := IdentityRead.ofExisting options.migration source (firstCells rows)
    (∃ journal, copyByIdentity sides options plan s =
      copyRows sides options plan false (read.text sides.source.dialect) read.excluded
        { s with target := t, journal }) ∧
    ∀ (row : Row) (id : Value), row[index]? = some id →
      (read.selects same row = true ↔
        filtersSource options.migration (firstCells rows) = false ∨
        ∀ v ∈ firstCells rows, id.isNull = false ∧ v.isNull = false ∧ same id v = false) := by
  refine ⟨copyByIdentity_apply (TablePlan.make_ok made) answered, fun row id cell => ?_⟩
  rw [IdentityRead.selects_iff identified cell]
  cases filtering : filtersSource options.migration (firstCells rows) with
  | false => simp [IdentityRead.ofExisting, filtering]
  | true =>
    have some_id : firstCells rows ≠ [] := by
      rw [filtersSource, Bool.and_eq_true, Bool.not_eq_true', List.isEmpty_eq_false_iff] at filtering
      exact filtering.1
    simp [IdentityRead.ofExisting, filtering, some_id]

private def users : Table := ⟨"users", [⟨"id", "bigint", 0⟩]⟩

private def usersPlan : TablePlan where
  source := users
  target := users
  targetColumns := users.columns
  selectSql := TablePlan.selectStatement .postgres users
  existsSql := TablePlan.existsStatement (.mysql true) users (users.columns.zip users.columns)
  insertSql := TablePlan.insertStatement (.mysql true) users (users.columns.zip users.columns)

private def oneAndNull : List Value := [.int64 1, .null]

private def servers : Sides Script Script where
  source := Script.database
    { dialect := .postgres, schema := .ok [⟨"users", "id", "bigint", none⟩] }
  target := Script.database
    { dialect := .mysql true, schema := .ok [⟨"users", "id", "bigint", none⟩] }

private def selectedRows : List Row :=
  [[.int64 2]].filter (IdentityRead.selects ⟨users, oneAndNull⟩ Value.nullSafeEq)

private def beforeCopy : RunState Script Script where
  source := { replies := [{ rows := selectedRows }] }
  target := { replies := [{ rows := oneAndNull.map fun id => [id] }] }

theorem copyByIdentity_selects_of_users :
    let read := IdentityRead.ofExisting {} users oneAndNull
    (∃ t journal, copyByIdentity servers {} usersPlan beforeCopy =
      copyRows servers {} usersPlan false (read.text .postgres) read.excluded
        { beforeCopy with target := t, journal }) ∧
    ∀ (row : Row) (id : Value), row[0]? = some id →
      (read.selects Value.nullSafeEq row = true ↔ filtersSource {} oneAndNull = false ∨
        ∀ v ∈ oneAndNull, id.isNull = false ∧ v.isNull = false ∧ id.nullSafeEq v = false) := by
  have made : (TablePlan.make servers.source.dialect servers.target.dialect users users).1 =
      .ok usersPlan := by decide +kernel
  have answered : servers.target.query (usersPlan.targetIdsSql servers.target.dialect) []
      beforeCopy.target = (.ok (oneAndNull.map fun id => [id]), _) := rfl
  have identified : users.identityIndex? = some 0 := by decide +kernel
  obtain ⟨copied, selected⟩ :=
    copyByIdentity_selects {} made identified answered Value.nullSafeEq
  exact ⟨⟨_, copied⟩, selected⟩

/-- With NULL among the identities of the destination the run succeeds, and the row of two, which
the destination lacks, is not read. -/
theorem new_row_left_out :
    (run servers {} beforeCopy).1 = .ok ⟨[⟨"users", .identity, {}⟩]⟩ ∧
    (run servers {} beforeCopy).2.source.calls =
      #[.stream (IdentityRead.text ⟨users, oneAndNull⟩ .postgres) oneAndNull] ∧
    (Value.int64 2).isNull = false ∧
    (∀ v ∈ oneAndNull, (Value.int64 2).equals Value.nullSafeEq v ≠ some true) ∧
    IdentityRead.selects ⟨users, oneAndNull⟩ Value.nullSafeEq [.int64 2] = false := by
  decide +kernel

end Migration

end RowSync
