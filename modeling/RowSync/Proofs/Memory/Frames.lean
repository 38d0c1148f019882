import RowSync.Proofs.Memory.Tables
import RowSync.Proofs.Text.LowerCase
import RowSync.Proofs.Text.Splitting

/-!
What a statement leaves alone in a store that nothing is known of, and the kinds of failures that
statements have. Tables of one name in any case are kept apart from all others, since the order of
names in lower case bounds the table that an insert can reach.
-/

set_option autoImplicit false

namespace RowSync.MemoryStore

section Faults

variable {α β : Type}

private def ValueFaults (outcome : Outcome α) : Prop :=
  ∀ failure, outcome = .error failure → ∃ message, failure = .value message

private theorem ValueFaults.ok (a : α) : ValueFaults (.ok a) := fun _ equal => by cases equal

private theorem ValueFaults.unsupported (sql : String) :
    ValueFaults (.error (unsupported sql) : Outcome α) := by
  intro failure equal
  cases equal
  exact ⟨_, rfl⟩

private theorem ValueFaults.bind {outcome : Outcome α} {next : α → Outcome β}
    (first : ValueFaults outcome) (rest : ∀ a, ValueFaults (next a)) :
    ValueFaults (outcome >>= next) := by
  intro failure equal
  cases outcome with
  | error failure' =>
    cases equal
    exact first _ rfl
  | ok a => exact rest a failure equal

private theorem ValueFaults.map {outcome : Outcome α} (faults : ValueFaults outcome) (f : α → β) :
    ValueFaults (outcome.map f) := by
  intro failure equal
  cases outcome with
  | error failure' =>
    cases equal
    exact faults _ rfl
  | ok a => cases equal

private theorem ValueFaults.mapM {f : α → Outcome β} (each : ∀ a, ValueFaults (f a))
    (l : List α) : ValueFaults (l.mapM f) := by
  induction l with
  | nil => exact .ok []
  | cons a l ih =>
    rw [List.mapM_cons]
    exact (each a).bind fun b => ih.bind fun bs => .ok _

private theorem valueFaults_table (s : MemoryStore) (name : String) :
    ValueFaults (s.table name) := by
  intro failure equal
  unfold table at equal
  split at equal
  · cases equal
  · cases equal
    exact ⟨_, rfl⟩

private theorem valueFaults_columnIndex (t : MemoryTable) (name : String) :
    ValueFaults (t.columnIndex name) := by
  intro failure equal
  unfold MemoryTable.columnIndex at equal
  split at equal
  · cases equal
  · cases equal
    exact ⟨_, rfl⟩

private theorem valueFaults_runExists (s : MemoryStore) (sql : String) (parameters : List Value) :
    ValueFaults (s.runExists sql parameters) := by
  unfold runExists
  split
  · split
    · refine (valueFaults_table s _).bind fun t => ?_
      refine ValueFaults.bind (.mapM (fun pair => ?_) _) fun wanted => .ok _
      unfold comparison
      split
      · exact .unsupported sql
      · exact (valueFaults_columnIndex t _).map _
    · exact .unsupported sql
  · exact .unsupported sql

private theorem valueFaults_filterRows (sql : String) (t : MemoryTable) (parameters : List Value)
    (filter : List Char) : ValueFaults (filterRows sql t parameters filter) := by
  unfold filterRows
  split
  · exact (valueFaults_columnIndex t _).map _
  · refine ValueFaults.bind (.mapM (fun part => ?_) _) fun limits => .ok _
    unfold lengthLimit
    split
    · exact .unsupported sql
    · split
      · exact .unsupported sql
      · exact (valueFaults_columnIndex t _).map _

private theorem valueFaults_runSelect (s : MemoryStore) (sql : String) (parameters : List Value) :
    ValueFaults (s.runSelect sql parameters) := by
  have answered (t : MemoryTable) (columns : List Char) (rows : List Row) :
      ValueFaults (if columns == "COUNT(*)".toList then .ok [[.int64 (Int64.ofNat rows.length)]]
        else do
          let indexes ← (Text.splitAll ", ".toList columns).mapM fun c =>
            t.columnIndex (String.ofList c)
          .ok (rows.map fun row => indexes.map (cell row))) := by
    split
    · exact .ok _
    · exact ValueFaults.bind (.mapM (fun c => valueFaults_columnIndex t _) _) fun _ => .ok _
  unfold runSelect
  split
  · split
    · rename_i columns rest _
      cases Text.splitOnce? " WHERE ".toList rest with
      | none =>
        refine (valueFaults_table s _).bind fun t => ?_
        exact (ValueFaults.ok t.rows).bind (answered t columns)
      | some parts =>
        refine (valueFaults_table s _).bind fun t => ?_
        exact (valueFaults_filterRows sql t parameters parts.2).bind (answered t columns)
    · exact .unsupported sql
  · exact .unsupported sql

theorem query_error {sql : String} {parameters : List Value} {s : MemoryStore} {failure : Failure}
    (failed : (query sql parameters s).1 = .error failure) :
    ∃ message, failure = .value message := by
  have faults : ValueFaults (query sql parameters s).1 := by
    change ValueFaults (if Text.startsWith sql "SELECT EXISTS " then _ else _)
    split
    · exact valueFaults_runExists s sql parameters
    · exact valueFaults_runSelect s sql parameters
  exact faults failure failed

end Faults

/-- The tables of a name in any case. -/
def tablesNamed (name : String) (tables : List MemoryTable) : List MemoryTable :=
  tables.filter fun t => Text.lower t.name == Text.lower name

def emptied (t : MemoryTable) : MemoryTable := { t with rows := [] }

section Shapes

variable {tables tables' : List MemoryTable} (same : tables'.map emptied = tables.map emptied)
include same

theorem exists_of_map_emptied {t : MemoryTable} (member : t ∈ tables') :
    ∃ u ∈ tables, u.name = t.name ∧ u.columns = t.columns := by
  obtain ⟨u, here, shape⟩ := List.mem_map.mp (same ▸ List.mem_map_of_mem (f := emptied) member)
  obtain ⟨name, columns, -⟩ := MemoryTable.mk.inj shape
  exact ⟨u, here, name, columns⟩

theorem map_key_of_map_emptied : tables'.map MemoryTable.key = tables.map MemoryTable.key := by
  have keys (l : List MemoryTable) : (l.map emptied).map MemoryTable.key = l.map MemoryTable.key :=
    List.map_map
  rw [← keys, same, keys]

theorem Named.of_map_emptied (named : Named tables) : Named tables' := by
  refine ⟨fun t member => ?_, by rw [map_key_of_map_emptied same]; exact named.names_distinct⟩
  obtain ⟨u, here, name, -⟩ := exists_of_map_emptied same member
  exact name ▸ named.names_plain u here

end Shapes

theorem map_emptied_putRows (name : String) (rows : List Row) (tables : List MemoryTable) :
    (putRows name rows tables).map emptied = tables.map emptied := by
  rw [putRows, List.map_map]
  refine List.map_congr_left fun t _ => ?_
  rw [Function.comp_apply]
  split
  · rfl
  · rfl

section Frames

variable {name changed : String} {tables : List MemoryTable} {f : MemoryTable → MemoryTable}
  {settings : MemorySettings} {s : MemoryStore} {sql : String} {parameters : List Value}

theorem tablesNamed_updateFirst_of_ne (other : Text.lower changed ≠ Text.lower name)
    (keeps : ∀ t, (f t).name = t.name) :
    tablesNamed name (updateFirst changed f tables) = tablesNamed name tables := by
  induction tables with
  | nil => rfl
  | cons t tables ih =>
    rw [updateFirst]
    split
    · rename_i same
      have apart : Text.lower t.name ≠ Text.lower name := by
        rwa [Text.lower_eq_of_sameAscii same]
      simp [tablesNamed, keeps, apart]
    · rw [tablesNamed, List.filter_cons, ← tablesNamed, ih, tablesNamed, tablesNamed,
        List.filter_cons]

theorem tablesNamed_updateFirst (same : Text.lower changed = Text.lower name)
    (keeps : ∀ t, (f t).name = t.name) :
    tablesNamed name (updateFirst changed f tables) =
      updateFirst changed f (tablesNamed name tables) := by
  induction tables with
  | nil => rfl
  | cons t tables ih =>
    rw [updateFirst]
    split
    · rename_i found
      have here : Text.lower t.name = Text.lower name :=
        (Text.lower_eq_of_sameAscii found).trans same
      simp [tablesNamed, keeps, here, updateFirst, found]
    · rename_i absent
      by_cases here : Text.lower t.name = Text.lower name
      · have head : tablesNamed name (t :: tables) = t :: tablesNamed name tables := by
          simp [tablesNamed, here]
        rw [head, updateFirst, if_neg absent, ← ih]
        simp [tablesNamed, here]
      · have head : tablesNamed name (t :: tables) = tablesNamed name tables := by
          simp [tablesNamed, here]
        rw [head, ← ih]
        simp [tablesNamed, here]

theorem updateFirst_congr {name' : String} (same : Text.sameAscii name name' = true) :
    updateFirst name f tables = updateFirst name' f tables := by
  rw [Text.sameAscii_iff] at same
  induction tables with
  | nil => rfl
  | cons t tables ih => rw [updateFirst, updateFirst, ih, Text.sameAscii, Text.sameAscii, same]

theorem table_ok {t : MemoryTable} (found : s.table name = .ok t) :
    t ∈ s.tables ∧ Text.sameAscii t.name name = true := by
  unfold table at found
  split at found
  · rename_i u search
    cases found
    exact ⟨List.mem_of_find?_eq_some search, by simpa using List.find?_some search⟩
  · cases found

theorem table_error {failure : Failure} (failed : s.table name = .error failure) :
    ∃ message, failure = .value message := valueFaults_table s name failure failed

theorem runInsert_ok {affected : Nat} {s' : MemoryStore}
    (ran : runInsert settings s sql parameters = .ok (affected, s')) :
    ∃ words part rest t row, sql.toList = "INSERT INTO ".toList ++ words ∧
      Text.splitOnce? " (".toList words = some (part, rest) ∧
      s.table (String.ofList part) = .ok t ∧
      s' = s.setRows (String.ofList part) (t.rows ++ [row]) := by
  unfold runInsert at ran
  cases simulated : simulatedFailure? settings parameters with
  | some failure =>
    rw [simulated] at ran
    cases ran
  | none =>
    rw [simulated] at ran
    cases read : Text.stripPrefix? "INSERT INTO ".toList sql.toList with
    | none =>
      rw [read] at ran
      cases ran
    | some words =>
      rw [read] at ran
      cases split : Text.splitOnce? " (".toList words with
      | none =>
        simp only [split] at ran
        cases ran
      | some parts =>
        obtain ⟨part, rest⟩ := parts
        simp only [split] at ran
        split at ran
        · cases known : s.table (String.ofList part) with
          | error failure =>
            rw [known] at ran
            cases ran
          | ok t =>
            rw [known] at ran
            refine ⟨words, part, rest, t, ?_⟩
            simp only [bind, Except.bind] at ran
            split at ran
            · cases ran
            · split at ran
              · cases ran
              · cases ran
                exact ⟨_, Text.stripPrefix?_eq_some_iff.mp read, split, known, rfl⟩
        · cases ran

/-- What stands in front of the first bracket of a statement is its table's name, or comes before
that name in the order of names in lower case. -/
private theorem lower_le_of_split {part rest rest' : List Char}
    (split : Text.splitOnce? " (".toList (name.toList ++ (" (".toList ++ rest)) =
      some (part, rest')) : Text.lower (String.ofList part) ≤ Text.lower name := by
  rcases Text.splitOnce?_known ' ' ['('] name.toList rest with
    known | ⟨before, more, rest'', whole, known⟩
  · cases split.symm.trans known
    rw [String.ofList_toList]
  · cases split.symm.trans known
    have before := Text.lower_le_of_blank part more
    rwa [← whole, String.ofList_toList] at before

theorem tablesNamed_execute_insert {rest : List Char}
    (words : sql.toList = "INSERT INTO ".toList ++ (changed.toList ++ (" (".toList ++ rest)))
    (behind : Text.lower changed < Text.lower name) :
    tablesNamed name (execute settings sql parameters s).2.tables =
      tablesNamed name s.tables := by
  have emptying : Text.stripPrefix? "TRUNCATE TABLE ".toList sql.toList = none := by
    rw [words]
    rfl
  rw [execute]
  simp only [emptying]
  cases ran : runInsert settings (s.remember sql) sql parameters with
  | error failure => rfl
  | ok result =>
    obtain ⟨affected, s'⟩ := result
    obtain ⟨words', part, rest', t, row, read, split, -, rfl⟩ := runInsert_ok ran
    obtain rfl := List.append_cancel_left (words.symm.trans read)
    have first := lower_le_of_split split
    exact tablesNamed_updateFirst_of_ne (ne_of_lt (lt_of_le_of_lt first behind)) fun _ => rfl

theorem execute_truncateStatement (resolution : Value.TimeResolution) :
    execute settings ((Dialect.plain resolution).truncateStatement changed) parameters s =
      match s.table changed with
      | .ok t => (.ok t.rows.length,
          (s.remember ((Dialect.plain resolution).truncateStatement changed)).setRows changed [])
      | .error failure =>
        (.error failure, s.remember ((Dialect.plain resolution).truncateStatement changed)) := by
  have words : ((Dialect.plain resolution).truncateStatement changed).toList =
      "TRUNCATE TABLE ".toList ++ changed.toList := by
    rw [Dialect.truncateStatement, String.toList_append]
    rfl
  rw [execute, words, Text.stripPrefix?_append]
  simp only [String.ofList_toList]
  rfl

theorem tablesNamed_execute_truncate (resolution : Value.TimeResolution)
    (other : Text.lower changed ≠ Text.lower name) :
    tablesNamed name (execute settings ((Dialect.plain resolution).truncateStatement changed)
      parameters s).2.tables = tablesNamed name s.tables := by
  rw [execute_truncateStatement]
  cases s.table changed with
  | error failure => rfl
  | ok t => exact tablesNamed_updateFirst_of_ne other fun _ => rfl

end Frames

end RowSync.MemoryStore
