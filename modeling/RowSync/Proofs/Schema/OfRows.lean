import Mathlib.Algebra.BigOperators.Group.List.Lemmas
import Mathlib.Algebra.GroupWithZero.Nat
import Mathlib.Data.List.Sort
import RowSync.Proofs.Schema.Readable

/-!
Which rows describe a database, and the schema that they make: one table for each name, with the
columns of its rows in their order, and nothing else. Rows are taken one after the other, and the
first that does not go with those in front of it is named in the failure.
-/

set_option autoImplicit false

namespace RowSync

namespace SchemaRow

def tableKey (r : SchemaRow) : String := Text.lower r.table

def columnKey (r : SchemaRow) : String := Text.lower r.column

/-- The column that the row describes; a bound that is not declared is zero. -/
def toColumn (r : SchemaRow) : Column := ⟨r.column, r.dataType, r.maxChars?.getD 0⟩

@[simp] theorem key_toColumn (r : SchemaRow) : r.toColumn.key = r.columnKey := rfl

end SchemaRow

namespace Schema

variable {front rows rows' : List SchemaRow} {row : SchemaRow} {s s' : Schema} {message : String}

/-- The rows describe the tables of one database. -/
structure Consistent (rows : List SchemaRow) : Prop where
  named : ∀ r ∈ rows, r.table ≠ "" ∧ r.column ≠ ""
  bounded : ∀ r ∈ rows, 0 ≤ r.toColumn.maxChars
  spelled : ∀ r ∈ rows, ∀ r' ∈ rows, r.tableKey = r'.tableKey → r.table = r'.table
  distinct : (rows.map fun r => (r.tableKey, r.columnKey)).Nodup

/-- Why a row does not go with those in front of it, the first reason before the others. -/
inductive Offends (front : List SchemaRow) (row : SchemaRow) : String → Prop
  | unnamed (empty : row.table = "" ∨ row.column = "") :
    Offends front row ("empty table or column name in row " ++ row.diagnostic)
  | negative (named : row.table ≠ "" ∧ row.column ≠ "") (below : row.toColumn.maxChars < 0) :
    Offends front row s!"negative bound {row.toColumn.maxChars} for {row.table}.{row.column}"
  | respelled (named : row.table ≠ "" ∧ row.column ≠ "") (bounded : 0 ≤ row.toColumn.maxChars)
    (earlier : SchemaRow) (member : earlier ∈ front) (same : earlier.tableKey = row.tableKey)
    (other : earlier.table ≠ row.table) :
    Offends front row s!"tables {earlier.table} and {row.table} differ only by case"
  | repeated (named : row.table ≠ "" ∧ row.column ≠ "") (bounded : 0 ≤ row.toColumn.maxChars)
    (spelled : ∀ r ∈ front, r.tableKey = row.tableKey → r.table = row.table)
    (earlier : SchemaRow) (member : earlier ∈ front) (table : earlier.table = row.table)
    (column : earlier.columnKey = row.columnKey) :
    Offends front row s!"duplicate column {row.column} in table {row.table}"

theorem Offends.not_consistent (offends : Offends front row message) :
    ¬ Consistent (front ++ [row]) := by
  intro consistent
  have last : row ∈ front ++ [row] := by simp
  cases offends with
  | unnamed empty => exact empty.elim (consistent.named row last).1 (consistent.named row last).2
  | negative _ below =>
    have bounded := consistent.bounded row last
    omega
  | respelled _ _ earlier member same other =>
    exact other (consistent.spelled earlier (by simp [member]) row last same)
  | repeated _ _ _ earlier member table column =>
    have distinct := consistent.distinct
    rw [List.map_append, List.nodup_append] at distinct
    have keys : (earlier.tableKey, earlier.columnKey) = (row.tableKey, row.columnKey) := by
      rw [SchemaRow.tableKey, table, column, SchemaRow.tableKey]
    exact distinct.2.2 _ (List.mem_map_of_mem member) _ (by simp) keys

theorem Consistent.concat (consistent : Consistent front)
    (sound : ∀ message, ¬ Offends front row message) : Consistent (front ++ [row]) := by
  have named : row.table ≠ "" ∧ row.column ≠ "" := by
    by_contra empty
    exact sound _ (.unnamed (by tauto))
  have bounded : 0 ≤ row.toColumn.maxChars := by
    by_contra below
    exact sound _ (.negative named (by omega))
  have spelled : ∀ r ∈ front, r.tableKey = row.tableKey → r.table = row.table := by
    intro r member same
    by_contra other
    exact sound _ (.respelled named bounded r member same other)
  constructor
  case named => simpa [or_imp, forall_and, named] using consistent.named
  case bounded => simpa [or_imp, forall_and, bounded] using consistent.bounded
  case spelled =>
    intro r member r' member' same
    simp only [List.mem_append, List.mem_singleton] at member member'
    rcases member with member | rfl <;> rcases member' with member' | rfl
    · exact consistent.spelled r member r' member' same
    · exact spelled r member same
    · exact (spelled r' member' same.symm).symm
    · rfl
  case distinct =>
    rw [List.map_append, List.nodup_append]
    refine ⟨consistent.distinct, by simp, ?_⟩
    rintro _ before _ last rfl
    obtain ⟨r, member, keys⟩ := List.mem_map.mp before
    simp only [List.map_cons, List.map_nil, List.mem_singleton] at last
    obtain ⟨table, column⟩ := Prod.mk.inj (keys.trans last)
    exact sound _ (.repeated named bounded spelled r member (spelled r member table) column)

theorem Consistent.of_append (consistent : Consistent (front ++ rows)) : Consistent front := by
  have within {r : SchemaRow} (member : r ∈ front) : r ∈ front ++ rows :=
    List.mem_append_left rows member
  constructor
  case named => exact fun r member => consistent.named r (within member)
  case bounded => exact fun r member => consistent.bounded r (within member)
  case spelled =>
    exact fun r member r' member' => consistent.spelled r (within member) r' (within member')
  case distinct =>
    have distinct := consistent.distinct
    rw [List.map_append, List.nodup_append] at distinct
    exact distinct.1

def columnsNamed (rows : List SchemaRow) (name : String) : List Column :=
  (rows.filter (·.table == name)).map SchemaRow.toColumn

theorem mem_columnsNamed {name : String} {c : Column} :
    c ∈ columnsNamed rows name ↔ ∃ r ∈ rows, r.table = name ∧ r.toColumn = c := by
  simp [columnsNamed, and_assoc]

theorem columnsNamed_ne_nil {name : String} :
    columnsNamed rows name ≠ [] ↔ ∃ r ∈ rows, r.table = name := by
  simp [columnsNamed, List.filter_eq_nil_iff]

theorem columnsNamed_concat (front : List SchemaRow) (row : SchemaRow) (name : String) :
    columnsNamed (front ++ [row]) name =
      columnsNamed front name ++ if row.table = name then [row.toColumn] else [] := by
  by_cases same : row.table = name <;> simp [columnsNamed, same]

theorem eq_of_mem_iff {tables tables' : List Table} (ordered : Ordered tables)
    (ordered' : Ordered tables') (same : ∀ t, t ∈ tables ↔ t ∈ tables') : tables = tables' := by
  have irrefl : Std.Irrefl fun t u : Table => t.key < u.key := ⟨fun t => lt_irrefl t.key⟩
  have antisymm : Std.Antisymm fun t u : Table => t.key < u.key :=
    ⟨fun t u before after => absurd (before.trans after) (lt_irrefl t.key)⟩
  exact List.Pairwise.eq_of_mem_iff ordered ordered' same

/-- The tables are those that the rows name, with the columns that the rows describe. -/
structure Represents (rows : List SchemaRow) (s : Schema) : Prop where
  ordered : Ordered s.tables
  mem_iff : ∀ t, t ∈ s.tables ↔ t.columns ≠ [] ∧ t.columns = columnsNamed rows t.name

namespace Represents

theorem nil : Represents [] {} := ⟨List.Pairwise.nil, fun t => by simp [columnsNamed]⟩

theorem exists_row (represents : Represents rows s) {t : Table} (member : t ∈ s.tables) :
    ∃ r ∈ rows, r.table = t.name := by
  obtain ⟨nonempty, columns⟩ := (represents.mem_iff t).mp member
  exact columnsNamed_ne_nil.mp (columns ▸ nonempty)

theorem table_of_row (represents : Represents rows s) {r : SchemaRow} (member : r ∈ rows) :
    ⟨r.table, columnsNamed rows r.table⟩ ∈ s.tables :=
  (represents.mem_iff _).mpr ⟨columnsNamed_ne_nil.mpr ⟨r, member, rfl⟩, rfl⟩

theorem tableFor (represents : Represents front s) (row : SchemaRow) :
    (∀ r ∈ front, r.tableKey = row.tableKey → r.table = row.table) ∧
      s.tableFor row = .ok ⟨row.table, columnsNamed front row.table⟩ ∨
    ∃ earlier ∈ front, earlier.tableKey = row.tableKey ∧ earlier.table ≠ row.table ∧
      s.tableFor row = .error (.schemaExtraction
        s!"tables {earlier.table} and {row.table} differ only by case") := by
  unfold Schema.tableFor
  cases search : s.find? (Text.lower row.table) with
  | none =>
    have absent : ∀ r ∈ front, r.tableKey ≠ row.tableKey := by
      intro r member same
      have found := (find?_eq_some_iff represents.ordered).mpr
        ⟨represents.table_of_row member, same⟩
      exact absurd (search.symm.trans found) (by simp)
    have empty : columnsNamed front row.table = [] := by
      by_contra nonempty
      obtain ⟨r, member, same⟩ := columnsNamed_ne_nil.mp nonempty
      exact absent r member (congrArg Text.lower same)
    rw [empty]
    exact .inl ⟨fun r member same => absurd same (absent r member), rfl⟩
  | some t =>
    obtain ⟨member, key⟩ := (find?_eq_some_iff represents.ordered).mp search
    obtain ⟨r, earlier, name⟩ := represents.exists_row member
    have spelled : ∀ r' ∈ front, r'.tableKey = row.tableKey → r'.table = t.name := by
      intro r' member' same
      have equal := eq_of_key_eq represents.ordered (represents.table_of_row member') member
        (same.trans key.symm)
      exact congrArg Table.name equal
    by_cases same : t.name = row.table
    · refine .inl ⟨fun r' member' keys => (spelled r' member' keys).trans same, ?_⟩
      obtain ⟨-, columns⟩ := (represents.mem_iff t).mp member
      simp only [same, beq_self_eq_true, if_true]
      rw [← same, ← columns]
    · refine .inr ⟨r, earlier, ?_, name ▸ same, ?_⟩
      · rw [SchemaRow.tableKey, name]
        exact key
      · simp only [beq_iff_eq, same, if_false, name]

theorem insert (represents : Represents front s)
    (spelled : ∀ r ∈ front, r.tableKey = row.tableKey → r.table = row.table) :
    Represents (front ++ [row])
      (s.insert ⟨row.table, columnsNamed front row.table ++ [row.toColumn]⟩) := by
  refine ⟨ordered_place represents.ordered, fun t => ?_⟩
  refine (mem_place represents.ordered).trans ?_
  rw [columnsNamed_concat]
  by_cases same : row.table = t.name
  · obtain ⟨name, columns⟩ := t
    subst same
    simp only [if_true]
    constructor
    · rintro (equal | ⟨-, apart⟩)
      · cases equal
        simp
      · exact absurd rfl apart
    · rintro ⟨-, equal⟩
      exact .inl (by rw [equal])
  · simp only [same, if_false, List.append_nil, ← represents.mem_iff]
    constructor
    · rintro (rfl | ⟨member, -⟩)
      · exact absurd rfl same
      · exact member
    · intro member
      refine .inr ⟨member, fun keys => same ?_⟩
      obtain ⟨r, earlier, name⟩ := represents.exists_row member
      rw [← name]
      refine (spelled r earlier ?_).symm
      rw [SchemaRow.tableKey, name]
      exact keys

/-- What becomes of the schema of rows when another row is added. -/
inductive Added (front : List SchemaRow) (row : SchemaRow) : Outcome Schema → Prop
  | taken {s : Schema} (represents : Represents (front ++ [row]) s)
    (sound : ∀ message, ¬ Offends front row message) : Added front row (.ok s)
  | refused {message : String} (offends : Offends front row message) :
    Added front row (.error (.schemaExtraction message))

theorem addRow (represents : Represents front s) (row : SchemaRow) :
    Added front row (s.addRow row) := by
  unfold Schema.addRow
  by_cases empty : row.table = "" ∨ row.column = ""
  · rw [if_pos (by simpa using empty)]
    exact .refused (.unnamed empty)
  have named : row.table ≠ "" ∧ row.column ≠ "" := by tauto
  rw [if_neg (by simpa using empty)]
  by_cases below : row.toColumn.maxChars < 0
  · have refused : boundOf row = .error (.schemaExtraction
        s!"negative bound {row.toColumn.maxChars} for {row.table}.{row.column}") := if_pos below
    rw [refused]
    exact .refused (.negative named below)
  have bounded : 0 ≤ row.toColumn.maxChars := by omega
  have accepted : boundOf row = .ok row.toColumn.maxChars := if_neg below
  rw [accepted]
  dsimp only
  rcases represents.tableFor row with ⟨spelled, found⟩ | ⟨earlier, member, same, other, failed⟩
  · rw [found]
    dsimp only
    split
    · rename_i taken
      obtain ⟨c, here, same⟩ := List.any_eq_true.mp taken
      obtain ⟨earlier, member, table, rfl⟩ := mem_columnsNamed.mp here
      exact .refused (.repeated named bounded spelled earlier member table (beq_iff_eq.mp same))
    · rename_i free
      refine .taken (represents.insert spelled) fun message offends => ?_
      cases offends with
      | unnamed => exact empty ‹_›
      | negative => exact below ‹_›
      | respelled _ _ earlier member same other => exact other (spelled earlier member same)
      | repeated _ _ _ earlier member table column =>
        refine free (List.any_eq_true.mpr ⟨earlier.toColumn, ?_, beq_iff_eq.mpr column⟩)
        exact mem_columnsNamed.mpr ⟨earlier, member, table, rfl⟩
  · rw [failed]
    exact .refused (.respelled named bounded earlier member same other)

/-- What becomes of the schema of rows when more of them are added: they are taken up to the first
that does not go with those in front of it. -/
inductive Read (front rows : List SchemaRow) : Outcome Schema → Prop
  | whole {s : Schema} (represents : Represents (front ++ rows) s)
    (consistent : Consistent (front ++ rows)) : Read front rows (.ok s)
  | cut {before rest : List SchemaRow} {row : SchemaRow} {message : String}
    (split : rows = before ++ row :: rest) (consistent : Consistent (front ++ before))
    (offends : Offends (front ++ before) row message) :
    Read front rows (.error (.schemaExtraction message))

theorem addRows (represents : Represents front s) (consistent : Consistent front)
    (rows : List SchemaRow) : Read front rows (s.addRows rows) := by
  -- The rows taken so far are those of the schema; the induction moves one more of them in front.
  induction rows generalizing front s with
  | nil =>
    rw [← List.append_nil front] at represents consistent
    exact .whole represents consistent
  | cons row rows ih =>
    have step := represents.addRow row
    rw [Schema.addRows]
    generalize s.addRow row = outcome at step
    cases step with
    | refused offends =>
      rw [← List.append_nil front] at consistent offends
      exact .cut rfl consistent offends
    | taken represents' sound =>
      have others := ih represents' (consistent.concat sound)
      dsimp only
      generalize Schema.addRows _ rows = ended at others
      cases others with
      | whole represents consistent =>
        rw [List.append_assoc] at represents consistent
        exact .whole represents consistent
      | cut split consistent offends =>
        rw [List.append_assoc] at consistent offends
        exact .cut (congrArg (row :: ·) split) consistent offends

/-- The rows of each name in their order are all that the schema depends on. -/
theorem unique (represents : Represents rows s) (represents' : Represents rows' s')
    (same : ∀ name, rows'.filter (·.table == name) = rows.filter (·.table == name)) : s' = s := by
  have tables : s'.tables = s.tables := by
    refine eq_of_mem_iff represents'.ordered represents.ordered fun t => ?_
    rw [represents.mem_iff, represents'.mem_iff, columnsNamed, columnsNamed, same]
  cases s
  cases s'
  exact congrArg Schema.mk tables

theorem sum_columns (represents : Represents rows s) :
    (s.tables.map (·.columns.length)).sum = rows.length := by
  have names : (s.tables.map Table.name).Perm (rows.map SchemaRow.table).dedup := by
    have distinct : (s.tables.map Table.name).Nodup := by
      refine List.Nodup.of_map Text.lower ?_
      rw [List.map_map]
      exact nodup_keys represents.ordered
    refine (List.perm_ext_iff_of_nodup distinct (List.nodup_dedup _)).mpr fun name => ?_
    simp only [List.mem_map, List.mem_dedup]
    constructor
    · rintro ⟨t, member, rfl⟩
      exact represents.exists_row member
    · rintro ⟨r, member, rfl⟩
      exact ⟨_, represents.table_of_row member, rfl⟩
  have lengths : s.tables.map (·.columns.length) =
      (s.tables.map Table.name).map fun name => (rows.map SchemaRow.table).count name := by
    rw [List.map_map]
    refine List.map_congr_left fun t member => ?_
    have columns := ((represents.mem_iff t).mp member).2
    rw [columns, columnsNamed, List.length_map, ← List.countP_eq_length_filter,
      Function.comp_apply, List.count_eq_countP, List.countP_map]
    rfl
  rw [lengths, (names.map _).sum_eq, List.sum_map_count_dedup_eq_length, List.length_map]

end Represents

theorem Consistent.of_same (consistent : Consistent rows)
    (same : ∀ name, rows'.filter (·.table == name) = rows.filter (·.table == name)) :
    Consistent rows' := by
  have perm : rows'.Perm rows := by
    refine List.perm_iff_count.mpr fun r => ?_
    rw [← List.count_filter (p := (·.table == r.table)) (by simp), same, List.count_filter (by simp)]
  constructor
  case named => exact fun r member => consistent.named r (perm.mem_iff.mp member)
  case bounded => exact fun r member => consistent.bounded r (perm.mem_iff.mp member)
  case spelled =>
    exact fun r member r' member' =>
      consistent.spelled r (perm.mem_iff.mp member) r' (perm.mem_iff.mp member')
  case distinct => exact (perm.map _).nodup_iff.mpr consistent.distinct

theorem read_ofRows (rows : List SchemaRow) : Represents.Read [] rows (ofRows rows) :=
  Represents.nil.addRows ⟨by simp, by simp, by simp, by simp⟩ rows

theorem exists_of_consistent (consistent : Consistent rows) : ∃ s, ofRows rows = .ok s := by
  have read := read_ofRows rows
  generalize ofRows rows = outcome at read
  cases read with
  | whole => exact ⟨_, rfl⟩
  | cut split _ offends =>
    rw [split, List.append_cons] at consistent
    exact absurd consistent.of_append offends.not_consistent

theorem represents_of_ofRows (made : ofRows rows = .ok s) :
    Represents rows s ∧ Consistent rows := by
  have read := read_ofRows rows
  rw [made] at read
  cases read with
  | whole represents consistent => exact ⟨represents, consistent⟩

/-- Exactly consistent rows make a schema. It has one table for each name, in increasing order of
their keys, with the columns of that name's rows in their order; so it does not depend on how the
rows of different tables are mixed. Other rows make no schema, and the failure is that of the first
row which is not consistent with those in front of it. -/
theorem ofRows_faithful (rows : List SchemaRow) :
    ((∃ s, ofRows rows = .ok s) ↔ Consistent rows) ∧
    (∀ s, ofRows rows = .ok s →
      Represents rows s ∧ (s.tables.map (·.columns.length)).sum = rows.length ∧
        ∀ rows', (∀ name, rows'.filter (·.table == name) = rows.filter (·.table == name)) →
          ofRows rows' = .ok s) ∧
    ∀ failure, ofRows rows = .error failure → ∃ front row rest message,
      rows = front ++ row :: rest ∧ Consistent front ∧ ¬ Consistent (front ++ [row]) ∧
        Offends front row message ∧ failure = .schemaExtraction message := by
  refine ⟨⟨fun ⟨s, made⟩ => (represents_of_ofRows made).2, exists_of_consistent⟩, ?_, ?_⟩
  · intro s made
    obtain ⟨represents, consistent⟩ := represents_of_ofRows made
    refine ⟨represents, represents.sum_columns, fun rows' same => ?_⟩
    obtain ⟨s', made'⟩ := exists_of_consistent (consistent.of_same same)
    rw [made', represents.unique (represents_of_ofRows made').1 same]
  · intro failure failed
    have read := read_ofRows rows
    rw [failed] at read
    cases read with
    | cut split consistent offends =>
      exact ⟨_, _, _, _, split, consistent, offends.not_consistent, offends, rfl⟩

/-- The second spelling of the users is the first offence; that an id stands there twice is the
next. -/
example : ofRows [⟨"notes", "id", "int", none⟩, ⟨"Users", "id", "int", none⟩,
    ⟨"users", "name", "text", none⟩, ⟨"notes", "ID", "int", none⟩] =
      .error (.schemaExtraction "tables Users and users differ only by case") := by
  decide +kernel

end Schema

end RowSync
