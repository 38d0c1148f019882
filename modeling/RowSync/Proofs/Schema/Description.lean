import Mathlib.Data.List.Find
import Mathlib.Data.List.Forall2
import RowSync.Proofs.Memory.Tables
import RowSync.Proofs.Schema.Ordered

/-!
The schema that a store in memory describes: one table for each of its tables that has columns,
with the same names, and nothing else.
-/

set_option autoImplicit false

namespace RowSync

theorem findIdx?_congr {α : Type} {p q : α → Bool} {l : List α} (agree : ∀ a ∈ l, p a = q a) :
    l.findIdx? p = l.findIdx? q := by
  induction l with
  | nil => rfl
  | cons a l ih =>
    rw [List.findIdx?_cons, List.findIdx?_cons, agree a List.mem_cons_self,
      ih fun b member => agree b (List.mem_cons_of_mem a member)]

theorem exists_forall₂_iff {α β : Type} {R : α → β → Prop} {l : List α} :
    (∃ m, List.Forall₂ R l m) ↔ ∀ a ∈ l, ∃ b, R a b := by
  induction l with
  | nil => simp
  | cons a l ih =>
    simp only [List.forall₂_cons_left_iff, List.forall_mem_cons, ← ih]
    exact ⟨fun ⟨_, b, m, first, others, _⟩ => ⟨⟨b, first⟩, m, others⟩,
      fun ⟨⟨b, first⟩, m, others⟩ => ⟨b :: m, b, m, first, others, rfl⟩⟩

def MemoryColumn.described (c : MemoryColumn) : Column := ⟨c.name, c.dataType, c.maxChars?.getD 0⟩

namespace MemoryTable

def described (t : MemoryTable) : Table := ⟨t.name, t.columns.map MemoryColumn.described⟩

def schemaRows (t : MemoryTable) : List SchemaRow :=
  t.columns.map fun c => ⟨t.name, c.name, c.dataType, c.maxChars?⟩

/-- The column found under a name in any case. -/
def column? (t : MemoryTable) (name : String) : Option MemoryColumn :=
  t.columns.find? fun c => Text.sameAscii c.name name

variable {t : MemoryTable}

@[simp] theorem name_described (t : MemoryTable) : t.described.name = t.name := rfl

theorem key_described (plain : Text.IsPlain t.name) : t.described.key = t.key :=
  Text.lower_eq_asciiLower plain

theorem find?_described (named : t.WellNamed) {name : String} (plain : Text.IsPlain name) :
    t.described.find? (Text.lower name) = (t.column? name).map MemoryColumn.described := by
  have agree (c : MemoryColumn) (member : c ∈ t.columns) :
      (c.described.key == Text.lower name) = Text.sameAscii c.name name :=
    Text.lower_beq_lower (named.columns_plain c member) plain
  simp only [Table.find?, described, column?, List.find?_map]
  congr 1
  exact List.find?_congr fun c member => agree c member

theorem isIdentity_described {c : MemoryColumn} (plain : Text.IsPlain c.name) :
    c.described.isIdentity = Text.sameAscii c.name "id" :=
  Text.lower_beq_lower plain (by decide : Text.IsPlain "id")

theorem identityIndex?_described (named : t.WellNamed) :
    t.described.identityIndex? = t.position? "id" := by
  simp only [Table.identityIndex?, described, position?, List.findIdx?_map]
  exact findIdx?_congr fun c member => isIdentity_described (named.columns_plain c member)

theorem hasIdentity_described (named : t.WellNamed) : t.described.hasIdentity = t.hasId := by
  rw [Table.hasIdentity, identityIndex?_described named, hasId]

end MemoryTable

namespace Schema

/-- The schema consists of the descriptions of those tables that have columns. -/
structure Describes (s : Schema) (tables : List MemoryTable) : Prop where
  ordered : Ordered s.tables
  mem_iff : ∀ t, t ∈ s.tables ↔ ∃ m ∈ tables, m.columns ≠ [] ∧ t = m.described

theorem describes_empty : Describes {} [] :=
  ⟨List.Pairwise.nil, fun t => by simp⟩

theorem Describes.append_empty {s : Schema} {tables : List MemoryTable}
    (describes : s.Describes tables) (t : MemoryTable) :
    s.Describes (tables ++ [{ t with columns := [] }]) :=
  ⟨describes.ordered, fun u => by simp [describes.mem_iff u]⟩

/-- What adding a column changes: it goes to the table of that key, which is made when it is
missing and has no column of the new one's key. -/
theorem addRow_ok {s s' : Schema} {row : SchemaRow} (added : s.addRow row = .ok s') :
    ∃ t, s.tableFor row = .ok t ∧ (∀ d ∈ t.columns, d.key ≠ Text.lower row.column) ∧
      s' = s.insert ⟨t.name, t.columns ++ [⟨row.column, row.dataType, row.maxChars?.getD 0⟩]⟩ := by
  unfold addRow boundOf at added
  split at added
  · cases added
  · dsimp only at added
    split at added
    · cases added
    · rename_i bound inRange
      split at inRange
      · cases inRange
      · cases inRange
        split at added
        · cases added
        · rename_i t found
          split at added
          · cases added
          · rename_i unrepeated
            cases added
            refine ⟨t, found, fun d member same => unrepeated ?_, rfl⟩
            exact List.any_eq_true.mpr ⟨d, member, beq_iff_eq.mpr same⟩

theorem addRow_error {s : Schema} {row : SchemaRow} {failure : Failure}
    (failed : s.addRow row = .error failure) : ∃ message, failure = .schemaExtraction message := by
  unfold addRow boundOf tableFor at failed
  grind

theorem ordered_of_addRows {rows : List SchemaRow} {s s' : Schema} (ordered : Ordered s.tables)
    (added : s.addRows rows = .ok s') : Ordered s'.tables := by
  induction rows generalizing s with
  | nil =>
    cases added
    exact ordered
  | cons row rows ih =>
    rw [addRows] at added
    split at added
    · cases added
    · rename_i next one
      obtain ⟨t, -, -, rfl⟩ := addRow_ok one
      exact ih (ordered_place ordered) added

theorem mem_of_tableFor {s : Schema} {row : SchemaRow} {t : Table}
    (found : s.tableFor row = .ok t) : t.columns = [] ∨ t ∈ s.tables := by
  unfold tableFor at found
  split at found
  · cases found
    exact .inl rfl
  · rename_i u search
    split at found
    · cases found
      exact .inr (List.mem_of_find?_eq_some search)
    · cases found

theorem nodup_columns_of_addRows {rows : List SchemaRow} {s s' : Schema}
    (ordered : Ordered s.tables) (distinct : ∀ t ∈ s.tables, (t.columns.map Column.key).Nodup)
    (added : s.addRows rows = .ok s') :
    ∀ t ∈ s'.tables, (t.columns.map Column.key).Nodup := by
  induction rows generalizing s with
  | nil =>
    cases added
    exact distinct
  | cons row rows ih =>
    rw [addRows] at added
    split at added
    · cases added
    · rename_i next one
      obtain ⟨t, found, fresh, rfl⟩ := addRow_ok one
      refine ih (ordered_place ordered) (fun u member => ?_) added
      obtain rfl | ⟨member, -⟩ := (mem_place ordered).mp member
      · rw [List.map_append, List.nodup_append]
        refine ⟨?_, List.nodup_singleton _, ?_⟩
        · obtain empty | member := mem_of_tableFor found
          · simp [empty]
          · exact distinct t member
        · intro key before key' last same
          obtain ⟨d, member, rfl⟩ := List.mem_map.mp before
          exact fresh d member (same.trans (List.mem_singleton.mp last))
      · exact distinct u member

theorem ordered_of_ofRows {rows : List SchemaRow} {s : Schema} (read : ofRows rows = .ok s) :
    Ordered s.tables :=
  ordered_of_addRows List.Pairwise.nil read

theorem nodup_columns_of_ofRows {rows : List SchemaRow} {s : Schema} (read : ofRows rows = .ok s) :
    ∀ t ∈ s.tables, (t.columns.map Column.key).Nodup :=
  nodup_columns_of_addRows List.Pairwise.nil (by simp) read

theorem addRows_error {rows : List SchemaRow} {s : Schema} {failure : Failure}
    (failed : s.addRows rows = .error failure) :
    ∃ message, failure = .schemaExtraction message := by
  induction rows generalizing s with
  | nil => cases failed
  | cons row rows ih =>
    rw [addRows] at failed
    split at failed
    · rename_i failure' one
      cases failed
      exact addRow_error one
    · exact ih failed

section Building

variable {s s' : Schema} {tables : List MemoryTable} {t : MemoryTable} {done : List MemoryColumn}

theorem Describes.tableFor_ok (describes : s.Describes (tables ++ [{ t with columns := done }]))
    (plain : ∀ u ∈ tables, Text.IsPlain u.name) (plain_t : Text.IsPlain t.name)
    (fresh : t.key ∉ tables.map MemoryTable.key) {row : SchemaRow} (same : row.table = t.name)
    {u : Table} (found : s.tableFor row = .ok u) :
    u = MemoryTable.described { t with columns := done } := by
  have keyOf : MemoryTable.key t = Text.lower t.name := (Text.lower_eq_asciiLower plain_t).symm
  rw [tableFor, same] at found
  cases search : s.find? (Text.lower t.name) with
  | none =>
    simp only [search, Except.ok.injEq] at found
    cases done with
    | nil => exact found.symm
    | cons c done =>
      have present : MemoryTable.described { t with columns := c :: done } ∈ s.tables :=
        (describes.mem_iff _).mpr ⟨_, List.mem_append_right _ List.mem_cons_self, by simp, rfl⟩
      have hit := (find?_eq_some_iff describes.ordered).mpr ⟨present, rfl⟩
      exact absurd (search.symm.trans hit) (by simp)
  | some v =>
    obtain ⟨member, key⟩ := (find?_eq_some_iff describes.ordered).mp search
    obtain ⟨m, here, -, rfl⟩ := (describes.mem_iff v).mp member
    rcases List.mem_append.mp here with earlier | last
    · have shared : m.key = t.key := by
        rw [← MemoryTable.key_described (plain m earlier), key, keyOf]
      exact absurd (shared ▸ List.mem_map_of_mem earlier) fresh
    · obtain rfl := List.mem_singleton.mp last
      simp only [search, MemoryTable.described, beq_self_eq_true, if_true, Except.ok.injEq] at found
      exact found.symm

theorem Describes.addRow (describes : s.Describes (tables ++ [{ t with columns := done }]))
    (plain : ∀ u ∈ tables, Text.IsPlain u.name) (plain_t : Text.IsPlain t.name)
    (fresh : t.key ∉ tables.map MemoryTable.key) {c : MemoryColumn}
    (added : s.addRow ⟨t.name, c.name, c.dataType, c.maxChars?⟩ = .ok s') :
    s'.Describes (tables ++ [{ t with columns := done ++ [c] }]) := by
  obtain ⟨u, found, -, rfl⟩ := addRow_ok added
  obtain rfl := describes.tableFor_ok plain plain_t fresh rfl found
  have extended : (⟨t.name, done.map MemoryColumn.described ++ [c.described]⟩ : Table) =
      MemoryTable.described { t with columns := done ++ [c] } := by
    simp [MemoryTable.described]
  have keyOf (columns : List MemoryColumn) :
      (MemoryTable.described { t with columns }).key = t.key := MemoryTable.key_described plain_t
  change Describes ⟨place ⟨t.name, done.map MemoryColumn.described ++ [c.described]⟩ s.tables⟩ _
  rw [extended]
  refine ⟨ordered_place describes.ordered, fun v => ?_⟩
  rw [mem_place describes.ordered, describes.mem_iff]
  constructor
  · rintro (rfl | ⟨⟨m, here, some, rfl⟩, other⟩)
    · exact ⟨_, List.mem_append_right _ List.mem_cons_self, by simp, rfl⟩
    · rcases List.mem_append.mp here with earlier | last
      · exact ⟨m, List.mem_append_left _ earlier, some, rfl⟩
      · obtain rfl := List.mem_singleton.mp last
        exact absurd ((keyOf _).trans (keyOf _).symm) other
  · rintro ⟨m, here, some, rfl⟩
    rcases List.mem_append.mp here with earlier | last
    · refine .inr ⟨⟨m, List.mem_append_left _ earlier, some, rfl⟩, ?_⟩
      rw [MemoryTable.key_described (plain m earlier), keyOf]
      exact fun shared => fresh (shared ▸ List.mem_map_of_mem earlier)
    · exact .inl (by rw [List.mem_singleton.mp last])

theorem Describes.addColumns {left : List MemoryColumn}
    (describes : s.Describes (tables ++ [{ t with columns := done }]))
    (plain : ∀ u ∈ tables, Text.IsPlain u.name) (plain_t : Text.IsPlain t.name)
    (fresh : t.key ∉ tables.map MemoryTable.key)
    (added : s.addRows (left.map fun c => ⟨t.name, c.name, c.dataType, c.maxChars?⟩) = .ok s') :
    s'.Describes (tables ++ [{ t with columns := done ++ left }]) := by
  induction left generalizing s done with
  | nil =>
    cases added
    simpa using describes
  | cons c left ih =>
    rw [List.map_cons, addRows] at added
    split at added
    · cases added
    · rename_i next one
      have more := ih (describes.addRow plain plain_t fresh one) added
      simpa [List.append_assoc] using more

end Building

theorem addRows_append (s : Schema) (rows rows' : List SchemaRow) :
    s.addRows (rows ++ rows') = (s.addRows rows).bind (·.addRows rows') := by
  induction rows generalizing s with
  | nil => rfl
  | cons row rows ih =>
    rw [List.cons_append, addRows, addRows]
    cases s.addRow row with
    | error e => rfl
    | ok next => exact ih next

theorem Describes.addTables {s s' : Schema} {tables more : List MemoryTable}
    (describes : s.Describes tables) (plain : ∀ t ∈ tables ++ more, Text.IsPlain t.name)
    (distinct : ((tables ++ more).map MemoryTable.key).Nodup)
    (added : s.addRows (more.flatMap MemoryTable.schemaRows) = .ok s') :
    s'.Describes (tables ++ more) := by
  induction more generalizing s tables with
  | nil =>
    cases added
    simpa using describes
  | cons t more ih =>
    rw [List.flatMap_cons, addRows_append] at added
    cases one : s.addRows t.schemaRows with
    | error e => simp [one, Except.bind] at added
    | ok next =>
      simp only [one, Except.bind] at added
      have fresh : t.key ∉ tables.map MemoryTable.key := by
        rw [List.map_append, List.map_cons, List.nodup_append] at distinct
        exact fun member => distinct.2.2 _ member _ List.mem_cons_self rfl
      have described : next.Describes (tables ++ [t]) :=
        (describes.append_empty t).addColumns
          (fun u member => plain u (List.mem_append_left _ member))
          (plain t (List.mem_append_right _ List.mem_cons_self)) fresh one
      have regroup : tables ++ t :: more = tables ++ [t] ++ more := by simp
      rw [regroup] at plain distinct ⊢
      exact ih described plain distinct added

end Schema

namespace Schema

variable {s : Schema} {tables : List MemoryTable} {name : String}

/-- A schema read from tables with plain names describes them. -/
theorem describes_of_ofRows (named : MemoryStore.Named tables)
    (read : ofRows (tables.flatMap MemoryTable.schemaRows) = .ok s) : s.Describes tables := by
  have described : s.Describes ([] ++ tables) :=
    describes_empty.addTables named.names_plain named.names_distinct read
  exact described

theorem Describes.table_ok (describes : s.Describes tables)
    (plain : ∀ t ∈ tables, Text.IsPlain t.name) (plain_name : Text.IsPlain name) {m : MemoryTable}
    (member : m ∈ tables) (some : m.columns ≠ []) (same : Text.sameAscii m.name name = true) :
    s.table name = .ok m.described := by
  have key : m.described.key = Text.lower name := by
    rw [MemoryTable.key_described (plain m member), MemoryTable.key, Text.sameAscii_iff.mp same,
      Text.lower_eq_asciiLower plain_name]
  have present := (describes.mem_iff _).mpr ⟨m, member, some, rfl⟩
  rw [table, (find?_eq_some_iff describes.ordered).mpr ⟨present, key⟩]

theorem Describes.of_table_ok (describes : s.Describes tables)
    (plain : ∀ t ∈ tables, Text.IsPlain t.name) (plain_name : Text.IsPlain name) {t : Table}
    (found : s.table name = .ok t) :
    ∃ m ∈ tables, m.columns ≠ [] ∧ Text.sameAscii m.name name = true ∧ t = m.described := by
  unfold table at found
  split at found
  · rename_i u search
    cases found
    obtain ⟨present, key⟩ := (find?_eq_some_iff describes.ordered).mp search
    obtain ⟨m, member, some, rfl⟩ := (describes.mem_iff t).mp present
    refine ⟨m, member, some, ?_, rfl⟩
    rw [MemoryTable.key_described (plain m member), Text.lower_eq_asciiLower plain_name] at key
    exact Text.sameAscii_iff.mpr key
  · cases found

end Schema

end RowSync
