import RowSync.Proofs.Schema.Description

/-!
Which descriptions of tables in memory make a schema: those without empty names and negative
bounds, when the tables are well-named.
-/

set_option autoImplicit false

namespace RowSync

namespace MemoryTable

/-- The table has no columns to describe, or its names are not empty and no bound is negative. -/
def Readable (t : MemoryTable) : Prop :=
  ∀ c ∈ t.columns, t.name ≠ "" ∧ c.name ≠ "" ∧ 0 ≤ c.maxChars?.getD 0

instance (t : MemoryTable) : Decidable t.Readable :=
  inferInstanceAs (Decidable (∀ c ∈ t.columns, _))

end MemoryTable

namespace Schema

theorem readable_of_addRow {s s' : Schema} {row : SchemaRow} (added : s.addRow row = .ok s') :
    row.table ≠ "" ∧ row.column ≠ "" ∧ 0 ≤ row.maxChars?.getD 0 := by
  unfold addRow boundOf at added
  split at added
  · cases added
  rename_i named
  simp only [Bool.or_eq_true, String.isEmpty_iff, not_or] at named
  refine ⟨named.1, named.2, ?_⟩
  by_contra negative
  rw [if_pos (by omega)] at added
  cases added

theorem readable_of_addRows {rows : List SchemaRow} {s s' : Schema}
    (added : s.addRows rows = .ok s') :
    ∀ row ∈ rows, row.table ≠ "" ∧ row.column ≠ "" ∧ 0 ≤ row.maxChars?.getD 0 := by
  induction rows generalizing s with
  | nil => simp
  | cons row rows ih =>
    rw [addRows] at added
    split at added
    · cases added
    · rename_i next one
      intro r member
      rcases List.mem_cons.mp member with rfl | member
      · exact readable_of_addRow one
      · exact ih added r member

theorem readable_of_ofRows {tables : List MemoryTable} {s : Schema}
    (read : ofRows (tables.flatMap MemoryTable.schemaRows) = .ok s) :
    ∀ t ∈ tables, t.Readable := by
  intro t member c column
  exact readable_of_addRows read ⟨t.name, c.name, c.dataType, c.maxChars?⟩
    (List.mem_flatMap.mpr ⟨t, member, List.mem_map.mpr ⟨c, column, rfl⟩⟩)

/-- The table and its columns are those that some of the rows describe. -/
structure Recorded (rows : List SchemaRow) (t : Table) : Prop where
  named : ∃ row ∈ rows, row.table = t.name
  columns : ∀ c ∈ t.columns, ∃ row ∈ rows, row.table = t.name ∧
    c = ⟨row.column, row.dataType, row.maxChars?.getD 0⟩

private theorem name_of_tableFor {s : Schema} {row : SchemaRow} {t : Table}
    (found : s.tableFor row = .ok t) : t.name = row.table := by
  unfold tableFor at found
  split at found
  · cases found
    rfl
  · split at found
    · rename_i same
      cases found
      exact beq_iff_eq.mp same
    · cases found

private theorem recorded_of_addRows {all rows : List SchemaRow} {s s' : Schema}
    (ordered : Ordered s.tables) (recorded : ∀ t ∈ s.tables, Recorded all t)
    (within : ∀ row ∈ rows, row ∈ all) (added : s.addRows rows = .ok s') :
    ∀ t ∈ s'.tables, Recorded all t := by
  induction rows generalizing s with
  | nil =>
    cases added
    exact recorded
  | cons row rows ih =>
    rw [addRows] at added
    split at added
    · cases added
    · rename_i next one
      obtain ⟨t, found, -, rfl⟩ := addRow_ok one
      have name := name_of_tableFor found
      have here : row ∈ all := within row List.mem_cons_self
      refine ih (ordered_place ordered) (fun u member => ?_)
        (fun r member => within r (List.mem_cons_of_mem row member)) added
      obtain rfl | ⟨member, -⟩ := (mem_place ordered).mp member
      · refine ⟨⟨row, here, name.symm⟩, fun c column => ?_⟩
        rcases List.mem_append.mp column with earlier | last
        · obtain empty | before := mem_of_tableFor found
          · rw [empty] at earlier
            cases earlier
          · exact (recorded t before).columns c earlier
        · exact ⟨row, here, name.symm, List.mem_singleton.mp last⟩
      · exact recorded u member

theorem recorded_of_ofRows {rows : List SchemaRow} {s : Schema} (read : ofRows rows = .ok s) :
    ∀ t ∈ s.tables, Recorded rows t :=
  recorded_of_addRows List.Pairwise.nil (by simp) (fun _ => id) read

theorem bounds_of_ofRows {rows : List SchemaRow} {s : Schema} (read : ofRows rows = .ok s) :
    ∀ t ∈ s.tables, ∀ c ∈ t.columns, 0 ≤ c.maxChars := by
  intro t member c column
  obtain ⟨row, here, -, rfl⟩ := (recorded_of_ofRows read t member).columns c column
  exact (readable_of_addRows read row here).2.2

section Building

variable {s : Schema} {tables : List MemoryTable} {t : MemoryTable} {done : List MemoryColumn}

private theorem Describes.exists_tableFor
    (describes : s.Describes (tables ++ [{ t with columns := done }]))
    (plain : ∀ u ∈ tables, Text.IsPlain u.name) (plain_t : Text.IsPlain t.name)
    (fresh : t.key ∉ tables.map MemoryTable.key) {row : SchemaRow} (same : row.table = t.name) :
    ∃ u, s.tableFor row = .ok u := by
  rw [tableFor, same]
  cases search : s.find? (Text.lower t.name) with
  | none => exact ⟨_, rfl⟩
  | some v =>
    obtain ⟨member, key⟩ := (find?_eq_some_iff describes.ordered).mp search
    obtain ⟨m, here, -, rfl⟩ := (describes.mem_iff v).mp member
    rcases List.mem_append.mp here with earlier | last
    · have shared : m.key = t.key := by
        rw [← MemoryTable.key_described (plain m earlier), key, Text.lower_eq_asciiLower plain_t]
        rfl
      exact absurd (shared ▸ List.mem_map_of_mem earlier) fresh
    · obtain rfl := List.mem_singleton.mp last
      exact ⟨_, if_pos (beq_self_eq_true t.name)⟩

private theorem Describes.exists_addRow
    (describes : s.Describes (tables ++ [{ t with columns := done }]))
    (plain : ∀ u ∈ tables, Text.IsPlain u.name) (plain_t : Text.IsPlain t.name)
    (fresh : t.key ∉ tables.map MemoryTable.key) {c : MemoryColumn}
    (plain_columns : ∀ d ∈ c :: done, Text.IsPlain d.name)
    (other : Text.asciiLower c.name ∉ done.map fun d => Text.asciiLower d.name)
    (readable : t.name ≠ "" ∧ c.name ≠ "" ∧ 0 ≤ c.maxChars?.getD 0) :
    ∃ s', s.addRow ⟨t.name, c.name, c.dataType, c.maxChars?⟩ = .ok s' := by
  obtain ⟨u, found⟩ : ∃ u, s.tableFor ⟨t.name, c.name, c.dataType, c.maxChars?⟩ = .ok u :=
    describes.exists_tableFor plain plain_t fresh rfl
  obtain rfl := describes.tableFor_ok plain plain_t fresh rfl found
  have keyed (d : MemoryColumn) (member : d ∈ c :: done) :
      d.described.key = Text.asciiLower d.name :=
    Text.lower_eq_asciiLower (plain_columns d member)
  have unrepeated : (MemoryTable.described { t with columns := done }).columns.any
      (·.key == c.described.key) = false := by
    rw [List.any_eq_false]
    intro d member
    obtain ⟨e, here, rfl⟩ := List.mem_map.mp member
    rw [beq_iff_eq, keyed e (List.mem_cons_of_mem c here), keyed c List.mem_cons_self]
    exact fun shared => other (List.mem_map.mpr ⟨e, here, shared⟩)
  have named : ((t.name.isEmpty || c.name.isEmpty) = true) = False := by
    simp [readable.1, readable.2.1]
  have bounded : boundOf ⟨t.name, c.name, c.dataType, c.maxChars?⟩ = .ok (c.maxChars?.getD 0) :=
    if_neg (Int.not_lt.mpr readable.2.2)
  refine ⟨s.insert ⟨t.name, done.map MemoryColumn.described ++ [c.described]⟩, ?_⟩
  rw [Schema.addRow]
  simp only [named, bounded, found, if_false]
  exact if_neg (Bool.eq_false_iff.mp unrepeated)

private theorem Describes.exists_addColumns {left : List MemoryColumn}
    (describes : s.Describes (tables ++ [{ t with columns := done }]))
    (plain : ∀ u ∈ tables, Text.IsPlain u.name) (plain_t : Text.IsPlain t.name)
    (fresh : t.key ∉ tables.map MemoryTable.key)
    (plain_columns : ∀ d ∈ done ++ left, Text.IsPlain d.name)
    (distinct : ((done ++ left).map fun d => Text.asciiLower d.name).Nodup)
    (readable : ∀ c ∈ left, t.name ≠ "" ∧ c.name ≠ "" ∧ 0 ≤ c.maxChars?.getD 0) :
    ∃ s', s.addRows (left.map fun c => ⟨t.name, c.name, c.dataType, c.maxChars?⟩) = .ok s' := by
  induction left generalizing s done with
  | nil => exact ⟨s, rfl⟩
  | cons c left ih =>
    have regroup : done ++ c :: left = done ++ [c] ++ left := by simp
    have other : Text.asciiLower c.name ∉ done.map fun d => Text.asciiLower d.name := by
      rw [List.map_append, List.map_cons, List.nodup_append] at distinct
      exact fun member => distinct.2.2 _ member _ List.mem_cons_self rfl
    have known : ∀ d ∈ c :: done, Text.IsPlain d.name := by
      intro d member
      refine plain_columns d ?_
      rcases List.mem_cons.mp member with rfl | member
      · exact List.mem_append_right _ List.mem_cons_self
      · exact List.mem_append_left _ member
    obtain ⟨next, one⟩ := describes.exists_addRow plain plain_t fresh known other
      (readable c List.mem_cons_self)
    rw [regroup] at plain_columns distinct
    obtain ⟨s', others⟩ := ih (describes.addRow plain plain_t fresh one) plain_columns distinct
      fun d member => readable d (List.mem_cons_of_mem c member)
    refine ⟨s', ?_⟩
    rw [List.map_cons, addRows, one]
    exact others

private theorem Describes.exists_addTables {more : List MemoryTable}
    (describes : s.Describes tables) (wellNamed : MemoryStore.WellNamed (tables ++ more))
    (readable : ∀ t ∈ more, t.Readable) :
    ∃ s', s.addRows (more.flatMap MemoryTable.schemaRows) = .ok s' := by
  induction more generalizing s tables with
  | nil => exact ⟨s, rfl⟩
  | cons t more ih =>
    have regroup : tables ++ t :: more = tables ++ [t] ++ more := by simp
    have plain (u : MemoryTable) (member : u ∈ tables) : Text.IsPlain u.name :=
      (wellNamed.tables_wellNamed u (List.mem_append_left _ member)).name_plain
    have named := wellNamed.tables_wellNamed t (List.mem_append_right _ List.mem_cons_self)
    have fresh : t.key ∉ tables.map MemoryTable.key := by
      have distinct := wellNamed.names_distinct
      rw [List.map_append, List.map_cons, List.nodup_append] at distinct
      exact fun member => distinct.2.2 _ member _ List.mem_cons_self rfl
    obtain ⟨next, one⟩ := (describes.append_empty t).exists_addColumns plain named.name_plain fresh
      named.columns_plain named.columns_distinct (readable t List.mem_cons_self)
    have described : next.Describes (tables ++ [t]) :=
      (describes.append_empty t).addColumns plain named.name_plain fresh one
    rw [regroup] at wellNamed
    obtain ⟨s', others⟩ := ih described wellNamed
      fun u member => readable u (List.mem_cons_of_mem t member)
    refine ⟨s', ?_⟩
    have first : s.addRows t.schemaRows = .ok next := one
    rw [List.flatMap_cons, addRows_append, first]
    exact others

end Building

/-- Readable tables that are well-named make a schema. -/
theorem exists_ofRows {tables : List MemoryTable} (wellNamed : MemoryStore.WellNamed tables)
    (readable : ∀ t ∈ tables, t.Readable) :
    ∃ s, ofRows (tables.flatMap MemoryTable.schemaRows) = .ok s :=
  describes_empty.exists_addTables wellNamed readable

end Schema

end RowSync
