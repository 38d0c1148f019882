import RowSync.Proofs.Copying.TableCopy
import RowSync.Proofs.Memory.Statements
import RowSync.Proofs.Schema.Description

/-!
The plan of a copy between two tables in memory: which destination column each source column goes
to, and what the three statements planned for the pair consist of.
-/

set_option autoImplicit false

namespace RowSync

namespace MemoryColumn

/-- The place of a value of the column in an insert. -/
def storeMarker (c : MemoryColumn) : List Char :=
  if c.isUuid then MemoryStore.unhexChars else ['?']

/-- The place of a value of the column in a comparison. -/
def probeMarker (c : MemoryColumn) : List Char :=
  if c.dataType == "uuid" then MemoryStore.unhexChars else ['?']

theorem storeMarker_eq (c : MemoryColumn) :
    c.storeMarker = MemoryStore.unhexChars ∨ c.storeMarker = ['?'] := by
  unfold storeMarker
  split
  · exact .inl rfl
  · exact .inr rfl

theorem probeMarker_eq (c : MemoryColumn) :
    c.probeMarker = MemoryStore.unhexChars ∨ c.probeMarker = ['?'] := by
  unfold probeMarker
  split
  · exact .inl rfl
  · exact .inr rfl

end MemoryColumn

abbrev ColumnMatches := List (MemoryColumn × MemoryColumn)

namespace ColumnMatches

def stores (pairs : ColumnMatches) : List MarkedColumn := pairs.map fun p => (p.2, p.1.storeMarker)

def probes (pairs : ColumnMatches) : List MarkedColumn := pairs.map fun p => (p.2, p.1.probeMarker)

end ColumnMatches

namespace TableCopy

variable (copy : TableCopy)

def plan : Outcome TablePlan :=
  (TablePlan.make (.plain .exact) (.plain copy.settings.resolution) copy.source.described
    copy.target.described).1

/-- What the plan of a copy consists of. -/
structure Planned (plan : TablePlan) (pairs : ColumnMatches) : Prop where
  source_eq : plan.source = copy.source.described
  target_eq : plan.target = copy.target.described
  sources : pairs.map Prod.fst = copy.source.columns
  found : ∀ p ∈ pairs, copy.target.column? p.1.name = some p.2
  select_eq : plan.selectSql.toList =
    "SELECT ".toList ++ (namesText copy.source.columns ++
      (" FROM ".toList ++ copy.source.name.toList))
  exists_eq : plan.existsSql.toList =
    "SELECT EXISTS (SELECT 1 FROM ".toList ++ (copy.target.name.toList ++ (" WHERE ".toList ++
      (" AND ".toList.intercalate (pairs.probes.map MarkedColumn.clauseText)))) ++ [')']
  insert_eq : plan.insertSql.toList =
    "INSERT INTO ".toList ++ (copy.target.name.toList ++ (" (".toList ++
      (namesText (pairs.stores.map Prod.fst) ++ (") VALUES (".toList ++
        ", ".toList.intercalate (pairs.stores.map Prod.snd)) ++ [')'])))

section Statements

variable {resolution : Value.TimeResolution}

private theorem comparison_plain (index : Nat) (c d : MemoryColumn) :
    ((Dialect.plain resolution).comparison index d.described.name c.described.dataType).toList =
      MarkedColumn.clauseText (d, c.probeMarker) := by
  change (d.name ++ " <=> " ++ if c.dataType == "uuid" then Dialect.unhexMarker else "?").toList =
    d.name.toList ++ (" <=> ".toList ++ c.probeMarker)
  rw [MemoryColumn.probeMarker, String.toList_append, String.toList_append, List.append_assoc]
  cases c.dataType == "uuid" <;> rfl

private theorem comparisons_plain (pairs : ColumnMatches) (index : Nat) :
    (TablePlan.comparisons (.plain resolution) index
      (pairs.map fun p => (p.1.described, p.2.described))).map String.toList =
      pairs.probes.map MarkedColumn.clauseText := by
  induction pairs generalizing index with
  | nil => rfl
  | cons p pairs ih =>
    rw [List.map_cons, TablePlan.comparisons, List.map_cons, ih, comparison_plain]
    rfl

private theorem valueMarkers_plain (columns : List MemoryColumn) (index : Nat) :
    (TablePlan.valueMarkers (.plain resolution) index
      (columns.map MemoryColumn.described)).map String.toList =
      columns.map MemoryColumn.storeMarker := by
  induction columns generalizing index with
  | nil => rfl
  | cons c columns ih =>
    have marker : (if c.described.isUuid then (Dialect.plain resolution).uuidMarker index
        else (Dialect.plain resolution).marker index).toList = c.storeMarker := by
      change (if c.isUuid then Dialect.unhexMarker else "?").toList = _
      rw [MemoryColumn.storeMarker]
      cases c.isUuid <;> rfl
    rw [List.map_cons, TablePlan.valueMarkers, List.map_cons, ih, marker, List.map_cons]

private theorem commaSeparated_toList (parts : List String) :
    (TablePlan.commaSeparated parts).toList = ", ".toList.intercalate (parts.map String.toList) :=
  String.toList_intercalate

private theorem closingBracket : ")".toList = [')'] := rfl

theorem selectStatement_plain (t : MemoryTable) :
    (TablePlan.selectStatement (.plain resolution) t.described).toList =
      "SELECT ".toList ++ (namesText t.columns ++ (" FROM ".toList ++ t.name.toList)) := by
  have names : (t.columns.map MemoryColumn.described).map (fun c => c.name) =
      t.columns.map fun c => c.name := List.map_map
  change ("SELECT " ++ TablePlan.commaSeparated
    ((t.columns.map MemoryColumn.described).map fun c => c.name) ++ " FROM " ++ t.name).toList = _
  rw [names, String.toList_append, String.toList_append, String.toList_append,
    commaSeparated_toList, List.map_map, namesText]
  simp only [List.append_assoc, Function.comp_def]

private theorem existsStatement_plain (t : MemoryTable)
    (pairs : ColumnMatches) :
    (TablePlan.existsStatement (.plain resolution) t.described
      (pairs.map fun p => (p.1.described, p.2.described))).toList =
      "SELECT EXISTS (SELECT 1 FROM ".toList ++ (t.name.toList ++
        (" WHERE ".toList ++ (" AND ".toList.intercalate
          (pairs.probes.map MarkedColumn.clauseText)))) ++ [')'] := by
  change ("SELECT EXISTS (SELECT 1 FROM " ++ t.name ++ " WHERE " ++ " AND ".intercalate
    (TablePlan.comparisons (.plain resolution) 0
      (pairs.map fun p => (p.1.described, p.2.described))) ++ ")").toList = _
  rw [String.toList_append, String.toList_append, String.toList_append, String.toList_append,
    String.toList_intercalate, comparisons_plain, closingBracket]
  simp only [List.append_assoc]

private theorem insertStatement_plain (t : MemoryTable)
    (pairs : ColumnMatches) :
    (TablePlan.insertStatement (.plain resolution) t.described
      (pairs.map fun p => (p.1.described, p.2.described))).toList =
      "INSERT INTO ".toList ++ (t.name.toList ++ (" (".toList ++
        (namesText (pairs.stores.map Prod.fst) ++ (") VALUES (".toList ++
          ", ".toList.intercalate (pairs.stores.map Prod.snd)) ++ [')']))) := by
  have names : (pairs.map fun p => (p.1.described, p.2.described)).map (fun p => p.2.name) =
      (pairs.stores.map Prod.fst).map fun c => c.name := by
    simp [ColumnMatches.stores, MemoryColumn.described]
  have sources : (pairs.map fun p => (p.1.described, p.2.described)).map (fun p => p.1) =
      (pairs.map Prod.fst).map MemoryColumn.described := by simp
  change ("INSERT INTO " ++ t.name ++ " (" ++ TablePlan.commaSeparated
    ((pairs.map fun p => (p.1.described, p.2.described)).map fun p => p.2.name) ++ ") VALUES (" ++
    TablePlan.commaSeparated (TablePlan.valueMarkers (.plain resolution) 0
      ((pairs.map fun p => (p.1.described, p.2.described)).map fun p => p.1)) ++ ")").toList = _
  rw [names, sources, String.toList_append, String.toList_append, String.toList_append,
    String.toList_append, String.toList_append, String.toList_append, commaSeparated_toList,
    commaSeparated_toList, valueMarkers_plain, closingBracket, namesText]
  simp only [ColumnMatches.stores, List.map_map, List.append_assoc, Function.comp_def]

end Statements

theorem matchColumns_ok {target : MemoryTable} (named : target.WellNamed)
    {columns : List MemoryColumn} (plain : ∀ c ∈ columns, Text.IsPlain c.name) {ds : List Column}
    (matched : (TablePlan.matchColumns target.described
      (columns.map MemoryColumn.described)).1 = .ok ds) :
    ∃ pairs : ColumnMatches, pairs.map Prod.fst = columns ∧
      (∀ p ∈ pairs, target.column? p.1.name = some p.2) ∧
      ds = pairs.map fun p => p.2.described := by
  induction columns generalizing ds with
  | nil =>
    cases matched
    exact ⟨[], rfl, by simp, rfl⟩
  | cons c columns ih =>
    have lookup := MemoryTable.find?_described named (plain c List.mem_cons_self)
    rw [List.map_cons, TablePlan.matchColumns, Table.lookup, Table.column] at matched
    change Table.find? target.described (Text.lower c.described.name) = _ at lookup
    rw [lookup] at matched
    cases found : target.column? c.name with
    | none => simp [found] at matched
    | some d =>
      simp only [found, Option.map_some] at matched
      cases rest : (TablePlan.matchColumns target.described
          (columns.map MemoryColumn.described)).1 with
      | error e => simp [rest, Except.map] at matched
      | ok more =>
        simp only [rest, Except.map, Except.ok.injEq] at matched
        obtain ⟨pairs, sources, partners, rfl⟩ :=
          ih (fun e member => plain e (List.mem_cons_of_mem c member)) rest
        refine ⟨(c, d) :: pairs, by simp [sources], ?_, by simp [← matched]⟩
        intro p member
        rcases List.mem_cons.mp member with rfl | member
        · exact found
        · exact partners p member

theorem planned_of_plan (source : copy.source.WellNamed) (target : copy.target.WellNamed)
    {plan : TablePlan} (made : copy.plan = .ok plan) : ∃ pairs, copy.Planned plan pairs := by
  unfold TableCopy.plan TablePlan.make at made
  cases matched :
      (TablePlan.matchColumns copy.target.described copy.source.described.columns).1 with
  | error e => simp [matched, Except.map] at made
  | ok ds =>
    simp only [matched, Except.map, Except.ok.injEq] at made
    obtain ⟨pairs, sources, found, rfl⟩ := matchColumns_ok target source.columns_plain matched
    have zipped : copy.source.described.columns.zip (pairs.map fun p => p.2.described) =
        pairs.map fun p => (p.1.described, p.2.described) := by
      rw [MemoryTable.described, ← sources, List.map_map, List.zip_map']
      rfl
    subst made
    refine ⟨pairs, rfl, rfl, sources, found, selectStatement_plain _, ?_, ?_⟩
    · rw [zipped]
      exact existsStatement_plain copy.target pairs
    · rw [zipped]
      exact insertStatement_plain copy.target pairs

end TableCopy

end RowSync
