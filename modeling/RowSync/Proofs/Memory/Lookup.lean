import RowSync.Proofs.Memory.Growth

/-!
Statements that concern one table. A store finds a table by the name that stands in the text, so
what it answers and what it does depend on nothing else, provided that the name is found where it
was written.
-/

set_option autoImplicit false

namespace RowSync

namespace MemoryStore

/-- Every store answers the statement by its table of that name. -/
def AnsweredBy (name sql : String) : Prop :=
  ∀ parameters, ∃ answer : Outcome MemoryTable → Outcome (List Row),
    ∀ s, (query sql parameters s).1 = answer (s.table name)

def ColumnsPlain (tables : List MemoryTable) : Prop :=
  ∀ t ∈ tables, ∀ c ∈ t.columns, Text.IsPlain c.name

/-- No store whose columns have plain names answers the statement. -/
def Unanswered (sql : String) : Prop :=
  ∀ parameters s, ColumnsPlain s.tables → ∃ failure, (query sql parameters s).1 = .error failure

/-- Every store changes at most the rows of its table of that name, by what they are. -/
def Changes (settings : MemorySettings) (name sql : String) : Prop :=
  ∀ parameters, ∃ effect : Outcome MemoryTable → Outcome (Nat × List Row),
    ∀ s, execute settings sql parameters s =
      match effect (s.table name) with
      | .ok (affected, rows) => (.ok affected, (s.remember sql).setRows name rows)
      | .error failure => (.error failure, s.remember sql)

section Lookups

variable {name sql : String} {s s' : MemoryStore}

theorem table_setRows (s : MemoryStore) (name : String) (rows : List Row) :
    (s.setRows name rows).table name = (s.table name).map fun t => { t with rows } := by
  have changed (tables : List MemoryTable) :
      (updateFirst name (fun t => { t with rows }) tables).find?
        (fun t => Text.sameAscii t.name name) =
      (tables.find? fun t => Text.sameAscii t.name name).map fun t => { t with rows } := by
    induction tables with
    | nil => rfl
    | cons t tables ih =>
      cases same : Text.sameAscii t.name name with
      | true => simp [updateFirst, same]
      | false => simp [updateFirst, same, ih]
  unfold table
  rw [setRows, changed]
  cases s.tables.find? fun t => Text.sameAscii t.name name with
  | none => rfl
  | some t => rfl

/-- Stores with the same table of a name change it in the same way. -/
theorem Changes.execute_eq {settings : MemorySettings} (changes : Changes settings name sql)
    (same : s.table name = s'.table name) (parameters : List Value) :
    (execute settings sql parameters s).1 = (execute settings sql parameters s').1 ∧
      (execute settings sql parameters s).2.table name =
        (execute settings sql parameters s').2.table name := by
  obtain ⟨effect, changed⟩ := changes parameters
  rw [changed, changed, ← same]
  cases effect (s.table name) with
  | ok result =>
    refine ⟨rfl, ?_⟩
    rw [table_setRows, table_setRows]
    exact congrArg _ same
  | error failure => exact ⟨rfl, same⟩

end Lookups

section Commas

private theorem comma_of_blank {columns : List MemoryColumn}
    (plain : ∀ c ∈ columns, Text.IsPlain c.name) {part more : List Char}
    (blank : namesText columns = part ++ ' ' :: more) : ∃ front, part = front ++ [','] := by
  induction columns generalizing part with
  | nil =>
    have impossible : ([] : List Char) = part ++ ' ' :: more := blank
    simp at impossible
  | cons c columns ih =>
    have apart (before after : List Char) : c.name.toList ≠ before ++ ' ' :: after := by
      intro equal
      have named := plain c List.mem_cons_self ' ' (by rw [equal]; simp)
      cases named
    cases columns with
    | nil =>
      rw [namesText, List.map_singleton, List.intercalate_singleton] at blank
      exact absurd blank (apart _ _)
    | cons d columns =>
      have regroup : namesText (c :: d :: columns) =
          c.name.toList ++ (',' :: ' ' :: namesText (d :: columns)) := by
        simp only [namesText, List.map_cons, List.intercalate_cons_cons, List.append_assoc]
        rfl
      rw [regroup] at blank
      -- The blank stands in the separator, in a later name or in the first one.
      rcases List.append_eq_append_iff.mp blank with ⟨left, rfl, later⟩ | ⟨left, whole, later⟩
      · rcases left with _ | ⟨x, _ | ⟨y, left⟩⟩
        · cases later
        · obtain ⟨rfl, -⟩ := List.cons.inj later
          exact ⟨c.name.toList, rfl⟩
        · simp only [List.cons_append, List.cons.injEq] at later
          obtain ⟨rfl, rfl, later⟩ := later
          obtain ⟨front, rfl⟩ :=
            ih (fun e member => plain e (List.mem_cons_of_mem c member)) later
          exact ⟨c.name.toList ++ (',' :: ' ' :: front), by simp⟩
      · cases left with
        | nil => cases later
        | cons x left =>
          obtain ⟨rfl, -⟩ := List.cons.inj later
          exact absurd whole (apart _ _)

private theorem exists_part_of_comma (front : List Char) :
    ∃ part ∈ Text.splitAll ", ".toList (front ++ [',']), ',' ∈ part := by
  induction length : front.length using Nat.strong_induction_on generalizing front with
  | _ n ih =>
    cases split : Text.splitOnce? ", ".toList (front ++ [',']) with
    | none =>
      rw [Text.splitAll_eq_of_none split]
      exact ⟨_, List.mem_singleton_self _, by simp⟩
    | some parts =>
      obtain ⟨part, rest⟩ := parts
      rw [Text.splitAll_eq_of_some (by decide) split]
      have whole := Text.eq_append_of_splitOnce? split
      rcases List.eq_nil_or_concat' rest with rfl | ⟨rest, x, rfl⟩
      · rw [List.append_nil] at whole
        have last := congrArg List.getLast? whole
        simp at last
      · have regroup : front ++ [','] = (part ++ (", ".toList ++ rest)) ++ [x] := by
          rw [whole]
          simp
        obtain ⟨rfl, same⟩ := List.append_inj' regroup rfl
        obtain rfl : ',' = x := List.singleton_inj.mp same
        obtain ⟨found, member, comma⟩ := ih rest.length (by simp at length; omega) rest rfl
        exact ⟨found, List.mem_cons_of_mem part member, comma⟩

end Commas

section Reading

variable {name sql : String} {parameters : List Value} {s : MemoryStore}

private def selection (sql : String) (parameters : List Value) (columns : List Char)
    (filter? : Option (List Char)) (t : MemoryTable) : Outcome (List Row) := do
  let rows ←
    match filter? with
    | some filter => filterRows sql t parameters filter
    | none => .ok t.rows
  if columns == "COUNT(*)".toList then .ok [[.int64 (Int64.ofNat rows.length)]]
  else do
    let indexes ← (Text.splitAll ", ".toList columns).mapM fun c => t.columnIndex (String.ofList c)
    .ok (rows.map fun row => indexes.map (cell row))

private theorem runSelect_selection {columns rest text : List Char}
    (words : sql.toList = "SELECT ".toList ++ text)
    (split : Text.splitOnce? " FROM ".toList text = some (columns, rest))
    (parameters : List Value) :
    ∃ part filter?, (part, filter?) = (match Text.splitOnce? " WHERE ".toList rest with
        | some (part, filter) => (part, some filter)
        | none => (rest, none)) ∧
      ∀ s : MemoryStore, s.runSelect sql parameters =
        s.table (String.ofList part) >>= selection sql parameters columns filter? := by
  refine ⟨_, _, rfl, fun s => ?_⟩
  rw [runSelect, words, Text.stripPrefix?_append]
  simp only [split]
  rfl

private theorem columnIndex_of_comma {t : MemoryTable}
    (plain : ∀ c ∈ t.columns, Text.IsPlain c.name) {part : List Char} (comma : ',' ∈ part) :
    ∃ failure, t.columnIndex (String.ofList part) = .error failure := by
  refine MemoryTable.columnIndex_eq_error (List.findIdx?_eq_none_iff.mpr fun c member => ?_)
  rw [Bool.eq_false_iff]
  intro same
  have lower : ',' ∈ (Text.asciiLower (String.ofList part)).toList := by
    rw [Text.asciiLower, String.toList_ofList, String.toList_ofList]
    exact List.mem_map.mpr ⟨',', comma, by decide⟩
  rw [← Text.sameAscii_iff.mp same] at lower
  cases (plain c member).asciiLower ',' lower

private theorem selection_of_comma {t : MemoryTable}
    (plain : ∀ c ∈ t.columns, Text.IsPlain c.name) (front : List Char)
    (filter? : Option (List Char)) :
    ∃ failure, selection sql parameters (front ++ [',']) filter? t = .error failure := by
  obtain ⟨part, member, comma⟩ := exists_part_of_comma front
  obtain ⟨failure, absent⟩ := columnIndex_of_comma plain comma
  obtain ⟨failure', refused⟩ : ∃ failure', (Text.splitAll ", ".toList (front ++ [','])).mapM
      (fun c => t.columnIndex (String.ofList c)) = .error failure' :=
    exists_mapM_error member absent
  have counts : (front ++ [','] == "COUNT(*)".toList) = false := by
    rw [beq_eq_false_iff_ne]
    intro equal
    have last := congrArg List.getLast? equal
    simp at last
  have read (rows : List Row) : ∃ failure,
      (if front ++ [','] == "COUNT(*)".toList then .ok [[.int64 (Int64.ofNat rows.length)]]
        else do
          let indexes ← (Text.splitAll ", ".toList (front ++ [','])).mapM fun c =>
            t.columnIndex (String.ofList c)
          .ok (rows.map fun row => indexes.map (cell row)) : Outcome (List Row)) =
        .error failure := by
    rw [counts, refused]
    exact ⟨failure', rfl⟩
  unfold selection
  cases filter? with
  | none => exact read t.rows
  | some filter =>
    dsimp only
    cases filterRows sql t parameters filter with
    | error failure => exact ⟨failure, rfl⟩
    | ok rows => exact read rows

private theorem not_probe {columns rest : List Char} (bracketless : '(' ∉ columns)
    (words : sql.toList = "SELECT ".toList ++ (columns ++ (" FROM ".toList ++ rest))) :
    Text.stripPrefix? "SELECT EXISTS (SELECT 1 FROM ".toList sql.toList = none := by
  by_contra found
  obtain ⟨left, whole⟩ := Option.ne_none_iff_exists'.mp found
  rw [Text.stripPrefix?_eq_some_iff, words] at whole
  have cancelled : (columns ++ " FROM ".toList) ++ rest =
      "EXISTS (".toList ++ ("SELECT 1 FROM ".toList ++ left) := by
    rw [List.append_assoc]
    exact List.append_cancel_left whole
  have bracketless : '(' ∉ columns ++ " FROM ".toList := fun member =>
    (List.mem_append.mp member).elim bracketless (by decide)
  rcases List.append_eq_append_iff.mp cancelled with ⟨more, before, -⟩ | ⟨more, before, -⟩
  · -- What stands in front of the bracket has too few letters.
    match columns with
    | [] => cases before
    | [_] => cases before
    | _ :: _ :: columns =>
      have none : more = [] := by
        have lengths := congrArg List.length before
        simp only [List.length_append, List.length_cons] at lengths
        change 8 = _ + 6 + more.length at lengths
        exact List.length_eq_zero_iff.mp (by omega)
      rw [none, List.append_nil] at before
      exact bracketless (by rw [← before]; decide)
  · exact bracketless (by rw [before]; simp)

private theorem query_of_not_probe
    (other : Text.stripPrefix? "SELECT EXISTS (SELECT 1 FROM ".toList sql.toList = none) :
    (query sql parameters s).1 = if Text.startsWith sql "SELECT EXISTS " then
      .error (unsupported sql) else s.runSelect sql parameters := by
  have failed : s.runExists sql parameters = .error (unsupported sql) := by
    rw [runExists, other]
    rfl
  rw [← failed]
  rfl

private theorem answeredBy_of_split (plain : Text.IsPlain name) {columns after text : List Char}
    (filters : after = [] ∨ ∃ filter, after = " WHERE ".toList ++ filter)
    (other : Text.stripPrefix? "SELECT EXISTS (SELECT 1 FROM ".toList sql.toList = none)
    (words : sql.toList = "SELECT ".toList ++ text)
    (split : Text.splitOnce? " FROM ".toList text = some (columns, name.toList ++ after)) :
    AnsweredBy name sql := by
  intro parameters
  obtain ⟨part, filter?, parts, answered⟩ := runSelect_selection words split parameters
  have clear (after : List Char) : Text.Clear " WHERE ".toList name.toList after :=
    clear_name plain (by decide) after
  have named : part = name.toList := by
    rcases filters with rfl | ⟨filter, rfl⟩
    · rw [List.append_nil, Text.splitOnce?_eq_none (by decide) (clear [])] at parts
      exact congrArg Prod.fst parts
    · rw [Text.splitOnce?_append (clear _)] at parts
      exact congrArg Prod.fst parts
  refine ⟨fun found => if Text.startsWith sql "SELECT EXISTS " then .error (unsupported sql)
    else found >>= selection sql parameters columns filter?, fun s => ?_⟩
  rw [query_of_not_probe other, answered, named, String.ofList_toList]

/-- A statement that reads columns is answered by the table whose name stands behind them, unless
the last column is called as the word in between: then it makes no sense to any store. -/
theorem answeredBy_or_unanswered (plain : Text.IsPlain name) {columns : List MemoryColumn}
    (columns_plain : ∀ c ∈ columns, Text.IsPlain c.name) {after : List Char}
    (filters : after = [] ∨ ∃ filter, after = " WHERE ".toList ++ filter)
    (words : sql.toList = "SELECT ".toList ++
      (namesText columns ++ (" FROM ".toList ++ (name.toList ++ after)))) :
    AnsweredBy name sql ∨ Unanswered sql := by
  have other := not_probe (not_mem_namesText columns_plain (by decide) (by decide)) words
  rcases Text.splitOnce?_known ' ' "FROM ".toList (namesText columns) (name.toList ++ after) with
    known | ⟨part, more, rest, blank, known⟩
  · exact .inl (answeredBy_of_split plain filters other words known)
  · right
    intro parameters s plain
    obtain ⟨front, rfl⟩ := comma_of_blank columns_plain blank
    obtain ⟨part, filter?, -, answered⟩ := runSelect_selection words known parameters
    rw [query_of_not_probe other, answered]
    split
    · exact ⟨_, rfl⟩
    · cases found : s.table (String.ofList part) with
      | error failure => exact ⟨failure, rfl⟩
      | ok t => exact selection_of_comma (plain t (table_ok found).1) front filter?

theorem answeredBy_column (plain : Text.IsPlain name) {column : String}
    (column_plain : Text.IsPlain column) (words : sql.toList =
      "SELECT ".toList ++ (column.toList ++ (" FROM ".toList ++ name.toList))) :
    AnsweredBy name sql := by
  rw [← List.append_nil name.toList] at words
  have bracketless : '(' ∉ column.toList := fun member => by cases column_plain '(' member
  exact answeredBy_of_split plain (.inl rfl) (not_probe bracketless words) words
    (Text.splitOnce?_append (clear_name column_plain (by decide) _))

theorem answeredBy_count (plain : Text.IsPlain name) (words : sql.toList =
      "SELECT ".toList ++ ("COUNT(*)".toList ++ (" FROM ".toList ++ name.toList))) :
    AnsweredBy name sql := by
  rw [← List.append_nil name.toList] at words
  refine answeredBy_of_split plain (.inl rfl) ?_ words
    (Text.splitOnce?_append (Text.clear_of_not_mem (by decide) _))
  rw [words]
  rfl

theorem answeredBy_exists (plain : Text.IsPlain name) {clauses : List Char} (words : sql.toList =
      "SELECT EXISTS (SELECT 1 FROM ".toList ++
        ((name.toList ++ (" WHERE ".toList ++ clauses)) ++ [')'])) : AnsweredBy name sql := by
  intro parameters
  have probes : Text.startsWith sql "SELECT EXISTS " = true := by
    rw [Text.startsWith, words]
    rfl
  have inner : (Text.stripPrefix? "SELECT EXISTS (SELECT 1 FROM ".toList sql.toList).bind
      (Text.stripSuffix? [')']) = some (name.toList ++ (" WHERE ".toList ++ clauses)) := by
    rw [words, Text.stripPrefix?_append, Option.bind_some, Text.stripSuffix?_append]
  have named : Text.splitOnce? " WHERE ".toList (name.toList ++ (" WHERE ".toList ++ clauses)) =
      some (name.toList, clauses) :=
    Text.splitOnce?_append (clear_name plain (by decide) _)
  refine ⟨fun found => do
    let t ← found
    let wanted ← ((Text.splitAll " AND ".toList clauses).zip parameters).mapM fun pair =>
      comparison sql t pair.1 pair.2
    .ok [[.int64 (if t.rows.any (matchesAll wanted) then 1 else 0)]], fun s => ?_⟩
  rw [query, if_pos probes, runExists, inner]
  simp only [named, String.ofList_toList]

end Reading

section Writing

variable {name sql : String} (settings : MemorySettings)

private theorem truncation_apply (name : String) (parameters : List Value) (s : MemoryStore) :
    execute settings (truncation name) parameters s =
      match s.table name with
      | .ok t => (.ok t.rows.length, (s.remember (truncation name)).setRows name [])
      | .error failure => (.error failure, s.remember (truncation name)) :=
  execute_truncateStatement .exact

theorem changes_truncation (name : String) : Changes settings name (truncation name) := by
  intro parameters
  refine ⟨fun found => found.map fun t => (t.rows.length, []), fun s => ?_⟩
  rw [truncation_apply]
  cases s.table name with
  | ok t => rfl
  | error failure => rfl

/-- What an insert makes of its table, as far as the text behind the table's name says. -/
private def insertion (settings : MemorySettings) (sql : String) (rest : List Char)
    (parameters : List Value) (found : Outcome MemoryTable) : Outcome (Nat × List Row) := do
  if let some failure := simulatedFailure? settings parameters then .error failure
  let some (columns, markers) := (Text.stripSuffix? [')'] rest).bind
      (Text.splitOnce? ") VALUES (".toList) | .error (unsupported sql)
  let t ← found
  let row ← fillRow settings t (t.columns.map fun _ => .null)
    (((Text.splitAll ", ".toList columns).zip (Text.splitAll ", ".toList
      (Text.replaceAll unhexChars ['U'] markers))).zip parameters)
  if let some failure := repeatedKey? t row then .error failure
  .ok (1, t.rows ++ [row])

private theorem runInsert_insertion (plain : Text.IsPlain name) {rest : List Char}
    (words : sql.toList = "INSERT INTO ".toList ++ (name.toList ++ (" (".toList ++ rest)))
    (parameters : List Value) (s : MemoryStore) :
    runInsert settings s sql parameters =
      (insertion settings sql rest parameters (s.table name)).map fun made =>
        (made.1, s.setRows name made.2) := by
  have named : Text.splitOnce? " (".toList (name.toList ++ (" (".toList ++ rest)) =
      some (name.toList, rest) :=
    Text.splitOnce?_append (clear_name plain (by decide) _)
  rw [runInsert, insertion, words]
  cases simulatedFailure? settings parameters with
  | some failure => rfl
  | none =>
    simp only [Text.stripPrefix?_append, named, String.ofList_toList, bind, Except.bind]
    cases (Text.stripSuffix? [')'] rest).bind (Text.splitOnce? ") VALUES (".toList) with
    | none => rfl
    | some parts =>
      obtain ⟨columns, markers⟩ := parts
      dsimp only
      cases s.table name with
      | error failure => rfl
      | ok t =>
        dsimp only
        generalize fillRow settings t _ _ = filled
        cases filled with
        | error failure => rfl
        | ok row =>
          dsimp only
          cases repeatedKey? t row with
          | none => rfl
          | some failure => rfl

theorem changes_insert (plain : Text.IsPlain name) {rest : List Char}
    (words : sql.toList = "INSERT INTO ".toList ++ (name.toList ++ (" (".toList ++ rest))) :
    Changes settings name sql := by
  intro parameters
  refine ⟨insertion settings sql rest parameters, fun s => ?_⟩
  have emptying : Text.stripPrefix? "TRUNCATE TABLE ".toList sql.toList = none := by
    rw [words]
    rfl
  have remembered : (s.remember sql).table name = s.table name := rfl
  rw [execute]
  simp only [emptying, runInsert_insertion settings plain words, remembered]
  cases insertion settings sql rest parameters (s.table name) with
  | ok made => rfl
  | error failure => rfl

end Writing

end MemoryStore

end RowSync
