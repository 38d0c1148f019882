import RowSync.Proofs.Copying.ExactVerification
import RowSync.Proofs.Sync.Triple
import RowSync.Sync.Validation

/-!
What a validation between two stores in memory reports is exact: of every source table the rows in
which some value is longer than a destination column allows, whichever of the two statements is
sent to find them.
-/

set_option autoImplicit false

namespace RowSync

/-- The source column goes to the destination column, and the bounds of the two do not say that
every value fits. -/
def MemoryColumn.clashes (c d : MemoryColumn) : Bool :=
  Text.sameAscii c.name d.name && !isCompatible c.described d.described

/-- The pair of a destination column and the source column that feeds it, if their bounds do not say
that every value fits. -/
def clash? (source : Table) (d : Column) : Option ColumnPair :=
  (source.find? d.key).bind fun c => if isCompatible c d then none else some ⟨c, d⟩

theorem incompatibleAmong_ok {source target : Table} {columns : List Column}
    {pairs : List ColumnPair} (found : (incompatibleAmong source target columns).1 = .ok pairs) :
    pairs = columns.filterMap (clash? source) := by
  induction columns generalizing pairs with
  | nil =>
    cases found
    rfl
  | cons d columns ih =>
    rw [incompatibleAmong, Table.lookup, Table.column] at found
    cases search : source.find? (Text.lower d.name) with
    | none =>
      rw [search] at found
      cases found
    | some c =>
      simp only [search] at found
      cases rest : (incompatibleAmong source target columns).1 with
      | error failure =>
        rw [rest] at found
        cases found
      | ok more =>
        rw [rest] at found
        cases found
        have here : clash? source d = if isCompatible c d then none else some ⟨c, d⟩ := by
          rw [clash?, Column.key, search, Option.bind_some]
        rw [ih rest]
        split
        · rename_i fits
          rw [List.filterMap_cons_none (by rw [here, if_pos fits])]
          rfl
        · rename_i unfit
          rw [List.filterMap_cons_some (by rw [here, if_neg unfit])]
          rfl

theorem toList_lengthPredicate {α : Type} {resolution : Value.TimeResolution} {l : List α}
    {pair : α → Column × Column} {limit : α → BoundedColumn}
    (same : ∀ a ∈ l, (limit a).1.name = (pair a).1.name ∧
      ((limit a).2 : Int) = (pair a).2.maxChars) :
    (lengthPredicate (.plain resolution) (l.map pair)).toList =
      BoundedColumn.filterText (l.map limit) := by
  rw [lengthPredicate, String.toList_intercalate, BoundedColumn.filterText, List.map_map,
    List.map_map, List.map_map]
  congr 1
  refine List.map_congr_left fun a member => ?_
  obtain ⟨name, number⟩ := same a member
  change ("LENGTH(" ++ (pair a).1.name ++ ") > " ++ toString (pair a).2.maxChars).toList =
    BoundedColumn.limitText (limit a)
  unfold BoundedColumn.limitText
  simp only [String.toList_append, name, number, List.append_assoc]

namespace MemoryTable

/-- Some value of a source row is longer than a column that it clashes with allows. -/
def overflows (m t : MemoryTable) (row : Row) : Bool :=
  m.columns.any fun c => t.columns.any fun d => c.clashes d &&
    decide (d.described.maxChars < MemoryStore.valueLength (MemoryStore.cell row (m.indexOf c)))

/-- The source rows that overflow, in their order. -/
def overflowing (m t : MemoryTable) : List Row := m.rows.filter (m.overflows t)

/-- What is to be reported about a source table whose rows go to the other table. -/
def validation (m t : MemoryTable) : TableValidation where
  table := m.name
  columns := (t.columns.filter fun d => m.columns.any (·.clashes d)).map (·.name)
  rowIds := if m.hasId && t.hasId then (m.overflowing t).map fun row => (m.idOf row).idText else []
  rowCount := (m.overflowing t).length

/-- Some value of a source row respects the bound of its own column, if there is one, but not the
positive bound of the column that it goes to, and these are no identifier and its bytes. -/
def Outgrows (m t : MemoryTable) (row : Row) : Prop :=
  ∃ c ∈ m.columns, ∃ d ∈ t.columns, Text.sameAscii c.name d.name = true ∧
    (c.described.maxChars = 0 ∨
      (MemoryStore.valueLength (MemoryStore.cell row (m.indexOf c)) : Int) ≤
        c.described.maxChars) ∧
    0 < d.described.maxChars ∧
    d.described.maxChars < MemoryStore.valueLength (MemoryStore.cell row (m.indexOf c)) ∧
    (isUuidBinaryPair c.described d.described || isUuidBinaryPair d.described c.described) = false

/-- The column that clashes with a destination column, and that column. -/
def clashWith? (m : MemoryTable) (d : MemoryColumn) : Option (MemoryColumn × MemoryColumn) :=
  (m.column? d.name).bind fun c =>
    if isCompatible c.described d.described then none else some (c, d)

def clashing (m t : MemoryTable) : List (MemoryColumn × MemoryColumn) :=
  t.columns.filterMap m.clashWith?

variable {m t : MemoryTable}

theorem column?_eq_some_iff (named : m.WellNamed) {name : String} {c : MemoryColumn} :
    m.column? name = some c ↔ c ∈ m.columns ∧ Text.sameAscii c.name name = true := by
  constructor
  · intro found
    exact ⟨List.mem_of_find?_eq_some found, by simpa using List.find?_some found⟩
  · rintro ⟨member, same⟩
    refine find?_of_nodup named.columns_distinct member fun d _ => ?_
    rw [Text.sameAscii_iff, Text.sameAscii_iff.mp same]

theorem clashWith?_eq_some_iff (named : m.WellNamed) {d : MemoryColumn}
    {p : MemoryColumn × MemoryColumn} :
    m.clashWith? d = some p ↔ p.1 ∈ m.columns ∧ p.1.clashes d = true ∧ p.2 = d := by
  obtain ⟨c, e⟩ := p
  simp only [clashWith?, Option.bind_eq_some_iff, column?_eq_some_iff named,
    MemoryColumn.clashes, Bool.and_eq_true, Bool.not_eq_true']
  constructor
  · rintro ⟨c', ⟨member, same⟩, pair⟩
    split at pair
    · cases pair
    · rename_i unfit
      cases pair
      exact ⟨member, ⟨same, by simpa using unfit⟩, rfl⟩
  · rintro ⟨member, ⟨same, unfit⟩, rfl⟩
    exact ⟨c, ⟨member, same⟩, by rw [unfit]; rfl⟩

theorem mem_clashing_iff (named : m.WellNamed) {p : MemoryColumn × MemoryColumn} :
    p ∈ m.clashing t ↔ p.1 ∈ m.columns ∧ p.2 ∈ t.columns ∧ p.1.clashes p.2 = true := by
  simp only [clashing, List.mem_filterMap, clashWith?_eq_some_iff named]
  constructor
  · rintro ⟨d, member, here, clash, rfl⟩
    exact ⟨here, member, clash⟩
  · rintro ⟨here, member, clash⟩
    exact ⟨p.2, member, here, clash, rfl⟩

theorem map_name_clashing (named : m.WellNamed) (t : MemoryTable) :
    (m.clashing t).map (·.2.name) = (m.validation t).columns := by
  rw [clashing, validation]
  induction t.columns with
  | nil => rfl
  | cons d columns ih =>
    have exact_match : (m.clashWith? d).isSome = m.columns.any (·.clashes d) := by
      rw [Bool.eq_iff_iff, Option.isSome_iff_exists, List.any_eq_true]
      simp [clashWith?_eq_some_iff named]
    cases found : m.clashWith? d with
    | none =>
      rw [found] at exact_match
      rw [List.filterMap_cons_none found, List.filter_cons_of_neg (by simp [← exact_match]), ih]
    | some p =>
      obtain ⟨-, -, same⟩ := (clashWith?_eq_some_iff named).mp found
      rw [found] at exact_match
      rw [List.filterMap_cons_some found, List.filter_cons_of_pos (by simp [← exact_match]),
        List.map_cons, List.map_cons, ih, same]

private theorem clash?_described (named : m.WellNamed) {d : MemoryColumn}
    (plain : Text.IsPlain d.name) :
    clash? m.described d.described =
      (m.clashWith? d).map fun p => ⟨p.1.described, p.2.described⟩ := by
  have lookup := find?_described named plain
  change Table.find? m.described d.described.key = _ at lookup
  rw [clash?, clashWith?, lookup]
  cases m.column? d.name with
  | none => rfl
  | some c =>
    rw [Option.map_some, Option.bind_some, Option.bind_some]
    split
    · rfl
    · rfl

theorem incompatibleColumns_ok (named : m.WellNamed) (target : t.WellNamed)
    {pairs : List ColumnPair}
    (found : (incompatibleColumns m.described t.described).1 = .ok pairs) :
    pairs = (m.clashing t).map fun p => ⟨p.1.described, p.2.described⟩ := by
  rw [incompatibleAmong_ok found, clashing, List.map_filterMap]
  change (t.columns.map MemoryColumn.described).filterMap (clash? m.described) = _
  rw [List.filterMap_map]
  exact List.filterMap_congr fun d member => clash?_described named (target.columns_plain d member)

theorem Outgrows.mem_overflowing {row : Row} (outgrows : m.Outgrows t row) (member : row ∈ m.rows) :
    row ∈ m.overflowing t := by
  obtain ⟨c, here, d, there, same, respects, positive, longer, apart⟩ := outgrows
  have clash : c.clashes d = true := by
    rw [MemoryColumn.clashes, same, Bool.true_and, Bool.not_eq_true', isCompatible]
    split
    · rename_i unbounded
      simp only [Bool.and_eq_true, beq_iff_eq] at unbounded
      omega
    · split
      -- both are bounded, and the value tells that the other bound is the smaller one
      · rename_i bounds
        simp only [Bool.and_eq_true, decide_eq_true_eq] at bounds
        rw [decide_eq_false_iff_not]
        omega
      · exact apart
  rw [overflowing, List.mem_filter]
  refine ⟨member, List.any_eq_true.mpr ⟨c, here, List.any_eq_true.mpr ⟨d, there, ?_⟩⟩⟩
  rw [clash, Bool.true_and, decide_eq_true longer]

/-- The columns that clash, each with the bound of the other one. -/
def limits (m t : MemoryTable) : List BoundedColumn :=
  (m.clashing t).map fun p => (p.1, p.2.described.maxChars.toNat)

theorem limits_within (named : m.WellNamed) : ∀ c ∈ m.limits t, c.1 ∈ m.columns := by
  intro c member
  obtain ⟨p, here, rfl⟩ := List.mem_map.mp member
  exact ((mem_clashing_iff named).mp here).1

/-- A row overflows when it exceeds one of the limits. -/
theorem exceeds_limits (named : m.WellNamed) (bounded : ∀ d ∈ t.columns, 0 ≤ d.described.maxChars) :
    MemoryStore.exceeds m (m.limits t) = m.overflows t := by
  funext row
  rw [Bool.eq_iff_iff, MemoryStore.exceeds, limits, List.any_map, overflows]
  simp only [List.any_eq_true, Function.comp_apply, Bool.and_eq_true, decide_eq_true_eq,
    mem_clashing_iff named]
  constructor
  · rintro ⟨p, ⟨here, there, clash⟩, longer⟩
    have bound := bounded p.2 there
    exact ⟨p.1, here, p.2, there, clash, by omega⟩
  · rintro ⟨c, here, d, there, clash, longer⟩
    have bound := bounded d there
    exact ⟨(c, d), ⟨here, there, clash⟩, by simp only; omega⟩

theorem overflowing_of_no_clash (named : m.WellNamed) (none : m.clashing t = []) :
    m.overflowing t = [] := by
  rw [overflowing, List.filter_eq_nil_iff]
  intro row _ overflows
  simp only [MemoryTable.overflows, List.any_eq_true, Bool.and_eq_true] at overflows
  obtain ⟨c, here, d, there, clash, -⟩ := overflows
  have member : (c, d) ∈ m.clashing t := (mem_clashing_iff named).mpr ⟨here, there, clash⟩
  rw [none] at member
  cases member

theorem validation_of_no_clash (named : m.WellNamed) (none : m.clashing t = []) :
    m.validation t = { table := m.name } := by
  have columns := map_name_clashing named t
  rw [none] at columns
  rw [validation, overflowing_of_no_clash named none, List.map_nil, ite_self]
  congr 1
  exact columns.symm

theorem lengthPredicate_plain (resolution : Value.TimeResolution)
    (bounded : ∀ d ∈ t.columns, 0 ≤ d.described.maxChars) (named : m.WellNamed) :
    (lengthPredicate (.plain resolution)
      ((m.clashing t).map fun p => (p.1.described, p.2.described))).toList =
      BoundedColumn.filterText (m.limits t) :=
  toList_lengthPredicate fun p member =>
    ⟨rfl, Int.toNat_of_nonneg (bounded p.2 ((mem_clashing_iff named).mp member).2.1)⟩

theorem identity?_described (named : m.WellNamed) :
    match m.described.identity? with
    | some id => m.hasId = true ∧ ∃ c ∈ m.columns, id.name = c.name ∧
        ∀ row, m.idOf row = MemoryStore.cell row (m.indexOf c)
    | none => m.hasId = false := by
  have identified : m.hasId = m.described.identity?.isSome := by
    rw [← hasIdentity_described named, Table.hasIdentity, Table.identityIndex?, Table.identity?,
      List.findIdx?_isSome, Bool.eq_iff_iff, List.find?_isSome, List.any_eq_true]
  cases found : m.described.identity? with
  | none => simpa [found] using identified
  | some id =>
    rw [found] at identified
    obtain ⟨c, member, name, cells⟩ := identity_of_hasId named identified
    rw [TablePlan.identityName, found] at name
    exact ⟨identified, c, member, name, cells⟩

end MemoryTable

namespace Validation

variable {sourceSettings settings : MemorySettings} {options : DiagnosticOptions}
  {source : List MemoryTable} {m t : MemoryTable} {α β γ : Type}

/-- Started with these source tables, the run leaves them as they are when it succeeds, and then
its result is as described. -/
def Finds (source : List MemoryTable) (run : Run MemoryStore MemoryStore α) (R : α → Prop) : Prop :=
  Run.Triple (fun s => s.source.tables = source) run
    (fun a s => R a ∧ s.source.tables = source) fun _ _ => True

namespace Finds

variable {run : Run MemoryStore MemoryStore α} {R R' : α → Prop} {S : β → Prop}

private theorem silent :
    Run.Silent fun s : RunState MemoryStore MemoryStore => s.source.tables = source :=
  fun _ _ tables => tables

theorem mono (finds : Finds source run R) (weaker : ∀ a, R a → R' a) : Finds source run R' :=
  Run.Triple.mono finds (fun _ tables => tables) (fun a _ => And.imp_left (weaker a))
    fun _ _ => id

protected theorem pure {a : α} (holds : R a) : Finds source (pure a) R :=
  Run.Triple.pure fun _ tables => ⟨holds, tables⟩

protected theorem bind {next : α → Run MemoryStore MemoryStore β} (first : Finds source run R)
    (rest : ∀ a, R a → Finds source (next a) S) : Finds source (run >>= next) S :=
  Run.Triple.bind first fun a s met => rest a met.1 s met.2

theorem ite {c : Prop} [Decidable c] {other : Run MemoryStore MemoryStore α}
    (yes : c → Finds source run R) (no : ¬c → Finds source other R) :
    Finds source (if c then run else other) R :=
  Run.Triple.ite yes no

theorem ofOutcome {outcome : Outcome α} (success : ∀ a, outcome = .ok a → R a) :
    Finds source (Run.ofOutcome outcome) R :=
  Run.Triple.ofOutcome (fun a answer _ tables => ⟨success a answer, tables⟩) fun _ _ _ _ => trivial

theorem reported {result : Outcome α × List LogLine} (success : ∀ a, result.1 = .ok a → R a) :
    Finds source (Run.reported result) R :=
  Run.Triple.reported silent (fun a answer _ tables => ⟨success a answer, tables⟩)
    fun _ _ _ _ => trivial

theorem within {label : String} (finds : Finds source run R) : Finds source (run.within label) R :=
  Run.Triple.within finds

theorem log_bind {level : LogLevel} {text : String} (finds : Finds source run R) :
    Finds source (Run.log level text >>= fun _ => run) R :=
  (Run.Triple.log silent level text).bind fun _ => finds

theorem logSql_bind {sql : String} (finds : Finds source run R) :
    Finds source (Run.logSql options sql >>= fun _ => run) R :=
  (Run.Triple.logSql silent options sql).bind fun _ => finds

theorem query {sql : String} {R : List Row → Prop}
    (success : ∀ (s : MemoryStore) (rows : List Row), s.tables = source →
      (MemoryStore.query sql [] s).1 = .ok rows → R rows) :
    Finds source (Run.onSource (MemoryStore.query sql [])) R :=
  Run.Triple.onSource
    (fun s rows tables answered => ⟨success s.source rows tables answered, tables⟩)
    fun _ _ _ _ => trivial

theorem logged {find : Run MemoryStore MemoryStore TableValidation} {R : TableValidation → Prop}
    (finds : Finds source find R) :
    Finds source (find >>= fun found =>
      if found.isClean then pure found
      else Run.log .warn (exceededLine found) >>= fun _ => pure found) R :=
  finds.bind fun _ holds => .ite (fun _ => .pure holds) fun _ => .log_bind (.pure holds)

theorem mapList {step : β → Run MemoryStore MemoryStore α} {l : List β} {R : β → α → Prop}
    (each : ∀ b ∈ l, Finds source (step b) (R b)) :
    Finds source (Run.mapList step l) (List.Forall₂ R l) :=
  Run.Triple.mapList_related each

end Finds

theorem toList_idsStatement (resolution : Value.TimeResolution) (source : Table) (id : Column)
    (condition : String) :
    (idsStatement (.plain resolution) source id condition).toList =
      "SELECT ".toList ++ (id.name.toList ++ (" FROM ".toList ++ (source.name.toList ++
        (" WHERE ".toList ++ condition.toList)))) := by
  change ("SELECT " ++ id.name ++ " FROM " ++ source.name ++ " WHERE " ++ condition).toList = _
  simp only [String.toList_append, List.append_assoc]

theorem toList_countingStatement (resolution : Value.TimeResolution) (source : Table)
    (condition : String) :
    (countingStatement (.plain resolution) source condition).toList =
      "SELECT COUNT(*) FROM ".toList ++ (source.name.toList ++
        (" WHERE ".toList ++ condition.toList)) := by
  change ("SELECT COUNT(*) FROM " ++ source.name ++ " WHERE " ++ condition).toList = _
  simp only [String.toList_append, List.append_assoc]

section Finding

variable (stored : m.StoredIn source) (named : m.WellNamed)
  (bounded : ∀ d ∈ t.columns, 0 ≤ d.described.maxChars) (some_clash : m.clashing t ≠ [])
  {condition : String}
  (conditioned : condition.toList = BoundedColumn.filterText (m.limits t))

include stored named bounded some_clash conditioned

theorem listRows_finds {id : Column} {c : MemoryColumn} (member : c ∈ m.columns)
    (same : id.name = c.name) (found : TableValidation) :
    Finds source (listRows (.inMemory sourceSettings settings) options m.described id condition
      found) (· = { found with
        rowIds := (m.overflowing t).map fun row => (MemoryStore.cell row (m.indexOf c)).idText
        rowCount := (m.overflowing t).length }) := by
  have some_limit : m.limits t ≠ [] := by simpa [MemoryTable.limits] using some_clash
  have words : (idsStatement (.plain sourceSettings.resolution) m.described id condition).toList =
      "SELECT ".toList ++ (namesText [c] ++ (" FROM ".toList ++ (m.name.toList ++
        (" WHERE ".toList ++ BoundedColumn.filterText (m.limits t))))) := by
    rw [toList_idsStatement, conditioned, same, namesText, List.map_singleton,
      List.intercalate_singleton]
    rfl
  have answered : ∀ (s : MemoryStore) (rows : List Row), s.tables = source →
      (MemoryStore.query (idsStatement (.plain sourceSettings.resolution) m.described id condition)
        [] s).1 = .ok rows →
      rows = (m.overflowing t).map fun row => [MemoryStore.cell row (m.indexOf c)] := by
    intro s rows tables answered
    have read := MemoryStore.query_exceeding (tables ▸ stored) named some_limit
      (MemoryTable.limits_within named) (by simpa using member) (by simp) words [] answered
    rwa [MemoryTable.exceeds_limits named bounded] at read
  unfold listRows
  refine .logSql_bind (.bind (.within (.query answered)) fun rows read => .pure ?_)
  simp [read, idsIn, List.filterMap_map, Function.comp_def]

theorem countRows_finds (countable : m.rows.length < 2 ^ 63) (found : TableValidation) :
    Finds source (countRows (.inMemory sourceSettings settings) options m.described condition
      found) (· = { found with rowCount := (m.overflowing t).length }) := by
  have some_limit : m.limits t ≠ [] := by simpa [MemoryTable.limits] using some_clash
  have words : (countingStatement (.plain sourceSettings.resolution) m.described
      condition).toList = "SELECT COUNT(*) FROM ".toList ++ (m.name.toList ++
        (" WHERE ".toList ++ BoundedColumn.filterText (m.limits t))) := by
    rw [toList_countingStatement, conditioned]
    rfl
  have answered : ∀ (s : MemoryStore) (rows : List Row), s.tables = source →
      (MemoryStore.query (countingStatement (.plain sourceSettings.resolution) m.described
        condition) [] s).1 = .ok rows →
      rows = [[.int64 (Int64.ofNat (m.overflowing t).length)]] := by
    intro s rows tables answered
    have read := MemoryStore.query_count_exceeding (tables ▸ stored) named some_limit
      (MemoryTable.limits_within named) words [] answered
    rwa [MemoryTable.exceeds_limits named bounded] at read
  have few : (m.overflowing t).length < 2 ^ 63 :=
    Nat.lt_of_le_of_lt (List.length_filter_le _ _) countable
  have counted : ∀ rows, rows = [[.int64 (Int64.ofNat (m.overflowing t).length)]] →
      ∀ count, RowFlow.countIn m.described.name rows = .ok count →
        count = ((m.overflowing t).length : Int) := by
    rintro rows rfl count counted
    cases counted
    exact Int64.toInt_ofNat_of_lt few
  unfold countRows
  refine .logSql_bind (.bind (.within (.query answered)) fun rows read => ?_)
  exact .bind (.ofOutcome (counted rows read)) fun count is => .pure (by rw [is])

end Finding

section Tables

variable (stored : m.StoredIn source) (named : m.WellNamed) (target : t.WellNamed)
  (bounded : ∀ d ∈ t.columns, 0 ≤ d.described.maxChars)
  (countable : m.rows.length < 2 ^ 63)

include stored named target bounded countable

theorem findRows_finds (some_clash : m.clashing t ≠ []) :
    Finds source (findRows (.inMemory sourceSettings settings) options m.described t.described
      ((m.clashing t).map fun p => ⟨p.1.described, p.2.described⟩)) (· = m.validation t) := by
  have conditioned := MemoryTable.lengthPredicate_plain sourceSettings.resolution bounded named
  have columns := MemoryTable.map_name_clashing named t
  have identified := MemoryTable.identity?_described named
  have hasId := MemoryTable.hasIdentity_described target
  have counts {condition : String}
      (conditioned : condition.toList = BoundedColumn.filterText (m.limits t))
      (apart : (m.hasId && t.hasId) = false) :
      Finds source (countRows (.inMemory sourceSettings settings) options m.described condition
        ⟨m.name, (m.clashing t).map (·.2.name), [], 0⟩) (· = m.validation t) := by
    refine (countRows_finds stored named bounded some_clash conditioned countable _).mono
      fun v is => ?_
    rw [is, columns, MemoryTable.validation, apart]
    rfl
  have lists {condition : String}
      (conditioned : condition.toList = BoundedColumn.filterText (m.limits t)) {id : Column}
      {c : MemoryColumn} (member : c ∈ m.columns) (same : id.name = c.name)
      (cells : ∀ row, m.idOf row = MemoryStore.cell row (m.indexOf c))
      (both : (m.hasId && t.hasId) = true) :
      Finds source (listRows (.inMemory sourceSettings settings) options m.described id condition
        ⟨m.name, (m.clashing t).map (·.2.name), [], 0⟩) (· = m.validation t) := by
    refine (listRows_finds stored named bounded some_clash conditioned member same _).mono
      fun v is => ?_
    rw [is, columns, MemoryTable.validation, both]
    simp only [cells]
    rfl
  unfold findRows
  simp only [List.map_map, Function.comp_def]
  -- identities are asked for only where both tables have one, and rows are counted otherwise
  cases found : m.described.identity? with
  | none =>
    rw [found] at identified
    exact (counts conditioned (by rw [identified, Bool.false_and])).logged
  | some id =>
    rw [found] at identified
    obtain ⟨here, c, member, same, cells⟩ := identified
    cases there : t.described.hasIdentity with
    | false => exact (counts conditioned (by rw [← hasId, there, Bool.and_false])).logged
    | true =>
      exact (lists conditioned member same cells (by rw [← hasId, there, here]; rfl)).logged

theorem validateTable_finds :
    Finds source
      (validateTable (.inMemory sourceSettings settings) options m.described t.described)
      (· = m.validation t) := by
  unfold validateTable
  refine .bind (.reported fun pairs => MemoryTable.incompatibleColumns_ok named target)
    fun pairs is => ?_
  subst is
  refine .ite (fun none => .log_bind (.pure ?_)) fun some => ?_
  · rw [MemoryTable.validation_of_no_clash named (by simpa using none)]
    rfl
  · exact findRows_finds stored named target bounded countable (by simpa using some)

end Tables

/-- The report about a source table is what is to be reported of it and its partner, and counts
every row that outgrows the partner. -/
def Counts (target : List MemoryTable) (m : MemoryTable) (e : TableValidation) : Prop :=
  ∃ t, m.partner? target = some t ∧ e = m.validation t ∧
    ∀ row ∈ m.rows, m.Outgrows t row → row ∈ m.overflowing t

section Running

variable {options : Options} {target : List MemoryTable} {schema : Schema}

/-- What a validation does about one source table. -/
theorem visit_finds (stored : m.StoredIn source) (named : m.WellNamed)
    (countable : m.rows.length < 2 ^ 63) (describes : schema.Describes target)
    (wellNamed : MemoryStore.WellNamed target) (readable : ∀ t ∈ target, t.Readable) :
    Finds source (do
        let t ← (Run.ofOutcome (schema.table m.described.key)).within
          "failed to get table from destination schema"
        unless t.name == m.described.name do Run.log .warn (spellingLine m.described t)
        validateTable (.inMemory sourceSettings settings) options.diagnostics m.described t)
      (Counts target m) := by
  have found := describes.table_eq wellNamed.named named.name_plain
  refine .bind (R := fun t => ∃ u, m.partner? target = some u ∧ t = u.described)
    (.within (.ofOutcome fun t answer => ?_)) fun t partner => ?_
  · rw [found] at answer
    cases partner : m.partner? target with
    | none =>
      rw [partner] at answer
      cases answer
    | some u =>
      rw [partner] at answer
      cases answer
      exact ⟨u, rfl, rfl⟩
  · obtain ⟨u, partner, rfl⟩ := partner
    obtain ⟨member, -⟩ := MemoryTable.partner?_eq_some partner
    have bounded : ∀ d ∈ u.columns, 0 ≤ d.described.maxChars :=
      fun d column => (readable u member d column).2.2
    have validated : Finds source (validateTable (.inMemory sourceSettings settings)
        options.diagnostics m.described u.described) (Counts target m) :=
      (validateTable_finds stored named (wellNamed.tables_wellNamed u member) bounded
        countable).mono fun e is =>
          ⟨u, partner, is, fun row here outgrows => outgrows.mem_overflowing here⟩
    exact .ite (fun _ => validated) fun _ => .log_bind validated

end Running

/-- A validation that succeeds counts exactly: of every source table with columns, and of no other
table, the rows that overflow the destination. In memory a table has fewer than `2 ^ 63` rows. -/
theorem run_counts {options : Options} {s s' : RunState MemoryStore MemoryStore}
    {results : List TableValidation} (source_wellFormed : s.source.WellFormed)
    (target_wellFormed : s.target.WellFormed)
    (countable : ∀ m ∈ s.source.tables, m.rows.length < 2 ^ 63)
    (ran : run (.inMemory sourceSettings settings) options s = (.ok results, s')) :
    (∃ tables, Verification.Visits s.source.tables tables ∧
      List.Forall₂ (Counts s.target.tables) tables results) ∧
    ∀ m ∈ s.source.tables, m.columns = [] → ∀ t, m.overflowing t = [] := by
  have source_wellNamed := source_wellFormed.wellNamed
  have target_wellNamed := target_wellFormed.wellNamed
  constructor
  · obtain ⟨pair, r, read, ran⟩ := Run.exists_of_bind_ok ran
    obtain ⟨results', r', validated, ran⟩ := Run.exists_of_bind_ok ran
    obtain ⟨-, -, -, ran⟩ := Run.exists_of_bind_ok ran
    cases ran
    obtain ⟨loaded, kept, -⟩ := SchemaPair.load_yields s rfl rfl
    rw [read] at loaded kept
    obtain ⟨tables, route⟩ := exists_route source_wellNamed.named target_wellNamed.named
      loaded.symm
    have visits := Verification.visits_of_route source_wellNamed target_wellNamed route
    -- the route was taken with some schemas, and these are the ones that were loaded
    obtain ⟨pair', again, same⟩ := route.loaded
    obtain rfl : pair = pair' := Except.ok.inj (loaded.trans again)
    have describes := (SchemaPair.describes_of_loaded source_wellNamed.named
      target_wellNamed.named again).2
    rw [same, Run.mapList_map] at validated
    refine ⟨tables, visits, (Run.Triple.success (Finds.mapList fun m member => ?_) kept
      (congrArg Prod.fst validated)).1⟩
    have here := ((route.mem_iff m).mp member).1
    exact visit_finds ⟨source_wellNamed.names_distinct, here⟩
      (source_wellNamed.tables_wellNamed m here) (countable m here) describes target_wellNamed
      (SchemaPair.loadable_of_loaded again).target_readable
  · intro m _ none t
    rw [MemoryTable.overflowing, List.filter_eq_nil_iff]
    intro row _
    rw [MemoryTable.overflows, none, List.any_nil]
    exact Bool.false_ne_true

private def countedSource : MemoryStore where
  tables := [
    ⟨"people", [⟨"id", "integer", none⟩, ⟨"name", "text", none⟩, ⟨"code", "varchar", some 4⟩],
      [[.int32 1, .text "Ann", .text "abcd"], [.int32 2, .text "Benjamin", .text "abcd"],
        [.int32 3, .null, .text "abcde"], [.int32 4, .text "Charlotte", .null]]⟩,
    ⟨"notes", [⟨"id", "integer", none⟩, ⟨"line", "text", none⟩, ⟨"mark", "text", none⟩],
      [[.int32 1, .text "four", .text "four"], [.int32 2, .text "two", .null],
        [.int32 3, .text "four", .null]]⟩,
    ⟨"keys", [⟨"guid", "uuid", none⟩], [[.bytes (List.replicate 17 0)]]⟩,
    ⟨"tags", [], [[]]⟩]

private def countedTarget : MemoryStore where
  tables := [
    ⟨"Notes", [⟨"Mark", "varchar", some 3⟩, ⟨"Line", "varchar", some 3⟩], []⟩,
    ⟨"Keys", [⟨"GUID", "binary", some 16⟩], []⟩,
    ⟨"People", [⟨"Code", "varchar", some 4⟩, ⟨"Name", "varchar", some 5⟩, ⟨"ID", "int", none⟩], []⟩]

/-- The people with long names or codes are listed, the notes are counted because the destination
has no identities of them, and the key is let pass for its types. -/
theorem run_counts_people_and_notes :
    ∃ tables results s', run (.inMemory {} {}) {} ⟨countedSource, countedTarget, {}⟩ =
        (.ok results, s') ∧
      Verification.Visits countedSource.tables tables ∧
      List.Forall₂ (Counts countedTarget.tables) tables results ∧
      results = [⟨"keys", [], [], 0⟩, ⟨"notes", ["Mark", "Line"], [], 2⟩,
        ⟨"people", ["Code", "Name"], ["2", "3", "4"], 3⟩] := by
  have outcome : (run (.inMemory {} {}) {} ⟨countedSource, countedTarget, {}⟩).1 =
      .ok [⟨"keys", [], [], 0⟩, ⟨"notes", ["Mark", "Line"], [], 2⟩,
        ⟨"people", ["Code", "Name"], ["2", "3", "4"], 3⟩] := by decide +kernel
  have ran := Run.eq_of_outcome outcome
  obtain ⟨⟨tables, visits, counted⟩, -⟩ :=
    run_counts (by decide) (by decide) (by decide) ran
  exact ⟨tables, _, _, ran, visits, counted, rfl⟩

end Validation

end RowSync
