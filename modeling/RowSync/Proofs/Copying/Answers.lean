import RowSync.Proofs.Copying.Plan

/-!
The answers of stores in memory to the statements planned for a copy, said on the rows that the
two tables have.
-/

set_option autoImplicit false

namespace RowSync

theorem length_foldl_set {α : Type} (cells : List (Nat × α)) (l : List α) :
    (cells.foldl (fun l cell => l.set cell.1 cell.2) l).length = l.length := by
  induction cells generalizing l with
  | nil => rfl
  | cons cell cells ih => rw [List.foldl_cons, ih, List.length_set]

theorem getElem?_foldl_set {α : Type} {cells : List (Nat × α)} {l : List α} {i : Nat}
    (distinct : (cells.map Prod.fst).Nodup) (bound : i < l.length) :
    (cells.foldl (fun l cell => l.set cell.1 cell.2) l)[i]? =
      match cells.find? fun cell => cell.1 == i with
      | some cell => some cell.2
      | none => l[i]? := by
  induction cells generalizing l with
  | nil => rfl
  | cons cell cells ih =>
    rw [List.map_cons, List.nodup_cons] at distinct
    rw [List.foldl_cons, ih distinct.2 (by simpa using bound), List.find?_cons]
    by_cases here : cell.1 = i
    · have later : cells.find? (fun other => other.1 == i) = none := by
        refine List.find?_eq_none.mpr fun other member same => distinct.1 ?_
        rw [here, ← beq_iff_eq.mp same]
        exact List.mem_map_of_mem member
      simp [later, here, bound]
    · have elsewhere : (cell.1 == i) = false := beq_eq_false_iff_ne.mpr here
      rw [elsewhere, List.getElem?_set_ne here]

namespace MemoryTable

variable {t : MemoryTable} {name : String} {c : MemoryColumn}

theorem column?_spec (named : t.WellNamed) (found : t.column? name = some c) :
    c ∈ t.columns ∧ t.position? name = some (t.indexOf c) := by
  have member : c ∈ t.columns := List.mem_of_find?_eq_some found
  have same : Text.sameAscii c.name name = true := by
    rw [column?] at found
    simpa using List.find?_some found
  have position := position?_of_mem named member
  rw [position?_congr same] at position
  exact ⟨member, position⟩

theorem getElem_of_indexOf (named : t.WellNamed) (member : c ∈ t.columns) {i : Nat}
    (index : t.indexOf c = i) {bound : i < t.columns.length} : t.columns[i] = c := by
  obtain ⟨k, inside, rfl⟩ := List.mem_iff_getElem.mp member
  have position := position?_getElem named inside
  rw [position?_of_mem named member, Option.some.injEq, index] at position
  simp only [position]

theorem column?_of_position? (named : t.WellNamed) {i : Nat} (found : t.position? name = some i) :
    ∃ c, t.column? name = some c ∧ t.indexOf c = i := by
  obtain ⟨bound, same, -⟩ := List.findIdx?_eq_some_iff_getElem.mp found
  cases search : t.column? name with
  | none =>
    have absent := List.find?_eq_none.mp search t.columns[i] (List.getElem_mem bound)
    exact absurd same absent
  | some c =>
    have position := (column?_spec named search).2
    exact ⟨c, rfl, Option.some.inj (position.symm.trans found)⟩

theorem identity_of_hasId (named : t.WellNamed) (identified : t.hasId = true) :
    ∃ c ∈ t.columns, TablePlan.identityName t.described = c.name ∧
      ∀ row, t.idOf row = MemoryStore.cell row (t.indexOf c) := by
  obtain ⟨i, position⟩ := Option.isSome_iff_exists.mp identified
  obtain ⟨c, found, rfl⟩ := column?_of_position? named position
  have identity : t.described.identity? = some c.described := by
    have search : t.columns.find? (fun c => c.described.isIdentity) = t.column? "id" :=
      List.find?_congr fun d member => isIdentity_described (named.columns_plain d member)
    rw [Table.identity?, described, List.find?_map]
    change (t.columns.find? fun c => c.described.isIdentity).map _ = _
    rw [search, found, Option.map_some]
  refine ⟨c, (column?_spec named found).1, ?_, fun row => ?_⟩
  · rw [TablePlan.identityName, identity]
    rfl
  · rw [idOf, position]

end MemoryTable

private theorem quote_plain (resolution : Value.TimeResolution) (name : String) :
    (Dialect.plain resolution).quote name = name := rfl

namespace TableCopy

variable {copy : TableCopy} {plan : TablePlan} {pairs : ColumnMatches} {s : MemoryStore}

section Source

variable {resolution : Value.TimeResolution}

theorem Planned.query_source (planned : copy.Planned plan pairs) (source : copy.source.WellFormed)
    (some : copy.source.columns ≠ []) (stored : copy.source.StoredIn s.tables)
    (parameters : List Value) :
    MemoryStore.query plan.selectSql parameters s =
      (.ok copy.source.rows, s.remember plan.selectSql) := by
  have rows : (copy.source.rows.map fun row => copy.source.columns.map fun c =>
      MemoryStore.cell row (copy.source.indexOf c)) = copy.source.rows :=
    (List.map_congr_left fun row member => MemoryTable.map_cell_indexOf source.toWellNamed
      (source.rows_complete row member)).trans (List.map_id _)
  rw [MemoryStore.query_select stored source.toWellNamed (List.Subset.refl _) some
    planned.select_eq, rows]

theorem Planned.query_excluding (planned : copy.Planned plan pairs)
    (source : copy.source.WellFormed) (identified : copy.source.hasId = true)
    (stored : copy.source.StoredIn s.tables) {parameters : List Value} (some : parameters ≠ []) :
    MemoryStore.query (plan.excludingSql (.plain resolution) parameters.length) parameters s =
      (.ok (copy.source.rows.filter fun row =>
        !parameters.any fun p => (copy.source.idOf row).nullSafeEq p),
        s.remember (plan.excludingSql (.plain resolution) parameters.length)) := by
  have named := source.toWellNamed
  obtain ⟨c, member, identity, idOf_eq⟩ := MemoryTable.identity_of_hasId named identified
  have nonzero : (parameters.length == 0) = false := by
    simpa using some
  have words : (plan.excludingSql (.plain resolution) parameters.length).toList =
      "SELECT ".toList ++ (namesText copy.source.columns ++ (" FROM ".toList ++
        (copy.source.name.toList ++ (" WHERE ".toList ++ (c.name.toList ++ (" NOT IN (".toList ++
          ((TablePlan.commaSeparated ((List.range parameters.length).map
            (Dialect.plain resolution).marker)).toList ++ ")".toList))))))) := by
    rw [TablePlan.excludingSql, nonzero, if_neg (by decide), planned.source_eq, identity]
    simp only [String.toList_append, planned.select_eq, quote_plain, List.append_assoc]
  rw [MemoryStore.query_excluding stored named (List.Subset.refl _) (List.ne_nil_of_mem member)
    member words]
  simp only [idOf_eq]
  congr 2
  refine (List.map_congr_left fun row kept => ?_).trans (List.map_id _)
  exact MemoryTable.map_cell_indexOf named
    (source.rows_complete row (List.mem_of_mem_filter kept))

theorem Planned.query_count (planned : copy.Planned plan pairs) (source : copy.source.WellNamed)
    (stored : copy.source.StoredIn s.tables) (parameters : List Value) :
    MemoryStore.query (countStatement (.plain resolution) plan.source) parameters s =
      (.ok [[.int64 (Int64.ofNat copy.source.rows.length)]],
        s.remember (countStatement (.plain resolution) plan.source)) := by
  have words : (countStatement (.plain resolution) plan.source).toList =
      "SELECT COUNT(*) FROM ".toList ++ copy.source.name.toList := by
    unfold countStatement
    rw [String.toList_append, quote_plain, planned.source_eq, MemoryTable.name_described]
  exact MemoryStore.query_count stored source words parameters

end Source

section Target

variable {resolution : Value.TimeResolution} {rows : List Row}

theorem Planned.query_targetIds (planned : copy.Planned plan pairs)
    (target : copy.target.WellNamed) (identified : copy.target.hasId = true)
    (stored : MemoryTable.StoredIn { copy.target with rows } s.tables) (parameters : List Value) :
    MemoryStore.query (plan.targetIdsSql (.plain resolution)) parameters s =
      (.ok (rows.map fun row => [copy.target.idOf row]),
        s.remember (plan.targetIdsSql (.plain resolution))) := by
  obtain ⟨c, member, identity, idOf_eq⟩ := MemoryTable.identity_of_hasId target identified
  have words : (plan.targetIdsSql (.plain resolution)).toList =
      "SELECT ".toList ++ (namesText [c] ++ (" FROM ".toList ++ copy.target.name.toList)) := by
    rw [TablePlan.targetIdsSql, planned.target_eq, identity]
    simp only [String.toList_append, namesText, List.map_singleton, List.intercalate_singleton,
      quote_plain, MemoryTable.name_described, List.append_assoc]
  rw [MemoryStore.query_select stored (target.withRows rows) (by simpa using member) (by simp)
    words]
  simp only [idOf_eq]
  rfl

end Target

section Cells

variable {row there : Row} {v : Value}

/-- The cells of a source row with the columns they come from and go to. -/
def cellsOf (pairs : ColumnMatches) (row : Row) : List ((MemoryColumn × MemoryColumn) × Value) :=
  pairs.zip row

private theorem zip_sources (planned : copy.Planned plan pairs) (row : Row) :
    copy.source.columns.zip row = (cellsOf pairs row).map fun cell => (cell.1.1, cell.2) := by
  rw [cellsOf, ← planned.sources, List.zip_map_left]
  rfl

private theorem zip_markers (markerOf : MemoryColumn → List Char) (f : Value → Value) (row : Row) :
    (pairs.map fun p => (p.2, markerOf p.1)).zip (row.map f) =
      (cellsOf pairs row).map fun cell => ((cell.1.2, markerOf cell.1.1), f cell.2) := by
  rw [cellsOf, List.zip_map]
  rfl

theorem Planned.position?_eq (planned : copy.Planned plan pairs) (target : copy.target.WellNamed)
    {p : MemoryColumn × MemoryColumn} (member : p ∈ pairs) :
    copy.target.position? p.1.name = some (copy.target.indexOf p.2) :=
  (MemoryTable.column?_spec target (planned.found p member)).2

theorem Planned.mem_target (planned : copy.Planned plan pairs) (target : copy.target.WellNamed)
    {p : MemoryColumn × MemoryColumn} (member : p ∈ pairs) : p.2 ∈ copy.target.columns :=
  (MemoryTable.column?_spec target (planned.found p member)).1

theorem throughMarker_probeMarker (c : MemoryColumn) :
    MemoryStore.throughMarker c.probeMarker (copy.normalized v) = copy.probedValue c v := by
  unfold MemoryStore.throughMarker MemoryColumn.probeMarker probedValue
  cases c.dataType == "uuid" with
  | true => rfl
  | false => rfl

theorem normalized_normalized (v : Value) :
    copy.normalized (copy.normalized v) = copy.normalized v :=
  Value.mapTime_mapTime copy.settings.resolution v

theorem normalized_storedValue (c : MemoryColumn) (v : Value) :
    copy.normalized (copy.storedValue c v) = copy.storedValue c v := by
  unfold storedValue
  split
  · exact Value.mapTime_unhex (normalized_normalized v)
  · exact normalized_normalized v

theorem throughMarker_storeMarker (c : MemoryColumn) :
    MemoryStore.throughMarker c.storeMarker (copy.normalized v) = copy.storedValue c v := by
  unfold MemoryStore.throughMarker MemoryColumn.storeMarker storedValue
  cases c.isUuid with
  | true => rfl
  | false => rfl

private theorem all_congr_of_mem {α : Type} {l : List α} {p q : α → Bool}
    (agree : ∀ a ∈ l, p a = q a) : l.all p = l.all q := by
  rw [Bool.eq_iff_iff, List.all_eq_true, List.all_eq_true]
  exact forall₂_congr fun a member => by rw [agree a member]

theorem Planned.matchesAll_eq (planned : copy.Planned plan pairs)
    (target : copy.target.WellNamed) (there row : Row) :
    MemoryStore.matchesAll (MemoryStore.wantedCells copy.target pairs.probes
      (row.map copy.normalized)) there = copy.agrees copy.probedValue there row := by
  rw [MemoryStore.matchesAll, MemoryStore.wantedCells, ColumnMatches.probes, zip_markers, agrees,
    zip_sources planned]
  simp only [List.map_map, List.all_map, Function.comp_def]
  refine all_congr_of_mem fun cell member => ?_
  have here : cell.1 ∈ pairs := (List.of_mem_zip member).1
  rw [throughMarker_probeMarker, planned.position?_eq target here, Option.any_some]

private theorem nodup_names (planned : copy.Planned plan pairs) (source : copy.source.WellNamed) :
    (pairs.map fun p => Text.asciiLower p.1.name).Nodup := by
  have distinct := source.columns_distinct
  rw [← planned.sources, List.map_map] at distinct
  exact distinct

private theorem nodup_positions (planned : copy.Planned plan pairs)
    (source : copy.source.WellNamed) (target : copy.target.WellNamed) {row : Row}
    (complete : row.length = copy.source.columns.length) :
    ((cellsOf pairs row).map fun cell => copy.target.indexOf cell.1.2).Nodup := by
  have names := nodup_names planned source
  have positions : (pairs.map fun p => copy.target.indexOf p.2).Nodup := by
    refine (List.Nodup.of_map _ names).map_on fun p hp q hq same => ?_
    have one := planned.position?_eq target hp
    have other := planned.position?_eq target hq
    rw [← same] at other
    exact List.inj_on_of_nodup_map names hp hq
      (Text.sameAscii_iff.mp (MemoryTable.sameAscii_of_position? one other))
  have fronts : (cellsOf pairs row).map Prod.fst = pairs := by
    refine List.map_fst_zip ?_
    rw [complete, ← planned.sources, List.length_map]
  rw [← fronts, List.map_map] at positions
  exact positions

private theorem indexOf_beq (planned : copy.Planned plan pairs) (target : copy.target.WellNamed)
    {p : MemoryColumn × MemoryColumn} (member : p ∈ pairs) {i : Nat}
    (bound : i < copy.target.columns.length) :
    (copy.target.indexOf p.2 == i) = Text.sameAscii p.1.name copy.target.columns[i].name := by
  have position := planned.position?_eq target member
  rw [Bool.eq_iff_iff, beq_iff_eq, Text.sameAscii_comm]
  constructor
  · rintro rfl
    exact MemoryTable.position?_sameAscii position bound
  · intro same
    have found := MemoryTable.position?_getElem target bound
    rw [MemoryTable.position?_congr same, position] at found
    exact Option.some.inj found

theorem Planned.insertedRow_eq (planned : copy.Planned plan pairs)
    (source : copy.source.WellNamed) (target : copy.target.WellNamed) {row : Row}
    (complete : row.length = copy.source.columns.length) :
    MemoryStore.insertedRow copy.settings copy.target pairs.stores (row.map copy.normalized) =
      copy.storedRow row := by
  have cells : MemoryStore.insertedRow copy.settings copy.target pairs.stores
      (row.map copy.normalized) =
      ((cellsOf pairs row).map fun cell =>
        (copy.target.indexOf cell.1.2, copy.storedValue cell.1.1 cell.2)).foldl
          (fun row cell => row.set cell.1 cell.2) (copy.target.columns.map fun _ => .null) := by
    rw [MemoryStore.insertedRow, MemoryStore.filledRow, ColumnMatches.stores, zip_markers,
      List.foldl_map, List.foldl_map]
    congr 1
    funext row cell
    rw [throughMarker_storeMarker]
    exact congrArg (row.set _) (normalized_storedValue cell.1.1 cell.2)
  have distinct : (((cellsOf pairs row).map fun cell =>
      (copy.target.indexOf cell.1.2, copy.storedValue cell.1.1 cell.2)).map Prod.fst).Nodup := by
    rw [List.map_map]
    exact nodup_positions planned source target complete
  rw [cells]
  refine List.ext_getElem? fun i => ?_
  by_cases bound : i < copy.target.columns.length
  · have sought : (cellsOf pairs row).find? ((fun cell => cell.1 == i) ∘ fun cell =>
        (copy.target.indexOf cell.1.2, copy.storedValue cell.1.1 cell.2)) =
        (cellsOf pairs row).find? fun cell =>
          Text.sameAscii cell.1.1.name copy.target.columns[i].name :=
      List.find?_congr fun cell member =>
        indexOf_beq planned target (List.of_mem_zip member).1 bound
    rw [getElem?_foldl_set distinct (by simpa using bound), List.find?_map, sought, storedRow,
      zip_sources planned]
    simp only [List.getElem?_map, List.getElem?_eq_getElem bound, Option.map_some,
      List.find?_map, Function.comp_def]
    cases (cellsOf pairs row).find? fun cell =>
      Text.sameAscii cell.1.1.name copy.target.columns[i].name with
    | none => rfl
    | some cell => rfl
  · have outside : copy.target.columns.length ≤ i := Nat.le_of_not_lt bound
    rw [List.getElem?_eq_none (by simpa [length_foldl_set] using outside),
      List.getElem?_eq_none (by simpa [storedRow] using outside)]

end Cells

section Rows

variable {rows : List Row} {row : Row}

theorem Planned.pairs_ne_nil (planned : copy.Planned plan pairs)
    (some : copy.source.columns ≠ []) : pairs ≠ [] := by
  rintro rfl
  exact some planned.sources.symm

theorem Planned.query_exists (planned : copy.Planned plan pairs) (target : copy.target.WellNamed)
    (some : copy.source.columns ≠ [])
    (stored : MemoryTable.StoredIn { copy.target with rows } s.tables) (row : Row) :
    MemoryStore.query plan.existsSql (row.map copy.normalized) s =
      (.ok [[.int64 (if rows.any (copy.agrees copy.probedValue · row) then 1 else 0)]],
        s.remember plan.existsSql) := by
  have nonempty : pairs.probes ≠ [] := by
    simpa [ColumnMatches.probes] using planned.pairs_ne_nil some
  have within : ∀ c ∈ pairs.probes, c.1 ∈ copy.target.columns := by
    intro c member
    obtain ⟨p, here, rfl⟩ := List.mem_map.mp member
    exact planned.mem_target target here
  have marked : ∀ c ∈ pairs.probes, c.WellMarked := by
    intro c member
    obtain ⟨p, -, rfl⟩ := List.mem_map.mp member
    exact p.1.probeMarker_eq
  rw [MemoryStore.query_exists stored (target.withRows rows) nonempty within marked
    planned.exists_eq]
  have wanted : (fun there => MemoryStore.matchesAll (MemoryStore.wantedCells
      { copy.target with rows } pairs.probes (row.map copy.normalized)) there) =
      (copy.agrees copy.probedValue · row) := funext fun there =>
    planned.matchesAll_eq target there row
  rw [← wanted]

def insertAnswer (copy : TableCopy) (rows : List Row) (row : Row) : Outcome Nat :=
  match MemoryStore.simulatedFailure? copy.settings (row.map copy.normalized) with
  | some failure => .error failure
  | none =>
    match MemoryStore.repeatedKey? { copy.target with rows } (copy.storedRow row) with
    | some failure => .error failure
    | none => .ok 1

theorem Planned.execute_insert (planned : copy.Planned plan pairs)
    (source : copy.source.WellNamed) (target : copy.target.WellNamed)
    (some : copy.source.columns ≠ [])
    (stored : MemoryTable.StoredIn { copy.target with rows } s.tables)
    (complete : row.length = copy.source.columns.length) :
    (MemoryStore.execute copy.settings plan.insertSql (row.map copy.normalized) s).1 =
      copy.insertAnswer rows row ∧
    (MemoryStore.execute copy.settings plan.insertSql (row.map copy.normalized) s).2.tables =
      match copy.insertAnswer rows row with
      | .ok _ => MemoryStore.putRows copy.target.name (rows ++ [copy.storedRow row]) s.tables
      | .error _ => s.tables := by
  have nonempty : pairs.stores ≠ [] := by
    simpa [ColumnMatches.stores] using planned.pairs_ne_nil some
  have within : ∀ c ∈ pairs.stores, c.1 ∈ copy.target.columns := by
    intro c member
    obtain ⟨p, here, rfl⟩ := List.mem_map.mp member
    exact planned.mem_target target here
  have marked : ∀ c ∈ pairs.stores, c.WellMarked := by
    intro c member
    obtain ⟨p, -, rfl⟩ := List.mem_map.mp member
    exact p.1.storeMarker_eq
  have inserted : MemoryStore.insertedRow copy.settings { copy.target with rows } pairs.stores
      (row.map copy.normalized) = copy.storedRow row :=
    planned.insertedRow_eq source target complete
  rw [MemoryStore.execute_insert stored (target.withRows rows) nonempty within marked
    planned.insert_eq, inserted, insertAnswer]
  cases MemoryStore.simulatedFailure? copy.settings (row.map copy.normalized) with
  | some failure => exact ⟨rfl, rfl⟩
  | none =>
    cases MemoryStore.repeatedKey? { copy.target with rows } (copy.storedRow row) with
    | some failure => exact ⟨rfl, rfl⟩
    | none => exact ⟨rfl, MemoryStore.updateFirst_eq_putRows stored.distinct⟩

/-- The answer to an insert is one that tells of that fate. -/
def Tells (fate : RowFate) (answer : Outcome Nat) : Prop :=
  match fate with
  | .present => False
  | .inserted => answer = .ok 1
  | .duplicate => ∃ failure, answer = .error failure ∧ failure.isDuplicateKey = true
  | .failed => ∃ failure, answer = .error failure ∧ failure.isDuplicateKey = false

private theorem simulatedFailure?_eq (copy : TableCopy) (row : Row) :
    if copy.isRefused row then
      ∃ message, MemoryStore.simulatedFailure? copy.settings (row.map copy.normalized) =
        some (.value message)
    else MemoryStore.simulatedFailure? copy.settings (row.map copy.normalized) = none := by
  unfold isRefused MemoryStore.simulatedFailure?
  cases copy.settings.failingInsert? with
  | none => rfl
  | some failing =>
    simp only [Option.any_some, Option.bind_some]
    split
    · exact ⟨_, rfl⟩
    · rfl

private theorem repeatedKey?_eq (copy : TableCopy) (rows : List Row) (stored : Row) :
    if rows.any (copy.sameId · stored) then
      ∃ message, MemoryStore.repeatedKey? { copy.target with rows } stored =
        some (.duplicateKey message)
    else MemoryStore.repeatedKey? { copy.target with rows } stored = none := by
  unfold MemoryStore.repeatedKey?
  cases position : copy.target.position? "id" with
  | none =>
    obtain ⟨failure, missing⟩ :=
      MemoryTable.columnIndex_eq_error (t := { copy.target with rows }) position
    simp [sameId, MemoryTable.hasId, position, missing]
  | some i =>
    have index := MemoryTable.columnIndex_eq_ok (t := { copy.target with rows }) position
    simp only [sameId, MemoryTable.hasId, MemoryTable.idOf, position, index, Option.isSome_some,
      Bool.true_and]
    split
    · exact ⟨_, rfl⟩
    · rfl

theorem tells_insertAnswer (copy : TableCopy) (rows : List Row) (row : Row) :
    Tells (copy.fate false rows row) (copy.insertAnswer rows row) := by
  have refusal := copy.simulatedFailure?_eq row
  have repetition := copy.repeatedKey?_eq rows (copy.storedRow row)
  unfold fate insertAnswer
  rw [Bool.false_and, if_neg Bool.false_ne_true]
  by_cases refused : copy.isRefused row = true
  · rw [if_pos refused] at refusal
    obtain ⟨message, refusal⟩ := refusal
    simp only [refusal, if_pos refused]
    exact ⟨_, rfl, rfl⟩
  · rw [if_neg refused] at refusal
    by_cases repeated : rows.any (copy.sameId · (copy.storedRow row)) = true
    · rw [if_pos repeated] at repetition
      obtain ⟨message, repetition⟩ := repetition
      simp only [refusal, repetition, if_neg refused, if_pos repeated]
      exact ⟨_, rfl, rfl⟩
    · rw [if_neg repeated] at repetition
      simp only [refusal, repetition, if_neg refused, if_neg repeated]
      exact rfl

end Rows

end TableCopy

end RowSync
