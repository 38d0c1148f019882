import RowSync.Proofs.Copying.Answers

/-!
What a stored row has in common with the source row it was made of: its values are the stored forms
of those of the source, so a probe finds it again and its identity is taken.
-/

set_option autoImplicit false

namespace RowSync

namespace MemoryTable

/-- Every type that is that of identifiers has the exact spelling. -/
def UuidsSpelled (t : MemoryTable) : Prop := ∀ c ∈ t.columns, c.isUuid = true → c.dataType = "uuid"

def NaNFree (t : MemoryTable) : Prop := ∀ row ∈ t.rows, ∀ v ∈ row, v.isNaN = false

instance (t : MemoryTable) : Decidable t.UuidsSpelled :=
  inferInstanceAs (Decidable (∀ c ∈ t.columns, _))

instance (t : MemoryTable) : Decidable t.NaNFree :=
  inferInstanceAs (Decidable (∀ row ∈ t.rows, _))

end MemoryTable

namespace TableCopy

variable {copy : TableCopy} {row : Row}

theorem isNaN_storedValue (copy : TableCopy) (c : MemoryColumn) (v : Value) :
    (copy.storedValue c v).isNaN = v.isNaN := by
  have normal : (copy.normalized v).isNaN = v.isNaN := by rw [normalized, Value.isNaN_mapTime]
  unfold storedValue
  split
  · rw [Value.isNaN_unhex, normal]
  · exact normal

theorem storedValue_of_isNumber (c : MemoryColumn) {v : Value} (number : v.isNumber = true) :
    copy.storedValue c v = v := by
  have normal : copy.normalized v = v := Value.mapTime_of_isNumber number _
  unfold storedValue
  rw [normal]
  split
  · exact Value.unhex_of_isNumber number
  · rfl

theorem probedValue_eq_storedValue {c : MemoryColumn}
    (spelled : c.isUuid = true → c.dataType = "uuid") :
    copy.probedValue c = copy.storedValue c := by
  funext v
  unfold probedValue storedValue
  by_cases exact_spelling : c.dataType = "uuid"
  · have uuid : c.isUuid = true := by
      rw [MemoryColumn.isUuid, exact_spelling]
      exact Text.sameAscii_refl _
    rw [if_pos uuid, if_pos (beq_iff_eq.mpr exact_spelling)]
  · have other : ¬c.isUuid = true := fun uuid => exact_spelling (spelled uuid)
    rw [if_neg other, if_neg (fun same => exact_spelling (beq_iff_eq.mp same))]

theorem agrees_probedValue (spelled : copy.source.UuidsSpelled) (there row : Row) :
    copy.agrees copy.probedValue there row = copy.agrees copy.storedValue there row := by
  rw [Bool.eq_iff_iff, agrees, agrees, List.all_eq_true, List.all_eq_true]
  refine forall₂_congr fun cell member => ?_
  rw [probedValue_eq_storedValue (spelled cell.1 (List.of_mem_zip member).1)]

/-- The stored row has the stored value of a source column where the column of its name is. -/
theorem cell_storedRow (source : copy.source.WellNamed)
    (complete : row.length = copy.source.columns.length) {c : MemoryColumn} {v : Value}
    (member : (c, v) ∈ copy.source.columns.zip row) {i : Nat}
    (position : copy.target.position? c.name = some i) :
    MemoryStore.cell (copy.storedRow row) i = copy.storedValue c v := by
  have bound := MemoryTable.position?_lt position
  have same := MemoryTable.position?_sameAscii position bound
  have distinct : ((copy.source.columns.zip row).map fun cell =>
      Text.asciiLower cell.1.name).Nodup := by
    have fronts : (copy.source.columns.zip row).map Prod.fst = copy.source.columns :=
      List.map_fst_zip (by omega)
    have names := source.columns_distinct
    rw [← fronts, List.map_map] at names
    exact names
  have found : (copy.source.columns.zip row).find?
      (fun cell => Text.sameAscii cell.1.name copy.target.columns[i].name) = some (c, v) := by
    refine find?_of_nodup distinct member fun cell _ => ?_
    rw [Text.sameAscii_iff, Text.sameAscii_iff.mp same]
  rw [MemoryStore.cell, storedRow, List.getD_eq_getElem?_getD, List.getElem?_map,
    List.getElem?_eq_getElem bound]
  simp only [Option.map_some, Option.getD_some, found]

/-- A stored row agrees with its source row, as long as no value is a NaN. -/
theorem agrees_storedRow (source : copy.source.WellNamed)
    (mapped : ∀ c ∈ copy.source.columns, (copy.target.position? c.name).isSome)
    (complete : row.length = copy.source.columns.length)
    (numbers : ∀ v ∈ row, v.isNaN = false) :
    copy.agrees copy.storedValue (copy.storedRow row) row = true := by
  rw [agrees, List.all_eq_true]
  rintro ⟨c, v⟩ member
  obtain ⟨column, value⟩ := List.of_mem_zip member
  obtain ⟨i, position⟩ := Option.isSome_iff_exists.mp (mapped c column)
  rw [position, Option.any_some, cell_storedRow source complete member position]
  exact Value.nullSafeEq_self ((copy.isNaN_storedValue c v).trans (numbers v value))

theorem not_agrees_of_isNaN (complete : row.length = copy.source.columns.length)
    (nan : ∃ v ∈ row, v.isNaN = true) (there : Row) :
    copy.agrees copy.storedValue there row = false := by
  obtain ⟨v, value, nan⟩ := nan
  have backs : (copy.source.columns.zip row).map Prod.snd = row := List.map_snd_zip (by omega)
  rw [← backs] at value
  obtain ⟨⟨c, v⟩, member, rfl⟩ := List.mem_map.mp value
  rw [agrees, List.all_eq_false]
  refine ⟨(c, v), member, ?_⟩
  have unequal (i : Nat) : (MemoryStore.cell there i).nullSafeEq (copy.storedValue c v) = false :=
    Value.nullSafeEq_of_isNaN _ ((copy.isNaN_storedValue c v).trans nan)
  cases copy.target.position? c.name with
  | none => exact Bool.false_ne_true
  | some i =>
    rw [Option.any_some, unequal i]
    exact Bool.false_ne_true

theorem agrees_of_storedRow_eq (source : copy.source.WellNamed)
    (mapped : ∀ c ∈ copy.source.columns, (copy.target.position? c.name).isSome) {row' : Row}
    (complete : row.length = copy.source.columns.length)
    (complete' : row'.length = copy.source.columns.length)
    (numbers : ∀ v ∈ row, v.isNaN = false) (equal : copy.storedRow row' = copy.storedRow row) :
    copy.agrees copy.storedValue (copy.storedRow row) row' = true := by
  rw [← equal]
  refine agrees_storedRow source mapped complete' fun v' value' => ?_
  obtain ⟨k, bound, rfl⟩ := List.getElem_of_mem value'
  have column : k < copy.source.columns.length := by omega
  have within : k < row.length := by omega
  have cell : (copy.source.columns[k], row[k]) ∈ copy.source.columns.zip row :=
    List.mem_iff_getElem.mpr ⟨k, by rw [List.length_zip]; omega, List.getElem_zip⟩
  have cell' : (copy.source.columns[k], row'[k]) ∈ copy.source.columns.zip row' :=
    List.mem_iff_getElem.mpr ⟨k, by rw [List.length_zip]; omega, List.getElem_zip⟩
  obtain ⟨i, position⟩ :=
    Option.isSome_iff_exists.mp (mapped copy.source.columns[k] (List.getElem_mem column))
  have stored : copy.storedValue copy.source.columns[k] row'[k] =
      copy.storedValue copy.source.columns[k] row[k] := by
    rw [← cell_storedRow source complete cell position,
      ← cell_storedRow source complete' cell' position, equal]
  rw [← copy.isNaN_storedValue copy.source.columns[k], stored, isNaN_storedValue]
  exact numbers row[k] (List.getElem_mem within)

theorem cell_storedRow_of_absent {i : Nat} (bound : i < copy.target.columns.length)
    (absent : copy.source.position? copy.target.columns[i].name = none) :
    MemoryStore.cell (copy.storedRow row) i = .null := by
  have missing : (copy.source.columns.zip row).find?
      (fun cell => Text.sameAscii cell.1.name copy.target.columns[i].name) = none := by
    refine List.find?_eq_none.mpr fun cell member => ?_
    have other := List.findIdx?_eq_none_iff.mp absent cell.1 (List.of_mem_zip member).1
    rw [other]
    exact Bool.false_ne_true
  rw [MemoryStore.cell, storedRow, List.getD_eq_getElem?_getD, List.getElem?_map,
    List.getElem?_eq_getElem bound]
  simp only [Option.map_some, Option.getD_some, missing]

theorem idOf_storedRow (source : copy.source.WellNamed) (source_hasId : copy.source.hasId = true)
    (target_hasId : copy.target.hasId = true) :
    ∃ c, copy.source.column? "id" = some c ∧ ∀ row : Row,
      row.length = copy.source.columns.length → copy.source.idOf row ∈ row ∧
        copy.target.idOf (copy.storedRow row) = copy.storedValue c (copy.source.idOf row) := by
  obtain ⟨i, position⟩ := Option.isSome_iff_exists.mp source_hasId
  obtain ⟨j, position'⟩ := Option.isSome_iff_exists.mp target_hasId
  obtain ⟨c, found, index⟩ := MemoryTable.column?_of_position? source position
  have member := (MemoryTable.column?_spec source found).1
  have bound := MemoryTable.position?_lt position
  have same : Text.sameAscii c.name "id" = true := by
    rw [MemoryTable.column?] at found
    simpa using List.find?_some found
  refine ⟨c, found, fun row complete => ?_⟩
  have inRow : i < row.length := by omega
  have idOf_eq : copy.source.idOf row = row[i] := by
    rw [MemoryTable.idOf, position]
    simp only [MemoryStore.cell, List.getD_eq_getElem?_getD, List.getElem?_eq_getElem inRow,
      Option.getD_some]
  have cell : (c, row[i]) ∈ copy.source.columns.zip row := by
    have here : copy.source.columns[i] = c :=
      MemoryTable.getElem_of_indexOf source member index
    have inZip : i < (copy.source.columns.zip row).length := by
      rw [List.length_zip]
      omega
    have pair : (copy.source.columns.zip row)[i] = (c, row[i]) := by
      rw [List.getElem_zip, here]
    exact pair ▸ List.getElem_mem inZip
  have goes : copy.target.position? c.name = some j :=
    (MemoryTable.position?_congr same).trans position'
  rw [idOf_eq]
  refine ⟨List.getElem_mem inRow, ?_⟩
  rw [MemoryTable.idOf, position']
  exact cell_storedRow source complete cell goes

end TableCopy

end RowSync
