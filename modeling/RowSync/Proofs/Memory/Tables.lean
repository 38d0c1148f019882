import Mathlib.Data.List.Forall2
import Mathlib.Data.List.Nodup
import RowSync.Database.Memory
import RowSync.Proofs.Text.PlainName

/-!
Well-formed tables in memory, columns and tables found by name, and the tables of a store after
the rows of one of them are replaced.
-/

set_option autoImplicit false

namespace RowSync

theorem exists_of_forall₂ {α β : Type} {R : α → β → Prop} {l : List α} {l' : List β}
    (related : List.Forall₂ R l l') {a : α} (member : a ∈ l) : ∃ b ∈ l', R a b := by
  induction related with
  | nil => cases member
  | @cons _ b _ l' one others ih =>
    rcases List.mem_cons.mp member with rfl | later
    · exact ⟨b, List.mem_cons_self, one⟩
    · obtain ⟨c, here, other⟩ := ih later
      exact ⟨c, List.mem_cons_of_mem b here, other⟩

section UniqueKeys

variable {α κ : Type} {l : List α} {key : α → κ} {a : α} {p : α → Bool}

theorem find?_of_nodup (distinct : (l.map key).Nodup) (member : a ∈ l)
    (bearer : ∀ x ∈ l, p x = true ↔ key x = key a) : l.find? p = some a := by
  have sought : p a = true := (bearer a member).mpr rfl
  cases found : l.find? p with
  | none => exact absurd sought (by simpa using List.find?_eq_none.mp found a member)
  | some b =>
    have here : b ∈ l := List.mem_of_find?_eq_some found
    have same : key b = key a := (bearer b here).mp (List.find?_some found)
    rw [List.inj_on_of_nodup_map distinct here member same]

end UniqueKeys

namespace MemoryTable

/-- The form of the name that case does not change. -/
def key (t : MemoryTable) : String := Text.asciiLower t.name

/-- The position of a column, found without regard to case. -/
def position? (t : MemoryTable) (name : String) : Option Nat :=
  t.columns.findIdx? fun c => Text.sameAscii c.name name

/-- The table has an `id` column in some spelling. -/
def hasId (t : MemoryTable) : Bool := (t.position? "id").isSome

/-- The names are plain, none of them breaks a statement, and the columns are told apart. -/
structure WellNamed (t : MemoryTable) : Prop where
  name_plain : Text.IsPlain t.name
  columns_plain : ∀ c ∈ t.columns, Text.IsPlain c.name
  columns_unreserved : ∀ c ∈ t.columns, c.name ≠ "FROM" ∧ c.name ≠ "EXISTS"
  columns_distinct : (t.columns.map fun c => Text.asciiLower c.name).Nodup

/-- The table is well-named and every row has one value per column. -/
structure WellFormed (t : MemoryTable) : Prop extends WellNamed t where
  rows_complete : ∀ row ∈ t.rows, row.length = t.columns.length

theorem wellNamed_iff (t : MemoryTable) :
    t.WellNamed ↔ Text.IsPlain t.name ∧ (∀ c ∈ t.columns, Text.IsPlain c.name) ∧
      (∀ c ∈ t.columns, c.name ≠ "FROM" ∧ c.name ≠ "EXISTS") ∧
      (t.columns.map fun c => Text.asciiLower c.name).Nodup :=
  ⟨fun h => ⟨h.name_plain, h.columns_plain, h.columns_unreserved, h.columns_distinct⟩,
    fun h => ⟨h.1, h.2.1, h.2.2.1, h.2.2.2⟩⟩

instance (t : MemoryTable) : Decidable t.WellNamed := decidable_of_iff' _ t.wellNamed_iff

theorem wellFormed_iff (t : MemoryTable) :
    t.WellFormed ↔ t.WellNamed ∧ ∀ row ∈ t.rows, row.length = t.columns.length :=
  ⟨fun h => ⟨h.toWellNamed, h.rows_complete⟩, fun h => ⟨h.1, h.2⟩⟩

instance (t : MemoryTable) : Decidable t.WellFormed := decidable_of_iff' _ t.wellFormed_iff

/-- The table is among others that are all told apart by their names. -/
structure StoredIn (t : MemoryTable) (tables : List MemoryTable) : Prop where
  distinct : (tables.map MemoryTable.key).Nodup
  member : t ∈ tables

theorem WellNamed.withRows {t : MemoryTable} (named : t.WellNamed) (rows : List Row) :
    WellNamed { t with rows } :=
  ⟨named.name_plain, named.columns_plain, named.columns_unreserved, named.columns_distinct⟩

theorem columns_ne_nil {t : MemoryTable} (identified : t.hasId = true) : t.columns ≠ [] := by
  intro none
  rw [hasId, position?, none] at identified
  cases identified

theorem columnIndex_eq_ok {t : MemoryTable} {name : String} {i : Nat}
    (found : t.position? name = some i) : t.columnIndex name = .ok i := by
  rw [position?] at found
  rw [columnIndex, found]

theorem columnIndex_eq_error {t : MemoryTable} {name : String} (absent : t.position? name = none) :
    ∃ failure, t.columnIndex name = .error failure := by
  rw [position?] at absent
  exact ⟨_, by rw [columnIndex, absent]⟩

theorem position?_congr {t : MemoryTable} {s s' : String} (same : Text.sameAscii s s' = true) :
    t.position? s = t.position? s' := by
  rw [Text.sameAscii_iff] at same
  simp only [position?, Text.sameAscii, same]

theorem position?_getElem {t : MemoryTable} (named : t.WellNamed) {i : Nat}
    (bound : i < t.columns.length) : t.position? t.columns[i].name = some i := by
  rw [position?, List.findIdx?_eq_some_iff_getElem]
  refine ⟨bound, Text.sameAscii_refl _, fun j smaller found => ?_⟩
  let names := t.columns.map fun c => Text.asciiLower c.name
  have within : i < names.length := by simpa [names] using bound
  have same : names.get ⟨j, Nat.lt_trans smaller within⟩ = names.get ⟨i, within⟩ := by
    simpa [names, Text.sameAscii_iff] using found
  have equal := congrArg Fin.val (List.nodup_iff_injective_get.mp named.columns_distinct same)
  exact absurd equal (Nat.ne_of_lt smaller)

theorem position?_lt {t : MemoryTable} {name : String} {i : Nat}
    (found : t.position? name = some i) : i < t.columns.length :=
  (List.findIdx?_eq_some_iff_getElem.mp found).1

theorem position?_sameAscii {t : MemoryTable} {name : String} {i : Nat}
    (found : t.position? name = some i) (bound : i < t.columns.length) :
    Text.sameAscii t.columns[i].name name = true := by
  obtain ⟨_, same, _⟩ := List.findIdx?_eq_some_iff_getElem.mp found
  exact same

theorem sameAscii_of_position? {t : MemoryTable} {s s' : String} {i : Nat}
    (left : t.position? s = some i) (right : t.position? s' = some i) :
    Text.sameAscii s s' = true := by
  have bound := position?_lt left
  have one := Text.sameAscii_iff.mp (position?_sameAscii left bound)
  have other := Text.sameAscii_iff.mp (position?_sameAscii right bound)
  exact Text.sameAscii_iff.mpr (one.symm.trans other)

end MemoryTable

namespace MemoryStore

/-- The names of the tables are plain and told apart. -/
structure Named (tables : List MemoryTable) : Prop where
  names_plain : ∀ t ∈ tables, Text.IsPlain t.name
  names_distinct : (tables.map MemoryTable.key).Nodup

/-- The tables are well-named and told apart by their names. -/
structure WellNamed (tables : List MemoryTable) : Prop where
  tables_wellNamed : ∀ t ∈ tables, t.WellNamed
  names_distinct : (tables.map MemoryTable.key).Nodup

theorem WellNamed.named {tables : List MemoryTable} (wellNamed : WellNamed tables) :
    Named tables :=
  ⟨fun t member => (wellNamed.tables_wellNamed t member).name_plain, wellNamed.names_distinct⟩

/-- The tables are well-formed and told apart by their names. -/
structure WellFormed (s : MemoryStore) : Prop where
  tables_wellFormed : ∀ t ∈ s.tables, t.WellFormed
  names_distinct : (s.tables.map MemoryTable.key).Nodup

theorem WellFormed.wellNamed {s : MemoryStore} (wellFormed : s.WellFormed) : WellNamed s.tables :=
  ⟨fun t member => (wellFormed.tables_wellFormed t member).toWellNamed, wellFormed.names_distinct⟩

theorem wellFormed_iff (s : MemoryStore) :
    s.WellFormed ↔ (∀ t ∈ s.tables, t.WellFormed) ∧ (s.tables.map MemoryTable.key).Nodup :=
  ⟨fun h => ⟨h.tables_wellFormed, h.names_distinct⟩, fun h => ⟨h.1, h.2⟩⟩

instance (s : MemoryStore) : Decidable s.WellFormed := decidable_of_iff' _ s.wellFormed_iff

/-- Puts rows in the place of those of the tables of a name. -/
def putRows (name : String) (rows : List Row) (tables : List MemoryTable) : List MemoryTable :=
  tables.map fun t => if Text.sameAscii t.name name then { t with rows } else t

variable {tables : List MemoryTable} {t u : MemoryTable} {name : String} {rows rows' : List Row}

theorem sameAscii_name_iff (same : Text.sameAscii t.name name = true) (u : MemoryTable) :
    Text.sameAscii u.name name = true ↔ u.key = t.key := by
  rw [Text.sameAscii_iff] at same ⊢
  rw [MemoryTable.key, MemoryTable.key, same]

theorem find?_name (distinct : (tables.map MemoryTable.key).Nodup) (member : t ∈ tables)
    (same : Text.sameAscii t.name name = true) :
    tables.find? (fun t => Text.sameAscii t.name name) = some t :=
  find?_of_nodup distinct member fun u _ => sameAscii_name_iff same u

theorem table_eq {s : MemoryStore} (stored : t.StoredIn s.tables) : s.table t.name = .ok t := by
  rw [table, find?_name stored.distinct stored.member (Text.sameAscii_refl _)]

theorem updateFirst_eq_putRows (distinct : (tables.map MemoryTable.key).Nodup) :
    updateFirst name (fun t => { t with rows }) tables = putRows name rows tables := by
  induction tables with
  | nil => rfl
  | cons t tables ih =>
    rw [List.map_cons, List.nodup_cons] at distinct
    by_cases same : Text.sameAscii t.name name = true
    · have others : putRows name rows tables = tables := by
        refine (List.map_congr_left fun u member => if_neg fun also => ?_).trans (List.map_id _)
        have shared := (sameAscii_name_iff same u).mp also
        exact distinct.1 (shared ▸ List.mem_map_of_mem member)
      rw [updateFirst, if_pos same]
      simp only [putRows, List.map_cons, same, if_true]
      exact congrArg _ others.symm
    · rw [updateFirst, if_neg same, ih distinct.2]
      simp [putRows, same]

theorem mem_putRows (member : t ∈ tables) (same : Text.sameAscii t.name name = true) :
    { t with rows } ∈ putRows name rows tables :=
  List.mem_map.mpr ⟨t, member, by rw [if_pos same]⟩

theorem mem_putRows_of_other (member : t ∈ tables) (other : Text.sameAscii t.name name = false) :
    t ∈ putRows name rows tables :=
  List.mem_map.mpr ⟨t, member, by rw [other]; rfl⟩

@[simp] theorem map_key_putRows :
    (putRows name rows tables).map MemoryTable.key = tables.map MemoryTable.key := by
  rw [putRows, List.map_map]
  refine List.map_congr_left fun t _ => ?_
  by_cases same : Text.sameAscii t.name name = true <;> simp [same, MemoryTable.key]

theorem exists_of_mem_putRows (member : t ∈ putRows name rows tables) :
    ∃ u ∈ tables, ∃ rows', t = { u with rows := rows' } := by
  obtain ⟨u, here, rfl⟩ := List.mem_map.mp member
  by_cases same : Text.sameAscii u.name name = true
  · exact ⟨u, here, rows, by rw [if_pos same]⟩
  · exact ⟨u, here, u.rows, by rw [if_neg same]⟩

theorem WellNamed.putRows (wellNamed : WellNamed tables) (name : String) (rows : List Row) :
    WellNamed (putRows name rows tables) := by
  refine ⟨fun t member => ?_, by rw [map_key_putRows]; exact wellNamed.names_distinct⟩
  obtain ⟨u, here, rows', rfl⟩ := exists_of_mem_putRows member
  exact (wellNamed.tables_wellNamed u here).withRows rows'

theorem mem_of_mem_putRows (member : t ∈ putRows name rows tables)
    (other : Text.sameAscii t.name name = false) : t ∈ tables := by
  obtain ⟨u, here, rfl⟩ := List.mem_map.mp member
  by_cases same : Text.sameAscii u.name name = true
  · rw [if_pos same] at other
    exact absurd other (by simp [same])
  · rwa [if_neg same]

@[simp] theorem putRows_putRows :
    putRows name rows' (putRows name rows tables) = putRows name rows' tables := by
  rw [putRows, putRows, List.map_map, putRows]
  refine List.map_congr_left fun t _ => ?_
  by_cases same : Text.sameAscii t.name name = true <;> simp [same]

theorem storedIn_putRows (stored : t.StoredIn tables) (rows : List Row) :
    MemoryTable.StoredIn { t with rows } (putRows t.name rows tables) :=
  ⟨by rw [map_key_putRows]; exact stored.distinct,
    mem_putRows stored.member (Text.sameAscii_refl _)⟩

theorem putRows_rows (stored : t.StoredIn tables) : putRows t.name t.rows tables = tables := by
  refine (List.map_congr_left fun u here => ?_).trans (List.map_id tables)
  by_cases same : Text.sameAscii u.name t.name = true
  · have equal : u = t :=
      List.inj_on_of_nodup_map stored.distinct here stored.member (Text.sameAscii_iff.mp same)
    simp [equal, Text.sameAscii_refl]
  · simp [same]

theorem rowsOf_eq {s : MemoryStore} (stored : t.StoredIn s.tables) : s.rowsOf t.name = t.rows := by
  have found : s.tables.find? (·.name == t.name) = some t := by
    refine find?_of_nodup stored.distinct stored.member fun u here => ?_
    rw [beq_iff_eq]
    constructor
    · exact fun equal => congrArg Text.asciiLower equal
    · exact fun shared =>
        congrArg _ (List.inj_on_of_nodup_map stored.distinct here stored.member shared)
  rw [rowsOf, found]

end MemoryStore

end RowSync
