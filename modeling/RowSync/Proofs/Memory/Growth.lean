import RowSync.Proofs.Memory.Frames
import RowSync.Proofs.Memory.Statements

/-!
How statements make the tables of a store grow. A table is emptied by the statement that says so
and gets rows behind those it has; what is not written to stays.
-/

set_option autoImplicit false

namespace RowSync

def truncation (name : String) : String := "TRUNCATE TABLE " ++ name

theorem truncation_toList (name : String) :
    (truncation name).toList = "TRUNCATE TABLE ".toList ++ name.toList := by
  rw [truncation, String.toList_append]

theorem truncation_inj {name name' : String} (same : truncation name = truncation name') :
    name = name' := by
  have letters := congrArg String.toList same
  rw [truncation_toList, truncation_toList] at letters
  exact String.toList_inj.mp (List.append_cancel_left letters)

/-- The second table is the first, emptied if a statement sent says so, with more rows behind. A
table that is not to be written to is the same. -/
structure MemoryTable.Grown (written : Prop) (sent : List String) (t t' : MemoryTable) :
    Prop where
  grown : ∃ more, t' = { t with rows := (if truncation t.name ∈ sent then [] else t.rows) ++ more }
  untouched : ¬written → t' = t

namespace MemoryTable.Grown

variable {written written' : Prop} {sent sent' : List String} {t t' t'' : MemoryTable}

theorem name_eq (grown : Grown written sent t t') : t'.name = t.name := by
  obtain ⟨⟨more, rfl⟩, -⟩ := grown
  rfl

theorem refl (kept : truncation t.name ∉ sent) : Grown written sent t t :=
  ⟨⟨[], by rw [if_neg kept, List.append_nil]⟩, fun _ => rfl⟩

theorem mono (grown : Grown written sent t t') (weaker : written → written') :
    Grown written' sent t t' :=
  ⟨grown.grown, fun unwritten => grown.untouched fun holds => unwritten (weaker holds)⟩

theorem trans (first : Grown written sent t t') (second : Grown written sent' t' t'') :
    Grown written (sent ++ sent') t t'' := by
  refine ⟨?_, fun unwritten => (second.untouched unwritten).trans (first.untouched unwritten)⟩
  obtain ⟨⟨more, rfl⟩, -⟩ := first
  obtain ⟨⟨more', rfl⟩, -⟩ := second
  by_cases late : truncation t.name ∈ sent'
  · refine ⟨more', ?_⟩
    rw [if_pos late, if_pos (List.mem_append_right sent late)]
  · by_cases early : truncation t.name ∈ sent
    · refine ⟨more ++ more', ?_⟩
      rw [if_neg late, if_pos early, if_pos (List.mem_append_left sent' early), List.append_assoc]
    · have never : truncation t.name ∉ sent ++ sent' := fun member =>
        (List.mem_append.mp member).elim early late
      refine ⟨more ++ more', ?_⟩
      rw [if_neg late, if_neg early, if_neg never, List.append_assoc]

end MemoryTable.Grown

namespace MemoryStore

/-- Statements have made the tables grow, those of which the first predicate holds, and none was
emptied of which the second does not. -/
def Evolves (written cleared : String → Prop) (s s' : MemoryStore) : Prop :=
  ∃ sent, s'.statements = s.statements ++ sent ∧ (∀ name, truncation name ∈ sent → cleared name) ∧
    List.Forall₂ (fun t t' => MemoryTable.Grown (written t.name) sent t t') s.tables s'.tables

namespace Evolves

variable {written written' cleared cleared' : String → Prop} {s s' s'' : MemoryStore}
  {settings : MemorySettings} {sql name : String} {parameters : List Value}

theorem of_quiet {sent : List String} (tables : s'.tables = s.tables)
    (statements : s'.statements = s.statements ++ sent)
    (quiet : ∀ name, truncation name ∉ sent) : Evolves written cleared s s' := by
  refine ⟨sent, statements, fun name member => absurd member (quiet name), ?_⟩
  rw [tables]
  exact List.forall₂_same.mpr fun t _ => .refl (quiet t.name)

theorem refl (s : MemoryStore) : Evolves written cleared s s :=
  of_quiet rfl (List.append_nil _).symm fun _ => List.not_mem_nil

theorem mono (evolves : Evolves written cleared s s')
    (weaker : ∀ name, written name → written' name)
    (weaker_cleared : ∀ name, cleared name → cleared' name) : Evolves written' cleared' s s' := by
  obtain ⟨sent, statements, allowed, grown⟩ := evolves
  refine ⟨sent, statements, fun name member => weaker_cleared name (allowed name member), ?_⟩
  exact grown.imp fun t t' one => one.mono (weaker t.name)

theorem trans (first : Evolves written cleared s s') (second : Evolves written cleared s' s'') :
    Evolves written cleared s s'' := by
  obtain ⟨sent, statements, allowed, grown⟩ := first
  obtain ⟨sent', statements', allowed', grown'⟩ := second
  refine ⟨sent ++ sent', ?_, fun name member => ?_, ?_⟩
  · rw [statements', statements, List.append_assoc]
  · exact (List.mem_append.mp member).elim (allowed name) (allowed' name)
  · clear statements statements'
    generalize s'.tables = tables' at grown grown'
    generalize s''.tables = tables'' at grown'
    generalize s.tables = tables at grown
    induction grown generalizing tables'' with
    | nil =>
      cases grown'
      exact .nil
    | cons one others ih =>
      obtain _ | ⟨one', others'⟩ := grown'
      rw [one.name_eq] at one'
      exact .cons (one.trans one') (ih _ others')

theorem map_emptied (evolves : Evolves written cleared s s') :
    s'.tables.map MemoryStore.emptied = s.tables.map MemoryStore.emptied := by
  obtain ⟨sent, -, -, grown⟩ := evolves
  generalize s.tables = tables at grown
  generalize s'.tables = tables' at grown
  induction grown with
  | nil => rfl
  | cons one others ih =>
    rw [List.map_cons, List.map_cons, ih, MemoryStore.emptied, MemoryStore.emptied]
    obtain ⟨more, rfl⟩ := one.grown
    rfl

theorem exists_stored (evolves : Evolves written cleared s s') {u : MemoryTable}
    (stored : u.StoredIn s.tables) :
    ∃ sent u', (∀ name, truncation name ∈ sent → cleared name) ∧ u'.StoredIn s'.tables ∧
      MemoryTable.Grown (written u.name) sent u u' := by
  have distinct : (s'.tables.map MemoryTable.key).Nodup := by
    rw [map_key_of_map_emptied evolves.map_emptied]
    exact stored.distinct
  obtain ⟨sent, -, allowed, grown⟩ := evolves
  obtain ⟨u', member, one⟩ := exists_of_forall₂ grown stored.member
  exact ⟨sent, u', allowed, ⟨distinct, member⟩, one⟩

/-- Tables of which none is emptied keep their rows where they are. -/
theorem appended (evolves : Evolves written cleared s s') (never : ∀ name, ¬cleared name) :
    List.Forall₂ (fun t t' => ∃ more, t' = { t with rows := t.rows ++ more })
      s.tables s'.tables := by
  obtain ⟨sent, -, allowed, grown⟩ := evolves
  refine grown.imp fun t t' one => ?_
  obtain ⟨more, rfl⟩ := one.grown
  rw [if_neg fun member => never t.name (allowed t.name member)]
  exact ⟨more, rfl⟩

theorem find?_eq (evolves : Evolves written cleared s s')
    (apart : ∀ t ∈ s.tables, Text.sameAscii t.name name = true → ¬written t.name) :
    s'.tables.find? (fun t => Text.sameAscii t.name name) =
      s.tables.find? fun t => Text.sameAscii t.name name := by
  obtain ⟨sent, -, -, grown⟩ := evolves
  generalize s'.tables = tables' at grown
  revert apart
  generalize s.tables = tables at grown
  intro apart
  induction grown with
  | nil => rfl
  | @cons t t' _ _ one others ih =>
    have later := ih fun u member => apart u (List.mem_cons_of_mem t member)
    rw [List.find?_cons, List.find?_cons, later, one.name_eq]
    cases same : Text.sameAscii t.name name with
    | true => rw [one.untouched (apart t List.mem_cons_self same)]
    | false => rfl

theorem table_eq (evolves : Evolves written cleared s s')
    (apart : ∀ other, Text.sameAscii other name = true → ¬written other) :
    s'.table name = s.table name := by
  rw [MemoryStore.table, MemoryStore.table, evolves.find?_eq fun t _ same => apart t.name same]

theorem query (quiet : ∀ name, sql ≠ truncation name) (parameters : List Value) :
    Evolves written cleared s (MemoryStore.query sql parameters s).2 :=
  of_quiet rfl rfl fun name member => quiet name (List.mem_singleton.mp member).symm

theorem execute_insert (distinct : (s.tables.map MemoryTable.key).Nodup)
    (plain : Text.IsPlain name) {rest : List Char}
    (words : sql.toList = "INSERT INTO ".toList ++ (name.toList ++ (" (".toList ++ rest))) :
    Evolves (fun other => Text.sameAscii other name = true) cleared s
      (execute settings sql parameters s).2 := by
  have quiet (other : String) : truncation other ∉ [sql] := by
    intro member
    rw [← List.mem_singleton.mp member, truncation_toList] at words
    cases words
  have emptying : Text.stripPrefix? "TRUNCATE TABLE ".toList sql.toList = none := by
    rw [words]
    rfl
  rw [execute]
  simp only [emptying]
  cases ran : runInsert settings (s.remember sql) sql parameters with
  | error failure => exact of_quiet rfl rfl quiet
  | ok result =>
    obtain ⟨affected, s'⟩ := result
    obtain ⟨words', part, rest', t, row, read, split, found, rfl⟩ := runInsert_ok ran
    obtain rfl := List.append_cancel_left (words.symm.trans read)
    have named : Text.splitOnce? " (".toList (name.toList ++ (" (".toList ++ rest)) =
        some (name.toList, rest) :=
      Text.splitOnce?_append (clear_name plain (by decide) _)
    rw [named] at split
    cases split
    rw [String.ofList_toList] at found
    obtain ⟨member, named⟩ := table_ok found
    refine ⟨[sql], rfl, fun other sent => absurd sent (quiet other), ?_⟩
    have changed : ((s.remember sql).setRows (String.ofList name.toList) (t.rows ++ [row])).tables =
        putRows name (t.rows ++ [row]) s.tables := by
      rw [String.ofList_toList]
      exact updateFirst_eq_putRows distinct
    -- Keys are distinct, so a table called like that is the one found.
    dsimp only
    rw [changed, putRows, List.forall₂_map_right_iff, List.forall₂_same]
    intro u here
    split
    · rename_i same
      have equal : u = t := List.inj_on_of_nodup_map distinct here member
        ((sameAscii_name_iff named u).mp same)
      subst equal
      exact ⟨⟨[row], by rw [if_neg (quiet u.name)]⟩, fun unwritten => absurd same unwritten⟩
    · exact .refl (quiet u.name)

theorem execute_truncation {u : MemoryTable} (stored : u.StoredIn s.tables)
    (allowed : cleared u.name) :
    Evolves (fun other => Text.sameAscii other u.name = true) cleared s
      (execute settings (truncation u.name) parameters s).2 := by
  rw [execute_truncate stored (truncation_toList u.name)]
  refine ⟨[truncation u.name], rfl, fun name member => ?_, ?_⟩
  · rw [truncation_inj (List.mem_singleton.mp member)]
    exact allowed
  · have changed : ((s.remember (truncation u.name)).setRows u.name []).tables =
        putRows u.name [] s.tables := updateFirst_eq_putRows stored.distinct
    rw [changed, putRows, List.forall₂_map_right_iff, List.forall₂_same]
    intro t here
    by_cases same : Text.sameAscii t.name u.name = true
    · have equal : t = u := List.inj_on_of_nodup_map stored.distinct here stored.member
        (Text.sameAscii_iff.mp same)
      rw [if_pos same, equal]
      refine ⟨⟨[], ?_⟩, fun unwritten => absurd (Text.sameAscii_refl _) unwritten⟩
      rw [if_pos (List.mem_singleton.mpr rfl), List.append_nil]
    · rw [if_neg same]
      refine .refl fun member => same ?_
      rw [truncation_inj (List.mem_singleton.mp member)]
      exact Text.sameAscii_refl _

end Evolves

end MemoryStore

end RowSync
