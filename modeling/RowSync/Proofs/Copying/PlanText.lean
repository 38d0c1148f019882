import RowSync.Proofs.Copying.Plan
import RowSync.Proofs.Sync.Refusal

/-!
The texts of a plan's statements in the plain dialect, as far as they do not depend on what the
columns are called.
-/

set_option autoImplicit false

namespace RowSync.TablePlan

private theorem toList_append_four (a b c d : String) :
    (a ++ b ++ c ++ d).toList = a.toList ++ (b.toList ++ (c.toList ++ d.toList)) := by
  simp only [String.toList_append, List.append_assoc]

theorem insertStatement_toList (resolution : Value.TimeResolution) (target : Table)
    (pairs : List (Column × Column)) :
    ∃ rest, (insertStatement (.plain resolution) target pairs).toList =
      "INSERT INTO ".toList ++ (target.name.toList ++ (" (".toList ++ rest)) := by
  let names := commaSeparated (pairs.map fun pair => pair.2.name)
  let markers := commaSeparated (valueMarkers (.plain resolution) 0 (pairs.map (·.1)))
  have regrouped : insertStatement (.plain resolution) target pairs =
      "INSERT INTO " ++ target.name ++ " (" ++ (names ++ (") VALUES (" ++ (markers ++ ")"))) := by
    rw [← String.append_assoc, ← String.append_assoc, ← String.append_assoc]
    rfl
  rw [regrouped]
  exact ⟨_, toList_append_four _ _ _ _⟩

theorem existsStatement_toList (resolution : Value.TimeResolution) (target : Table)
    (pairs : List (Column × Column)) :
    ∃ clauses, (existsStatement (.plain resolution) target pairs).toList =
      "SELECT EXISTS (SELECT 1 FROM ".toList ++
        ((target.name.toList ++ (" WHERE ".toList ++ clauses)) ++ [')']) := by
  let clauses := " AND ".intercalate (comparisons (.plain resolution) 0 pairs)
  refine ⟨clauses.toList, ?_⟩
  change ("SELECT EXISTS (SELECT 1 FROM " ++ target.name ++ " WHERE " ++ clauses ++ ")").toList = _
  rw [String.toList_append, toList_append_four, List.append_assoc]
  rfl

theorem targetIdsSql_toList (plan : TablePlan) (resolution : Value.TimeResolution) :
    (plan.targetIdsSql (.plain resolution)).toList =
      "SELECT ".toList ++ ((identityName plan.target).toList ++
        (" FROM ".toList ++ plan.target.name.toList)) := by
  have unquoted : plan.targetIdsSql (.plain resolution) =
      "SELECT " ++ identityName plan.target ++ " FROM " ++ plan.target.name := rfl
  rw [unquoted]
  exact toList_append_four _ _ _ _

theorem countStatement_toList (resolution : Value.TimeResolution) (t : Table) :
    (countStatement (.plain resolution) t).toList =
      "SELECT ".toList ++ ("COUNT(*)".toList ++ (" FROM ".toList ++ t.name.toList)) := by
  have unquoted : countStatement (.plain resolution) t = "SELECT COUNT(*) FROM " ++ t.name := rfl
  rw [unquoted, String.toList_append]
  rfl

theorem excludingSql_toList (plan : TablePlan) (resolution : Value.TimeResolution)
    (excluded : Nat) :
    (plan.excludingSql (.plain resolution) excluded).toList = plan.selectSql.toList ∨
      ∃ marks, (plan.excludingSql (.plain resolution) excluded).toList =
        plan.selectSql.toList ++ (" WHERE ".toList ++
          ((identityName plan.source).toList ++ (" NOT IN (".toList ++ marks))) := by
  unfold excludingSql
  split
  · exact .inl rfl
  · let marks := commaSeparated ((List.range excluded).map (Dialect.plain resolution).marker) ++ ")"
    refine .inr ⟨marks.toList, ?_⟩
    have regrouped : plan.selectSql ++ " WHERE " ++ identityName plan.source ++ " NOT IN (" ++
        marks = plan.selectSql ++ (" WHERE " ++ identityName plan.source ++ " NOT IN (" ++ marks) := by
      simp only [String.append_assoc]
    rw [String.append_assoc]
    change (plan.selectSql ++ " WHERE " ++ identityName plan.source ++ " NOT IN (" ++
      marks).toList = _
    rw [regrouped, String.toList_append, toList_append_four]

end RowSync.TablePlan
