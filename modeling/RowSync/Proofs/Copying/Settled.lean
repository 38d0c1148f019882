import RowSync.Proofs.Copying.StoredRows
import RowSync.Proofs.Copying.TableRun

/-!
Rows that a copy is through with are settled: none of them is admitted again by the rows that the
copy leaves. The rules by which rows are inserted are those of identities and of values.
-/

set_option autoImplicit false

namespace RowSync

namespace TableCopy

section Settling

variable {copy : TableCopy} {admits : List Row → Row → Bool}

theorem appended_eq_nil {there rows : List Row}
    (refused : ∀ row ∈ rows, admits there row = false) : copy.appended admits there rows = [] := by
  induction rows with
  | nil => rfl
  | cons row rows ih =>
    have first := refused row List.mem_cons_self
    rw [appended, first, if_neg Bool.false_ne_true]
    exact ih fun r member => refused r (List.mem_cons_of_mem row member)

/-- When more rows admit no more, and a stored row keeps its source row out, then the rows that a
copy leaves admit none of its source rows. -/
theorem not_admits_appended
    (antitone : ∀ there more row, admits there row = false → admits (there ++ more) row = false)
    {there rows : List Row}
    (settles : ∀ row ∈ rows, ∀ there, admits (there ++ [copy.storedRow row]) row = false) :
    ∀ row ∈ rows, admits (there ++ copy.appended admits there rows) row = false := by
  induction rows generalizing there with
  | nil => exact fun row member => absurd member (List.not_mem_nil)
  | cons row rows ih =>
    have later := fun there => @ih there
      fun r member => settles r (List.mem_cons_of_mem row member)
    rw [appended]
    by_cases admitted : admits there row = true
    · rw [if_pos admitted, List.append_cons there]
      intro r member
      rcases List.mem_cons.mp member with rfl | member
      · exact antitone _ _ _ (settles r List.mem_cons_self there)
      · exact later _ r member
    · rw [if_neg admitted]
      intro r member
      rcases List.mem_cons.mp member with rfl | member
      · exact antitone _ _ _ (Bool.eq_false_iff.mpr admitted)
      · exact later _ r member

end Settling

section Rules

variable {copy : TableCopy} {there more : List Row} {row : Row}

theorem inserts_eq (copy : TableCopy) (probing : Bool) (there : List Row) (row : Row) :
    copy.inserts probing there row =
      (!(probing && there.any (copy.agrees copy.probedValue · row)) && !copy.isRefused row &&
        !there.any (copy.sameId · (copy.storedRow row))) := by
  unfold inserts fate
  by_cases found : (probing && there.any (copy.agrees copy.probedValue · row)) = true
  · rw [if_pos found, found]
    rfl
  · rw [if_neg found, Bool.eq_false_iff.mpr found]
    by_cases refused : copy.isRefused row = true
    · rw [if_pos refused, refused]
      rfl
    · rw [if_neg refused, Bool.eq_false_iff.mpr refused]
      cases there.any (copy.sameId · (copy.storedRow row)) <;> rfl

theorem inserts_false (copy : TableCopy) : copy.inserts false = copy.admitsById := by
  funext there row
  rw [inserts_eq, admitsById, Bool.false_and, Bool.not_false, Bool.true_and]

theorem inserts_true (target_noId : copy.target.hasId = false)
    (spelled : copy.source.UuidsSpelled) : copy.inserts true = copy.admitsByValues := by
  funext there row
  have agree : (copy.agrees copy.probedValue · row) = (copy.agrees copy.storedValue · row) :=
    funext fun r => agrees_probedValue spelled r row
  have apart : there.any (copy.sameId · (copy.storedRow row)) = false := by
    simp [sameId, target_noId]
  rw [inserts_eq, admitsByValues, agree, apart, Bool.true_and, Bool.not_false, Bool.and_true,
    Bool.and_comm]

theorem inserts_antitone (probing : Bool) (there more : List Row) (row : Row)
    (refused : copy.inserts probing there row = false) :
    copy.inserts probing (there ++ more) row = false := by
  rw [inserts_eq] at refused ⊢
  rw [List.any_append, List.any_append]
  revert refused
  cases probing <;> cases there.any (copy.agrees copy.probedValue · row) <;>
    cases copy.isRefused row <;> cases there.any (copy.sameId · (copy.storedRow row)) <;> simp

end Rules

/-- A copy whose plan is made: the source is well-formed, and every column of it has its place. -/
structure Matched (copy : TableCopy) : Prop where
  source : copy.source.WellFormed
  mapped : ∀ c ∈ copy.source.columns, (copy.target.position? c.name).isSome

/-- The identities of the rows are in the form in which the copy would store them. -/
def IdsStored (copy : TableCopy) (rows : List Row) : Prop :=
  ∀ c ∈ copy.source.column? "id", ∀ row ∈ rows,
    copy.storedValue c (copy.target.idOf row) = copy.target.idOf row

instance (copy : TableCopy) (rows : List Row) : Decidable (copy.IdsStored rows) :=
  inferInstanceAs (Decidable (∀ c ∈ copy.source.column? "id", ∀ row ∈ rows, _))

theorem matched_of_admission {copy : TableCopy} (source : copy.source.WellFormed)
    (target : copy.target.WellNamed) {options : MigrationOptions}
    (admitted : copy.admission options = .ok ()) : copy.Matched := by
  obtain ⟨plan, made⟩ := plan_of_admission admitted
  obtain ⟨pairs, planned⟩ := copy.planned_of_plan source.toWellNamed target made
  refine ⟨source, fun c member => ?_⟩
  rw [← planned.sources] at member
  obtain ⟨p, here, rfl⟩ := List.mem_map.mp member
  exact Option.isSome_iff_exists.mpr ⟨_, planned.position?_eq target here⟩

namespace Matched

variable {copy : TableCopy} (matched : copy.Matched)

include matched

/-- A stored row is found when its source row is looked for. -/
theorem agrees_probedValue_storedRow (spelled : copy.source.UuidsSpelled)
    (numbers : copy.source.NaNFree) {row : Row} (member : row ∈ copy.source.rows) :
    copy.agrees copy.probedValue (copy.storedRow row) row = true := by
  rw [agrees_probedValue spelled]
  exact agrees_storedRow matched.source.toWellNamed matched.mapped
    (matched.source.rows_complete row member) (numbers row member)

theorem sameId_storedRow (identified : copy.hasIdentity = true) (numbers : copy.source.NaNFree)
    {row : Row} (member : row ∈ copy.source.rows) :
    copy.sameId (copy.storedRow row) (copy.storedRow row) = true := by
  obtain ⟨source_hasId, target_hasId⟩ := (Bool.and_eq_true _ _).mp identified
  obtain ⟨c, -, stored⟩ :=
    idOf_storedRow matched.source.toWellNamed source_hasId target_hasId
  obtain ⟨within, idOf_eq⟩ := stored row (matched.source.rows_complete row member)
  rw [sameId, target_hasId, Bool.true_and, idOf_eq]
  exact Value.nullSafeEq_self ((copy.isNaN_storedValue c _).trans (numbers row member _ within))

/-- Whatever the strategy, a stored row keeps its source row from being inserted again. -/
theorem not_inserts_storedRow (spelled : copy.source.UuidsSpelled)
    (numbers : copy.source.NaNFree) {row : Row} (member : row ∈ copy.source.rows)
    (there : List Row) :
    copy.inserts (!copy.hasIdentity) (there ++ [copy.storedRow row]) row = false := by
  rw [inserts_eq, List.any_append, List.any_append]
  cases identified : copy.hasIdentity with
  | true =>
    have again := matched.sameId_storedRow identified numbers member
    simp [again]
  | false =>
    have again := matched.agrees_probedValue_storedRow spelled numbers member
    simp [again]

theorem not_admitsById_of_old (identified : copy.hasIdentity = true) {there : List Row}
    (stored : copy.IdsStored there) {row : Row} (member : row ∈ copy.source.rows)
    (old : copy.isNew (there.map copy.target.idOf) row = false) (more : List Row) :
    copy.admitsById (there ++ more) row = false := by
  obtain ⟨source_hasId, target_hasId⟩ := (Bool.and_eq_true _ _).mp identified
  obtain ⟨c, found, stored_id⟩ :=
    idOf_storedRow matched.source.toWellNamed source_hasId target_hasId
  have idOf_eq := (stored_id row (matched.source.rows_complete row member)).2
  rw [isNew, Bool.not_eq_false', List.any_map, List.any_eq_true] at old
  obtain ⟨r, here, equal⟩ := old
  have equal : (copy.source.idOf row).nullSafeEq (copy.target.idOf r) = true := equal
  have taken : (copy.target.idOf r).nullSafeEq
      (copy.storedValue c (copy.source.idOf row)) = true := by
    rcases Value.eq_or_isNumber equal with same | ⟨number, -⟩
    · rw [same, stored c found r here]
      rwa [same] at equal
    · rw [storedValue_of_isNumber c number, Value.nullSafeEq_comm]
      exact equal
  have repeated : (there ++ more).any (copy.sameId · (copy.storedRow row)) = true := by
    rw [List.any_append, Bool.or_eq_true, List.any_eq_true]
    refine .inl ⟨r, here, ?_⟩
    rw [sameId, target_hasId, Bool.true_and, idOf_eq]
    exact taken
  rw [admitsById, repeated, Bool.not_true, Bool.and_false]

/-- Leaving out the rows whose identity is there beforehand does not change what is appended. -/
theorem appended_sent (identified : copy.hasIdentity = true) {options : MigrationOptions}
    (stored : copy.IdsStored (copy.initial options)) :
    copy.appended copy.admitsById (copy.initial options) (copy.sent options) =
      copy.added copy.admitsById options := by
  unfold sent added
  split
  · refine appended_filter fun more row member old => ?_
    exact matched.not_admitsById_of_old identified stored member old more
  · rfl

end Matched

section Finishing

variable {copy : TableCopy} {probing : Bool} {options : MigrationOptions}

theorem finished_rows (copy : TableCopy) (options : MigrationOptions) :
    (copy.finished options).rows = copy.initial options ++
      copy.appended (copy.inserts (!copy.hasIdentity)) (copy.initial options)
        (copy.sent options) := rows_runRows _ _

theorem finished_inserted (copy : TableCopy) (options : MigrationOptions) :
    (copy.finished options).tally.inserted = (copy.appended (copy.inserts (!copy.hasIdentity))
      (copy.initial options) (copy.sent options)).length :=
  (inserted_runRows _ _).trans (Nat.zero_add _)

private theorem any_of_present {there : List Row} {row : Row}
    (fate : copy.fate probing there row = .present) :
    there.any (copy.agrees copy.probedValue · row) = true := by
  unfold TableCopy.fate at fate
  split at fate
  · rename_i found
    exact ((Bool.and_eq_true _ _).mp found).2
  · split at fate
    · cases fate
    · split at fate
      · cases fate
      · cases fate

private theorem refused_le_runRows (copy : TableCopy) (probing : Bool) (s : CopyState)
    (rows : List Row) :
    s.tally.duplicate ≤ (copy.runRows probing s rows).tally.duplicate ∧
      s.tally.failed ≤ (copy.runRows probing s rows).tally.failed := by
  induction rows generalizing s with
  | nil => exact ⟨Nat.le_refl _, Nat.le_refl _⟩
  | cons row rows ih =>
    have stepped : s.tally.duplicate ≤ (copy.step probing s row).tally.duplicate ∧
        s.tally.failed ≤ (copy.step probing s row).tally.failed := by
      unfold step
      cases copy.fate probing s.rows row <;> simp
    obtain ⟨duplicate, failed⟩ := ih (copy.step probing s row)
    exact ⟨stepped.1.trans duplicate, stepped.2.trans failed⟩

/-- When a copy turns no row down, in the end there is a row that agrees with each source row. -/
theorem agreed_of_clean {s : CopyState} {rows : List Row}
    (found : ∀ row ∈ rows, copy.agrees copy.probedValue (copy.storedRow row) row = true)
    (noDuplicate : (copy.runRows probing s rows).tally.duplicate = 0)
    (noFailed : (copy.runRows probing s rows).tally.failed = 0) :
    ∀ row ∈ rows,
      (copy.runRows probing s rows).rows.any (copy.agrees copy.probedValue · row) = true := by
  induction rows generalizing s with
  | nil => exact fun row member => absurd member List.not_mem_nil
  | cons row rows ih =>
    rw [runRows_cons] at noDuplicate noFailed ⊢
    have later := ih (fun r member => found r (List.mem_cons_of_mem row member))
      noDuplicate noFailed
    have kept (r : Row)
        (here : (copy.step probing s row).rows.any (copy.agrees copy.probedValue · r) = true) :
        (copy.runRows probing (copy.step probing s row) rows).rows.any
          (copy.agrees copy.probedValue · r) = true := by
      rw [rows_runRows, List.any_append, here, Bool.true_or]
    intro r member
    rcases List.mem_cons.mp member with rfl | member
    · obtain ⟨duplicate, failed⟩ := copy.refused_le_runRows probing (copy.step probing s r) rows
      rw [noDuplicate] at duplicate
      rw [noFailed] at failed
      refine kept r ?_
      cases fate : copy.fate probing s.rows r with
      | present =>
        simp only [step, fate]
        exact any_of_present fate
      | inserted =>
        simp only [step, fate, List.any_append, List.any_cons, found r List.mem_cons_self,
          Bool.true_or, Bool.or_true]
      | duplicate => simp [step, fate] at duplicate
      | failed => simp [step, fate] at failed
    · exact later r member

/-- In the end no source row would be inserted any more. -/
theorem Matched.settled (matched : copy.Matched) (spelled : copy.source.UuidsSpelled)
    (numbers : copy.source.NaNFree)
    (stored : copy.hasIdentity = true → copy.IdsStored (copy.initial options)) :
    ∀ row ∈ copy.source.rows,
      copy.inserts (!copy.hasIdentity) (copy.finished options).rows row = false := by
  have whole : copy.appended (copy.inserts (!copy.hasIdentity)) (copy.initial options)
      (copy.sent options) = copy.added (copy.inserts (!copy.hasIdentity)) options := by
    cases identified : copy.hasIdentity with
    | true =>
      rw [Bool.not_true, inserts_false]
      exact matched.appended_sent identified (stored identified)
    | false =>
      rw [sent, identified, Bool.false_and, if_neg Bool.false_ne_true]
      rfl
  rw [finished_rows, whole, added]
  exact not_admits_appended (inserts_antitone _) fun row member there =>
    matched.not_inserts_storedRow spelled numbers member there

def onto (copy : TableCopy) (rows : List Row) : TableCopy :=
  ⟨copy.settings, copy.source, { copy.target with rows }⟩

private theorem finished_of_refused (refused : ∀ row ∈ copy.sent options,
    copy.inserts (!copy.hasIdentity) (copy.initial options) row = false) :
    (copy.finished options).rows = copy.initial options ∧
      (copy.finished options).tally.inserted = 0 := by
  rw [finished_rows, finished_inserted, appended_eq_nil refused]
  exact ⟨List.append_nil _, rfl⟩

theorem Matched.finished_again (matched : copy.Matched) (spelled : copy.source.UuidsSpelled)
    (numbers : copy.source.NaNFree)
    (stored : copy.hasIdentity = true → copy.IdsStored (copy.initial options))
    (keeps : options.truncateFirst = false) :
    ((copy.onto (copy.finished options).rows).finished options).rows =
        (copy.finished options).rows ∧
      ((copy.onto (copy.finished options).rows).finished options).tally.inserted = 0 := by
  let again := copy.onto (copy.finished options).rows
  have start : again.initial options = (copy.finished options).rows := by
    rw [initial, keeps]
    rfl
  have refused : ∀ row ∈ again.sent options,
      again.inserts (!again.hasIdentity) (again.initial options) row = false := by
    intro row member
    have here : row ∈ again.source.rows := mem_of_mem_sent member
    rw [start]
    exact matched.settled spelled numbers stored row here
  obtain ⟨rows, inserted⟩ := finished_of_refused refused
  exact ⟨rows.trans start, inserted⟩

end Finishing

end TableCopy

end RowSync
