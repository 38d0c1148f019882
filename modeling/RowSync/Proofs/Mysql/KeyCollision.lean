import RowSync.Mysql.Fault
import RowSync.Proofs.Sync.InsertAccounting

/-!
Which replies of a MySQL server pass for a second row with one primary key. A reply about a second
row quotes the value and the name of the key, and the word that tells primary keys is looked for in
the whole of it: every collision of primary keys is found, and so is that of another key whose value
or name has the word in it.
-/

set_option autoImplicit false

namespace RowSync

theorem Text.hasInfix_iff {part cs : List Char} : hasInfix part cs = true ↔ part <:+: cs := by
  induction cs with
  | nil => simp [hasInfix]
  | cons c cs ih =>
    rw [hasInfix, Bool.or_eq_true, List.isPrefixOf_iff_prefix, ih, List.infix_cons_iff]

/-- What stands around a character stands in front of it or behind it, if it is without it. -/
theorem infix_append_cons_iff {α : Type} {part front rest : List α} {a : α} (foreign : a ∉ part) :
    part <:+: front ++ a :: rest ↔ part <:+: front ∨ part <:+: rest := by
  constructor
  · rintro ⟨before, after, split⟩
    rcases List.append_eq_append_iff.mp split with ⟨more, whole, -⟩ | ⟨more, whole, split'⟩
    · exact .inl ⟨before, more, whole.symm⟩
    · rcases List.cons_eq_append_iff.mp split' with ⟨rfl, -⟩ | ⟨more, rfl, behind⟩
      · exact .inl ⟨before, [], by rw [List.append_nil, whole, List.append_nil]⟩
      · -- The part ends behind the character, which is not in it, so it starts there as well.
        rcases List.append_eq_append_iff.mp whole with ⟨_, -, around⟩ | ⟨skipped, -, later⟩
        · exact absurd (around ▸ List.mem_append_right _ List.mem_cons_self) foreign
        · rcases List.cons_eq_append_iff.mp later with ⟨-, here⟩ | ⟨skipped, -, further⟩
          · exact absurd (here ▸ List.mem_cons_self) foreign
          · exact .inr ⟨skipped, after, by rw [behind, further]⟩
  · rintro (⟨before, after, rfl⟩ | ⟨before, after, rfl⟩)
    · exact ⟨before, after ++ a :: rest, by simp⟩
    · exact ⟨front ++ a :: before, after, by simp⟩

/-- The text has the word that tells primary keys in it. -/
def NamesPrimary (s : String) : Prop := "PRIMARY".toList <:+: s.toList

instance (s : String) : Decidable (NamesPrimary s) :=
  inferInstanceAs (Decidable ("PRIMARY".toList <:+: s.toList))

/-- The key is the primary one of its table, whose name may stand in front. -/
def IsPrimaryKey (key : String) : Prop := key = "PRIMARY" ∨ ∃ table, key = table ++ ".PRIMARY"

theorem isPrimaryKey_iff {key : String} :
    IsPrimaryKey key ↔ key = "PRIMARY" ∨ ".PRIMARY".toList <:+ key.toList := by
  refine or_congr_right ⟨?_, ?_⟩
  · rintro ⟨table, rfl⟩
    exact ⟨table.toList, (String.toList_append ..).symm⟩
  · rintro ⟨table, split⟩
    refine ⟨String.ofList table, String.toList_inj.mp ?_⟩
    rw [String.toList_append, String.toList_ofList, split]

instance (key : String) : Decidable (IsPrimaryKey key) := decidable_of_iff' _ isPrimaryKey_iff

theorem IsPrimaryKey.namesPrimary {key : String} (primary : IsPrimaryKey key) :
    NamesPrimary key := by
  rcases primary with rfl | ⟨table, rfl⟩
  · exact List.infix_refl _
  · refine ⟨table.toList ++ ['.'], [], ?_⟩
    rw [String.toList_append, List.append_nil, List.append_assoc]
    rfl

/-- What the server says about a second row with a value of a key. -/
def duplicateEntryText (value key : String) : String :=
  "Duplicate entry '" ++ value ++ "' for key '" ++ key ++ "'"

theorem namesPrimary_duplicateEntryText {value key : String} :
    NamesPrimary (duplicateEntryText value key) ↔ NamesPrimary value ∨ NamesPrimary key := by
  have quoted : (duplicateEntryText value key).toList = "Duplicate entry ".toList ++ '\'' ::
      (value.toList ++ '\'' :: (" for key ".toList ++ '\'' :: (key.toList ++ ['\'']))) := by
    unfold duplicateEntryText
    simp only [String.toList_append, List.append_assoc]
    rfl
  have foreign : '\'' ∉ "PRIMARY".toList := by decide +kernel
  have front : ¬ "PRIMARY".toList <:+: "Duplicate entry ".toList := by decide +kernel
  have between : ¬ "PRIMARY".toList <:+: " for key ".toList := by decide +kernel
  have behind : ¬ "PRIMARY".toList <:+: [] := by decide +kernel
  unfold NamesPrimary
  rw [quoted]
  simp only [infix_append_cons_iff foreign, front, between, behind, false_or, or_false]

/-- A row whose insert ends in the failure changes the tally so, and does not end the copying. -/
def Migration.Counts (failure : Failure) (count : Tally → Tally) : Prop :=
  ∀ {σ τ : Type} (sides : Sides σ τ) (options : Options) (plan : TablePlan) (tally : Tally)
    (row : Row) (s : RunState σ τ),
    (sides.target.execute plan.insertSql row s.target).1 = .error failure →
      ∃ s', insertCounted sides options plan tally row s = (.ok (count tally), s')

theorem Migration.counts_counting (failure : Failure) :
    Counts failure fun tally => tally.counting [.error failure] := by
  intro σ τ sides options plan tally row s failed
  obtain ⟨journal, ran, -⟩ := insertCounted_apply sides options plan tally row s
  rw [failed] at ran
  exact ⟨_, ran⟩

namespace MysqlReply

variable {reply : MysqlReply}

theorem isPrimaryCollision_iff : reply.isPrimaryCollision = true ↔
    reply.code = duplicateEntryCode ∧ NamesPrimary reply.message := by
  rw [isPrimaryCollision, Bool.and_eq_true, beq_iff_eq, Text.contains, Text.hasInfix_iff,
    NamesPrimary]

/-- The row whose insert is answered so passes for one that is there already. -/
structure Swallowed (reply : MysqlReply) : Prop where
  failure : (MysqlFault.server reply).failure = .duplicateKey reply.message
  counted : Migration.Counts (MysqlFault.server reply).failure fun tally =>
    { tally with duplicate := tally.duplicate + 1 }

/-- The row whose insert is answered so counts as one that could not be inserted. -/
structure Reported (reply : MysqlReply) : Prop where
  failure : (MysqlFault.server reply).failure = .mysql (.server reply)
  counted : Migration.Counts (MysqlFault.server reply).failure fun tally =>
    { tally with failed := tally.failed + 1 }

theorem swallowed_of_collision (collision : reply.isPrimaryCollision = true) :
    reply.Swallowed := by
  have failure : (MysqlFault.server reply).failure = .duplicateKey reply.message := if_pos collision
  refine ⟨failure, ?_⟩
  rw [failure]
  exact Migration.counts_counting _

theorem reported_of_other (other : reply.isPrimaryCollision = false) : reply.Reported := by
  have failure : (MysqlFault.server reply).failure = .mysql (.server reply) :=
    if_neg (by simp [other])
  refine ⟨failure, ?_⟩
  rw [failure]
  exact Migration.counts_counting _

theorem swallowed_iff : reply.Swallowed ↔
    reply.code = duplicateEntryCode ∧ NamesPrimary reply.message := by
  rw [← isPrimaryCollision_iff]
  refine ⟨fun swallowed => ?_, swallowed_of_collision⟩
  by_contra other
  have reported := reported_of_other (Bool.eq_false_iff.mpr other)
  cases reported.failure.symm.trans swallowed.failure

theorem reported_iff : reply.Reported ↔ ¬ reply.Swallowed := by
  constructor
  · intro reported swallowed
    cases reported.failure.symm.trans swallowed.failure
  · intro kept
    refine reported_of_other (Bool.eq_false_iff.mpr fun collision => ?_)
    exact kept (swallowed_of_collision collision)

/-- Of the replies about a second row, those are swallowed that have the word for primary keys in
the value or in the name of the key, and all others are reported. So collisions of primary keys are
always swallowed, and they alone are as long as neither the value nor the name of another key has
the word in it. No reply of another kind is swallowed. -/
theorem duplicateEntry_swallowed (state value key : String) :
    let reply : MysqlReply := ⟨duplicateEntryCode, state, duplicateEntryText value key⟩
    (reply.Swallowed ↔ NamesPrimary value ∨ NamesPrimary key) ∧
      (reply.Reported ↔ ¬ reply.Swallowed) ∧
      (IsPrimaryKey key → reply.Swallowed) ∧
      ((reply.Swallowed ↔ IsPrimaryKey key) ↔
        (NamesPrimary value ∨ NamesPrimary key → IsPrimaryKey key)) ∧
      ∀ other : MysqlReply, other.code ≠ duplicateEntryCode → other.Reported := by
  intro reply
  have swallowed : reply.Swallowed ↔ NamesPrimary value ∨ NamesPrimary key := by
    rw [swallowed_iff, namesPrimary_duplicateEntryText]
    exact and_iff_right rfl
  have primary (is_primary : IsPrimaryKey key) : reply.Swallowed :=
    swallowed.mpr (.inr is_primary.namesPrimary)
  refine ⟨swallowed, reported_iff, primary, ?_, fun other apart => ?_⟩
  · rw [← swallowed]
    exact ⟨Iff.mp, fun only => ⟨only, primary⟩⟩
  · exact reported_iff.mpr fun passed => apart (swallowed_iff.mp passed).1

/-- A second row under a unique name that happens to be the word is swallowed. -/
theorem unique_name_swallowed : ¬ ∀ value key,
    (MysqlReply.mk 1062 "23000" (duplicateEntryText value key)).Swallowed ↔ IsPrimaryKey key := by
  intro claimed
  have named : NamesPrimary (duplicateEntryText "PRIMARY" "schools.name") := by decide +kernel
  have passed := (claimed "PRIMARY" "schools.name").mp (swallowed_iff.mpr ⟨rfl, named⟩)
  exact absurd passed (by decide +kernel)

end MysqlReply

end RowSync
