import RowSync.Proofs.Memory.Tables
import RowSync.Proofs.Value.StoredForm
import RowSync.Sync.Migration

/-!
What a copy between two tables in memory comes to, said on rows alone: the form in which a row is
stored, what becomes of a row given the rows already there, and the rows appended in the end.
-/

set_option autoImplicit false

namespace RowSync

namespace MemoryColumn

def isUuid (c : MemoryColumn) : Bool := Text.sameAscii c.dataType "uuid"

end MemoryColumn

namespace MemoryTable

/-- The identity of a row of the table, NULL where the table has none. -/
def idOf (t : MemoryTable) (row : Row) : Value :=
  match t.position? "id" with
  | some i => MemoryStore.cell row i
  | none => .null

end MemoryTable

/-- Rows on their way from one table in memory to another. -/
structure TableCopy where
  /-- How the destination stores values and which rows it refuses. -/
  settings : MemorySettings
  source : MemoryTable
  target : MemoryTable

/-- What becomes of a source row. -/
inductive RowFate
  /-- An equal row was found, so no insert was tried. -/
  | present
  | inserted
  /-- A row with that identity was there. -/
  | duplicate
  /-- The row holds a value that inserts fail on. -/
  | failed
  deriving DecidableEq, Repr

/-- How far a copy has come. -/
structure CopyState where
  /-- The rows of the destination. -/
  rows : List Row
  tally : Tally := {}
  deriving DecidableEq

namespace TableCopy

variable (copy : TableCopy)

/-- The value with its time as the destination stores it. -/
def normalized (v : Value) : Value := v.mapTime copy.settings.resolution.normalize

/-- The value that is stored for a value of a source column. -/
def storedValue (c : MemoryColumn) (v : Value) : Value :=
  if c.isUuid then MemoryStore.unhex (copy.normalized v) else copy.normalized v

/-- The value that is looked for in the place of a value of a source column; only the exact
spelling of the identifier type is converted. -/
def probedValue (c : MemoryColumn) (v : Value) : Value :=
  if c.dataType == "uuid" then MemoryStore.unhex (copy.normalized v) else copy.normalized v

/-- The row that is stored for a source row: each destination column has the stored value of the
source column of its name, or NULL where there is none. -/
def storedRow (row : Row) : Row :=
  copy.target.columns.map fun d =>
    match (copy.source.columns.zip row).find? fun cell => Text.sameAscii cell.1.name d.name with
    | some cell => copy.storedValue cell.1 cell.2
    | none => .null

/-- The row holds a value that inserts are set up to fail on. -/
def isRefused (row : Row) : Bool :=
  copy.settings.failingInsert?.any fun failing =>
    (row.map copy.normalized).any (·.sameKindEq failing)

/-- Two rows of the destination have equal identities. -/
def sameId (r s : Row) : Bool :=
  copy.target.hasId && (copy.target.idOf r).nullSafeEq (copy.target.idOf s)

/-- A row of the destination equals a source row on every mapped column, the values of the source
row being converted first. -/
def agrees (convert : MemoryColumn → Value → Value) (there row : Row) : Bool :=
  (copy.source.columns.zip row).all fun cell =>
    (copy.target.position? cell.1.name).any fun i =>
      (MemoryStore.cell there i).nullSafeEq (convert cell.1 cell.2)

/-- A row is admitted by its identity: it is not refused, and no row there has the identity that
would be stored. -/
def admitsById (there : List Row) (row : Row) : Bool :=
  !copy.isRefused row && !there.any (copy.sameId · (copy.storedRow row))

/-- A row is admitted by its values: it is not refused, and no row there agrees with it. -/
def admitsByValues (there : List Row) (row : Row) : Bool :=
  !copy.isRefused row && !there.any (copy.agrees copy.storedValue · row)

/-- The rows appended to those there when source rows are gone through in order and each admitted
one is stored behind the others. -/
def appended (admits : List Row → Row → Bool) : List Row → List Row → List Row
  | _, [] => []
  | there, row :: rest =>
    if admits there row then
      copy.storedRow row :: appended admits (there ++ [copy.storedRow row]) rest
    else appended admits there rest

/-- What becomes of a source row; with `probing`, rows that agree with one there are passed over. -/
def fate (probing : Bool) (there : List Row) (row : Row) : RowFate :=
  if probing && there.any (copy.agrees copy.probedValue · row) then .present
  else if copy.isRefused row then .failed
  else if there.any (copy.sameId · (copy.storedRow row)) then .duplicate
  else .inserted

def step (probing : Bool) (s : CopyState) (row : Row) : CopyState :=
  match copy.fate probing s.rows row with
  | .present => s
  | .inserted => ⟨s.rows ++ [copy.storedRow row], { s.tally with inserted := s.tally.inserted + 1 }⟩
  | .duplicate => ⟨s.rows, { s.tally with duplicate := s.tally.duplicate + 1 }⟩
  | .failed => ⟨s.rows, { s.tally with failed := s.tally.failed + 1 }⟩

def runRows (probing : Bool) (s : CopyState) (rows : List Row) : CopyState :=
  rows.foldl (copy.step probing) s

def inserts (probing : Bool) (there : List Row) (row : Row) : Bool :=
  copy.fate probing there row == .inserted

section Running

variable {copy} {probing : Bool}

theorem runRows_cons (s : CopyState) (row : Row) (rows : List Row) :
    copy.runRows probing s (row :: rows) =
      copy.runRows probing (copy.step probing s row) rows := rfl

theorem rows_step (s : CopyState) (row : Row) :
    (copy.step probing s row).rows =
      s.rows ++ if copy.inserts probing s.rows row then [copy.storedRow row] else [] := by
  unfold step inserts
  cases copy.fate probing s.rows row <;> simp

theorem inserted_step (s : CopyState) (row : Row) :
    (copy.step probing s row).tally.inserted =
      s.tally.inserted + if copy.inserts probing s.rows row then 1 else 0 := by
  unfold step inserts
  cases copy.fate probing s.rows row <;> simp

/-- A run leaves the rows that were there in front of those it appends. -/
theorem rows_runRows (s : CopyState) (rows : List Row) :
    (copy.runRows probing s rows).rows =
      s.rows ++ copy.appended (copy.inserts probing) s.rows rows := by
  induction rows generalizing s with
  | nil => simp [runRows, appended]
  | cons row rows ih =>
    rw [runRows_cons, ih, rows_step, appended]
    by_cases inserted : copy.inserts probing s.rows row = true <;> simp [inserted]

theorem inserted_runRows (s : CopyState) (rows : List Row) :
    (copy.runRows probing s rows).tally.inserted =
      s.tally.inserted + (copy.appended (copy.inserts probing) s.rows rows).length := by
  induction rows generalizing s with
  | nil => simp [runRows, appended]
  | cons row rows ih =>
    rw [runRows_cons, ih, inserted_step, rows_step, appended]
    by_cases inserted : copy.inserts probing s.rows row = true
    · simp [inserted]
      omega
    · simp [inserted]

/-- Rows that are admitted at no time may be left out beforehand. -/
theorem appended_filter {admits : List Row → Row → Bool} {keep : Row → Bool}
    {there rows : List Row}
    (never : ∀ more, ∀ row ∈ rows, keep row = false → admits (there ++ more) row = false) :
    copy.appended admits there (rows.filter keep) = copy.appended admits there rows := by
  induction rows generalizing there with
  | nil => rfl
  | cons row rows ih =>
    have skip : copy.appended admits there (rows.filter keep) = copy.appended admits there rows :=
      ih fun more r member => never more r (List.mem_cons_of_mem _ member)
    cases kept : keep row with
    | false =>
      have refused : admits there row = false := by simpa using never [] row (by simp) kept
      simp [kept, appended, refused, skip]
    | true =>
      have take : copy.appended admits (there ++ [copy.storedRow row]) (rows.filter keep) =
          copy.appended admits (there ++ [copy.storedRow row]) rows :=
        ih fun more r member left => by
          simpa [List.append_assoc] using
            never ([copy.storedRow row] ++ more) r (List.mem_cons_of_mem _ member) left
      rw [List.filter_cons_of_pos kept, appended, appended, skip, take]

end Running

end TableCopy

end RowSync
