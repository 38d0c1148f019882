import RowSync.Proofs.Number.Integer
import RowSync.Proofs.Schema.Description
import RowSync.Proofs.Text.QuotedName
import RowSync.Sync.Plan

/-!
What a server reads in the statements of a plan, whatever the tables and columns are called: the
names that stand in them, in order, and the places of the parameters. A statement is put together
from parts, and what is read in it from what is read in the parts.
-/

set_option autoImplicit false

namespace RowSync

namespace Lexeme

def digits : List Lexeme → List Char
  | .mark c :: rest => if c.isDigit then c :: digits rest else []
  | _ => []

/-- The numbers behind the dollar signs. -/
def numbered : List Lexeme → List Nat
  | [] => []
  | .name _ :: rest => numbered rest
  | .mark c :: rest =>
    if c = '$' then Nat.ofDigitChars 10 (digits rest) 0 :: numbered rest else numbered rest

def Ends (rest : List Lexeme) : Prop := digits rest = []

theorem digits_append {cs : List Char} (all : ∀ c ∈ cs, c.isDigit = true) {rest : List Lexeme}
    (ends : Ends rest) : digits (cs.map mark ++ rest) = cs := by
  induction cs with
  | nil => exact ends
  | cons c cs ih =>
    rw [List.map_cons, List.cons_append, digits, if_pos (all c List.mem_cons_self),
      ih fun d member => all d (List.mem_cons_of_mem c member)]

end Lexeme

/-- The servers with their dialects. -/
inductive Server
  | postgres
  | mysql (roundTime : Bool)
  deriving DecidableEq

namespace Server

open Lexeme

def dialect : Server → Dialect
  | postgres => .postgres
  | mysql roundTime => .mysql roundTime

/-- The character around names. -/
def quoteMark : Server → Char
  | postgres => Dialect.doubleQuote
  | mysql _ => Dialect.graveAccent

/-- The character in front of a parameter's number, or in the place of a parameter. -/
def placeMark : Server → Char
  | postgres => '$'
  | mysql _ => '?'

/-- How the parameter with that index is called, where parameters are called anything. -/
def place (server : Server) (index : Nat) : Option Nat :=
  match server with
  | postgres => some (index + 1)
  | mysql _ => none

def places (server : Server) (statement : List Lexeme) : List (Option Nat) :=
  match server with
  | postgres => (numbered statement).map some
  | mysql _ => List.replicate (statement.count (.mark '?')) none

/-- A server reads these parts in a text, among them the names and the places of parameters. -/
structure Reads (server : Server) (text : String) (parts : List Lexeme) (names : List String)
    (places : List (Option Nat)) : Prop where
  read : Lexeme.read server.quoteMark text.toList = some parts
  names_eq : parts.filterMap name? = names
  places_eq : server.places parts = places

/-- The text is read in that way in front of any other one that does not go on with it. -/
structure Begins (server : Server) (text : String) (parts : List Lexeme) (names : List String)
    (places : List (Option Nat)) : Prop where
  read : ∀ rest : List Char, rest.head? ≠ some server.quoteMark →
    Lexeme.read server.quoteMark (text.toList ++ rest) =
      (Lexeme.read server.quoteMark rest).map (parts ++ ·)
  names_eq : parts.filterMap name? = names
  places_eq : ∀ rest : List Lexeme, Ends rest →
    server.places (parts ++ rest) = places ++ server.places rest

/-- The text has no names or parameters in it and sets apart what stands in front of it. -/
def separates (server : Server) (text : String) : Bool :=
  text.toList.all (fun c => c != server.quoteMark && c != server.placeMark) &&
    text.toList.head?.any (!·.isDigit)

variable {server : Server} {text text' separator : String} {parts parts' : List Lexeme}
  {names names' : List String} {places places' : List (Option Nat)}

theorem Begins.reads (begins : server.Begins text parts names places) :
    server.Reads text parts names places where
  read := by simpa [Lexeme.read, readFrom] using begins.read [] (by simp)
  names_eq := begins.names_eq
  places_eq := by
    have none_left : server.places [] = [] := by cases server <;> rfl
    simpa [none_left] using begins.places_eq [] rfl

theorem places_name (name : String) (rest : List Lexeme) :
    server.places (.name name :: rest) = server.places rest := by
  cases server <;> simp [Server.places, numbered]

theorem places_marks {cs : List Char} (clear : ∀ c ∈ cs, c ≠ server.placeMark)
    (rest : List Lexeme) : server.places (cs.map mark ++ rest) = server.places rest := by
  induction cs with
  | nil => rfl
  | cons c cs ih =>
    have other : c ≠ server.placeMark := clear c List.mem_cons_self
    rw [← ih fun d member => clear d (List.mem_cons_of_mem c member)]
    cases server with
    | postgres => simp [Server.places, numbered, show c ≠ '$' from other]
    | mysql roundTime => simp [Server.places, show c ≠ '?' from other]

section Separating

variable (apart : server.separates separator = true)

include apart

theorem clear_of_separates :
    ∀ c ∈ separator.toList, c ≠ server.quoteMark ∧ c ≠ server.placeMark := by
  intro c member
  simpa using List.all_eq_true.mp (Bool.and_eq_true_iff.mp apart).1 c member

theorem head_of_separates (rest : List Char) :
    (separator.toList ++ rest).head? ≠ some server.quoteMark := by
  have clear := clear_of_separates apart
  have some_first := (Bool.and_eq_true_iff.mp apart).2
  cases chars : separator.toList with
  | nil => simp [chars] at some_first
  | cons c cs => simpa using (clear c (by simp [chars])).1

theorem ends_of_separates (rest : List Lexeme) : Ends (marks separator ++ rest) := by
  have some_first := (Bool.and_eq_true_iff.mp apart).2
  rw [Ends, marks]
  cases chars : separator.toList with
  | nil => simp [chars] at some_first
  | cons c cs => simp_all [digits]

theorem read_separator (rest : List Char) :
    Lexeme.read server.quoteMark (separator.toList ++ rest) =
      (Lexeme.read server.quoteMark rest).map (marks separator ++ ·) :=
  read_clear (fun c member => (clear_of_separates apart c member).1) rest

theorem places_separator (rest : List Lexeme) :
    server.places (marks separator ++ rest) = server.places rest :=
  places_marks (fun c member => (clear_of_separates apart c member).2) rest

theorem Begins.lead (begins : server.Begins text parts names places) :
    server.Begins (separator ++ text) (marks separator ++ parts) names places where
  read rest goes := by
    rw [String.toList_append, List.append_assoc, read_separator apart, begins.read rest goes,
      Option.map_map]
    simp [Function.comp_def]
  names_eq := by rw [List.filterMap_append, filterMap_name?_marks, begins.names_eq, List.nil_append]
  places_eq rest ends := by
    rw [List.append_assoc, places_separator apart, begins.places_eq rest ends]

theorem Begins.close (begins : server.Begins text parts names places) :
    server.Begins (text ++ separator) (parts ++ marks separator) names places where
  read rest goes := by
    rw [String.toList_append, List.append_assoc, begins.read _ (head_of_separates apart rest),
      read_separator apart, Option.map_map]
    simp [Function.comp_def]
  names_eq := by rw [List.filterMap_append, filterMap_name?_marks, begins.names_eq, List.append_nil]
  places_eq rest ends := by
    rw [List.append_assoc, begins.places_eq _ (ends_of_separates apart rest),
      places_separator apart]

theorem Begins.join (begins : server.Begins text parts names places)
    (goes : server.Begins text' parts' names' places') :
    server.Begins (text ++ separator ++ text') (parts ++ marks separator ++ parts')
      (names ++ names') (places ++ places') where
  read rest ended := by
    have behind := (goes.lead apart).read rest ended
    rw [String.append_assoc, String.toList_append, List.append_assoc,
      begins.read _ (by simpa using head_of_separates apart (text'.toList ++ rest)), behind,
      Option.map_map]
    simp [Function.comp_def]
  names_eq := by
    rw [List.append_assoc, List.filterMap_append, begins.names_eq, (goes.lead apart).names_eq]
  places_eq rest ends := by
    rw [List.append_assoc, List.append_assoc, begins.places_eq _ (by
      simpa using ends_of_separates apart (parts' ++ rest)), places_separator apart,
      goes.places_eq rest ends, List.append_assoc]

end Separating

theorem Begins.intercalate (apart : server.separates separator = true) {α : Type} {l : List α}
    {text : α → String} {parts : α → List Lexeme} {names : α → List String}
    {places : α → List (Option Nat)}
    (each : ∀ a ∈ l, server.Begins (text a) (parts a) (names a) (places a)) :
    server.Begins (separator.intercalate (l.map text))
      ((marks separator).intercalate (l.map parts)) (l.flatMap names) (l.flatMap places) := by
  induction l with
  | nil => exact ⟨fun rest _ => by simp, rfl, fun rest _ => rfl⟩
  | cons a l ih =>
    have first := each a List.mem_cons_self
    have others := ih fun b member => each b (List.mem_cons_of_mem a member)
    cases l with
    | nil => simpa using first
    | cons b l =>
      rw [List.map_cons, List.map_cons, String.intercalate_cons_cons, List.map_cons,
        List.map_cons, List.intercalate_cons_cons, List.flatMap_cons, List.flatMap_cons]
      exact first.join apart others

theorem begins_quote (server : Server) (name : String) :
    server.Begins (server.dialect.quote name) [.name name] [name] [] where
  read rest goes := by cases server <;> exact read_quoteWith name goes
  names_eq := rfl
  places_eq rest _ := places_name name rest

private theorem begins_numberedMarker (index : Nat) :
    postgres.Begins (Dialect.numberedMarker index) (marks (Dialect.numberedMarker index)) []
      [some (index + 1)] := by
  have chars : (Dialect.numberedMarker index).toList = '$' :: Nat.toDigits 10 (index + 1) := by
    change ("$" ++ Nat.repr (index + 1)).toList = _
    rw [String.toList_append, Nat.toList_repr]
    rfl
  have digit : ∀ c ∈ Nat.toDigits 10 (index + 1), c.isDigit = true :=
    fun c member => Integer.isDigit_toDigits member
  have other (d : Char) (letter : d.isDigit = false) : ∀ c ∈ Nat.toDigits 10 (index + 1), c ≠ d :=
    fun c member same => by simp [← same, digit c member] at letter
  refine ⟨fun rest _ => read_clear (fun c member => ?_) rest, filterMap_name?_marks _,
    fun rest ends => ?_⟩
  · rw [chars, List.mem_cons] at member
    obtain rfl | member := member
    · decide
    · exact other _ rfl c member
  · rw [marks, chars, List.map_cons, List.cons_append]
    change some (Nat.ofDigitChars 10 (digits _) 0) :: postgres.places _ = _
    rw [digits_append digit ends, Nat.ofDigitChars_ten_toDigits, places_marks (other '$' rfl)]
    rfl

private theorem begins_questionMark (roundTime : Bool) :
    (mysql roundTime).Begins "?" (marks "?") [] [none] where
  read rest _ := by
    have other : ∀ c ∈ ['?'], c ≠ Dialect.graveAccent := by simp [Dialect.graveAccent]
    exact read_clear other rest
  names_eq := rfl
  places_eq rest _ := by
    change List.replicate ((.mark '?' :: rest).count _) none = _
    rw [List.count_cons_self]
    rfl

theorem begins_marker (server : Server) (index : Nat) :
    server.Begins (server.dialect.marker index) (marks (server.dialect.marker index)) []
      [server.place index] := by
  cases server with
  | postgres => exact begins_numberedMarker index
  | mysql roundTime => exact begins_questionMark roundTime

theorem begins_uuidMarker (server : Server) (index : Nat) :
    server.Begins (server.dialect.uuidMarker index) (marks (server.dialect.uuidMarker index)) []
      [server.place index] := by
  cases server with
  | postgres => exact begins_numberedMarker index
  | mysql roundTime =>
    have opening : (mysql roundTime).separates "UNHEX(REPLACE(" = true := rfl
    have closing : (mysql roundTime).separates ", '-', ''))" = true := rfl
    have spelled : Dialect.unhexMarker = "UNHEX(REPLACE(" ++ "?" ++ ", '-', ''))" := by decide
    change (mysql roundTime).Begins Dialect.unhexMarker (marks Dialect.unhexMarker) [] [none]
    rw [spelled, marks_append, marks_append]
    exact ((begins_questionMark roundTime).lead opening).close closing

/-- The expression that a value of a column is stored with. -/
def stored (server : Server) (c : Column) (index : Nat) : String :=
  if c.isUuid then server.dialect.uuidMarker index else server.dialect.marker index

theorem begins_stored (server : Server) (c : Column) (index : Nat) :
    server.Begins (server.stored c index) (marks (server.stored c index)) []
      [server.place index] := by
  unfold stored
  split
  · exact begins_uuidMarker server index
  · exact begins_marker server index

/-- What is read in the expression that selects a column. -/
def selected (server : Server) (c : Column) : List Lexeme :=
  match server with
  | postgres =>
    if Dialect.decodedTypes.contains (Text.asciiLower c.dataType) then [.name c.name]
    else .name c.name :: marks "::text"
  | mysql _ => [.name c.name]

theorem begins_selectExpression (server : Server) (c : Column) :
    server.Begins (server.dialect.selectExpression c.name c.dataType) (server.selected c) [c.name]
      [] := by
  have name := begins_quote server c.name
  cases server with
  | postgres =>
    simp only [dialect, Dialect.postgres, selected]
    split
    · exact name
    · exact name.close rfl
  | mysql roundTime => exact name

/-- What is read in the comparison of a column with the value of a parameter. -/
def compared (server : Server) (name value : String) : List Lexeme :=
  match server with
  | postgres =>
    marks "NOT (" ++ ([.name name] ++ marks " IS DISTINCT FROM " ++ marks value) ++ marks ")"
  | mysql _ => [.name name] ++ marks " <=> " ++ marks value

theorem begins_comparison (server : Server) (c d : Column) (index : Nat) :
    server.Begins (server.dialect.comparison index d.name c.dataType)
      (server.compared d.name (server.stored c index)) [d.name] [server.place index] := by
  have name := begins_quote server d.name
  have value := begins_stored server c index
  cases server with
  | postgres =>
    have numbered : postgres.stored c index = Dialect.numberedMarker index := by
      unfold stored
      split <;> rfl
    rw [numbered] at value ⊢
    have opening : postgres.separates "NOT (" = true := rfl
    have between : postgres.separates " IS DISTINCT FROM " = true := rfl
    have closing : postgres.separates ")" = true := rfl
    have whole := ((name.join between value).lead opening).close closing
    exact whole
  | mysql roundTime => exact name.join rfl value

end Server

namespace TablePlan

open Lexeme Server

theorem comparisons_eq (db : Dialect) (pairs : List (Column × Column)) (index : Nat) :
    comparisons db index pairs =
      (pairs.zipIdx index).map fun p => db.comparison p.2 p.1.2.name p.1.1.dataType := by
  induction pairs generalizing index with
  | nil => rfl
  | cons pair pairs ih => rw [comparisons, ih, List.zipIdx_cons, List.map_cons]

theorem valueMarkers_eq (server : Server) (pairs : List (Column × Column)) (index : Nat) :
    valueMarkers server.dialect index (pairs.map (·.1)) =
      (pairs.zipIdx index).map fun p => server.stored p.1.1 p.2 := by
  induction pairs generalizing index with
  | nil => rfl
  | cons pair pairs ih =>
    rw [List.map_cons, valueMarkers, ih, List.zipIdx_cons, List.map_cons]
    rfl

/-- The places of so many parameters, each once and in order. -/
def placesUpTo (server : Server) (count : Nat) : List (Option Nat) :=
  (List.range count).map server.place

def listed (parts : List (List Lexeme)) : List Lexeme := (marks ", ").intercalate parts

section Statements

variable (server : Server)

private theorem comma : server.separates ", " = true := by cases server <;> rfl

private theorem closingBracket : server.separates ")" = true := by cases server <;> rfl

def selectParts (t : Table) : List Lexeme :=
  marks "SELECT " ++ listed (t.columns.map server.selected) ++ marks " FROM " ++ [.name t.name]

theorem begins_select (t : Table) :
    server.Begins (selectStatement server.dialect t) (selectParts server t)
      (t.columns.map (·.name) ++ [t.name]) [] := by
  have opening : server.separates "SELECT " = true := by cases server <;> rfl
  have between : server.separates " FROM " = true := by cases server <;> rfl
  have columns := Begins.intercalate (comma server) (l := t.columns) fun c _ =>
    begins_selectExpression server c
  have unplaced : t.columns.flatMap (fun _ => ([] : List (Option Nat))) = [] := by simp
  rw [← List.map_eq_flatMap, unplaced] at columns
  exact (columns.lead opening).join between (begins_quote server t.name)

/-- What is read in the statement that selects the rows of a table whose identity is not among so
many parameters. -/
def excludingParts (t : Table) (excluded : Nat) : List Lexeme :=
  selectParts server t ++ marks " WHERE " ++ [.name (identityName t)] ++ marks " NOT IN (" ++
    listed ((List.range excluded).map fun i => marks (server.dialect.marker i)) ++ marks ")"

theorem begins_excluding (t : Table) (excluded : Nat) :
    server.Begins
      (selectStatement server.dialect t ++ " WHERE " ++ server.dialect.quote (identityName t) ++
        " NOT IN (" ++ commaSeparated ((List.range excluded).map server.dialect.marker) ++ ")")
      (excludingParts server t excluded) (t.columns.map (·.name) ++ [t.name] ++ [identityName t])
      (placesUpTo server excluded) := by
  have filter : server.separates " WHERE " = true := by cases server <;> rfl
  have opening : server.separates " NOT IN (" = true := by cases server <;> rfl
  have values := Begins.intercalate (comma server) (l := List.range excluded) fun i _ =>
    begins_marker server i
  have unnamed : (List.range excluded).flatMap (fun _ => ([] : List String)) = [] := by simp
  rw [← List.map_eq_flatMap, unnamed] at values
  have named := (begins_select server t).join filter (begins_quote server (identityName t))
  have whole := (named.join opening values).close (closingBracket server)
  rwa [List.append_nil] at whole

/-- What is read in the statement that looks for a row: each destination column is compared with
the expression that the value of its source column is stored with. -/
def existsParts (target : Table) (pairs : List (Column × Column)) : List Lexeme :=
  marks "SELECT EXISTS (SELECT 1 FROM " ++ [.name target.name] ++ marks " WHERE " ++
    (marks " AND ").intercalate (pairs.zipIdx.map fun p =>
      server.compared p.1.2.name (server.stored p.1.1 p.2)) ++ marks ")"

theorem places_zipIdx {α : Type} (l : List α) :
    (l.zipIdx.map fun p => server.place p.2) = placesUpTo server l.length := by
  rw [placesUpTo, List.range_eq_range', ← List.zipIdx_map_snd, List.map_map]
  rfl

theorem begins_exists (target : Table) (pairs : List (Column × Column)) :
    server.Begins (existsStatement server.dialect target pairs) (existsParts server target pairs)
      (target.name :: pairs.map (·.2.name)) (placesUpTo server pairs.length) := by
  have opening : server.separates "SELECT EXISTS (SELECT 1 FROM " = true := by
    cases server <;> rfl
  have filter : server.separates " WHERE " = true := by cases server <;> rfl
  have conjunction : server.separates " AND " = true := by cases server <;> rfl
  have clauses := Begins.intercalate conjunction (l := pairs.zipIdx) fun p _ =>
    begins_comparison server p.1.1 p.1.2 p.2
  have columns : (pairs.zipIdx.map fun p => p.1.2.name) = pairs.map (·.2.name) := by
    have unnumbered := congrArg (List.map (·.2.name)) (List.zipIdx_map_fst 0 pairs)
    rwa [List.map_map] at unnumbered
  rw [← List.map_eq_flatMap, ← List.map_eq_flatMap, columns, places_zipIdx,
    ← comparisons_eq] at clauses
  exact (((begins_quote server target.name).lead opening).join filter clauses).close
    (closingBracket server)

/-- What is read in the statement that adds a row. -/
def insertParts (target : Table) (pairs : List (Column × Column)) : List Lexeme :=
  marks "INSERT INTO " ++ [.name target.name] ++ marks " (" ++
    listed (pairs.map fun p => [.name p.2.name]) ++ marks ") VALUES (" ++
      listed (pairs.zipIdx.map fun p => marks (server.stored p.1.1 p.2)) ++ marks ")"

theorem begins_insert (target : Table) (pairs : List (Column × Column)) :
    server.Begins (insertStatement server.dialect target pairs) (insertParts server target pairs)
      (target.name :: pairs.map (·.2.name)) (placesUpTo server pairs.length) := by
  have opening : server.separates "INSERT INTO " = true := by cases server <;> rfl
  have bracket : server.separates " (" = true := by cases server <;> rfl
  have between : server.separates ") VALUES (" = true := by cases server <;> rfl
  have columns := Begins.intercalate (comma server) (l := pairs) fun p _ =>
    begins_quote server p.2.name
  have values := Begins.intercalate (comma server) (l := pairs.zipIdx) fun p _ =>
    begins_stored server p.1.1 p.2
  have unnamed : pairs.zipIdx.flatMap (fun _ => ([] : List String)) = [] := by simp
  have unplaced : pairs.flatMap (fun _ => ([] : List (Option Nat))) = [] := by simp
  rw [← List.map_eq_flatMap, unplaced] at columns
  rw [← List.map_eq_flatMap, unnamed, places_zipIdx, ← valueMarkers_eq] at values
  have named := ((begins_quote server target.name).lead opening).join bracket columns
  have whole := (named.join between values).close (closingBracket server)
  rwa [List.append_nil] at whole

end Statements

section Matching

variable {source target : Table} {sourceDb targetDb : Dialect} {plan : TablePlan}

theorem matchColumns_cons (c : Column) (columns : List Column) :
    (matchColumns target (c :: columns)).1 =
      match target.find? c.key with
      | none => .error (.columnNotFound target.name c.name)
      | some d => (matchColumns target columns).1.map (d :: ·) := by
  rw [matchColumns, Table.lookup, Table.column]
  cases search : target.find? (Text.lower c.name) with
  | none =>
    have missing : target.find? c.key = none := search
    rw [missing]
  | some d =>
    have present : target.find? c.key = some d := search
    rw [present]

theorem matchColumns_ok_iff {columns found : List Column} :
    (matchColumns target columns).1 = .ok found ↔
      List.Forall₂ (fun c d => target.find? c.key = some d) columns found := by
  induction columns generalizing found with
  | nil => simp [matchColumns, eq_comm]
  | cons c columns ih =>
    rw [matchColumns_cons, List.forall₂_cons_left_iff]
    cases target.find? c.key with
    | none => simp
    | some d =>
      cases rest : (matchColumns target columns).1 with
      | error failure => simp [← ih, rest, Except.map]
      | ok more =>
        simp only [← ih, rest, Except.map, Except.ok.injEq, Option.some.injEq]
        exact ⟨fun same => ⟨d, more, rfl, rfl, same.symm⟩, fun ⟨_, _, first, others, same⟩ =>
          by rw [same, first, others]⟩

theorem make_ok_iff : (make sourceDb targetDb source target).1 = .ok plan ↔
    ∃ found, List.Forall₂ (fun c d => target.find? c.key = some d) source.columns found ∧
      plan = ⟨source, target, found, selectStatement sourceDb source,
        existsStatement targetDb target (source.columns.zip found),
        insertStatement targetDb target (source.columns.zip found)⟩ := by
  simp only [← matchColumns_ok_iff, make]
  cases (matchColumns target source.columns).1 with
  | error failure => simp [Except.map]
  | ok found => simp [Except.map, eq_comm]

theorem exists_make_iff : (∃ plan, (make sourceDb targetDb source target).1 = .ok plan) ↔
    ∀ c ∈ source.columns, ∃ d ∈ target.columns, d.key = c.key := by
  have present (c : Column) :
      (∃ d, target.find? c.key = some d) ↔ ∃ d ∈ target.columns, d.key = c.key := by
    rw [← Option.isSome_iff_exists, Table.find?, List.find?_isSome]
    simp
  simp only [make_ok_iff, ← present, ← exists_forall₂_iff]
  constructor
  · rintro ⟨-, found, each, -⟩
    exact ⟨found, each⟩
  · rintro ⟨found, each⟩
    exact ⟨_, found, each, rfl⟩

private theorem map_key_eq {columns found : List Column}
    (keyed : List.Forall₂ (fun c d => d ∈ target.columns ∧ d.key = c.key) columns found) :
    found.map Column.key = columns.map Column.key := by
  induction keyed with
  | nil => rfl
  | cons first _ ih => rw [List.map_cons, List.map_cons, first.2, ih]

end Matching

/-- A plan whose statements are read as they are meant, by the server that holds the source and the
one that holds the destination. -/
structure Legible (reader writer : Server) (source target : Table) (plan : TablePlan) : Prop where
  /-- Each source column goes to the destination column of its key. -/
  mapped : List.Forall₂ (fun c d => ∀ e, e ∈ target.columns ∧ e.key = c.key ↔ e = d)
    source.columns plan.targetColumns
  distinct : (plan.targetColumns.map Column.key).Nodup
  select : reader.Reads plan.selectSql (selectParts reader source)
    (source.columns.map (·.name) ++ [source.name]) []
  excluding : ∀ count, reader.Reads (plan.excludingSql reader.dialect count)
    (if count = 0 then selectParts reader source else excludingParts reader source count)
    (source.columns.map (·.name) ++ [source.name] ++
      if count = 0 then [] else [identityName source]) (placesUpTo reader count)
  search : writer.Reads plan.existsSql
    (existsParts writer target (source.columns.zip plan.targetColumns))
    (target.name :: plan.targetColumns.map (·.name)) (placesUpTo writer source.columns.length)
  insert : writer.Reads plan.insertSql
    (insertParts writer target (source.columns.zip plan.targetColumns))
    (target.name :: plan.targetColumns.map (·.name)) (placesUpTo writer source.columns.length)

/-- Whatever tables and columns are called, there is a plan for two tables exactly when every source
column has a namesake in the destination, and its statements are read as they are meant: each part
is about the column in its place, and what is looked for is what is added. -/
theorem make_legible {rows rows' : List SchemaRow} {s s' : Schema}
    (read : Schema.ofRows rows = .ok s) (read' : Schema.ofRows rows' = .ok s')
    {source target : Table} (here : source ∈ s.tables) (there : target ∈ s'.tables)
    (reader writer : Server) :
    ((∃ plan, (make reader.dialect writer.dialect source target).1 = .ok plan) ↔
      ∀ c ∈ source.columns, ∃ d ∈ target.columns, d.key = c.key) ∧
    ∀ plan, (make reader.dialect writer.dialect source target).1 = .ok plan →
      Legible reader writer source target plan := by
  refine ⟨exists_make_iff, fun plan made => ?_⟩
  obtain ⟨found, each, rfl⟩ := make_ok_iff.mp made
  have keyed : List.Forall₂ (fun c d => d ∈ target.columns ∧ d.key = c.key) source.columns
      found := by
    refine each.imp fun c d search => ⟨List.mem_of_find?_eq_some search, ?_⟩
    simpa using List.find?_some search
  -- no two columns of a schema share a key: nothing is mapped twice, and in one way only
  have distinct := Schema.nodup_columns_of_ofRows read source here
  have unique := Schema.nodup_columns_of_ofRows read' target there
  have count : (source.columns.zip found).length = source.columns.length := by
    simp [each.length_eq]
  have names : (source.columns.zip found).map (·.2.name) = found.map (·.name) := by
    have second := List.map_snd_zip (Nat.le_of_eq each.length_eq.symm)
    have named := congrArg (List.map Column.name) second
    rwa [List.map_map] at named
  have search := (begins_exists writer target (source.columns.zip found)).reads
  have insert := (begins_insert writer target (source.columns.zip found)).reads
  rw [count, names] at search insert
  refine ⟨?_, map_key_eq keyed ▸ distinct, (begins_select reader source).reads, fun count => ?_,
    search, insert⟩
  · refine keyed.imp fun c d ⟨member, key⟩ e => ⟨fun ⟨also, same⟩ => ?_, ?_⟩
    · exact List.inj_on_of_nodup_map unique also member (same.trans key.symm)
    · rintro rfl
      exact ⟨member, key⟩
  · rw [excludingSql]
    by_cases none_left : count = 0
    · subst none_left
      simpa [placesUpTo] using (begins_select reader source).reads
    · simpa [none_left] using (begins_excluding reader source count).reads

private def oddRows : List SchemaRow :=
  [⟨"we\"ird", "ID", "UUID", none⟩, ⟨"we\"ird", "a`\"", "inet", none⟩]

private def oddTable : Table := ⟨"we\"ird", [⟨"ID", "UUID", 0⟩, ⟨"a`\"", "inet", 0⟩]⟩

private def evenRows : List SchemaRow :=
  [⟨"`", "A`\"", "varchar", some 43⟩, ⟨"`", "Id", "binary", some 16⟩]

private def evenTable : Table := ⟨"`", [⟨"A`\"", "varchar", 43⟩, ⟨"Id", "binary", 16⟩]⟩

theorem make_legible_of_odd_names :
    Schema.ofRows oddRows = .ok ⟨[oddTable]⟩ ∧ Schema.ofRows evenRows = .ok ⟨[evenTable]⟩ ∧
      ∃ plan, (make Server.postgres.dialect (Server.mysql true).dialect oddTable evenTable).1 =
        .ok plan ∧ Legible .postgres (.mysql true) oddTable evenTable plan := by
  have read : Schema.ofRows oddRows = .ok ⟨[oddTable]⟩ := by decide +kernel
  have read' : Schema.ofRows evenRows = .ok ⟨[evenTable]⟩ := by decide +kernel
  obtain ⟨planned, legible⟩ := make_legible read read' List.mem_cons_self List.mem_cons_self
    .postgres (.mysql true)
  obtain ⟨plan, made⟩ := planned.mpr (by decide +kernel)
  exact ⟨read, read', plan, made, legible plan made⟩

end TablePlan

end RowSync
