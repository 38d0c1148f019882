import Mathlib.Data.List.Infix
import RowSync.Proofs.Memory.Tables
import RowSync.Proofs.Number.SpelledInteger
import RowSync.Proofs.Text.Splitting
import RowSync.Text.Blank

/-!
What a store in memory answers to the statements that runs send. A statement is understood as it
is meant when the names in it are those of a well-named table that the store holds.
-/

set_option autoImplicit false

namespace RowSync

def namesText (columns : List MemoryColumn) : List Char :=
  ", ".toList.intercalate (columns.map fun c => c.name.toList)

abbrev MarkedColumn := MemoryColumn × List Char

namespace MarkedColumn

/-- The place is one of the two that statements have. -/
def WellMarked (c : MarkedColumn) : Prop := c.2 = MemoryStore.unhexChars ∨ c.2 = ['?']

/-- The comparison of the column with the parameter. -/
def clauseText (c : MarkedColumn) : List Char := c.1.name.toList ++ (" <=> ".toList ++ c.2)

/-- The place as it is once written identifiers are replaced. -/
def shortMarker (c : MarkedColumn) : List Char :=
  if c.2 == MemoryStore.unhexChars then ['U'] else c.2

end MarkedColumn

abbrev BoundedColumn := MemoryColumn × Nat

namespace BoundedColumn

/-- The condition that a value is longer than the bound. -/
def limitText (c : BoundedColumn) : List Char :=
  "LENGTH(".toList ++ (c.1.name.toList ++ (") > ".toList ++ (toString (c.2 : Int)).toList))

/-- The condition that one value at least is longer than its bound. -/
def filterText (limits : List BoundedColumn) : List Char :=
  " OR ".toList.intercalate (limits.map limitText)

end BoundedColumn

section Words

/-- The characters may stand behind a name in a statement. -/
def EndsName (after : List Char) : Prop :=
  ∃ stop rest, Text.isNameChar stop = false ∧ after = stop :: rest

private theorem endsName_cons {stop : Char} (foreign : Text.isNameChar stop = false)
    (rest : List Char) : EndsName (stop :: rest) := ⟨stop, rest, foreign, rfl⟩

private theorem stripPrefix?_name {name word : String} {after : List Char}
    (plain : Text.IsPlain name) (plain_word : Text.IsPlain word) (ends : EndsName after)
    (different : name ≠ word) : Text.stripPrefix? (word.toList ++ [' ']) (name.toList ++ after) =
      none := by
  obtain ⟨stop, rest, foreign, rfl⟩ := ends
  by_contra found
  obtain ⟨left, equal⟩ := Option.ne_none_iff_exists'.mp found
  rw [Text.stripPrefix?_eq_some_iff, List.append_assoc] at equal
  have one : (name.toList ++ stop :: rest).takeWhile Text.isNameChar = name.toList :=
    Text.takeWhile_isNameChar plain foreign
  have other : (word.toList ++ ' ' :: left).takeWhile Text.isNameChar = word.toList :=
    Text.takeWhile_isNameChar plain_word (by decide)
  have whole : name.toList ++ stop :: rest = word.toList ++ ' ' :: left := equal
  rw [whole, other] at one
  exact different (String.toList_inj.mp one.symm)

theorem clear_name {s : Char} {sep : List Char} {name : String} (plain : Text.IsPlain name)
    (foreign : Text.isNameChar s = false) (after : List Char) :
    Text.Clear (s :: sep) name.toList after :=
  Text.clear_of_not_mem (fun member => by simp [plain s member] at foreign) after

private theorem namesText_cons (c : MemoryColumn) (columns : List MemoryColumn)
    {after : List Char} (ends : EndsName after) :
    ∃ rest, EndsName rest ∧ namesText (c :: columns) ++ after = c.name.toList ++ rest := by
  cases columns with
  | nil => exact ⟨after, ends, by simp [namesText]⟩
  | cons d columns =>
    refine ⟨", ".toList ++ (namesText (d :: columns) ++ after), ?_, ?_⟩
    · exact endsName_cons (by decide) _
    · simp only [namesText, List.map_cons, List.intercalate_cons_cons, List.append_assoc]

private theorem clear_namesText {columns : List MemoryColumn} {word : String} {after : List Char}
    (plain : ∀ c ∈ columns, Text.IsPlain c.name) (plain_word : Text.IsPlain word)
    (different : ∀ c ∈ columns, c.name ≠ word) (ends : EndsName after) :
    Text.Clear (' ' :: (word.toList ++ [' '])) (namesText columns) after := by
  induction columns with
  | nil => trivial
  | cons c columns ih =>
    have first := plain c List.mem_cons_self
    have tail := ih (fun d member => plain d (List.mem_cons_of_mem c member))
      fun d member => different d (List.mem_cons_of_mem c member)
    cases columns with
    | nil =>
      rw [namesText, List.map_singleton, List.intercalate_singleton]
      exact clear_name first (by decide) after
    | cons d columns =>
      obtain ⟨rest, later, split⟩ := namesText_cons d columns ends
      have next : Text.stripPrefix? (' ' :: (word.toList ++ [' ']))
          (' ' :: (namesText (d :: columns) ++ after)) = none := by
        rw [split]
        exact stripPrefix?_name (plain d (by simp)) plain_word later (different d (by simp))
      have regroup : namesText (c :: d :: columns) =
          c.name.toList ++ (", ".toList ++ namesText (d :: columns)) := by
        simp only [namesText, List.map_cons, List.intercalate_cons_cons, List.append_assoc]
      rw [regroup, Text.clear_append, Text.clear_append]
      exact ⟨clear_name first (by decide) _,
        ⟨Text.stripPrefix?_head_ne (by decide), next, trivial⟩, tail⟩

private theorem splitAll_namesText {columns : List MemoryColumn}
    (plain : ∀ c ∈ columns, Text.IsPlain c.name) (some : columns ≠ []) :
    Text.splitAll ", ".toList (namesText columns) = columns.map fun c => c.name.toList := by
  refine Text.splitAll_intercalate (by decide) (by simpa using some) fun part member after => ?_
  obtain ⟨c, here, rfl⟩ := List.mem_map.mp member
  exact clear_name (plain c here) (by decide) after

private theorem namesText_ne_count {columns : List MemoryColumn}
    (plain : ∀ c ∈ columns, Text.IsPlain c.name) (some : columns ≠ []) :
    namesText columns ≠ "COUNT(*)".toList := by
  intro equal
  have names := splitAll_namesText plain some
  rw [equal] at names
  have single : ["COUNT(*)".toList] = columns.map fun c => c.name.toList := names
  obtain ⟨c, here, counting⟩ := List.mem_map.mp (single ▸ List.mem_singleton_self _)
  have bracket : '(' ∈ c.name.toList := by rw [counting]; decide
  exact absurd (plain c here '(' bracket) (by decide)

theorem not_mem_namesText {columns : List MemoryColumn} {x : Char}
    (plain : ∀ c ∈ columns, Text.IsPlain c.name) (foreign : Text.isNameChar x = false)
    (apart : x ∉ ", ".toList) : x ∉ namesText columns := by
  induction columns with
  | nil => simp [namesText]
  | cons c columns ih =>
    have first : x ∉ c.name.toList := fun member => by
      simp [plain c List.mem_cons_self x member] at foreign
    have tail := ih fun d member => plain d (List.mem_cons_of_mem c member)
    cases columns with
    | nil => simpa [namesText] using first
    | cons d columns =>
      have regroup : namesText (c :: d :: columns) =
          c.name.toList ++ (", ".toList ++ namesText (d :: columns)) := by
        simp only [namesText, List.map_cons, List.intercalate_cons_cons, List.append_assoc]
      rw [regroup, List.mem_append, List.mem_append]
      exact fun member => member.elim first fun member => member.elim apart tail

end Words

section Markers

open MarkedColumn

private theorem clear_clauseText {c : MarkedColumn} (marked : c.WellMarked)
    (plain : Text.IsPlain c.1.name) (after : List Char) :
    Text.Clear " AND ".toList c.clauseText after := by
  rw [clauseText, Text.clear_append]
  refine ⟨clear_name plain (by decide) _, ?_⟩
  rcases marked with marker | marker
  · rw [marker]
    simp [Text.Clear, Text.stripPrefix?, MemoryStore.unhexChars, Dialect.unhexMarker]
  · rw [marker]
    simp [Text.Clear, Text.stripPrefix?]

private theorem splitOnce?_clauseText {c : MarkedColumn} (plain : Text.IsPlain c.1.name) :
    Text.splitOnce? " <=> ".toList c.clauseText = some (c.1.name.toList, c.2) :=
  Text.splitOnce?_append (clear_name plain (by decide) _)

private theorem splitAll_clauses {columns : List MarkedColumn} (some : columns ≠ [])
    (marked : ∀ c ∈ columns, WellMarked c) (plain : ∀ c ∈ columns, Text.IsPlain c.1.name) :
    Text.splitAll " AND ".toList (" AND ".toList.intercalate (columns.map clauseText)) =
      columns.map clauseText := by
  refine Text.splitAll_intercalate (by decide) (by simpa using some) fun part member after => ?_
  obtain ⟨c, here, rfl⟩ := List.mem_map.mp member
  exact clear_clauseText (marked c here) (plain c here) after

private theorem replaceAll_marker {c : MarkedColumn} (marked : c.WellMarked) (rest : List Char) :
    Text.replaceAll MemoryStore.unhexChars ['U'] (c.2 ++ rest) =
      c.shortMarker ++ Text.replaceAll MemoryStore.unhexChars ['U'] rest := by
  rcases marked with marker | marker
  · rw [shortMarker, marker, beq_self_eq_true, if_pos rfl]
    exact Text.replaceAll_append_old (by decide) rest
  · rw [shortMarker, marker, if_neg (by decide)]
    exact Text.replaceAll_append_clear (by decide) ⟨rfl, trivial⟩

private theorem replaceAll_markers {columns : List MarkedColumn}
    (marked : ∀ c ∈ columns, WellMarked c) :
    Text.replaceAll MemoryStore.unhexChars ['U'] (", ".toList.intercalate (columns.map Prod.snd)) =
      ", ".toList.intercalate (columns.map shortMarker) := by
  induction columns with
  | nil => rfl
  | cons c columns ih =>
    have tail := ih fun d member => marked d (List.mem_cons_of_mem c member)
    have first := replaceAll_marker (marked c List.mem_cons_self)
    cases columns with
    | nil =>
      have none := first []
      rw [List.append_nil] at none
      simp only [List.map_cons, List.map_nil, List.intercalate_singleton]
      rw [none]
      exact List.append_nil _
    | cons d columns =>
      have between : Text.Clear MemoryStore.unhexChars ", ".toList
          (", ".toList.intercalate ((d :: columns).map Prod.snd)) := ⟨rfl, rfl, trivial⟩
      simp only [List.map_cons, List.intercalate_cons_cons, List.append_assoc] at tail between ⊢
      rw [first, Text.replaceAll_append_clear (by decide) between, tail]

private theorem splitAll_markers {columns : List MarkedColumn} (some : columns ≠ [])
    (marked : ∀ c ∈ columns, WellMarked c) :
    Text.splitAll ", ".toList (", ".toList.intercalate (columns.map shortMarker)) =
      columns.map shortMarker := by
  refine Text.splitAll_intercalate (by decide) (by simpa using some) fun part member after => ?_
  obtain ⟨c, here, rfl⟩ := List.mem_map.mp member
  rcases marked c here with marker | marker
  · rw [shortMarker, marker]
    exact ⟨rfl, trivial⟩
  · rw [shortMarker, marker]
    exact ⟨rfl, trivial⟩

end Markers

section Limits

open BoundedColumn

/-- No word at which conditions on lengths are taken apart is in the name. -/
structure WholeName (name : String) : Prop where
  no_or : ¬ " OR ".toList <:+: name.toList
  no_not_in : ¬ " NOT IN (".toList <:+: name.toList

instance (name : String) : Decidable (WholeName name) :=
  decidable_of_iff (¬ " OR ".toList <:+: name.toList ∧ ¬ " NOT IN (".toList <:+: name.toList)
    ⟨fun both => ⟨both.1, both.2⟩, fun whole => ⟨whole.no_or, whole.no_not_in⟩⟩

theorem wholeName_of_isPlain {name : String} (plain : Text.IsPlain name) : WholeName name := by
  have blank : ' ' ∉ name.toList := fun member => absurd (plain ' ' member) (by decide)
  exact ⟨fun inside => blank (inside.subset (by decide)),
    fun inside => blank (inside.subset (by decide))⟩

theorem wholeTable_of_isPlain {name : String} (plain : Text.IsPlain name) :
    ¬ " WHERE ".toList <:+: name.toList ++ [' '] := by
  have blank : ' ' ∉ name.toList := fun member => absurd (plain ' ' member) (by decide)
  rw [List.infix_concat_iff, List.suffix_concat_iff]
  rintro ((empty | ⟨front, ended, inside⟩) | inside)
  · cases empty
  · have word : " WHERE".toList ++ [' '] = front ++ [' '] := ended
    obtain rfl := List.append_cancel_right word
    exact blank (inside.subset (by decide))
  · exact blank (inside.subset (by decide))

private theorem clear_limitText {c : BoundedColumn} {first : Char} {word : List Char}
    (apart : ¬ ' ' :: first :: word <:+: c.1.name.toList)
    (foreign : first ≠ '>' ∧ first.isDigit = false) (unclosed : ')' ∉ ' ' :: first :: word)
    (after : List Char) : Text.Clear (' ' :: first :: word) c.limitText after := by
  have solid : ∀ d ∈ Nat.toDigits 10 c.2, d.isDigit = true :=
    fun d member => Integer.isDigit_toDigits member
  have ahead : ' ' ∉ Nat.toDigits 10 c.2 := fun blank => absurd (solid ' ' blank) (by decide)
  obtain ⟨d, ds, form⟩ : ∃ d ds, Nat.toDigits 10 c.2 = d :: ds :=
    List.exists_cons_of_ne_nil Nat.toDigits_ne_nil
  rw [form] at solid ahead
  have other : first ≠ d := by
    rintro rfl
    simp [solid first List.mem_cons_self] at foreign
  have opening : ' ' ∉ "LENGTH(".toList := by decide
  have named (rest : List Char) : Text.Clear (' ' :: first :: word) c.1.name.toList (')' :: rest) :=
    Text.clear_of_not_infix_append (Text.not_infix_concat (by simp) apart unclosed)
      (fun member => unclosed (List.mem_cons_of_mem _ (List.dropLast_subset _ member))) rest
  unfold limitText
  rw [Integer.toList_natCast, form, Text.clear_append, Text.clear_append, Text.clear_append]
  refine ⟨Text.clear_of_not_mem opening _, named _, ?_, Text.clear_of_not_mem ahead _⟩
  simp [Text.Clear, Text.stripPrefix?, foreign.1, other]

private theorem splitAll_filterText {limits : List BoundedColumn} (some : limits ≠ [])
    (whole : ∀ c ∈ limits, WholeName c.1.name) :
    Text.splitAll " OR ".toList (filterText limits) = limits.map limitText := by
  refine Text.splitAll_intercalate (by decide) (by simpa using some) fun part member after => ?_
  obtain ⟨c, here, rfl⟩ := List.mem_map.mp member
  exact clear_limitText (whole c here).no_or (by decide) (by decide) after

private theorem clear_filterText {limits : List BoundedColumn}
    (whole : ∀ c ∈ limits, WholeName c.1.name) :
    Text.Clear " NOT IN (".toList (filterText limits) [] := by
  induction limits with
  | nil => trivial
  | cons c limits ih =>
    have first := (whole c List.mem_cons_self).no_not_in
    have tail := ih fun d member => whole d (List.mem_cons_of_mem c member)
    cases limits with
    | nil =>
      rw [filterText, List.map_singleton, List.intercalate_singleton]
      exact clear_limitText first (by decide) (by decide) []
    | cons d limits =>
      have regroup : filterText (c :: d :: limits) =
          c.limitText ++ (" OR ".toList ++ filterText (d :: limits)) := by
        simp only [filterText, List.map_cons, List.intercalate_cons_cons, List.append_assoc]
      obtain ⟨rest, next⟩ : ∃ rest, filterText (d :: limits) = 'L' :: rest := by
        cases limits with
        | nil => exact ⟨_, by rw [filterText, List.map_singleton, List.intercalate_singleton]; rfl⟩
        | cons e limits =>
          exact ⟨_, by
            simp only [filterText, List.map_cons, List.intercalate_cons_cons, List.append_assoc]
            rfl⟩
      rw [regroup, Text.clear_append, Text.clear_append]
      refine ⟨clear_limitText first (by decide) (by decide) _, ?_, tail⟩
      simp [Text.Clear, Text.stripPrefix?, next]

end Limits

namespace MemoryTable

def indexOf (t : MemoryTable) (c : MemoryColumn) : Nat := (t.position? c.name).getD 0

variable {t : MemoryTable}

theorem position?_of_mem (named : t.WellNamed) {c : MemoryColumn} (member : c ∈ t.columns) :
    t.position? c.name = some (t.indexOf c) := by
  obtain ⟨i, bound, rfl⟩ := List.mem_iff_getElem.mp member
  rw [indexOf, position?_getElem named bound, Option.getD_some]

theorem columnIndex_of_mem (named : t.WellNamed) {c : MemoryColumn} (member : c ∈ t.columns) :
    t.columnIndex c.name = .ok (t.indexOf c) :=
  columnIndex_eq_ok (position?_of_mem named member)

theorem map_cell_indexOf (named : t.WellNamed) {row : Row}
    (complete : row.length = t.columns.length) :
    (t.columns.map fun c => MemoryStore.cell row (t.indexOf c)) = row := by
  refine List.ext_getElem (by simp [complete]) fun i bound inRow => ?_
  rw [List.length_map] at bound
  rw [List.getElem_map, indexOf, position?_getElem named bound, Option.getD_some,
    MemoryStore.cell, List.getD_eq_getElem?_getD, List.getElem?_eq_getElem inRow, Option.getD_some]

end MemoryTable

theorem mapM_eq_ok {α β : Type} {l : List α} {f : α → Outcome β} {g : α → β}
    (each : ∀ a ∈ l, f a = .ok (g a)) : l.mapM f = .ok (l.map g) := by
  induction l with
  | nil => rfl
  | cons a l ih =>
    have tail := ih fun b member => each b (List.mem_cons_of_mem a member)
    rw [List.mapM_cons, each a List.mem_cons_self, tail]
    rfl

theorem exists_mapM_error {α β : Type} {l : List α} {f : α → Outcome β} {a : α} {failure : Failure}
    (member : a ∈ l) (failed : f a = .error failure) : ∃ failure', l.mapM f = .error failure' := by
  induction l with
  | nil => cases member
  | cons b l ih =>
    rw [List.mapM_cons]
    cases first : f b with
    | error failure' => exact ⟨failure', rfl⟩
    | ok c =>
      rcases List.mem_cons.mp member with rfl | later
      · rw [failed] at first
        cases first
      · obtain ⟨failure', others⟩ := ih later
        exact ⟨failure', by rw [others]; rfl⟩

theorem eq_map_of_mapM_eq_ok {α β : Type} {l : List α} {f : α → Outcome β} {g : α → β} {bs : List β}
    (each : ∀ a ∈ l, ∀ b, f a = .ok b → b = g a) (read : l.mapM f = .ok bs) : bs = l.map g := by
  induction l generalizing bs with
  | nil =>
    cases read
    rfl
  | cons a l ih =>
    rw [List.mapM_cons] at read
    cases first : f a with
    | error failure =>
      rw [first] at read
      cases read
    | ok b =>
      cases others : l.mapM f with
      | error failure =>
        rw [first, others] at read
        cases read
      | ok rest =>
        rw [first, others] at read
        cases read
        rw [each a List.mem_cons_self b first,
          ih (fun c member => each c (List.mem_cons_of_mem a member)) others, List.map_cons]

namespace MemoryStore

section Reading

variable {s : MemoryStore} {t : MemoryTable} {columns : List MemoryColumn} {sql : String}
  {rest : List Char}

private theorem startsWith_eq_false
    (different : Text.stripPrefix? "SELECT EXISTS ".toList sql.toList = none) :
    Text.startsWith sql "SELECT EXISTS " = false := by
  rw [Text.startsWith, Bool.eq_false_iff]
  intro found
  obtain ⟨left, equal⟩ := List.isPrefixOf_iff_prefix.mp found
  rw [Text.stripPrefix?_eq_some_iff.mpr equal.symm] at different
  cases different

private theorem query_of_columns (named : t.WellNamed) (within : columns ⊆ t.columns)
    (some : columns ≠ []) (words : sql.toList =
      "SELECT ".toList ++ (namesText columns ++ (" FROM ".toList ++ rest)))
    (parameters : List Value) :
    query sql parameters s = (s.runSelect sql parameters, s.remember sql) := by
  have different : Text.stripPrefix? "SELECT EXISTS ".toList sql.toList = none := by
    obtain ⟨c, more, rfl⟩ := List.exists_cons_of_ne_nil some
    have here : c ∈ t.columns := within List.mem_cons_self
    have after : EndsName (" FROM ".toList ++ rest) := endsName_cons (by decide) _
    obtain ⟨behind, ends, split⟩ := namesText_cons c more after
    rw [words, split]
    exact stripPrefix?_name (named.columns_plain c here)
      (by decide : Text.IsPlain "EXISTS") ends (named.columns_unreserved c here).2
  rw [query, startsWith_eq_false different]
  rfl

private theorem splitOnce?_from (named : t.WellNamed) (within : columns ⊆ t.columns) :
    Text.splitOnce? " FROM ".toList (namesText columns ++ (" FROM ".toList ++ rest)) =
      some (namesText columns, rest) :=
  Text.splitOnce?_append (clear_namesText (fun c here => named.columns_plain c (within here))
    (by decide : Text.IsPlain "FROM")
    (fun c here => (named.columns_unreserved c (within here)).1)
    (endsName_cons (by decide) _))

private theorem splitOnce?_where (named : t.WellNamed) (filter : List Char) :
    Text.splitOnce? " WHERE ".toList (t.name.toList ++ (" WHERE ".toList ++ filter)) =
      some (t.name.toList, filter) :=
  Text.splitOnce?_append (clear_name named.name_plain (by decide) _)

private theorem splitOnce?_no_where (named : t.WellNamed) :
    Text.splitOnce? " WHERE ".toList t.name.toList = none :=
  Text.splitOnce?_eq_none (by decide) (clear_name named.name_plain (by decide) _)

private theorem read_columns (named : t.WellNamed) (within : columns ⊆ t.columns)
    (some : columns ≠ []) :
    (Text.splitAll ", ".toList (namesText columns)).mapM
      (fun c => t.columnIndex (String.ofList c)) = .ok (columns.map t.indexOf) := by
  rw [splitAll_namesText (fun c here => named.columns_plain c (within here)) some, List.mapM_map]
  refine mapM_eq_ok fun c here => ?_
  rw [Function.comp_apply, String.ofList_toList]
  exact MemoryTable.columnIndex_of_mem named (within here)

private theorem beq_count_eq_false (named : t.WellNamed) (within : columns ⊆ t.columns)
    (some : columns ≠ []) : (namesText columns == "COUNT(*)".toList) = false :=
  beq_eq_false_iff_ne.mpr
    (namesText_ne_count (fun c here => named.columns_plain c (within here)) some)

theorem query_select (stored : t.StoredIn s.tables) (named : t.WellNamed)
    (within : columns ⊆ t.columns)
    (some : columns ≠ []) (words : sql.toList =
      "SELECT ".toList ++ (namesText columns ++ (" FROM ".toList ++ t.name.toList)))
    (parameters : List Value) :
    query sql parameters s =
      (.ok (t.rows.map fun row => columns.map fun c => cell row (t.indexOf c)),
        s.remember sql) := by
  rw [query_of_columns named within some words, runSelect, words, Text.stripPrefix?_append]
  simp only [splitOnce?_from named within, splitOnce?_no_where named, String.ofList_toList,
    table_eq stored, beq_count_eq_false named within some,
    read_columns named within some, bind, Except.bind, List.map_map, Function.comp_def]
  rfl

theorem query_excluding (stored : t.StoredIn s.tables) (named : t.WellNamed)
    (within : columns ⊆ t.columns)
    (some : columns ≠ []) {c : MemoryColumn} (member : c ∈ t.columns) {marks : List Char}
    (words : sql.toList = "SELECT ".toList ++ (namesText columns ++ (" FROM ".toList ++
      (t.name.toList ++ (" WHERE ".toList ++ (c.name.toList ++ (" NOT IN (".toList ++ marks)))))))
    (parameters : List Value) :
    query sql parameters s =
      (.ok ((t.rows.filter fun row =>
          !parameters.any fun p => (cell row (t.indexOf c)).nullSafeEq p).map fun row =>
            columns.map fun c => cell row (t.indexOf c)), s.remember sql) := by
  have excluded : Text.splitOnce? " NOT IN (".toList
      (c.name.toList ++ (" NOT IN (".toList ++ marks)) = Option.some (c.name.toList, marks) :=
    Text.splitOnce?_append (clear_name (named.columns_plain c member) (by decide) _)
  rw [query_of_columns named within some words, runSelect, words, Text.stripPrefix?_append]
  simp only [splitOnce?_from named within, splitOnce?_where named, String.ofList_toList,
    table_eq stored, filterRows, excluded,
    MemoryTable.columnIndex_of_mem named member, beq_count_eq_false named within some,
    read_columns named within some, bind, Except.bind, Except.map, List.map_map,
    Function.comp_def]
  rfl

private theorem query_of_count (words : sql.toList = "SELECT COUNT(*) FROM ".toList ++ rest)
    (parameters : List Value) :
    query sql parameters s = (s.runSelect sql parameters, s.remember sql) := by
  have different : Text.stripPrefix? "SELECT EXISTS ".toList sql.toList = none := by
    rw [words]
    rfl
  rw [query, startsWith_eq_false different]
  rfl

private theorem words_of_count (words : sql.toList = "SELECT COUNT(*) FROM ".toList ++ rest) :
    sql.toList = "SELECT ".toList ++ ("COUNT(*)".toList ++ (" FROM ".toList ++ rest)) := words

private theorem splitOnce?_count :
    Text.splitOnce? " FROM ".toList ("COUNT(*)".toList ++ (" FROM ".toList ++ rest)) =
      some ("COUNT(*)".toList, rest) :=
  Text.splitOnce?_append (Text.clear_of_not_mem (by decide) _)

theorem query_count (stored : t.StoredIn s.tables) (named : t.WellNamed)
    (words : sql.toList = "SELECT COUNT(*) FROM ".toList ++ t.name.toList)
    (parameters : List Value) :
    query sql parameters s =
      (.ok [[.int64 (Int64.ofNat t.rows.length)]], s.remember sql) := by
  rw [query_of_count words, runSelect, words_of_count words, Text.stripPrefix?_append]
  simp only [splitOnce?_count, splitOnce?_no_where named, String.ofList_toList,
    table_eq stored, bind, Except.bind, beq_self_eq_true, if_true]

/-- Some value of a row is longer than its bound. -/
def exceeds (t : MemoryTable) (limits : List BoundedColumn) (row : Row) : Bool :=
  limits.any fun c => c.2 < valueLength (cell row (t.indexOf c.1))

section Exceeding

variable {limits : List BoundedColumn}

private theorem splitOnce?_sign (before after : List Char) :
    Text.splitOnce? ") > ".toList (before ++ (") > ".toList ++ after)) = some (before, after) ∨
      ∃ part rest, ')' ∈ rest ∧
        Text.splitOnce? ") > ".toList (before ++ (") > ".toList ++ after)) = some (part, rest) := by
  have sign : ") > ".toList = ')' :: " > ".toList := by decide
  rw [sign]
  rcases Text.splitOnce?_known ')' " > ".toList before after with
    split | ⟨part, more, rest, rfl, split⟩
  · exact .inl split
  · refine .inr ⟨part, rest, ?_, split⟩
    have halves := Text.eq_append_of_splitOnce? split
    rw [List.append_assoc, List.append_cancel_left_eq] at halves
    have behind : more ++ (')' :: " > ".toList ++ after) = " > ".toList ++ rest :=
      (List.cons.inj halves).2
    have member : ')' ∈ " > ".toList ++ rest := by
      rw [← behind]
      simp
    exact (List.mem_append.mp member).resolve_left (by decide)

private theorem lengthLimit_eq {c : BoundedColumn} {limit : Nat × Nat}
    (read : lengthLimit sql t c.limitText = .ok limit) :
    t.columnIndex c.1.name = .ok (t.indexOf c.1) ∧ limit = (t.indexOf c.1, c.2) := by
  have opened : (Text.stripPrefix? "LENGTH(".toList c.limitText).bind
      (Text.splitOnce? ") > ".toList) = Text.splitOnce? ") > ".toList
        (c.1.name.toList ++ (") > ".toList ++ (toString (c.2 : Int)).toList)) := by
    unfold BoundedColumn.limitText
    rw [Text.stripPrefix?_append, Option.bind_some]
  rw [lengthLimit, opened] at read
  rcases splitOnce?_sign c.1.name.toList (toString (c.2 : Int)).toList with
    split | ⟨part, rest, bracket, split⟩
  · simp only [split, String.ofList_toList] at read
    cases bound : Integer.readUnsigned 64 (toString (c.2 : Int)) with
    | error fault =>
      rw [bound] at read
      cases read
    | ok n =>
      rw [bound] at read
      cases place : t.position? c.1.name with
      | none =>
        obtain ⟨failure, absent⟩ := MemoryTable.columnIndex_eq_error place
        rw [absent] at read
        cases read
      | some i =>
        have found := MemoryTable.columnIndex_eq_ok place
        have here : t.indexOf c.1 = i := by rw [MemoryTable.indexOf, place, Option.getD_some]
        rw [found] at read
        cases read
        rw [here, Integer.eq_of_readUnsigned_toString bound]
        exact ⟨found, rfl⟩
  · simp only [split] at read
    cases bound : Integer.readUnsigned 64 (String.ofList rest) with
    | error fault =>
      rw [bound] at read
      cases read
    | ok n =>
      have solid := Integer.isDigit_of_readUnsigned bound ')' (by simpa using bracket)
      exact absurd solid (by decide)

theorem filterRows_eq (some_limit : limits ≠ []) (whole : ∀ c ∈ limits, WholeName c.1.name)
    {parameters : List Value} {rows : List Row}
    (read : filterRows sql t parameters (BoundedColumn.filterText limits) = .ok rows) :
    (∀ c ∈ limits, t.columnIndex c.1.name = .ok (t.indexOf c.1)) ∧
      rows = t.rows.filter (exceeds t limits) := by
  have other := Text.splitOnce?_eq_none (by decide) (clear_filterText whole)
  rw [filterRows, other] at read
  simp only [splitAll_filterText some_limit whole, List.mapM_map] at read
  cases limited : limits.mapM (lengthLimit sql t ∘ BoundedColumn.limitText) with
  | error failure =>
    rw [limited] at read
    cases read
  | ok found =>
    obtain rfl := eq_map_of_mapM_eq_ok (fun c _ limit read => (lengthLimit_eq read).2) limited
    rw [limited] at read
    cases read
    refine ⟨fun c member => ?_, List.filter_congr fun row _ => ?_⟩
    · cases understood : (lengthLimit sql t ∘ BoundedColumn.limitText) c with
      | ok limit => exact (lengthLimit_eq understood).1
      | error failure =>
        obtain ⟨failure', refused⟩ := exists_mapM_error member understood
        cases refused.symm.trans limited
    · rw [exceeds, List.any_map]
      rfl

private theorem eq_of_blank {a b more rest : List Char} (unbroken : ' ' ∉ a) (unbroken' : ' ' ∉ b)
    (same : a ++ ' ' :: more = b ++ ' ' :: rest) : a = b := by
  have one : Text.splitOnce? [' '] (a ++ ([' '] ++ more)) = some (a, more) :=
    Text.splitOnce?_append (Text.clear_of_not_mem unbroken _)
  have other : Text.splitOnce? [' '] (b ++ ([' '] ++ rest)) = some (b, rest) :=
    Text.splitOnce?_append (Text.clear_of_not_mem unbroken' _)
  rw [List.singleton_append] at one other
  rw [same, other] at one
  exact (Prod.mk.inj (Option.some.inj one)).1.symm

private def picked (t : MemoryTable) (columns : List Char) (kept : List Row) : Outcome (List Row) :=
  if columns == "COUNT(*)".toList then .ok [[.int64 (Int64.ofNat kept.length)]]
  else ((Text.splitAll ", ".toList columns).mapM fun c => t.columnIndex (String.ofList c)).map
    fun indexes => kept.map fun row => indexes.map (cell row)

/-- A filter by lengths is put to the table that is found under the name in the statement. -/
private theorem runSelect_exceeding {columns : List Char} {name : String}
    (whole : ¬ " WHERE ".toList <:+: name.toList ++ [' ']) (some_limit : limits ≠ [])
    (whole_columns : ∀ c ∈ limits, WholeName c.1.name)
    (words : sql.toList = "SELECT ".toList ++ (columns ++ (" FROM ".toList ++ (name.toList ++
      (" WHERE ".toList ++ BoundedColumn.filterText limits)))))
    (clear : ∀ rest, Text.Clear " FROM ".toList columns (" FROM ".toList ++ rest))
    {parameters : List Value} {rows : List Row} (read : s.runSelect sql parameters = .ok rows) :
    ∃ t, s.table name = .ok t ∧
      (∀ c ∈ limits, t.columnIndex c.1.name = .ok (t.indexOf c.1)) ∧
      picked t columns (t.rows.filter (exceeds t limits)) = .ok rows := by
  have filtered : Text.splitOnce? " WHERE ".toList (name.toList ++ (" WHERE ".toList ++
      BoundedColumn.filterText limits)) = some (name.toList, BoundedColumn.filterText limits) :=
    Text.splitOnce?_append (Text.clear_of_not_infix_append whole (by decide) _)
  rw [runSelect, words, Text.stripPrefix?_append] at read
  simp only [Text.splitOnce?_append (clear _), filtered, String.ofList_toList, bind,
    Except.bind] at read
  cases found : s.table name with
  | error failure =>
    rw [found] at read
    cases read
  | ok t =>
    simp only [found] at read
    cases keeping : filterRows sql t parameters (BoundedColumn.filterText limits) with
    | error failure =>
      rw [keeping] at read
      cases read
    | ok kept =>
      obtain ⟨there, rfl⟩ := filterRows_eq some_limit whole_columns keeping
      rw [keeping] at read
      exact ⟨t, rfl, there, read⟩

/-- What is counted of the rows that have a value longer than its bound, if it is counted: rows of
the table that is found under the name. -/
theorem query_count_exceeding_named {name : String}
    (whole : ¬ " WHERE ".toList <:+: name.toList ++ [' ']) (some_limit : limits ≠ [])
    (whole_columns : ∀ c ∈ limits, WholeName c.1.name)
    (words : sql.toList = "SELECT COUNT(*) FROM ".toList ++ (name.toList ++
      (" WHERE ".toList ++ BoundedColumn.filterText limits)))
    (parameters : List Value) {rows : List Row}
    (answered : (query sql parameters s).1 = .ok rows) :
    ∃ t, s.table name = .ok t ∧
      (∀ c ∈ limits, t.columnIndex c.1.name = .ok (t.indexOf c.1)) ∧
      rows = [[.int64 (Int64.ofNat (t.rows.filter (exceeds t limits)).length)]] := by
  rw [query_of_count words] at answered
  obtain ⟨t, found, there, counted⟩ := runSelect_exceeding whole some_limit whole_columns
    (words_of_count words) (fun _ => Text.clear_of_not_mem (by decide) _) answered
  rw [picked, beq_self_eq_true, if_pos rfl] at counted
  cases counted
  exact ⟨t, found, there, rfl⟩

theorem query_column_exceeding_named {name column : String}
    (whole : ¬ " WHERE ".toList <:+: name.toList ++ [' ']) (some_limit : limits ≠ [])
    (whole_columns : ∀ c ∈ limits, WholeName c.1.name) (unbroken : ' ' ∉ column.toList)
    (single : ',' ∉ column.toList) (unreserved : column ≠ "EXISTS" ∧ column ≠ "COUNT(*)")
    (words : sql.toList = "SELECT ".toList ++ (column.toList ++ (" FROM ".toList ++
      (name.toList ++ (" WHERE ".toList ++ BoundedColumn.filterText limits)))))
    (parameters : List Value) {rows : List Row}
    (answered : (query sql parameters s).1 = .ok rows) :
    ∃ t index, s.table name = .ok t ∧ t.columnIndex column = .ok index ∧
      (∀ c ∈ limits, t.columnIndex c.1.name = .ok (t.indexOf c.1)) ∧
      rows = (t.rows.filter (exceeds t limits)).map fun row => [cell row index] := by
  have different : Text.stripPrefix? "SELECT EXISTS ".toList sql.toList = none := by
    rw [Option.eq_none_iff_forall_ne_some]
    intro rest found
    have from_blank : " FROM ".toList = ' ' :: "FROM ".toList := by decide
    have exists_blank : "SELECT EXISTS ".toList =
        "SELECT ".toList ++ ("EXISTS".toList ++ [' ']) := by decide
    rw [Text.stripPrefix?_eq_some_iff, words, from_blank, exists_blank, List.append_assoc,
      List.append_assoc, List.append_cancel_left_eq] at found
    exact unreserved.1 (String.toList_inj.mp (eq_of_blank unbroken (by decide) found))
  have counts : (column.toList == "COUNT(*)".toList) = false :=
    beq_eq_false_iff_ne.mpr fun same => unreserved.2 (String.toList_inj.mp same)
  have alone : Text.splitAll ", ".toList column.toList = [column.toList] :=
    Text.splitAll_of_clear (by decide) (Text.clear_of_not_mem single _)
  rw [query, startsWith_eq_false different] at answered
  obtain ⟨t, found, there, listed⟩ := runSelect_exceeding whole some_limit whole_columns
    words (fun _ => Text.clear_of_not_mem unbroken _) answered
  rw [picked, counts, alone, List.mapM_cons, String.ofList_toList] at listed
  cases place : t.columnIndex column with
  | error failure =>
    rw [place] at listed
    cases listed
  | ok index =>
    rw [place] at listed
    cases listed
    exact ⟨t, index, found, place, there, rfl⟩

variable (stored : t.StoredIn s.tables) (named : t.WellNamed) (some_limit : limits ≠ [])
  (bounded : ∀ c ∈ limits, c.1 ∈ t.columns)

include named bounded

private theorem wholeName_of_limits : ∀ c ∈ limits, WholeName c.1.name :=
  fun c member => wholeName_of_isPlain (named.columns_plain c.1 (bounded c member))

include stored some_limit

theorem query_exceeding (within : columns ⊆ t.columns) (some : columns ≠ [])
    (words : sql.toList = "SELECT ".toList ++ (namesText columns ++ (" FROM ".toList ++
      (t.name.toList ++ (" WHERE ".toList ++ BoundedColumn.filterText limits)))))
    (parameters : List Value) {rows : List Row}
    (answered : (query sql parameters s).1 = .ok rows) :
    rows = (t.rows.filter (exceeds t limits)).map fun row =>
      columns.map fun c => cell row (t.indexOf c) := by
  rw [query_of_columns named within some words] at answered
  obtain ⟨u, found, -, read⟩ := runSelect_exceeding (wholeTable_of_isPlain named.name_plain)
    some_limit (wholeName_of_limits named bounded) words (fun rest => clear_namesText
      (fun c here => named.columns_plain c (within here)) (by decide : Text.IsPlain "FROM")
      (fun c here => (named.columns_unreserved c (within here)).1)
      (endsName_cons (by decide) _)) answered
  obtain rfl : t = u := Except.ok.inj ((table_eq stored).symm.trans found)
  rw [picked, beq_count_eq_false named within some, read_columns named within some] at read
  cases read
  simp only [List.map_map, Function.comp_def]

theorem query_count_exceeding
    (words : sql.toList = "SELECT COUNT(*) FROM ".toList ++ (t.name.toList ++
      (" WHERE ".toList ++ BoundedColumn.filterText limits)))
    (parameters : List Value) {rows : List Row}
    (answered : (query sql parameters s).1 = .ok rows) :
    rows = [[.int64 (Int64.ofNat (t.rows.filter (exceeds t limits)).length)]] := by
  obtain ⟨u, found, -, counted⟩ := query_count_exceeding_named
    (wholeTable_of_isPlain named.name_plain) some_limit (wholeName_of_limits named bounded) words
    parameters answered
  obtain rfl : t = u := Except.ok.inj ((table_eq stored).symm.trans found)
  exact counted

end Exceeding

end Reading

section Probing

variable {s : MemoryStore} {t : MemoryTable} {columns : List MarkedColumn} {sql : String}

/-- What a row must hold to be the one looked for. -/
def wantedCells (t : MemoryTable) (columns : List MarkedColumn) (parameters : List Value) :
    List (Nat × Value) :=
  (columns.zip parameters).map fun cell => (t.indexOf cell.1.1, throughMarker cell.1.2 cell.2)

private theorem comparison_clauseText (named : t.WellNamed) {c : MarkedColumn}
    (member : c.1 ∈ t.columns) (sql : String) (parameter : Value) :
    comparison sql t c.clauseText parameter =
      .ok (t.indexOf c.1, throughMarker c.2 parameter) := by
  rw [comparison, splitOnce?_clauseText (named.columns_plain _ member)]
  simp only [String.ofList_toList, MemoryTable.columnIndex_of_mem named member]
  rfl

theorem query_exists (stored : t.StoredIn s.tables) (named : t.WellNamed) (some : columns ≠ [])
    (within : ∀ c ∈ columns, c.1 ∈ t.columns) (marked : ∀ c ∈ columns, c.WellMarked)
    (words : sql.toList = "SELECT EXISTS (SELECT 1 FROM ".toList ++ (t.name.toList ++
      (" WHERE ".toList ++ (" AND ".toList.intercalate (columns.map MarkedColumn.clauseText)))) ++
        [')'])
    (parameters : List Value) :
    query sql parameters s =
      (.ok [[.int64 (if t.rows.any (matchesAll (wantedCells t columns parameters)) then 1
        else 0)]], s.remember sql) := by
  have found : Text.startsWith sql "SELECT EXISTS " = true := by
    rw [Text.startsWith, words]
    rfl
  have plain (c : MarkedColumn) (here : c ∈ columns) : Text.IsPlain c.1.name :=
    named.columns_plain c.1 (within c here)
  have inner : (Text.stripPrefix? "SELECT EXISTS (SELECT 1 FROM ".toList sql.toList).bind
      (Text.stripSuffix? [')']) = Option.some (t.name.toList ++ (" WHERE ".toList ++
        (" AND ".toList.intercalate (columns.map MarkedColumn.clauseText)))) := by
    rw [words, List.append_assoc, Text.stripPrefix?_append, Option.bind_some,
      Text.stripSuffix?_append]
  have wanted : ((columns.map MarkedColumn.clauseText).zip parameters).mapM
      (fun pair => comparison sql t pair.1 pair.2) = .ok (wantedCells t columns parameters) := by
    rw [List.zip_map_left, List.mapM_map]
    refine mapM_eq_ok fun cell here => ?_
    exact comparison_clauseText named (within _ (List.of_mem_zip here).1) sql cell.2
  rw [query, if_pos found, runExists, inner]
  simp only [splitOnce?_where named, String.ofList_toList, table_eq stored,
    splitAll_clauses some marked plain, wanted, bind, Except.bind]

end Probing

section Writing

variable {settings : MemorySettings} {s : MemoryStore} {t : MemoryTable}
  {columns : List MarkedColumn} {sql : String}

/-- A row with the parameters put at the positions of the columns. -/
def filledRow (settings : MemorySettings) (t : MemoryTable) (row : Row)
    (cells : List (MarkedColumn × Value)) : Row :=
  cells.foldl (fun row cell => setCell row (t.indexOf cell.1.1)
    ((throughMarker cell.1.2 cell.2).mapTime settings.resolution.normalize)) row

/-- The row that an insert of the parameters makes, NULL where no column is named. -/
def insertedRow (settings : MemorySettings) (t : MemoryTable) (columns : List MarkedColumn)
    (parameters : List Value) : Row :=
  filledRow settings t (t.columns.map fun _ => .null) (columns.zip parameters)

private theorem shortMarker_beq {c : MarkedColumn} (marked : c.WellMarked) :
    (c.shortMarker == ['U']) = (c.2 == unhexChars) := by
  rcases marked with marker | marker
  · rw [MarkedColumn.shortMarker, marker, beq_self_eq_true, if_pos rfl]
    rfl
  · rw [MarkedColumn.shortMarker, marker]
    rfl

private theorem fillRow_eq (named : t.WellNamed) {cells : List (MarkedColumn × Value)}
    (within : ∀ cell ∈ cells, cell.1.1 ∈ t.columns) (marked : ∀ cell ∈ cells, cell.1.WellMarked)
    (row : Row) :
    fillRow settings t row
      (cells.map fun cell => ((cell.1.1.name.toList, cell.1.shortMarker), cell.2)) =
      .ok (filledRow settings t row cells) := by
  induction cells generalizing row with
  | nil => rfl
  | cons cell cells ih =>
    have tail := ih (fun c here => within c (List.mem_cons_of_mem cell here))
      fun c here => marked c (List.mem_cons_of_mem cell here)
    rw [List.map_cons, fillRow, String.ofList_toList,
      MemoryTable.columnIndex_of_mem named (within cell List.mem_cons_self)]
    simp only [shortMarker_beq (marked cell List.mem_cons_self), tail]
    rfl

private theorem zip_entries (columns : List MarkedColumn) (parameters : List Value) :
    ((columns.map fun c => c.1.name.toList).zip (columns.map MarkedColumn.shortMarker)).zip
      parameters = (columns.zip parameters).map fun cell =>
        ((cell.1.1.name.toList, cell.1.shortMarker), cell.2) := by
  rw [List.zip_map', List.zip_map_left]
  rfl

private theorem table_remember (s : MemoryStore) (sql name : String) :
    (s.remember sql).table name = s.table name := rfl

private theorem runInsert_eq (settings : MemorySettings) (stored : t.StoredIn s.tables)
    (named : t.WellNamed) (some : columns ≠ []) (within : ∀ c ∈ columns, c.1 ∈ t.columns)
    (marked : ∀ c ∈ columns, c.WellMarked)
    (words : sql.toList = "INSERT INTO ".toList ++ (t.name.toList ++ (" (".toList ++
      (namesText (columns.map Prod.fst) ++ (") VALUES (".toList ++
        ", ".toList.intercalate (columns.map Prod.snd)) ++ [')']))))
    (parameters : List Value) :
    runInsert settings (s.remember sql) sql parameters =
      match simulatedFailure? settings parameters with
      | Option.some failure => .error failure
      | none =>
        match repeatedKey? t (insertedRow settings t columns parameters) with
        | Option.some failure => .error failure
        | none => .ok (1, (s.remember sql).setRows t.name
            (t.rows ++ [insertedRow settings t columns parameters])) := by
  have plain (c : MemoryColumn) (here : c ∈ columns.map Prod.fst) : Text.IsPlain c.name := by
    obtain ⟨entry, member, rfl⟩ := List.mem_map.mp here
    exact named.columns_plain entry.1 (within entry member)
  have table : Text.splitOnce? " (".toList (t.name.toList ++ (" (".toList ++
      (namesText (columns.map Prod.fst) ++ (") VALUES (".toList ++
        ", ".toList.intercalate (columns.map Prod.snd)) ++ [')']))) = Option.some (t.name.toList,
          namesText (columns.map Prod.fst) ++ (") VALUES (".toList ++
            ", ".toList.intercalate (columns.map Prod.snd)) ++ [')']) :=
    Text.splitOnce?_append (clear_name named.name_plain (by decide) _)
  have values : Text.splitOnce? ") VALUES (".toList (namesText (columns.map Prod.fst) ++
      (") VALUES (".toList ++ ", ".toList.intercalate (columns.map Prod.snd))) =
        Option.some (namesText (columns.map Prod.fst),
          ", ".toList.intercalate (columns.map Prod.snd)) :=
    Text.splitOnce?_append (Text.clear_of_not_mem
      (not_mem_namesText plain (by decide) (by decide)) _)
  have names : Text.splitAll ", ".toList (namesText (columns.map Prod.fst)) =
      columns.map fun c => c.1.name.toList := by
    rw [splitAll_namesText plain (by simpa using some), List.map_map]
    rfl
  have filled : fillRow settings t (t.columns.map fun _ => .null)
      ((columns.zip parameters).map fun cell =>
        ((cell.1.1.name.toList, cell.1.shortMarker), cell.2)) =
      .ok (insertedRow settings t columns parameters) :=
    fillRow_eq named (fun cell here => within _ (List.of_mem_zip here).1)
      (fun cell here => marked _ (List.of_mem_zip here).1) _
  rw [runInsert, words]
  cases simulatedFailure? settings parameters with
  | some failure => rfl
  | none =>
    simp only [Text.stripPrefix?_append, table, Text.stripSuffix?_append, Option.bind_some,
      values, replaceAll_markers marked, splitAll_markers some marked, names, zip_entries,
      String.ofList_toList, table_remember, table_eq stored, filled,
      bind, Except.bind]
    cases repeatedKey? t (insertedRow settings t columns parameters) <;> rfl

/-- Adding a row makes it of the parameters and puts it behind the others, unless the insert is
set up to fail or the row would repeat an identity. -/
theorem execute_insert (stored : t.StoredIn s.tables) (named : t.WellNamed) (some : columns ≠ [])
    (within : ∀ c ∈ columns, c.1 ∈ t.columns) (marked : ∀ c ∈ columns, c.WellMarked)
    (words : sql.toList = "INSERT INTO ".toList ++ (t.name.toList ++ (" (".toList ++
      (namesText (columns.map Prod.fst) ++ (") VALUES (".toList ++
        ", ".toList.intercalate (columns.map Prod.snd)) ++ [')']))))
    (parameters : List Value) :
    execute settings sql parameters s =
      match simulatedFailure? settings parameters with
      | Option.some failure => (.error failure, s.remember sql)
      | none =>
        match repeatedKey? t (insertedRow settings t columns parameters) with
        | Option.some failure => (.error failure, s.remember sql)
        | none => (.ok 1, (s.remember sql).setRows t.name
            (t.rows ++ [insertedRow settings t columns parameters])) := by
  have emptying : Text.stripPrefix? "TRUNCATE TABLE ".toList sql.toList = none := by
    rw [words]
    rfl
  have insert := runInsert_eq settings stored named some within marked words
    parameters
  rw [execute]
  simp only [emptying, insert]
  cases simulatedFailure? settings parameters with
  | some failure => rfl
  | none => cases repeatedKey? t (insertedRow settings t columns parameters) <;> rfl

theorem execute_truncate (stored : t.StoredIn s.tables)
    (words : sql.toList = "TRUNCATE TABLE ".toList ++ t.name.toList) (parameters : List Value) :
    execute settings sql parameters s =
      (.ok t.rows.length, (s.remember sql).setRows t.name []) := by
  rw [execute, words, Text.stripPrefix?_append]
  simp only [String.ofList_toList, table_remember, table_eq stored]

end Writing

end MemoryStore

end RowSync
