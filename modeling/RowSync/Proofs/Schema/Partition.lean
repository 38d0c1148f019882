import RowSync.Proofs.Copying.ExactValidation
import RowSync.Proofs.Schema.OfRows
import RowSync.Schema.Comparison

/-!
The comparison of two schemas loses no table and no column of either side and reports none twice.
It walks the source columns where a validation walks those of the destination, and the pairs that
do not fit are the same on both ways.
-/

set_option autoImplicit false

namespace RowSync

/-- The names are all different, and every one is in exactly one of the two lists, and once. -/
def Splits (names first second : List String) : Prop :=
  names.Nodup ∧ (first ++ second).Perm names

theorem Splits.of_filter {α : Type} {name : α → String} {p : α → Bool} {l found left : List α}
    (distinct : (l.map name).Nodup) (here : found.Perm (l.filter p))
    (rest : left = l.filter fun a => !p a) :
    Splits (l.map name) (found.map name) (left.map name) := by
  refine ⟨distinct, ?_⟩
  rw [← List.map_append, rest]
  exact ((here.append_right _).trans (List.filter_append_perm p l)).map name

theorem Table.find?_eq_some_iff {t : Table} (distinct : (t.columns.map Column.key).Nodup)
    {key : String} {c : Column} : t.find? key = some c ↔ c ∈ t.columns ∧ c.key = key := by
  constructor
  · intro found
    exact ⟨List.mem_of_find?_eq_some found, by simpa using List.find?_some found⟩
  · rintro ⟨member, rfl⟩
    exact find?_of_nodup distinct member fun d _ => beq_iff_eq

theorem clash?_eq_some_iff {t : Table} (distinct : (t.columns.map Column.key).Nodup) {d : Column}
    {p : ColumnPair} :
    clash? t d = some p ↔ p.source ∈ t.columns ∧ p.source.key = d.key ∧
      isCompatible p.source d = false ∧ p.target = d := by
  simp only [clash?, Option.bind_eq_some_iff, Table.find?_eq_some_iff distinct]
  constructor
  · rintro ⟨c, ⟨member, key⟩, unfit⟩
    split at unfit
    · cases unfit
    · rename_i unfitting
      cases unfit
      exact ⟨member, key, by simpa using unfitting, rfl⟩
  · obtain ⟨c, e⟩ := p
    rintro ⟨member, key, unfit, rfl⟩
    refine ⟨c, ⟨member, key⟩, ?_⟩
    rw [if_neg (by simpa using unfit)]

theorem exists_incompatibleAmong {source target : Table} {columns : List Column}
    (found : ∀ d ∈ columns, ∃ c ∈ source.columns, c.key = d.key) :
    ∃ pairs, (incompatibleAmong source target columns).1 = .ok pairs := by
  induction columns with
  | nil => exact ⟨[], rfl⟩
  | cons d columns ih =>
    obtain ⟨pairs, rest⟩ := ih fun e member => found e (List.mem_cons_of_mem d member)
    rw [incompatibleAmong, Table.lookup, Table.column]
    cases search : source.find? (Text.lower d.name) with
    | none =>
      obtain ⟨c, member, key⟩ := found d List.mem_cons_self
      exact absurd (beq_iff_eq.mpr key) (List.find?_eq_none.mp search c member)
    | some c =>
      dsimp only
      rw [rest]
      exact ⟨_, rfl⟩

/-- The pair as a validation has it. -/
def ColumnComparison.pair (c : ColumnComparison) : ColumnPair := ⟨c.source, c.target⟩

/-- What the comparison says about a source table and the destination table of its key, if there is
one: the columns of each are shared out between the pairs and those that the other table lacks. -/
structure TableComparison.Partitions (t : Table) (u? : Option Table) (entry : TableComparison) :
    Prop where
  source : entry.source = t.name
  target : entry.target? = u?.map (·.name)
  paired : ∀ p ∈ entry.columns, p.source ∈ t.columns ∧ p.source.key = p.target.key ∧
    ∃ u, u? = some u ∧ p.target ∈ u.columns
  sources : Splits (t.columns.map (·.name)) (entry.columns.map (·.source.name))
    entry.missingInTarget
  targets : Splits ((u?.toList.flatMap (·.columns)).map (·.name))
    (entry.columns.map (·.target.name)) entry.missingInSource

namespace SchemaComparison

variable {t u : Table} {source target : Schema}

theorem mem_columns_compareTable (distinct : (u.columns.map Column.key).Nodup)
    {p : ColumnComparison} : p ∈ (compareTable t (some u)).columns ↔
      p.source ∈ t.columns ∧ p.target ∈ u.columns ∧ p.source.key = p.target.key := by
  obtain ⟨c, d⟩ := p
  simp only [compareTable, List.mem_filterMap, Option.map_eq_some_iff,
    Table.find?_eq_some_iff distinct]
  constructor
  · rintro ⟨_, member, _, ⟨member', key⟩, equal⟩
    cases equal
    exact ⟨member, member', key.symm⟩
  · rintro ⟨member, member', key⟩
    exact ⟨c, member, d, ⟨member', key.symm⟩, rfl⟩

theorem sources_compareTable (t u : Table) :
    (compareTable t (some u)).columns.map (·.source) =
      t.columns.filter fun c => (u.find? c.key).isSome := by
  rw [compareTable, List.map_filterMap, ← List.filterMap_eq_filter]
  refine List.filterMap_congr fun c _ => ?_
  cases search : u.find? c.key <;> simp [search, Option.guard]

theorem nodup_targets_compareTable (distinct : (t.columns.map Column.key).Nodup)
    (distinct' : (u.columns.map Column.key).Nodup) :
    ((compareTable t (some u)).columns.map (·.target)).Nodup := by
  have keys : ((compareTable t (some u)).columns.map (·.target)).map Column.key =
      ((compareTable t (some u)).columns.map (·.source)).map Column.key := by
    rw [List.map_map, List.map_map]
    refine List.map_congr_left fun p member => ?_
    exact ((mem_columns_compareTable distinct').mp member).2.2.symm
  refine List.Nodup.of_map Column.key ?_
  rw [keys, sources_compareTable]
  exact distinct.sublist (List.filter_sublist.map _)

theorem targets_compareTable (distinct : (t.columns.map Column.key).Nodup)
    (distinct' : (u.columns.map Column.key).Nodup) :
    ((compareTable t (some u)).columns.map (·.target)).Perm
      (u.columns.filter fun d => t.columns.any (·.key == d.key)) := by
  refine (List.perm_ext_iff_of_nodup (nodup_targets_compareTable distinct distinct')
    (distinct'.of_map.filter _)).mpr fun d => ?_
  simp only [List.mem_map, List.mem_filter, List.any_eq_true, beq_iff_eq,
    mem_columns_compareTable distinct']
  constructor
  · rintro ⟨⟨c, _⟩, ⟨member, member', key⟩, rfl⟩
    exact ⟨member', c, member, key⟩
  · rintro ⟨member', c, member, key⟩
    exact ⟨⟨c, d⟩, ⟨member, member', key⟩, rfl⟩

theorem nodup_names {columns : List Column} (distinct : (columns.map Column.key).Nodup) :
    (columns.map (·.name)).Nodup :=
  List.Nodup.of_map Text.lower (by rwa [List.map_map])

theorem partitions_compareTable {u? : Option Table}
    (distinct : (t.columns.map Column.key).Nodup)
    (distinct' : ∀ u, u? = some u → (u.columns.map Column.key).Nodup) :
    TableComparison.Partitions t u? (compareTable t u?) := by
  cases u? with
  | none =>
    constructor
    case source => rfl
    case target => rfl
    case paired => simp [compareTable]
    case sources => exact ⟨nodup_names distinct, List.Perm.refl _⟩
    case targets => exact ⟨List.nodup_nil, List.Perm.refl _⟩
  | some u =>
    have distinct' := distinct' u rfl
    constructor
    case source => rfl
    case target => rfl
    case paired =>
      intro p member
      obtain ⟨source, target, key⟩ := (mem_columns_compareTable distinct').mp member
      exact ⟨source, key, u, rfl, target⟩
    case sources =>
      have split := Splits.of_filter (nodup_names distinct)
        (List.Perm.of_eq (sources_compareTable t u)) rfl
      simpa [compareTable, Function.comp_def] using split
    case targets =>
      have split := Splits.of_filter (nodup_names distinct')
        (targets_compareTable distinct distinct') rfl
      simpa [compareTable, Function.comp_def] using split

/-- The pairs that do not fit are those that a validation finds for the two tables. -/
theorem unfit_compareTable (distinct : (t.columns.map Column.key).Nodup)
    (distinct' : (u.columns.map Column.key).Nodup) {pairs : List ColumnPair}
    (found : (incompatibleColumns t u).1 = .ok pairs) :
    (((compareTable t (some u)).columns.filter (!·.isCompatible)).map (·.pair)).Perm pairs := by
  rw [incompatibleAmong_ok found]
  have sources : ((compareTable t (some u)).columns.map (·.source)).Nodup := by
    rw [sources_compareTable]
    exact distinct.of_map.filter _
  have reported : (((compareTable t (some u)).columns.filter (!·.isCompatible)).map
      (·.pair)).Nodup := by
    refine List.Nodup.map (fun p q same => ?_) (sources.of_map.filter _)
    cases p
    cases q
    cases same
    rfl
  have validated : (u.columns.filterMap (clash? t)).Nodup := by
    refine distinct'.of_map.filterMap fun d d' p here here' => ?_
    rw [Option.mem_def, clash?_eq_some_iff distinct] at here here'
    exact here.2.2.2.symm.trans here'.2.2.2
  refine (List.perm_ext_iff_of_nodup reported validated).mpr fun p => ?_
  simp only [List.mem_map, List.mem_filter, List.mem_filterMap, Bool.not_eq_true',
    mem_columns_compareTable distinct', clash?_eq_some_iff distinct]
  constructor
  · rintro ⟨⟨c, d⟩, ⟨⟨member, member', key⟩, unfit⟩, rfl⟩
    exact ⟨d, member', member, key, unfit, rfl⟩
  · rintro ⟨d, member', member, key, unfit, rfl⟩
    exact ⟨⟨p.source, p.target⟩, ⟨⟨member, member', key⟩, unfit⟩, rfl⟩

theorem counterpart?_eq_some_iff (ordered : Schema.Ordered target.tables) :
    counterpart? target t = some u ↔ u ∈ target.tables ∧ u.key = t.key := by
  rw [counterpart?, Schema.find?_eq_some_iff ordered, Table.key, Table.key, Text.lower_lower]

theorem incompatibleCount_eq (report : SchemaComparison) : report.incompatibleCount =
    (report.tables.map fun entry =>
      (entry.columns.filter (!·.isCompatible)).length).sum := by
  rw [incompatibleCount, List.filter_flatMap, List.length_flatMap]

theorem matched_compare (ordered : Schema.Ordered source.tables)
    (ordered' : Schema.Ordered target.tables) :
    source.tables.filterMap (counterpart? target) =
      target.tables.filter fun u => (counterpart? source u).isSome := by
  have matched : Schema.Ordered (source.tables.filterMap (counterpart? target)) := by
    refine List.pairwise_filterMap.mpr (ordered.imp fun before u found u' found' => ?_)
    rw [((counterpart?_eq_some_iff ordered').mp found).2,
      ((counterpart?_eq_some_iff ordered').mp found').2]
    exact before
  refine Schema.eq_of_mem_iff matched (ordered'.filter _) fun u => ?_
  simp only [List.mem_filterMap, List.mem_filter, Option.isSome_iff_exists,
    counterpart?_eq_some_iff ordered, counterpart?_eq_some_iff ordered']
  constructor
  · rintro ⟨t, member, member', key⟩
    exact ⟨member', t, member, key.symm⟩
  · rintro ⟨member', t, member, key⟩
    exact ⟨t, member, member', key.symm⟩

theorem target?_compareTable (t : Table) (u? : Option Table) :
    (compareTable t u?).target? = u?.map (·.name) := by
  cases u? <;> rfl

section Read

variable {rows rows' : List SchemaRow} (read : Schema.ofRows rows = .ok source)
  (read' : Schema.ofRows rows' = .ok target)
include read read'

theorem partitions_compare :
    List.Forall₂ (fun t entry => ∃ u?, (∀ u, u? = some u ↔ u ∈ target.tables ∧ u.key = t.key) ∧
        TableComparison.Partitions t u? entry)
      source.tables (compare source target).tables := by
  have ordered' := Schema.ordered_of_ofRows read'
  refine List.forall₂_map_right_iff.mpr (List.forall₂_same.mpr fun t member => ?_)
  refine ⟨counterpart? target t, fun u => counterpart?_eq_some_iff ordered', ?_⟩
  apply partitions_compareTable
  · exact Schema.nodup_columns_of_ofRows read t member
  · intro u found
    have here := ((counterpart?_eq_some_iff ordered').mp found).1
    exact Schema.nodup_columns_of_ofRows read' u here

theorem splits_compare :
    Splits (target.tables.map (·.name)) ((compare source target).tables.filterMap (·.target?))
      (compare source target).extraTargetTables := by
  have ordered' := Schema.ordered_of_ofRows read'
  have names : (target.tables.map (·.name)).Nodup := by
    refine List.Nodup.of_map Text.lower ?_
    rw [List.map_map]
    exact Schema.nodup_keys ordered'
  have split := Splits.of_filter names
    (.of_eq (matched_compare (Schema.ordered_of_ofRows read) ordered')) rfl
  simpa [compare, List.filterMap_map, List.map_filterMap, Function.comp_def,
    target?_compareTable] using split

theorem exists_incompatibleColumns {t : Table} (member : t ∈ source.tables)
    (complete : ∃ u ∈ target.tables, u.key = t.key ∧
      ∀ d ∈ u.columns, ∃ c ∈ t.columns, c.key = d.key) :
    ∃ found, (∃ u ∈ target.tables, u.key = t.key ∧ (incompatibleColumns t u).1 = .ok found) ∧
      (((compareTable t (counterpart? target t)).columns.filter (!·.isCompatible)).map
        (·.pair)).Perm found := by
  obtain ⟨u, member', key, covered⟩ := complete
  obtain ⟨found, judged⟩ : ∃ found, (incompatibleColumns t u).1 = .ok found :=
    exists_incompatibleAmong covered
  refine ⟨found, ⟨u, member', key, judged⟩, ?_⟩
  rw [(counterpart?_eq_some_iff (Schema.ordered_of_ofRows read')).mpr ⟨member', key⟩]
  apply unfit_compareTable _ _ judged
  · exact Schema.nodup_columns_of_ofRows read t member
  · exact Schema.nodup_columns_of_ofRows read' u member'

end Read

/-- Every source table has one entry, in their order, and the columns of the two tables that it is
about are shared out in it; the destination tables are shared out between the entries and the rest.
If nothing of the destination lacks a counterpart on the source, the pairs that do not fit are,
entry by entry and in number, those that a validation finds. -/
theorem compare_partitions (rows rows' : List SchemaRow) (read : Schema.ofRows rows = .ok source)
    (read' : Schema.ofRows rows' = .ok target) :
    List.Forall₂ (fun t entry => ∃ u?, (∀ u, u? = some u ↔ u ∈ target.tables ∧ u.key = t.key) ∧
        TableComparison.Partitions t u? entry)
      source.tables (compare source target).tables ∧
    Splits (target.tables.map (·.name)) ((compare source target).tables.filterMap (·.target?))
      (compare source target).extraTargetTables ∧
    ((∀ t ∈ source.tables, ∃ u ∈ target.tables, u.key = t.key ∧
        ∀ d ∈ u.columns, ∃ c ∈ t.columns, c.key = d.key) →
      ∃ pairs, List.Forall₂ (fun t found => ∃ u ∈ target.tables, u.key = t.key ∧
          (incompatibleColumns t u).1 = .ok found) source.tables pairs ∧
        (compare source target).incompatibleCount = (pairs.map List.length).sum ∧
        List.Forall₂ (fun (entry : TableComparison) found =>
          ((entry.columns.filter (!·.isCompatible)).map (·.pair)).Perm found)
          (compare source target).tables pairs) := by
  refine ⟨partitions_compare read read', splits_compare read read', fun complete => ?_⟩
  obtain ⟨pairs, all⟩ := exists_forall₂_iff.mpr fun t member =>
    exists_incompatibleColumns read read' member (complete t member)
  have unfit : List.Forall₂ (fun (entry : TableComparison) found =>
      ((entry.columns.filter (!·.isCompatible)).map (·.pair)).Perm found)
      (compare source target).tables pairs :=
    List.forall₂_map_left_iff.mpr (all.imp fun t found => And.right)
  refine ⟨pairs, all.imp fun t found => And.left, ?_, unfit⟩
  have lengths : (compare source target).tables.map (fun entry =>
      (entry.columns.filter (!·.isCompatible)).length) = pairs.map List.length := by
    rw [← List.forall₂_eq_eq_eq, List.forall₂_map_left_iff, List.forall₂_map_right_iff]
    refine unfit.imp fun entry found same => ?_
    rw [← same.length_eq, List.length_map]
  rw [incompatibleCount_eq, lengths]

private def peopleRows : List SchemaRow :=
  [⟨"people", "id", "int8", none⟩, ⟨"people", "name", "varchar", some 20⟩,
    ⟨"people", "age", "int4", none⟩]

private def storedRows : List SchemaRow :=
  [⟨"People", "NAME", "varchar", some 10⟩, ⟨"tags", "line", "text", none⟩,
    ⟨"People", "ID", "bigint", none⟩]

/-- The bound of the name shrinks, the age is missing, and nobody reads the tags. -/
theorem compare_partitions_of_people :
    ∃ source target, Schema.ofRows peopleRows = .ok source ∧
      Schema.ofRows storedRows = .ok target ∧
      Splits (target.tables.map (·.name)) ((compare source target).tables.filterMap (·.target?))
        ["tags"] ∧
      ∃ pairs : List (List ColumnPair), (pairs.map List.length).sum = 1 ∧
        List.Forall₂ (fun (entry : TableComparison) found =>
          ((entry.columns.filter (!·.isCompatible)).map (·.pair)).Perm found)
          (compare source target).tables pairs := by
  let people : Table := ⟨"people", [⟨"id", "int8", 0⟩, ⟨"name", "varchar", 20⟩, ⟨"age", "int4", 0⟩]⟩
  let stored : Table := ⟨"People", [⟨"NAME", "varchar", 10⟩, ⟨"ID", "bigint", 0⟩]⟩
  let tags : Table := ⟨"tags", [⟨"line", "text", 0⟩]⟩
  have read : Schema.ofRows peopleRows = .ok ⟨[people]⟩ := by decide +kernel
  have read' : Schema.ofRows storedRows = .ok ⟨[stored, tags]⟩ := by decide +kernel
  have extra : (compare ⟨[people]⟩ ⟨[stored, tags]⟩).extraTargetTables = ["tags"] := by
    decide +kernel
  have number : (compare ⟨[people]⟩ ⟨[stored, tags]⟩).incompatibleCount = 1 := by decide +kernel
  have complete : ∀ t ∈ [people], ∃ u ∈ [stored, tags], u.key = t.key ∧
      ∀ d ∈ u.columns, ∃ c ∈ t.columns, c.key = d.key := by decide +kernel
  obtain ⟨-, tables, validated⟩ := compare_partitions peopleRows storedRows read read'
  obtain ⟨pairs, -, count, same⟩ := validated complete
  exact ⟨_, _, read, read', extra ▸ tables, pairs, count ▸ number, same⟩

end SchemaComparison

end RowSync
