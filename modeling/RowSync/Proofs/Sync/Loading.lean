import RowSync.Proofs.Memory.Frames
import RowSync.Proofs.Schema.Description
import RowSync.Proofs.Sync.Yields
import RowSync.Sync.SchemaPair

/-!
The schemas that runs on two stores in memory begin with, as functions of the tables: which source
tables a run goes through, and which destination table each of them is paired with.
-/

set_option autoImplicit false

namespace RowSync

namespace SchemaPair

def rowsOf (settings : MemorySettings) (tables : List MemoryTable) : Outcome (List SchemaRow) :=
  if settings.failSchema then .error (.schemaExtraction "simulated introspection failure")
  else .ok (tables.flatMap MemoryTable.schemaRows)

def schemaOf (settings : MemorySettings) (tables : List MemoryTable) : Outcome Schema :=
  rowsOf settings tables >>= Schema.ofRows

/-- Whether a run goes on once it has the schemas. -/
def stopCheck (options : DiagnosticOptions) : Outcome Unit :=
  if options.dumpSchemaDiff && options.stopAfterSchemaDump then .error .stopRequested else .ok ()

/-- The schemas with which a run goes on, or why it stops. -/
def loaded (sourceSettings targetSettings : MemorySettings) (options : DiagnosticOptions)
    (source target : List MemoryTable) : Outcome SchemaPair := do
  let source ← Outcome.within (schemaOf sourceSettings source) "failed to build source schema"
  let target ← Outcome.within (schemaOf targetSettings target)
    "failed to build destination schema"
  stopCheck options
  .ok ⟨source, target⟩

section Loading

variable {sourceSettings targetSettings : MemorySettings} {options : DiagnosticOptions}
  {source target : List MemoryTable}

private theorem build_yields {rows : Run MemoryStore MemoryStore (List SchemaRow)}
    {settings : MemorySettings} {tables : List MemoryTable}
    (given : rows.Yields source target (rowsOf settings tables) target) (flavor : Flavor) :
    (build rows flavor).Yields source target (schemaOf settings tables) target := by
  refine given.andThen fun rows => ?_
  cases read : Schema.ofRows rows with
  | error failure => exact .bind_error (.ofOutcome (.error failure))
  | ok schema => exact .bind_ok (.ofOutcome (.ok schema)) (.bind_ok (.log _ _) (.pure schema))

private theorem dump_yields (pair : SchemaPair) :
    (dump options pair : Run MemoryStore MemoryStore Unit).Yields source target
      (stopCheck options) target := by
  unfold dump stopCheck
  cases options.dumpSchemaDiff with
  | false => exact .pure ()
  | true =>
    refine .bind_ok (.logAll _) ?_
    cases options.stopAfterSchemaDump with
    | false => exact .pure ()
    | true => exact .throw _

theorem load_yields : (load (.inMemory sourceSettings targetSettings) options).Yields source target
    (loaded sourceSettings targetSettings options source target) target := by
  have sourceRows : (Run.onSource (MemoryStore.database sourceSettings).schemaRows :
      Run MemoryStore MemoryStore (List SchemaRow)).Yields source target
      (rowsOf sourceSettings source) target :=
    .onSource fun s tables => ⟨by rw [← tables]; rfl, tables⟩
  have targetRows : (Run.onTarget (MemoryStore.database targetSettings).schemaRows :
      Run MemoryStore MemoryStore (List SchemaRow)).Yields source target
      (rowsOf targetSettings target) target :=
    .onTarget fun s tables => ⟨by rw [← tables]; rfl, tables⟩
  refine ((build_yields sourceRows _).within _).andThen fun sourceSchema =>
    ((build_yields targetRows _).within _).andThen fun targetSchema => ?_
  exact (dump_yields ⟨sourceSchema, targetSchema⟩).andThen fun _ => .pure _

theorem ofRows_of_loaded {pair : SchemaPair}
    (success : loaded sourceSettings targetSettings options source target = .ok pair) :
    Schema.ofRows (source.flatMap MemoryTable.schemaRows) = .ok pair.source ∧
      Schema.ofRows (target.flatMap MemoryTable.schemaRows) = .ok pair.target := by
  have built {settings : MemorySettings} {tables : List MemoryTable} {label : String}
      {schema : Schema} (read : Outcome.within (schemaOf settings tables) label = .ok schema) :
      Schema.ofRows (tables.flatMap MemoryTable.schemaRows) = .ok schema := by
    unfold schemaOf rowsOf at read
    split at read
    · cases read
    · change Outcome.within (Schema.ofRows _) label = _ at read
      cases built : Schema.ofRows (tables.flatMap MemoryTable.schemaRows) with
      | error failure =>
        rw [built] at read
        cases read
      | ok schema' =>
        rw [built] at read
        cases read
        rfl
  unfold loaded at success
  cases one : Outcome.within (schemaOf sourceSettings source) "failed to build source schema" with
  | error failure =>
    rw [one] at success
    cases success
  | ok sourceSchema =>
    cases other : Outcome.within (schemaOf targetSettings target)
        "failed to build destination schema" with
    | error failure =>
      rw [one, other] at success
      cases success
    | ok targetSchema =>
      rw [one, other] at success
      cases goes : stopCheck options with
      | error failure =>
        rw [goes] at success
        cases success
      | ok _ =>
        rw [goes] at success
        cases success
        exact ⟨built one, built other⟩

theorem describes_of_loaded (source_named : MemoryStore.Named source)
    (target_named : MemoryStore.Named target) {pair : SchemaPair}
    (success : loaded sourceSettings targetSettings options source target = .ok pair) :
    pair.source.Describes source ∧ pair.target.Describes target :=
  ⟨Schema.describes_of_ofRows source_named (ofRows_of_loaded success).1,
    Schema.describes_of_ofRows target_named (ofRows_of_loaded success).2⟩

/-- What a schema says does not depend on the rows of the tables. -/
theorem loaded_putRows (name : String) (rows : List Row) :
    loaded sourceSettings targetSettings options source (MemoryStore.putRows name rows target) =
      loaded sourceSettings targetSettings options source target := by
  have same : (MemoryStore.putRows name rows target).flatMap MemoryTable.schemaRows =
      target.flatMap MemoryTable.schemaRows := by
    rw [MemoryStore.putRows, List.flatMap_map]
    congr 1
    funext t
    split <;> rfl
  rw [loaded, loaded, schemaOf, schemaOf, schemaOf, rowsOf, rowsOf, rowsOf, same]

end Loading

end SchemaPair

namespace MemoryTable

/-- The destination table that a source table is paired with. -/
def partner? (target : List MemoryTable) (m : MemoryTable) : Option MemoryTable :=
  target.find? fun t => Text.sameAscii t.name m.name && !t.columns.isEmpty

theorem partner?_eq_some {target : List MemoryTable} {m t : MemoryTable}
    (found : m.partner? target = some t) :
    t ∈ target ∧ Text.sameAscii t.name m.name = true ∧ t.columns ≠ [] := by
  have holds := List.find?_some found
  rw [Bool.and_eq_true, Bool.not_eq_true', List.isEmpty_eq_false_iff] at holds
  exact ⟨List.mem_of_find?_eq_some found, holds.1, holds.2⟩

theorem partner?_of_stored {target : List MemoryTable} {m t : MemoryTable}
    (stored : t.StoredIn target) (same : Text.sameAscii t.name m.name = true)
    (some : t.columns ≠ []) : m.partner? target = Option.some t := by
  refine find?_of_nodup stored.distinct stored.member fun u member => ?_
  rw [Bool.and_eq_true, MemoryStore.sameAscii_name_iff same u, Bool.not_eq_true',
    List.isEmpty_eq_false_iff]
  constructor
  · exact fun both => both.1
  · intro shared
    obtain rfl := List.inj_on_of_nodup_map stored.distinct member stored.member shared
    exact ⟨shared, some⟩

theorem partner?_putRows {target : List MemoryTable} (m : MemoryTable) (name : String)
    (rows : List Row) :
    m.partner? (MemoryStore.putRows name rows target) = (m.partner? target).map fun t =>
      if Text.sameAscii t.name name then { t with rows } else t := by
  have asked : (fun t : MemoryTable => Text.sameAscii t.name m.name && !t.columns.isEmpty) ∘
      (fun t => if Text.sameAscii t.name name then { t with rows } else t) =
      fun t => Text.sameAscii t.name m.name && !t.columns.isEmpty := by
    funext t
    rw [Function.comp_apply]
    split
    · rfl
    · rfl
  rw [partner?, MemoryStore.putRows, List.find?_map, asked, partner?]

end MemoryTable

namespace Schema

variable {s : Schema} {tables : List MemoryTable}

theorem Describes.table_eq (describes : s.Describes tables)
    (named : MemoryStore.Named tables) {m : MemoryTable} (plain : Text.IsPlain m.name) :
    s.table m.described.key =
      match m.partner? tables with
      | some t => .ok t.described
      | none => .error (.tableNotFound m.described.key) := by
  have key : m.described.key = Text.asciiLower m.name := MemoryTable.key_described plain
  have plain_key : Text.IsPlain m.described.key := key ▸ plain.asciiLower
  have respell (t : MemoryTable) :
      Text.sameAscii t.name m.described.key = Text.sameAscii t.name m.name := by
    rw [key, Bool.eq_iff_iff, Text.sameAscii_iff, Text.sameAscii_iff,
      Text.asciiLower_asciiLower plain]
  cases found : m.partner? tables with
  | some t =>
    obtain ⟨member, same, some⟩ := MemoryTable.partner?_eq_some found
    exact describes.table_ok named.names_plain plain_key member some ((respell t).trans same)
  | none =>
    cases search : s.table m.described.key with
    | ok u =>
      obtain ⟨t, member, some, same, -⟩ := describes.of_table_ok named.names_plain plain_key search
      have absent := List.find?_eq_none.mp found t member
      rw [respell] at same
      exact absurd (by simp [same, some]) absent
    | error failure =>
      unfold table at search
      split at search
      · cases search
      · cases search
        rfl

theorem Describes.exists_tables (describes : s.Describes tables)
    (named : MemoryStore.Named tables) :
    ∃ l : List MemoryTable, s.tables = l.map MemoryTable.described ∧
      (∀ m, m ∈ l ↔ m ∈ tables ∧ m.columns ≠ []) ∧ (l.map MemoryTable.key).Nodup := by
  have keys (l : List MemoryTable) (within : ∀ m ∈ l, m ∈ tables) :
      (l.map MemoryTable.described).map Table.key = l.map MemoryTable.key := by
    rw [List.map_map]
    exact List.map_congr_left fun m member =>
      MemoryTable.key_described (named.names_plain m (within m member))
  have originals : ∀ ts : List Table, (∀ t ∈ ts, t ∈ s.tables) →
      ∃ l : List MemoryTable, ts = l.map MemoryTable.described ∧
        ∀ m ∈ l, m ∈ tables ∧ m.columns ≠ [] := by
    intro ts
    induction ts with
    | nil => exact fun _ => ⟨[], rfl, by simp⟩
    | cons t ts ih =>
      intro within
      obtain ⟨l, rfl, members⟩ := ih fun u member => within u (List.mem_cons_of_mem t member)
      obtain ⟨m, member, some, rfl⟩ := (describes.mem_iff t).mp (within t List.mem_cons_self)
      exact ⟨m :: l, rfl, List.forall_mem_cons.mpr ⟨⟨member, some⟩, members⟩⟩
  obtain ⟨l, whole, members⟩ := originals s.tables fun t member => member
  have nodup : (l.map MemoryTable.key).Nodup := by
    rw [← keys l fun m member => (members m member).1, ← whole]
    exact nodup_keys describes.ordered
  refine ⟨l, whole, fun m => ⟨members m, fun here => ?_⟩, nodup⟩
  have described : m.described ∈ l.map MemoryTable.described := by
    rw [← whole]
    exact (describes.mem_iff _).mpr ⟨m, here.1, here.2, rfl⟩
  obtain ⟨m', member, equal⟩ := List.mem_map.mp described
  have shared : m'.key = m.key := congrArg (fun t : Table => Text.asciiLower t.name) equal
  rwa [← List.inj_on_of_nodup_map named.names_distinct (members m' member).1 here.1 shared]

theorem Describes.of_map_emptied {tables' : List MemoryTable} (describes : s.Describes tables)
    (same : tables'.map MemoryStore.emptied = tables.map MemoryStore.emptied) :
    s.Describes tables' := by
  have carry {l l' : List MemoryTable}
      (same : l'.map MemoryStore.emptied = l.map MemoryStore.emptied) {t : Table}
      (here : ∃ m ∈ l', m.columns ≠ [] ∧ t = m.described) :
      ∃ m ∈ l, m.columns ≠ [] ∧ t = m.described := by
    obtain ⟨m, member, some, rfl⟩ := here
    obtain ⟨u, here, name, columns⟩ := MemoryStore.exists_of_map_emptied same member
    refine ⟨u, here, columns ▸ some, ?_⟩
    rw [MemoryTable.described, MemoryTable.described, name, columns]
  refine ⟨describes.ordered, fun t => (describes.mem_iff t).trans ?_⟩
  exact ⟨carry same.symm, carry same⟩

theorem Describes.putRows (describes : s.Describes tables) (name : String) (rows : List Row) :
    s.Describes (MemoryStore.putRows name rows tables) :=
  describes.of_map_emptied (MemoryStore.map_emptied_putRows name rows tables)

end Schema

/-- The source tables that a run goes through, in its order. -/
structure Route (sourceSettings targetSettings : MemorySettings) (options : DiagnosticOptions)
    (source target tables : List MemoryTable) : Prop where
  loaded : ∃ pair, SchemaPair.loaded sourceSettings targetSettings options source target =
    .ok pair ∧ pair.source.tables = tables.map MemoryTable.described
  mem_iff : ∀ m, m ∈ tables ↔ m ∈ source ∧ m.columns ≠ []
  distinct : (tables.map MemoryTable.key).Nodup

/-- A run whose schemas are read has a route. -/
theorem exists_route {sourceSettings targetSettings : MemorySettings} {options : DiagnosticOptions}
    {source target : List MemoryTable} {pair : SchemaPair}
    (source_named : MemoryStore.Named source) (target_named : MemoryStore.Named target)
    (loaded : SchemaPair.loaded sourceSettings targetSettings options source target = .ok pair) :
    ∃ tables, Route sourceSettings targetSettings options source target tables := by
  have describes := (SchemaPair.describes_of_loaded source_named target_named loaded).1
  obtain ⟨tables, ordered, mem_iff, distinct⟩ := describes.exists_tables source_named
  exact ⟨tables, ⟨pair, loaded, ordered⟩, mem_iff, distinct⟩

end RowSync
