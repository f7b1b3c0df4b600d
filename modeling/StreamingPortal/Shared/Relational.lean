import Mathlib.Data.List.Dedup
import Mathlib.Logic.Function.Basic

set_option autoImplicit false

/-!
# Statements that change the tables of a database

Values are left open; `none` is NULL. Foreign keys and indexes are not in here.
-/

namespace StreamingPortal.Relational

variable {V : Type}

structure Column where
  name : String
  notNull : Bool
deriving DecidableEq

structure Schema where
  columns : List Column
  -- The primary key is one of them.
  unique : List (List String)
  names_nodup : (columns.map Column.name).Nodup
  unique_known : ∀ names ∈ unique, ∀ name ∈ names, name ∈ columns.map Column.name
deriving DecidableEq

def Schema.names (schema : Schema) : List String := schema.columns.map Column.name

abbrev Row (V : Type) := String → Option V

structure Relation (V : Type) where
  schema : Schema
  rows : List (Row V)
  absent : ∀ row ∈ rows, ∀ name, name ∉ schema.names → row name = none

abbrev Db (V : Type) := String → Option (Relation V)

def Relation.select (r : Relation V) (names : List String) : List (List (Option V)) :=
  r.rows.map fun row => names.map row

/-- What a table must keep; rows with a NULL in them are never the same to `UNIQUE`. -/
structure Relation.Sound (r : Relation V) : Prop where
  notNull : ∀ column ∈ r.schema.columns, column.notNull = true →
    ∀ row ∈ r.rows, row column.name ≠ none
  unique : ∀ names ∈ r.schema.unique,
    ((r.select names).filter fun values => values.all Option.isSome).Nodup

instance [DecidableEq V] (r : Relation V) : Decidable r.Sound :=
  decidable_of_iff
    ((∀ column ∈ r.schema.columns, column.notNull = true →
        ∀ row ∈ r.rows, row column.name ≠ none) ∧
      ∀ names ∈ r.schema.unique,
        ((r.select names).filter fun values => values.all Option.isSome).Nodup)
    ⟨fun h => ⟨h.1, h.2⟩, fun h => ⟨h.notNull, h.unique⟩⟩

/-! ## One table -/

def Schema.add (schema : Schema) (column : Column) (fresh : column.name ∉ schema.names) :
    Schema where
  columns := schema.columns ++ [column]
  unique := schema.unique
  names_nodup := by
    rw [List.map_append, List.map_singleton, ← List.concat_eq_append]
    exact schema.names_nodup.concat fresh
  unique_known names listed name member := by
    rw [List.map_append]
    exact List.mem_append_left _ (schema.unique_known names listed name member)

def Schema.drop (schema : Schema) (name : String)
    (free : ∀ names ∈ schema.unique, name ∉ names) : Schema where
  columns := schema.columns.filter fun column => !decide (column.name = name)
  unique := schema.unique
  names_nodup := schema.names_nodup.sublist (List.filter_sublist.map Column.name)
  unique_known names listed other member := by
    obtain ⟨column, known, rfl⟩ := List.mem_map.mp (schema.unique_known names listed other member)
    refine List.mem_map_of_mem (List.mem_filter.mpr ⟨known, ?_⟩)
    have apart : column.name ≠ name := by
      rintro rfl
      exact free names listed member
    simp [apart]

def Relation.empty (schema : Schema) : Relation V := ⟨schema, [], by simp⟩

-- The rows with another value in one column.
def Relation.rowsWith (r : Relation V) (name : String) (value : Row V → Option V) : List (Row V) :=
  r.rows.map fun row => Function.update row name (value row)

theorem Relation.absent_rowsWith (r : Relation V) {name other : String} {value : Row V → Option V}
    (unknown : other ∉ r.schema.names) (apart : other ≠ name) {row : Row V}
    (stored : row ∈ r.rowsWith name value) : row other = none := by
  obtain ⟨old, before, rfl⟩ := List.mem_map.mp stored
  rw [Function.update_of_ne apart]
  exact r.absent old before other unknown

/-- `ALTER TABLE .. ADD`: a column without a default may be `NOT NULL` in an empty table only. -/
def Relation.add (r : Relation V) (column : Column) (default : Option V) : Option (Relation V) :=
  if fresh : column.name ∉ r.schema.names then
    if column.notNull && default.isNone && !r.rows.isEmpty then none
    else some
      { schema := r.schema.add column fresh
        rows := r.rowsWith column.name fun _ => default
        absent := by
          intro row stored name unknown
          rw [Schema.names, Schema.add, List.map_append, List.mem_append, not_or] at unknown
          exact r.absent_rowsWith unknown.1 (fun same => unknown.2 (by simp [same])) stored }
  else none

/-- `ALTER TABLE .. DROP COLUMN`. -/
def Relation.drop (r : Relation V) (name : String) : Option (Relation V) :=
  if free : ∀ names ∈ r.schema.unique, name ∉ names then
    if name ∈ r.schema.names then some
      { schema := r.schema.drop name free
        rows := r.rowsWith name fun _ => none
        absent := by
          intro row stored other unknown
          by_cases same : other = name
          · obtain ⟨old, -, rfl⟩ := List.mem_map.mp stored
            rw [same, Function.update_self]
          · refine r.absent_rowsWith (fun known => unknown ?_) same stored
            obtain ⟨column, listed, rfl⟩ := List.mem_map.mp known
            exact List.mem_map_of_mem (List.mem_filter.mpr ⟨listed, by simp [same]⟩) }
    else none
  else none

section

variable [DecidableEq V]

def Relation.checked (r : Relation V) : Option (Relation V) := if r.Sound then some r else none

/-- `UPDATE .. SET target = source`. -/
def Relation.copy (r : Relation V) (target source : String) : Option (Relation V) :=
  if known : target ∈ r.schema.names ∧ source ∈ r.schema.names then
    Relation.checked
      { r with
        rows := r.rowsWith target fun row => row source
        absent := fun _ stored name unknown =>
          r.absent_rowsWith unknown (fun same : name = target => unknown (same ▸ known.1)) stored }
  else none

/-- `INSERT INTO`, with NULL for every other column. -/
def Relation.insertAll (r : Relation V) (target : String) (values : List (Option V)) :
    Option (Relation V) :=
  if known : target ∈ r.schema.names then
    Relation.checked
      { r with
        rows := r.rows ++ values.map fun value => Function.update (fun _ => none) target value
        absent := by
          intro row stored name unknown
          rcases List.mem_append.mp stored with before | new
          · exact r.absent row before name unknown
          · obtain ⟨value, -, rfl⟩ := List.mem_map.mp new
            have apart : name ≠ target := fun same => unknown (same ▸ known)
            rw [Function.update_of_ne apart] }
  else none

/-! ## The whole database -/

inductive Statement (V : Type)
  -- `CREATE TABLE IF NOT EXISTS`
  | createTable (table : String) (schema : Schema)
  | addColumn (table : String) (column : Column) (default : Option V)
  | dropColumn (table name : String)
  | copyColumn (table target source : String)
  -- `INSERT INTO table (target) SELECT DISTINCT column FROM source`
  | insertDistinct (table target source column : String)
  -- `DROP TABLE IF EXISTS`
  | dropTable (table : String)

def alter (db : Db V) (table : String) (change : Relation V → Option (Relation V)) :
    Option (Db V) :=
  match db table with
  | some r => (change r).map fun r => Function.update db table (some r)
  | none => none

def exec (db : Db V) : Statement V → Option (Db V)
  | .createTable table schema =>
      match db table with
      | some _ => some db
      | none => some (Function.update db table (some (.empty schema)))
  | .addColumn table column default => alter db table fun r => r.add column default
  | .dropColumn table name => alter db table fun r => r.drop name
  | .copyColumn table target source => alter db table fun r => r.copy target source
  | .insertDistinct table target source column =>
      match db source with
      | some s =>
          if column ∈ s.schema.names then
            alter db table fun r => r.insertAll target ((s.rows.map fun row => row column).dedup)
          else none
      | none => none
  | .dropTable table => some (Function.update db table none)

/-- A script stops where a statement fails. -/
def run (db : Db V) : List (Statement V) → Option (Db V)
  | [] => some db
  | statement :: statements => (exec db statement).bind fun db => run db statements

end

/-! ## What a change of a table does -/

theorem Relation.map_rowsWith (r : Relation V) {name : String} {value : Row V → Option V}
    {names : List String} (other : name ∉ names) :
    (r.rowsWith name value).map (fun row => names.map row) = r.select names := by
  rw [rowsWith, select, List.map_map]
  refine List.map_congr_left fun row _ => List.map_congr_left fun n listed => ?_
  have apart : n ≠ name := fun same => other (same ▸ listed)
  exact Function.update_of_ne apart _ _

theorem Relation.add_eq_some {r r' : Relation V} {column : Column} {default : Option V}
    (h : r.add column default = some r') :
    ∃ fresh, r'.schema = r.schema.add column fresh ∧
      r'.rows = r.rowsWith column.name (fun _ => default) ∧
        (column.notNull = true → default = none → r.rows = []) := by
  unfold add at h
  split at h
  next fresh =>
    split at h
    next => contradiction
    next filled =>
      obtain rfl := Option.some.inj h
      refine ⟨fresh, rfl, rfl, fun notNull missing => ?_⟩
      simpa [notNull, missing] using filled
  next => contradiction

theorem Relation.add_succeeds {r : Relation V} {column : Column} {default : Option V}
    (fresh : column.name ∉ r.schema.names)
    (filled : column.notNull = true → default = none → r.rows = []) :
    ∃ r', r.add column default = some r' := by
  unfold add
  rw [dif_pos fresh, if_neg]
  · exact ⟨_, rfl⟩
  · intro refused
    simp only [Bool.and_eq_true, Option.isNone_iff_eq_none] at refused
    simp [filled refused.1.1 refused.1.2] at refused

theorem Relation.drop_eq_some {r r' : Relation V} {name : String} (h : r.drop name = some r') :
    ∃ free, r'.schema = r.schema.drop name free ∧ r'.rows = r.rowsWith name (fun _ => none) ∧
      name ∈ r.schema.names := by
  unfold drop at h
  split at h
  next free =>
    split at h
    next known =>
      obtain rfl := Option.some.inj h
      exact ⟨free, rfl, rfl, known⟩
    next => contradiction
  next => contradiction

theorem Relation.drop_succeeds {r : Relation V} {name : String}
    (free : ∀ names ∈ r.schema.unique, name ∉ names) (known : name ∈ r.schema.names) :
    ∃ r', r.drop name = some r' := by
  unfold drop
  rw [dif_pos free, if_pos known]
  exact ⟨_, rfl⟩

theorem Relation.ext {r r' : Relation V} (schema : r.schema = r'.schema) (rows : r.rows = r'.rows) :
    r = r' := by
  cases r
  cases r'
  cases schema
  cases rows
  rfl

theorem Relation.sound_empty (schema : Schema) : (empty schema : Relation V).Sound where
  notNull := by simp [empty]
  unique := by simp [empty, select]

/-- Another column than those of the constraints may be given any value that it allows. -/
theorem Relation.Sound.rowsWith {r r' : Relation V} (sound : r.Sound) {name : String}
    {value : Row V → Option V} (rows : r'.rows = r.rowsWith name value)
    (columns : ∀ column ∈ r'.schema.columns, column.name ≠ name → column ∈ r.schema.columns)
    (allowed : ∀ column ∈ r'.schema.columns, column.notNull = true → column.name = name →
      ∀ row ∈ r.rows, value row ≠ none)
    (unique : r'.schema.unique = r.schema.unique)
    (free : ∀ names ∈ r.schema.unique, name ∉ names) : r'.Sound where
  notNull column listed notNull row stored := by
    rw [rows] at stored
    obtain ⟨old, before, rfl⟩ := List.mem_map.mp stored
    by_cases same : column.name = name
    · rw [same, Function.update_self]
      exact allowed column listed notNull same old before
    · rw [Function.update_of_ne same]
      exact sound.notNull column (columns column listed same) notNull old before
  unique names listed := by
    rw [unique] at listed
    rw [select, rows, r.map_rowsWith (free names listed)]
    exact sound.unique names listed

theorem Relation.add_sound {r r' : Relation V} {column : Column} {default : Option V}
    (sound : r.Sound) (h : r.add column default = some r') : r'.Sound := by
  obtain ⟨fresh, schema, rows, filled⟩ := add_eq_some h
  have free : ∀ names ∈ r.schema.unique, column.name ∉ names := fun names listed member =>
    fresh (r.schema.unique_known names listed _ member)
  refine sound.rowsWith rows ?_ ?_ (by rw [schema, Schema.add]) free
  · intro c listed apart
    rw [schema, Schema.add, List.mem_append, List.mem_singleton] at listed
    exact listed.resolve_right fun same => apart (congrArg Column.name same)
  · intro c listed notNull same row stored missing
    have here : c = column := by
      rw [schema, Schema.add, List.mem_append, List.mem_singleton] at listed
      refine listed.resolve_left fun known => fresh ?_
      exact same ▸ List.mem_map_of_mem known
    rw [filled (here ▸ notNull) missing] at stored
    contradiction

theorem Relation.drop_sound {r r' : Relation V} {name : String} (sound : r.Sound)
    (h : r.drop name = some r') : r'.Sound := by
  obtain ⟨free, schema, rows, -⟩ := drop_eq_some h
  refine sound.rowsWith rows ?_ ?_ (by rw [schema, Schema.drop]) free
  · intro c listed _
    rw [schema, Schema.drop] at listed
    exact (List.mem_filter.mp listed).1
  · intro c listed _ same
    rw [schema, Schema.drop] at listed
    have gone := (List.mem_filter.mp listed).2
    simp [same] at gone

section

variable [DecidableEq V]

theorem Relation.checked_eq_some {r r' : Relation V} (h : r.checked = some r') :
    r = r' ∧ r'.Sound := by
  unfold checked at h
  split at h
  next sound =>
    obtain rfl := Option.some.inj h
    exact ⟨rfl, sound⟩
  next => contradiction

theorem Relation.copy_eq_some {r r' : Relation V} {target source : String}
    (h : r.copy target source = some r') :
    r'.schema = r.schema ∧ r'.rows = r.rowsWith target (fun row => row source) ∧ r'.Sound := by
  unfold copy at h
  split at h
  next =>
    obtain ⟨rfl, sound⟩ := checked_eq_some h
    exact ⟨rfl, rfl, sound⟩
  next => contradiction

theorem Relation.Sound.copy_succeeds {r : Relation V} (sound : r.Sound) {target source : String}
    (known : target ∈ r.schema.names) {column : Column} (from_ : column ∈ r.schema.columns)
    (name : column.name = source) (notNull : column.notNull = true)
    (free : ∀ names ∈ r.schema.unique, target ∉ names) : ∃ r', r.copy target source = some r' := by
  have both : target ∈ r.schema.names ∧ source ∈ r.schema.names :=
    ⟨known, name ▸ List.mem_map_of_mem from_⟩
  unfold copy checked
  rw [dif_pos both, if_pos]
  · exact ⟨_, rfl⟩
  · refine sound.rowsWith rfl (fun _ listed _ => listed) ?_ rfl free
    intro c _ _ _ row stored
    exact name ▸ sound.notNull column from_ notNull row stored

theorem Relation.insertAll_eq_some {r r' : Relation V} {target : String} {values : List (Option V)}
    (h : r.insertAll target values = some r') :
    r'.schema = r.schema ∧ r'.Sound ∧
      r'.rows = r.rows ++ values.map fun value => Function.update (fun _ => none) target value := by
  unfold insertAll at h
  split at h
  next =>
    obtain ⟨rfl, sound⟩ := checked_eq_some h
    exact ⟨rfl, sound, rfl⟩
  next => contradiction

theorem Relation.insertAll_succeeds {r : Relation V} (empty : r.rows = []) {target : String}
    {values : List (Option V)} (known : target ∈ r.schema.names)
    (nullable : ∀ column ∈ r.schema.columns, column.notNull = true → column.name = target)
    (unique : ∀ names ∈ r.schema.unique, names = [target]) (nodup : values.Nodup)
    (filled : none ∉ values) : ∃ r', r.insertAll target values = some r' := by
  unfold insertAll checked
  rw [dif_pos known, if_pos]
  · exact ⟨_, rfl⟩
  · constructor
    · intro column listed notNull row stored
      simp only [empty, List.nil_append] at stored
      obtain ⟨value, given, rfl⟩ := List.mem_map.mp stored
      rw [nullable column listed notNull, Function.update_self]
      exact fun missing => filled (missing ▸ given)
    · intro names listed
      obtain rfl := unique names listed
      simp only [select, empty, List.nil_append, List.map_map]
      refine List.Nodup.filter _ (nodup.map ?_)
      intro a b same
      simpa using same

end

/-! ## What a statement does -/

def Statement.table : Statement V → String
  | .createTable table _ | .addColumn table _ _ | .dropColumn table _ | .copyColumn table _ _
  | .insertDistinct table _ _ _ | .dropTable table => table

def Statement.leaves (table : String) (names : List String) : Statement V → Bool
  | .createTable _ _ => true
  | .addColumn t column _ => decide (t ≠ table ∨ column.name ∉ names)
  | .dropColumn t name => decide (t ≠ table ∨ name ∉ names)
  | .copyColumn t target _ => decide (t ≠ table ∨ target ∉ names)
  | .insertDistinct t _ _ _ => decide (t ≠ table)
  | .dropTable t => decide (t ≠ table)

/-- A statement is checked at its own table. -/
theorem Statement.leaves_of_own {statement : Statement V} {kept : String → Option (List String)}
    (own : (kept statement.table).all (fun names => statement.leaves statement.table names) = true)
    {table : String} {names all : List String} (known : kept table = some all)
    (within : ∀ name ∈ names, name ∈ all) : statement.leaves table names = true := by
  by_cases here : statement.table = table
  · rw [here, known, Option.all_some] at own
    cases statement with
    | createTable => rfl
    | addColumn t column default | dropColumn t name | copyColumn t target source =>
        refine decide_eq_true (Or.inr fun member => ?_)
        exact (of_decide_eq_true own).resolve_left (fun apart => apart here) (within _ member)
    | insertDistinct t target source column => exact own
    | dropTable t => exact own
  · cases statement with
    | createTable => rfl
    | addColumn | dropColumn | copyColumn => exact decide_eq_true (Or.inl here)
    | insertDistinct => exact decide_eq_true here
    | dropTable => exact decide_eq_true here

theorem alter_eq_some {db db' : Db V} {table : String}
    {change : Relation V → Option (Relation V)} (h : alter db table change = some db') :
    ∃ r r', db table = some r ∧ change r = some r' ∧ db' = Function.update db table (some r') := by
  unfold alter at h
  split at h
  next r found =>
    obtain ⟨r', changed, rfl⟩ := Option.map_eq_some_iff.mp h
    exact ⟨r, r', found, changed, rfl⟩
  next => contradiction

theorem alter_succeeds {db : Db V} {table : String} {change : Relation V → Option (Relation V)}
    {r : Relation V} (found : db table = some r) (changes : ∃ r', change r = some r') :
    ∃ r', change r = some r' ∧
      alter db table change = some (Function.update db table (some r')) := by
  obtain ⟨r', changed⟩ := changes
  exact ⟨r', changed, by simp [alter, found, changed]⟩

def Sound (db : Db V) : Prop := ∀ table r, db table = some r → r.Sound

theorem Sound.update {db : Db V} (sound : Sound db) {table : String} {r : Relation V}
    (new : r.Sound) : Sound (Function.update db table (some r)) := by
  intro t s found
  by_cases same : t = table
  · rw [same, Function.update_self] at found
    exact Option.some.inj found ▸ new
  · rw [Function.update_of_ne same] at found
    exact sound t s found

theorem alter_sound {db db' : Db V} {table : String} {change : Relation V → Option (Relation V)}
    (sound : Sound db) (keeps : ∀ r r', r.Sound → change r = some r' → r'.Sound)
    (h : alter db table change = some db') : Sound db' := by
  obtain ⟨r, r', found, changed, rfl⟩ := alter_eq_some h
  exact sound.update (keeps r r' (sound table r found) changed)

/-- A query of what a statement leaves has the same answer after it. -/
def Keeps (db db' : Db V) (table : String) (names : List String) : Prop :=
  ∀ r, db table = some r → ∃ r', db' table = some r' ∧ r'.select names = r.select names

theorem Keeps.refl (db : Db V) (table : String) (names : List String) : Keeps db db table names :=
  fun r found => ⟨r, found, rfl⟩

theorem Keeps.trans {db db' db'' : Db V} {table : String} {names : List String}
    (first : Keeps db db' table names) (second : Keeps db' db'' table names) :
    Keeps db db'' table names := by
  intro r found
  obtain ⟨r', found', same⟩ := first r found
  obtain ⟨r'', found'', same'⟩ := second r' found'
  exact ⟨r'', found'', same'.trans same⟩

theorem keeps_update {db : Db V} {table other : String} {names : List String}
    (new : Option (Relation V)) (apart : table ≠ other) :
    Keeps db (Function.update db table new) other names := by
  intro r found
  exact ⟨r, by rw [Function.update_of_ne apart.symm, found], rfl⟩

theorem alter_keeps {db db' : Db V} {table other : String} {names : List String}
    {change : Relation V → Option (Relation V)} (h : alter db table change = some db')
    (same : table = other → ∀ r r', change r = some r' → r'.select names = r.select names) :
    Keeps db db' other names := by
  obtain ⟨r, r', found, changed, rfl⟩ := alter_eq_some h
  by_cases here : table = other
  · subst here
    intro s found'
    obtain rfl := Option.some.inj (found.symm.trans found')
    exact ⟨r', Function.update_self _ _ _, same rfl r r' changed⟩
  · exact keeps_update _ here

/-- The columns and constraints of each table. -/
def schemas (db : Db V) : String → Option Schema := fun table => (db table).map Relation.schema

theorem schemas_update (db : Db V) (table : String) (r : Option (Relation V)) :
    schemas (Function.update db table r) =
      Function.update (schemas db) table (r.map Relation.schema) := by
  funext t
  by_cases same : t = table
  · rw [schemas, same, Function.update_self, Function.update_self]
  · rw [schemas, Function.update_of_ne same, Function.update_of_ne same, schemas]

theorem alter_schemas {db db' e e' : Db V} {table : String}
    {change : Relation V → Option (Relation V)} (same : schemas db = schemas e)
    (determined : ∀ r r' s s', r.schema = s.schema → change r = some r' → change s = some s' →
      r'.schema = s'.schema)
    (h : alter db table change = some db') (h' : alter e table change = some e') :
    schemas db' = schemas e' := by
  obtain ⟨r, r', found, changed, rfl⟩ := alter_eq_some h
  obtain ⟨s, s', found', changed', rfl⟩ := alter_eq_some h'
  have schema : r.schema = s.schema := by
    have here := congrFun same table
    rw [schemas, schemas, found, found'] at here
    exact Option.some.inj here
  rw [schemas_update, schemas_update, same, Option.map_some, Option.map_some,
    determined r r' s s' schema changed changed']

section

variable [DecidableEq V]

theorem insertDistinct_eq_some {db db' : Db V} {table target source column : String}
    (h : exec db (.insertDistinct table target source column) = some db') :
    ∃ s, db source = some s ∧
      alter db table (fun r => r.insertAll target ((s.rows.map fun row => row column).dedup)) =
        some db' := by
  simp only [exec] at h
  split at h
  next s found =>
    split at h
    next => exact ⟨s, found, h⟩
    next => contradiction
  next => contradiction

theorem exec_sound {db db' : Db V} {statement : Statement V} (sound : Sound db)
    (h : exec db statement = some db') : Sound db' := by
  cases statement with
  | createTable table schema =>
      simp only [exec] at h
      split at h
      next =>
        obtain rfl := Option.some.inj h
        exact sound
      next =>
        obtain rfl := Option.some.inj h
        exact sound.update (Relation.sound_empty schema)
  | addColumn table column default =>
      exact alter_sound sound (fun _ _ old added => Relation.add_sound old added) h
  | dropColumn table name =>
      exact alter_sound sound (fun _ _ old dropped => Relation.drop_sound old dropped) h
  | copyColumn table target source =>
      exact alter_sound sound (fun _ _ _ copied => (Relation.copy_eq_some copied).2.2) h
  | insertDistinct table target source column =>
      obtain ⟨_, -, put⟩ := insertDistinct_eq_some h
      exact alter_sound sound (fun _ _ _ new => (Relation.insertAll_eq_some new).2.1) put
  | dropTable table =>
      obtain rfl := Option.some.inj h
      intro t r found
      by_cases same : t = table
      · rw [same, Function.update_self] at found
        contradiction
      · rw [Function.update_of_ne same] at found
        exact sound t r found

theorem exec_keeps {db db' : Db V} {statement : Statement V} {table : String}
    {names : List String} (h : exec db statement = some db')
    (leaves : statement.leaves table names = true) : Keeps db db' table names := by
  cases statement with
  | createTable t schema =>
      simp only [exec] at h
      split at h
      next =>
        obtain rfl := Option.some.inj h
        exact .refl _ _ _
      next missing =>
        obtain rfl := Option.some.inj h
        intro r found
        have apart : table ≠ t := by
          rintro rfl
          rw [missing] at found
          contradiction
        exact ⟨r, by rw [Function.update_of_ne apart, found], rfl⟩
  | addColumn t column default =>
      refine alter_keeps h fun here r r' added => ?_
      obtain ⟨-, -, rows, -⟩ := Relation.add_eq_some added
      rw [Relation.select, rows]
      exact r.map_rowsWith ((of_decide_eq_true leaves).resolve_left fun apart => apart here)
  | dropColumn t name =>
      refine alter_keeps h fun here r r' dropped => ?_
      obtain ⟨-, -, rows, -⟩ := Relation.drop_eq_some dropped
      rw [Relation.select, rows]
      exact r.map_rowsWith ((of_decide_eq_true leaves).resolve_left fun apart => apart here)
  | copyColumn t target source =>
      refine alter_keeps h fun here r r' copied => ?_
      rw [Relation.select, (Relation.copy_eq_some copied).2.1]
      exact r.map_rowsWith ((of_decide_eq_true leaves).resolve_left fun apart => apart here)
  | insertDistinct t target source column =>
      obtain ⟨_, -, put⟩ := insertDistinct_eq_some h
      exact alter_keeps put fun here => absurd here (of_decide_eq_true leaves)
  | dropTable t =>
      obtain rfl := Option.some.inj h
      exact keeps_update none (of_decide_eq_true leaves)

/-- What becomes of the columns does not depend on the rows. -/
theorem exec_schemas {db db' e e' : Db V} {statement : Statement V} (same : schemas db = schemas e)
    (h : exec db statement = some db') (h' : exec e statement = some e') :
    schemas db' = schemas e' := by
  cases statement with
  | createTable table schema =>
      have here := congrFun same table
      simp only [schemas] at here
      simp only [exec] at h h'
      cases found : db table with
      | some r =>
          rw [found] at h here
          obtain ⟨s, found', -⟩ := Option.map_eq_some_iff.mp here.symm
          rw [found'] at h'
          obtain rfl := Option.some.inj h
          obtain rfl := Option.some.inj h'
          exact same
      | none =>
          rw [found] at h here
          rw [Option.map_eq_none_iff.mp here.symm] at h'
          obtain rfl := Option.some.inj h
          obtain rfl := Option.some.inj h'
          rw [schemas_update, schemas_update, same]
  | addColumn table column default =>
      refine alter_schemas same ?_ h h'
      intro r r' s s' schema added added'
      obtain ⟨fresh, left, -, -⟩ := Relation.add_eq_some added
      obtain ⟨fresh', right, -, -⟩ := Relation.add_eq_some added'
      simp only [left, right, schema]
  | dropColumn table name =>
      refine alter_schemas same ?_ h h'
      intro r r' s s' schema dropped dropped'
      obtain ⟨free, left, -, -⟩ := Relation.drop_eq_some dropped
      obtain ⟨free', right, -, -⟩ := Relation.drop_eq_some dropped'
      simp only [left, right, schema]
  | copyColumn table target source =>
      refine alter_schemas same ?_ h h'
      intro r r' s s' schema copied copied'
      rw [(Relation.copy_eq_some copied).1, (Relation.copy_eq_some copied').1, schema]
  | insertDistinct table target source column =>
      obtain ⟨_, -, put⟩ := insertDistinct_eq_some h
      obtain ⟨_, -, put'⟩ := insertDistinct_eq_some h'
      obtain ⟨r, r', found, added, rfl⟩ := alter_eq_some put
      obtain ⟨s, s', found', added', rfl⟩ := alter_eq_some put'
      have here := congrFun same table
      rw [schemas, schemas, found, found'] at here
      rw [schemas_update, schemas_update, same, Option.map_some, Option.map_some,
        (Relation.insertAll_eq_some added).1, (Relation.insertAll_eq_some added').1,
        Option.some.inj here]
  | dropTable table =>
      obtain rfl := Option.some.inj h
      obtain rfl := Option.some.inj h'
      rw [schemas_update, schemas_update, same]

/-- Whether a statement succeeds whatever rows there are in tables of these shapes. -/
def Statement.safe (shapes : String → Option Schema) : Statement V → Bool
  | .addColumn _ column default => !column.notNull || default.isSome
  | .copyColumn table target source => (shapes table).any fun schema =>
      decide (target ∈ schema.names) &&
        (schema.columns.any fun column => decide (column.name = source) && column.notNull) &&
        schema.unique.all fun names => decide (target ∉ names)
  | .insertDistinct _ _ _ _ => false
  | _ => true

omit [DecidableEq V] in
theorem found_as {db e : Db V} {table : String} {s : Relation V} (same : schemas db = schemas e)
    (found : e table = some s) : ∃ r, db table = some r ∧ r.schema = s.schema := by
  have here := congrFun same table
  rw [schemas, schemas, found] at here
  exact Option.map_eq_some_iff.mp here

omit [DecidableEq V] in
theorem alter_succeeds_as {db e e' : Db V} {table : String}
    {change : Relation V → Option (Relation V)} (same : schemas db = schemas e)
    (as : ∀ r s s', r.schema = s.schema → change s = some s' → ∃ r', change r = some r')
    (h : alter e table change = some e') : ∃ db', alter db table change = some db' := by
  obtain ⟨s, s', found, changed, -⟩ := alter_eq_some h
  obtain ⟨r, found', schema⟩ := found_as same found
  obtain ⟨_, -, altered⟩ := alter_succeeds found' (as r s s' schema changed)
  exact ⟨_, altered⟩

theorem exec_succeeds_as {db e e' : Db V} {statement : Statement V}
    (safe : statement.safe (schemas e) = true) (same : schemas db = schemas e) (sound : Sound db)
    (h : exec e statement = some e') : ∃ db', exec db statement = some db' := by
  cases statement with
  | createTable table schema =>
      simp only [exec]
      split
      next => exact ⟨_, rfl⟩
      next => exact ⟨_, rfl⟩
  | addColumn table column default =>
      refine alter_succeeds_as same (fun r s s' schema added => ?_) h
      obtain ⟨fresh, -⟩ := Relation.add_eq_some added
      refine Relation.add_succeeds (schema ▸ fresh) fun notNull missing => ?_
      simp [Statement.safe, notNull, missing] at safe
  | dropColumn table name =>
      refine alter_succeeds_as same (fun r s s' schema dropped => ?_) h
      obtain ⟨free, -, -, known⟩ := Relation.drop_eq_some dropped
      exact Relation.drop_succeeds (schema ▸ free) (schema ▸ known)
  | copyColumn table target source =>
      obtain ⟨s, s', found, -, -⟩ := alter_eq_some h
      obtain ⟨r, found', schema⟩ := found_as same found
      simp only [Statement.safe, schemas, found, Option.map_some, Option.any_some,
        Bool.and_eq_true, decide_eq_true_eq, List.any_eq_true, List.all_eq_true] at safe
      obtain ⟨⟨known, column, listed, name, notNull⟩, free⟩ := safe
      rw [← schema] at known listed free
      have copies := (sound table r found').copy_succeeds known listed name notNull free
      obtain ⟨r', copied⟩ := copies
      exact ⟨_, by simp only [exec, alter, found', copied, Option.map_some]; rfl⟩
  | insertDistinct => contradiction
  | dropTable table => exact ⟨_, rfl⟩

/-! ## What a script does -/

theorem run_cons_eq_some {db db' : Db V} {statement : Statement V} {statements : List (Statement V)}
    (h : run db (statement :: statements) = some db') :
    ∃ mid, exec db statement = some mid ∧ run mid statements = some db' :=
  Option.bind_eq_some_iff.mp h

theorem run_sound {db db' : Db V} {statements : List (Statement V)} (sound : Sound db)
    (h : run db statements = some db') : Sound db' := by
  induction statements generalizing db with
  | nil => exact Option.some.inj h ▸ sound
  | cons statement statements ih =>
      obtain ⟨mid, first, rest⟩ := run_cons_eq_some h
      exact ih (exec_sound sound first) rest

theorem run_keeps {db db' : Db V} {statements : List (Statement V)} {table : String}
    {names : List String} (h : run db statements = some db')
    (leave : ∀ statement ∈ statements, statement.leaves table names = true) :
    Keeps db db' table names := by
  induction statements generalizing db with
  | nil => exact Option.some.inj h ▸ .refl _ _ _
  | cons statement statements ih =>
      obtain ⟨mid, first, rest⟩ := run_cons_eq_some h
      have here := exec_keeps first (leave statement List.mem_cons_self)
      exact here.trans (ih rest fun s listed => leave s (List.mem_cons_of_mem _ listed))

theorem run_schemas {db db' e e' : Db V} {statements : List (Statement V)}
    (same : schemas db = schemas e) (h : run db statements = some db')
    (h' : run e statements = some e') : schemas db' = schemas e' := by
  induction statements generalizing db e with
  | nil =>
      obtain rfl := Option.some.inj h
      obtain rfl := Option.some.inj h'
      exact same
  | cons statement statements ih =>
      obtain ⟨mid, first, rest⟩ := run_cons_eq_some h
      obtain ⟨mid', first', rest'⟩ := run_cons_eq_some h'
      exact ih (exec_schemas same first first') rest rest'

def safeAlong (e : Db V) : List (Statement V) → Bool
  | [] => true
  | statement :: statements =>
      statement.safe (schemas e) && (exec e statement).any fun e => safeAlong e statements

/-- It is enough to try a script in a database of the same shape. -/
theorem run_succeeds_as {db e : Db V} {statements : List (Statement V)}
    (safe : safeAlong e statements = true) (same : schemas db = schemas e) (sound : Sound db) :
    ∃ db', run db statements = some db' := by
  induction statements generalizing db e with
  | nil => exact ⟨db, rfl⟩
  | cons statement statements ih =>
      rw [safeAlong, Bool.and_eq_true] at safe
      obtain ⟨here, later⟩ := safe
      obtain ⟨e', first', rest'⟩ := (Option.any_eq_true _ _).mp later
      obtain ⟨mid, first⟩ := exec_succeeds_as here same sound first'
      obtain ⟨db', rest⟩ := ih rest' (exec_schemas same first first') (exec_sound sound first)
      exact ⟨db', Option.bind_eq_some_iff.mpr ⟨mid, first, rest⟩⟩

theorem run_append (db : Db V) (first later : List (Statement V)) :
    run db (first ++ later) = (run db first).bind fun mid => run mid later := by
  induction first generalizing db with
  | nil => rfl
  | cons statement statements ih =>
      rw [List.cons_append, run, run, Option.bind_assoc]
      exact congrArg _ (funext ih)

theorem run_append_eq_some {db db' : Db V} {first later : List (Statement V)}
    (h : run db (first ++ later) = some db') :
    ∃ mid, run db first = some mid ∧ run mid later = some db' := by
  rw [run_append] at h
  exact Option.bind_eq_some_iff.mp h

/-- A column that is left alone from then on has the default with which it has been added. -/
theorem run_filled {db db' : Db V} {before later : List (Statement V)} {table : String}
    {column : Column} {default : Option V}
    (h : run db (before ++ .addColumn table column default :: later) = some db')
    (leave : ∀ statement ∈ later, statement.leaves table [column.name] = true)
    {r : Relation V} (found : db' table = some r) {row : Row V} (stored : row ∈ r.rows) :
    row column.name = default := by
  obtain ⟨mid, -, rest⟩ := run_append_eq_some h
  obtain ⟨mid', step, rest⟩ := run_cons_eq_some rest
  obtain ⟨old, new, -, added, rfl⟩ := alter_eq_some step
  obtain ⟨r', found', same⟩ := run_keeps rest leave new (Function.update_self _ _ _)
  obtain rfl := Option.some.inj (found.symm.trans found')
  have listed : [row column.name] ∈ r.select [column.name] :=
    List.mem_map.mpr ⟨row, stored, rfl⟩
  rw [same] at listed
  obtain ⟨row', stored', value⟩ := List.mem_map.mp listed
  obtain ⟨-, -, rows, -⟩ := Relation.add_eq_some added
  rw [rows] at stored'
  obtain ⟨_, -, rfl⟩ := List.mem_map.mp stored'
  simpa using value.symm

/-- A column that has been copied is a copy as long as neither of the two changes. -/
theorem run_copied {db db' : Db V} {before later : List (Statement V)}
    {table target source : String}
    (h : run db (before ++ .copyColumn table target source :: later) = some db')
    (leave : ∀ statement ∈ before, statement.leaves table [source] = true)
    (leave' : ∀ statement ∈ later, statement.leaves table [target] = true)
    {r : Relation V} (found : db table = some r) :
    ∃ r', db' table = some r' ∧ r'.select [target] = r.select [source] := by
  obtain ⟨mid, first, rest⟩ := run_append_eq_some h
  obtain ⟨mid', step, rest⟩ := run_cons_eq_some rest
  obtain ⟨old, new, found', copied, rfl⟩ := alter_eq_some step
  obtain ⟨old', found'', same⟩ := run_keeps first leave r found
  obtain rfl := Option.some.inj (found'.symm.trans found'')
  obtain ⟨r', stored, same'⟩ := run_keeps rest leave' new (Function.update_self _ _ _)
  refine ⟨r', stored, same'.trans (Eq.trans ?_ same)⟩
  rw [Relation.select, (Relation.copy_eq_some copied).2.1, Relation.rowsWith, List.map_map]
  exact List.map_congr_left fun row _ => by simp

/-- The distinct values of a column can be put into a table that has just been made. -/
theorem insertDistinct_succeeds {db : Db V} {schema : Schema} {table target source : String}
    {column : Column} {s : Relation V} (made : db table = some (.empty schema))
    (known : target ∈ schema.names)
    (nullable : ∀ other ∈ schema.columns, other.notNull = true → other.name = target)
    (unique : ∀ names ∈ schema.unique, names = [target]) (found : db source = some s)
    (sound : s.Sound) (listed : column ∈ s.schema.columns) (notNull : column.notNull = true) :
    ∃ db', exec db (.insertDistinct table target source column.name) = some db' := by
  have filled : none ∉ (s.rows.map fun row => row column.name).dedup := by
    intro missing
    obtain ⟨row, stored, value⟩ := List.mem_map.mp (List.mem_dedup.mp missing)
    exact sound.notNull column listed notNull row stored value
  have named : column.name ∈ s.schema.names := List.mem_map_of_mem listed
  obtain ⟨r, put⟩ := Relation.insertAll_succeeds (r := .empty schema) rfl known nullable unique
    (List.nodup_dedup _) filled
  refine ⟨Function.update db table (some r), ?_⟩
  simp only [exec, found, named, if_true, alter, made, put, Option.map_some]

/-- What has been put into a table that had not been there is all that it holds. -/
theorem run_distinct {db db' : Db V} {before later : List (Statement V)} {schema : Schema}
    {table target source column : String} (apart : source ≠ table) {names : List String}
    (h : run db (before ++ .createTable table schema ::
      .insertDistinct table target source column :: later) = some db')
    (missing : ∀ mid, run db before = some mid → mid table = none)
    (leave : ∀ statement ∈ later, statement.leaves table names = true)
    (leave' : ∀ statement ∈ later, statement.leaves source [column] = true) :
    ∃ r s, db' table = some r ∧ db' source = some s ∧
      r.select names = ((s.rows.map fun row => row column).dedup).map fun value =>
        names.map (Function.update (fun _ => none) target value) := by
  obtain ⟨mid, first, rest⟩ := run_append_eq_some h
  obtain ⟨made, create, rest⟩ := run_cons_eq_some rest
  obtain ⟨filled, insert, rest⟩ := run_cons_eq_some rest
  simp only [exec, missing mid first, Option.some.injEq] at create
  subst create
  obtain ⟨s, found, put⟩ := insertDistinct_eq_some insert
  obtain ⟨old, new, found', added, rfl⟩ := alter_eq_some put
  rw [Function.update_self] at found'
  obtain rfl := Option.some.inj found'
  obtain ⟨r, stored, same⟩ := run_keeps rest leave new (Function.update_self _ _ _)
  obtain ⟨s', stored', same'⟩ := run_keeps rest leave' s
    (by rw [Function.update_of_ne apart, found])
  refine ⟨r, s', stored, stored', ?_⟩
  have column_eq (t : Relation V) : (t.rows.map fun row => row column) =
      (t.select [column]).map fun values => values.headD none := by
    simp [Relation.select]
  rw [same, column_eq s', same', ← column_eq s, Relation.select,
    (Relation.insertAll_eq_some added).2.2]
  simp [Relation.empty]

/-! ## Scripts that come back to where they began -/

theorem exec_other {db db' : Db V} {statement : Statement V} (h : exec db statement = some db')
    {table : String} (apart : table ≠ statement.table) : db' table = db table := by
  have altered {change : Relation V → Option (Relation V)}
      (h : alter db statement.table change = some db') : db' table = db table := by
    obtain ⟨_, _, -, -, rfl⟩ := alter_eq_some h
    exact Function.update_of_ne apart _ _
  cases statement with
  | createTable t schema =>
      simp only [exec] at h
      split at h
      next => exact Option.some.inj h ▸ rfl
      next =>
        obtain rfl := Option.some.inj h
        exact Function.update_of_ne apart _ _
  | addColumn | dropColumn | copyColumn => exact altered h
  | insertDistinct t target source column =>
      obtain ⟨_, -, put⟩ := insertDistinct_eq_some h
      exact altered put
  | dropTable t =>
      obtain rfl := Option.some.inj h
      exact Function.update_of_ne apart _ _

theorem run_other {db db' : Db V} {statements : List (Statement V)}
    (h : run db statements = some db') {table : String}
    (apart : ∀ statement ∈ statements, table ≠ statement.table) : db' table = db table := by
  induction statements generalizing db with
  | nil => exact Option.some.inj h ▸ rfl
  | cons statement statements ih =>
      obtain ⟨mid, first, rest⟩ := run_cons_eq_some h
      rw [ih rest fun s listed => apart s (List.mem_cons_of_mem _ listed),
        exec_other first (apart statement List.mem_cons_self)]

omit [DecidableEq V] in
/-- There is nothing in a row but its columns. -/
theorem Relation.eq_of_select {r r' : Relation V} (schema : r.schema = r'.schema)
    (same : r.select r.schema.names = r'.select r.schema.names) : r = r' := by
  have length : r.rows.length = r'.rows.length := by
    have lengths := congrArg List.length same
    rwa [select, select, List.length_map, List.length_map] at lengths
  refine ext schema (List.ext_getElem length fun i here there => funext fun name => ?_)
  by_cases known : name ∈ r.schema.names
  · have row : r.schema.names.map r.rows[i] = r.schema.names.map r'.rows[i] := by
      simpa [select, here, there] using congrArg (fun rows => rows[i]?) same
    exact List.map_inj_left.mp row name known
  · rw [r.absent _ (List.getElem_mem here) name known,
      r'.absent _ (List.getElem_mem there) name (schema ▸ known)]

/-- It is enough to see the shapes come back that the script touches. -/
theorem run_undone {db db' e e' : Db V} {statements : List (Statement V)}
    (same : schemas db = schemas e) (done : run db statements = some db')
    (tried : run e statements = some e')
    (shapes : ∀ statement ∈ statements, schemas e' statement.table = schemas e statement.table)
    (leave : ∀ statement ∈ statements, ∀ other ∈ statements, ∀ schema,
      schemas e statement.table = some schema →
        other.leaves statement.table schema.names = true) : db' = db := by
  funext table
  by_cases touched : ∃ statement ∈ statements, table = statement.table
  · obtain ⟨statement, listed, rfl⟩ := touched
    have shape : schemas db' statement.table = schemas db statement.table := by
      rw [run_schemas same done tried, shapes statement listed, same]
    cases found : db statement.table with
    | none =>
        rw [schemas, schemas, found] at shape
        exact Option.map_eq_none_iff.mp shape
    | some r =>
        have known : schemas e statement.table = some r.schema := by
          rw [← same, schemas, found, Option.map_some]
        obtain ⟨r', found', kept⟩ := run_keeps done
          (fun other member => leave statement listed other member r.schema known) r found
        rw [schemas, schemas, found, found'] at shape
        have schema : r'.schema = r.schema := Option.some.inj shape
        rw [found', Relation.eq_of_select schema (schema ▸ kept)]
  · exact run_other done fun statement listed same => touched ⟨statement, listed, same⟩

end

end StreamingPortal.Relational
