import DbFree.DataCompare
import DbFree.Pairing

/- The comparison of two schemas and the migration script it writes
(services/schema_diff.rs, model/compare.rs, model/schema.rs). -/
namespace DbFree.Schema

open Texts SqlText

structure ColumnInfo where
  name : Text
  dataType : Text
  nullable : Bool
  primaryKey : Bool
  ordinal : Nat
deriving DecidableEq

structure ForeignKey where
  name : Text
  fromSchema : Option Text
  fromTable : Text
  fromColumns : List Text
  toTable : Text
  toColumns : List Text
deriving DecidableEq

/-- A table as the adapter reads it, with the foreign keys declared on it. -/
structure TableSnapshot where
  table : TableRef
  columns : List ColumnInfo
  foreignKeys : List ForeignKey
  own : ∀ fk ∈ foreignKeys, fk.fromTable = table.name

/-- Keys of the table, as far as both sides say which schema they are in. -/
def ownKeys (table : TableRef) (keys : List ForeignKey) : List ForeignKey :=
  keys.filter fun fk => fk.fromTable = table.name ∧
    (fk.fromSchema = none ∨ table.schema = none ∨ fk.fromSchema = table.schema)

def tableSnapshot (table : TableRef) (columns : List ColumnInfo) (keys : List ForeignKey) :
    TableSnapshot where
  table := table
  columns := columns
  foreignKeys := ownKeys table keys
  own := fun _ member => (of_decide_eq_true (List.mem_filter.mp member).2).1

/-- The tables of one schema. Adapters list each of them in the namespace of the schema. -/
structure SchemaSnapshot where
  engine : Engine
  ns : Option Text
  tables : List TableSnapshot
  home : ∀ table ∈ tables, table.table.schema = ns

inductive DiffStatus where
  /-- In the source only. -/
  | added
  /-- In the target only. -/
  | removed
  | changed
  | identical
deriving DecidableEq

inductive ColumnChange where
  | type | nullable | primaryKey
deriving DecidableEq

structure ColumnDiff where
  name : Text
  status : DiffStatus
  left : Option ColumnInfo
  right : Option ColumnInfo
  changes : List ColumnChange
deriving DecidableEq

structure ForeignKeyDiff where
  status : DiffStatus
  left : Option ForeignKey
  right : Option ForeignKey
deriving DecidableEq

structure TableDiff where
  name : Text
  status : DiffStatus
  left : Option TableRef
  right : Option TableRef
  columns : List ColumnDiff
  foreignKeys : List ForeignKeyDiff
deriving DecidableEq

/-- `str::to_lowercase` and `str::to_uppercase`. -/
structure Letters where
  lower : Text → Text
  upper : Text → Text

/-- Status of something found on one side only, read in the direction. -/
def oneSided (inLeft : Bool) (direction : RowCompare.CompareDirection) : DiffStatus :=
  if inLeft = direction.leftIsSource then .added else .removed

section Diff

variable (letters : Letters)

def fold (name : Text) : Text := letters.lower name

/-- A type's spelling for comparison only: case and white space are no change. -/
def normalizeType (raw : Text) : Text := letters.lower (join [' '] (splitWhitespace raw))

def fkSignature (fk : ForeignKey) : Text :=
  let columns := fun names : List Text => join [','] (names.map (fold letters))
  fold letters fk.fromTable ++ '(' :: columns fk.fromColumns ++ ")->".toList ++
    fold letters fk.toTable ++ '(' :: columns fk.toColumns ++ [')']

def oneSideTable (table : TableSnapshot) (inLeft : Bool)
    (direction : RowCompare.CompareDirection) : TableDiff where
  name := table.table.name
  status := oneSided inLeft direction
  left := if inLeft then some table.table else none
  right := if inLeft then none else some table.table
  columns := table.columns.map fun column =>
    ⟨column.name, oneSided inLeft direction, if inLeft then some column else none,
      if inLeft then none else some column, []⟩
  foreignKeys := table.foreignKeys.map fun fk =>
    ⟨oneSided inLeft direction, if inLeft then some fk else none,
      if inLeft then none else some fk⟩

def byOrdinal (columns : List ColumnInfo) : List ColumnInfo :=
  columns.insertionSort fun first second => first.ordinal ≤ second.ordinal

/-- The first column of that name. -/
def partner (columns : List ColumnInfo) (column : ColumnInfo) : Option ColumnInfo :=
  Pairing.partner (fun other : ColumnInfo => fold letters other.name) columns column

def columnChanges (left right : ColumnInfo) : List ColumnChange :=
  (if normalizeType letters left.dataType ≠ normalizeType letters right.dataType then [.type]
    else []) ++
  (if left.nullable ≠ right.nullable then [.nullable] else []) ++
  (if left.primaryKey ≠ right.primaryKey then [.primaryKey] else [])

def matchedColumn (left right : ColumnInfo) : ColumnDiff :=
  let changes := columnChanges letters left right
  ⟨left.name, if changes.isEmpty then .identical else .changed, some left, some right, changes⟩

def columnDiffs (left right : List ColumnInfo) (direction : RowCompare.CompareDirection) :
    List ColumnDiff :=
  let rightOnly := right.filter fun column => (partner letters left column).isNone
  (byOrdinal left).map (fun column =>
    match partner letters right column with
    | some other => matchedColumn letters column other
    | none => ⟨column.name, oneSided true direction, some column, none, []⟩) ++
  (byOrdinal rightOnly).map fun column =>
    ⟨column.name, oneSided false direction, none, some column, []⟩

def foreignKeyDiffs (left right : List ForeignKey) (direction : RowCompare.CompareDirection) :
    List ForeignKeyDiff :=
  let lacks := fun (keys : List ForeignKey) (fk : ForeignKey) =>
    decide (fkSignature letters fk ∉ keys.map (fkSignature letters))
  ((left.filter (lacks right)).map fun fk => ⟨oneSided true direction, some fk, none⟩) ++
  (right.filter (lacks left)).map fun fk => ⟨oneSided false direction, none, some fk⟩

def tableDiff (left right : TableSnapshot) (direction : RowCompare.CompareDirection) :
    TableDiff :=
  let columns := columnDiffs letters left.columns right.columns direction
  let foreignKeys := foreignKeyDiffs letters left.foreignKeys right.foreignKeys direction
  let changed := columns.any (·.status ≠ .identical) || !foreignKeys.isEmpty
  ⟨left.table.name, if changed then .changed else .identical, some left.table, some right.table,
    columns, foreignKeys⟩

/-- The table a side files under a folded name: the last one that has it. -/
def filed (tables : List TableSnapshot) (name : Text) : Option TableSnapshot :=
  tables.reverse.find? fun table => fold letters table.table.name = name

/-- The folded names of both sides, sorted, each once. -/
def foldedNames (left right : List TableSnapshot) : List Text :=
  ((left ++ right).map fun table => fold letters table.table.name).dedup.insertionSort (· ≤ ·)

/-- Every table, matched by its folded name, sorted by it. -/
def diff (left right : SchemaSnapshot) (direction : RowCompare.CompareDirection) :
    List TableDiff :=
  (foldedNames letters left.tables right.tables).map fun name =>
    match filed letters left.tables name, filed letters right.tables name with
    | some l, some r => tableDiff letters l r direction
    | some l, none => oneSideTable l true direction
    | none, some r => oneSideTable r false direction
    | none, none => ⟨[], .identical, none, none, [], []⟩

end Diff

/-- The `ALTER` spelling a target engine takes. -/
inductive Dialect where
  | postgres | mysql | mssql | sqlite | oracle | generic
deriving DecidableEq

def dialect (engine : Engine) : Dialect :=
  match engine.family with
  | .postgres => .postgres
  | .mysql => .mysql
  | .mssql => .mssql
  | .oracle => .oracle
  | .sqlite | .libsql | .valTown | .cloudflareD1 => .sqlite
  | _ => .generic

/-- What the script does to one table. -/
inductive Change where
  | addColumn (column : ColumnInfo)
  | alterColumn (source target : ColumnInfo) (changes : List ColumnChange)
  | primaryKey (source target : List Text)
  | dropColumn (name : Text)
deriving DecidableEq

/-- The script, in dependency-safe order. -/
structure Migration where
  /-- Foreign keys the source does not have. -/
  dropKeys : List ForeignKey
  /-- New tables, each with its `CREATE` statement. -/
  creates : List (Text × Text)
  /-- Existing tables with what changes in each. -/
  alters : List (Text × List Change)
  /-- Foreign keys the target does not have. -/
  addKeys : List ForeignKey
  /-- Tables only in the target. -/
  drops : List Text

def sourceSide {T : Type} (left right : Option T) (direction : RowCompare.CompareDirection) :
    Option T :=
  if direction.leftIsSource then left else right

def targetSide {T : Type} (left right : Option T) (direction : RowCompare.CompareDirection) :
    Option T :=
  if direction.leftIsSource then right else left

section Plan

variable (letters : Letters) (direction : RowCompare.CompareDirection)

/-- The new tables that the keys of a new table refer to. -/
def dependencies (added : List TableDiff) (source : SchemaSnapshot) (table : TableDiff) :
    List Text :=
  let names := added.map fun other => fold letters other.name
  match source.tables.find? fun other => fold letters other.table.name = fold letters table.name with
  | some found =>
    (found.foreignKeys.map fun fk => fold letters fk.toTable).filter fun name =>
      name ∈ names ∧ name ≠ fold letters table.name
  | none => []

/-- Rounds of tables whose references are done; a circle goes out as it is. -/
def createRounds (depends : TableDiff → List Text) :
    Nat → List Text → List TableDiff → List TableDiff
  | 0, _, pending => pending
  | rounds + 1, done, pending =>
    let ready := pending.filter fun table => (depends table).all (· ∈ done)
    let rest := pending.filter fun table => !(depends table).all (· ∈ done)
    if ready.isEmpty then rest
    else ready ++ createRounds depends rounds (done ++ ready.map fun table => fold letters table.name)
      rest

def creationOrder (added : List TableDiff) (source : SchemaSnapshot) : List TableDiff :=
  createRounds letters (dependencies letters added source) added.length [] added

/-- The names of a side's key columns, in the order of the entries. -/
def keyColumns (side : Option ColumnInfo → Option ColumnInfo → Option ColumnInfo)
    (columns : List ColumnDiff) : List Text :=
  ((columns.filterMap fun column => side column.left column.right).filter (·.primaryKey)).map
    (·.name)

def addedColumns (columns : List ColumnDiff) : List Change :=
  (columns.filter (·.status = .added)).filterMap fun column =>
    (sourceSide column.left column.right direction).map Change.addColumn

def alteredColumns (columns : List ColumnDiff) : List Change :=
  (columns.filter (·.status = .changed)).filterMap fun column =>
    match sourceSide column.left column.right direction,
        targetSide column.left column.right direction with
    | some source, some target => some (Change.alterColumn source target column.changes)
    | _, _ => none

def changedKey (columns : List ColumnDiff) : List Change :=
  let source := keyColumns (sourceSide · · direction) columns
  let target := keyColumns (targetSide · · direction) columns
  if source.map (fold letters) ≠ target.map (fold letters) then [Change.primaryKey source target]
  else []

def droppedColumns (columns : List ColumnDiff) : List Change :=
  (columns.filter (·.status = .removed)).map fun column => Change.dropColumn column.name

def tableChanges (table : TableDiff) : List Change :=
  addedColumns direction table.columns ++ alteredColumns direction table.columns ++
    changedKey letters direction table.columns ++ droppedColumns table.columns

/-- What the script does to an existing table. -/
def alterOf (table : TableDiff) : Option (Text × List Change) :=
  match targetSide table.left table.right direction with
  | some target =>
    if table.columns.any (·.status ≠ .identical) then
      some (target.name, tableChanges letters direction table)
    else none
  | none => none

/-- Whether a statement declares foreign keys of its own. -/
def inlineKeys (statement : Text) : Bool := contains (letters.upper statement) "REFERENCES"

def createStatement (creates : Text → Option Text) (table : TableDiff) : Text :=
  (creates (fold letters table.name)).getD
    ("-- No CREATE statement for ".toList ++ table.name ++ ['.'])

def sourceKeys (table : TableDiff) : List ForeignKey :=
  table.foreignKeys.filterMap fun fk => sourceSide fk.left fk.right direction

def migration (tables : List TableDiff) (source : SchemaSnapshot)
    (creates : Text → Option Text) : Migration :=
  let changed := tables.filter (·.status = .changed)
  let changedKeys := fun status => (changed.flatMap (·.foreignKeys)).filter (·.status = status)
  let created := creationOrder letters (tables.filter (·.status = .added)) source
  { dropKeys := (changedKeys .removed).filterMap fun fk => targetSide fk.left fk.right direction
    creates := created.map fun table => (table.name, createStatement letters creates table)
    alters := changed.filterMap (alterOf letters direction)
    addKeys :=
      (created.filter fun table => !inlineKeys letters (createStatement letters creates table)).flatMap
        (sourceKeys direction) ++
      (changedKeys .added).filterMap fun fk => sourceSide fk.left fk.right direction
    drops := (tables.filter (·.status = .removed)).map (·.name) }

end Plan

end DbFree.Schema
