import DbFree.Errors
import DbFree.MergeJoin
import DbFree.SqlText

/- The row comparison of two tables and the script that makes one hold what the
other holds (services/data_compare.rs). -/
namespace DbFree.RowCompare

open Texts SqlText MergeJoin

/-- A value reduced to what it means: numbers by value, their normalised text
breaking ties, everything else by text. -/
inductive Canon where
  | null
  | num (value : F64) (text : Text)
  | text (text : Text)
deriving DecidableEq

namespace Canon

def rank : Canon → Nat
  | .null => 0
  | .num _ _ => 1
  | .text _ => 2

protected def cmp : Canon → Canon → Ordering
  | .num first firstText, .num second secondText =>
    (first.totalCmp second).then (compare firstText secondText)
  | .text first, .text second => compare first second
  | first, second => compare first.rank second.rank

instance : Ord Canon := ⟨Canon.cmp⟩

end Canon

/-- `1.500` → `1.5`, `-0.0` → `0`, `+7` → `7`; nothing when not a number. -/
def normalizeNumber (raw : Text) : Option (F64 × Text) :=
  let trimmed := (trim raw).dropWhile (· == '+')
  match F64.parse trimmed with
  | none => none
  | some value =>
    if value.isFinite then
      let text :=
        if '.' ∈ trimmed ∧ ¬('e' ∈ trimmed ∨ 'E' ∈ trimmed) then
          (trimmed.rdropWhile (· == '0')).rdropWhile (· == '.')
        else trimmed
      some (value, if value.isZero then ['0'] else text)
    else none

def canonNumber (spelled : Text) : Canon :=
  match normalizeNumber spelled with
  | some (value, text) => .num value text
  | none => .text spelled

def canon (crates : Crates) : Value → Canon
  | .null => .null
  | .bool value => .num (F64.ofInt (if value then 1 else 0)) (if value then ['1'] else ['0'])
  | .int number => .num (F64.ofInt number) (integer number)
  | .float number => canonNumber number.display
  | .decimal text => canonNumber text
  | .text text | .dateTime text | .unsupported text => .text text
  | .json document => .text (crates.jsonText document)
  | .bytes base64 => .text ('\x00' :: "bytes:".toList ++ base64)

/-- Two cells hold the same value by the canonical rules. -/
def sameValue (crates : Crates) (first second : Value) : Bool :=
  Canon.cmp (canon crates first) (canon crates second) == .eq

/-- One row cut down to the compared columns, with its key split out. -/
structure KeyedRow where
  key : List Value
  values : List Value

inductive RowStatus where
  | onlyLeft | onlyRight | different
deriving DecidableEq

/-- One row that is not identical on both sides. -/
structure RowDiff where
  status : RowStatus
  key : List Value
  left : Option (List Value)
  right : Option (List Value)
  /-- Columns whose values differ. -/
  changed : List Text

structure RowComparison where
  rows : List RowDiff := []
  onlyLeft : Nat := 0
  onlyRight : Nat := 0
  different : Nat := 0
  identical : Nat := 0
  /-- Rows whose key repeats an earlier row's on the same side. -/
  duplicateKeys : Nat := 0

abbrev Key := List Canon

def canonicalKey (crates : Crates) (row : KeyedRow) : Key := row.key.map (canon crates)

/-- One turn of `index`: a row whose key is taken is only counted. -/
def fileRow (crates : Crates) (filed : Std.TreeMap Key KeyedRow × Nat) (row : KeyedRow) :
    Std.TreeMap Key KeyedRow × Nat :=
  let key := canonicalKey crates row
  (filed.1.insertIfNew key row, if filed.1.contains key then filed.2 + 1 else filed.2)

/-- The rows of one side by key, the first one of each key, and the count of the
others. -/
def index (crates : Crates) (rows : List KeyedRow) (duplicates : Nat) :
    Std.TreeMap Key KeyedRow × Nat :=
  rows.foldl (fileRow crates) (∅, duplicates)

/-- The compared columns in which two rows differ. -/
def changedColumns (crates : Crates) (columns : List Text) (left right : List Value) :
    List Text :=
  (columns.zipIdx.filter fun (_, i) =>
    match left[i]?, right[i]? with
    | some first, some second => !sameValue crates first second
    | first, second => first.isSome != second.isSome).map Prod.fst

/-- One turn of the merge join. -/
def visit (crates : Crates) (columns : List Text) (out : RowComparison) :
    Key × Joined KeyedRow KeyedRow → RowComparison
  | (_, .left row) =>
    { out with
      onlyLeft := out.onlyLeft + 1
      rows := out.rows ++ [⟨.onlyLeft, row.key, some row.values, none, []⟩] }
  | (_, .right row) =>
    { out with
      onlyRight := out.onlyRight + 1
      rows := out.rows ++ [⟨.onlyRight, row.key, none, some row.values, []⟩] }
  | (_, .both left right) =>
    let changed := changedColumns crates columns left.values right.values
    if changed.isEmpty then { out with identical := out.identical + 1 }
    else
      { out with
        different := out.different + 1
        rows := out.rows ++
          [⟨.different, left.key, some left.values, some right.values, changed⟩] }

/-- Merge-joins both sides in canonical key order and classifies the rows. -/
def diffRows (crates : Crates) (left right : List KeyedRow) (columns : List Text) :
    RowComparison :=
  let (leftIndex, skipped) := index crates left 0
  let (rightIndex, skipped) := index crates right skipped
  (mergeJoin leftIndex.toList rightIndex.toList).foldl (visit crates columns)
    { duplicateKeys := skipped }

inductive CompareDirection where
  | leftToRight | rightToLeft
deriving DecidableEq

/-- True when the left side is the source of truth. -/
def CompareDirection.leftIsSource (direction : CompareDirection) : Bool :=
  direction == .leftToRight

/-- Where the script writes and in which names. -/
structure SyncTarget where
  engine : Engine
  table : TableRef
  columns : List Text
  /-- Indices into `columns` of the key columns. -/
  key : List Nat

/-- One key column of a condition. -/
def keyTerm (crates : Crates) (target : SyncTarget) (values : List Value) (i : Nat) :
    Option Text :=
  target.columns[i]?.map fun column =>
    let col := quoteIdentFor target.engine column
    match values[i]? with
    | none | some .null => col ++ " IS NULL".toList
    | some value => col ++ " = ".toList ++ literal crates target.engine value

def predicate (crates : Crates) (target : SyncTarget) (values : List Value) : Text :=
  join " AND ".toList (target.key.filterMap (keyTerm crates target values))

/-- The row's values in the source table and in the target table. -/
def RowDiff.sides (direction : CompareDirection) (row : RowDiff) :
    Option (List Value) × Option (List Value) :=
  if direction.leftIsSource then (row.left, row.right) else (row.right, row.left)

/-- The target's values of the rows the script deletes. -/
def deletedRows (direction : CompareDirection) (rows : List RowDiff) : List (List Value) :=
  rows.filterMap fun row =>
    match row.sides direction with
    | (none, some existing) => some existing
    | _ => none

/-- The source's values of the rows the script inserts. -/
def insertedRows (direction : CompareDirection) (rows : List RowDiff) : List (List Value) :=
  rows.filterMap fun row =>
    match row.sides direction with
    | (some values, none) => some values
    | _ => none

/-- The values of both sides of the rows the script may update. -/
def updatedRows (direction : CompareDirection) (rows : List RowDiff) :
    List (List Value × List Value) :=
  rows.filterMap fun row =>
    match row.sides direction with
    | (some values, some existing) => some (values, existing)
    | _ => none

def deleteStatement (crates : Crates) (target : SyncTarget) (existing : List Value) : Text :=
  "DELETE FROM ".toList ++ qualifiedNameFor target.engine target.table ++ " WHERE ".toList ++
    predicate crates target existing ++ [';']

def insertStatement (crates : Crates) (target : SyncTarget) (values : List Value) : Text :=
  "INSERT INTO ".toList ++ qualifiedNameFor target.engine target.table ++ " (".toList ++
    join ", ".toList (target.columns.map (quoteIdentFor target.engine)) ++
    ") VALUES (".toList ++ join ", ".toList (values.map (literal crates target.engine)) ++
    ");".toList

/-- The assignments of the columns outside the key that differ. -/
def assignments (crates : Crates) (target : SyncTarget) (values existing : List Value) :
    List Text :=
  target.columns.zipIdx.filterMap fun (column, i) =>
    match values[i]?, existing[i]? with
    | some new, some old =>
      if i ∉ target.key ∧ !sameValue crates new old then
        some (quoteIdentFor target.engine column ++ " = ".toList ++
          literal crates target.engine new)
      else none
    | _, _ => none

def updateStatement (crates : Crates) (target : SyncTarget)
    (row : List Value × List Value) : Option Text :=
  let sets := assignments crates target row.1 row.2
  if sets.isEmpty then none
  else
    some ("UPDATE ".toList ++ qualifiedNameFor target.engine target.table ++ " SET ".toList ++
      join ", ".toList sets ++ " WHERE ".toList ++ predicate crates target row.2 ++ [';'])

def scriptHeader (deletes updates inserts : Nat) : Text :=
  "-- Sync generated by DB Free data compare: ".toList ++ decimal deletes ++
    " delete(s), ".toList ++ decimal updates ++ " update(s), ".toList ++ decimal inserts ++
    " insert(s).".toList

/-- DELETE, then UPDATE, then INSERT: deleting first frees unique values an insert
may need. -/
def syncScript (crates : Crates) (target : SyncTarget) (rows : List RowDiff)
    (direction : CompareDirection) : Text :=
  let deletes := (deletedRows direction rows).map (deleteStatement crates target)
  let updates := (updatedRows direction rows).filterMap (updateStatement crates target)
  let inserts := (insertedRows direction rows).map (insertStatement crates target)
  let head :=
    [scriptHeader deletes.length updates.length inserts.length,
      ("-- Review before running; the guard asks before DELETE and UPDATE statements.").toList]
  let nothing :=
    if deletes.isEmpty ∧ updates.isEmpty ∧ inserts.isEmpty then
      ["-- The tables already match: nothing to sync.".toList]
    else []
  join ['\n'] (head ++ nothing ++ deletes ++ updates ++ inserts) ++ ['\n']

structure ColumnInfo where
  name : Text
  primaryKey : Bool
  ordinal : Nat
deriving DecidableEq

structure SortRule where
  column : Text
  desc : Bool
deriving DecidableEq

/-- A request for one window of a table's rows; the comparison filters none. -/
structure PageQuery where
  sort : List SortRule
  offset : Nat
  limit : Nat

structure ResultSet where
  columns : List Text
  rows : List (List Value)

/-- A session, with the operations of its adapter that a comparison uses. -/
structure SessionCtx where
  engine : Engine
  /-- `capabilities().sql`. -/
  sql : Bool
  columns : TableRef → Except AppError (List ColumnInfo)
  fetchPage : TableRef → PageQuery → Except AppError ResultSet

structure CompareOptions where
  /-- Empty stands for the primary key. -/
  keyColumns : List Text
  maxRows : UInt64
  direction : CompareDirection
  includeScript : Bool

def maxPageLimit : Nat := 1000

def maxReportedRows : Nat := 5000

def usizeMax : Nat := 2 ^ 64 - 1

/-- The first place of a name in a list, else of one that differs in case only. -/
def findName (crates : Crates) (names : List Text) (name : Text) : Option Nat :=
  match names.findIdx? (· == name) with
  | some i => some i
  | none => names.findIdx? fun other => crates.toLowercase other == crates.toLowercase name

def findColumn (crates : Crates) (columns : List ColumnInfo) (name : Text) :
    Option ColumnInfo :=
  match columns.find? fun column => column.name == name with
  | some column => some column
  | none =>
    columns.find? fun column =>
      crates.toLowercase column.name == crates.toLowercase name

def primaryKey (columns : List ColumnInfo) : List Text :=
  ((columns.filter (·.primaryKey)).insertionSort (·.ordinal ≤ ·.ordinal)).map (·.name)

/-- The name a key column has on each side. -/
def resolveKey (crates : Crates) (left right : List ColumnInfo) (name : Text) :
    Except AppError (Text × Text) :=
  match findColumn crates left name, findColumn crates right name with
  | some l, some r => .ok (l.name, r.name)
  | _, _ =>
    .error (.invalidInput
      ("Key column \"".toList ++ name ++ "\" must exist in both tables.".toList))

/-- The key, as the names of both sides: the caller's choice, or the left table's
primary key, or the right one's. -/
def resolveKeys (crates : Crates) (left right : List ColumnInfo) (requested : List Text) :
    Except AppError (List (Text × Text)) :=
  let names :=
    if !requested.isEmpty then requested
    else if !(primaryKey left).isEmpty then primaryKey left
    else primaryKey right
  if names.isEmpty then
    .error (.invalidInput
      ("Neither table has a primary key: choose the key columns to match rows by.").toList)
  else names.mapM (resolveKey crates left right)

/-- The wanted columns of a row of a page. -/
def cut (crates : Crates) (wanted header : List Text) (row : List Value) : List Value :=
  wanted.map fun name =>
    ((findName crates header name).bind fun i => row[i]?).getD .null

/-- The page loop. Each turn but the last reads at least one row, so as many turns
as there is room for rows are all it takes. -/
def readPages (crates : Crates) (fetch : PageQuery → Except AppError ResultSet)
    (sort : List SortRule) (wanted : List Text) (ceiling : Nat) :
    Nat → List (List Value) → Nat → Except AppError (List (List Value))
  | 0, rows, _ => .ok rows
  | turns + 1, rows, offset =>
    let limit := min (ceiling - rows.length) maxPageLimit
    if limit = 0 then .ok rows
    else
      match fetch ⟨sort, offset, limit⟩ with
      | .error error => .error error
      | .ok page =>
        let rows := rows ++ page.rows.map (cut crates wanted page.columns)
        if page.rows.length < limit then .ok rows
        else
          readPages crates fetch sort wanted ceiling turns rows (offset + page.rows.length)

def ascending (columns : List Text) : List SortRule := columns.map fun column => ⟨column, false⟩

/-- Every row of one side up to the cap, ordered by the key and cut to the wanted
columns, and whether there were more. -/
def readSide (crates : Crates) (ctx : SessionCtx) (table : TableRef) (sort wanted : List Text)
    (maxRows : UInt64) : Except AppError (List (List Value) × Bool) :=
  -- One row past the cap tells "exactly as many" apart from "more than that".
  let ceiling := min (maxRows.toNat + 1) usizeMax
  match readPages crates (ctx.fetchPage table) (ascending sort) wanted ceiling ceiling [] 0 with
  | .error error => .error error
  | .ok rows => .ok (rows.take maxRows.toNat, decide (maxRows.toNat < rows.length))

def keyedRow (key : List Nat) (values : List Value) : KeyedRow :=
  ⟨key.map fun i => (values[i]?).getD .null, values⟩

def keyed (key : List Nat) (rows : List (List Value)) : List KeyedRow := rows.map (keyedRow key)

/-- Which columns are compared, and under which names. -/
structure Pairing where
  /-- The left columns the right table also has, in the left table's order. -/
  columns : List ColumnInfo
  rightNames : List Text
  leftOnly : List Text
  rightOnly : List Text
  leftKeys : List Text
  rightKeys : List Text
  /-- The places of the key columns among the compared ones. -/
  keyIndex : List Nat

def Pairing.leftNames (pairing : Pairing) : List Text := pairing.columns.map (·.name)

/-- The pairs of columns that are compared, and the left columns without a partner. -/
def pairColumns (crates : Crates) (left right : List ColumnInfo) :
    List (ColumnInfo × Text) × List Text :=
  let ordered := left.insertionSort (·.ordinal ≤ ·.ordinal)
  (ordered.filterMap fun c => (findColumn crates right c.name).map fun r => (c, r.name),
    (ordered.filter fun c => (findColumn crates right c.name).isNone).map (·.name))

def pairing (crates : Crates) (left right : List ColumnInfo) (keys : List (Text × Text)) :
    Pairing :=
  let (pairs, leftOnly) := pairColumns crates left right
  let leftNames := pairs.map (·.1.name)
  { columns := pairs.map (·.1)
    rightNames := pairs.map (·.2)
    leftOnly
    rightOnly :=
      (right.filter fun r => !pairs.any fun (_, name) => name == r.name).map (·.name)
    leftKeys := keys.map (·.1)
    rightKeys := keys.map (·.2)
    keyIndex := keys.filterMap fun (l, _) => leftNames.findIdx? (· == l) }

/-- The rows read of one side, and whether it was capped. -/
structure Side where
  rows : List (List Value)
  capped : Bool

/-- A comparison before it is reported. -/
structure Compared where
  pairing : Pairing
  left : Side
  right : Side
  comparison : RowComparison

/-- Reads both sides and compares what was read of them. -/
def compareSides (crates : Crates) (left : SessionCtx) (leftTable : TableRef)
    (right : SessionCtx) (rightTable : TableRef) (options : CompareOptions) :
    Except AppError Compared :=
  match left.columns leftTable, right.columns rightTable with
  | .error error, _ => .error error
  | _, .error error => .error error
  | .ok leftColumns, .ok rightColumns =>
    if leftColumns.isEmpty ∨ rightColumns.isEmpty then
      .error (.notFound "One of the tables has no columns or does not exist.".toList)
    else
      match resolveKeys crates leftColumns rightColumns options.keyColumns with
      | .error error => .error error
      | .ok keys =>
        let paired := pairing crates leftColumns rightColumns keys
        match
          readSide crates left leftTable paired.leftKeys paired.leftNames options.maxRows,
          readSide crates right rightTable paired.rightKeys paired.rightNames
            options.maxRows with
        | .error error, _ => .error error
        | _, .error error => .error error
        | .ok (leftRows, leftCapped), .ok (rightRows, rightCapped) =>
          .ok
            { pairing := paired
              left := ⟨leftRows, leftCapped⟩
              right := ⟨rightRows, rightCapped⟩
              comparison :=
                diffRows crates (keyed paired.keyIndex leftRows)
                  (keyed paired.keyIndex rightRows) paired.leftNames }

def cappedNote (maxRows : Nat) (leftCapped rightCapped : Bool) : List Text :=
  let side :=
    match leftCapped, rightCapped with
    | true, true => "each side"
    | true, false => "the left side"
    | _, _ => "the right side"
  if leftCapped || rightCapped then
    ["Only the first ".toList ++ decimal maxRows ++ " rows of ".toList ++ side.toList ++
      " were read (ordered by the key); rows past the cap are not compared.".toList]
  else []

def duplicateNote (duplicates : Nat) : List Text :=
  if 0 < duplicates then
    [decimal duplicates ++
      " row(s) repeat a key already seen on the same side and were skipped: ".toList ++
      "the key does not identify rows uniquely.".toList]
  else []

def unpairedNote (paired : Pairing) : List Text :=
  if paired.leftOnly.isEmpty ∧ paired.rightOnly.isEmpty then []
  else ["Columns present on one side only are not compared or synced.".toList]

/-- What the comparison reports. -/
structure DataCompare where
  direction : CompareDirection
  columns : List ColumnInfo
  keyColumns : List Text
  leftOnlyColumns : List Text
  rightOnlyColumns : List Text
  rows : List RowDiff
  rowsTruncated : Bool
  onlyLeft : Nat
  onlyRight : Nat
  different : Nat
  identical : Nat
  leftRows : Nat
  rightRows : Nat
  leftCapped : Bool
  rightCapped : Bool
  /-- The statements that make the target match the source, when asked for. -/
  script : Option Text
  notes : List Text

/-- Where the script of a comparison writes. -/
def syncTarget (left : SessionCtx) (leftTable : TableRef) (right : SessionCtx)
    (rightTable : TableRef) (direction : CompareDirection) (paired : Pairing) : SyncTarget :=
  if direction.leftIsSource then ⟨right.engine, rightTable, paired.rightNames, paired.keyIndex⟩
  else ⟨left.engine, leftTable, paired.leftNames, paired.keyIndex⟩

/-- The report of a comparison; the script covers every row, the report the first
ones. -/
def report (crates : Crates) (left : SessionCtx) (leftTable : TableRef) (right : SessionCtx)
    (rightTable : TableRef) (options : CompareOptions) (compared : Compared) : DataCompare :=
  let paired := compared.pairing
  let comparison := compared.comparison
  let target := syncTarget left leftTable right rightTable options.direction paired
  let takesSql := if options.direction.leftIsSource then right.sql else left.sql
  let notes :=
    cappedNote options.maxRows.toNat compared.left.capped compared.right.capped ++
      duplicateNote comparison.duplicateKeys ++ unpairedNote paired
  let (script, refused) :=
    if !options.includeScript then (none, [])
    else if takesSql then
      (some (syncScript crates target comparison.rows options.direction), [])
    else
      (none, [target.engine.label.toList ++
        " does not take SQL, so no sync script was written.".toList])
  { direction := options.direction
    columns := paired.columns
    keyColumns := paired.leftKeys
    leftOnlyColumns := paired.leftOnly
    rightOnlyColumns := paired.rightOnly
    rows := comparison.rows.take maxReportedRows
    rowsTruncated := decide (maxReportedRows < comparison.rows.length)
    onlyLeft := comparison.onlyLeft
    onlyRight := comparison.onlyRight
    different := comparison.different
    identical := comparison.identical
    leftRows := compared.left.rows.length
    rightRows := compared.right.rows.length
    leftCapped := compared.left.capped
    rightCapped := compared.right.capped
    script
    notes := notes ++ refused }

protected def compare (crates : Crates) (left : SessionCtx) (leftTable : TableRef) (right : SessionCtx)
    (rightTable : TableRef) (options : CompareOptions) : Except AppError DataCompare :=
  (compareSides crates left leftTable right rightTable options).map
    (report crates left leftTable right rightTable options)

end DbFree.RowCompare
