import DbFree.DesignerModel
import DbFree.ResultView
import DbFree.WorkflowProposal

/- The schema diagram that the assistant proposes: its JSON checked, its tables laid out, and what
of the saved diagram it keeps (services/agent/documents/diagram.rs). -/
namespace DbFree.DiagramProposal

open Texts Chars
open Workflows.Proposal (text required cleanName list flag choice)
open Diagram (DiagramColumn ReferentialAction)
open Designer (DiagramSide DiagramPoint)

section Bodies

inductive ConnectionColor where
  | blue | teal | green | amber | orange | red | pink | violet | gray
deriving DecidableEq

inductive DiagramLineWidth where
  | thin | normal | thick | heavy
deriving DecidableEq

/-- One table card of a diagram. -/
structure DiagramTable extends Diagram.DiagramTable where
  x : F64 := F64.zero false
  y : F64 := F64.zero false
  color : Option ConnectionColor := none
deriving DecidableEq

/-- A foreign key with the look of its line. -/
structure DiagramRelation extends Diagram.DiagramRelation where
  id : Text
  color : Option ConnectionColor := none
  width : Option DiagramLineWidth := none
  fromSide : Option DiagramSide := none
  toSide : Option DiagramSide := none
  waypoints : List DiagramPoint := []

structure DiagramNote where
  id : Text
  x : F64
  y : F64
  width : F64 := F64.ofInt 220
  height : F64 := F64.ofInt 120
  text : Text
  color : Option ConnectionColor := none
  fontSize : Option UInt32 := none
  hideOnExport : Bool := false

structure DiagramBody where
  tables : List DiagramTable
  relations : List DiagramRelation
  notes : List DiagramNote
  gridSize : Option UInt32
  notesVisible : Option Bool

/-- What the assistant's documents use of other crates and of Rust's Unicode tables. -/
structure Outside where
  /-- `str::to_lowercase`. -/
  toLowercase : Text → Text
  /-- `char::to_lowercase`. -/
  lowerChar : Char → Text
  /-- `fresh_id`: the id that is made up for a part of a kind, by its place in the list. -/
  freshId : String → Nat → Text

end Bodies

section Tables

def maxTables : Nat := 40

def maxColumns : Nat := 80

def maxRelations : Nat := 120

def maxNotes : Nat := 10

def colors : List (String × ConnectionColor) :=
  [("blue", .blue), ("teal", .teal), ("green", .green), ("amber", .amber), ("orange", .orange),
    ("red", .red), ("pink", .pink), ("violet", .violet), ("gray", .gray)]

def ConnectionColor.parse (raw : String) : Option ConnectionColor := colors.lookup raw

def actions : List (String × ReferentialAction) :=
  [("no_action", .noAction), ("restrict", .restrict), ("cascade", .cascade),
    ("set_null", .setNull), ("set_default", .setDefault)]

def refuse {α : Type} (message : Text) : Except AppError α := .error (.invalidInput message)

/-- A colour that the model wrote, if it wrote one. -/
def colorOf (outside : Outside) (raw : Json) (what : Text) :
    Except AppError (Option ConnectionColor) :=
  (choice outside.toLowercase raw "color" (colors.map Prod.fst) what).map fun word =>
    word.bind ConnectionColor.parse

/-- The letters and digits of a text in lower case, a dash for what stands between them. -/
def slugLoop (outside : Outside) (out : Text) (pendingDash : Bool) : Text → Text
  | [] => out
  | c :: rest =>
    if isAlphanumeric c then
      let joined := if pendingDash && !out.isEmpty then out ++ ['-'] else out
      slugLoop outside (joined ++ outside.lowerChar c) false rest
    else slugLoop outside out true rest

def slug (outside : Outside) (raw : Text) : Text :=
  let out := slugLoop outside [] false raw
  if out.isEmpty then "item".toList else out

/-- A name with the schema before it. -/
def keyOf (schema : Option Text) (name : Text) : Text :=
  match schema with
  | some schema => schema ++ '.' :: name
  | none => name

/-- The ids tried for a table, in turn. -/
def numbered (base : Text) : Nat → Text
  | 0 => base
  | n + 1 => base ++ '-' :: decimal (n + 2)

def tableId (outside : Outside) (ids : List Text) (schema : Option Text) (name : Text) : Text :=
  FreshNames.choose id (numbered (slug outside (keyOf schema name))) ids

def tableWhat (tableName : Text) : Text := "Table \"".toList ++ tableName ++ "\"".toList

def parseColumns (outside : Outside) (tableName : Text) :
    List Text → List Json → Except AppError (List DiagramColumn)
  | _, [] => .ok []
  | seen, column :: rest => do
    let columnName ← required column "name"
      ("Every column of \"".toList ++ tableName ++ "\"".toList)
    if outside.toLowercase columnName ∈ seen then
      refuse (tableWhat tableName ++ " has the column \"".toList ++ columnName ++
        "\" twice.".toList)
    else do
      let dataType ← required column "type"
        ("Column \"".toList ++ tableName ++ '.' :: columnName ++ "\"".toList)
      let primaryKey := (flag column "primaryKey").getD false
      let others ← parseColumns outside tableName (outside.toLowercase columnName :: seen) rest
      .ok ({ name := columnName
             dataType := dataType
             primaryKey := primaryKey
             nullable := !primaryKey && (flag column "nullable").getD true
             unique := (flag column "unique").getD false
             autoIncrement := (flag column "autoIncrement").getD false
             defaultValue := text column "defaultValue"
             comment := text column "comment" } :: others)

/-- The saved table with an id. -/
def tableOf (before : Option DiagramBody) (id : Text) : Option DiagramTable :=
  before.bind fun body => body.tables.find? fun t => t.id = id

/-- One table of the proposal; a colour and a comment it does not mention are the saved ones. -/
def parseTable (outside : Outside) (ids : List Text) (before : Option DiagramBody) (raw : Json) :
    Except AppError DiagramTable := do
  let tableName ← required raw "name" "Every table".toList
  let schema := text raw "schema"
  let columnsRaw ← list raw "columns" (tableWhat tableName) 1 maxColumns
  let id := tableId outside ids schema tableName
  let columns ← parseColumns outside tableName [] columnsRaw
  let earlier := tableOf before id
  let given ← colorOf outside raw (tableWhat tableName)
  .ok { id := id
        name := tableName
        schema := schema
        columns := columns
        color := given.or (earlier.bind DiagramTable.color)
        comment := (text raw "comment").or (earlier.bind fun t => t.comment) }

def parseTables (outside : Outside) (before : Option DiagramBody) :
    List Text → List Json → Except AppError (List DiagramTable)
  | _, [] => .ok []
  | ids, raw :: rest => do
    let table ← parseTable outside ids before raw
    let others ← parseTables outside before (table.id :: ids) rest
    .ok (table :: others)

end Tables

section Relations

/-- Which table a relation's text names: `schema.table` exactly, else a bare name that only one
table has. -/
def findTable (outside : Outside) (tables : List DiagramTable) (reference : Text) :
    Except AppError DiagramTable :=
  let wanted := outside.toLowercase (trim reference)
  match tables.find? fun t => outside.toLowercase (keyOf t.schema t.name) = wanted with
  | some exact => .ok exact
  | none =>
    match tables.filter fun t => outside.toLowercase t.name = wanted with
    | [only] => .ok only
    | [] => refuse ("A relation names the table \"".toList ++ reference ++
        "\", which is not in the diagram.".toList)
    | _ => refuse ("A relation names \"".toList ++ reference ++
        "\", which exists in several schemas. Write it as schema.table.".toList)

/-- A column's exact spelling in a table, ignoring case. -/
def findColumn (table : DiagramTable) (column : Text) : Except AppError Text :=
  match (table.columns.map DiagramColumn.name).find? fun name =>
      toAsciiLowercase name = toAsciiLowercase (trim column) with
  | some name => .ok name
  | none => refuse ("A relation names the column \"".toList ++ table.name ++ '.' :: column ++
      "\", which the table does not have.".toList)

def action (outside : Outside) (raw : Json) (key : String) (what : Text) :
    Except AppError (Option ReferentialAction) :=
  match text raw key with
  | none => .ok none
  | some word =>
    let normal := (outside.toLowercase word).map fun c => if c = ' ' ∨ c = '-' then '_' else c
    match actions.find? fun known => known.1.toList = normal with
    | some known => .ok (some known.2)
    | none => refuse (what ++ ": \"".toList ++ word ++
        "\" is not a referential action. Use ".toList ++
        (", ".intercalate (actions.map Prod.fst)).toList ++ ".".toList)

/-- The first pair of columns of a relation or one of the others. -/
def parsePair (first second : DiagramTable) (what : Text) (item : Json) :
    Except AppError (Text × Text) := do
  let fromColumn ← (required item "fromColumn" what).bind (findColumn first)
  let toColumn ← (required item "toColumn" what).bind (findColumn second)
  .ok (fromColumn, toColumn)

def parsePairs (first second : DiagramTable) (what : Text) :
    List Json → Except AppError (List (Text × Text))
  | [] => .ok []
  | item :: rest => do
    let pair ← parsePair first second what item
    let others ← parsePairs first second what rest
    .ok (pair :: others)

/-- The same first pair of columns of the same tables. -/
def sameKey (first second : DiagramRelation) : Bool :=
  first.fromTable == second.fromTable && first.toTable == second.toTable &&
    first.fromColumn == second.fromColumn && first.toColumn == second.toColumn

/-- The same foreign key as before keeps the look the user gave its line. -/
def keepLook (relation : DiagramRelation) : Option DiagramRelation → DiagramRelation
  | none => relation
  | some old =>
    { relation with
      id := old.id
      color := old.color
      width := old.width
      fromSide := old.fromSide
      toSide := old.toSide
      waypoints := old.waypoints
      name := relation.name.or old.name
      onDelete := relation.onDelete.or old.onDelete
      onUpdate := relation.onUpdate.or old.onUpdate }

def relationOf (before : Option DiagramBody) (relation : DiagramRelation) :
    Option DiagramRelation :=
  before.bind fun body => body.relations.find? fun r => sameKey r relation

def parseRelation (outside : Outside) (tables : List DiagramTable) (before : Option DiagramBody)
    (out : List DiagramRelation) (item : Json) : Except AppError DiagramRelation := do
  let first ← (required item "fromTable" "Every relation".toList).bind (findTable outside tables)
  let second ← (required item "toTable" "Every relation".toList).bind (findTable outside tables)
  let what := "Relation ".toList ++ first.name ++ " → ".toList ++ second.name
  let pair ← parsePair first second what item
  let extraColumns ← parsePairs first second what
    (((item.get "extraColumns").bind Json.asArray).getD [])
  if out.any fun r => r.fromTable == first.id && r.toTable == second.id &&
      r.fromColumn == pair.1 && r.toColumn == pair.2 then
    refuse (what ++ " (".toList ++ pair.1 ++ " → ".toList ++ pair.2 ++
      ") is listed twice.".toList)
  else do
    let onDelete ← action outside item "onDelete" what
    let onUpdate ← action outside item "onUpdate" what
    let relation : DiagramRelation :=
      { id := outside.freshId "rel" out.length
        fromTable := first.id
        fromColumn := pair.1
        toTable := second.id
        toColumn := pair.2
        extraColumns := extraColumns
        name := (text item "name").map fun n => n.take Workflows.Proposal.maxName
        onDelete := onDelete
        onUpdate := onUpdate }
    .ok (keepLook relation (relationOf before relation))

def relationsLoop (outside : Outside) (tables : List DiagramTable) (before : Option DiagramBody) :
    List DiagramRelation → List Json → Except AppError (List DiagramRelation)
  | out, [] => .ok out
  | out, item :: rest => do
    let relation ← parseRelation outside tables before out item
    relationsLoop outside tables before (out ++ [relation]) rest

def parseRelations (outside : Outside) (args : Json) (tables : List DiagramTable)
    (before : Option DiagramBody) : Except AppError (List DiagramRelation) :=
  match (args.get "relations").bind Json.asArray with
  | none => .ok []
  | some items =>
    if maxRelations < items.length then
      refuse ("A diagram may have at most ".toList ++ decimal maxRelations ++
        " relations.".toList)
    else relationsLoop outside tables before [] items

end Relations

section Layout

/- Card geometry. Every amount is whole and small, so the arithmetic of doubles is exact on it. -/

def tableWidth : Nat := 260

def columnGap : Nat := 110

def cardGap : Nat := 56

def origin : Nat := 60

/-- A stack of cards taller than this continues in the next column. -/
def maxStackHeight : Nat := 1400

def noteHeight : Nat := 120

def cardHeight (columns : Nat) : Nat :=
  if columns = 0 then 30 + 24 + 2 else 30 + columns * 22 + 2

/-- The tables that each table references, by their places, without itself. -/
def referencesOf (count : Nat) (links : List (Nat × Nat)) : List (List Nat) :=
  links.foldl (fun references link =>
    if link.1 ≠ link.2 ∧ link.1 < count ∧ link.2 < count ∧
        link.2 ∉ (references[link.1]?).getD [] then
      references.set link.1 ((references[link.1]?).getD [] ++ [link.2])
    else references) (List.replicate count [])

/-- The depth of a table and all depths known after it; a loop is cut where it closes. A trail
holds no table twice, so as many turns as there are tables and one more are enough. -/
def visit (references : List (List Nat)) :
    Nat → Nat → List (Option Nat) → List Nat → Nat × List (Option Nat)
  | 0, _, depth, _ => (0, depth)
  | turns + 1, index, depth, trail =>
    match (depth[index]?).join with
    | some known => (known, depth)
    | none =>
      if index ∈ trail then (0, depth)
      else
        let found := ((references[index]?).getD []).foldl
          (fun (deepest : Nat × List (Option Nat)) other =>
            let below := visit references turns other deepest.2 (index :: trail)
            (max deepest.1 (below.1 + 1), below.2)) (0, depth)
        (found.1, found.2.set index (some found.1))

def depthsLoop (references : List (List Nat)) (count : Nat) :
    List (Option Nat) → List Nat → List Nat
  | _, [] => []
  | depth, index :: rest =>
    let found := visit references (count + 1) index depth []
    found.1 :: depthsLoop references count found.2 rest

/-- How many references deep each table sits. -/
def depths (count : Nat) (links : List (Nat × Nat)) : List Nat :=
  depthsLoop (referencesOf count links) count (List.replicate count none) (List.range count)

/-- Where the next card goes, and the cards placed so far. -/
structure Stack where
  column : Nat
  y : Nat
  started : Bool
  spots : List (Nat × Nat)

def Stack.place (columnsPerCard : List Nat) (stack : Stack) (index : Nat) : Stack :=
  let height := cardHeight ((columnsPerCard[index]?).getD 0)
  let full := stack.started && decide (origin + maxStackHeight < stack.y + height)
  let column := if full then stack.column + 1 else stack.column
  let y := if full then origin else stack.y
  { column := column
    y := y + height + cardGap
    started := true
    spots := stack.spots.set index (origin + column * (tableWidth + columnGap), y) }

/-- One column of cards for a level, or more where it grows too tall. -/
def Stack.placeLevel (columnsPerCard depth : List Nat) (stack : Stack) (level : Nat) : Stack :=
  let level_cards := (List.range depth.length).filter fun index => depth[index]? = some level
  let placed := level_cards.foldl (Stack.place columnsPerCard)
    { stack with y := origin, started := false }
  if placed.started then { placed with column := placed.column + 1 } else placed

/-- A position for every card: columns by reference depth. -/
def layout (columnsPerCard : List Nat) (links : List (Nat × Nat)) : List (Nat × Nat) :=
  let depth := depths columnsPerCard.length links
  let deepest := depth.foldl max 0
  let first : Stack := ⟨0, origin, false, columnsPerCard.map fun _ => (origin, origin)⟩
  ((List.range (deepest + 1)).foldl (Stack.placeLevel columnsPerCard depth) first).spots

def placeAt (table : DiagramTable) (x y : F64) : DiagramTable := { table with x := x, y := y }

/-- Where a saved table was. -/
def placeAsBefore (before : Option DiagramBody) (table : DiagramTable) : DiagramTable :=
  match tableOf before table.id with
  | some earlier => placeAt table earlier.x earlier.y
  | none => table

/-- Where the tables were, when the edit only touched tables that already existed, otherwise a
fresh layout of all. -/
def arrange (tables : List DiagramTable) (relations : List DiagramRelation)
    (before : Option DiagramBody) : List DiagramTable :=
  if before.isSome && tables.all fun table => (tableOf before table.id).isSome then
    tables.map (placeAsBefore before)
  else
    let index (id : Text) : Option Nat := tables.findIdx? fun table => table.id = id
    let links := relations.filterMap fun r =>
      (index r.fromTable).bind fun first => (index r.toTable).map fun second => (first, second)
    let spots := layout (tables.map fun table => table.columns.length) links
    List.zipWith (fun table (spot : Nat × Nat) =>
      placeAt table (F64.ofInt spot.1) (F64.ofInt spot.2)) tables spots

end Layout

section Notes

/-- `f64::max`. -/
def larger (first second : F64) : F64 :=
  if first.isNan then second else if first.partialCmp second = some .lt then second else first

/-- `f64::min`. -/
def smaller (first second : F64) : F64 :=
  if first.isNan then second else if first.partialCmp second = some .gt then second else first

/-- `f64::MAX`. -/
def highest : F64 := ⟨false, ⟨F64.infinity - 1, by decide⟩⟩

/-- JSON has no place for a number that is not finite. -/
def notesLoop (outside : Outside) (right top : F64) :
    Nat → List Json → Except AppError (List DiagramNote)
  | _, [] => .ok []
  | index, item :: rest => do
    let body ← required item "text" "Every note".toList
    let color ← colorOf outside item "A note".toList
    let y := top.add (F64.ofInt (index * (noteHeight + 24)))
    if right.isFinite && y.isFinite then do
      let others ← notesLoop outside right top (index + 1) rest
      .ok ({ id := outside.freshId "note" index
             x := right
             y := y
             text := body
             color := color } :: others)
    else refuse "A note is not valid: invalid type: null, expected f64".toList

/-- Notes sit in a column to the right of the tables, top to bottom. -/
def parseNotes (outside : Outside) (args : Json) (tables : List DiagramTable) :
    Except AppError (List DiagramNote) :=
  match (args.get "notes").bind Json.asArray with
  | none => .ok []
  | some items =>
    if maxNotes < items.length then
      refuse ("A diagram may have at most ".toList ++ decimal maxNotes ++ " notes.".toList)
    else
      let right := (((tables.map DiagramTable.x).foldl larger (F64.ofInt origin)).add
        (F64.ofInt tableWidth)).add (F64.ofInt columnGap)
      let top := smaller ((tables.map DiagramTable.y).foldl smaller highest) (F64.ofInt origin)
      notesLoop outside right top 0 items

end Notes

section Parsing

/-- A validated proposal. The sentences for the approval prompt are left out. -/
structure Draft where
  name : Text
  body : DiagramBody

/-- The notes of the proposal, which replace the saved ones when it gives any. -/
def notesOf (outside : Outside) (args : Json) (tables : List DiagramTable)
    (before : Option DiagramBody) : Except AppError (List DiagramNote) :=
  match args.get "notes" with
  | some _ => parseNotes outside args tables
  | none => .ok ((before.map DiagramBody.notes).getD [])

/-- A diagram proposal as a validated body, laid out in columns. -/
def parse (outside : Outside) (args : Json) (before : Option DiagramBody) :
    Except AppError Draft := do
  let name ← cleanName args "A diagram".toList
  let rawTables ← list args "tables" "A diagram".toList 1 maxTables
  let parsed ← parseTables outside before [] rawTables
  let relations ← parseRelations outside args parsed before
  let tables := arrange parsed relations before
  let notes ← notesOf outside args tables before
  .ok ⟨name, {
    tables := tables
    relations := relations
    notes := notes
    gridSize := before.bind DiagramBody.gridSize
    notesVisible := before.bind DiagramBody.notesVisible }⟩

end Parsing

end DbFree.DiagramProposal
