import DbFree.DiagramDdl

/- The edits of the schema designer, each from one diagram body to the next
(features/diagrams/designerModel.ts). Positions, colours and notes are left out. -/
namespace DbFree.Designer

open Diagram (DiagramColumn DiagramRelation ReferentialAction)

/-- A column with the number it got when it was made: which column it is, whatever its name. No
edit reads the number. -/
structure Column extends DiagramColumn where
  number : Nat

structure Table where
  id : Text
  name : Text
  columns : List Column
  schema : Option Text := none
  comment : Option Text := none

inductive DiagramSide where
  | top | right | bottom | left
deriving DecidableEq

structure DiagramPoint where
  x : F64
  y : F64

structure Relation extends DiagramRelation where
  id : Text
  fromSide : Option DiagramSide := none
  toSide : Option DiagramSide := none
  waypoints : List DiagramPoint := []

/-- The body of a diagram; `made` counts the columns that were ever made. -/
structure Body where
  tables : List Table
  relations : List Relation
  made : Nat

section Relations

/-- The pairs of columns a relation joins, by name. -/
def linksOf (rel : Relation) : List (Text × Text) :=
  (rel.fromColumn, rel.toColumn) :: rel.extraColumns

/-- The first pair and the extra ones; no pair at all leaves the columns blank. -/
def withLinks (rel : Relation) (links : List (Text × Text)) : Relation :=
  { rel with
    fromColumn := (links.head?.map Prod.fst).getD []
    toColumn := (links.head?.map Prod.snd).getD []
    extraColumns := links.tail }

def mapRelations (body : Body) (f : Relation → Relation) : Body :=
  { body with relations := body.relations.map f }

def setRelationLinks (body : Body) (id : Text) (links : List (Text × Text)) : Body :=
  mapRelations body fun r => if r.id = id then withLinks r links else r

def swapRelation (body : Body) (id : Text) : Body :=
  mapRelations body fun r =>
    if r.id = id then
      { withLinks r ((linksOf r).map Prod.swap) with
        fromTable := r.toTable
        toTable := r.fromTable
        fromSide := r.toSide
        toSide := r.fromSide
        waypoints := r.waypoints.reverse }
    else r

/-- The fields of a relation that an inspector changes; an absent one stays. -/
structure RelationPatch where
  name : Option (Option Text) := none
  onDelete : Option (Option ReferentialAction) := none
  onUpdate : Option (Option ReferentialAction) := none
  fromSide : Option (Option DiagramSide) := none
  toSide : Option (Option DiagramSide) := none
  waypoints : Option (List DiagramPoint) := none

def updateRelation (body : Body) (id : Text) (patch : RelationPatch) : Body :=
  mapRelations body fun r =>
    if r.id = id then
      { r with
        name := patch.name.getD r.name
        onDelete := patch.onDelete.getD r.onDelete
        onUpdate := patch.onUpdate.getD r.onUpdate
        fromSide := patch.fromSide.getD r.fromSide
        toSide := patch.toSide.getD r.toSide
        waypoints := patch.waypoints.getD r.waypoints }
    else r

def addRelation (body : Body) (relation : Relation) : Body :=
  { body with relations := body.relations ++ [relation] }

def removeRelations (body : Body) (ids : List Text) : Body :=
  { body with relations := body.relations.filter fun r => r.id ∉ ids }

end Relations

section Tables

/-- `updateTable` with what it changes of the table as a function. -/
def patchTable (body : Body) (id : Text) (patch : Table → Table) : Body :=
  { body with tables := body.tables.map fun t => if t.id = id then patch t else t }

structure TablePatch where
  name : Option Text := none
  schema : Option (Option Text) := none
  comment : Option (Option Text) := none

def updateTable (body : Body) (id : Text) (patch : TablePatch) : Body :=
  patchTable body id fun t =>
    { t with
      name := patch.name.getD t.name
      schema := patch.schema.getD t.schema
      comment := patch.comment.getD t.comment }

/-- `body.tables.find((t) => t.id === id)?.columns ?? []`. -/
def columnsOf (body : Body) (id : Text) : List Column :=
  ((body.tables.find? fun t => t.id = id).map Table.columns).getD []

def setColumns (body : Body) (id : Text) (columns : List Column) : Body :=
  patchTable body id fun t => { t with columns := columns }

/-- The fields of a column that the inspector changes beside its name. -/
structure ColumnPatch where
  dataType : Option Text := none
  primaryKey : Option Bool := none
  nullable : Option Bool := none
  unique : Option Bool := none
  autoIncrement : Option Bool := none
  defaultValue : Option (Option Text) := none
  comment : Option (Option Text) := none

def ColumnPatch.apply (patch : ColumnPatch) (c : Column) : Column :=
  { c with
    dataType := patch.dataType.getD c.dataType
    primaryKey := patch.primaryKey.getD c.primaryKey
    nullable := patch.nullable.getD c.nullable
    unique := patch.unique.getD c.unique
    autoIncrement := patch.autoIncrement.getD c.autoIncrement
    defaultValue := patch.defaultValue.getD c.defaultValue
    comment := patch.comment.getD c.comment }

/-- `updateColumn` with what it changes of the column as a function. -/
def updateColumn (body : Body) (tableId : Text) (index : Nat) (patch : Column → Column) : Body :=
  setColumns body tableId ((columnsOf body tableId).modify index patch)

/-- The pairs of a relation after a column of a table is renamed. -/
def followRename (tableId old name : Text) (rel : Relation) : Relation :=
  if rel.fromTable = tableId ∨ rel.toTable = tableId then
    withLinks rel ((linksOf rel).map fun l =>
      (if rel.fromTable = tableId ∧ l.1 = old then name else l.1,
        if rel.toTable = tableId ∧ l.2 = old then name else l.2))
  else rel

/-- Renames a column and follows it into every relation that names it. -/
def renameColumn (body : Body) (tableId : Text) (index : Nat) (name : Text) : Body :=
  let renamed := updateColumn body tableId index fun c => { c with name := name }
  match (columnsOf body tableId)[index]? with
  | none => renamed
  | some column =>
    if column.name = name then renamed
    else mapRelations renamed (followRename tableId column.name name)

def numbered (number : Nat) (column : DiagramColumn) : Column := { column with number := number }

def addColumn (body : Body) (tableId : Text) (column : DiagramColumn) : Body :=
  { setColumns body tableId (columnsOf body tableId ++ [numbered body.made column]) with
    made := body.made + 1 }

inductive Direction where
  | up | down
deriving DecidableEq

/-- `index + delta`, where that is an index. -/
def Direction.target (delta : Direction) (index : Nat) : Option Nat :=
  match delta with
  | .up => if index = 0 then none else some (index - 1)
  | .down => some (index + 1)

def moveColumn (body : Body) (tableId : Text) (index : Nat) (delta : Direction) : Body :=
  let columns := columnsOf body tableId
  match columns[index]?, delta.target index with
  | some moving, some target =>
    match columns[target]? with
    | some other => setColumns body tableId ((columns.set index other).set target moving)
    | none => body
  | _, _ => body

/-- The pairs of a relation after a column of a table is gone. -/
def followRemoval (tableId gone : Text) (rel : Relation) : Relation :=
  if rel.fromTable = tableId ∨ rel.toTable = tableId then
    withLinks rel ((linksOf rel).filter fun l =>
      ¬((rel.fromTable = tableId ∧ l.1 = gone) ∨ (rel.toTable = tableId ∧ l.2 = gone)))
  else rel

/-- Removes a column; a relation loses the pairs that used it, and stays without any. -/
def removeColumn (body : Body) (tableId : Text) (index : Nat) : Body :=
  let without := setColumns body tableId ((columnsOf body tableId).eraseIdx index)
  match (columnsOf body tableId)[index]? with
  | none => without
  | some column => mapRelations without (followRemoval tableId column.name)

def addTable (body : Body) (table : Table) : Body :=
  { body with
    tables := body.tables ++
      [{ table with
        columns := table.columns.mapIdx fun i c => numbered (body.made + i) c.toDiagramColumn }]
    made := body.made + table.columns.length }

def removeTables (body : Body) (ids : List Text) : Body :=
  { body with
    tables := body.tables.filter fun t => t.id ∉ ids
    relations := body.relations.filter fun r => r.fromTable ∉ ids ∧ r.toTable ∉ ids }

end Tables

inductive Edit where
  | renameColumn (tableId : Text) (index : Nat) (name : Text)
  | updateColumn (tableId : Text) (index : Nat) (patch : ColumnPatch)
  | addColumn (tableId : Text) (column : DiagramColumn)
  | moveColumn (tableId : Text) (index : Nat) (delta : Direction)
  | removeColumn (tableId : Text) (index : Nat)
  | updateTable (id : Text) (patch : TablePatch)
  | addTable (table : Table)
  | removeTables (ids : List Text)
  | addRelation (relation : Relation)
  | setRelationLinks (id : Text) (links : List (Text × Text))
  | swapRelation (id : Text)
  | updateRelation (id : Text) (patch : RelationPatch)
  | removeRelations (ids : List Text)

def apply (body : Body) : Edit → Body
  | .renameColumn tableId index name => renameColumn body tableId index name
  | .updateColumn tableId index patch => updateColumn body tableId index patch.apply
  | .addColumn tableId column => addColumn body tableId column
  | .moveColumn tableId index delta => moveColumn body tableId index delta
  | .removeColumn tableId index => removeColumn body tableId index
  | .updateTable id patch => updateTable body id patch
  | .addTable table => addTable body table
  | .removeTables ids => removeTables body ids
  | .addRelation relation => addRelation body relation
  | .setRelationLinks id links => setRelationLinks body id links
  | .swapRelation id => swapRelation body id
  | .updateRelation id patch => updateRelation body id patch
  | .removeRelations ids => removeRelations body ids

def run (body : Body) (edits : List Edit) : Body := edits.foldl apply body

end DbFree.Designer
