import DbFree.DashboardProposal
import DbFree.DiagramProposal

/- What an update by the assistant keeps of a saved diagram or dashboard. -/
namespace DbFree.DiagramProposal

open Texts
open Workflows.Proposal (text required cleanName list flag choice list_ok)
open Diagram (DiagramColumn)

section Tables

variable {outside : Outside} {before : Option DiagramBody}

/-- A table gets the id that its name makes when no table before it has that id. -/
theorem tableId_free {ids : List Text} {schema : Option Text} {name : Text}
    (free : slug outside (keyOf schema name) ∉ ids) :
    tableId outside ids schema name = slug outside (keyOf schema name) := by
  unfold tableId FreshNames.choose
  rw [FreshNames.seek, if_neg]
  · rfl
  · exact free

/-- What a parsed table is made of. -/
structure Parsed (outside : Outside) (ids : List Text) (before : Option DiagramBody) (raw : Json)
    (table : DiagramTable) : Prop where
  id : table.id = tableId outside ids table.schema table.name
  color : ∀ old, tableOf before table.id = some old → text raw "color" = none →
    table.color = old.color
  comment : ∀ old, tableOf before table.id = some old → text raw "comment" = none →
    table.comment = old.comment

theorem colorOf_none {raw : Json} {what : Text} {given : Option ConnectionColor}
    (silent : text raw "color" = none) (read : colorOf outside raw what = .ok given) :
    given = none := by
  unfold colorOf choice at read
  rw [silent] at read
  cases read
  rfl

theorem parseTable_parsed {ids : List Text} {raw : Json} {table : DiagramTable}
    (accepts : parseTable outside ids before raw = .ok table) :
    Parsed outside ids before raw table := by
  unfold parseTable at accepts
  obtain ⟨tableName, -, accepts⟩ := bind_ok accepts
  obtain ⟨columnsRaw, -, accepts⟩ := bind_ok accepts
  obtain ⟨columns, -, accepts⟩ := bind_ok accepts
  obtain ⟨given, read, accepts⟩ := bind_ok accepts
  cases accepts
  refine ⟨rfl, ?_, ?_⟩
  · intro old found silent
    have nothing := colorOf_none silent read
    subst nothing
    show Option.or none ((tableOf before _).bind DiagramTable.color) = old.color
    rw [found]
    rfl
  · intro old found silent
    show ((text raw "comment").or ((tableOf before _).bind fun t => t.comment)) = old.comment
    rw [silent, found]
    rfl

/-- Each table is parsed after the ids of those before it. -/
theorem parseTables_at {ids : List Text} {raws : List Json} {tables : List DiagramTable}
    (accepts : parseTables outside before ids raws = .ok tables) {place : Nat} {raw : Json}
    {table : DiagramTable} (is_raw : raws[place]? = some raw)
    (is_table : tables[place]? = some table) :
    ∃ used, (∀ id, id ∈ used ↔ id ∈ (tables.take place).map (fun t => t.id) ∨ id ∈ ids) ∧
      Parsed outside used before raw table := by
  induction raws generalizing ids tables place with
  | nil => cases is_raw
  | cons first rest hypothesis =>
    rw [parseTables] at accepts
    obtain ⟨parsed, here, accepts⟩ := bind_ok accepts
    obtain ⟨others, later, accepts⟩ := bind_ok accepts
    cases accepts
    cases place with
    | zero =>
      cases is_raw
      cases is_table
      refine ⟨ids, ?_, parseTable_parsed here⟩
      intro id
      rw [List.take_zero, List.map_nil]
      constructor
      · exact .inr
      · exact fun either => either.resolve_left List.not_mem_nil
    | succ place =>
      obtain ⟨used, members, made⟩ := hypothesis later is_raw is_table
      refine ⟨used, ?_, made⟩
      intro id
      rw [members, List.take_succ_cons, List.map_cons, List.mem_cons, List.mem_cons]
      tauto

theorem arrange_at {tables : List DiagramTable} {relations : List DiagramRelation} {place : Nat}
    {table : DiagramTable} (is_table : (arrange tables relations before)[place]? = some table) :
    ∃ parsed, tables[place]? = some parsed ∧ table = placeAt parsed table.x table.y := by
  unfold arrange at is_table
  split at is_table
  · rw [List.getElem?_map, Option.map_eq_some_iff] at is_table
    obtain ⟨parsed, here, rfl⟩ := is_table
    refine ⟨parsed, here, ?_⟩
    unfold placeAsBefore
    split
    · rfl
    · rfl
  · rw [List.getElem?_zipWith_eq_some] at is_table
    obtain ⟨parsed, spot, here, -, rfl⟩ := is_table
    exact ⟨parsed, here, rfl⟩

theorem place_length (columnsPerCard : List Nat) (cards : List Nat) (stack : Stack) :
    (cards.foldl (Stack.place columnsPerCard) stack).spots.length = stack.spots.length := by
  induction cards generalizing stack with
  | nil => rfl
  | cons card rest hypothesis =>
    rw [List.foldl_cons, hypothesis]
    exact List.length_set

theorem placeLevel_length (columnsPerCard depth levels : List Nat) (stack : Stack) :
    (levels.foldl (Stack.placeLevel columnsPerCard depth) stack).spots.length =
      stack.spots.length := by
  induction levels generalizing stack with
  | nil => rfl
  | cons level rest hypothesis =>
    rw [List.foldl_cons, hypothesis]
    unfold Stack.placeLevel
    dsimp only
    split
    · exact place_length columnsPerCard _ _
    · exact place_length columnsPerCard _ _

theorem layout_length (columnsPerCard : List Nat) (links : List (Nat × Nat)) :
    (layout columnsPerCard links).length = columnsPerCard.length := by
  unfold layout
  dsimp only
  rw [placeLevel_length, List.length_map]

theorem placed_ids {tables : List DiagramTable} {spots : List (Nat × Nat)}
    (enough : tables.length ≤ spots.length) :
    (List.zipWith (fun table (spot : Nat × Nat) =>
      placeAt table (F64.ofInt spot.1) (F64.ofInt spot.2)) tables spots).map (fun t => t.id) =
      tables.map fun t => t.id := by
  induction tables generalizing spots with
  | nil => rfl
  | cons table rest hypothesis =>
    cases spots with
    | nil => cases enough
    | cons spot others =>
      rw [List.zipWith_cons_cons, List.map_cons, List.map_cons,
        hypothesis (Nat.le_of_succ_le_succ enough)]
      rfl

theorem arrange_ids (tables : List DiagramTable) (relations : List DiagramRelation) :
    (arrange tables relations before).map (fun t => t.id) = tables.map fun t => t.id := by
  unfold arrange
  split
  · rw [List.map_map]
    apply List.map_congr_left
    intro table _
    show (placeAsBefore before table).id = table.id
    unfold placeAsBefore
    split
    · rfl
    · rfl
  · dsimp only
    apply placed_ids
    rw [layout_length, List.length_map]

/-- An edit that only touches tables that were there moves none of them. -/
theorem arrange_keeps {tables : List DiagramTable} {relations : List DiagramRelation}
    {body : DiagramBody}
    (known : ∀ table ∈ arrange tables relations (some body),
      (tableOf (some body) table.id).isSome = true)
    {table old : DiagramTable} (member : table ∈ arrange tables relations (some body))
    (found : tableOf (some body) table.id = some old) : table.x = old.x ∧ table.y = old.y := by
  have all_known : (tables.all fun t => (tableOf (some body) t.id).isSome) = true := by
    rw [List.all_eq_true]
    intro parsed inside
    have is_id : parsed.id ∈ tables.map fun t => t.id := List.mem_map_of_mem inside
    rw [← @arrange_ids (some body) tables relations] at is_id
    obtain ⟨placed, is_placed, same⟩ := List.mem_map.mp is_id
    rw [← same]
    exact known placed is_placed
  unfold arrange at member
  rw [if_pos (by rw [all_known]; rfl)] at member
  obtain ⟨parsed, -, rfl⟩ := List.mem_map.mp member
  have same_id : (placeAsBefore (some body) parsed).id = parsed.id := by
    unfold placeAsBefore
    split
    · rfl
    · rfl
  rw [same_id] at found
  rw [placeAsBefore, found]
  exact ⟨rfl, rfl⟩

end Tables

section Relations

variable {outside : Outside} {before : Option DiagramBody}

/-- The look of a relation's line, which the assistant cannot see. -/
structure SameLook (relation old : DiagramRelation) : Prop where
  id : relation.id = old.id
  color : relation.color = old.color
  width : relation.width = old.width
  sides : relation.fromSide = old.fromSide ∧ relation.toSide = old.toSide
  waypoints : relation.waypoints = old.waypoints

/-- A relation looks like the saved one between the same columns, if there is one. -/
def LooksAsBefore (before : Option DiagramBody) (relation : DiagramRelation) : Prop :=
  ∀ old, relationOf before relation = some old → SameLook relation old

theorem keepLook_looks (relation : DiagramRelation) :
    LooksAsBefore before (keepLook relation (relationOf before relation)) := by
  intro old found
  cases earlier : relationOf before relation with
  | none =>
    rw [earlier] at found
    have again : relationOf before relation = some old := found
    rw [earlier] at again
    cases again
  | some kept =>
    rw [earlier] at found
    have same_key : relationOf before (keepLook relation (some kept)) =
        relationOf before relation := rfl
    rw [same_key, earlier] at found
    cases found
    exact ⟨rfl, rfl, rfl, ⟨rfl, rfl⟩, rfl⟩

theorem parseRelation_looks {tables : List DiagramTable} {out : List DiagramRelation} {item : Json}
    {relation : DiagramRelation}
    (accepts : parseRelation outside tables before out item = .ok relation) :
    LooksAsBefore before relation := by
  unfold parseRelation at accepts
  obtain ⟨first, -, accepts⟩ := bind_ok accepts
  obtain ⟨second, -, accepts⟩ := bind_ok accepts
  obtain ⟨pair, -, accepts⟩ := bind_ok accepts
  obtain ⟨extraColumns, -, accepts⟩ := bind_ok accepts
  split at accepts
  · cases accepts
  · obtain ⟨onDelete, -, accepts⟩ := bind_ok accepts
    obtain ⟨onUpdate, -, accepts⟩ := bind_ok accepts
    cases accepts
    exact keepLook_looks _

theorem relationsLoop_looks {tables : List DiagramTable} {out relations : List DiagramRelation}
    {items : List Json} (so_far : ∀ r ∈ out, LooksAsBefore before r)
    (accepts : relationsLoop outside tables before out items = .ok relations) :
    ∀ r ∈ relations, LooksAsBefore before r := by
  induction items generalizing out with
  | nil =>
    cases accepts
    exact so_far
  | cons item rest hypothesis =>
    rw [relationsLoop] at accepts
    obtain ⟨relation, here, accepts⟩ := bind_ok accepts
    apply hypothesis _ accepts
    intro r member
    rcases List.mem_append.mp member with earlier | last
    · exact so_far r earlier
    · rw [List.mem_singleton.mp last]
      exact parseRelation_looks here

theorem parseRelations_looks {args : Json} {tables : List DiagramTable}
    {relations : List DiagramRelation}
    (accepts : parseRelations outside args tables before = .ok relations) :
    ∀ r ∈ relations, LooksAsBefore before r := by
  unfold parseRelations at accepts
  split at accepts
  · cases accepts
    intro r member
    cases member
  · split at accepts
    · cases accepts
    · apply relationsLoop_looks _ accepts
      intro r member
      cases member

end Relations

section Updates

variable {outside : Outside} {before : DiagramBody} {args : Json}

/-- The saved table of a name, with the id that its name makes. -/
def Derived (outside : Outside) (before : DiagramBody) (old : DiagramTable) : Prop :=
  tableOf (some before) (slug outside (keyOf old.schema old.name)) = some old

/-- What an update of a diagram keeps of the saved body. -/
structure Kept (outside : Outside) (before : DiagramBody) (args : Json) (body : DiagramBody) :
    Prop where
  tables : ∀ raws, (args.get "tables").bind Json.asArray = some raws →
    ∀ (place : Nat) (raw : Json) (table : DiagramTable), raws[place]? = some raw →
      body.tables[place]? = some table →
      (∀ other ∈ body.tables.take place, other.id ≠ slug outside (keyOf table.schema table.name)) →
      ∀ old, Derived outside before old → table.schema = old.schema → table.name = old.name →
        (text raw "color" = none → table.color = old.color) ∧
        (text raw "comment" = none → table.comment = old.comment) ∧
        ((∀ t ∈ body.tables, (tableOf (some before) t.id).isSome = true) →
          table.x = old.x ∧ table.y = old.y)
  relations : ∀ relation ∈ body.relations, ∀ old,
    relationOf (some before) relation = some old → SameLook relation old
  notes : args.get "notes" = none → body.notes = before.notes
  canvas : body.gridSize = before.gridSize ∧ body.notesVisible = before.notesVisible

theorem parse_keeps {draft : Draft} (accepts : parse outside args (some before) = .ok draft) :
    Kept outside before args draft.body := by
  unfold parse at accepts
  obtain ⟨name, -, accepts⟩ := bind_ok accepts
  obtain ⟨rawTables, listed, accepts⟩ := bind_ok accepts
  obtain ⟨parsed, tabled, accepts⟩ := bind_ok accepts
  obtain ⟨relations, related, accepts⟩ := bind_ok accepts
  obtain ⟨notes, noted, accepts⟩ := bind_ok accepts
  cases accepts
  refine ⟨?_, parseRelations_looks related, ?_, rfl, rfl⟩
  · intro raws is_raws place raw table is_raw is_table free old derived same_schema same_name
    rw [list_ok listed] at is_raws
    cases is_raws
    obtain ⟨first, is_first, laid_out⟩ := arrange_at is_table
    obtain ⟨used, members, made⟩ := parseTables_at tabled is_raw is_first
    have table_schema : table.schema = first.schema := by rw [laid_out, placeAt]
    have table_name : table.name = first.name := by rw [laid_out, placeAt]
    have table_color : table.color = first.color := by rw [laid_out, placeAt]
    have table_comment : table.comment = first.comment := by rw [laid_out, placeAt]
    have table_id : table.id = first.id := by rw [laid_out, placeAt]
    have unused : slug outside (keyOf first.schema first.name) ∉ used := by
      intro inside
      rcases (members _).mp inside with earlier | none_there
      · rw [List.map_take, ← @arrange_ids (some before) parsed relations, ← List.map_take,
          List.mem_map] at earlier
        obtain ⟨other, member, same⟩ := earlier
        rw [table_schema, table_name] at free
        exact free other member same
      · cases none_there
    have id_made : first.id = slug outside (keyOf old.schema old.name) := by
      rw [made.id, tableId_free unused, ← same_schema, ← same_name, table_schema, table_name]
    have found : tableOf (some before) first.id = some old := by
      rw [id_made]
      exact derived
    refine ⟨?_, ?_, ?_⟩
    · intro silent
      rw [table_color]
      exact made.color old found silent
    · intro silent
      rw [table_comment]
      exact made.comment old found silent
    · intro known
      rw [← table_id] at found
      exact arrange_keeps known (List.mem_of_getElem? is_table) found
  · intro silent
    unfold notesOf at noted
    rw [silent] at noted
    cases noted
    rfl

end Updates

end DbFree.DiagramProposal

namespace DbFree.DashboardProposal

open Workflows.Proposal (text)

/-- What an update of a dashboard keeps of the saved body. -/
structure Kept (before : DashboardBody) (args : Json) (body : DashboardBody) : Prop where
  vars : args.get "variables" = none → body.vars = before.vars
  title : text args "title" = none → body.title = before.title
  refresh : (args.get "refreshSeconds").bind asU64 = none →
    body.refreshSeconds = before.refreshSeconds

theorem parse_keeps {outside : Outside} {args : Json} {before : DashboardBody} {draft : Draft}
    (accepts : parse outside args (some before) = .ok draft) : Kept before args draft.body := by
  unfold parse at accepts
  obtain ⟨name, -, accepts⟩ := bind_ok accepts
  obtain ⟨rawWidgets, -, accepts⟩ := bind_ok accepts
  obtain ⟨declared, is_declared, accepts⟩ := bind_ok accepts
  obtain ⟨sized, -, accepts⟩ := bind_ok accepts
  cases accepts
  refine ⟨?_, ?_, ?_⟩
  · intro silent
    unfold declaredOf at is_declared
    rw [silent] at is_declared
    cases is_declared
    rfl
  · intro silent
    simp only [silent]
    rfl
  · intro silent
    simp only [silent]
    rfl

end DbFree.DashboardProposal

namespace DbFree

section Examples

open Texts

/-- The letters of ASCII. -/
def asciiDiagrams : DiagramProposal.Outside where
  toLowercase := toAsciiLowercase
  lowerChar c := [c.toLower]
  freshId kind place := kind.toList ++ '-' :: decimal place

def asciiDashboards : DashboardProposal.Outside where
  toLowercase := toAsciiLowercase
  toUppercase := toAsciiUppercase
  isDay _ := false
  freshId place := "ai-".toList ++ decimal place

def tableJson (name : String) : Json :=
  .object [("name".toList, .string name.toList), ("columns".toList, .array [.object
    [("name".toList, .string "id".toList), ("type".toList, .string "integer".toList)]])]

def diagramJson (names : List String) : Json :=
  .object [("name".toList, .string "Shop".toList), ("tables".toList, .array (names.map tableJson))]

/-- A diagram of one table, which the user moved and coloured. -/
def movedOrders : DiagramProposal.DiagramBody where
  tables := [
    { id := "orders".toList
      name := "Orders".toList
      columns := []
      x := F64.ofInt 999
      y := F64.ofInt 777
      color := some .violet }]
  relations := []
  notes := []
  gridSize := some 8
  notesVisible := none

def salesDashboard : DashboardProposal.DashboardBody where
  widgets := []
  vars := [.text "region".toList "eu".toList]
  refreshSeconds := 30
  title := some "Sales overview".toList
  layoutVersion := some 1

def dashboardJson : Json :=
  .object [("name".toList, .string "Sales".toList), ("widgets".toList, .array [.object
    [("title".toList, .string "Note".toList), ("kind".toList, .string "text".toList),
      ("text".toList, .string "Closed on Sundays".toList)]])]

theorem ok_of_toOption {α : Type} {result : Except AppError α} {value : α}
    (found : result.toOption = some value) : result = .ok value := by
  cases result with
  | error error => cases found
  | ok other =>
    cases found
    rfl

end Examples

end DbFree
