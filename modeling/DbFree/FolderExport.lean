import DbFree.Errors
import DbFree.Folders
import DbFree.SqlText

/- The export of tables to a folder, one file a table (services/export.rs). -/
namespace DbFree.Export

open Chars SqlText Folders

inductive ExportFormat where
  | csv | tsv | json | ndjson | markdown | sql
deriving DecidableEq

def ExportFormat.extension : ExportFormat → Text
  | .csv => "csv".toList
  | .tsv => "tsv".toList
  | .json => "json".toList
  | .ndjson => "ndjson".toList
  | .markdown => "md".toList
  | .sql => "sql".toList

def tableLabel (table : TableRef) : Text :=
  match table.schema with
  | some schema => if schema.isEmpty then table.name else schema ++ '.' :: table.name
  | none => table.name

def safeStem (table : TableRef) : Text :=
  let safe := (tableLabel table).map fun c =>
    if isAlphanumeric c || c == '.' || c == '_' || c == '-' then c else '_'
  let trimmed := safe.dropWhile (· == '.')
  if trimmed.isEmpty then "table".toList else trimmed

/-- The name of a table's file in the folder. -/
def folderFile (table : TableRef) (extension : Text) : Text :=
  safeStem table ++ '.' :: extension

/-- A name as the file system compares it: character by character, with or without case. -/
def fileKey (fold : Char → Text) (name : Text) : Text := name.flatMap fold

section Export

variable {Content : Type} (fold : Char → Text) (format : ExportFormat)
  (writeTable : TableRef → Except AppError Content)

/-- Each table is written to a part file, which then takes its name in the folder; the names
of the files written, up to the first table that fails. -/
def exportFolder : List TableRef → Folder Text Content →
    Except AppError (List Text) × Folder Text Content
  | [], folder => (.ok [], folder)
  | table :: rest, folder =>
    match writeTable table with
    | .error error => (.error error, folder)
    | .ok content =>
      let target := folderFile table format.extension
      match exportFolder rest (put (fileKey fold) folder target content) with
      | (.error error, last) => (.error error, last)
      | (.ok files, last) => (.ok (target :: files), last)

/-- Every table has a file of its own in a folder that was empty, and nothing else is there. -/
structure KeepsTables (tables : List TableRef) (folder : Folder Text Content) : Prop where
  distinct : (tables.map fun table => fileKey fold (folderFile table format.extension)).Nodup
  count : folder.length = tables.length
  written : ∀ table ∈ tables, ∃ content, writeTable table = .ok content ∧
    read (fileKey fold) folder (folderFile table format.extension) = some content

end Export

section

variable {Content : Type} {fold : Char → Text} {format : ExportFormat}
  {writeTable : TableRef → Except AppError Content}

theorem exportFolder_ok {tables : List TableRef} {start folder : Folder Text Content}
    {names : List Text}
    (done : exportFolder fold format writeTable tables start = (.ok names, folder)) :
    ∃ files : List (Text × Content), folder = putAll (fileKey fold) start files ∧
      files.map Prod.fst = tables.map (folderFile · format.extension) ∧
      ∀ table ∈ tables, ∃ content, writeTable table = .ok content ∧
        (folderFile table format.extension, content) ∈ files := by
  induction tables generalizing start names with
  | nil =>
    cases done
    exact ⟨[], rfl, rfl, fun table inside => by cases inside⟩
  | cons table rest hypothesis =>
    rw [exportFolder] at done
    cases written : writeTable table with
    | error error =>
      rw [written] at done
      cases done
    | ok content =>
      simp only [written] at done
      cases exported : exportFolder fold format writeTable rest (put (fileKey fold) start
          (folderFile table format.extension) content) with
      | mk answer last =>
        rw [exported] at done
        cases answer with
        | error error => cases done
        | ok others =>
          cases done
          obtain ⟨files, same, names_eq, each⟩ := hypothesis exported
          refine ⟨(folderFile table format.extension, content) :: files, same, ?_, ?_⟩
          · rw [List.map_cons, List.map_cons, names_eq]
          · intro other inside
            rcases List.mem_cons.mp inside with same_table | later
            · subst same_table
              exact ⟨content, written, List.mem_cons_self⟩
            · obtain ⟨text, other_written, there⟩ := each other later
              exact ⟨text, other_written, List.mem_cons_of_mem _ there⟩

variable (fold format) in
/-- The extension is the same for all tables, so their files differ where their stems do. -/
theorem fileKey_folderFile (tables : List TableRef) :
    (tables.map fun table => fileKey fold (folderFile table format.extension)).Nodup ↔
      (tables.map fun table => fileKey fold (safeStem table)).Nodup := by
  have keys : (tables.map fun table => fileKey fold (folderFile table format.extension)) =
      (tables.map fun table => fileKey fold (safeStem table)).map
        (· ++ fileKey fold ('.' :: format.extension)) := by
    rw [List.map_map]
    apply List.map_congr_left
    intro table _
    show (safeStem table ++ '.' :: format.extension).flatMap fold = _
    rw [List.flatMap_append]
    rfl
  rw [keys]
  exact List.nodup_map_iff fun first second => List.append_cancel_right

end

/-- No file takes the place of another exactly when the stems of the tables are distinct as
the file system compares names. -/
theorem folder_keeps_tables_iff {Content : Type} (fold : Char → Text) (format : ExportFormat)
    (writeTable : TableRef → Except AppError Content) (tables : List TableRef)
    (names : List Text) (folder : Folder Text Content)
    (done : exportFolder fold format writeTable tables [] = (.ok names, folder)) :
    KeepsTables fold format writeTable tables folder ↔
      (tables.map fun table => fileKey fold (safeStem table)).Nodup := by
  rw [← fileKey_folderFile fold format]
  obtain ⟨files, same, names_eq, each⟩ := exportFolder_ok done
  have keys : files.map (fileKey fold ·.1) =
      tables.map fun table => fileKey fold (folderFile table format.extension) := by
    have mapped := congrArg (List.map (fileKey fold)) names_eq
    rw [List.map_map, List.map_map] at mapped
    exact mapped
  have as_many : files.length = tables.length := by
    simpa using congrArg List.length names_eq
  constructor
  · intro keeps
    have all_there : (putAll (fileKey fold) [] files).length = 0 + files.length := by
      rw [← same, keeps.count, as_many, Nat.zero_add]
    rw [← keys]
    exact nodup_of_length [] files List.nodup_nil all_there
  · intro distinct
    rw [← keys] at distinct
    have all : folder = files := by
      rw [same, putAll_nodup [] files distinct, List.nil_append]
    refine ⟨keys ▸ distinct, ?_, ?_⟩
    · rw [all, as_many]
    · intro table inside
      obtain ⟨content, written, there⟩ := each table inside
      rw [all]
      exact ⟨content, written, read_of_mem distinct there⟩

section

def twoTables : List TableRef :=
  [⟨some "shop".toList, "orders".toList⟩, ⟨some "shop".toList, "users".toList⟩]

theorem twoTables_kept :
    KeepsTables (fun c => [c.toLower]) .csv (fun table => .ok table.name) twoTables
      [("shop.orders.csv".toList, "orders".toList), ("shop.users.csv".toList, "users".toList)] :=
  (folder_keeps_tables_iff (fun c => [c.toLower]) .csv (fun table => .ok table.name) twoTables
    ["shop.orders.csv".toList, "shop.users.csv".toList] _ (by decide +kernel)).mpr
    (by decide +kernel)

/-- A space and an underscore come to the same file: the second table replaces the first. -/
theorem spaced_table_replaced :
    ¬ ∀ (fold : Char → Text) (format : ExportFormat) (writeTable : TableRef → Except AppError Text)
      (tables : List TableRef) (names : List Text) (folder : Folder Text Text), tables.Nodup →
      exportFolder fold format writeTable tables [] = (.ok names, folder) →
      KeepsTables fold format writeTable tables folder := by
  intro keeps
  have kept := keeps (fun c => [c]) .csv (fun table => .ok table.name)
    [⟨none, "a b".toList⟩, ⟨none, "a_b".toList⟩] ["a_b.csv".toList, "a_b.csv".toList]
    [("a_b.csv".toList, "a_b".toList)] (by decide +kernel) (by decide +kernel)
  have two := kept.count
  cases two

end

end DbFree.Export
