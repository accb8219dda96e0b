import DbFree.Csv
import DbFree.FolderExport

/- CSV files: how an export writes them (services/export.rs) and an import reads them
(services/transfer.rs). -/
namespace DbFree.Export

open Texts SqlText

/-- A cell as plain text: what CSV, TSV and Markdown write. -/
def cellText (crates : Crates) : Value → Text
  | .null => []
  | .bool value => if value then "true".toList else "false".toList
  | .int number => integer number
  | .float number => number.display
  | .decimal text | .text text | .bytes text | .dateTime text | .unsupported text => text
  | .json document => crates.jsonText document

def isFormula (text : Text) : Bool :=
  text.head?.any fun c => c == '=' || c == '+' || c == '-' || c == '@' || c == '\t' || c == '\r'

def delimitedField (text : Text) (delimiter : Char) (forceQuote : Bool) : Text :=
  if forceQuote || text.contains delimiter ||
      text.any fun c => c == '"' || c == '\n' || c == '\r' then
    '"' :: replaceChar text '"' ['"', '"'] ++ ['"']
  else text

structure ExportOptions where
  format : ExportFormat
  header : Bool
  delimiter : Text
  nullText : Text
  bom : Bool
  quoteFormulas : Bool

/-- One CSV or TSV cell. With an empty NULL text the empty string is written in quotes; only
text is checked for formulas. -/
def delimitedCell (crates : Crates) (delimiter : Char) (options : ExportOptions) : Value → Text
  | .null => delimitedField options.nullText delimiter false
  | .text text =>
    if text.isEmpty && options.nullText.isEmpty then ['"', '"']
    else if options.quoteFormulas && isFormula text then
      delimitedField ('\'' :: text) delimiter true
    else delimitedField text delimiter false
  | other => delimitedField (cellText crates other) delimiter false

def ExportOptions.separator (options : ExportOptions) : Char :=
  match options.format with
  | .tsv => '\t'
  | _ => options.delimiter.head?.getD ','

/-- The row writer's `begin`, for a delimited file. -/
def beginRows (options : ExportOptions) (columns : List Text) : Text :=
  if options.header then
    join [options.separator] (columns.map (delimitedField · options.separator false)) ++ ['\n']
  else []

/-- A row laid out under the columns; what it lacks is NULL. -/
def cells (columns : List Text) (row : List Value) : List Value :=
  (List.range columns.length).map fun i => row[i]?.getD .null

def writeRows (crates : Crates) (options : ExportOptions) (columns : List Text)
    (rows : List (List Value)) : Text :=
  rows.flatMap fun row =>
    join [options.separator]
      ((cells columns row).map (delimitedCell crates options.separator options)) ++ ['\n']

def byteOrderMark : Char := '\uFEFF'

/-- The file of a delimited export. -/
def csvFile (crates : Crates) (options : ExportOptions) (columns : List Text)
    (rows : List (List Value)) : Text :=
  (if options.bom then [byteOrderMark] else []) ++ beginRows options columns ++
    writeRows crates options columns rows

end DbFree.Export

namespace DbFree.Transfer

open Texts

structure CsvImportOptions where
  delimiter : Text
  quote : Text
  /-- The first row names the columns. -/
  header : Bool
  nullText : Text

/-- The delimiter or the quote as the one byte the reader wants. -/
def oneByte (text : Text) (what : String) : Except AppError Char :=
  match text with
  | [c] => if c.toNat < 128 then .ok c else refused
  | _ => refused
where
  refused : Except AppError Char := .error (.invalidInput
    ("The ".toList ++ what.toList ++ " must be a single ASCII character.".toList))

/-- The records of a file; a byte-order mark in front is passed over. -/
def csvReader (file : Text) (options : CsvImportOptions) :
    Except AppError (List (List Text)) :=
  match oneByte options.delimiter "delimiter" with
  | .error error => .error error
  | .ok delimiter =>
    match oneByte options.quote "quote character" with
    | .error error => .error error
    | .ok quote =>
      let input := if file.head? = some Export.byteOrderMark then file.tail else file
      .ok (Csv.read ⟨delimiter, quote⟩ input)

/-- A record as cells; a cell equal to the NULL text is none. -/
def recordCells (record : List Text) (nullText : Text) : List (Option Text) :=
  record.map fun text => if text = nullText then none else some text

/-- Names for a file without a header row. -/
def syntheticHeaders (width : Nat) : List Text :=
  (List.range width).map fun i => "Column ".toList ++ decimal (i + 1)

structure ImportSource where
  headers : List Text
  nullText : Text
  /-- A first row read to learn the width of a headerless file, not yet handed out. -/
  pending : Option (List (Option Text))
  records : List (List Text)

def cellValue (cell : Option Text) : Value := cell.elim .null .text

namespace ImportSource

/-- The source of a CSV file's rows; no data row is handed out yet. -/
def openCsv (file : Text) (options : CsvImportOptions) : Except AppError ImportSource :=
  match csvReader file options with
  | .error error => .error error
  | .ok [] => .error (.invalidInput "The file is empty.".toList)
  | .ok (record :: records) =>
    let first := recordCells record []
    if options.header then
      .ok ⟨first.map (·.getD []), options.nullText, none, records⟩
    else
      .ok ⟨syntheticHeaders first.length, options.nullText,
        some (recordCells record options.nullText), records⟩

/-- A record laid out under the headers. -/
def layOut (source : ImportSource) (record : List Text) : List Value :=
  let found := recordCells record source.nullText
  (List.range source.headers.length).map fun i => cellValue (found[i]?.join)

/-- Up to `max` rows, and the source behind them. -/
def nextRows (source : ImportSource) (max : Nat) : List (List Value) × ImportSource :=
  let first := source.pending.toList.map (·.map cellValue)
  let room := max - first.length
  (first ++ (source.records.take room).map source.layOut,
    { source with
      pending := none
      records := source.records.drop room })

/-- The rows a source has still to hand out. -/
def rows (source : ImportSource) : List (List Value) :=
  source.pending.toList.map (·.map cellValue) ++ source.records.map source.layOut

end ImportSource

end DbFree.Transfer
