import DbFree.CsvFiles

/- Which tables come back whole from the CSV file an export wrote of them. -/
namespace DbFree.Transfer

open Texts SqlText Export

variable (crates : Crates) (options : ExportOptions) (columns : List Text)
  (rows : List (List Value))

/-- The import options that match an export. -/
def importOptions : CsvImportOptions where
  delimiter := [options.separator]
  quote := ['"']
  header := options.header
  nullText := options.nullText

/-- NULL comes back as NULL and any other cell as its text, but for empty texts where the
NULL text is empty too. -/
def Kept (nullText : Text) (exported imported : Value) : Prop :=
  match exported with
  | .null => imported = .null
  | exported => imported = .text (Export.cellText crates exported) ∨
      (nullText = [] ∧ Export.cellText crates exported = [] ∧ imported = .null)

/-- The import of the exported file succeeds and hands out the exported rows. -/
def RoundTrips : Prop :=
  ∃ source, ImportSource.openCsv (csvFile crates options columns rows) (importOptions options) =
      .ok source ∧
    List.Forall₂ (fun row imported =>
      List.Forall₂ (Kept crates options.nullText) (cells columns row) imported) rows source.rows

/-- The text a reader gets for a cell. -/
def fieldText (value : Value) : Text :=
  match value with
  | .null => options.nullText
  | value => Export.cellText crates value

def headerLine : List (Text × Text) :=
  columns.map fun column => (column, delimitedField column options.separator false)

def rowLine (row : List Value) : List (Text × Text) :=
  (cells columns row).map fun value =>
    (fieldText crates options value, delimitedCell crates options.separator options value)

/-- The lines of the file: each field as a reader gets it and as it is written. -/
def fileLines : List (List (Text × Text)) :=
  (if options.header then [headerLine options columns] else []) ++
    rows.map (rowLine crates options columns)

def unmarkField (field : Text × Text) : Text × Text :=
  if field.2.head? = some byteOrderMark then (field.1.tail, field.2.tail) else field

/-- The lines behind a byte-order mark in the first field. -/
def unmark : List (List (Text × Text)) → List (List (Text × Text))
  | (field :: fields) :: lines => (unmarkField field :: fields) :: lines
  | lines => lines

/-- The lines as the import sees them, which takes a first byte-order mark away. -/
def seenLines : List (List (Text × Text)) :=
  if options.bom then fileLines crates options columns rows
  else unmark (fileLines crates options columns rows)

def csvFormat : Csv.Format := ⟨options.separator, '"'⟩

section

variable {crates options columns rows}

variable (options) in
theorem doubled_eq (text : Text) :
    Csv.doubled (csvFormat options) text = replaceChar text '"' ['"', '"'] := by
  rw [Csv.doubled, replaceChar]
  refine List.flatMap_congr fun c _ => ?_
  show (if c = '"' then [c, c] else [c]) = if c = '"' then ['"', '"'] else [c]
  split
  · rename_i quote
    rw [quote]
  · rfl

theorem field_written (text : Text) :
    Csv.Written (csvFormat options) text (delimitedField text options.separator false) := by
  rw [delimitedField]
  split
  · rw [← doubled_eq options]
    exact .quoted
  · rename_i harmless
    rw [Bool.false_or, Bool.or_eq_true, not_or, List.contains_iff_mem, List.any_eq_true] at harmless
    refine .bare fun c inside => (Csv.plain_iff c).mpr ⟨?_, ?_, ?_⟩
    · rintro rfl
      exact harmless.1 inside
    · rintro rfl
      exact harmless.2 ⟨'"', inside, rfl⟩
    · by_contra term
      rw [Bool.not_eq_false, Csv.isTerm, Bool.or_eq_true] at term
      refine harmless.2 ⟨c, inside, ?_⟩
      rcases term with cr | lf
      · rw [cr]
        simp
      · rw [lf]
        simp

variable (crates) in
theorem cell_written (formulas : options.quoteFormulas = false) (value : Value) :
    Csv.Written (csvFormat options) (fieldText crates options value)
      (delimitedCell crates options.separator options value) := by
  cases value with
  | text text =>
    rw [delimitedCell, formulas, Bool.false_and]
    split
    · rename_i empty
      rw [Bool.and_eq_true, List.isEmpty_iff, List.isEmpty_iff] at empty
      show Csv.Written _ text _
      rw [empty.1]
      exact .quoted
    · exact field_written text
  | null => exact field_written _
  | bool value => exact field_written (Export.cellText crates (.bool value))
  | int number => exact field_written (Export.cellText crates (.int number))
  | float number => exact field_written (Export.cellText crates (.float number))
  | decimal text => exact field_written (Export.cellText crates (.decimal text))
  | bytes base64 => exact field_written (Export.cellText crates (.bytes base64))
  | json document => exact field_written (Export.cellText crates (.json document))
  | dateTime text => exact field_written (Export.cellText crates (.dateTime text))
  | unsupported text => exact field_written (Export.cellText crates (.unsupported text))

theorem kept_iff (value : Value) :
    Kept crates options.nullText value (cellValue (if fieldText crates options value =
        options.nullText then none else some (fieldText crates options value))) ↔
      (value ≠ .null → Export.cellText crates value = options.nullText → options.nullText = []) := by
  by_cases null : value = .null
  · subst null
    simp [Kept, fieldText, cellValue]
  · have text_eq : fieldText crates options value = Export.cellText crates value := by
      cases value <;> first | rfl | exact absurd rfl null
    have kept_eq : ∀ imported, Kept crates options.nullText value imported ↔
        (imported = .text (Export.cellText crates value) ∨
          (options.nullText = [] ∧ Export.cellText crates value = [] ∧ imported = .null)) := by
      intro imported
      cases value <;> first | exact Iff.rfl | exact absurd rfl null
    rw [kept_eq, text_eq]
    by_cases same : Export.cellText crates value = options.nullText
    · rw [if_pos same]
      simp [cellValue, null, same]
    · rw [if_neg same]
      simp [cellValue, same]

/-- The lines as one text. -/
def fileText (options : ExportOptions) (lines : List (List (Text × Text))) : Text :=
  lines.flatMap fun fields => Csv.line (csvFormat options) (fields.map Prod.snd) ++ ['\n']

theorem csvFile_eq : csvFile crates options columns rows =
    (if options.bom then [byteOrderMark] else []) ++
      fileText options (fileLines crates options columns rows) := by
  have header : fileText options (if options.header then [headerLine options columns] else []) =
      beginRows options columns := by
    rw [beginRows]
    split
    · rw [fileText, List.flatMap_singleton, headerLine, List.map_map]
      rfl
    · rfl
  have body : fileText options (rows.map (rowLine crates options columns)) =
      writeRows crates options columns rows := by
    rw [fileText, writeRows, List.flatMap_map]
    refine List.flatMap_congr fun row _ => ?_
    rw [rowLine, List.map_map]
    rfl
  have whole : fileText options (fileLines crates options columns rows) =
      fileText options (if options.header then [headerLine options columns] else []) ++
        fileText options (rows.map (rowLine crates options columns)) := List.flatMap_append
  rw [whole, header, body, csvFile, List.append_assoc]

/-- What follows a field in its line does not begin with a byte-order mark. -/
theorem line_split (ascii : options.separator ≠ byteOrderMark) (fields : List Text) :
    ∃ after : Text, after.head? ≠ some byteOrderMark ∧ ∀ written : Text,
      Csv.line (csvFormat options) (written :: fields) ++ ['\n'] = written ++ after := by
  by_cases last : fields = []
  · refine ⟨['\n'], by decide, fun written => ?_⟩
    rw [last, Csv.line]
    simp [List.intercalate]
  · refine ⟨options.separator :: Csv.line (csvFormat options) fields ++ ['\n'], ?_, ?_⟩
    · intro same
      exact ascii (Option.some.inj same)
    · intro written
      rw [Csv.line_cons written last, List.append_assoc]
      rfl

theorem skip_mark (ascii : options.separator ≠ byteOrderMark)
    {lines : List (List (Text × Text))} (some_field : ∀ fields ∈ lines, fields ≠ []) :
    (if (fileText options lines).head? = some byteOrderMark then (fileText options lines).tail
      else fileText options lines) = fileText options (unmark lines) := by
  cases lines with
  | nil => rfl
  | cons line lines =>
    cases line with
    | nil => exact absurd rfl (some_field [] List.mem_cons_self)
    | cons field fields =>
      obtain ⟨after, unmarked, split⟩ := line_split ascii (fields.map Prod.snd)
      have text_eq : ∀ first : Text × Text, fileText options ((first :: fields) :: lines) =
          first.2 ++ (after ++ fileText options lines) := by
        intro first
        rw [fileText, List.flatMap_cons, List.map_cons, split, List.append_assoc]
        rfl
      rw [unmark, text_eq, text_eq, unmarkField]
      cases written : field.2 with
      | nil =>
        have plain : (after ++ fileText options lines).head? ≠ some byteOrderMark := by
          cases after with
          | nil =>
            have ended := split []
            rw [List.append_nil] at ended
            exact absurd ended (by simp)
          | cons c rest => exact unmarked
        rw [List.nil_append, if_neg plain]
        simp [written]
      | cons c rest =>
        by_cases mark : c = byteOrderMark
        · simp [mark]
        · simp [mark, written]

theorem tail_written {text written : Text} (stands : Csv.Written (csvFormat options) text written)
    (marked : written.head? = some byteOrderMark) :
    Csv.Written (csvFormat options) text.tail written.tail := by
  cases stands with
  | bare all => exact .bare fun c inside => all c (List.mem_of_mem_tail inside)
  | quoted => cases marked

theorem unmarkField_written {field : Text × Text}
    (stands : Csv.Written (csvFormat options) field.1 field.2) :
    Csv.Written (csvFormat options) (unmarkField field).1 (unmarkField field).2 := by
  rw [unmarkField]
  split
  · exact tail_written stands ‹_›
  · exact stands

variable (crates columns rows) in
theorem fileLines_written (formulas : options.quoteFormulas = false) :
    ∀ fields ∈ fileLines crates options columns rows, ∀ field ∈ fields,
      Csv.Written (csvFormat options) field.1 field.2 := by
  intro fields inside field there
  rcases List.mem_append.mp inside with header | body
  · split at header
    · rw [List.mem_singleton.mp header] at there
      obtain ⟨column, _, same⟩ := List.mem_map.mp there
      rw [← same]
      exact field_written column
    · cases header
  · obtain ⟨row, _, same⟩ := List.mem_map.mp body
    rw [← same] at there
    obtain ⟨value, _, field_eq⟩ := List.mem_map.mp there
    rw [← field_eq]
    exact cell_written crates formulas value

theorem unmark_written {lines : List (List (Text × Text))}
    (stand : ∀ fields ∈ lines, ∀ field ∈ fields,
      Csv.Written (csvFormat options) field.1 field.2) :
    ∀ fields ∈ unmark lines, ∀ field ∈ fields,
      Csv.Written (csvFormat options) field.1 field.2 := by
  cases lines with
  | nil => exact stand
  | cons line lines =>
    cases line with
    | nil => exact stand
    | cons first others =>
      intro fields inside field there
      rcases List.mem_cons.mp inside with same | later
      · rw [same] at there
        rcases List.mem_cons.mp there with head | tail
        · rw [head]
          exact unmarkField_written (stand _ List.mem_cons_self _ List.mem_cons_self)
        · exact stand _ List.mem_cons_self _ (List.mem_cons_of_mem _ tail)
      · exact stand _ (List.mem_cons_of_mem _ later) _ there

theorem length_unmark (lines : List (List (Text × Text))) :
    (unmark lines).map List.length = lines.map List.length := by
  cases lines with
  | nil => rfl
  | cons line lines => cases line <;> rfl

variable (crates options columns rows) in
theorem length_fileLines : ∀ count ∈ (fileLines crates options columns rows).map List.length,
    count = columns.length := by
  intro count inside
  obtain ⟨fields, there, same⟩ := List.mem_map.mp inside
  rw [← same]
  rcases List.mem_append.mp there with header | body
  · split at header
    · rw [List.mem_singleton.mp header, headerLine, List.length_map]
    · cases header
  · obtain ⟨row, _, row_eq⟩ := List.mem_map.mp body
    rw [← row_eq, rowLine, List.length_map, cells, List.length_map, List.length_range]

variable (crates options columns rows) in
theorem seenLines_length : ∀ fields ∈ seenLines crates options columns rows,
    fields.length = columns.length := by
  intro fields inside
  apply length_fileLines crates options columns rows
  rw [seenLines] at inside
  split at inside
  · exact List.mem_map.mpr ⟨fields, inside, rfl⟩
  · rw [← length_unmark]
    exact List.mem_map.mpr ⟨fields, inside, rfl⟩

/-- The delimiter is no quote and ends no line. -/
def Separates (options : ExportOptions) : Prop :=
  options.separator ≠ '"' ∧ Csv.isTerm options.separator = false

variable (crates rows) in
theorem csvReader_eq (formulas : options.quoteFormulas = false) (some_column : columns ≠ [])
    (separates : Separates options) (ascii : options.separator.toNat < 128) :
    csvReader (csvFile crates options columns rows) (importOptions options) =
      .ok (((seenLines crates options columns rows).filter fun fields =>
        Csv.line (csvFormat options) (fields.map Prod.snd) ≠ []).map (·.map Prod.fst)) := by
  have not_mark : options.separator ≠ byteOrderMark := by
    intro same
    rw [same] at ascii
    revert ascii
    decide
  have delimiter : oneByte (importOptions options).delimiter "delimiter" =
      .ok options.separator := by
    simp [oneByte, importOptions, ascii]
  have quote : oneByte (importOptions options).quote "quote character" = .ok '"' := by
    rfl
  have filled : ∀ fields ∈ seenLines crates options columns rows, fields ≠ [] := by
    intro fields inside empty
    have count := seenLines_length crates options columns rows fields inside
    rw [empty] at count
    exact some_column (List.length_eq_zero_iff.mp count.symm)
  have filled_file : ∀ fields ∈ fileLines crates options columns rows, fields ≠ [] := by
    intro fields inside empty
    have count := length_fileLines crates options columns rows _
      (List.mem_map.mpr ⟨fields, inside, rfl⟩)
    rw [empty] at count
    exact some_column (List.length_eq_zero_iff.mp count.symm)
  have format_separates : (csvFormat options).Separates := ⟨separates.1, separates.2, rfl⟩
  have stands := fileLines_written crates columns rows formulas
  have seen_stands : ∀ fields ∈ seenLines crates options columns rows, ∀ field ∈ fields,
      Csv.Written (csvFormat options) field.1 field.2 := by
    rw [seenLines]
    split
    · exact stands
    · exact unmark_written stands
  have seen : (if (csvFile crates options columns rows).head? = some byteOrderMark then
      (csvFile crates options columns rows).tail else csvFile crates options columns rows) =
      fileText options (seenLines crates options columns rows) := by
    rw [csvFile_eq, seenLines]
    cases bom : options.bom with
    | true => simp
    | false => simpa [bom] using skip_mark not_mark filled_file
  rw [csvReader, delimiter, quote]
  simp only [seen]
  exact congrArg Except.ok (Csv.read_lines format_separates seen_stands filled)

theorem layOut_eq (source : ImportSource) {record : List Text}
    (width : record.length = source.headers.length) :
    source.layOut record = (recordCells record source.nullText).map cellValue := by
  have as_many : (recordCells record source.nullText).length = source.headers.length := by
    rw [recordCells, List.length_map, width]
  rw [ImportSource.layOut, ← as_many]
  apply List.ext_getElem
  · simp
  · intro index first second
    have inside : index < (recordCells record source.nullText).length := by simpa using second
    simp [List.getElem?_eq_getElem inside]

theorem rowLine_texts (row : List Value) :
    (rowLine crates options columns row).map Prod.fst =
      (cells columns row).map (fieldText crates options) := by
  rw [rowLine, List.map_map]
  rfl

/-- What the import makes of the texts of a row. -/
def importedRow (crates : Crates) (options : ExportOptions) (columns : List Text)
    (row : List Value) : List Value :=
  (recordCells ((rowLine crates options columns row).map Prod.fst) options.nullText).map cellValue

theorem row_kept_iff (row : List Value) :
    List.Forall₂ (Kept crates options.nullText) (cells columns row)
        (importedRow crates options columns row) ↔
      ∀ value ∈ cells columns row, value ≠ .null →
        Export.cellText crates value = options.nullText → options.nullText = [] := by
  rw [importedRow, rowLine_texts, recordCells, List.map_map, List.map_map,
    List.forall₂_map_right_iff, List.forall₂_same]
  exact forall₂_congr fun value _ => kept_iff value

theorem rows_kept_iff :
    List.Forall₂ (fun row imported =>
        List.Forall₂ (Kept crates options.nullText) (cells columns row) imported) rows
        (rows.map (importedRow crates options columns)) ↔
      ∀ row ∈ rows, ∀ value ∈ cells columns row, value ≠ .null →
        Export.cellText crates value = options.nullText → options.nullText = [] := by
  rw [List.forall₂_map_right_iff, List.forall₂_same]
  exact forall₂_congr fun row _ => row_kept_iff row

variable (crates columns rows) in
theorem seenLines_header (header : options.header = true) :
    ∃ fields, fields.length = columns.length ∧ seenLines crates options columns rows =
      fields :: rows.map (rowLine crates options columns) := by
  have lines : fileLines crates options columns rows =
      headerLine options columns :: rows.map (rowLine crates options columns) := by
    rw [fileLines, if_pos header]
    rfl
  have shown : ∃ fields, seenLines crates options columns rows =
      fields :: rows.map (rowLine crates options columns) := by
    rw [seenLines, lines]
    split
    · exact ⟨_, rfl⟩
    · cases headerLine options columns with
      | nil => exact ⟨_, rfl⟩
      | cons field others => exact ⟨_, rfl⟩
  obtain ⟨fields, seen⟩ := shown
  refine ⟨fields, seenLines_length crates options columns rows fields ?_, seen⟩
  rw [seen]
  exact List.mem_cons_self

theorem seenLines_headless (header : options.header = false) :
    seenLines crates options columns rows =
      if options.bom then rows.map (rowLine crates options columns)
      else unmark (rows.map (rowLine crates options columns)) := by
  have lines : fileLines crates options columns rows =
      rows.map (rowLine crates options columns) := by
    rw [fileLines, header]
    rfl
  rw [seenLines, lines]

theorem rows_of_header {source : ImportSource} {record : List Text} {records : List (List Text)}
    (header : options.header = true) {file : Text}
    (read : csvReader file (importOptions options) = .ok (record :: records))
    (opened : ImportSource.openCsv file (importOptions options) = .ok source) :
    source.headers.length = record.length ∧ source.nullText = options.nullText ∧
      source.rows = records.map source.layOut := by
  rw [ImportSource.openCsv, read] at opened
  simp only [importOptions, header, if_true] at opened
  cases opened
  refine ⟨?_, rfl, rfl⟩
  rw [List.length_map, recordCells, List.length_map]

theorem rows_headless {source : ImportSource} {record : List Text} {records : List (List Text)}
    (header : options.header = false) {file : Text}
    (read : csvReader file (importOptions options) = .ok (record :: records))
    (opened : ImportSource.openCsv file (importOptions options) = .ok source) :
    source.headers.length = record.length ∧ source.nullText = options.nullText ∧
      source.rows = (recordCells record options.nullText).map cellValue ::
        records.map source.layOut := by
  rw [ImportSource.openCsv, read] at opened
  simp only [importOptions, header] at opened
  cases opened
  refine ⟨?_, rfl, rfl⟩
  simp [syntheticHeaders, recordCells]

theorem opens {record : List Text} {records : List (List Text)} {file : Text}
    {settings : CsvImportOptions} (read : csvReader file settings = .ok (record :: records)) :
    ∃ source, ImportSource.openCsv file settings = .ok source := by
  rw [ImportSource.openCsv, read]
  dsimp only
  split
  · exact ⟨_, rfl⟩
  · exact ⟨_, rfl⟩

theorem layOut_rows {source : ImportSource} (width : source.headers.length = columns.length)
    (null : source.nullText = options.nullText) (some_rows : List (List Value)) :
    ((some_rows.map (rowLine crates options columns)).map (·.map Prod.fst)).map source.layOut =
      some_rows.map (importedRow crates options columns) := by
  rw [List.map_map, List.map_map]
  refine List.map_congr_left fun row _ => ?_
  show source.layOut ((rowLine crates options columns row).map Prod.fst) = _
  rw [layOut_eq, importedRow, null]
  rw [width, rowLine]
  simp [cells]

theorem ascii_of_opens {file : Text} {source : ImportSource}
    (opened : ImportSource.openCsv file (importOptions options) = .ok source) :
    options.separator.toNat < 128 := by
  by_contra wide
  have refused : oneByte (importOptions options).delimiter "delimiter" =
      oneByte.refused "delimiter" := by
    simp [oneByte, importOptions, wide]
  rw [ImportSource.openCsv, csvReader, refused] at opened
  cases opened

/-- A first cell that begins with a byte-order mark loses it. -/
theorem marked_lost (formulas : options.quoteFormulas = false) {value imported : Value}
    (marked : (delimitedCell crates options.separator options value).head? = some byteOrderMark)
    (read : imported = cellValue (if (fieldText crates options value).tail = options.nullText
      then none else some (fieldText crates options value).tail)) :
    ¬ Kept crates options.nullText value imported := by
  have stands := cell_written crates formulas value
  have starts : ∃ rest, fieldText crates options value = byteOrderMark :: rest := by
    generalize fieldText crates options value = text at stands
    generalize delimitedCell crates options.separator options value = written at stands marked
    cases stands with
    | bare all =>
      cases text with
      | nil => cases marked
      | cons c rest => exact ⟨rest, by rw [Option.some.inj marked]⟩
    | quoted => cases marked
  obtain ⟨rest, text_eq⟩ := starts
  rw [text_eq, List.tail_cons] at read
  intro kept
  by_cases null : value = .null
  · subst null
    change options.nullText = byteOrderMark :: rest at text_eq
    rw [text_eq, if_neg (List.ne_cons_self)] at read
    rw [read] at kept
    cases kept
  · have cell_eq : Export.cellText crates value = byteOrderMark :: rest := by
      rw [← text_eq]
      cases value <;> first | rfl | exact absurd rfl null
    have either : imported = .text (byteOrderMark :: rest) ∨
        (options.nullText = [] ∧ byteOrderMark :: rest = [] ∧ imported = .null) := by
      rw [← cell_eq]
      cases value <;> first | exact kept | exact absurd rfl null
    rcases either with text | ⟨_, empty, _⟩
    · rw [read] at text
      split at text
      · cases text
      · exact List.ne_cons_self (Value.text.inj text)
    · cases empty

theorem unmark_unmarked {row : List Value} {more : List (List Value)}
    (plain : ∀ field ∈ (rowLine crates options columns row).head?,
      field.2.head? ≠ some byteOrderMark) :
    unmark ((row :: more).map (rowLine crates options columns)) =
      (row :: more).map (rowLine crates options columns) := by
  rw [List.map_cons]
  cases line : rowLine crates options columns row with
  | nil => rfl
  | cons field fields =>
    rw [line] at plain
    rw [unmark, unmarkField, if_neg (plain field rfl)]

end

/-- What a table and the options of its export must be like to come back whole. -/
structure Survives : Prop where
  ascii : options.separator.toNat < 128
  /-- No line of the file is blank. -/
  visible : ∀ fields ∈ seenLines crates options columns rows,
    Csv.line (csvFormat options) (fields.map Prod.snd) ≠ []
  /-- A file without a header has a row, and a byte-order mark of its own if that begins
  with one. -/
  headed : options.header = false → ∃ row more, rows = row :: more ∧ (options.bom = true ∨
    ∀ field ∈ (rowLine crates options columns row).head?, field.2.head? ≠ some byteOrderMark)
  /-- No cell but NULL has the NULL text. -/
  told : ∀ row ∈ rows, ∀ value ∈ cells columns row, value ≠ .null →
    Export.cellText crates value = options.nullText → options.nullText = []

section

variable {crates options columns rows}

theorem round_trips_of_survives (formulas : options.quoteFormulas = false)
    (some_column : columns ≠ []) (separates : Separates options)
    (survives : Survives crates options columns rows) :
    RoundTrips crates options columns rows := by
  have read := csvReader_eq crates rows formulas some_column separates
    survives.ascii
  have all : (seenLines crates options columns rows).filter (fun fields =>
      Csv.line (csvFormat options) (fields.map Prod.snd) ≠ []) =
      seenLines crates options columns rows :=
    List.filter_eq_self.mpr fun fields inside => decide_eq_true (survives.visible fields inside)
  rw [all] at read
  cases header : options.header with
  | true =>
    obtain ⟨fields, width, seen⟩ := seenLines_header crates columns rows header
    rw [seen, List.map_cons] at read
    obtain ⟨source, opened⟩ := opens read
    obtain ⟨headers, null, handed⟩ := rows_of_header header read opened
    rw [List.length_map, width] at headers
    rw [layOut_rows headers null] at handed
    refine ⟨source, opened, ?_⟩
    rw [handed]
    exact rows_kept_iff.mpr survives.told
  | false =>
    obtain ⟨row, more, rows_eq, unmarked⟩ := survives.headed header
    subst rows_eq
    have seen : seenLines crates options columns (row :: more) =
        (row :: more).map (rowLine crates options columns) := by
      rw [seenLines_headless header]
      split
      · rfl
      · rename_i bom
        exact unmark_unmarked (unmarked.resolve_left bom)
    rw [seen, List.map_cons, List.map_cons] at read
    obtain ⟨source, opened⟩ := opens read
    obtain ⟨headers, null, handed⟩ := rows_headless header read opened
    have width : source.headers.length = columns.length := by
      rw [headers, rowLine]
      simp [cells]
    rw [layOut_rows width null] at handed
    refine ⟨source, opened, ?_⟩
    rw [handed]
    exact rows_kept_iff.mpr survives.told

theorem visible_of_length {lines : List (List (Text × Text))}
    (count : (lines.filter fun fields =>
      Csv.line (csvFormat options) (fields.map Prod.snd) ≠ []).length = lines.length) :
    ∀ fields ∈ lines, Csv.line (csvFormat options) (fields.map Prod.snd) ≠ [] := by
  intro fields inside
  exact of_decide_eq_true (List.length_filter_eq_length_iff.mp count fields inside)

theorem first_cell_lost (formulas : options.quoteFormulas = false)
    (header : options.header = false) {row : List Value} {more imported : List (List Value)}
    {line : List (Text × Text)} {lines : List (List (Text × Text))}
    (mark : ¬ options.bom = true)
    (marked : ¬ ∀ field ∈ (rowLine crates options columns row).head?,
      field.2.head? ≠ some byteOrderMark)
    (seen : seenLines crates options columns (row :: more) = line :: lines)
    (kept : List.Forall₂ (fun row imported =>
        List.Forall₂ (Kept crates options.nullText) (cells columns row) imported) (row :: more)
      ((recordCells (line.map Prod.fst) options.nullText).map cellValue :: imported)) : False := by
  rw [seenLines_headless header, if_neg mark, List.map_cons] at seen
  have first := (List.forall₂_cons.mp kept).1
  rw [rowLine] at seen marked
  cases values : cells columns row with
  | nil =>
    rw [values] at marked
    exact marked fun field inside => by cases inside
  | cons value others =>
    rw [values, List.map_cons] at seen marked
    have marked_field : (delimitedCell crates options.separator options value).head? =
        some byteOrderMark := by
      by_contra plain
      refine marked fun field inside => ?_
      rw [List.head?_cons, Option.mem_some] at inside
      rw [← inside]
      exact plain
    rw [unmark, unmarkField, if_pos marked_field] at seen
    rw [← (List.cons.inj seen).1, values, recordCells] at first
    exact marked_lost formulas marked_field rfl (List.forall₂_cons.mp first).1

theorem survives_of_round_trips (formulas : options.quoteFormulas = false)
    (some_column : columns ≠ []) (separates : Separates options)
    (returns : RoundTrips crates options columns rows) :
    Survives crates options columns rows := by
  obtain ⟨source, opened, kept⟩ := returns
  have ascii := ascii_of_opens opened
  have read := csvReader_eq crates rows formulas some_column separates ascii
  have as_many := kept.length_eq
  generalize filtered : (seenLines crates options columns rows).filter (fun fields =>
      Csv.line (csvFormat options) (fields.map Prod.snd) ≠ []) = lines at read
  cases lines with
  | nil =>
    rw [ImportSource.openCsv, read] at opened
    cases opened
  | cons line lines =>
    rw [List.map_cons] at read
    cases header : options.header with
    | true =>
      obtain ⟨fields, width, seen⟩ := seenLines_header crates columns rows header
      obtain ⟨headers, null, handed⟩ := rows_of_header header read opened
      have count : ((seenLines crates options columns rows).filter fun fields =>
          Csv.line (csvFormat options) (fields.map Prod.snd) ≠ []).length =
          (seenLines crates options columns rows).length := by
        rw [filtered, seen, List.length_cons, List.length_cons, List.length_map, as_many, handed,
          List.length_map, List.length_map]
      have visible := visible_of_length count
      have whole := List.length_filter_eq_length_iff.mp count
      rw [List.filter_eq_self.mpr whole, seen] at filtered
      obtain ⟨same, same_rows⟩ := List.cons.inj filtered
      rw [← same_rows, layOut_rows (by rw [headers, ← same, List.length_map, width]) null]
        at handed
      rw [handed] at kept
      refine ⟨ascii, visible, fun headless => ?_, rows_kept_iff.mp kept⟩
      rw [header] at headless
      cases headless
    | false =>
      obtain ⟨headers, null, handed⟩ := rows_headless header read opened
      have lines_count : (seenLines crates options columns rows).length = rows.length := by
        rw [seenLines_headless header]
        split
        · rw [List.length_map]
        · have counts := congrArg List.length
            (length_unmark (rows.map (rowLine crates options columns)))
          rwa [List.length_map, List.length_map, List.length_map] at counts
      have count : ((seenLines crates options columns rows).filter fun fields =>
          Csv.line (csvFormat options) (fields.map Prod.snd) ≠ []).length =
          (seenLines crates options columns rows).length := by
        rw [filtered, lines_count, as_many, handed, List.length_cons, List.length_cons,
          List.length_map, List.length_map]
      have visible := visible_of_length count
      have whole := List.length_filter_eq_length_iff.mp count
      rw [List.filter_eq_self.mpr whole] at filtered
      have width : source.headers.length = columns.length := by
        rw [headers, List.length_map]
        exact seenLines_length crates options columns rows line (by rw [filtered]; simp)
      cases rows with
      | nil =>
        rw [filtered] at lines_count
        cases lines_count
      | cons row more =>
        have plain : options.bom = true ∨ ∀ field ∈
            (rowLine crates options columns row).head?, field.2.head? ≠ some byteOrderMark := by
          by_contra marked
          rw [not_or] at marked
          exact first_cell_lost formulas header marked.1 marked.2 filtered (handed ▸ kept)
        have seen : seenLines crates options columns (row :: more) =
            (row :: more).map (rowLine crates options columns) := by
          rw [seenLines_headless header]
          split
          · rfl
          · rename_i bom
            exact unmark_unmarked (plain.resolve_left bom)
        rw [seen, List.map_cons] at filtered
        obtain ⟨same, same_rows⟩ := List.cons.inj filtered
        rw [← same_rows, layOut_rows width null, ← same] at handed
        rw [handed] at kept
        exact ⟨ascii, visible, fun _ => ⟨row, more, rfl, plain⟩, rows_kept_iff.mp kept⟩

end

section

def noCrates : Crates := ⟨fun _ => [], fun _ => [], fun _ => none, id⟩

def commaOptions (nullText : Text) : ExportOptions :=
  ⟨.csv, true, [','], nullText, false, false⟩

def notes : List (List Value) :=
  [[.int 1, .text "a,\"b\"".toList], [.int 2, .null], [.int 3, .text []]]

end

end DbFree.Transfer
