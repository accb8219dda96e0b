import Mathlib

/- Delimited text: records on lines, quoted fields with doubled quotes, and a reader that
passes over blank lines. -/
namespace DbFree.Csv

structure Format where
  delimiter : Char
  quote : Char

def isTerm (c : Char) : Bool := c == '\r' || c == '\n'

/-- Where the reader stands. -/
inductive Mode where
  | startRecord | startField | inField | inQuoted | afterQuote
deriving DecidableEq

variable (format : Format)

/-- The fields of the record so far, the open field, and the text to come. -/
@[grind =]
def readFrom : Mode → List (List Char) → List Char → List Char → List (List (List Char))
  | .startRecord, _, _, [] => []
  | _, fields, field, [] => [fields ++ [field]]
  | .inQuoted, fields, field, c :: rest =>
    if c = format.quote then readFrom .afterQuote fields field rest
    else readFrom .inQuoted fields (field ++ [c]) rest
  | mode, fields, field, c :: rest =>
    if mode = .startRecord ∧ isTerm c = true then readFrom .startRecord [] [] rest
    else if mode = .afterQuote ∧ c = format.quote then
      readFrom .inQuoted fields (field ++ [c]) rest
    else if (mode = .startRecord ∨ mode = .startField) ∧ c = format.quote then
      readFrom .inQuoted fields field rest
    else if c = format.delimiter then readFrom .startField (fields ++ [field]) [] rest
    else if isTerm c then (fields ++ [field]) :: readFrom .startRecord [] [] rest
    else readFrom .inField fields (field ++ [c]) rest

/-- The records of a text. -/
def read (text : List Char) : List (List (List Char)) := readFrom format .startRecord [] [] text

def doubled (text : List Char) : List Char :=
  text.flatMap fun c => if c = format.quote then [c, c] else [c]

/-- A character that stands for itself outside quotes. -/
def plain (c : Char) : Bool := c != format.delimiter && c != format.quote && !isTerm c

/-- How a field may stand in a line. -/
inductive Written (field : List Char) : List Char → Prop where
  | bare (all : ∀ c ∈ field, plain format c = true) : Written field field
  | quoted : Written field (format.quote :: doubled format field ++ [format.quote])

/-- Delimiters a reader can tell from quotes and line ends. -/
def Format.Separates : Prop :=
  format.delimiter ≠ format.quote ∧ isTerm format.delimiter = false ∧
    isTerm format.quote = false

variable {format}

theorem plain_iff (c : Char) : plain format c = true ↔
    c ≠ format.delimiter ∧ c ≠ format.quote ∧ isTerm c = false := by
  simp only [plain, Bool.and_eq_true, bne_iff_ne, ne_eq, Bool.not_eq_true', and_assoc]

theorem readFrom_bare {text : List Char} (bare : ∀ c ∈ text, plain format c = true)
    (fields : List (List Char)) (field rest : List Char) :
    readFrom format .inField fields field (text ++ rest) =
      readFrom format .inField fields (field ++ text) rest := by
  induction text generalizing field with
  | nil => rw [List.nil_append, List.append_nil]
  | cons c text hypothesis =>
    obtain ⟨not_delimiter, not_quote, not_term⟩ := (plain_iff c).mp (bare c List.mem_cons_self)
    have others : ∀ d ∈ text, plain format d = true := fun d inside =>
      bare d (List.mem_cons_of_mem c inside)
    rw [List.cons_append, readFrom.eq_def]
    simp only [reduceCtorEq, false_and, if_false, or_self, not_delimiter, not_term,
      Bool.false_eq_true]
    rw [hypothesis others, List.append_assoc, List.singleton_append]

theorem readFrom_doubled (text : List Char) (fields : List (List Char))
    (field rest : List Char) :
    readFrom format .inQuoted fields field (doubled format text ++ rest) =
      readFrom format .inQuoted fields (field ++ text) rest := by
  induction text generalizing field with
  | nil => rw [doubled, List.flatMap_nil, List.nil_append, List.append_nil]
  | cons c text hypothesis =>
    have next := hypothesis (field ++ [c])
    rw [List.append_assoc, List.singleton_append] at next
    rw [← next, doubled, List.flatMap_cons, List.append_assoc]
    by_cases quote : c = format.quote
    · rw [if_pos quote, List.cons_append, List.cons_append, readFrom, if_pos quote, readFrom]
      · simp only [reduceCtorEq, false_and, if_false, quote, and_self, if_true]
        rfl
      · intro other
        cases other
    · rw [if_neg quote, List.cons_append, readFrom, if_neg quote]
      rfl

/-- Modes in which a delimiter or a line end closes the open field. -/
def Mode.Closes (mode : Mode) : Prop := mode = .startField ∨ mode = .inField ∨ mode = .afterQuote

theorem readFrom_delimiter (separates : format.Separates) {mode : Mode} (closes : mode.Closes)
    (fields : List (List Char)) (field rest : List Char) :
    readFrom format mode fields field (format.delimiter :: rest) =
      readFrom format .startField (fields ++ [field]) [] rest := by
  rcases closes with same | same | same <;> subst same <;> rw [readFrom] <;>
    simp [separates.1]

theorem readFrom_lineEnd (separates : format.Separates) {mode : Mode} (closes : mode.Closes)
    (fields : List (List Char)) (field rest : List Char) :
    readFrom format mode fields field ('\n' :: rest) =
      (fields ++ [field]) :: readFrom format .startRecord [] [] rest := by
  have not_delimiter : '\n' ≠ format.delimiter := by
    intro same
    have term := separates.2.1
    rw [← same] at term
    cases term
  have not_quote : '\n' ≠ format.quote := by
    intro same
    have term := separates.2.2
    rw [← same] at term
    cases term
  have term : isTerm '\n' = true := rfl
  rcases closes with same | same | same <;> subst same <;> rw [readFrom] <;>
    simp [not_delimiter, not_quote, term]

theorem readFrom_written {field written : List Char} (stands : Written format field written)
    (fields : List (List Char)) (rest : List Char) :
    ∃ mode : Mode, mode.Closes ∧ readFrom format .startField fields [] (written ++ rest) =
      readFrom format mode fields field rest := by
  cases stands with
  | bare all =>
    cases field with
    | nil => exact ⟨.startField, Or.inl rfl, rfl⟩
    | cons c text =>
      obtain ⟨not_delimiter, not_quote, not_term⟩ := (plain_iff c).mp (all c List.mem_cons_self)
      have others : ∀ d ∈ text, plain format d = true := fun d inside =>
        all d (List.mem_cons_of_mem c inside)
      refine ⟨.inField, Or.inr (Or.inl rfl), ?_⟩
      have start : readFrom format .startField fields [] (c :: text ++ rest) =
          readFrom format .inField fields [c] (text ++ rest) := by
        rw [List.cons_append, readFrom] <;> simp [not_delimiter, not_quote, not_term]
      rw [start, readFrom_bare others, List.singleton_append]
  | quoted =>
    refine ⟨.afterQuote, Or.inr (Or.inr rfl), ?_⟩
    have start : readFrom format .startField fields []
        (format.quote :: doubled format field ++ [format.quote] ++ rest) =
        readFrom format .inQuoted fields [] (doubled format field ++ (format.quote :: rest)) := by
      rw [List.append_assoc, List.cons_append, readFrom] <;> simp
    rw [start, readFrom_doubled, readFrom, if_pos rfl, List.nil_append]

/-- A line of fields as they are written. -/
def line (format : Format) (cells : List (List Char)) : List Char :=
  [format.delimiter].intercalate cells

theorem line_cons (cell : List Char) {cells : List (List Char)} (more : cells ≠ []) :
    line format (cell :: cells) = cell ++ format.delimiter :: line format cells := by
  obtain ⟨second, rest, same⟩ := List.exists_cons_of_ne_nil more
  subst same
  simp [line, List.intercalate]

theorem readFrom_line (separates : format.Separates) {cells : List (List Char × List Char)}
    (stand : ∀ cell ∈ cells, Written format cell.1 cell.2) (some_cell : cells ≠ [])
    (fields : List (List Char)) (rest : List Char) :
    readFrom format .startField fields [] (line format (cells.map Prod.snd) ++ '\n' :: rest) =
      (fields ++ cells.map Prod.fst) :: readFrom format .startRecord [] [] rest := by
  induction cells generalizing fields with
  | nil => exact absurd rfl some_cell
  | cons cell more hypothesis =>
    have first : Written format cell.1 cell.2 := stand cell List.mem_cons_self
    have others : ∀ other ∈ more, Written format other.1 other.2 := fun other inside =>
      stand other (List.mem_cons_of_mem cell inside)
    by_cases last : more = []
    · subst last
      obtain ⟨mode, closes, read_eq⟩ := readFrom_written first fields ('\n' :: rest)
      have alone : line format ([cell].map Prod.snd) = cell.2 := by simp [line, List.intercalate]
      rw [alone, read_eq, readFrom_lineEnd separates closes]
      rfl
    · have more_written : more.map Prod.snd ≠ [] := by simpa using last
      rw [List.map_cons, line_cons cell.2 more_written, List.append_assoc, List.cons_append]
      obtain ⟨mode, closes, read_eq⟩ := readFrom_written first fields
        (format.delimiter :: (line format (more.map Prod.snd) ++ '\n' :: rest))
      rw [read_eq, readFrom_delimiter separates closes, hypothesis others last,
        List.append_assoc]
      rfl

theorem head_written (separates : format.Separates) {field written : List Char}
    (stands : Written format field written) {c : Char} {rest : List Char}
    (starts : written = c :: rest) : isTerm c = false := by
  cases stands with
  | bare all =>
    rw [starts] at all
    exact ((plain_iff c).mp (all c List.mem_cons_self)).2.2
  | quoted =>
    rw [List.cons_append] at starts
    have same : format.quote = c := (List.cons.inj starts).1
    rw [← same]
    exact separates.2.2

theorem head_line (separates : format.Separates) {cells : List (List Char × List Char)}
    (stand : ∀ cell ∈ cells, Written format cell.1 cell.2) {c : Char} {rest : List Char}
    (starts : line format (cells.map Prod.snd) = c :: rest) : isTerm c = false := by
  cases cells with
  | nil => cases starts
  | cons cell more =>
    have first : Written format cell.1 cell.2 := stand cell List.mem_cons_self
    by_cases last : more.map Prod.snd = []
    · have alone : line format ((cell :: more).map Prod.snd) = cell.2 := by
        rw [List.map_cons, last]
        simp [line, List.intercalate]
      rw [alone] at starts
      exact head_written separates first starts
    · rw [List.map_cons, line_cons cell.2 last] at starts
      cases written : cell.2 with
      | nil =>
        rw [written, List.nil_append] at starts
        rw [← (List.cons.inj starts).1]
        exact separates.2.1
      | cons d text =>
        rw [written, List.cons_append] at starts
        rw [← (List.cons.inj starts).1]
        exact head_written separates first written

theorem read_line (separates : format.Separates) {cells : List (List Char × List Char)}
    (stand : ∀ cell ∈ cells, Written format cell.1 cell.2) (some_cell : cells ≠ [])
    (rest : List Char) :
    read format (line format (cells.map Prod.snd) ++ '\n' :: rest) =
      (if line format (cells.map Prod.snd) = [] then [] else [cells.map Prod.fst]) ++
        read format rest := by
  have whole := readFrom_line separates stand some_cell [] rest
  cases written : line format (cells.map Prod.snd) with
  | nil =>
    show readFrom format .startRecord [] [] ('\n' :: rest) = readFrom format .startRecord [] [] rest
    have term : isTerm '\n' = true := rfl
    rw [readFrom] <;> simp [term]
  | cons c text =>
    have not_term := head_line separates stand written
    rw [written] at whole
    have start : read format (c :: text ++ '\n' :: rest) =
        readFrom format .startField [] [] (c :: text ++ '\n' :: rest) := by
      rw [read, List.cons_append, readFrom, readFrom] <;> simp [not_term]
    rw [start, whole, if_neg (List.cons_ne_nil c text)]
    rfl

theorem read_lines (separates : format.Separates) {rows : List (List (List Char × List Char))}
    (stand : ∀ cells ∈ rows, ∀ cell ∈ cells, Written format cell.1 cell.2)
    (some_cell : ∀ cells ∈ rows, cells ≠ []) :
    read format (rows.flatMap fun cells => line format (cells.map Prod.snd) ++ ['\n']) =
      (rows.filter fun cells => line format (cells.map Prod.snd) ≠ []).map
        (·.map Prod.fst) := by
  induction rows with
  | nil => rfl
  | cons cells more hypothesis =>
    have first := read_line separates (stand cells List.mem_cons_self)
      (some_cell cells List.mem_cons_self)
      (more.flatMap fun cells => line format (cells.map Prod.snd) ++ ['\n'])
    have later := hypothesis
      (fun other inside => stand other (List.mem_cons_of_mem cells inside))
      (fun other inside => some_cell other (List.mem_cons_of_mem cells inside))
    rw [List.flatMap_cons, List.append_assoc, List.singleton_append, first, later]
    by_cases blank : line format (cells.map Prod.snd) = [] <;> simp [blank]

end DbFree.Csv
