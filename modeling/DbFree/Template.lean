import DbFree.Dataset
import DbFree.Errors

/- Workflow templates: placeholders in double braces inside a text, filled from the
rows that reach the node (services/workflows/template.rs). -/
namespace DbFree.Template

open Texts SqlText

/-- Most rows a placeholder prints; a footer counts the rest. -/
def maxRowsInText : Nat := 50

inductive Piece where
  | text (text : Text)
  | expr (expr : Text)
deriving DecidableEq

/-- The expression of a placeholder whose opening braces stand before `rest`: one or
more characters that are not a closing brace, then two of those. -/
def expression (rest : Text) : Option Text :=
  let content := rest.takeWhile (· != '\x7d')
  match rest.dropWhile (· != '\x7d') with
  | _ :: '\x7d' :: _ => if content.isEmpty then none else some content
  | _ => none

/-- The placeholder that starts at this character, if one does. -/
def placeholder (c : Char) : Text → Option Text
  | d :: tail => if c = '\x7b' ∧ d = '\x7b' then expression tail else none
  | [] => none

/-- The pieces of a text after the literal text `literal`, past `skip` characters of
a placeholder. -/
def scanFrom : Nat → Text → Text → List Piece
  | _, literal, [] => if literal.isEmpty then [] else [.text literal]
  | skip + 1, literal, _ :: rest => scanFrom skip literal rest
  | 0, literal, c :: rest =>
    match placeholder c rest with
    | some content =>
      (if literal.isEmpty then [] else [.text literal]) ++
        .expr content :: scanFrom (content.length + 3) [] rest
    | none => scanFrom 0 (literal ++ [c]) rest

/-- Splits a template into literal text and expressions. Anything else, such as an
unterminated placeholder, is literal. -/
def scan (template : Text) : List Piece := scanFrom 0 [] template

/-- The current time, in the forms a placeholder can ask for. -/
structure Clock where
  now : Text
  today : Text
  time : Text
  unix : Int

section Arithmetic

variable (data : Dataset)

def isAsciiDigit (c : Char) : Bool := '0' ≤ c && c ≤ '9'

def isAsciiAlphabetic (c : Char) : Bool := ('a' ≤ c && c ≤ 'z') || ('A' ≤ c && c ≤ 'Z')

def isNameChar (c : Char) : Bool := isAsciiAlphabetic c || isAsciiDigit c || c == '_'

/-- What is left of a text, shorter than it was. -/
abbrev Shorter (rest : Text) := { later : Text // later.length < rest.length }

theorem length_dropWhile_le (drops : Char → Bool) (text : Text) :
    (text.dropWhile drops).length ≤ text.length :=
  (List.dropWhile_suffix drops).length_le

/-- `eat`: the text behind a character, past white space. -/
def eat (c : Char) (rest : Text) : Option (Shorter rest) :=
  match spaced : trimStart rest with
  | d :: later =>
    if d = c then
      some ⟨later, by
        have bound := length_dropWhile_le Chars.isWhitespace rest
        rw [show rest.dropWhile Chars.isWhitespace = d :: later from spaced] at bound
        exact bound⟩
    else none
  | [] => none

/-- A number, or a column of the first row that holds one. -/
def operand (rest : Text) : Except Text (F64 × Shorter rest) :=
  match spaced : trimStart rest with
  | [] => .error "unexpected end of expression".toList
  | c :: later =>
    have bound : later.length < rest.length := by
      have bound := length_dropWhile_le Chars.isWhitespace rest
      rw [show rest.dropWhile Chars.isWhitespace = c :: later from spaced] at bound
      exact bound
    if isAsciiDigit c then
      let whole := c :: later.takeWhile isAsciiDigit
      let behind := later.dropWhile isAsciiDigit
      let fraction :=
        match behind with
        | '.' :: d :: digits => if isAsciiDigit d then '.' :: d :: digits.takeWhile isAsciiDigit
          else []
        | _ => []
      let text := whole ++ fraction
      match F64.parse text with
      | some number =>
        .ok (number, ⟨behind.drop fraction.length, by
          have shorter : behind.length ≤ later.length := length_dropWhile_le isAsciiDigit later
          rw [List.length_drop]
          omega⟩)
      | none => .error ('"' :: text ++ "\" is not a number".toList)
    else if isAsciiAlphabetic c || c == '_' then
      let name := c :: later.takeWhile isNameChar
      match (data.firstCell name).bind cellNumber with
      | some number =>
        .ok (number, ⟨later.dropWhile isNameChar, by
          have shorter := length_dropWhile_le isNameChar later
          omega⟩)
      | none => .error ('"' :: name ++ "\" is not a number in the first input row".toList)
    else .error ("unexpected \"".toList ++ [c, '"'])

/-- The operators of a sum. -/
def sumOperator (rest : Text) : Option ((F64 → F64 → Except Text F64) × Shorter rest) :=
  match eat '+' rest with
  | some later => some (fun left right => .ok (left.add right), later)
  | none => (eat '-' rest).map fun later => (fun left right => .ok (left.sub right), later)

/-- The operators of a product. -/
def productOperator (rest : Text) : Option ((F64 → F64 → Except Text F64) × Shorter rest) :=
  let nonzero (operation : F64 → F64 → F64) : F64 → F64 → Except Text F64 :=
    fun left right =>
      if right.isZero then .error "division by zero".toList else .ok (operation left right)
  match eat '*' rest with
  | some later => some (fun left right => .ok (left.mul right), later)
  | none =>
    match eat '/' rest with
    | some later => some (nonzero F64.div, later)
    | none => (eat '%' rest).map fun later => (nonzero F64.rem, later)

abbrev Unread (rest : Text) := { later : Text // later.length ≤ rest.length }

mutual

def sum (rest : Text) : Except Text (F64 × Shorter rest) :=
  match term rest with
  | .error reason => .error reason
  | .ok (left, later) =>
    match sumAfter left later with
    | .error reason => .error reason
    | .ok (value, behind) => .ok (value, ⟨behind, Nat.lt_of_le_of_lt behind.2 later.2⟩)
termination_by (rest.length, 2)

def sumAfter (left : F64) (rest : Text) : Except Text (F64 × Unread rest) :=
  match sumOperator rest with
  | none => .ok (left, ⟨rest, Nat.le_refl _⟩)
  | some (combine, later) =>
    match term later with
    | .error reason => .error reason
    | .ok (right, behind) =>
      match combine left right with
      | .error reason => .error reason
      | .ok value =>
        have shorter := Nat.lt_trans behind.2 later.2
        match sumAfter value behind with
        | .error reason => .error reason
        | .ok (value, last) => .ok (value, ⟨last, Nat.le_of_lt (Nat.lt_of_le_of_lt last.2 shorter)⟩)
termination_by (rest.length, 0)

def term (rest : Text) : Except Text (F64 × Shorter rest) :=
  match factor rest with
  | .error reason => .error reason
  | .ok (left, later) =>
    match termAfter left later with
    | .error reason => .error reason
    | .ok (value, behind) => .ok (value, ⟨behind, Nat.lt_of_le_of_lt behind.2 later.2⟩)
termination_by (rest.length, 1)

def termAfter (left : F64) (rest : Text) : Except Text (F64 × Unread rest) :=
  match productOperator rest with
  | none => .ok (left, ⟨rest, Nat.le_refl _⟩)
  | some (combine, later) =>
    match factor later with
    | .error reason => .error reason
    | .ok (right, behind) =>
      match combine left right with
      | .error reason => .error reason
      | .ok value =>
        have shorter := Nat.lt_trans behind.2 later.2
        match termAfter value behind with
        | .error reason => .error reason
        | .ok (value, last) => .ok (value, ⟨last, Nat.le_of_lt (Nat.lt_of_le_of_lt last.2 shorter)⟩)
termination_by (rest.length, 0)

def factor (rest : Text) : Except Text (F64 × Shorter rest) :=
  match eat '(' rest with
  | some inner =>
    match sum inner with
    | .error reason => .error reason
    | .ok (value, later) =>
      match eat ')' later with
      | some behind =>
        .ok (value, ⟨behind, Nat.lt_trans (Nat.lt_trans behind.2 later.2) inner.2⟩)
      | none => .error "expected )".toList
  | none =>
    match eat '-' rest with
    | some later =>
      match factor later with
      | .error reason => .error reason
      | .ok (value, behind) => .ok (value.neg, ⟨behind, Nat.lt_trans behind.2 later.2⟩)
    | none => operand data rest
termination_by (rest.length, 0)

end

/-- `+ - * / %`, parentheses, unary minus, numbers and column names. -/
def evaluateArithmetic (expr : Text) : Except Text F64 :=
  match sum data expr with
  | .error reason => .error reason
  | .ok (value, later) =>
    match trimStart later with
    | c :: _ => .error ("unexpected \"".toList ++ [c, '"'])
    | [] =>
      if value.isFinite then .ok value
      else .error "the result is not a finite number".toList

end Arithmetic

section Rows

variable (crates : Crates) (data : Dataset)

def visibleRows : List (List Value) := data.rows.take maxRowsInText

def hiddenRows : Nat := data.rows.length - maxRowsInText

/-- A block with the count of the rows it leaves out. -/
def withFooter (block : Text) : Text :=
  if 0 < hiddenRows data then
    block ++ "\n… and ".toList ++ decimal (hiddenRows data) ++ " more".toList
  else block

def lineBreaksToSpaces (text : Text) : Text :=
  text.map fun c => if c = '\n' ∨ c = '\r' then ' ' else c

def tableCell (value : Value) : Text :=
  lineBreaksToSpaces (replaceChar (cellText crates value) '|' ['\\', '|'])

def tableCellPlain (value : Value) : Text := lineBreaksToSpaces (cellText crates value)

def tableLine (cells : List Text) : Text := "| ".toList ++ join " | ".toList cells ++ " |".toList

def rowsTable : Text :=
  if data.columns.isEmpty then []
  else
    let lines := tableLine data.columns :: tableLine (data.columns.map fun _ => "---".toList) ::
      (visibleRows data).map fun row => tableLine (row.map (tableCell crates))
    withFooter data ("```\n".toList ++ join ['\n'] lines ++ "\n```".toList)

def rowsJson : Text :=
  withFooter data
    ("```\n".toList ++ crates.jsonPretty (data.toJsonRows.take maxRowsInText) ++
      "\n```".toList)

def rowsList : Text :=
  if data.rows.isEmpty ∨ data.columns.isEmpty then []
  else
    withFooter data (join ['\n'] ((visibleRows data).map fun row =>
      "• ".toList ++ join ", ".toList (row.map (tableCellPlain crates))))

def escapeHtml (text : Text) : Text :=
  text.flatMap fun c =>
    match c with
    | '&' => "&amp;".toList
    | '<' => "&lt;".toList
    | '>' => "&gt;".toList
    | '"' => "&quot;".toList
    | '\'' => "&#39;".toList
    | c => [c]

def headerCellStyle : Text :=
  ("style=\"text-align:left;padding:6px 10px;border-bottom:1px solid #ddd;" ++
    "background:#f6f6f6;font-weight:600\"").toList

def cellStyle : Text := "style=\"padding:6px 10px;border-bottom:1px solid #eee\"".toList

def rowsHtml : Text :=
  if data.columns.isEmpty then []
  else
    let header := data.columns.flatMap fun name =>
      "<th ".toList ++ headerCellStyle ++ ">".toList ++ escapeHtml name ++ "</th>".toList
    let body := (visibleRows data).flatMap fun row =>
      "<tr>".toList ++
        (row.flatMap fun value =>
          "<td ".toList ++ cellStyle ++ ">".toList ++ escapeHtml (cellText crates value) ++
            "</td>".toList) ++
        "</tr>".toList
    let table :=
      ("<table style=\"border-collapse:collapse;font-family:sans-serif;" ++
        "font-size:13px\"><tr>").toList ++ header ++ "</tr>".toList ++ body ++
        "</table>".toList
    if 0 < hiddenRows data then
      table ++ "<p style=\"color:#666;font-size:12px;margin:6px 0 0\">… and ".toList ++
        decimal (hiddenRows data) ++ " more</p>".toList
    else table

end Rows

def i64Max : Nat := 2 ^ 63 - 1

def numberValue (number : F64) : Value :=
  if number.isWhole && number.absBelow (9 * 10 ^ 15) then .int number.toInt else .float number

def isIdentifier : Text → Bool
  | [] => false
  | c :: rest => (isAsciiAlphabetic c || c == '_') && rest.all isNameChar

/-- The reserved names, which come before columns. -/
def reserved (crates : Crates) (data : Dataset) (clock : Clock) (expr : Text) : Option Value :=
  if expr = "rows".toList ∨ expr = "rows.table".toList then some (.text (rowsTable crates data))
  else if expr = "rows.json".toList then some (.text (rowsJson crates data))
  else if expr = "rows.list".toList then some (.text (rowsList crates data))
  else if expr = "rows.html".toList then some (.text (rowsHtml crates data))
  else if expr = "rows.count".toList then some (.int (min data.rows.length i64Max : Nat))
  else if expr = "date.now".toList then some (.dateTime clock.now)
  else if expr = "date.today".toList then some (.dateTime clock.today)
  else if expr = "date.time".toList then some (.dateTime clock.time)
  else if expr = "date.unix".toList then some (.int clock.unix)
  else none

/-- A placeholder's value: a reserved name, then an exact column name, then
arithmetic over numeric columns. -/
def eval (crates : Crates) (expr : Text) (data : Dataset) (clock : Clock) :
    Except Text Value :=
  match reserved crates data clock expr with
  | some value => .ok value
  | none =>
    match data.indexOf expr with
    | some index => .ok ((data.rows.head?.bind fun row => row[index]?).getD .null)
    | none =>
      if isIdentifier expr then .ok .null
      else (evaluateArithmetic data expr).map numberValue

inductive SqlState where
  | code | single | double | backtick | lineComment | blockComment
deriving DecidableEq

/-- One turn of the copying loop: whether the next character goes with this one, and
the state behind what was copied. -/
def advance (backslash : Bool) (state : SqlState) (c : Char) (next : Option Char) :
    Bool × SqlState :=
  match state with
  | .code =>
    if c = '\'' then (false, .single)
    else if c = '"' then (false, .double)
    else if c = '`' then (false, .backtick)
    else if c = '-' ∧ next = some '-' then (true, .lineComment)
    else if c = '/' ∧ next = some '*' then (true, .blockComment)
    else (false, .code)
  | .single | .double =>
    let quote := if state = .single then '\'' else '"'
    if c = '\\' ∧ backslash then (next.isSome, state)
    else if c = quote then
      if next = some quote then (true, state) else (false, .code)
    else (false, state)
  | .backtick =>
    if c = '`' then
      if next = some '`' then (true, .backtick) else (false, .code)
    else (false, .backtick)
  | .lineComment => (false, if c = '\n' then .code else .lineComment)
  | .blockComment =>
    if c = '*' ∧ next = some '/' then (true, .code) else (false, .blockComment)

/-- Copies literal SQL text through, tracking whether the end of it is inside a
quote or comment. -/
def copySqlText (backslash : Bool) : SqlState → Text → Text × SqlState
  | state, [] => ([], state)
  | state, [c] => ([c], (advance backslash state c none).2)
  | state, c :: next :: rest =>
    let (pair, behind) := advance backslash state c (some next)
    if pair then
      let (out, last) := copySqlText backslash behind rest
      (c :: next :: out, last)
    else
      let (out, last) := copySqlText backslash behind (next :: rest)
      (c :: out, last)

def escapeString (quote : Char) (backslash : Bool) (text : Text) : Text :=
  text.flatMap fun c =>
    if c = quote then [quote, quote]
    else if c = '\\' ∧ backslash then ['\\', '\\']
    else [c]

/-- A value as a SQL literal for the engine. -/
def sqlLiteral (crates : Crates) (engine : Engine) (backslash : Bool) (value : Value) : Text :=
  let quoted := '\'' :: escapeString '\'' backslash (cellText crates value) ++ ['\'']
  match value with
  | .null => "NULL".toList
  | .bool _ | .bytes _ => literal crates engine value
  | .int number => integer number
  | .float number => if number.isFinite then formatNumber number else "NULL".toList
  | .decimal text =>
    if (F64.parse (trim text)).any (·.isFinite) then trim text else quoted
  | _ => quoted

/-- `replace("*/", "* /")`. -/
def splitCommentEnds : Text → Text
  | [] => []
  | [c] => [c]
  | c :: next :: rest =>
    if c = '*' ∧ next = '/' then '*' :: ' ' :: '/' :: splitCommentEnds rest
    else c :: splitCommentEnds (next :: rest)

def splice (crates : Crates) (engine : Engine) (backslash : Bool) (value : Value) :
    SqlState → Text
  | .code => sqlLiteral crates engine backslash value
  | .single => escapeString '\'' backslash (cellText crates value)
  | .double => escapeString '"' backslash (cellText crates value)
  | .backtick => replaceChar (cellText crates value) '`' ['`', '`']
  | .lineComment => lineBreaksToSpaces (cellText crates value)
  | .blockComment => splitCommentEnds (cellText crates value)

/-- A part of the rendered text: copied from the template, or spliced for a
placeholder, in the state the renderer has reached. -/
structure Segment where
  spliced : Bool
  state : SqlState
  text : Text
deriving DecidableEq

/-- The rendering of some pieces in a state. -/
def renderPieces (crates : Crates) (engine : Engine) (data : Dataset) (clock : Clock) :
    SqlState → List Piece → Except AppError (List Segment)
  | _, [] => .ok []
  | state, .text text :: pieces =>
    let (out, behind) := copySqlText (backslashEscapes engine) state text
    match renderPieces crates engine data clock behind pieces with
    | .error error => .error error
    | .ok later => .ok (⟨false, state, out⟩ :: later)
  | state, .expr expr :: pieces =>
    let expr := trim expr
    match eval crates expr data clock with
    | .error reason =>
      .error (.invalidInput
        ("Cannot evaluate \x7b\x7b".toList ++ expr ++ "\x7d\x7d: ".toList ++ reason))
    | .ok value =>
      match renderPieces crates engine data clock state pieces with
      | .error error => .error error
      | .ok later =>
        .ok (⟨true, state, splice crates engine (backslashEscapes engine) value state⟩ :: later)

/-- Fills a SQL template: a value outside any quote is written as a literal of the
engine, one inside quotes is escaped in place. -/
def renderSqlAt (crates : Crates) (template : Text) (data : Dataset) (engine : Engine)
    (clock : Clock) : Except AppError Text :=
  (renderPieces crates engine data clock .code (scan template)).map
    fun segments => segments.flatMap Segment.text

end DbFree.Template
