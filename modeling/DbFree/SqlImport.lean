import DbFree.Engine
import DbFree.Errors

/- The push parser that cuts a SQL script the way the engine's own client does
(services/sql_import.rs). -/
namespace DbFree.SqlImport

open Chars Texts

/-- Characters held back between chunks. -/
def HOLD : Nat := 160

def MAX_STATEMENT_CHARS : Nat := 16 * 1024 * 1024

def MAX_DELIMITER : Nat := 16

/-- How a script is cut. One per kind of lexical rules, not per engine. -/
inductive SplitDialect where
  | mysql | postgres | mssql | oracle | standard
deriving DecidableEq

def dialectOf (engine : Engine) : SplitDialect :=
  match engine.family with
  | .mysql => .mysql
  | .postgres | .duckdb => .postgres
  | .mssql => .mssql
  | .oracle => .oracle
  | _ => .standard

/-- One statement and the line of the file it starts on. -/
structure SqlStatement where
  text : Text
  line : Nat
deriving DecidableEq

inductive Comment where
  | none | line | block
deriving DecidableEq

structure SqlSplitter where
  dialect : SplitDialect
  hold : Nat
  carry : Text
  current : Text
  hasSql : Bool
  quote : Option Char
  /-- The open quote is a Postgres `E'…'` string. -/
  eString : Bool
  bracket : Bool
  comment : Comment
  blockDepth : Nat
  dollar : Option Text
  delimiter : Text
  /-- Only white space since the last line feed. -/
  lineStart : Bool
  plsql : Bool
  line : Nat
  startLine : Nat
  prev : Char
  prev2 : Char
deriving DecidableEq

def byteOrderMark : Char := '\uFEFF'

/-- `$tag$` or `$$` at the start of `buf`. A tag cannot start with a digit. -/
def dollarTag (buf : Text) : Option Text :=
  let name := (buf.drop 1).takeWhile isWordChar
  if (buf.drop (1 + name.length)).head? ≠ some '$' then none
  else if name.head?.any Char.isDigit then none
  else some (buf.take (1 + name.length + 1))

def isBlank (c : Char) : Bool := c == ' ' || c == '\t'

/-- Characters up to and with the end of the line, when only blanks follow `from`. -/
def restOfLineBlank (buf : Text) (start : Nat) (last : Bool) : Option Nat :=
  let blanks := ((buf.drop start).takeWhile isBlank).length
  match buf.drop (start + blanks) with
  | '\n' :: _ => some (start + blanks + 1)
  | '\r' :: '\n' :: _ => some (start + blanks + 2)
  | [] => if last then some (start + blanks) else none
  | _ => none

def matchesWord (buf : Text) (word : String) : Bool :=
  word.toList.map Char.toLower == (buf.take word.length).map Char.toLower

/-- `DELIMITER <token>` as a whole line: the characters it spans and the new delimiter. -/
def parseDelimiter (buf : Text) (last : Bool) : Except AppError (Option (Nat × Text)) :=
  if !matchesWord buf "DELIMITER" || !(buf.drop 9).head?.any isBlank then .ok none
  else
    let blanks := ((buf.drop 9).takeWhile isBlank).length
    let token := (buf.drop (9 + blanks)).takeWhile fun c => !isWhitespace c
    if token.isEmpty then .ok none
    else
      match restOfLineBlank buf (9 + blanks + token.length) last with
      | none => .ok none
      | some used =>
        if token.length > MAX_DELIMITER then
          .error (.invalidInput ("A DELIMITER is longer than ".toList ++ decimal MAX_DELIMITER ++
            " characters.".toList))
        else .ok (some (used, token))

/-- `GO`, or `GO 5`, as a whole line. -/
def parseGo (buf : Text) (last : Bool) : Option Nat :=
  if !matchesWord buf "GO" then none
  else if (buf.drop 2).head?.any isWordChar then none
  else
    let blanks := ((buf.drop 2).takeWhile isBlank).length
    let digits := ((buf.drop (2 + blanks)).takeWhile Char.isDigit).length
    restOfLineBlank buf (2 + blanks + digits) last

/-- A lone `/` line, with which Oracle ends a PL/SQL block. -/
def parseSlash (buf : Text) (last : Bool) : Option Nat :=
  if buf.head? ≠ some '/' then none else restOfLineBlank buf 1 last

def isKeyword (word : Option Text) (keywords : List String) : Bool :=
  word.any fun w => isIn w keywords

/-- Does the statement at `buf` open a PL/SQL block, which ends at a `/` line only? -/
def startsPlsql (buf : Text) : Bool :=
  let words := ((((buf.take 160).splitOnP fun c => !isWordChar c).filter fun w => !w.isEmpty).take
    6).map toAsciiUppercase
  if isKeyword words.head? ["DECLARE", "BEGIN"] then true
  else if isKeyword words.head? ["CREATE"] then
    let replaced := if isKeyword (words.drop 1).head? ["OR"] then words.drop 3 else words.drop 1
    let kind := replaced.dropWhile fun w => isIn w ["EDITIONABLE", "NONEDITIONABLE"]
    if isKeyword kind.head? ["FUNCTION", "PROCEDURE", "PACKAGE", "TRIGGER"] then true
    else isKeyword kind.head? ["TYPE"] && isKeyword (kind.drop 1).head? ["BODY"]
  else false

namespace SqlSplitter

def new (dialect : SplitDialect) : SqlSplitter where
  dialect := dialect
  hold := HOLD
  carry := []
  current := []
  hasSql := false
  quote := none
  eString := false
  bracket := false
  comment := .none
  blockDepth := 0
  dollar := none
  delimiter := [';']
  lineStart := true
  plsql := false
  line := 1
  startLine := 1
  prev := '\x00'
  prev2 := '\x00'

def nestedComments (s : SqlSplitter) : Bool := s.dialect == .postgres || s.dialect == .mssql

/-- Does a backslash escape inside the open quote? -/
def backslash (s : SqlSplitter) (quote : Char) : Bool :=
  match s.dialect with
  | .mysql => quote ≠ '`'
  | .postgres => s.eString
  | _ => false

def consume (s : SqlSplitter) (chars : Text) : SqlSplitter :=
  chars.foldl (fun s c => { s with
    line := if c = '\n' then s.line + 1 else s.line
    prev2 := s.prev
    prev := c }) s

/-- The bytes of a text in UTF-8. -/
def byteLength (text : Text) : Nat := (text.map Char.utf8Size).sum

def append (s : SqlSplitter) (chars : Text) : Except AppError SqlSplitter :=
  if byteLength s.current + chars.length > MAX_STATEMENT_CHARS then
    .error (.invalidInput ("A SQL statement near line ".toList ++ decimal s.startLine ++
      " is over ".toList ++ decimal (MAX_STATEMENT_CHARS / 1024 / 1024) ++
      " MiB. Export the dump with smaller INSERT batches.".toList))
  else .ok { s with current := s.current ++ chars }

/-- A statement without the white space and the byte order marks around it. -/
def trimmed (text : Text) : Text :=
  (text.dropWhile fun c => isWhitespace c || c == byteOrderMark).rdropWhile fun c =>
    isWhitespace c || c == byteOrderMark

def takeStatement (s : SqlSplitter) : SqlSplitter × List SqlStatement :=
  let text := trimmed s.current
  let found := if s.hasSql && !text.isEmpty then [⟨text, s.startLine⟩] else []
  ({ s with current := [], hasSql := false, plsql := false }, found)

def markSql (s : SqlSplitter) (buf : Text) : SqlSplitter :=
  let marked :=
    if s.hasSql then s
    else
      { s with
        hasSql := true
        startLine := s.line
        plsql := if s.dialect = .oracle then startsPlsql buf else s.plsql }
  { marked with lineStart := false }

/-- Outside every comment and every quote. -/
def inCode (s : SqlSplitter) : Bool :=
  s.comment == .none && s.quote.isNone && !s.bracket && s.dollar.isNone

/-- Inside a comment or a quote: how many characters the loop takes at once, and
what they do to the state. -/
def insideMove (s : SqlSplitter) (c : Char) (rest : Text) : SqlSplitter × Nat :=
  let next := rest.head?.getD '\x00'
  match s.comment with
  | .line => if c = '\n' then ({ s with comment := .none, lineStart := true }, 1) else (s, 1)
  | .block =>
    if c = '*' ∧ next = '/' then
      let depth := s.blockDepth - 1
      ({ s with blockDepth := depth, comment := if depth = 0 then .none else .block }, 2)
    else if c = '/' ∧ next = '*' ∧ s.nestedComments then
      ({ s with blockDepth := s.blockDepth + 1 }, 2)
    else if c = '\n' then ({ s with lineStart := true }, 1)
    else (s, 1)
  | .none =>
    match s.quote with
    | some quote =>
      if c = '\\' ∧ s.backslash quote then (s, if rest.isEmpty then 1 else 2)
      else if c = quote then
        if next = quote then (s, 2) else ({ s with quote := none, eString := false }, 1)
      else (s, 1)
    | none =>
      if s.bracket then
        if c = ']' then
          if next = ']' then (s, 2) else ({ s with bracket := false }, 1)
        else (s, 1)
      else
        match s.dollar with
        | some tag =>
          if tag.isPrefixOf (c :: rest) then ({ s with dollar := none }, tag.length) else (s, 1)
        | none => (s, 1)

/-- In code, past the directives and the delimiter: the comment or the quote that
opens here, or one more character of the statement. -/
def codeMove (s : SqlSplitter) (last : Bool) (c : Char) (rest : Text) : SqlSplitter × Nat :=
  let next := rest.head?.getD '\x00'
  let mysql := s.dialect == .mysql
  let after := (rest.drop 1).head?
  -- MySQL needs white space after `--`; `5--3` is arithmetic there.
  if c = '-' ∧ next = '-' ∧
      (!mysql || after.any isWhitespace || (after.isNone && last)) then
    ({ s with comment := .line }, 2)
  else if c = '#' ∧ mysql then ({ s with comment := .line }, 1)
  else if c = '/' ∧ next = '*' then
    let conditional := mysql &&
      (after == some '!' || (after == some 'M' && (rest.drop 2).head? == some '!'))
    -- What stands in `/*! … */` runs on MySQL: the statement is real code.
    let marked := if conditional then s.markSql (c :: rest) else s
    ({ marked with comment := .block, blockDepth := 1 }, 2)
  else if c = '\'' ∨ c = '"' ∨ (c = '`' ∧ s.dialect ≠ .postgres ∧ s.dialect ≠ .mssql) then
    let marked := s.markSql (c :: rest)
    let eString := s.dialect == .postgres && c == '\'' && (s.prev == 'E' || s.prev == 'e') &&
      !isWordChar s.prev2
    ({ marked with eString := eString, quote := some c }, 1)
  else if c = '[' ∧ s.dialect = .mssql then
    ({ s.markSql (c :: rest) with bracket := true }, 1)
  else
    let tag := if c = '$' ∧ s.dialect = .postgres ∧ !isWordChar s.prev then dollarTag (c :: rest)
      else none
    match tag with
    | some tag => ({ s.markSql (c :: rest) with dollar := some tag }, tag.length)
    | none =>
      let marked := if !isWhitespace c && c != byteOrderMark then s.markSql (c :: rest) else s
      (if c = '\n' then { marked with lineStart := true } else marked, 1)

end SqlSplitter

open SqlSplitter

/-- The loop of `scan_buffer`: the splitter, the text it has passed but not yet
appended to `current`, and the statements it has pushed. -/
structure Scan where
  splitter : SqlSplitter
  pending : Text
  out : List SqlStatement
deriving DecidableEq

namespace Scan

/-- The characters stay in the statement. -/
def advance (scan : Scan) (move : SqlSplitter × Nat) (buf : Text) : Scan × Nat :=
  ({ scan with
      splitter := move.1.consume (buf.take move.2)
      pending := scan.pending ++ buf.take move.2 }, move.2)

/-- A delimiter or a directive line of `used` characters ends the statement. -/
def cut (scan : Scan) (buf : Text) (used : Nat) (directive : Bool) :
    Except AppError (Scan × Nat) :=
  match scan.splitter.append scan.pending with
  | .error error => .error error
  | .ok appended =>
    let (taken, found) := appended.takeStatement
    let passed := taken.consume (buf.take used)
    .ok (⟨if directive then { passed with lineStart := true } else passed, [], scan.out ++ found⟩,
      used)

/-- A `DELIMITER` line changes the delimiter and ends no statement. -/
def redelimit (scan : Scan) (buf : Text) (used : Nat) (token : Text) :
    Except AppError (Scan × Nat) :=
  match scan.splitter.append scan.pending with
  | .error error => .error error
  | .ok appended =>
    let passed := appended.consume (buf.take used)
    .ok (⟨{ passed with delimiter := token, lineStart := true }, [], scan.out⟩, used)

/-- What begins at a character in code. -/
inductive Opening where
  | delimiterLine (used : Nat) (token : Text)
  | batchLine (used : Nat)
  | delimiter
  | other
deriving DecidableEq

/-- MySQL's `DELIMITER` line, in front of a statement. -/
def delimiterLine (s : SqlSplitter) (last : Bool) (buf : Text) :
    Except AppError (Option (Nat × Text)) :=
  if s.lineStart && s.dialect == .mysql && !s.hasSql then parseDelimiter buf last else .ok none

/-- SQL Server's `GO` line and Oracle's `/` line. -/
def batchLine (s : SqlSplitter) (last : Bool) (buf : Text) : Option Nat :=
  if s.lineStart && s.dialect == .mssql then parseGo buf last
  else if s.lineStart && s.dialect == .oracle then parseSlash buf last
  else none

def opening (s : SqlSplitter) (last : Bool) (buf : Text) : Except AppError Opening :=
  match delimiterLine s last buf with
  | .error error => .error error
  | .ok (some (used, token)) => .ok (.delimiterLine used token)
  | .ok none =>
    match batchLine s last buf with
    | some used => .ok (.batchLine used)
    | none =>
      if !s.plsql && s.delimiter.isPrefixOf buf then .ok .delimiter else .ok .other

/-- One turn of the loop, with the number of characters it takes. -/
def step (scan : Scan) (last : Bool) (c : Char) (rest : Text) : Except AppError (Scan × Nat) :=
  let s := scan.splitter
  if s.inCode then
    match opening s last (c :: rest) with
    | .error error => .error error
    | .ok (.delimiterLine used token) => scan.redelimit (c :: rest) used token
    | .ok (.batchLine used) => scan.cut (c :: rest) used true
    | .ok .delimiter => scan.cut (c :: rest) s.delimiter.length false
    | .ok .other => .ok (scan.advance (s.codeMove last c rest) (c :: rest))
  else .ok (scan.advance (s.insideMove c rest) (c :: rest))

/-- `scan_buffer`: turns are taken while their first character is before `limit`.
`skip` counts the characters the last turn has taken already. -/
def scanBuffer (last : Bool) (skip limit : Nat) (scan : Scan) : Text → Except AppError (Scan × Text)
  | [] => .ok (scan, [])
  | c :: rest =>
    match skip, limit with
    | skip + 1, limit => scanBuffer last skip (limit - 1) scan rest
    | 0, 0 => .ok (scan, c :: rest)
    | 0, limit + 1 =>
      match scan.step last c rest with
      | .error error => .error error
      | .ok (next, used) => scanBuffer last (used - 1) limit next rest

end Scan

namespace SqlSplitter

def run (s : SqlSplitter) (last : Bool) : Except AppError (SqlSplitter × List SqlStatement) :=
  let limit := if last then s.carry.length else s.carry.length - s.hold
  match Scan.scanBuffer last 0 limit ⟨{ s with carry := [] }, [], []⟩ s.carry with
  | .error error => .error error
  | .ok (scan, carry) =>
    match scan.splitter.append scan.pending with
    | .error error => .error error
    | .ok appended => .ok ({ appended with carry := carry }, scan.out)

/-- Adds text; returns the statements it completed. -/
def feed (s : SqlSplitter) (chunk : Text) : Except AppError (SqlSplitter × List SqlStatement) :=
  run { s with carry := s.carry ++ chunk } false

/-- The splitter stands inside a quote or a block comment. -/
def unclosed (s : SqlSplitter) : Bool :=
  s.quote.isSome || s.bracket || s.dollar.isSome || s.comment == .block

/-- Ends the script: the last statement needs no delimiter. -/
def finish (s : SqlSplitter) : Except AppError (SqlSplitter × List SqlStatement) :=
  match s.run true with
  | .error error => .error error
  | .ok (ended, out) =>
    if ended.unclosed then
      .error (.invalidInput ("The script ends inside a quoted value or comment that began ".toList ++
        "before line ".toList ++ decimal ended.line ++ ". Check for a missing quote.".toList))
    else
      let (taken, found) := ended.takeStatement
      .ok (taken, out ++ found)

/-- The statements of a script fed in chunks, up to the first call that fails. -/
def emitted (s : SqlSplitter) : List Text → List SqlStatement
  | [] =>
    match s.finish with
    | .error _ => []
    | .ok (_, out) => out
  | chunk :: chunks =>
    match s.feed chunk with
    | .error _ => []
    | .ok (fed, out) => out ++ emitted fed chunks

end SqlSplitter

/-- The statements the splitter of a dialect cuts from a script fed as a whole. -/
def split (dialect : SplitDialect) (script : Text) : List Text :=
  ((SqlSplitter.new dialect).emitted [script]).map SqlStatement.text

example : split .mssql "SELECT 1\nGO\nDROP TABLE [t;]".toList =
    ["SELECT 1".toList, "DROP TABLE [t;]".toList] := by decide +kernel

end DbFree.SqlImport
