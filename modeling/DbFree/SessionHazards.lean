import DbFree.Destructive

/- What a script can leave behind on the connection it ran on (integrations/pooling.rs). -/
namespace DbFree.Pooling

open Chars Texts
open Destructive (quotedLen lineLen blockLen dollarTag dollarLen isQuote startsLineComment
  startsBlockComment splitStatements has)

inductive Dialect where
  | postgres | mysql | mssql
deriving DecidableEq

structure Hazard where
  transaction : Bool
  leftOpen : Bool
  state : Bool
  databaseSwitch : Bool
deriving DecidableEq

def Hazard.default : Hazard := ⟨false, false, false, false⟩

def Hazard.any (hazard : Hazard) : Bool :=
  hazard.transaction || hazard.state || hazard.databaseSwitch

inductive Tok where
  | word (word : Text)
  | assign
deriving DecidableEq

def isVariableChar (c : Char) : Bool := isWordChar c || c == '.'

/-- The word or operator that starts here, if one does, and the characters behind its first. -/
def tokenAt (hashComments : Bool) (c : Char) (rest : Text) : Option Tok × Nat :=
  if isQuote c then (none, quotedLen c rest)
  else if startsLineComment c rest.head? then (none, lineLen rest)
  else if c == '#' && hashComments then (none, lineLen rest)
  else if startsBlockComment c rest.head? then (none, blockLen rest.tail + 1)
  else if c == '$' then (none, dollarLen rest)
  else if c == ':' && rest.head? == some '=' then (some .assign, 1)
  else if c == '@' then
    let ats := rest.takeWhile (· == '@')
    let name := (rest.drop ats.length).takeWhile isVariableChar
    (some (.word (c :: ats ++ toAsciiUppercase name)), ats.length + name.length)
  else if isWordChar c then
    let more := rest.takeWhile isWordChar
    (some (.word (toAsciiUppercase (c :: more))), more.length)
  else (none, 0)

def lexLoop (hashComments : Bool) : Nat → Text → List Tok
  | _, [] => []
  | skip + 1, _ :: rest => lexLoop hashComments skip rest
  | 0, c :: rest =>
    let (tok, len) := tokenAt hashComments c rest
    tok.toList ++ lexLoop hashComments len rest

def lex (statement : Text) (hashComments : Bool) : List Tok := lexLoop hashComments 0 statement

def Tok.word? : Tok → Option Text
  | .word name => some name
  | .assign => none

def pgSessionFunctions : List String :=
  ["SET_CONFIG", "PG_ADVISORY_LOCK", "PG_ADVISORY_LOCK_SHARED", "PG_TRY_ADVISORY_LOCK",
    "PG_TRY_ADVISORY_LOCK_SHARED"]

def chains (words : List Text) : Bool := has words "CHAIN" && !has words "NO"

/-- A `ROLLBACK` that only goes back to a savepoint. -/
def rollsBackTo (words : List Text) (second : Text) : Bool :=
  second == "TO".toList || has words "TO" && has words "SAVEPOINT"

def scanPostgres (h : Hazard) (w : List Text) : Hazard :=
  let first := w.headD []
  let second := w.tail.headD []
  let led :=
    if isIn first ["BEGIN", "START"] then { h with transaction := true, leftOpen := true }
    else if isIn first ["COMMIT", "END", "ABORT"] then { h with leftOpen := chains w }
    else if isIn first ["ROLLBACK"] then
      if rollsBackTo w second then h else { h with leftOpen := chains w }
    else if isIn first ["SAVEPOINT", "RELEASE", "LOCK"] then { h with transaction := true }
    else if isIn first ["SET"] then
      if isIn second ["LOCAL", "TRANSACTION", "CONSTRAINTS"] then { h with transaction := true }
      else { h with state := true }
    else if isIn first ["RESET", "LISTEN", "PREPARE", "LOAD"] then { h with state := true }
    else if isIn first ["DECLARE"] then
      if has w "HOLD" && !has w "WITHOUT" then { h with state := true }
      else { h with transaction := true }
    else if isIn first ["CREATE"] &&
        (w.take 4).any fun t => isIn t ["TEMP", "TEMPORARY"] then { h with state := true }
    else h
  if isIn first ["SET"] then led
  else
    let called :=
      if (w.any fun t => isIn t pgSessionFunctions) ||
          has w "INTO" && (has w "TEMP" || has w "TEMPORARY") then { led with state := true }
      else led
    if has w "PG_ADVISORY_XACT_LOCK" || has w "PG_TRY_ADVISORY_XACT_LOCK" then
      { called with transaction := true }
    else called

/-- `@x := …` and `… INTO @x` set a variable that outlives the statement. -/
def setsVariable (seenInto : Bool) : List Tok → Bool
  | [] => false
  | .assign :: rest => setsVariable seenInto rest
  | .word word :: rest =>
    let seen := seenInto || word == "INTO".toList
    (startsWith word "@" && !startsWith word "@@" &&
      (seen || rest.head? == some .assign)) || setsVariable seen rest

def endsWith (text : Text) (ending : String) : Bool := ending.toList.isSuffixOf text

def scanMysql (h : Hazard) (w : List Text) (toks : List Tok) : Hazard :=
  let first := w.headD []
  let second := w.tail.headD []
  let led :=
    if isIn first ["BEGIN"] then { h with transaction := true, leftOpen := true }
    else if isIn first ["START"] && isIn second ["TRANSACTION"] then
      { h with transaction := true, leftOpen := true }
    else if isIn first ["COMMIT"] then { h with leftOpen := chains w }
    else if isIn first ["ROLLBACK"] then
      if rollsBackTo w second then h else { h with leftOpen := chains w }
    else if isIn first ["SAVEPOINT", "RELEASE"] then { h with transaction := true }
    else if isIn first ["XA"] then { h with transaction := true, leftOpen := true }
    else if isIn first ["SET"] then
      if isIn second ["GLOBAL", "PERSIST", "PERSIST_ONLY"] then h
      else if w.any fun t => endsWith t "AUTOCOMMIT" then
        { h with state := true, transaction := true, leftOpen := true }
      else { h with state := true }
    else if isIn first ["USE"] then { h with databaseSwitch := true }
    else if isIn first ["LOCK", "PREPARE", "HANDLER", "DEALLOCATE"] then { h with state := true }
    else if isIn first ["FLUSH"] && has w "LOCK" then { h with state := true }
    else if isIn first ["CREATE"] && (w.take 3).any fun t => isIn t ["TEMPORARY"] then
      { h with state := true }
    else h
  if isIn first ["SET"] then led
  else if has w "GET_LOCK" || setsVariable false toks then { led with state := true }
  else led

def scanMssql (h : Hazard) (w : List Text) : Hazard :=
  let first := w.headD []
  let second := w.tail.headD []
  if isIn first ["BEGIN"] && (startsWith second "TRAN" || isIn second ["DISTRIBUTED"]) then
    { h with transaction := true, leftOpen := true }
  else if isIn first ["COMMIT", "ROLLBACK"] then { h with leftOpen := false }
  else if isIn first ["SAVE"] then { h with transaction := true }
  else if isIn first ["SET"] && has w "IMPLICIT_TRANSACTIONS" then
    { h with transaction := true, leftOpen := true }
  else h

def scanStatement (dialect : Dialect) (hazard : Hazard) (statement : Text) : Hazard :=
  let toks := lex statement (dialect == .mysql)
  let words := toks.filterMap Tok.word?
  if words.isEmpty then hazard
  else
    match dialect with
    | .postgres => scanPostgres hazard words
    | .mysql => scanMysql hazard words toks
    | .mssql => scanMssql hazard words

/-- What the script can leave behind, its statements read in order. -/
def scan (sql : Text) (dialect : Dialect) : Hazard :=
  (splitStatements sql).foldl (scanStatement dialect) .default

example : (scan "SELECT 1; SET search_path TO x".toList .postgres).any = true := by decide +kernel

end DbFree.Pooling
