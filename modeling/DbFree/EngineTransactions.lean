import DbFree.SessionHazards
import DbFree.SqlImport

/- How an engine reads the transaction statements of a script, and what running them leaves
on the connection. -/
namespace DbFree.Pooling

open Chars Texts
open Destructive (has)
open SqlImport (SplitDialect SqlSplitter)

def splitDialect : Dialect → SplitDialect
  | .postgres => .postgres
  | .mysql => .mysql
  | .mssql => .mssql

/-- The mark of a comment that MySQL runs, with the version behind it. -/
def conditionalLen (text : Text) : Nat :=
  let mark := if "/*!".toList.isPrefixOf text then 3
    else if "/*M!".toList.isPrefixOf text then 4 else 0
  if mark = 0 then 0 else mark + ((text.drop mark).takeWhile Char.isDigit).length

/-- A statement with a blank for each quote and each comment, by the quoting rules of the
engine; what MySQL runs of a comment stays. -/
def codeText (s : SqlSplitter) (conditional : Bool) : Nat → Text → Text
  | _, [] => []
  | skip + 1, _ :: rest => codeText s conditional skip rest
  | 0, c :: rest =>
    let mark := conditionalLen (c :: rest)
    if s.inCode && conditional && c == '*' && rest.head? == some '/' then
      ' ' :: codeText s false 1 rest
    else if s.inCode && s.dialect == .mysql && mark != 0 then
      ' ' :: codeText s true (mark - 1) rest
    else
      let move := if s.inCode then s.codeMove true c rest else s.insideMove c rest
      let next := move.1.consume ((c :: rest).take move.2)
      (if s.inCode && next.inCode then c else ' ') :: codeText next conditional (move.2 - 1) rest

/-- The token that starts here in a text without quotes and comments. -/
def codeTokenAt (c : Char) (rest : Text) : Option Tok × Nat :=
  if c == ':' && rest.head? == some '=' then (some .assign, 1)
  else if c == '@' then
    let ats := rest.takeWhile (· == '@')
    let name := (rest.drop ats.length).takeWhile isVariableChar
    (some (.word (c :: ats ++ toAsciiUppercase name)), ats.length + name.length)
  else if isWordChar c then
    let more := rest.takeWhile isWordChar
    (some (.word (toAsciiUppercase (c :: more))), more.length)
  else (none, 0)

def codeTokens : Nat → Text → List Tok
  | _, [] => []
  | skip + 1, _ :: rest => codeTokens skip rest
  | 0, c :: rest =>
    let (tok, len) := codeTokenAt c rest
    tok.toList ++ codeTokens len rest

def wordsOf (toks : List Tok) : List Text := toks.filterMap Tok.word?

/-- The statements of a script as the engine cuts and reads them, those with words. -/
def engineReading (dialect : Dialect) (script : Text) : List (List Tok) :=
  ((SqlImport.split (splitDialect dialect) script).map fun statement =>
    codeTokens 0 (codeText (SqlSplitter.new (splitDialect dialect)) false 0 statement)).filter
      fun toks => !(wordsOf toks).isEmpty

/-- What a statement does to the transaction of its connection. -/
inductive Command where
  /-- `BEGIN`, `START TRANSACTION`. -/
  | start
  /-- `COMMIT`, `END`; the next transaction starts at once with `AND CHAIN`. -/
  | commit (chain : Bool)
  /-- `ROLLBACK`, `ABORT`. -/
  | rollback (chain : Bool)
  /-- `ROLLBACK TO` a savepoint. -/
  | rollbackTo
  /-- SQL Server's `ROLLBACK TRAN` with a name, of a savepoint or of the transaction. -/
  | rollbackNamed (name : Text)
  /-- `SAVEPOINT`, `SAVE TRAN`, `RELEASE`. -/
  | savepoint (name : Text)
  /-- `PREPARE TRANSACTION`: the transaction leaves the connection. -/
  | prepare
  /-- `COMMIT PREPARED`, `ROLLBACK PREPARED`: about a transaction that has left. -/
  | prepared
  /-- The phases of an XA transaction. -/
  | xa (phase : Text)
  /-- Whether the engine commits each statement by itself. -/
  | automatic (on : Bool)
  | other
deriving DecidableEq

def nth (words : List Text) (place : Nat) : Text := (words[place]?).getD []

/-- What stands behind the first word and an optional noise word. -/
def afterNoise (words : List Text) : List Text :=
  if isIn (nth words 1) ["WORK", "TRANSACTION", "TRAN"] then words.drop 2 else words.drop 1

def chained (rest : List Text) : Bool :=
  nth rest 0 == "AND".toList && nth rest 1 == "CHAIN".toList

def commandPostgres (words : List Text) : Command :=
  let first := words.headD []
  let rest := afterNoise words
  if isIn first ["BEGIN"] || isIn first ["START"] && isIn (nth words 1) ["TRANSACTION"] then .start
  else if isIn first ["COMMIT", "END"] then
    if isIn (nth rest 0) ["PREPARED"] then .prepared else .commit (chained rest)
  else if isIn first ["ROLLBACK"] && isIn (nth rest 0) ["TO"] then .rollbackTo
  else if isIn first ["ROLLBACK", "ABORT"] then
    if isIn (nth rest 0) ["PREPARED"] then .prepared else .rollback (chained rest)
  else if isIn first ["SAVEPOINT", "RELEASE"] then .savepoint (nth words 1)
  else if isIn first ["PREPARE"] && isIn (nth words 1) ["TRANSACTION"] then .prepare
  else .other

/-- The last value that a `SET` gives to the session's `autocommit`; a scope holds for the
names behind it. -/
def autocommitOf (session : Bool) : List Text → Option Bool
  | [] => none
  | word :: rest =>
    let scope := if isIn word ["GLOBAL", "PERSIST", "PERSIST_ONLY"] then false
      else isIn word ["SESSION", "LOCAL"] || session
    let named := isIn word ["@@AUTOCOMMIT", "@@SESSION.AUTOCOMMIT", "@@LOCAL.AUTOCOMMIT"] ||
      session && isIn word ["AUTOCOMMIT"]
    autocommitOf scope rest <|>
      if named then some (isIn (rest.headD []) ["1", "ON", "TRUE", "DEFAULT"]) else none

def commandMysql (words : List Text) : Command :=
  let first := words.headD []
  let rest := afterNoise words
  if isIn first ["BEGIN"] || isIn first ["START"] && isIn (nth words 1) ["TRANSACTION"] then .start
  else if isIn first ["COMMIT"] then .commit (chained rest)
  else if isIn first ["ROLLBACK"] then
    if isIn (nth rest 0) ["TO"] then .rollbackTo else .rollback (chained rest)
  else if isIn first ["SAVEPOINT", "RELEASE"] then .savepoint (nth words 1)
  else if isIn first ["XA"] then .xa (nth words 1)
  else if isIn first ["SET"] then
    match autocommitOf true words.tail with
    | some on => .automatic on
    | none => .other
  else .other

def commandMssql (words : List Text) : Command :=
  let first := words.headD []
  let rest := afterNoise words
  if isIn first ["BEGIN"] && isIn (nth words 1) ["TRAN", "TRANSACTION", "DISTRIBUTED"] then .start
  else if isIn first ["COMMIT"] then .commit false
  else if isIn first ["ROLLBACK"] then
    if rest.isEmpty then .rollback false else .rollbackNamed (nth rest 0)
  else if isIn first ["SAVE"] then .savepoint (nth words 2)
  else if isIn first ["SET"] && (has words "IMPLICIT_TRANSACTIONS" || has words "ANSI_DEFAULTS") then
    .automatic (!has words "ON")
  else .other

def command : Dialect → List Text → Command
  | .postgres => commandPostgres
  | .mysql => commandMysql
  | .mssql => commandMssql

/-- The engine's side of a connection. -/
structure Connection where
  /-- Transactions begun and not ended; SQL Server counts them. -/
  depth : Nat
  /-- No statement is committed by itself. -/
  manual : Bool
  /-- A transaction has ended since then. -/
  ended : Bool
  saves : List Text
deriving DecidableEq

namespace Connection

def fresh : Connection := ⟨0, false, false, []⟩

def isOpen (connection : Connection) : Bool := 0 < connection.depth

/-- The transaction ends, and the next one starts at once where it is chained. -/
def finish (connection : Connection) (dialect : Dialect) (chain : Bool) : Connection :=
  let next := if chain && (dialect == .mysql || connection.isOpen) then 1 else 0
  { connection with depth := next, ended := true, saves := [] }

/-- One statement; `opens` tells whether it reads or writes tables. -/
def step (dialect : Dialect) (opens : List Tok → Bool) (connection : Connection)
    (toks : List Tok) : Connection :=
  match command dialect (wordsOf toks) with
  | .start =>
    -- where nothing is committed by itself, SQL Server's first `BEGIN TRAN` counts twice
    let begun := if connection.manual && !connection.isOpen then 2 else connection.depth + 1
    { connection with depth := if dialect = .mssql then begun else 1 }
  | .commit chain =>
    if dialect = .mssql then { connection with depth := connection.depth - 1, ended := true }
    else connection.finish dialect chain
  | .rollback chain => connection.finish dialect chain
  | .rollbackTo => connection
  | .rollbackNamed name =>
    if name ∈ connection.saves then connection else connection.finish dialect false
  | .savepoint name => { connection with saves := name :: connection.saves }
  | .prepare => { connection with depth := 0 }
  | .prepared => connection
  | .xa phase =>
    if isIn phase ["START", "BEGIN"] then { connection with depth := 1 }
    else if isIn phase ["COMMIT", "ROLLBACK"] then { connection with depth := 0 }
    else connection
  | .automatic on =>
    { connection with
      depth := if on && dialect == .mysql then 0 else connection.depth
      manual := !on
      ended := false }
  | .other =>
    if connection.manual && !connection.isOpen && opens toks then { connection with depth := 1 }
    else connection

end Connection

/-- The connection behind a run of statements. -/
def runEngine (dialect : Dialect) (opens : List Tok → Bool) (statements : List (List Tok)) :
    Connection :=
  statements.foldl (Connection.step dialect opens) .fresh

end DbFree.Pooling
