import DbFree.Engine
import DbFree.Errors
import DbFree.Transactions

/- The commit of staged edits (services/changes.rs): in a transaction of its own, under a
savepoint of the user's, as a wrapped script, or one by one. -/
namespace DbFree.Changes

open Transactions

/-- How a connection's row edits are written. -/
inductive EditDialect where
  | sql | clickhouseMutations | dynamoPartiql
deriving DecidableEq

/-- `profile(family).capabilities.sql`. -/
def speaksSql : Family → Bool
  | .postgres | .mysql | .mssql | .oracle | .sqlite | .duckdb | .clickhouse | .druid | .snowflake
  | .bigquery | .libsql | .valTown | .cloudflareD1 | .cassandra | .immudb | .orientdb | .qldb
  | .spacetimedb => true
  | _ => false

def editDialect (engine : Engine) : Option EditDialect :=
  match engine.family with
  | .dynamodb => some .dynamoPartiql
  | .clickhouse => some .clickhouseMutations
  | .druid => none
  | family => if speaksSql family then some .sql else none

/-- What one planned statement is, for the report. -/
inductive PlannedKind where
  | update | insert | delete | ddl
deriving DecidableEq

structure PlannedStatement where
  id : Text
  sql : Text
  kind : PlannedKind
deriving DecidableEq

/-- What Commit will run. -/
structure CommitPlan where
  engine : Engine
  items : List PlannedStatement
  returning : Bool

def CommitPlan.runSql (plan : CommitPlan) (item : PlannedStatement) : Text :=
  if plan.returning && (item.kind == .update || item.kind == .insert) then
    item.sql ++ " RETURNING *".toList
  else item.sql

/-- The statements that open and close an all-or-nothing script on engines with
transactions but no pinned-connection API. -/
structure ScriptParts where
  before : List Text
  commit : Text
  rollback : Text

def scriptParts (engine : Engine) : Option ScriptParts :=
  match engine.family with
  | .clickhouse | .cloudflareD1 | .valTown | .dynamodb | .druid => none
  | .mssql => some ⟨["SET XACT_ABORT ON".toList, "BEGIN TRANSACTION".toList],
      "COMMIT TRANSACTION".toList, "IF @@TRANCOUNT > 0 ROLLBACK TRANSACTION".toList⟩
  | .oracle => some ⟨[], "COMMIT".toList, "ROLLBACK".toList⟩
  | _ => some ⟨["BEGIN".toList], "COMMIT".toList, "ROLLBACK".toList⟩

def isAtomic (engine : Engine) (items : List PlannedStatement) : Bool :=
  let onlyDdl := items.all (·.kind == .ddl)
  if onlyDdl && (editDialect engine).isNone then false
  else editDialect engine == some .sql && (scriptParts engine).isSome

/-- Whether the commit is all-or-nothing on this engine. -/
def CommitPlan.atomic (plan : CommitPlan) : Bool := isAtomic plan.engine plan.items

inductive StatementResult where
  | affected (rowsAffected : Nat)
  | rows (columns : List Text) (rows : List (List Text)) (truncated : Bool)
deriving DecidableEq

/-- Stand-in for an engine that said nothing about a statement. -/
def unknownResult : StatementResult := .rows [] [] true

/-- Rows a RETURNING statement may hand back. -/
def returnedRowCap : Nat := 1000

/-- An adapter and the server behind it: how it cuts a text into statements, and what the
server takes each of them for. A statement comes with the most rows it may return; some
give no result. -/
structure Adapter (Data : Type) where
  manualTransactions : Bool
  cut : Text → List Text
  reads : Text → Nat → Command Text (Text × Nat)
  server : Server Data Text (Text × Nat) (Option StatementResult) AppError

section Commit

variable {Data : Type} (adapter : Adapter Data) (fails : Nat → Option AppError)

abbrev EditSession (Data : Type) := Session Data Text

def Adapter.inTransaction (session : EditSession Data) : Bool :=
  adapter.manualTransactions && session.work.isSome

/-- A command of the adapter's own, whose result nobody reads. -/
def Adapter.tell (command : Command Text (Text × Nat)) (session : EditSession Data) :
    Except AppError Unit × EditSession Data :=
  match session.send adapter.server fails command with
  | (.ok _, later) => (.ok (), later)
  | (.error error, later) => (.error error, later)

def Adapter.beginTransaction : EditSession Data → Except AppError Unit × EditSession Data :=
  adapter.tell fails .begin

def Adapter.commitTransaction : EditSession Data → Except AppError Unit × EditSession Data :=
  adapter.tell fails .commit

def Adapter.rollbackTransaction : EditSession Data → Except AppError Unit × EditSession Data :=
  adapter.tell fails .rollback

/-- What the server is sent of a text. -/
def Adapter.commands (sql : Text) (maxRows : Nat) : List (Command Text (Text × Nat)) :=
  (adapter.cut sql).map (adapter.reads · maxRows)

def Adapter.execute (sql : Text) (maxRows : Nat) (session : EditSession Data) :
    Except AppError (List StatementResult) × EditSession Data :=
  match Session.sendAll adapter.server fails (adapter.commands sql maxRows) session with
  | (.ok results, later) => (.ok (results.filterMap id), later)
  | (.error error, later) => (.error error, later)

variable (plan : CommitPlan)

/-- The error of a change says which one it was. -/
def changeFailed (index : Nat) : AppError → AppError
  | .driver message position hint detail =>
    .driver ("Change ".toList ++ (toString (index + 1)).toList ++ " of ".toList ++
      (toString plan.items.length).toList ++ " failed: ".toList ++ message) position hint detail
  | error => error

def runEachFrom (index : Nat) : List PlannedStatement → EditSession Data →
    Except AppError (List StatementResult) × EditSession Data
  | [], session => (.ok [], session)
  | item :: rest, session =>
    match adapter.execute fails (plan.runSql item) returnedRowCap session with
    | (.error error, later) => (.error (changeFailed plan index error), later)
    | (.ok results, later) =>
      match runEachFrom (index + 1) rest later with
      | (.error error, last) => (.error error, last)
      | (.ok others, last) => (.ok (results.head?.getD unknownResult :: others), last)

def runEach (session : EditSession Data) :
    Except AppError (List StatementResult) × EditSession Data :=
  runEachFrom adapter fails plan 0 plan.items session

def runInNewTransaction (session : EditSession Data) :
    Except AppError (List StatementResult) × EditSession Data :=
  match adapter.beginTransaction fails session with
  | (.error error, later) => (.error error, later)
  | (.ok _, begun) =>
    match runEach adapter fails plan begun with
    | (.ok results, ran) =>
      -- A failed COMMIT still ends the transaction.
      match adapter.commitTransaction fails ran with
      | (.ok _, last) => (.ok results, last)
      | (.error error, last) => (.error error, last)
    | (.error error, ran) => (.error error, (adapter.rollbackTransaction fails ran).2)

def savepointName : Text := "db_free_commit".toList

def savepointSql : Text := "SAVEPOINT ".toList ++ savepointName

def releaseSql : Text := "RELEASE SAVEPOINT ".toList ++ savepointName

def rollbackToSql : Text := "ROLLBACK TO SAVEPOINT ".toList ++ savepointName

/-- The edits, with the savepoint set, and its release or the way back to it. -/
def underSavepoint (session : EditSession Data) :
    Except AppError (List StatementResult) × EditSession Data :=
  match runEach adapter fails plan session with
  | (.ok results, ran) =>
    match adapter.execute fails releaseSql 0 ran with
    | (.ok _, last) => (.ok results, last)
    | (.error error, last) => (.error error, last)
  | (.error error, ran) => (.error error, (adapter.execute fails rollbackToSql 0 ran).2)

def runInSavepoint (session : EditSession Data) :
    Except AppError (List StatementResult) × EditSession Data :=
  match adapter.execute fails savepointSql 0 session with
  | (.error error, later) => (.error error, later)
  | (.ok _, saved) => underSavepoint adapter fails plan saved

def wrappedScript (parts : ScriptParts) : Text :=
  parts.before.flatMap (· ++ ";\n".toList) ++
    plan.items.flatMap (fun item => plan.runSql item ++ ";\n".toList) ++ parts.commit ++ [';']

def runAsScript (parts : ScriptParts) (session : EditSession Data) :
    Except AppError (List StatementResult) × EditSession Data :=
  match adapter.execute fails (wrappedScript plan parts) returnedRowCap session with
  | (.ok results, last) =>
    if results.length = parts.before.length + plan.items.length + 1 then
      (.ok ((results.drop parts.before.length).take plan.items.length), last)
    else if results.length = plan.items.length then (.ok results, last)
    -- The adapter folded or skipped some results; positions cannot be trusted.
    else (.ok (plan.items.map fun _ => unknownResult), last)
  | (.error error, ran) => (.error error, (adapter.execute fails parts.rollback 0 ran).2)

/-- Runs a commit plan so it either lands whole or not at all. -/
def commit (session : EditSession Data) :
    Except AppError (List StatementResult) × EditSession Data :=
  if editDialect plan.engine = some .sql ∧ adapter.manualTransactions = true then
    if adapter.inTransaction session then runInSavepoint adapter fails plan session
    else runInNewTransaction adapter fails plan session
  else
    match plan.atomic, scriptParts plan.engine with
    | true, some parts => runAsScript adapter fails plan parts session
    | _, _ => runEach adapter fails plan session

end Commit

end DbFree.Changes
