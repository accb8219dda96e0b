import DbFree.Documents
import DbFree.Errors
import DbFree.NativeDialect

/- What the agent must ask the user about before it runs a statement or saves a document
(services/agent/tools.rs, services/agent/documents/mod.rs). -/
namespace DbFree.Agent

open Destructive Texts

inductive AgentAutonomy where
  | readOnly | askOnWrite | full
deriving DecidableEq

inductive PermissionDecision where
  | allow | allowForRun | deny
deriving DecidableEq

/-- A tool call waiting on the user before it may run. -/
structure PermissionRequest where
  callId : Text
  tool : Text
  title : Text
  statement : Option Text
  statements : List Text
  intent : StatementKind
  reason : Text
  actionLabel : Option Text
deriving DecidableEq

/-- What the gates read of a tool's context. -/
structure ToolCtx where
  engine : Engine
  connectionReadOnly : Bool
  autonomy : AgentAutonomy
  callId : Text

/-- At most 120 characters of a statement, on one line. -/
def preview (sql : Text) : Text :=
  let flat := [' '].intercalate (splitWhitespace sql)
  if flat.length > 120 then flat.take 117 ++ "...".toList else flat

/-- The most invasive of the kinds. -/
def worst (kinds : List StatementKind) : StatementKind :=
  kinds.foldl (fun found kind => if found.rank ≤ kind.rank then kind else found) .read

def previewOf (statement : ClassifiedStatement) : Text :=
  match statement.reason with
  | some reason => preview statement.text ++ " — ".toList ++ reason.toList
  | none => preview statement.text

def statementRequest (ctx : ToolCtx) (classified : List ClassifiedStatement)
    (statement purpose : Text) : PermissionRequest where
  callId := ctx.callId
  tool := "run_query".toList
  title := if purpose.isEmpty then "Run a statement".toList else purpose
  statement := some statement
  statements := (classified.filter fun s => s.kind ≠ .read).map previewOf
  intent := worst (classified.map ClassifiedStatement.kind)
  reason :=
    (if worst (classified.map ClassifiedStatement.kind) = .destructive then
      "This statement destroys or overwrites data and cannot be undone."
    else "This statement changes data in your database.").toList
  actionLabel := none

/-- What the gate of a statement answers before anything is asked. -/
inductive Gated where
  | refused (error : AppError)
  | runs
  | asks (request : PermissionRequest)
deriving DecidableEq

/-- The gate every statement of the agent passes through, up to the question it may ask. -/
def authorize (reader : JsonReader) (ctx : ToolCtx) (statement purpose : Text) : Gated :=
  let classified := GuardDialect.classify reader ctx.engine statement
  let kind := worst (classified.map ClassifiedStatement.kind)
  if ctx.connectionReadOnly ∧ kind ≠ .read then
    .refused (.readOnly
      "This connection is read-only, so I cannot run statements that change data.".toList)
  else
    match ctx.autonomy, kind with
    | _, .read => .runs
    | .readOnly, _ =>
      .refused (.readOnly ("The assistant is set to read-only. Change it in Settings → AI to let " ++
        "it write.").toList)
    | .askOnWrite, _ => .asks (statementRequest ctx classified statement purpose)
    | .full, .write => .runs
    | .full, .destructive => .asks (statementRequest ctx classified statement purpose)

/-- What the approval of a document reads of its draft. -/
structure Draft where
  name : Text
  summary : Text
  previews : List Text
  worst : StatementKind
  caveats : List Text

def reasonFor (kind : DocumentKind) (draft : Draft) (updating : Bool) : Text :=
  let verb := if updating then "replaces the saved" else "saves a new"
  let opening := "This ".toList ++ verb.toList ++ " ".toList
  let reason :=
    match kind, draft.worst with
    | .dashboard, _ => opening ++ "dashboard (".toList ++ draft.summary ++
      "). Its queries only read data and run each time the dashboard refreshes.".toList
    | .workflow, .read => opening ++ "workflow (".toList ++ draft.summary ++
      "). Nothing runs until you run it.".toList
    | .workflow, .write => opening ++ "workflow (".toList ++ draft.summary ++
      "). Some nodes change data; they run when you run the workflow.".toList
    | .workflow, .destructive => opening ++ "workflow (".toList ++ draft.summary ++
      ("). Some nodes delete or overwrite data; each needs your own \"Allow destructive " ++
        "statements\" tick in the editor before it can run.").toList
    | .diagram, _ => opening ++ "schema diagram (".toList ++ draft.summary ++
      "). Nothing is changed in the database.".toList
  reason ++ draft.caveats.flatMap fun caveat => ' ' :: caveat

def documentRequest (ctx : ToolCtx) (kind : DocumentKind) (draft : Draft) (updating : Bool) :
    PermissionRequest :=
  let verb := if updating then "Update " else "Create "
  { callId := ctx.callId
    tool := "create_".toList ++ kind.asStr.toList
    title := verb.toList ++ kind.asStr.toList ++ " \"".toList ++ draft.name ++ "\"".toList
    statement := none
    statements := draft.previews
    intent := draft.worst
    reason := reasonFor kind draft updating
    actionLabel := some (verb.toList ++ kind.asStr.toList) }

/-- The gate of a document, up to its question: one that changes data is refused where
nothing may change it. -/
def authorizeDocument (ctx : ToolCtx) (kind : DocumentKind) (draft : Draft) (updating : Bool) :
    Gated :=
  let noun := kind.asStr.toList
  if draft.worst ≠ .read ∧ ctx.autonomy = .readOnly then
    .refused (.readOnly ("The assistant is set to read-only, so it cannot save a ".toList ++ noun ++
      (" that changes data. Change it in Settings → AI, or give the user the statements to run " ++
        "themselves.").toList))
  else if draft.worst ≠ .read ∧ ctx.connectionReadOnly then
    .refused (.readOnly ("This connection is read-only, so a ".toList ++ noun ++
      (" that changes data could never run here. Rewrite it to only read, or describe the " ++
        "changes for the user.").toList))
  else .asks (documentRequest ctx kind draft updating)

/-- The kind a statement is run as. -/
def kindOf (reader : JsonReader) (engine : Engine) (statement : Text) : StatementKind :=
  worst ((GuardDialect.classify reader engine statement).map ClassifiedStatement.kind)

/-- A destructive statement never runs unasked. -/
theorem authorize_runs {reader : JsonReader} {ctx : ToolCtx} {statement purpose : Text}
    (runs : authorize reader ctx statement purpose = .runs) :
    kindOf reader ctx.engine statement ≠ .destructive := by
  intro destructive
  rw [kindOf] at destructive
  rw [authorize, destructive] at runs
  split at runs
  · cases runs
  · cases autonomy : ctx.autonomy with
    | readOnly => rw [autonomy] at runs; cases runs
    | askOnWrite => rw [autonomy] at runs; cases runs
    | full => rw [autonomy] at runs; cases runs

/-- The question about a statement shows that statement and how invasive it is. -/
theorem authorize_asks {reader : JsonReader} {ctx : ToolCtx} {statement purpose : Text}
    {request : PermissionRequest} (asks : authorize reader ctx statement purpose = .asks request) :
    request.statement = some statement ∧ request.tool = "run_query".toList ∧
      request.intent = kindOf reader ctx.engine statement := by
  have shown : request = statementRequest ctx
      (GuardDialect.classify reader ctx.engine statement) statement purpose := by
    rw [authorize] at asks
    split at asks
    · cases asks
    · split at asks <;> cases asks <;> rfl
  rw [shown]
  exact ⟨rfl, rfl, rfl⟩

end DbFree.Agent
