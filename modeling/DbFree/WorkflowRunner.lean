import DbFree.Dataset
import DbFree.Machine
import DbFree.WorkflowGraph

/- A run of a workflow: its groups of targets side by side, each pass after pass, each pass
level by level, the nodes of a level in parallel (services/workflows/runner.rs). -/
namespace DbFree

namespace Dataset

def empty : Dataset := ⟨[], []⟩

/-- The columns of all, in the order they are first seen. -/
def unionColumns (inputs : List Dataset) : List Text :=
  inputs.foldl (fun columns input =>
    input.columns.foldl (fun columns name =>
      if name ∈ columns then columns else columns ++ [name]) columns) []

/-- The rows of all one after another, a cell that an input lacks being NULL. -/
def union : List Dataset → Dataset
  | [] => empty
  | [only] => only
  | many => {
      columns := unionColumns many
      rows := many.flatMap fun input => input.rows.map fun row =>
        (unionColumns many).map fun name =>
          ((input.indexOf name).bind fun i => row[i]?).getD .null }

end Dataset

namespace Workflows

open Texts

inductive NodeRunState where
  | running
  | success
  | error
  | skipped
  | stopped
deriving DecidableEq

inductive RunStatus where
  | completed
  | failed
  | stopped
deriving DecidableEq

/-- What a node produced. -/
structure NodeOutput where
  outputs : List (Option SourceHandle × Dataset)
  rows : Option Nat
  filePath : Option Text
  /-- A gate that refused to let rows through. -/
  closed : Bool

/-- Why a node did not finish. -/
structure NodeFailure where
  message : Text
  /-- The user pressed Stop. -/
  stopped : Bool
deriving DecidableEq

structure WorkflowStepResult where
  nodeId : Text
  name : Text
  state : NodeRunState
  rows : Option Nat
  error : Option Text
  filePath : Option Text
deriving DecidableEq

inductive Outcome where
  | done (output : NodeOutput)
  /-- It failed but is set to continue; downstream sees an empty result. -/
  | continued
  | failed

/-- What happens to a node in a pass. -/
inductive Happening where
  /-- It is published as skipped, or as running. -/
  | skipped
  | ready
  | executed (index : Graph.PassIndex) (input : Dataset)
  /-- How it came out, and the message of the error it failed with. -/
  | finished (outcome : Outcome) (error : Option Text)

structure Entry where
  pass : Nat
  id : Text
  what : Happening

abbrev Outputs := Text → Option SourceHandle → Option Dataset

/-- What a pass has come to. -/
structure Pass where
  number : Nat
  index : Graph.PassIndex
  outputs : Outputs
  /-- Nodes that run nothing and pass nothing on: skipped, or a gate that closed. -/
  dead : List Text

inductive Phase where
  /-- Before a pass. -/
  | between
  /-- Before a level, with so many behind it. -/
  | atLevel (pass : Pass) (index : Nat) (rest : List (List Text))
  | pausing (pass : Pass) (index : Nat) (rest : List (List Text)) (ready : List Text)
  /-- Which nodes of a level have begun, and how those that finished came out. -/
  | running (pass : Pass) (index : Nat) (rest : List (List Text)) (ready : List Text)
      (begun : List Text) (finished : Text → Option Outcome)
  | over

/-- A group on its way through its passes, and all that has happened to its nodes. -/
structure GroupRun where
  group : Graph.Group
  levels : List (List Text)
  number : Nat
  left : List Graph.PassIndex
  phase : Phase
  trace : List Entry

/-- What the groups of a run share. -/
structure Shared where
  cancelled : Bool
  errors : Bool
  results : Text → Option WorkflowStepResult

structure Run where
  shared : Shared
  groups : List GroupRun

section Passes

variable (graph : Graph)

def isBranch (id : Text) : Bool :=
  match (graph.node id).map WorkflowNode.config with
  | some .branch => true
  | _ => false

/-- Is anything travelling along this edge? -/
def edgeActive (pass : Pass) (e : WorkflowEdge) : Bool :=
  if e.source ∈ pass.dead then false
  else if isBranch graph e.source then
    (pass.outputs e.source e.sourceHandle).any fun data => !data.rows.isEmpty
  else true

def allClosed (pass : Pass) (id : Text) : Bool :=
  !(graph.incoming id).isEmpty && (graph.incoming id).all fun e => !edgeActive graph pass e

/-- The nodes of a level that are skipped, and those that are ready. -/
def sortLevel : Pass → List Text → Pass × List Text × List Text
  | pass, [] => (pass, [], [])
  | pass, id :: rest =>
    if allClosed graph pass id then
      let (pass, skipped, ready) := sortLevel { pass with dead := id :: pass.dead } rest
      (pass, id :: skipped, ready)
    else
      let (pass, skipped, ready) := sortLevel pass rest
      (pass, skipped, id :: ready)

def inputs (pass : Pass) (id : Text) : List Dataset :=
  ((graph.incoming id).filter (edgeActive graph pass)).filterMap fun e =>
    pass.outputs e.source e.sourceHandle

def put (id : Text) (outputs : Outputs) (entry : Option SourceHandle × Dataset) : Outputs :=
  fun source handle =>
    if source = id ∧ handle = entry.1 then some entry.2 else outputs source handle

def Pass.settle (pass : Pass) (id : Text) : Outcome → Pass
  | .done output => { pass with
      outputs := output.outputs.foldl (put id) pass.outputs
      dead := if output.closed then id :: pass.dead else pass.dead }
  | .continued => { pass with outputs := put id pass.outputs (none, Dataset.empty) }
  | .failed => pass

def Pass.absorb (finished : Text → Option Outcome) (pass : Pass) (ready : List Text) : Pass :=
  ready.foldl (fun pass id =>
    match finished id with
    | some outcome => pass.settle id outcome
    | none => pass) pass

def Outcome.fails : Outcome → Bool
  | .failed => true
  | _ => false

end Passes

section Nodes

variable (graph : Graph)

def stepName (node : WorkflowNode) : Text :=
  if blank node.label then
    node.config.kindName.map fun c => if c = '_' then ' ' else c
  else node.label

/-- The latest result of a node takes the place of the one before. -/
def record (shared : Shared) (id : Text) (state : NodeRunState) (rows : Option Nat)
    (error filePath : Option Text) : Shared :=
  { shared with
    results := Function.update shared.results id (some {
      nodeId := id
      name := ((graph.node id).map stepName).getD id
      state := state
      rows := rows
      error := error
      filePath := filePath }) }

def recordSkipped (shared : Shared) (id : Text) : Shared :=
  record graph shared id .skipped none none none

def finishFailed (shared : Shared) (node : WorkflowNode) (failure : NodeFailure) :
    Shared × Outcome :=
  let state := if failure.stopped then NodeRunState.stopped else .error
  let shared := { shared with errors := shared.errors || !failure.stopped }
  (record graph shared node.id state none (some failure.message) none,
    if node.continueOnError && !failure.stopped then .continued else .failed)

/-- The end of `run_node`, with what the node's own logic came to. -/
def finishNode (shared : Shared) (id : Text) (result : Except NodeFailure NodeOutput) :
    Shared × Outcome :=
  match graph.node id with
  | none => (shared, .failed)
  | some node =>
    match result with
    | .ok output =>
      (record graph shared id .success output.rows none output.filePath, .done output)
    | .error failure => finishFailed graph shared node failure

/-- The message of an error, as opposed to a Stop. -/
def errorOf : Except NodeFailure NodeOutput → Option Text
  | .ok _ => none
  | .error failure => if failure.stopped then none else some failure.message

end Nodes

section Steps

/-- The next thing a group does: on to its next phase, out of a pause that Stop ended, or
something that one of its running nodes does. -/
inductive Move where
  | advance
  | stop
  | begins (id : Text)
  | finish (id : Text) (result : Except NodeFailure NodeOutput)

inductive Action where
  | cancel
  | group (i : Nat) (move : Move)

variable (graph : Graph) (delayed : Bool)

def enterPass (shared : Shared) (run : GroupRun) : GroupRun :=
  match run.left with
  | [] => { run with phase := .over }
  | index :: left =>
    if shared.cancelled then { run with phase := .over }
    else { run with
      left := left
      phase := .atLevel ⟨run.number, index, fun _ _ => none, []⟩ 0 run.levels }

def startNodes (pass : Pass) (index : Nat) (rest : List (List Text)) (ready : List Text) :
    Phase :=
  .running pass index rest ready [] fun _ => none

def enterLevel (shared : Shared) (run : GroupRun) (pass : Pass) (index : Nat)
    (level : List Text) (rest : List (List Text)) : Shared × GroupRun :=
  if shared.cancelled then (shared, { run with phase := .over })
  else
    let (pass, skipped, ready) := sortLevel graph pass level
    (skipped.foldl (recordSkipped graph) shared, { run with
      phase :=
        if ready.isEmpty then .atLevel pass (index + 1) rest
        else if 0 < index ∧ delayed then .pausing pass index rest ready
        else startNodes pass index rest ready
      trace := run.trace ++ skipped.map (⟨pass.number, ·, .skipped⟩) ++
        ready.map (⟨pass.number, ·, .ready⟩) })

/-- Once every node of a level finished, the pass ends at a failure, or goes on. -/
def leaveLevel (run : GroupRun) (pass : Pass) (index : Nat) (rest : List (List Text))
    (ready : List Text) (finished : Text → Option Outcome) : GroupRun :=
  if ready.any fun id => (finished id).any Outcome.fails then { run with phase := .over }
  else { run with phase := .atLevel (pass.absorb finished ready) (index + 1) rest }

def advance (shared : Shared) (run : GroupRun) : Option (Shared × GroupRun) :=
  match run.phase with
  | .between => some (shared, enterPass shared run)
  | .atLevel _ _ [] => some (shared, { run with number := run.number + 1, phase := .between })
  | .atLevel pass index (level :: rest) =>
    some (enterLevel graph delayed shared run pass index level rest)
  | .pausing pass index rest ready =>
    some (shared, { run with phase := startNodes pass index rest ready })
  | .running pass index rest ready _ finished =>
    if ready.all fun id => (finished id).isSome then
      some (shared, leaveLevel run pass index rest ready finished)
    else none
  | .over => none

def moveGroup (shared : Shared) (run : GroupRun) : Move → Option (Shared × GroupRun)
  | .advance => advance graph delayed shared run
  | .stop =>
    match run.phase with
    | .pausing _ _ _ _ =>
      if shared.cancelled then some (shared, { run with phase := .over }) else none
    | _ => none
  | .begins id =>
    match run.phase with
    | .running pass index rest ready begun finished =>
      if id ∈ ready ∧ id ∉ begun then
        some (shared, { run with
          phase := .running pass index rest ready (id :: begun) finished
          trace := run.trace ++
            [⟨pass.number, id, .executed pass.index (Dataset.union (inputs graph pass id))⟩] })
      else none
    | _ => none
  | .finish id result =>
    match run.phase with
    | .running pass index rest ready begun finished =>
      if id ∈ begun ∧ (finished id).isNone then
        let (shared, outcome) := finishNode graph shared id result
        some (shared, { run with
          phase := .running pass index rest ready begun
            (Function.update finished id (some outcome))
          trace := run.trace ++ [⟨pass.number, id, .finished outcome (errorOf result)⟩] })
      else none
    | _ => none

def step (run : Run) : Action → Option Run
  | .cancel => some { run with shared := { run.shared with cancelled := true } }
  | .group i move => do
    let group ← run.groups[i]?
    let (shared, group) ← moveGroup graph delayed run.shared group move
    some ⟨shared, run.groups.set i group⟩

end Steps

section Execute

def newRun (group : Graph.Group) (levels : List (List Text)) : GroupRun :=
  ⟨group, levels, 0, Graph.passes group.repeats, .between, []⟩

/-- The groups with their levels, which `none` would say had an edge too many taken. -/
def levelSets (graph : Graph) : List Graph.Group → Option (Except AppError (List GroupRun))
  | [] => some (.ok [])
  | group :: rest => do
    match ← graph.levels group.nodes with
    | .error problem => some (.error problem)
    | .ok levels =>
      let others ← levelSets graph rest
      some (others.map (newRun group levels :: ·))

/-- The plan is checked before anything runs. -/
def prepare (nodes : List WorkflowNode) (edges : List WorkflowEdge) (targets : List Text) :
    Option (Except AppError (Graph × Run)) :=
  match Graph.new nodes edges with
  | .error problem => some (.error problem)
  | .ok graph =>
    match graph.plan targets with
    | .error problem => some (.error problem)
    | .ok groups => do
      match ← levelSets graph groups with
      | .error problem => some (.error problem)
      | .ok runs =>
        match graph.wiringProblem (groups.flatMap Graph.Group.nodes) with
        | some problem => some (.error (.invalidInput problem))
        | none => some (.ok (graph, ⟨⟨false, false, fun _ => none⟩, runs⟩))

/-- What a run has come to after some actions; `none` where it did not start, or one of them
was not possible. -/
def execute (nodes : List WorkflowNode) (edges : List WorkflowEdge) (targets : List Text)
    (delayed : Bool) (actions : List Action) : Option (Graph × Run) :=
  match prepare nodes edges targets with
  | some (.ok (graph, start)) =>
    (Machine.run (step graph delayed) start actions).map fun run => (graph, run)
  | _ => none

def GroupRun.isOver (run : GroupRun) : Bool :=
  match run.phase with
  | .over => true
  | _ => false

def Run.isOver (run : Run) : Bool := run.groups.all GroupRun.isOver

structure WorkflowRunReport where
  status : RunStatus
  nodes : List WorkflowStepResult
deriving DecidableEq

def report (nodes : List WorkflowNode) (run : Run) : WorkflowRunReport where
  status :=
    if run.shared.cancelled then .stopped else if run.shared.errors then .failed else .completed
  nodes := nodes.filterMap fun node => run.shared.results node.id

end Execute

end Workflows

end DbFree
