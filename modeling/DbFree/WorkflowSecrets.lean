import DbFree.Errors
import DbFree.WorkflowModel

/- The secrets of Email and Slack nodes: hidden from the editor, and put together again when a
workflow is saved (services/workflows/secrets.rs, model/workflow.rs). -/
namespace DbFree.Workflows

open Texts

section Bodies

/-- One step of the linear format that came before the graph. -/
structure WorkflowStep where
  id : Text
  name : Text
  connectionId : Option Text
  sql : Text
  stopOnError : Bool
deriving DecidableEq

structure WorkflowBody where
  steps : List WorkflowStep
  nodes : List WorkflowNode
  edges : List WorkflowEdge
  schedulesActive : Bool
deriving DecidableEq

def handleWord : Option SourceHandle → Text
  | some .true => "true".toList
  | some .false => "false".toList
  | none => "out".toList

def upgradeEdge (e : WorkflowEdge) : WorkflowEdge :=
  if blank e.id then
    { e with id := "e-".toList ++ e.source ++ "-".toList ++ handleWord e.sourceHandle ++
        "-".toList ++ e.target }
  else e

def stepId (index : Nat) (step : WorkflowStep) : Text :=
  if blank step.id then "step-".toList ++ decimal (index + 1) else step.id

def stepNode (index : Nat) (step : WorkflowStep) : WorkflowNode where
  id := stepId index step
  label := step.name
  continueOnError := !step.stopOnError
  config := .query ⟨step.connectionId, step.sql, false⟩

def chainEdge (source target : Text) : WorkflowEdge :=
  ⟨"e-".toList ++ source ++ "-".toList ++ target, source, target, none⟩

/-- The graph form of a body: a list of steps becomes a chain of Query nodes. -/
def WorkflowBody.upgraded (body : WorkflowBody) : WorkflowBody :=
  if body.steps = [] ∨ body.nodes ≠ [] then
    { body with steps := [], edges := body.edges.map upgradeEdge }
  else
    let nodes := body.steps.mapIdx stepNode
    let ids := nodes.map WorkflowNode.id
    { body with
      steps := []
      nodes := nodes
      edges := body.edges.map upgradeEdge ++ List.zipWith chainEdge ids ids.tail }

end Bodies

section Secrets

inductive NotifierKind where
  | email
  | slack
deriving DecidableEq

def secretOf : NodeConfig → Option NodeSecret
  | .email config => some config.password
  | .slack config => some config.webhook
  | _ => none

/-- The settings of a node with its secret changed, where it has one. -/
def mapSecret (change : NodeSecret → NodeSecret) : NodeConfig → NodeConfig
  | .email config => .email { config with password := change config.password }
  | .slack config => .slack { config with webhook := change config.webhook }
  | config => config

def notifierOf : NodeConfig → Option NotifierKind
  | .email _ => some .email
  | .slack _ => some .slack
  | _ => none

def present (value : Option Text) : Bool := value.any fun text => !text.isEmpty

/-- A secret as the editor may see it. -/
def NodeSecret.hide (secret : NodeSecret) : NodeSecret where
  sealedValue := none
  hasSecret := present secret.sealedValue
  plain := none
  clear := false
  inheritLast := false

def redactNode (node : WorkflowNode) : WorkflowNode :=
  { node with config := mapSecret NodeSecret.hide node.config }

/-- A workflow as the editor may see it: the graph form, every secret hidden. -/
def redact (body : WorkflowBody) : WorkflowBody :=
  { body.upgraded with nodes := body.upgraded.nodes.map redactNode }

def sealedOf (config : NodeConfig) : Option Text :=
  ((secretOf config).bind NodeSecret.sealedValue).filter fun text => !text.isEmpty

end Secrets

section Saving

/-- A saved document. Its id was given to it when it was first saved. -/
structure StoredWorkflow where
  id : Text
  named : id ≠ []
  updatedAt : Text
  /-- `none` for the body of a document of another kind. -/
  body : Option WorkflowBody

/-- The saved documents, in the order they are listed. -/
structure WorkflowStore where
  docs : List StoredWorkflow
  distinct : (docs.map StoredWorkflow.id).Nodup

/-- The latest saved come first. -/
def WorkflowStore.allWorkflows (store : WorkflowStore) : List StoredWorkflow :=
  store.docs.insertionSort fun a b => b.updatedAt ≤ a.updatedAt

def graphOf (doc : StoredWorkflow) : Option WorkflowBody := doc.body.map WorkflowBody.upgraded

def nodesOf (docs : List StoredWorkflow) : List WorkflowNode :=
  (docs.filterMap graphOf).flatMap WorkflowBody.nodes

/-- The first node of a graph with an id and a kind. -/
def sameNode (nodes : List WorkflowNode) (id : Text) (kind : Option NotifierKind) :
    Option WorkflowNode :=
  nodes.find? fun n => n.id = id ∧ notifierOf n.config = kind

/-- The secret of the same node in another workflow: a copy has the ids of its original. -/
def elsewhere (stored : List StoredWorkflow) (workflowId id : Text) (kind : Option NotifierKind) :
    Option Text :=
  ((nodesOf (stored.filter fun d => d.id ≠ workflowId)).find? fun n =>
    n.id = id ∧ notifierOf n.config = kind ∧ (sealedOf n.config).isSome = true).bind fun n =>
      sealedOf n.config

/-- The secret of the most recently saved node of a kind, in any workflow. -/
def mostRecent (stored : List StoredWorkflow) (kind : Option NotifierKind) : Option Text :=
  ((nodesOf stored).find? fun n =>
    notifierOf n.config = kind ∧ (sealedOf n.config).isSome = true).bind fun n =>
      sealedOf n.config

def typed (secret : NodeSecret) : Option Text := secret.plain.filter fun text => !text.isEmpty

/-- The secret that a node keeps or takes over when none is typed. -/
def keptSecret (stored : List StoredWorkflow) (workflowId : Text) (own : Option Text) (id : Text)
    (kind : Option NotifierKind) (secret : NodeSecret) : Option Text :=
  if secret.clear then none
  else
    match own with
    | some own => some own
    | none =>
      if secret.hasSecret || secret.inheritLast then
        match elsewhere stored workflowId id kind with
        | some found => some found
        | none => if secret.inheritLast then mostRecent stored kind else none
      else none

def savedSecret (sealing : Option Text) : NodeSecret := ⟨sealing, sealing.isSome, none, false, false⟩

/-- What is stored of a node, `sealText` standing for the sealing of a text under the master key. -/
def prepareNode (sealText : Text → Except AppError Text) (stored : List StoredWorkflow)
    (workflowId : Text) (previous : Option WorkflowBody) (node : WorkflowNode) :
    Except AppError WorkflowNode :=
  let kind := notifierOf node.config
  let own := (previous.bind fun p => sameNode p.nodes node.id kind).bind fun n => sealedOf n.config
  match secretOf node.config with
  | none => .ok node
  | some secret => do
    let sealing ←
      match typed secret with
      | some plain => (sealText plain).map some
      | none => .ok (keptSecret stored workflowId own node.id kind secret)
    .ok { node with config := mapSecret (fun _ => savedSecret sealing) node.config }

/-- Every sealing has a nonce of its own. -/
def prepareNodes (sealText : Nat → Text → Except AppError Text) (stored : List StoredWorkflow)
    (workflowId : Text) (previous : Option WorkflowBody) :
    Nat → List WorkflowNode → Except AppError (List WorkflowNode)
  | _, [] => .ok []
  | nonce, node :: rest => do
    let first ← prepareNode (sealText nonce) stored workflowId previous node
    let others ← prepareNodes sealText stored workflowId previous (nonce + 1) rest
    .ok (first :: others)

/-- What the editor sent, turned into what is stored. -/
def prepareSave (sealText : Nat → Text → Except AppError Text)
    (listing : Except AppError WorkflowStore) (workflowId : Text) (body : WorkflowBody) :
    Except AppError WorkflowBody :=
  let body := body.upgraded
  if body.nodes.any fun n => (secretOf n.config).isSome then do
    let store ← listing
    let stored := store.allWorkflows
    let previous :=
      (stored.find? fun d => d.id = workflowId ∧ workflowId ≠ []).bind graphOf
    let nodes ← prepareNodes sealText stored workflowId previous 0 body.nodes
    .ok { body with nodes := nodes }
  else .ok body

end Saving

end DbFree.Workflows
