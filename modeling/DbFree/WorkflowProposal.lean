import DbFree.Value
import DbFree.ScheduleTimes
import DbFree.SqlImport
import DbFree.WorkflowLevels
import DbFree.WorkflowSecrets

/- The workflow that the assistant proposes: its JSON checked and turned into the body of a
document (services/agent/documents/workflow.rs, services/agent/documents/mod.rs). -/
namespace DbFree.Workflows.Proposal

open Texts

section Arguments

/-- A text argument, trimmed; none when it is blank. -/
def text (value : Json) (key : String) : Option Text :=
  (((value.get key).bind Json.asStr).map trim).filter fun v => !v.isEmpty

def required (value : Json) (key : String) (what : Text) : Except AppError Text :=
  match text value key with
  | some found => .ok found
  | none =>
    .error (.invalidInput (what ++ " needs a non-empty \"".toList ++ key.toList ++ "\".".toList))

def maxName : Nat := 120

def cleanName (args : Json) (what : Text) : Except AppError Text :=
  (required args "name" what).map fun name => name.take maxName

def list (args : Json) (key : String) (what : Text) (least most : Nat) :
    Except AppError (List Json) :=
  match (args.get key).bind Json.asArray with
  | none =>
    .error (.invalidInput (what ++ " needs a \"".toList ++ key.toList ++ "\" array.".toList))
  | some items =>
    if items.length < least then
      .error (.invalidInput (what ++ " needs at least ".toList ++ decimal least ++
        " entr".toList ++ (if least = 1 then "y".toList else "ies".toList) ++ " in \"".toList ++
        key.toList ++ "\".".toList))
    else if most < items.length then
      .error (.invalidInput (what ++ " may have at most ".toList ++ decimal most ++
        " entries in \"".toList ++ key.toList ++ "\"; this has ".toList ++
        decimal items.length ++ ".".toList))
    else .ok items

theorem list_ok {args : Json} {key : String} {what : Text} {least most : Nat} {items : List Json}
    (read : list args key what least most = .ok items) :
    (args.get key).bind Json.asArray = some items := by
  unfold list at read
  split at read
  · cases read
  · rename_i found
    split at read
    · cases read
    · split at read
      · cases read
      · cases read
        exact found

def flag (value : Json) (key : String) : Option Bool := (value.get key).bind Json.asBool

/-- One of a closed list of words, its case aside. -/
def choice (toLowercase : Text → Text) (value : Json) (key : String) (allowed : List String)
    (what : Text) : Except AppError (Option String) :=
  match text value key with
  | none => .ok none
  | some raw =>
    match allowed.find? fun candidate => candidate.toList = toLowercase raw with
    | some found => .ok (some found)
    | none =>
      .error (.invalidInput (what ++ ": \"".toList ++ raw ++ "\" is not a valid ".toList ++
        key.toList ++ ". Use ".toList ++ (", ".intercalate allowed).toList ++ ".".toList))

end Arguments

section Nodes

def maxNodes : Nat := 30

def maxEdges : Nat := 60

def maxLabel : Nat := 80

def maxRepeat : UInt32 := 1000

/-- Every kind of node that the assistant may place. -/
def nodeKinds : List String :=
  ["schedule", "query", "http", "read_file", "save_file", "insert", "filter", "row_count_gate",
    "branch", "repeat", "delay", "regex", "javascript", "notification", "email", "slack", "note"]

/-- A rule of a filter or of a branch; two operators need no value. -/
structure Rule where
  field : Text
  needsValue : Bool
  value : Text
deriving DecidableEq

/-- The settings that are checked and that `NodeConfig` leaves out. -/
inductive Extra where
  | none
  | rules (rules : List Rule)
  | delay (amount : F64)
  | regex (sourceField pattern flags : Text)
deriving DecidableEq

structure Settings where
  config : NodeConfig
  extra : Extra
deriving DecidableEq

/-- What the assistant's parse calls in other crates. -/
structure Readers where
  /-- `str::to_lowercase`. -/
  toLowercase : Text → Text
  /-- `serde_json::from_value::<NodeConfig>`, or why it fails. -/
  settings : Json → Except Text Settings
  /-- `serde_json::from_str`. -/
  fromStr : Text → Option Json
  /-- Why a pattern does not compile with its flags. -/
  patternError : Text → Text → Option Text

/-- The last saved Email and Slack setups, which a new node starts from. -/
structure Remembered where
  email : Option EmailConfig
  slack : Option SlackConfig

/-- The first of `n1`, `n2` and so on that is not taken, from a number on. -/
def freeId (taken : List Text) : Nat → Nat → Text
  | 0, n => 'n' :: decimal n
  | more + 1, n =>
    if ('n' :: decimal n) ∈ taken then freeId taken more (n + 1) else 'n' :: decimal n

def validId (id : Text) : Bool :=
  decide (SqlImport.SqlSplitter.byteLength id ≤ 40) &&
    id.all fun c => c.isAlphanum || c == '-' || c == '_'

def nodeId (raw : Json) (index : Nat) (taken : List Text) : Except AppError Text :=
  match text raw "id" with
  | some id =>
    if validId id = false then
      .error (.invalidInput ("Node id \"".toList ++ id ++
        "\" may only hold letters, digits, - and _ (40 characters at most).".toList))
    else if id ∈ taken then
      .error (.invalidInput ("Two nodes share the id \"".toList ++ id ++ "\".".toList))
    else .ok id
  | none => .ok (freeId taken taken.length (index + 1))

def named (id : Text) : Text := "Node \"".toList ++ id ++ "\"".toList

/-- An object with a field set, in the place where it is or at the end. -/
def setField (key : String) (value : Json) : List (Text × Json) → List (Text × Json)
  | [] => [(key.toList, value)]
  | field :: rest =>
    if field.1 = key.toList then (field.1, value) :: rest else field :: setField key value rest

/-- What the model wrote for a node's settings. -/
def readSettings (readers : Readers) (raw : Json) (id : Text) : Except AppError Settings :=
  match (raw.get "config").bind Json.asObject with
  | none => .error (.invalidInput (named id ++
      " needs a \"config\" object with a \"kind\".".toList))
  | some fields => do
    match ← choice readers.toLowercase (.object fields) "kind" nodeKinds (named id) with
    | none => .error (.invalidInput (named id ++ ": config needs a \"kind\". Use ".toList ++
        (", ".intercalate nodeKinds).toList ++ ".".toList))
    | some kind =>
      match readers.settings (.object (setField "kind" (.string kind.toList) fields)) with
      | .ok settings => .ok settings
      | .error problem => .error (.invalidInput (named id ++ ": the ".toList ++ kind.toList ++
          " config is not valid: ".toList ++ problem))

def noSecret : NodeSecret := ⟨none, false, none, false, false⟩

def savedNodes (before : Option WorkflowBody) : List WorkflowNode :=
  (before.map WorkflowBody.nodes).getD []

/-- The user ticked exactly this statement on this node. -/
def ticked (before : Option WorkflowBody) (id sql : Text) : Bool :=
  (savedNodes before).any fun node =>
    node.id == id &&
      match node.config with
      | .query saved => saved.allowDestructive && trim saved.sql == trim sql
      | _ => false

/-- The saved workflow already holds a login for this node. -/
def keepsSecret (before : Option WorkflowBody) (id : Text) (kind : NotifierKind) : Bool :=
  (savedNodes before).any fun node =>
    node.id == id && notifierOf node.config == some kind &&
      (secretOf node.config).any fun secret => secret.hasSecret || secret.sealedValue.isSome

def inheritedSecret (before : Option WorkflowBody) (id : Text) (kind : NotifierKind)
    (inherits : Bool) : NodeSecret :=
  { noSecret with hasSecret := inherits || keepsSecret before id kind, inheritLast := inherits }

/-- An email node on the user's earlier server, and whether it takes over its login. -/
def startEmail (email : EmailConfig) : Option EmailConfig → EmailConfig × Bool
  | none => (email, false)
  | some base =>
    let sameServer := blank email.host ||
      toAsciiLowercase (trim email.host) == toAsciiLowercase (trim base.host)
    let placed := if blank email.host then
        { email with host := base.host, port := base.port, security := base.security }
      else email
    let known := if sameServer && blank email.username then
        { placed with username := base.username }
      else placed
    let sent := if blank email.sender then { known with sender := base.sender } else known
    (sent, sameServer && base.password.hasSecret)

/-- The settings that the model does not get to decide. -/
def sanitize (id : Text) (remembered : Remembered) (before : Option WorkflowBody) :
    NodeConfig → NodeConfig
  | .query query =>
    .query { query with connectionId := none, allowDestructive := ticked before id query.sql }
  | .insert insert => .insert { insert with connectionId := none }
  | .saveFile save => .saveFile { save with path := [] }
  | .email email =>
    let started := startEmail email remembered.email
    .email { started.1 with password := inheritedSecret before id .email started.2 }
  | .slack slack =>
    let inherits := remembered.slack.any fun base => base.webhook.hasSecret
    .slack { slack with webhook := inheritedSecret before id .slack inherits }
  | config => config

def buildNode (raw : Json) (id : Text) (remembered : Remembered) (before : Option WorkflowBody)
    (config : NodeConfig) : WorkflowNode where
  id := id
  label := ((text raw "label").getD []).take maxLabel
  continueOnError := (flag raw "continueOnError").getD false
  config := sanitize id remembered before config

def checkRules (what : Text) : List Rule → Except AppError Unit
  | [] => .ok ()
  | rule :: rest =>
    if blank rule.field then
      .error (.invalidInput (what ++ ": every rule needs a \"field\" (a column name).".toList))
    else if rule.needsValue && rule.value.isEmpty then
      .error (.invalidInput (what ++ ": the rule on \"".toList ++ rule.field ++
        "\" needs a \"value\".".toList))
    else checkRules what rest

def refuse (what : Text) (problem : String) : Except AppError Unit :=
  .error (.invalidInput (what ++ problem.toList))

section Checks

variable {Zone Signature : Type} (around : Schedule.Surroundings Zone Signature)
  (readers : Readers)

def checkExtra (what : Text) : Extra → Except AppError Unit
  | .none => .ok ()
  | .rules rules => checkRules what rules
  | .delay amount =>
    if amount.isFinite = false ∨ (amount.negative = true ∧ amount.isZero = false) then
      refuse what ": a delay needs a positive amount."
    else .ok ()
  | .regex sourceField pattern flags =>
    if blank sourceField ∨ blank pattern then
      refuse what ": a regex node needs a \"sourceField\" and a \"pattern\"."
    else
      match readers.patternError (trim pattern) flags with
      | some error =>
        .error (.invalidInput (what ++ ": the pattern is not valid: ".toList ++ error))
      | none => .ok ()

/-- A node's settings against what the engine will do with them. -/
def check (what : Text) (extra : Extra) : NodeConfig → Except AppError Unit
  | .schedule config =>
    match Schedule.problem around config with
    | some problem => .error (.invalidInput (what ++ ": ".toList ++ problem))
    | none => .ok ()
  | .query query =>
    if blank query.sql then refuse what ": a query node needs \"sql\"." else .ok ()
  | .http http =>
    if startsWith (trim http.url) "https://" = false ∧ startsWith (trim http.url) "http://" = false
    then refuse what ": the http url must start with http:// or https://."
    else if blank http.headers = false ∧
        ((readers.fromStr http.headers).bind Json.asObject).isNone then
      refuse what ": headers must be a JSON object written as text."
    else .ok ()
  | .readFile path =>
    if blank path then refuse what ": a read_file node needs a \"path\"." else .ok ()
  | .insert insert =>
    if blank insert.table then refuse what ": an insert node needs a \"table\"." else .ok ()
  | .repeat config =>
    if config.count = 0 ∨ maxRepeat < config.count then
      refuse what ": a repeat count must be between 1 and 1000."
    else .ok ()
  | .javascript code =>
    if blank code then refuse what ": a javascript node needs \"code\"." else .ok ()
  | .notification title body =>
    if blank title ∧ blank body then
      refuse what ": a notification needs a \"title\" or a \"body\"."
    else .ok ()
  | .email email =>
    if blank email.recipients then refuse what ": an email node needs a \"to\" address."
    else .ok ()
  | .slack slack =>
    if blank slack.text then refuse what ": a slack node needs \"text\"." else .ok ()
  | _ => checkExtra readers what extra

/-- The nodes of a proposal in order, each checked on its own. -/
def parseNodes (remembered : Remembered) (before : Option WorkflowBody) :
    Nat → List Text → List Json → Except AppError (List WorkflowNode)
  | _, _, [] => .ok []
  | index, taken, raw :: rest => do
    let id ← nodeId raw index taken
    let settings ← readSettings readers raw id
    let node := buildNode raw id remembered before settings.config
    check around readers (named node.id) settings.extra node.config
    let others ← parseNodes remembered before (index + 1) (id :: taken) rest
    .ok (node :: others)

end Checks

end Nodes

section Edges

/-- Where a node sits in the wiring: whether it takes input, and how many outputs it has. -/
structure Ports where
  input : Bool
  outputs : Nat

def ports : NodeConfig → Ports
  | .schedule _ | .readFile _ | .repeat _ => ⟨false, 1⟩
  | .note _ => ⟨false, 0⟩
  | .saveFile _ | .insert _ | .notification _ _ | .email _ | .slack _ => ⟨true, 0⟩
  | .branch => ⟨true, 2⟩
  | _ => ⟨true, 1⟩

def handleOf (toLowercase : Text → Text) (raw : Json) (what : Text) :
    Except AppError (Option SourceHandle) :=
  match (((raw.get "sourceHandle").or (raw.get "handle")).bind Json.asStr).map fun word =>
      toLowercase (trim word) with
  | none => .ok none
  | some word =>
    if isIn word ["", "default", "out"] then .ok none
    else if word = "true".toList then .ok (some .true)
    else if word = "false".toList then .ok (some .false)
    else .error (.invalidInput (what ++ ": sourceHandle \"".toList ++ word ++
      "\" is not true or false.".toList))

def edgeId (source : Text) (handle : Option SourceHandle) (target : Text) : Text :=
  "e-".toList ++ source ++ "-".toList ++ handleWord handle ++ "-".toList ++ target

/-- Whether a wire between two nodes is allowed. -/
def canConnect (nodes : List WorkflowNode) (existing : List WorkflowEdge) (source target : Text)
    (handle : Option SourceHandle) : Except AppError Unit :=
  match nodes.find? fun n => n.id = source, nodes.find? fun n => n.id = target with
  | some first, some second =>
    if source = target then
      .error (.invalidInput ("Node \"".toList ++ source ++ "\" cannot feed itself.".toList))
    else if (ports first.config).outputs = 0 then
      .error (.invalidInput ("\"".toList ++ source ++ "\" (".toList ++ first.config.kindName ++
        ") has no output, so nothing can follow it.".toList))
    else if (ports second.config).input = false then
      .error (.invalidInput ("\"".toList ++ target ++ "\" (".toList ++ second.config.kindName ++
        ") takes no input, so nothing can feed it.".toList))
    else if (ports first.config).outputs = 2 ∧ handle = none then
      .error (.invalidInput ("The edge from the branch \"".toList ++ source ++
        "\" must say sourceHandle \"true\" or \"false\".".toList))
    else if (ports first.config).outputs = 1 ∧ handle ≠ none then
      .error (.invalidInput ("\"".toList ++ source ++ "\" (".toList ++ first.config.kindName ++
        ") has a single output: leave sourceHandle out.".toList))
    else if existing.any fun e =>
        e.source = source ∧ e.target = target ∧ e.sourceHandle = handle then
      .error (.invalidInput ("\"".toList ++ source ++ "\" is connected to \"".toList ++ target ++
        "\" twice.".toList))
    else .ok ()
  | _, _ =>
    .error (.invalidInput ("An edge joins \"".toList ++ source ++ "\" and \"".toList ++ target ++
      "\", and one of them is not a node.".toList))

/-- A straight line through the nodes, for a proposal without wiring. -/
def lineEdges (nodes : List WorkflowNode) :
    List WorkflowEdge → List WorkflowNode → Except AppError (List WorkflowEdge)
  | edges, first :: second :: rest =>
    match canConnect nodes edges first.id second.id none with
    | .error error =>
      .error (.invalidInput (error.message ++
        " Give \"edges\" explicitly for a graph that is not a straight line.".toList))
    | .ok () =>
      lineEdges nodes (edges ++ [⟨edgeId first.id none second.id, first.id, second.id, none⟩])
        (second :: rest)
  | edges, _ => .ok edges

def needed (given : Option Text) (what : String) : Except AppError Text :=
  match given with
  | some id => .ok id
  | none =>
    .error (.invalidInput ("Every edge needs a \"".toList ++ what.toList ++ "\" node id.".toList))

def readEdges (toLowercase : Text → Text) (nodes : List WorkflowNode) :
    List WorkflowEdge → List Json → Except AppError (List WorkflowEdge)
  | edges, [] => .ok edges
  | edges, raw :: rest => do
    let source ← needed ((text raw "source").or (text raw "from")) "source"
    let target ← needed ((text raw "target").or (text raw "to")) "target"
    let handle ← handleOf toLowercase raw
      ("Edge ".toList ++ source ++ " → ".toList ++ target)
    canConnect nodes edges source target handle
    readEdges toLowercase nodes
      (edges ++ [⟨edgeId source handle target, source, target, handle⟩]) rest

def parseEdges (toLowercase : Text → Text) (args : Json) (nodes : List WorkflowNode) :
    Except AppError (List WorkflowEdge) :=
  match (args.get "edges").bind Json.asArray with
  | none => lineEdges nodes [] (nodes.filter fun n => !Graph.isNote n)
  | some raws =>
    if maxEdges < raws.length then
      .error (.invalidInput ("A workflow may have at most ".toList ++ decimal maxEdges ++
        " edges.".toList))
    else readEdges toLowercase nodes [] raws

/-- The engine's own checks: no cycle, and no absurd number of passes. -/
def levelsOf (nodes : List WorkflowNode) (edges : List WorkflowEdge) :
    Option (Except AppError (List (List Text))) :=
  match Graph.new nodes edges with
  | .error error => some (.error error)
  | .ok graph =>
    (graph.levels (Graph.allIds nodes)).map fun found => do
      let levels ← found
      let _ ← graph.plan graph.leaves
      .ok levels

end Edges

section Parsing

variable {Zone Signature : Type} (around : Schedule.Surroundings Zone Signature)
  (readers : Readers)

/-- A validated proposal. The sentences for the approval prompt are left out. -/
structure Draft where
  name : Text
  body : WorkflowBody
deriving DecidableEq

/-- The proposal up to the checks on the whole graph. -/
def build (args : Json) (before : Option WorkflowBody) (remembered : Remembered) :
    Except AppError Draft := do
  let name ← cleanName args "A workflow".toList
  let raws ← list args "nodes" "A workflow".toList 1 maxNodes
  let nodes ← parseNodes around readers remembered before 0 [] raws
  if nodes.all Graph.isNote then
    .error (.invalidInput
      "A workflow needs at least one node that does something, not only notes.".toList)
  else do
    let edges ← parseEdges readers.toLowercase args nodes
    .ok ⟨name, [], nodes, edges, (before.map WorkflowBody.schedulesActive).getD false⟩

/-- A proposal as a validated body; `none` where the levels of the graph are not computed. -/
def parse (args : Json) (before : Option WorkflowBody) (remembered : Remembered) :
    Option (Except AppError Draft) :=
  match build around readers args before remembered with
  | .error error => some (.error error)
  | .ok draft =>
    (levelsOf draft.body.nodes draft.body.edges).map fun found => found.map fun _ => draft

end Parsing

end DbFree.Workflows.Proposal
