import DbFree.Errors
import DbFree.WorkflowModel

/- The nodes and edges of a workflow as its engine plans with them: what lies upstream, the
levels, and the groups of targets that share their passes (services/workflows/graph.rs). -/
namespace DbFree.Workflows

open Texts

def maxPasses : Nat := 100000

/-- The first id that a list has for the second time. -/
def firstTwice : List Text → List Text → Option Text
  | _, [] => none
  | seen, id :: rest => if id ∈ seen then some id else firstTwice (id :: seen) rest

theorem firstTwice_none {seen ids : List Text} (single : firstTwice seen ids = none) :
    ids.Nodup ∧ ∀ id ∈ ids, id ∉ seen := by
  induction ids generalizing seen with
  | nil => exact ⟨List.nodup_nil, fun id member => by cases member⟩
  | cons id rest hypothesis =>
    rw [firstTwice] at single
    split at single
    · cases single
    · rename_i fresh
      obtain ⟨distinct, apart⟩ := hypothesis single
      refine ⟨List.nodup_cons.mpr ⟨fun there => apart id there List.mem_cons_self, distinct⟩, ?_⟩
      intro other member
      rcases List.mem_cons.mp member with rfl | member
      · exact fresh
      · exact fun there => apart other member (List.mem_cons_of_mem _ there)

/-- A graph whose nodes have ids of their own, and whose edges join two of them. -/
structure Graph where
  nodes : List WorkflowNode
  edges : List WorkflowEdge
  distinct : (nodes.map WorkflowNode.id).Nodup
  joined : ∀ e ∈ edges, e.source ∈ nodes.map WorkflowNode.id ∧
    e.target ∈ nodes.map WorkflowNode.id ∧ e.source ≠ e.target

/-- Edges between nodes that are there. -/
def keptEdges (nodes : List WorkflowNode) (edges : List WorkflowEdge) : List WorkflowEdge :=
  edges.filter fun e =>
    e.source ∈ nodes.map WorkflowNode.id ∧ e.target ∈ nodes.map WorkflowNode.id

namespace Graph

def new (nodes : List WorkflowNode) (edges : List WorkflowEdge) : Except AppError Graph :=
  match twice : firstTwice [] (nodes.map WorkflowNode.id) with
  | some id => .error (.invalidInput ("Two nodes share the id \"".toList ++ id ++ "\".".toList))
  | none =>
    match loop : (keptEdges nodes edges).find? fun e => e.source = e.target with
    | some e =>
      .error (.invalidInput ("A node cannot feed itself (\"".toList ++ e.source ++ "\").".toList))
    | none => .ok {
        nodes := nodes
        edges := keptEdges nodes edges
        distinct := (firstTwice_none twice).1
        joined := by
          intro e member
          have ends := of_decide_eq_true (List.mem_filter.mp member).2
          have apart := List.find?_eq_none.mp loop e member
          rw [decide_eq_true_iff] at apart
          exact ⟨ends.1, ends.2, apart⟩ }

variable (graph : Graph)

def node (id : Text) : Option WorkflowNode := graph.nodes.find? fun n => n.id = id

def incoming (id : Text) : List WorkflowEdge := graph.edges.filter fun e => e.target = id

def outgoing (id : Text) : List WorkflowEdge := graph.edges.filter fun e => e.source = id

def isNote (node : WorkflowNode) : Bool :=
  match node.config with
  | .note _ => true
  | _ => false

/-- Nodes that nothing is wired out of, notes excepted. -/
def leaves : List Text :=
  (graph.nodes.filter fun n => !isNote n && (graph.outgoing n.id).isEmpty).map WorkflowNode.id

/-- What a stack of ids leads to against the edges. Each step takes an id from the stack, and
puts the sources of an edge on it once. -/
def ancestorsFrom : Nat → List Text → List Text → List Text
  | 0, _, seen => seen
  | _ + 1, [], seen => seen
  | steps + 1, id :: stack, seen =>
    if id ∈ seen then ancestorsFrom steps stack seen
    else ancestorsFrom steps (((graph.incoming id).map WorkflowEdge.source).reverse ++ stack)
      (id :: seen)

/-- The targets and everything upstream of them. -/
def ancestors (targets : List Text) : List Text :=
  graph.ancestorsFrom (targets.length + graph.edges.length) targets.reverse []

section Levels

/-- How many edges into each node of a subset are yet to come. -/
structure Degrees where
  keys : List Text
  count : Text → Nat

/-- The edges within a subset. -/
def within (subset : List Text) : List WorkflowEdge :=
  graph.edges.filter fun e => e.source ∈ subset ∧ e.target ∈ subset

def degrees (subset : List Text) : Degrees where
  keys := (graph.nodes.map WorkflowNode.id).filter fun id => id ∈ subset
  count := fun id => ((graph.within subset).filter fun e => e.target = id).length

/-- Edges are taken from the degrees of their targets; the targets without another come next.
`none` where a degree falls below zero. -/
def release : Degrees → List WorkflowEdge → List Text → Option (Degrees × List Text)
  | degree, [], next => some (degree, next)
  | degree, e :: rest, next =>
    if e.target ∈ degree.keys then
      match degree.count e.target with
      | 0 => none
      | left + 1 =>
        release { degree with count := Function.update degree.count e.target left } rest
          (if left = 0 then next ++ [e.target] else next)
    else release degree rest next

/-- The levels from a frontier on, and how many nodes they have. Each round takes at least one
node, so that there are no more rounds than nodes. -/
def levelsFrom : Nat → Degrees → List Text → Option (List (List Text) × Nat)
  | 0, _, _ => some ([], 0)
  | _ + 1, _, [] => some ([], 0)
  | rounds + 1, degree, id :: frontier => do
    let (degree, next) ← release degree ((id :: frontier).flatMap graph.outgoing) []
    let (levels, done) ← levelsFrom rounds degree next
    some ((id :: frontier) :: levels, (id :: frontier).length + done)

/-- The nodes split into levels, each behind the ones that feed it. -/
def levels (subset : List Text) : Option (Except AppError (List (List Text))) := do
  let degree := graph.degrees subset
  let frontier := degree.keys.filter fun id => degree.count id = 0
  let (levels, done) ← graph.levelsFrom (degree.keys.length + 1) degree frontier
  if done ≠ degree.keys.length then
    some (.error (.invalidInput
      "The workflow has a cycle: a node feeds itself through other nodes.".toList))
  else some (.ok levels)

/-- Would an edge from `source` to `target` close a cycle? -/
def wouldCycle (source target : Text) : Bool :=
  source = target || decide (target ∈ graph.ancestors [source])

end Levels

section Plan

/-- Nodes that run together: the same Repeat nodes are upstream of every target. -/
structure Group where
  targets : List Text
  nodes : List Text
  repeats : List (Text × UInt32)
deriving DecidableEq

def displayName (node : WorkflowNode) : Text := if blank node.label then node.id else node.label

/-- The Repeat nodes among some, in the order of the document. -/
def repeatsAmong (nodes : List Text) : List WorkflowNode → Except AppError (List (Text × UInt32))
  | [] => .ok []
  | node :: rest =>
    match node.config with
    | .repeat config =>
      if node.id ∈ nodes then
        if config.count = 0 then
          .error (.invalidInput ("Repeat \"".toList ++ displayName node ++
            "\" needs a count of at least 1.".toList))
        else do
          let others ← repeatsAmong nodes rest
          .ok ((node.id, config.count) :: others)
      else repeatsAmong nodes rest
    | _ => repeatsAmong nodes rest

/-- A target goes to the group with its Repeat nodes, or to a new one. -/
def place (target : Text) (nodes : List Text) (repeats : List (Text × UInt32)) :
    List Group → List Group
  | [] => [⟨[target], nodes, repeats⟩]
  | group :: rest =>
    if group.repeats = repeats then
      { group with targets := group.targets ++ [target], nodes := group.nodes ++ nodes } :: rest
    else group :: place target nodes repeats rest

def planFrom : List Group → List Text → Except AppError (List Group)
  | groups, [] => .ok groups
  | groups, target :: rest =>
    match graph.node target with
    | none =>
      .error (.notFound ("Node \"".toList ++ target ++ "\" does not exist.".toList))
    | some _ => do
      let nodes := graph.ancestors [target]
      let repeats ← repeatsAmong nodes graph.nodes
      planFrom (place target nodes repeats groups) rest

/-- How many passes some Repeat nodes make; a product past 64 bits counts as the largest. -/
def totalPasses (repeats : List (Text × UInt32)) : Nat :=
  let total := (repeats.map fun r => r.2.toNat).prod
  if total < 2 ^ 64 then total else 2 ^ 64 - 1

def plan (targets : List Text) : Except AppError (List Group) := do
  let groups ← graph.planFrom [] targets
  match groups.find? fun group => maxPasses < totalPasses group.repeats with
  | some group =>
    .error (.invalidInput ("Nested Repeat nodes would run ".toList ++
      decimal (totalPasses group.repeats) ++ " passes; the limit is 100000.".toList))
  | none => .ok groups

/-- Which iteration each Repeat node is on in a pass, and of how many. -/
abbrev PassIndex := List (Text × UInt32 × UInt32)

/-- Every combination of iterations, the first Repeat being the outermost loop. -/
def passes (repeats : List (Text × UInt32)) : List PassIndex :=
  repeats.foldl (fun out (id, count) =>
    out.flatMap fun base =>
      (List.range count.toNat).map fun i => base ++ [(id, UInt32.ofNat i, count)]) [[]]

end Plan

/-- The first wiring mistake among the connections between some nodes. -/
def wiringProblem (involved : List Text) : Option Text :=
  graph.edges.findSome? fun e =>
    if e.source ∈ involved ∧ e.target ∈ involved then
      (graph.node e.source).bind fun source =>
        if source.config = .branch ∧ e.sourceHandle = none then
          some ("A connection from \"".toList ++ displayName source ++
            "\" does not say whether it leaves by the True or the False side.".toList)
        else if source.config ≠ .branch ∧ e.sourceHandle ≠ none then
          some ("\"".toList ++ displayName source ++
            "\" has a single output, but a connection from it names a True / False side.".toList)
        else none
    else none

end Graph

end DbFree.Workflows
