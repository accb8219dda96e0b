import DbFree.WorkflowLevels

/- Which nodes run when all of a workflow runs, and which when a trigger fires: what is upstream
of the leaves. -/
namespace DbFree.Workflows

open Layering Relation

namespace Graph

variable (graph : Graph)

/-- What a stack of ids leads to along the edges. Each step takes an id from the stack, and
puts the targets of an edge on it once. -/
def downstreamFrom : Nat → List Text → List Text → List Text
  | 0, _, seen => seen
  | _ + 1, [], seen => seen
  | steps + 1, id :: stack, seen =>
    if id ∈ seen then downstreamFrom steps stack seen
    else downstreamFrom steps (((graph.outgoing id).map WorkflowEdge.target).reverse ++ stack)
      (id :: seen)

/-- A trigger and everything downstream of it. -/
def downstream (trigger : Text) : List Text :=
  graph.downstreamFrom (1 + graph.edges.length) [trigger] []

/-- The leaves reachable from a trigger; the trigger itself when it has none. -/
def leavesDownstreamOf (trigger : Text) : List Text :=
  let seen := graph.downstream trigger
  let leaves := (graph.nodes.filter fun n => decide (n.id ∈ seen) &&
    (graph.outgoing n.id).isEmpty).map WorkflowNode.id
  if leaves.isEmpty then [trigger] else leaves

section Downstream

def turned (e : WorkflowEdge) : WorkflowEdge := { e with source := e.target, target := e.source }

/-- The graph with each of its edges the other way. -/
def turn : Graph where
  nodes := graph.nodes
  edges := graph.edges.map turned
  distinct := graph.distinct
  joined := by
    intro e member
    have ⟨original, isEdge, same⟩ := List.mem_map.mp member
    have ⟨source, target, apart⟩ := graph.joined original isEdge
    rw [← same]
    exact ⟨target, source, apart.symm⟩

theorem turn_edge (source target : Text) : graph.turn.Edge source target ↔ graph.Edge target source := by
  constructor
  · intro link
    have ⟨e, member, isSource, isTarget⟩ := link
    have ⟨original, isEdge, same⟩ := List.mem_map.mp member
    rw [← same] at isSource isTarget
    exact ⟨original, isEdge, isTarget, isSource⟩
  · intro link
    have ⟨e, member, isSource, isTarget⟩ := link
    exact ⟨turned e, List.mem_map_of_mem member, isTarget, isSource⟩

theorem turn_incoming (id : Text) :
    (graph.turn.incoming id).map WorkflowEdge.source = (graph.outgoing id).map WorkflowEdge.target := by
  unfold incoming outgoing
  show ((graph.edges.map turned).filter _).map _ = _
  rw [List.filter_map, List.map_map]
  rfl

theorem downstreamFrom_turn (steps : Nat) : ∀ stack seen,
    graph.downstreamFrom steps stack seen = graph.turn.ancestorsFrom steps stack seen := by
  induction steps with
  | zero =>
    intro stack seen
    rfl
  | succ steps ih =>
    intro stack seen
    cases stack with
    | nil => rfl
    | cons id stack =>
      rw [downstreamFrom, ancestorsFrom, turn_incoming, ih, ih]

theorem mem_downstream {trigger id : Text} :
    id ∈ graph.downstream trigger ↔ ReflTransGen graph.Edge trigger id := by
  have edges : graph.turn.edges.length = graph.edges.length := List.length_map _
  have upstream := @mem_ancestors graph.turn [trigger] id
  have turnedEdge : graph.turn.Edge = Function.swap graph.Edge := by
    funext source target
    exact propext (graph.turn_edge source target)
  unfold ancestors at upstream
  rw [edges, ← downstreamFrom_turn, turnedEdge] at upstream
  unfold downstream
  constructor
  · intro found
    have ⟨target, isTrigger, path⟩ := upstream.mp found
    rw [List.mem_singleton.mp isTrigger] at path
    exact reflTransGen_swap.mp path
  · intro path
    exact upstream.mpr ⟨trigger, List.mem_singleton_self trigger, reflTransGen_swap.mpr path⟩

end Downstream

section Leaves

variable {graph}

theorem outgoing_isEmpty {id : Text} :
    (graph.outgoing id).isEmpty = true ↔ ∀ target, ¬graph.Edge id target := by
  rw [List.isEmpty_iff]
  constructor
  · intro none target link
    have ⟨e, member, isSource, _⟩ := link
    have there : e ∈ graph.outgoing id := List.mem_filter.mpr ⟨member, decide_eq_true isSource⟩
    rw [none] at there
    cases there
  · intro none
    apply List.eq_nil_iff_forall_not_mem.mpr
    intro e there
    have ⟨member, isSource⟩ := List.mem_filter.mp there
    exact none e.target ⟨e, member, of_decide_eq_true isSource, rfl⟩

/-- Among some of the nodes that a node of an acyclic graph leads to, one is the last. -/
theorem last_of_acyclic (acyclic : Acyclic graph.Edge) (chosen : WorkflowNode → Prop)
    {node : WorkflowNode} (member : node ∈ graph.nodes) (isChosen : chosen node) :
    ∃ last ∈ graph.nodes, chosen last ∧ ReflTransGen graph.Edge node.id last.id ∧
      ∀ later ∈ graph.nodes, chosen later → ¬TransGen graph.Edge last.id later.id := by
  classical
  let below := graph.nodes.filter fun n => chosen n ∧ ReflTransGen graph.Edge node.id n.id
  let back : WorkflowNode → WorkflowNode → Prop := fun a b => TransGen graph.Edge b.id a.id
  have still : Acyclic back := by
    intro first cycle
    have along : ∀ other, TransGen back first other → TransGen graph.Edge other.id first.id := by
      intro other path
      induction path with
      | single link => exact link
      | tail _ link ih => exact link.trans ih
    exact acyclic _ (along first cycle)
  have filled : below ≠ [] := by
    intro none
    have there : node ∈ below :=
      List.mem_filter.mpr ⟨member, decide_eq_true ⟨isChosen, .refl⟩⟩
    rw [none] at there
    cases there
  have ⟨last, isBelow, free⟩ := still.free filled
  have ⟨isNode, isLast⟩ := List.mem_filter.mp isBelow
  have ⟨chosenLast, path⟩ := of_decide_eq_true isLast
  refine ⟨last, isNode, chosenLast, path, ?_⟩
  intro later there chosenLater onward
  exact free later (List.mem_filter.mpr ⟨there,
    decide_eq_true ⟨chosenLater, path.trans onward.to_reflTransGen⟩⟩) onward

theorem edge_target {source target : Text} (link : graph.Edge source target) :
    ∃ node ∈ graph.nodes, node.id = target := by
  have ⟨e, member, _, isTarget⟩ := link
  have ⟨node, there, same⟩ := List.mem_map.mp (graph.joined e member).2.1
  exact ⟨node, there, same.trans isTarget⟩

/-- Everything a trigger leads to runs when it fires. -/
theorem downstream_runs (acyclic : Acyclic graph.Edge) {trigger : Text} {node : WorkflowNode}
    (member : node ∈ graph.nodes) (reached : ReflTransGen graph.Edge trigger node.id) :
    node.id ∈ graph.ancestors (graph.leavesDownstreamOf trigger) := by
  have ⟨last, isNode, _, path, final⟩ := last_of_acyclic acyclic (fun _ => True) member trivial
  have still : (graph.outgoing last.id).isEmpty = true := by
    rw [outgoing_isEmpty]
    intro target link
    have ⟨later, there, same⟩ := edge_target link
    rw [← same] at link
    exact final later there trivial (.single link)
  have isLeaf : last.id ∈ (graph.nodes.filter fun n => decide (n.id ∈ graph.downstream trigger) &&
      (graph.outgoing n.id).isEmpty).map WorkflowNode.id := by
    apply List.mem_map_of_mem
    rw [List.mem_filter, still, Bool.and_true]
    exact ⟨isNode, decide_eq_true (graph.mem_downstream.mpr (reached.trans path))⟩
  have some : ¬((graph.nodes.filter fun n => decide (n.id ∈ graph.downstream trigger) &&
      (graph.outgoing n.id).isEmpty).map WorkflowNode.id).isEmpty = true := by
    intro none
    rw [List.isEmpty_iff.mp none] at isLeaf
    cases isLeaf
  unfold leavesDownstreamOf
  dsimp only
  rw [if_neg some]
  exact mem_ancestors.mpr ⟨last.id, isLeaf, path⟩

/-- Everything that is no note runs when all does. -/
def RunsAll (graph : Graph) : Prop :=
  ∀ node ∈ graph.nodes, isNote node = false → node.id ∈ graph.ancestors graph.leaves

/-- What is wired out of a node leads to one that is no note. -/
def LeadsOn (graph : Graph) : Prop :=
  ∀ node ∈ graph.nodes, isNote node = false → (graph.outgoing node.id).isEmpty = false →
    ∃ later ∈ graph.nodes, isNote later = false ∧ TransGen graph.Edge node.id later.id

theorem mem_leaves {id : Text} : id ∈ graph.leaves ↔ ∃ node ∈ graph.nodes,
    isNote node = false ∧ (graph.outgoing node.id).isEmpty = true ∧ node.id = id := by
  unfold leaves
  rw [List.mem_map]
  constructor
  · intro found
    have ⟨node, isLeaf, same⟩ := found
    have ⟨member, kept⟩ := List.mem_filter.mp isLeaf
    have ⟨other, still⟩ := Bool.and_eq_true_iff.mp kept
    rw [Bool.not_eq_true'] at other
    exact ⟨node, member, other, still, same⟩
  · intro found
    have ⟨node, member, other, still, same⟩ := found
    refine ⟨node, List.mem_filter.mpr ⟨member, ?_⟩, same⟩
    rw [other, still]
    rfl

theorem runsAll_iff (acyclic : Acyclic graph.Edge) : RunsAll graph ↔ LeadsOn graph := by
  constructor
  · intro runs node member other wired
    have ⟨leaf, isLeaf, path⟩ := mem_ancestors.mp (runs node member other)
    have ⟨later, there, isOther, still, same⟩ := mem_leaves.mp isLeaf
    rw [← same] at path
    refine ⟨later, there, isOther, ?_⟩
    cases (reflTransGen_iff_eq_or_transGen.mp path) with
    | inl stays =>
      rw [stays, wired] at still
      cases still
    | inr onward => exact onward
  · intro leads node member other
    have ⟨last, isNode, isOther, path, final⟩ :=
      last_of_acyclic acyclic (fun n => isNote n = false) member other
    have still : (graph.outgoing last.id).isEmpty = true := by
      cases wired : (graph.outgoing last.id).isEmpty with
      | true => rfl
      | false =>
        have ⟨later, there, isLater, onward⟩ := leads last isNode isOther wired
        exact absurd onward (final later there isLater)
    exact mem_ancestors.mpr ⟨last.id, mem_leaves.mpr ⟨last, isNode, isOther, still, rfl⟩, path⟩

theorem joining_acyclic : Acyclic joiningGraph.Edge := by
  have found : ∃ levels, joiningGraph.levels (allIds joining.1) = some (.ok levels) :=
    ⟨[["a".toList], ["b".toList], ["c".toList]], by decide +kernel⟩
  rw [← feeds_all joiningGraph]
  exact (levels_ok_iff joiningGraph (allIds joining.1)).mp found

/-- A file whose rows are wired into a note, and nowhere else. -/
def annotated : List WorkflowNode × List WorkflowEdge :=
  ([⟨"a".toList, [], false, .readFile "rows.csv".toList⟩, ⟨"b".toList, [], false, .note []⟩],
    [⟨"1".toList, "a".toList, "b".toList, none⟩])

def annotatedGraph : Graph where
  nodes := annotated.1
  edges := annotated.2
  distinct := by decide
  joined := by decide

end Leaves

end Graph

end DbFree.Workflows
