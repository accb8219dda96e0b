import DbFree.Layering
import DbFree.WorkflowGraph

/- The levels of a workflow's nodes are those of its longest paths, where it has no cycle, and
what lies upstream of a node tells whether an edge would close one. -/
namespace DbFree.Workflows

open Relation Layering

namespace Graph

/-- An edge within a subset joins two nodes. -/
def Feeds (graph : Graph) (subset : List Text) (source target : Text) : Prop :=
  ∃ e ∈ graph.within subset, e.source = source ∧ e.target = target

/-- An edge joins two nodes. -/
def Edge (graph : Graph) (source target : Text) : Prop :=
  ∃ e ∈ graph.edges, e.source = source ∧ e.target = target

/-- The nodes of a subset. -/
def members (graph : Graph) (subset : List Text) : List Text :=
  (graph.nodes.map WorkflowNode.id).filter fun id => id ∈ subset

variable {graph : Graph} {subset : List Text}

theorem mem_members {id : Text} :
    id ∈ graph.members subset ↔ id ∈ graph.nodes.map WorkflowNode.id ∧ id ∈ subset := by
  rw [members, List.mem_filter, decide_eq_true_iff]

theorem members_nodup : (graph.members subset).Nodup := graph.distinct.filter _

theorem mem_within {e : WorkflowEdge} :
    e ∈ graph.within subset ↔ e ∈ graph.edges ∧ e.source ∈ subset ∧ e.target ∈ subset := by
  rw [within, List.mem_filter, decide_eq_true_iff]

theorem Feeds.members {source target : Text} (feeds : graph.Feeds subset source target) :
    source ∈ graph.members subset ∧ target ∈ graph.members subset := by
  obtain ⟨e, member, rfl, rfl⟩ := feeds
  obtain ⟨member, source_in, target_in⟩ := mem_within.mp member
  obtain ⟨source_node, target_node, -⟩ := graph.joined e member
  exact ⟨mem_members.mpr ⟨source_node, source_in⟩, mem_members.mpr ⟨target_node, target_in⟩⟩

section Release

/-- What taking some edges from the degrees leaves, and which nodes come next. -/
theorem release_spec {degree : Degrees} {es : List WorkflowEdge} {next : List Text}
    (enough : ∀ id ∈ degree.keys, es.countP (fun e => e.target = id) ≤ degree.count id) :
    ∃ degree' added, release degree es next = some (degree', next ++ added) ∧
      degree'.keys = degree.keys ∧ added.Nodup ∧
      (∀ id ∈ degree.keys,
        degree'.count id + es.countP (fun e => e.target = id) = degree.count id) ∧
      ∀ id, id ∈ added ↔ id ∈ degree.keys ∧ 0 < es.countP (fun e => e.target = id) ∧
        degree.count id = es.countP fun e => e.target = id := by
  induction es generalizing degree next with
  | nil =>
    refine ⟨degree, [], by rw [release, List.append_nil], rfl, List.nodup_nil, fun _ _ => rfl, ?_⟩
    intro id
    constructor
    · intro none
      cases none
    · rintro ⟨-, positive, -⟩
      exact absurd positive (Nat.lt_irrefl 0)
  | cons e rest hypothesis =>
    have counted : ∀ id, (e :: rest).countP (fun e => e.target = id) =
        rest.countP (fun e => e.target = id) + if e.target = id then 1 else 0 := by
      intro id
      rw [List.countP_cons]
      simp only [decide_eq_true_eq]
    rw [release]
    by_cases key : e.target ∈ degree.keys
    · rw [if_pos key]
      have here := enough e.target key
      rw [counted, if_pos rfl] at here
      obtain ⟨left, count⟩ : ∃ left, degree.count e.target = left + 1 :=
        ⟨degree.count e.target - 1, by omega⟩
      rw [count]
      simp only
      have later : ∀ id ∈ degree.keys, rest.countP (fun e => e.target = id) ≤
          Function.update degree.count e.target left id := by
        intro id member
        have total := enough id member
        rw [counted] at total
        by_cases same : id = e.target
        · subst same
          rw [Function.update_self]
          omega
        · rw [Function.update_of_ne same]
          omega
      obtain ⟨degree', added, released, keys, distinct, counts, next_iff⟩ := @hypothesis
        ⟨degree.keys, Function.update degree.count e.target left⟩
        (if left = 0 then next ++ [e.target] else next) later
      refine ⟨degree', (if left = 0 then [e.target] else []) ++ added, ?_, keys, ?_, ?_, ?_⟩
      · rw [released]
        split
        · rw [List.append_assoc]
        · rw [List.nil_append]
      · split
        · rename_i last
          refine List.nodup_cons.mpr ⟨fun again => ?_, distinct⟩
          obtain ⟨-, positive, same⟩ := (next_iff e.target).mp again
          simp only [Function.update_self] at same
          omega
        · exact distinct
      · intro id member
        have taken := counts id member
        rw [counted]
        by_cases same : id = e.target
        · subst same
          simp only [Function.update_self] at taken
          rw [if_pos rfl]
          omega
        · simp only [Function.update_of_ne same] at taken
          rw [if_neg (Ne.symm same)]
          omega
      · intro id
        rw [List.mem_append, next_iff, counted]
        by_cases same : id = e.target
        · subst same
          simp only [Function.update_self, if_true]
          constructor
          · rintro (first | ⟨_, positive, last⟩)
            · split at first
              · exact ⟨key, by omega, by omega⟩
              · cases first
            · exact ⟨key, by omega, by omega⟩
          · rintro ⟨_, -, last⟩
            by_cases final : left = 0
            · rw [if_pos final]
              exact .inl List.mem_cons_self
            · exact .inr ⟨key, by omega, by omega⟩
        · simp only [Function.update_of_ne same]
          rw [if_neg (Ne.symm same), Nat.add_zero]
          constructor
          · rintro (first | rest)
            · split at first
              · exact absurd (List.mem_singleton.mp first) same
              · cases first
            · exact rest
          · exact .inr
    · rw [if_neg key]
      have elsewhere : ∀ id ∈ degree.keys, (e :: rest).countP (fun e => e.target = id) =
          rest.countP fun e => e.target = id := by
        intro id member
        have apart : ¬e.target = id := fun same => key (same ▸ member)
        rw [counted, if_neg apart, Nat.add_zero]
      obtain ⟨degree', added, released, keys, distinct, counts, next_iff⟩ :=
        @hypothesis degree next fun id member => elsewhere id member ▸ enough id member
      refine ⟨degree', added, released, keys, distinct, ?_, ?_⟩
      · intro id member
        rw [elsewhere id member]
        exact counts id member
      · intro id
        rw [next_iff]
        refine and_congr_right fun member => ?_
        rw [elsewhere id member]

theorem countP_split {α : Type} (p q r : α → Prop) [DecidablePred p] [DecidablePred q]
    [DecidablePred r] (list : List α) (apart : ∀ a, q a → ¬r a) (whole : ∀ a, p a ↔ q a ∨ r a) :
    list.countP (fun a => p a) = list.countP (fun a => q a) + list.countP fun a => r a := by
  induction list with
  | nil => rfl
  | cons a rest hypothesis =>
    rw [List.countP_cons, List.countP_cons, List.countP_cons, hypothesis]
    by_cases first : q a
    · simp only [first, apart a first, (whole a).mpr (.inl first), decide_true, decide_false, if_true,
        Bool.false_eq_true, if_false]
      omega
    · by_cases second : r a
      · simp only [first, second, (whole a).mpr (.inr second), decide_true, decide_false, if_true,
        Bool.false_eq_true, if_false]
        omega
      · have neither : ¬p a := fun holds => ((whole a).mp holds).elim first second
        simp only [first, second, neither, decide_false, Bool.false_eq_true, if_false]
        omega

/-- The edges out of a frontier, counted by their targets. -/
theorem countP_outgoing {frontier : List Text} (distinct : frontier.Nodup) (target : Text) :
    (frontier.flatMap graph.outgoing).countP (fun e => e.target = target) =
      graph.edges.countP fun e => e.target = target ∧ e.source ∈ frontier := by
  induction frontier with
  | nil => simp
  | cons id rest hypothesis =>
    obtain ⟨fresh, distinct⟩ := List.nodup_cons.mp distinct
    rw [List.flatMap_cons, List.countP_append, hypothesis distinct, outgoing, List.countP_filter]
    rw [countP_split (fun e : WorkflowEdge => e.target = target ∧ e.source ∈ id :: rest)
      (fun e => e.target = target ∧ e.source = id) fun e => e.target = target ∧ e.source ∈ rest]
    · simp only [Bool.decide_and]
    · rintro e ⟨-, rfl⟩ ⟨-, again⟩
      exact fresh again
    · intro e
      rw [List.mem_cons, and_or_left]

end Release

section Rounds

open Classical in
/-- The edges into a node whose sources are behind the levels so far. -/
noncomputable def pending (graph : Graph) (subset : List Text) (level : Nat) (id : Text) : Nat :=
  (graph.within subset).countP fun e => e.target = id ∧ Walk (graph.Feeds subset) level e.source

/-- The degrees and the frontier at the beginning of a round. -/
structure AtRound (graph : Graph) (subset : List Text) (level : Nat) (degree : Degrees)
    (frontier : List Text) : Prop where
  keys : degree.keys = graph.members subset
  counts : ∀ id ∈ degree.keys, degree.count id = graph.pending subset level id
  distinct : frontier.Nodup
  frontier : ∀ id, id ∈ frontier ↔ id ∈ graph.members subset ∧
    AtLevel (graph.Feeds subset) level id

open Classical in
theorem pending_pos {level : Nat} {id : Text} :
    0 < graph.pending subset level id ↔ Walk (graph.Feeds subset) (level + 1) id := by
  rw [pending, List.countP_pos_iff]
  constructor
  · rintro ⟨e, member, holds⟩
    obtain ⟨rfl, walk⟩ := of_decide_eq_true holds
    exact ⟨e.source, ⟨e, member, rfl, rfl⟩, walk⟩
  · rintro ⟨source, ⟨e, member, rfl, rfl⟩, walk⟩
    exact ⟨e, member, decide_eq_true ⟨rfl, walk⟩⟩

open Classical in
theorem atRound_start : AtRound graph subset 0 (graph.degrees subset)
    ((graph.degrees subset).keys.filter fun id => (graph.degrees subset).count id = 0) := by
  have counts : ∀ id, (graph.degrees subset).count id = graph.pending subset 0 id := by
    intro id
    show ((graph.within subset).filter fun e => e.target = id).length = _
    rw [← List.countP_eq_length_filter, pending]
    refine List.countP_congr fun e _ => ?_
    simp only [decide_eq_true_eq, Walk, and_true]
  refine ⟨rfl, fun id _ => counts id, members_nodup.filter _, fun id => ?_⟩
  rw [List.mem_filter, decide_eq_true_iff, counts]
  refine and_congr_right fun _ => ?_
  constructor
  · intro none
    exact ⟨trivial, fun walk => by
      have positive := pending_pos.mpr walk
      omega⟩
  · intro here
    by_contra some_pending
    exact here.2 (pending_pos.mp (Nat.pos_of_ne_zero some_pending))

open Classical in
/-- A round takes the edges of its frontier, and comes to the next level. -/
theorem atRound_next {level : Nat} {degree : Degrees} {frontier : List Text}
    (round : AtRound graph subset level degree frontier) :
    ∃ degree' next, release degree (frontier.flatMap graph.outgoing) [] = some (degree', next) ∧
      AtRound graph subset (level + 1) degree' next := by
  have taken : ∀ id ∈ degree.keys,
      (frontier.flatMap graph.outgoing).countP (fun e => e.target = id) =
        (graph.within subset).countP fun e =>
          e.target = id ∧ AtLevel (graph.Feeds subset) level e.source := by
    intro id key
    rw [countP_outgoing round.distinct, within, List.countP_filter]
    refine List.countP_congr fun e member => ?_
    rw [Bool.and_eq_true, decide_eq_true_iff, decide_eq_true_iff, decide_eq_true_iff]
    constructor
    · rintro ⟨rfl, there⟩
      obtain ⟨source, here⟩ := (round.frontier _).mp there
      rw [round.keys] at key
      exact ⟨⟨rfl, here⟩, (mem_members.mp source).2, (mem_members.mp key).2⟩
    · rintro ⟨⟨rfl, here⟩, source_in, -⟩
      exact ⟨rfl, (round.frontier _).mpr
        ⟨mem_members.mpr ⟨(graph.joined e member).1, source_in⟩, here⟩⟩
  have split : ∀ id, graph.pending subset level id =
      ((graph.within subset).countP fun e =>
        e.target = id ∧ AtLevel (graph.Feeds subset) level e.source) +
        graph.pending subset (level + 1) id := by
    intro id
    refine countP_split _ _ _ _ ?_ ?_
    · rintro e ⟨-, here⟩ ⟨-, further⟩
      exact here.2 further
    · intro e
      rw [← and_or_left]
      refine and_congr_right fun _ => ⟨fun walk => ?_, fun either => ?_⟩
      · by_cases further : Walk (graph.Feeds subset) (level + 1) e.source
        · exact .inr further
        · exact .inl ⟨walk, further⟩
      · exact either.elim And.left Walk.tail
  obtain ⟨degree', next, released, keys, distinct, counts, next_iff⟩ :=
    @release_spec degree (frontier.flatMap graph.outgoing) [] fun id key => by
      rw [taken id key, round.counts id key, split id]
      omega
  refine ⟨degree', next, released, keys.trans round.keys, ?_, distinct, ?_⟩
  · intro id key
    rw [keys] at key
    have whole := counts id key
    rw [taken id key, round.counts id key, split id] at whole
    omega
  · intro id
    rw [next_iff, round.keys]
    refine and_congr_right fun member => ?_
    rw [taken id (round.keys ▸ member), round.counts id (round.keys ▸ member), split id]
    constructor
    · rintro ⟨positive, none_left⟩
      refine ⟨?_, fun longer => ?_⟩
      · rw [← pending_pos, split id]
        omega
      · have more := pending_pos.mpr longer
        omega
    · rintro ⟨walk, longest⟩
      have some_now := pending_pos.mpr walk
      have none_left : graph.pending subset (level + 1) id = 0 := by
        by_contra some_left
        exact longest (pending_pos.mp (Nat.pos_of_ne_zero some_left))
      rw [split id] at some_now
      omega

/-- The levels from one on: each lists its nodes once, and there is no further one. -/
def Layered (edge : Text → Text → Prop) (keys : List Text) : Nat → List (List Text) → Prop
  | level, [] => ∀ id ∈ keys, ¬AtLevel edge level id
  | level, here :: rest => here ≠ [] ∧ here.Nodup ∧
    (∀ id, id ∈ here ↔ id ∈ keys ∧ AtLevel edge level id) ∧ Layered edge keys (level + 1) rest

/-- Below a level there is a node at each, so that a level is less than the nodes are many. -/
theorem atLevel_lt {level : Nat} {id : Text} (member : id ∈ graph.members subset)
    (here : AtLevel (graph.Feeds subset) level id) : level < (graph.members subset).length := by
  have chain : ∀ level id, id ∈ graph.members subset → AtLevel (graph.Feeds subset) level id →
      ∃ path : List Text, path.Nodup ∧ path.length = level + 1 ∧ path ⊆ graph.members subset ∧
        ∀ other ∈ path, ∃ below, below ≤ level ∧ AtLevel (graph.Feeds subset) below other := by
    intro level
    induction level with
    | zero =>
      intro id member here
      refine ⟨[id], List.nodup_singleton id, rfl, ?_, ?_⟩
      · exact fun other there => List.mem_singleton.mp there ▸ member
      · exact fun other there => ⟨0, Nat.le_refl 0, List.mem_singleton.mp there ▸ here⟩
    | succ level hypothesis =>
      intro id member here
      obtain ⟨source, feeds, before⟩ := here.before
      obtain ⟨path, distinct, size, inside, levels⟩ := hypothesis source feeds.members.1 before
      refine ⟨id :: path, List.nodup_cons.mpr ⟨fun there => ?_, distinct⟩, by simp [size], ?_, ?_⟩
      · obtain ⟨below, less, again⟩ := levels id there
        have same := here.unique again
        omega
      · exact List.cons_subset.mpr ⟨member, inside⟩
      · intro other there
        rcases List.mem_cons.mp there with rfl | there
        · exact ⟨level + 1, Nat.le_refl _, here⟩
        · obtain ⟨below, less, again⟩ := levels other there
          exact ⟨below, by omega, again⟩
  obtain ⟨path, distinct, size, inside, -⟩ := chain level id member here
  have fits := (distinct.subperm inside).length_le
  omega

theorem levelsFrom_spec {rounds level : Nat} {degree : Degrees} {frontier : List Text}
    (round : AtRound graph subset level degree frontier)
    (enough : (graph.members subset).length < level + rounds) :
    ∃ levels, graph.levelsFrom rounds degree frontier = some (levels, levels.flatten.length) ∧
      Layered (graph.Feeds subset) (graph.members subset) level levels := by
  induction rounds generalizing level degree frontier with
  | zero =>
    refine ⟨[], rfl, fun id member here => ?_⟩
    have less := atLevel_lt member here
    omega
  | succ rounds hypothesis =>
    cases frontier with
    | nil =>
      refine ⟨[], rfl, fun id member here => ?_⟩
      cases (round.frontier id).mpr ⟨member, here⟩
    | cons id rest =>
      obtain ⟨degree', next, released, round'⟩ := atRound_next round
      obtain ⟨levels, rest_levels, layered⟩ := hypothesis round' (by omega)
      refine ⟨(id :: rest) :: levels, ?_, List.cons_ne_nil _ _, round.distinct, round.frontier,
        layered⟩
      rw [levelsFrom, released, Option.bind_eq_bind, Option.bind_some]
      simp only [rest_levels, Option.bind_eq_bind, Option.bind_some, List.flatten_cons,
        List.length_append]

end Rounds

section Layers

variable {edge : Text → Text → Prop} {keys : List Text} {level : Nat} {levels : List (List Text)}

theorem Layered.mem_get (layered : Layered edge keys level levels) {i : Nat} {here : List Text}
    (found : levels[i]? = some here) (id : Text) :
    id ∈ here ↔ id ∈ keys ∧ AtLevel edge (level + i) id := by
  induction levels generalizing level i with
  | nil => cases found
  | cons first rest hypothesis =>
    cases i with
    | zero =>
      cases found
      exact layered.2.2.1 id
    | succ i =>
      rw [List.getElem?_cons_succ] at found
      rw [hypothesis layered.2.2.2 found, Nat.add_right_comm, Nat.add_assoc]

/-- Behind the last level no node has a level. -/
theorem Layered.done (layered : Layered edge keys level levels)
    (inside : ∀ source target, edge source target → source ∈ keys) {other : Nat} {id : Text}
    (member : id ∈ keys) (beyond : level + levels.length ≤ other) : ¬AtLevel edge other id := by
  induction levels generalizing level with
  | nil =>
    intro here
    obtain ⟨more, rfl⟩ := Nat.exists_eq_add_of_le beyond
    clear beyond
    induction more generalizing id with
    | zero => exact layered id member here
    | succ more hypothesis =>
      obtain ⟨source, link, before⟩ := AtLevel.before here
      exact hypothesis (inside _ _ link) before
  | cons first rest hypothesis =>
    refine hypothesis layered.2.2.2 ?_
    rw [List.length_cons] at beyond
    omega

theorem Layered.mem_flatten (layered : Layered edge keys 0 levels)
    (inside : ∀ source target, edge source target → source ∈ keys) (id : Text) :
    id ∈ levels.flatten ↔ id ∈ keys ∧ ∃ level, AtLevel edge level id := by
  rw [List.mem_flatten]
  constructor
  · rintro ⟨here, there, member⟩
    obtain ⟨i, found⟩ := List.mem_iff_getElem?.mp there
    obtain ⟨key, at_level⟩ := (layered.mem_get found id).mp member
    exact ⟨key, _, at_level⟩
  · rintro ⟨key, other, at_level⟩
    by_cases reached : other < levels.length
    · have found : levels[other]? = some levels[other] := List.getElem?_eq_getElem reached
      refine ⟨levels[other], List.getElem_mem reached, (layered.mem_get found id).mpr ⟨key, ?_⟩⟩
      rw [Nat.zero_add]
      exact at_level
    · exact absurd at_level (layered.done inside key (by omega))

theorem Layered.flatten_nodup (layered : Layered edge keys level levels) :
    levels.flatten.Nodup := by
  rw [List.nodup_flatten]
  refine ⟨fun here there => ?_, ?_⟩
  · obtain ⟨i, found⟩ := List.mem_iff_getElem?.mp there
    clear there
    induction levels generalizing level i with
    | nil => cases found
    | cons first rest hypothesis =>
      cases i with
      | zero =>
        cases found
        exact layered.2.1
      | succ i => exact hypothesis layered.2.2.2 i found
  · rw [List.pairwise_iff_getElem]
    intro i j i_in j_in less
    rw [List.disjoint_left]
    intro id first second
    have here := (layered.mem_get (List.getElem?_eq_getElem i_in) id).mp first
    have there := (layered.mem_get (List.getElem?_eq_getElem j_in) id).mp second
    have same := here.2.unique there.2
    omega

end Layers

/-- The levels come out exactly if the subset has no cycle, and are the levels of its longest
paths. -/
theorem levels_layered (graph : Graph) (subset : List Text) :
    ∃ levels, Layered (graph.Feeds subset) (graph.members subset) 0 levels ∧
      ((Acyclic (graph.Feeds subset) ∧ graph.levels subset = some (.ok levels)) ∨
        (¬Acyclic (graph.Feeds subset) ∧ ∃ error, graph.levels subset = some (.error error))) := by
  obtain ⟨levels, rounds, layered⟩ := @levelsFrom_spec graph subset
    ((graph.degrees subset).keys.length + 1) 0 _ _ atRound_start
    (by show (graph.members subset).length < 0 + ((graph.members subset).length + 1); omega)
  have inside : ∀ source target, graph.Feeds subset source target →
      source ∈ graph.members subset := fun _ _ feeds => feeds.members.1
  refine ⟨levels, layered, ?_⟩
  have computed : graph.levels subset =
      if levels.flatten.length ≠ (graph.members subset).length then
        some (.error (.invalidInput
          "The workflow has a cycle: a node feeds itself through other nodes.".toList))
      else some (.ok levels) := by
    rw [Graph.levels]
    simp only [rounds, Option.bind_eq_bind, Option.bind_some]
    rfl
  rw [computed]
  have part : levels.flatten ⊆ graph.members subset := fun id there =>
    ((layered.mem_flatten inside id).mp there).1
  have subperm := layered.flatten_nodup.subperm part
  rw [acyclic_iff inside]
  by_cases whole : levels.flatten.length = (graph.members subset).length
  · rw [if_neg (not_not.mpr whole)]
    refine .inl ⟨fun id member => ?_, rfl⟩
    have perm := subperm.perm_of_length_le (by omega)
    exact ((layered.mem_flatten inside id).mp (perm.symm.subset member)).2
  · rw [if_pos whole]
    refine .inr ⟨fun all => whole ?_, _, rfl⟩
    have back : graph.members subset ⊆ levels.flatten := fun id member =>
      (layered.mem_flatten inside id).mpr ⟨member, all id member⟩
    exact Nat.le_antisymm subperm.length_le (members_nodup.subperm back).length_le

section Ancestors

/-- What the search finds leads to what it began with. -/
theorem ancestorsFrom_sound {steps : Nat} {stack seen : List Text} {id : Text}
    (found : id ∈ graph.ancestorsFrom steps stack seen) :
    id ∈ seen ∨ ∃ target ∈ stack, ReflTransGen graph.Edge id target := by
  induction steps generalizing stack seen with
  | zero => exact .inl found
  | succ steps hypothesis =>
    cases stack with
    | nil => exact .inl found
    | cons top stack =>
      rw [ancestorsFrom] at found
      split at found
      · rcases hypothesis found with old | ⟨target, there, path⟩
        · exact .inl old
        · exact .inr ⟨target, List.mem_cons_of_mem _ there, path⟩
      · rcases hypothesis found with old | ⟨target, there, path⟩
        · rcases List.mem_cons.mp old with rfl | old
          · exact .inr ⟨_, List.mem_cons_self, .refl⟩
          · exact .inl old
        · rcases List.mem_append.mp there with pushed | there
          · obtain ⟨e, member, rfl⟩ := List.mem_map.mp (List.mem_reverse.mp pushed)
            obtain ⟨member, same⟩ := List.mem_filter.mp member
            exact .inr ⟨top, List.mem_cons_self,
              path.tail ⟨e, member, rfl, of_decide_eq_true same⟩⟩
          · exact .inr ⟨target, List.mem_cons_of_mem _ there, path⟩

/-- The search ends, and takes with each node those that feed it. -/
theorem ancestorsFrom_closed {steps : Nat} {stack seen : List Text}
    (enough : stack.length + graph.edges.countP (fun e => e.target ∉ seen) ≤ steps)
    (closed : ∀ target ∈ seen, ∀ source, graph.Edge source target →
      source ∈ seen ∨ source ∈ stack) :
    (∀ id, id ∈ seen ∨ id ∈ stack → id ∈ graph.ancestorsFrom steps stack seen) ∧
      ∀ target ∈ graph.ancestorsFrom steps stack seen, ∀ source, graph.Edge source target →
        source ∈ graph.ancestorsFrom steps stack seen := by
  induction steps generalizing stack seen with
  | zero =>
    have none_left : stack = [] := List.eq_nil_of_length_eq_zero (by omega)
    subst none_left
    refine ⟨fun id there => there.resolve_right (List.not_mem_nil), ?_⟩
    exact fun target there source link => (closed target there source link).resolve_right
      List.not_mem_nil
  | succ steps hypothesis =>
    cases stack with
    | nil =>
      refine ⟨fun id there => there.resolve_right (List.not_mem_nil), ?_⟩
      exact fun target there source link => (closed target there source link).resolve_right
        List.not_mem_nil
    | cons top stack =>
      rw [List.length_cons] at enough
      rw [ancestorsFrom]
      split
      · rename_i known
        have stays : ∀ id, id ∈ seen ∨ id ∈ top :: stack → id ∈ seen ∨ id ∈ stack := by
          rintro id (old | there)
          · exact .inl old
          · rcases List.mem_cons.mp there with rfl | there
            · exact .inl known
            · exact .inr there
        obtain ⟨found, whole⟩ := @hypothesis stack seen (by omega)
          fun target there source link => stays _ (closed target there source link)
        exact ⟨fun id there => found id (stays id there), whole⟩
      · rename_i fresh
        have moved : graph.edges.countP (fun e => e.target ∉ seen) =
            graph.edges.countP (fun e => e.target = top) +
              graph.edges.countP fun e => e.target ∉ top :: seen := by
          refine countP_split _ _ _ _ ?_ ?_
          · rintro e rfl there
            exact there List.mem_cons_self
          · intro e
            rw [List.mem_cons, not_or]
            constructor
            · intro outside
              by_cases same : e.target = top
              · exact .inl same
              · exact .inr ⟨same, outside⟩
            · rintro (rfl | both)
              · exact fresh
              · exact both.2
        have pushed : (((graph.incoming top).map WorkflowEdge.source).reverse ++ stack).length =
            graph.edges.countP (fun e => e.target = top) + stack.length := by
          rw [List.length_append, List.length_reverse, List.length_map, incoming,
            List.countP_eq_length_filter]
        obtain ⟨found, whole⟩ := @hypothesis
          (((graph.incoming top).map WorkflowEdge.source).reverse ++ stack) (top :: seen)
          (by omega) (by
            intro target there source link
            rcases List.mem_cons.mp there with rfl | there
            · obtain ⟨e, member, rfl, same⟩ := link
              exact .inr (List.mem_append_left _ (List.mem_reverse.mpr (List.mem_map_of_mem
                (List.mem_filter.mpr ⟨member, decide_eq_true same⟩))))
            · rcases closed target there source link with old | there
              · exact .inl (List.mem_cons_of_mem _ old)
              · rcases List.mem_cons.mp there with rfl | there
                · exact .inl List.mem_cons_self
                · exact .inr (List.mem_append_right _ there))
        refine ⟨fun id there => found id ?_, whole⟩
        rcases there with old | there
        · exact .inl (List.mem_cons_of_mem _ old)
        · rcases List.mem_cons.mp there with rfl | there
          · exact .inl List.mem_cons_self
          · exact .inr (List.mem_append_right _ there)

theorem mem_ancestors {targets : List Text} {id : Text} :
    id ∈ graph.ancestors targets ↔ ∃ target ∈ targets, ReflTransGen graph.Edge id target := by
  constructor
  · intro found
    rcases ancestorsFrom_sound found with none | ⟨target, there, path⟩
    · cases none
    · exact ⟨target, List.mem_reverse.mp there, path⟩
  · rintro ⟨target, there, path⟩
    have all : graph.edges.countP (fun e => e.target ∉ ([] : List Text)) = graph.edges.length := by
      rw [List.countP_eq_length]
      exact fun e _ => by simp
    obtain ⟨found, whole⟩ := @ancestorsFrom_closed graph
      (targets.length + graph.edges.length) targets.reverse []
      (by rw [List.length_reverse, all]) fun target none => by cases none
    induction path using ReflTransGen.head_induction_on with
    | refl => exact found target (.inr (List.mem_reverse.mpr there))
    | head link _ hypothesis => exact whole _ hypothesis _ link

end Ancestors

section Cycles

/-- All ids of a list of nodes. -/
def allIds (nodes : List WorkflowNode) : List Text := nodes.map WorkflowNode.id

theorem feeds_all (graph : Graph) : graph.Feeds (allIds graph.nodes) = graph.Edge := by
  funext source target
  refine propext ⟨?_, ?_⟩
  · rintro ⟨e, member, ends⟩
    exact ⟨e, (mem_within.mp member).1, ends⟩
  · rintro ⟨e, member, ends⟩
    obtain ⟨source_in, target_in, -⟩ := graph.joined e member
    exact ⟨e, mem_within.mpr ⟨member, source_in, target_in⟩, ends⟩

theorem new_ok {nodes : List WorkflowNode} {edges : List WorkflowEdge}
    (made : Graph.new nodes edges = .ok graph) :
    graph.nodes = nodes ∧ graph.edges = keptEdges nodes edges := by
  unfold Graph.new at made
  split at made
  · cases made
  · split at made
    · cases made
    · cases made
      exact ⟨rfl, rfl⟩

theorem firstTwice_of_nodup {seen ids : List Text} (distinct : ids.Nodup)
    (apart : ∀ id ∈ ids, id ∉ seen) : firstTwice seen ids = none := by
  induction ids generalizing seen with
  | nil => rfl
  | cons id rest hypothesis =>
    obtain ⟨fresh, distinct⟩ := List.nodup_cons.mp distinct
    rw [firstTwice, if_neg (apart id List.mem_cons_self)]
    refine hypothesis distinct fun other member there => ?_
    rcases List.mem_cons.mp there with rfl | there
    · exact fresh member
    · exact apart other (List.mem_cons_of_mem _ member) there

/-- A list of nodes with ids of their own and of edges that are no loops makes a graph. -/
theorem new_makes {nodes : List WorkflowNode} {edges : List WorkflowEdge}
    (distinct : (nodes.map WorkflowNode.id).Nodup)
    (apart : ∀ e ∈ keptEdges nodes edges, e.source ≠ e.target) :
    ∃ graph, Graph.new nodes edges = .ok graph := by
  have single := @firstTwice_of_nodup [] _ distinct fun id _ none => by cases none
  have no_loop : (keptEdges nodes edges).find? (fun e => e.source = e.target) = none := by
    rw [List.find?_eq_none]
    intro e member
    rw [decide_eq_true_iff]
    exact apart e member
  unfold Graph.new
  split
  · rename_i twice
    rw [single] at twice
    cases twice
  · split
    · rename_i loop
      rw [no_loop] at loop
      cases loop
    · exact ⟨_, rfl⟩

/-- The levels over all nodes fail: the graph is refused, or it has a cycle. -/
def LevelsFail (nodes : List WorkflowNode) (edges : List WorkflowEdge) : Prop :=
  ∀ graph, Graph.new nodes edges = .ok graph →
    ∀ levels, graph.levels (allIds nodes) ≠ some (.ok levels)

theorem wouldCycle_iff (source target : Text) :
    graph.wouldCycle source target = true ↔ ReflTransGen graph.Edge target source := by
  rw [wouldCycle, Bool.or_eq_true, decide_eq_true_iff, decide_eq_true_iff, mem_ancestors]
  constructor
  · rintro (rfl | ⟨other, there, path⟩)
    · exact .refl
    · exact List.mem_singleton.mp there ▸ path
  · exact fun path => .inr ⟨source, List.mem_singleton_self source, path⟩

theorem levels_ok_iff (graph : Graph) (subset : List Text) :
    (∃ levels, graph.levels subset = some (.ok levels)) ↔ Acyclic (graph.Feeds subset) := by
  obtain ⟨levels, -, ⟨acyclic, computed⟩ | ⟨cyclic, error, computed⟩⟩ := levels_layered graph subset
  · exact ⟨fun _ => acyclic, fun _ => ⟨levels, computed⟩⟩
  · refine ⟨?_, fun acyclic => absurd acyclic cyclic⟩
    rintro ⟨other, found⟩
    rw [computed] at found
    cases found

/-- An edge between two nodes closes a cycle exactly if the levels fail with it. -/
theorem wouldCycle_fails {nodes : List WorkflowNode} {edges : List WorkflowEdge}
    (made : Graph.new nodes edges = .ok graph) {levels : List (List Text)}
    (before : graph.levels (allIds nodes) = some (.ok levels)) {e : WorkflowEdge}
    (source_in : e.source ∈ allIds nodes) (target_in : e.target ∈ allIds nodes) :
    graph.wouldCycle e.source e.target = true ↔ LevelsFail nodes (edges ++ [e]) := by
  obtain ⟨rfl, kept⟩ := new_ok made
  have grown : keptEdges graph.nodes (edges ++ [e]) = graph.edges ++ [e] := by
    rw [keptEdges, List.filter_append, ← keptEdges, ← kept, List.filter_cons_of_pos]
    · rfl
    · exact decide_eq_true ⟨source_in, target_in⟩
  have acyclic : Acyclic graph.Edge := by
    rw [← feeds_all]
    exact (levels_ok_iff graph _).mp ⟨levels, before⟩
  have edge_more : ∀ graph' : Graph, graph'.edges = graph.edges ++ [e] →
      graph'.Edge = fun a b => graph.Edge a b ∨ (a = e.source ∧ b = e.target) := by
    intro graph' more
    funext a b
    refine propext ⟨?_, ?_⟩
    · rintro ⟨other, member, rfl, rfl⟩
      rw [more] at member
      rcases List.mem_append.mp member with member | last
      · exact .inl ⟨other, member, rfl, rfl⟩
      · obtain rfl := List.mem_singleton.mp last
        exact .inr ⟨rfl, rfl⟩
    · rintro (⟨other, member, ends⟩ | ⟨rfl, rfl⟩)
      · exact ⟨other, more ▸ List.mem_append_left _ member, ends⟩
      · exact ⟨e, more ▸ List.mem_append_right _ (List.mem_singleton_self e), rfl, rfl⟩
  rw [wouldCycle_iff]
  constructor
  · intro path graph' made' levels' found
    obtain ⟨nodes', edges'⟩ := new_ok made'
    rw [grown] at edges'
    have still : Acyclic graph'.Edge := by
      rw [← feeds_all, nodes']
      exact (levels_ok_iff graph' _).mp ⟨levels', found⟩
    rw [edge_more graph' edges'] at still
    exact (acyclic_add acyclic _ _).mp still path
  · intro fails
    by_contra apart
    have no_loop : e.source ≠ e.target := fun same => apart (same ▸ .refl)
    obtain ⟨graph', made'⟩ := @new_makes graph.nodes (edges ++ [e]) graph.distinct (by
      intro other member
      rw [grown] at member
      rcases List.mem_append.mp member with member | last
      · exact (graph.joined other member).2.2
      · exact List.mem_singleton.mp last ▸ no_loop)
    obtain ⟨nodes', edges'⟩ := new_ok made'
    rw [grown] at edges'
    have still : Acyclic (graph'.Feeds (allIds graph.nodes)) := by
      rw [← nodes', feeds_all, edge_more graph' edges']
      exact (acyclic_add acyclic _ _).mpr apart
    obtain ⟨levels', found⟩ := (levels_ok_iff graph' _).mpr still
    exact fails graph' made' levels' found

end Cycles

/-- The levels split a subset, each with no node of another. -/
def Partitions (levels : List (List Text)) (subset : List Text) : Prop :=
  [] ∉ levels ∧ levels.flatten.Nodup ∧ ∀ id, id ∈ levels.flatten ↔ id ∈ subset

theorem Layered.filled {edge : Text → Text → Prop} {keys : List Text} {level : Nat}
    {levels : List (List Text)} (layered : Layered edge keys level levels) : [] ∉ levels := by
  induction levels generalizing level with
  | nil => exact List.not_mem_nil
  | cons first rest hypothesis =>
    intro there
    rcases List.mem_cons.mp there with same | there
    · exact layered.1 same.symm
    · exact hypothesis layered.2.2.2 there

/-- Two nodes that feed a third, over parallel edges. -/
def joining : List WorkflowNode × List WorkflowEdge :=
  ([⟨"a".toList, [], false, .filter⟩, ⟨"b".toList, [], false, .filter⟩,
      ⟨"c".toList, [], false, .filter⟩],
    [⟨"1".toList, "a".toList, "b".toList, none⟩, ⟨"2".toList, "a".toList, "c".toList, none⟩,
      ⟨"3".toList, "b".toList, "c".toList, none⟩, ⟨"4".toList, "b".toList, "c".toList, none⟩])

def joiningGraph : Graph where
  nodes := joining.1
  edges := joining.2
  distinct := by decide
  joined := by decide

end Graph

end DbFree.Workflows
