import DbFree.Layering

/- Kahn's ordering of numbered nodes, parents first and the lowest number next. -/
namespace DbFree.CreationOrder

/-- A child and the parent that goes before it. -/
abbrev Edge := Nat × Nat

/-- One parent fewer for each of the children; those left without one are ready. -/
def settle (degree : Nat → Nat) (ready : List Nat) : List Nat → (Nat → Nat) × List Nat
  | [] => (degree, ready)
  | child :: rest =>
    let left := degree child - 1
    settle (Function.update degree child left) (if left = 0 then ready ++ [child] else ready) rest

def childrenOf (edges : List Edge) (parent : Nat) : List Nat :=
  (edges.filter (·.2 = parent)).map (·.1)

/-- Takes the lowest ready node until none is left, for `turns` turns. -/
def drain (edges : List Edge) : Nat → (Nat → Nat) → List Nat → List Nat → List Nat
  | 0, _, _, order => order
  | _ + 1, _, [], order => order
  | turns + 1, degree, next :: ready, order =>
    let settled := settle degree ready (childrenOf edges next)
    drain edges turns settled.1 (settled.2.insertionSort (· ≤ ·)) (order ++ [next])

def indegree (edges : List Edge) (node : Nat) : Nat := (edges.filter (·.1 = node)).length

/-- The nodes that come out, each in its turn. -/
def drained (count : Nat) (edges : List Edge) : List Nat :=
  drain edges count (indegree edges)
    ((List.range count).filter fun node => indegree edges node = 0) []

/-- Nodes of a circle keep their numbers' order, after the others. -/
def kahn (count : Nat) (edges : List Edge) : List Nat :=
  let order := drained count edges
  order ++ (List.range count).filter (· ∉ order)

theorem settle_degree (degree : Nat → Nat) (ready children : List Nat) (node : Nat) :
    (settle degree ready children).1 node = degree node - children.count node := by
  induction children generalizing degree ready with
  | nil => simp [settle]
  | cons child rest hypothesis =>
    rw [settle, hypothesis, List.count_cons]
    by_cases same : node = child
    · subst same
      rw [Function.update_self, if_pos (beq_self_eq_true node)]
      omega
    · rw [Function.update_of_ne same, if_neg (by simpa using Ne.symm same)]
      omega

/-- A node becomes ready where its last parent goes. -/
theorem settle_ready (degree : Nat → Nat) (ready children : List Nat)
    (enough : ∀ node, children.count node ≤ degree node) :
    ∃ fresh, (settle degree ready children).2 = ready ++ fresh ∧ fresh.Nodup ∧
      ∀ node, node ∈ fresh ↔ node ∈ children ∧ degree node = children.count node := by
  induction children generalizing degree ready with
  | nil => exact ⟨[], by simp [settle], List.nodup_nil, by simp⟩
  | cons child rest hypothesis =>
    have some_left := enough child
    rw [List.count_cons_self] at some_left
    have rest_enough : ∀ node,
        rest.count node ≤ Function.update degree child (degree child - 1) node := by
      intro node
      have bound := enough node
      rw [List.count_cons] at bound
      by_cases same : node = child
      · subst same
        rw [Function.update_self]
        omega
      · rw [Function.update_of_ne same]
        omega
    obtain ⟨fresh, appended, distinct, members⟩ := hypothesis
      (Function.update degree child (degree child - 1))
      (if degree child - 1 = 0 then ready ++ [child] else ready) rest_enough
    have later : ∀ node, node ≠ child → (node ∈ fresh ↔ node ∈ child :: rest ∧
        degree node = (child :: rest).count node) := by
      intro node other
      rw [members, Function.update_of_ne other, List.mem_cons, or_iff_right other,
        List.count_cons_of_ne other.symm]
    by_cases last : degree child - 1 = 0
    · rw [if_pos last] at appended
      have none_left : rest.count child = 0 := by omega
      have absent := List.count_eq_zero.mp none_left
      refine ⟨child :: fresh, ?_, ?_, ?_⟩
      · rw [settle]
        simp only [if_pos last]
        rw [appended, List.append_assoc]
        rfl
      · refine List.nodup_cons.mpr ⟨?_, distinct⟩
        intro again
        exact absent ((members child).mp again).1
      · intro node
        by_cases same : node = child
        · subst same
          rw [List.count_cons_self]
          simp
          omega
        · rw [List.mem_cons, or_iff_right same]
          exact later node same
    · rw [if_neg last] at appended
      refine ⟨fresh, ?_, distinct, ?_⟩
      · rw [settle]
        simp only [if_neg last]
        exact appended
      · intro node
        by_cases same : node = child
        · subst same
          rw [members, Function.update_self, List.count_cons_self]
          constructor
          · intro ⟨_, degree_eq⟩
            exact ⟨List.mem_cons_self, by omega⟩
          · intro ⟨_, degree_eq⟩
            refine ⟨?_, by omega⟩
            apply List.count_pos_iff.mp
            omega
        · exact later node same

/-- How many parents of a node are still to come. -/
def waiting (edges : List Edge) (order : List Nat) (node : Nat) : Nat :=
  edges.countP fun edge => edge.1 = node ∧ edge.2 ∉ order

theorem waiting_append (edges : List Edge) (order : List Nat) (next node : Nat)
    (fresh : next ∉ order) :
    waiting edges order node =
      (childrenOf edges next).count node + waiting edges (order ++ [next]) node := by
  induction edges with
  | nil => rfl
  | cons edge rest hypothesis =>
    simp only [waiting, childrenOf] at hypothesis ⊢
    rw [List.countP_cons, List.countP_cons, hypothesis]
    by_cases parent : edge.2 = next
    · rw [List.filter_cons_of_pos (by simpa using parent), List.map_cons, List.count_cons]
      by_cases child : edge.1 = node
      · simp [child, parent, fresh]
        omega
      · simp [child]
    · rw [List.filter_cons_of_neg (by simpa using parent)]
      have same_test : decide (edge.1 = node ∧ edge.2 ∉ order ++ [next]) =
          decide (edge.1 = node ∧ edge.2 ∉ order) := by simp [parent]
      rw [same_test, Nat.add_assoc]

/-- What holds of the loop's state: each node waits for the parents that are still to come,
and goes out before a higher one when it never had any. -/
structure Draining (count : Nat) (edges : List Edge) (degree : Nat → Nat)
    (ready order : List Nat) : Prop where
  distinct : (order ++ ready).Nodup
  sorted : ready.Pairwise (· ≤ ·)
  bounded : ∀ node ∈ order, node < count
  degree_eq : ∀ node, degree node = waiting edges order node
  finished : ∀ node ∈ order, degree node = 0
  ready_iff : ∀ node, node ∈ ready ↔ node < count ∧ node ∉ order ∧ degree node = 0
  lower_out : ∀ lower higher, lower < higher → indegree edges lower = 0 → higher ∈ order →
    lower ∈ order
  ascending : order.Pairwise fun earlier later => later < earlier → indegree edges later ≠ 0

section

variable {count : Nat} {edges : List Edge} {degree : Nat → Nat} {ready order : List Nat}

theorem waiting_nil (node : Nat) : waiting edges [] node = indegree edges node := by
  simp [waiting, indegree, List.countP_eq_length_filter]

variable (edges order) in
theorem waiting_le_indegree (node : Nat) : waiting edges order node ≤ indegree edges node := by
  rw [waiting, indegree, ← List.countP_eq_length_filter]
  apply List.countP_mono_left
  intro edge _ counted
  simp only [decide_eq_true_eq] at counted ⊢
  exact counted.1

theorem Draining.start (count : Nat) (edges : List Edge) :
    Draining count edges (indegree edges)
      ((List.range count).filter fun node => indegree edges node = 0) [] where
  distinct := List.Nodup.filter _ List.nodup_range
  sorted := List.Pairwise.filter _ List.pairwise_le_range
  bounded := by simp
  degree_eq := fun node => (waiting_nil node).symm
  finished := by simp
  ready_iff := by simp
  lower_out := by simp
  ascending := List.Pairwise.nil

theorem Draining.next {next : Nat} (within : ∀ edge ∈ edges, edge.1 < count)
    (before : Draining count edges degree (next :: ready) order) :
    Draining count edges (settle degree ready (childrenOf edges next)).1
      ((settle degree ready (childrenOf edges next)).2.insertionSort (· ≤ ·))
      (order ++ [next]) := by
  obtain ⟨next_small, next_new, next_free⟩ := (before.ready_iff next).mp List.mem_cons_self
  have parts : ∀ node, degree node = (childrenOf edges next).count node +
      waiting edges (order ++ [next]) node := by
    intro node
    rw [before.degree_eq]
    exact waiting_append edges order next node next_new
  have enough : ∀ node, (childrenOf edges next).count node ≤ degree node := by
    intro node
    have sum := parts node
    omega
  have degree_eq : ∀ node, (settle degree ready (childrenOf edges next)).1 node =
      waiting edges (order ++ [next]) node := by
    intro node
    have sum := parts node
    rw [settle_degree]
    omega
  obtain ⟨fresh, appended, fresh_distinct, fresh_iff⟩ := settle_ready degree ready _ enough
  have fresh_waits : ∀ node ∈ fresh, 0 < degree node := by
    intro node inside
    obtain ⟨child, all⟩ := (fresh_iff node).mp inside
    have positive := List.count_pos_iff.mpr child
    omega
  have old := List.nodup_append.mp before.distinct
  have ready_distinct := List.nodup_cons.mp old.2.1
  have ready_iff : ∀ node, node ∈ ready ++ fresh ↔ node < count ∧ node ∉ order ++ [next] ∧
      (settle degree ready (childrenOf edges next)).1 node = 0 := by
    intro node
    have sum := parts node
    rw [List.mem_append, degree_eq, List.mem_append, List.mem_singleton]
    constructor
    · rintro (inside | inside)
      · obtain ⟨small, new, none_left⟩ :=
          (before.ready_iff node).mp (List.mem_cons_of_mem next inside)
        refine ⟨small, ?_, by omega⟩
        rintro (out | same)
        · exact new out
        · subst same
          exact ready_distinct.1 inside
      · have waits := fresh_waits node inside
        obtain ⟨child, all⟩ := (fresh_iff node).mp inside
        obtain ⟨edge, member, rfl⟩ := List.mem_map.mp child
        refine ⟨within edge (List.mem_filter.mp member).1, ?_, by omega⟩
        rintro (out | same)
        · have none_left := before.finished _ out
          omega
        · rw [same] at waits
          omega
    · rintro ⟨small, new, none_left⟩
      by_cases child : node ∈ childrenOf edges next
      · exact Or.inr ((fresh_iff node).mpr ⟨child, by omega⟩)
      · have no_edge := List.count_eq_zero.mpr child
        have inside := (before.ready_iff node).mpr
          ⟨small, fun out => new (Or.inl out), by omega⟩
        exact Or.inl ((List.mem_cons.mp inside).resolve_left fun same => new (Or.inr same))
  have least : ∀ node ∈ ready, next ≤ node := (List.pairwise_cons.mp before.sorted).1
  rw [appended]
  have permuted := List.perm_insertionSort (· ≤ ·) (ready ++ fresh)
  constructor
  · refine List.nodup_append.mpr ⟨?_, ?_, ?_⟩
    · apply List.nodup_append.mpr
      refine ⟨old.1, List.nodup_singleton next, ?_⟩
      intro node out other single same
      rw [List.mem_singleton.mp single] at same
      rw [same] at out
      exact next_new out
    · apply permuted.nodup_iff.mpr
      refine List.nodup_append.mpr ⟨ready_distinct.2, fresh_distinct, ?_⟩
      intro node inside other waits same
      have none_left := ((before.ready_iff node).mp (List.mem_cons_of_mem next inside)).2.2
      have some_left := fresh_waits other waits
      rw [same] at none_left
      omega
    · intro node out other inside same
      subst same
      exact ((ready_iff node).mp (permuted.mem_iff.mp inside)).2.1 out
  · exact List.pairwise_insertionSort (· ≤ ·) (ready ++ fresh)
  · intro node out
    rcases List.mem_append.mp out with earlier | single
    · exact before.bounded node earlier
    · rw [List.mem_singleton.mp single]
      exact next_small
  · exact degree_eq
  · intro node out
    have sum := parts node
    rw [degree_eq]
    rcases List.mem_append.mp out with earlier | single
    · have none_left := before.finished node earlier
      omega
    · rw [List.mem_singleton.mp single] at sum ⊢
      omega
  · intro node
    rw [permuted.mem_iff]
    exact ready_iff node
  · intro lower higher below free out
    rcases List.mem_append.mp out with earlier | single
    · exact List.mem_append_left _ (before.lower_out lower higher below free earlier)
    · rw [List.mem_singleton.mp single] at below
      by_contra missing
      have new : lower ∉ order := fun there => missing (List.mem_append_left _ there)
      have none_left : degree lower = 0 := by
        have bound := waiting_le_indegree edges order lower
        rw [before.degree_eq]
        omega
      have inside := (before.ready_iff lower).mpr ⟨by omega, new, none_left⟩
      rcases List.mem_cons.mp inside with same | later
      · omega
      · have above := least lower later
        omega
  · refine List.pairwise_append.mpr ⟨before.ascending, List.pairwise_singleton _ _, ?_⟩
    intro earlier out later single below free
    rw [List.mem_singleton.mp single] at below free
    exact next_new (before.lower_out next earlier below free out)

/-- With a turn for each node, the loop ends with no node ready. -/
theorem Draining.finish (within : ∀ edge ∈ edges, edge.1 < count) (turns : Nat)
    (before : Draining count edges degree ready order) (enough : count ≤ order.length + turns) :
    ∃ left, Draining count edges left [] (drain edges turns degree ready order) := by
  induction turns generalizing degree ready order with
  | zero =>
    cases ready with
    | nil => exact ⟨degree, before⟩
    | cons next rest =>
      -- A ready node would be one more than there are.
      have inside : order ++ next :: rest ⊆ List.range count := by
        intro node member
        apply List.mem_range.mpr
        rcases List.mem_append.mp member with out | waits
        · exact before.bounded node out
        · exact ((before.ready_iff node).mp waits).1
      have fits := before.distinct.length_le_of_subset inside
      rw [List.length_append, List.length_cons, List.length_range] at fits
      omega
  | succ turns hypothesis =>
    cases ready with
    | nil => exact ⟨degree, before⟩
    | cons next rest =>
      rw [drain]
      apply hypothesis (before.next within)
      rw [List.length_append, List.length_singleton]
      omega

end

theorem drained_spec (count : Nat) (edges : List Edge)
    (within : ∀ edge ∈ edges, edge.1 < count) :
    ∃ left, Draining count edges left [] (drained count edges) :=
  (Draining.start count edges).finish within count (by simp)

theorem kahn_nodup (count : Nat) (edges : List Edge) (within : ∀ edge ∈ edges, edge.1 < count) :
    (kahn count edges).Nodup := by
  obtain ⟨left, done⟩ := drained_spec count edges within
  refine List.nodup_append.mpr ⟨?_, List.Nodup.filter _ List.nodup_range, ?_⟩
  · have distinct := done.distinct
    rwa [List.append_nil] at distinct
  · intro node out other missing same
    subst same
    simp only [List.mem_filter, decide_eq_true_eq] at missing
    exact missing.2 out

theorem mem_kahn (count : Nat) (edges : List Edge) (within : ∀ edge ∈ edges, edge.1 < count)
    (node : Nat) : node ∈ kahn count edges ↔ node ∈ List.range count := by
  obtain ⟨left, done⟩ := drained_spec count edges within
  rw [kahn, List.mem_append, List.mem_filter, decide_eq_true_eq, List.mem_range]
  constructor
  · rintro (out | missing)
    · exact done.bounded node out
    · exact missing.1
  · intro small
    by_cases out : node ∈ drained count edges
    · exact Or.inl out
    · exact Or.inr ⟨small, out⟩

theorem kahn_perm (count : Nat) (edges : List Edge) (within : ∀ edge ∈ edges, edge.1 < count) :
    (kahn count edges).Perm (List.range count) :=
  (List.perm_ext_iff_of_nodup (kahn_nodup count edges within) List.nodup_range).mpr
    (mem_kahn count edges within)

/-- A node that goes out leaves none of its parents behind. -/
theorem Draining.parents_out {count : Nat} {edges : List Edge} {degree : Nat → Nat}
    {ready order : List Nat} (state : Draining count edges degree ready order) {node : Nat}
    (none_left : degree node = 0) {parent : Nat} (edge : (node, parent) ∈ edges) :
    parent ∈ order := by
  have waits := state.degree_eq node
  rw [none_left] at waits
  have counted := List.countP_eq_zero.mp waits.symm (node, parent) edge
  by_contra missing
  exact counted (decide_eq_true ⟨rfl, missing⟩)

/-- No node goes out before one of its parents. -/
theorem Draining.parents_first {count : Nat} {edges : List Edge}
    (within : ∀ edge ∈ edges, edge.1 < count) (turns : Nat) {degree : Nat → Nat}
    {ready order : List Nat} (state : Draining count edges degree ready order)
    (sofar : order.Pairwise fun earlier later => (earlier, later) ∉ edges) :
    (drain edges turns degree ready order).Pairwise
      fun earlier later => (earlier, later) ∉ edges := by
  induction turns generalizing degree ready order with
  | zero => exact sofar
  | succ turns hypothesis =>
    cases ready with
    | nil => exact sofar
    | cons next rest =>
      rw [drain]
      apply hypothesis (state.next within)
      apply List.pairwise_append.mpr
      refine ⟨sofar, List.pairwise_singleton _ _, ?_⟩
      intro earlier out later single edge
      rw [List.mem_singleton.mp single] at edge
      have there := state.parents_out (state.finished earlier out) edge
      exact ((state.ready_iff next).mp List.mem_cons_self).2.1 there

/-- Without a cycle, no node is left over. -/
theorem drained_all {count : Nat} {edges : List Edge} (within : ∀ edge ∈ edges, edge.1 < count)
    (parents : ∀ edge ∈ edges, edge.2 < count)
    (acyclic : Layering.Acyclic fun parent child => (child, parent) ∈ edges) :
    (List.range count).filter (· ∉ drained count edges) = [] := by
  by_contra some_left
  obtain ⟨left, done⟩ := drained_spec count edges within
  obtain ⟨node, missing, free⟩ := acyclic.free some_left
  simp only [List.mem_filter, List.mem_range, decide_eq_true_eq] at missing
  have none_waits : waiting edges (drained count edges) node = 0 := by
    apply List.countP_eq_zero.mpr
    intro edge member counted
    obtain ⟨child, away⟩ := of_decide_eq_true counted
    apply free edge.2
    · simp only [List.mem_filter, List.mem_range, decide_eq_true_eq]
      exact ⟨parents edge member, away⟩
    · rw [← child]
      exact member
  have ready := (done.ready_iff node).mpr
    ⟨missing.1, missing.2, (done.degree_eq node).trans none_waits⟩
  cases ready

theorem kahn_parents_first {count : Nat} {edges : List Edge}
    (within : ∀ edge ∈ edges, edge.1 < count) (parents : ∀ edge ∈ edges, edge.2 < count)
    (acyclic : Layering.Acyclic fun parent child => (child, parent) ∈ edges) :
    (kahn count edges).Pairwise fun earlier later => (earlier, later) ∉ edges := by
  rw [kahn, drained_all within parents acyclic, List.append_nil]
  exact (Draining.start count edges).parents_first within count List.Pairwise.nil

/-- Among nodes of which only the highest may have parents, the order is that of their
numbers. -/
theorem filter_kahn (count : Nat) (edges : List Edge) (within : ∀ edge ∈ edges, edge.1 < count)
    (keep : Nat → Bool) (free : ∀ lower higher, keep lower → keep higher → lower < higher →
      higher < count → indegree edges lower = 0) :
    (kahn count edges).filter keep = (List.range count).filter keep := by
  obtain ⟨left, done⟩ := drained_spec count edges within
  have nodup := kahn_nodup count edges within
  have members := mem_kahn count edges within
  have ascending : (kahn count edges).Pairwise fun earlier later =>
      later < earlier → indegree edges later ≠ 0 := by
    -- A node without parents is never left over.
    have stuck : ∀ node ∈ (List.range count).filter (· ∉ drained count edges),
        indegree edges node ≠ 0 := by
      intro node missing none_left
      simp only [List.mem_filter, List.mem_range, decide_eq_true_eq] at missing
      have bound := waiting_le_indegree edges (drained count edges) node
      have degree_eq := done.degree_eq node
      have ready := (done.ready_iff node).mpr ⟨missing.1, missing.2, by omega⟩
      cases ready
    refine List.pairwise_append.mpr ⟨done.ascending, ?_, ?_⟩
    · apply List.Pairwise.imp_of_mem (R := fun _ _ => True)
      · intro _ later _ missing _ _
        exact stuck later missing
      · exact List.pairwise_of_forall fun _ _ => trivial
    · intro _ _ later missing _
      exact stuck later missing
  have kept_order : ((kahn count edges).filter keep).Pairwise (· < ·) := by
    have both := (List.Pairwise.and ascending nodup).filter keep
    apply List.Pairwise.imp_of_mem _ both
    intro earlier later first second ⟨up, differ⟩
    simp only [List.mem_filter] at first second
    by_contra above
    have small := List.mem_range.mp ((members earlier).mp first.1)
    have below : later < earlier := by omega
    exact up below (free later earlier second.2 first.2 below small)
  apply List.Perm.eq_of_pairwise _ kept_order (List.Pairwise.filter keep List.pairwise_lt_range)
  · exact ((List.perm_ext_iff_of_nodup nodup List.nodup_range).mpr members).filter keep
  · intro a b _ _ up down
    omega

end DbFree.CreationOrder
