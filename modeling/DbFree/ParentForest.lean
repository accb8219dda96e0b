import Mathlib

/- Nodes that name their parents: links without a cycle, what changes of the links keep
them so, and the subtrees, which hold every node once. -/
namespace DbFree.ParentForest

open Relation

variable {ι α : Type*} (id : α → ι) (parent : α → Option ι)

/-- A link from a node to the parent it names. -/
def Link (nodes : List α) (a b : ι) : Prop := ∃ node ∈ nodes, id node = a ∧ parent node = some b

def Acyclic (nodes : List α) : Prop := ∀ a, ¬TransGen (Link id parent nodes) a a

section Changes

variable {id parent} {nodes : List α}

/-- Links that are paths of an acyclic list make no cycle. -/
theorem Acyclic.of_paths {parent' : α → Option ι} {nodes' : List α}
    (acyclic : Acyclic id parent nodes)
    (paths : ∀ a b, Link id parent' nodes' a b → TransGen (Link id parent nodes) a b) :
    Acyclic id parent' nodes' := by
  intro a cycle
  exact acyclic a (cycle.lift' (fun x => x) paths)

theorem Acyclic.insert {node : α} (acyclic : Acyclic id parent nodes)
    (unnamed : ∀ other ∈ node :: nodes, parent other ≠ some (id node)) :
    Acyclic id parent (node :: nodes) := by
  have into : ∀ {a b}, TransGen (Link id parent (node :: nodes)) a b → b ≠ id node := by
    intro a b path
    obtain ⟨c, -, other, member, -, named⟩ := TransGen.tail'_iff.mp path
    rintro rfl
    exact unnamed other member named
  have old : ∀ {a b}, TransGen (Link id parent (node :: nodes)) a b → a ≠ id node →
      TransGen (Link id parent nodes) a b := by
    intro a b path
    induction path using TransGen.head_induction_on with
    | single link =>
      intro apart
      obtain ⟨other, member, own, named⟩ := link
      rcases List.mem_cons.mp member with rfl | member
      · exact absurd own.symm apart
      · exact .single ⟨other, member, own, named⟩
    | head link rest hypothesis =>
      intro apart
      obtain ⟨other, member, own, named⟩ := link
      have beyond : _ ≠ id node := into (.single ⟨other, member, own, named⟩)
      rcases List.mem_cons.mp member with rfl | member
      · exact absurd own.symm apart
      · exact .head ⟨other, member, own, named⟩ (hypothesis beyond)
  intro a cycle
  exact acyclic a (old cycle (into cycle))

/-- A node that gets another parent, one that does not lie below it. -/
theorem Acyclic.reparent {parent' : α → Option ι} {moved : ι} (acyclic : Acyclic id parent nodes)
    (others : ∀ node ∈ nodes, id node ≠ moved → parent' node = parent node)
    (above : ∀ node ∈ nodes, id node = moved → ∀ target, parent' node = some target →
      ¬ReflTransGen (Link id parent nodes) target moved) :
    Acyclic id parent' nodes := by
  have kept : ∀ {a b}, Link id parent' nodes a b → a ≠ moved → Link id parent nodes a b := by
    rintro a b ⟨node, member, rfl, named⟩ apart
    exact ⟨node, member, rfl, (others node member apart).symm.trans named⟩
  have reaches : ∀ {a}, ReflTransGen (Link id parent' nodes) a moved →
      ReflTransGen (Link id parent nodes) a moved := by
    intro a path
    induction path using ReflTransGen.head_induction_on with
    | refl => exact .refl
    | @head a b link rest hypothesis =>
      by_cases here : a = moved
      · rw [here]
      · exact .head (kept link here) hypothesis
  have split : ∀ {a b}, TransGen (Link id parent' nodes) a b →
      TransGen (Link id parent nodes) a b ∨ (ReflTransGen (Link id parent' nodes) a moved ∧
        ∃ target, Link id parent' nodes moved target ∧
          ReflTransGen (Link id parent' nodes) target b) := by
    intro a b path
    induction path using TransGen.head_induction_on with
    | @single a link =>
      by_cases here : a = moved
      · subst here
        exact .inr ⟨.refl, b, link, .refl⟩
      · exact .inl (.single (kept link here))
    | @head a c link rest hypothesis =>
      by_cases here : a = moved
      · subst here
        exact .inr ⟨.refl, c, link, rest.to_reflTransGen⟩
      · rcases hypothesis with path | ⟨before, behind⟩
        · exact .inl (.head (kept link here) path)
        · exact .inr ⟨.head link before, behind⟩
  intro a cycle
  rcases split cycle with path | ⟨before, target, ⟨node, member, own, named⟩, behind⟩
  · exact acyclic a path
  · exact above node member own target named (reaches (behind.trans before))

/-- Nodes that are changed, but for their ids. -/
theorem acyclic_map {change : α → α} (same : ∀ node, id (change node) = id node)
    (acyclic : Acyclic id (fun node => parent (change node)) nodes) :
    Acyclic id parent (nodes.map change) := by
  refine acyclic.of_paths fun a b link => ?_
  obtain ⟨changed, member, rfl, named⟩ := link
  obtain ⟨node, old, rfl⟩ := List.mem_map.mp member
  exact .single ⟨node, old, (same node).symm, named⟩

end Changes

/-- A list, part by part: what has no key, and what has each of the keys. -/
theorem grouped_perm {β : Type*} [DecidableEq ι] (key : β → Option ι) (list : List β)
    {groups : List ι} (distinct : groups.Nodup)
    (grouped : ∀ b ∈ list, ∀ group, key b = some group → group ∈ groups) :
    ((list.filter fun b => key b = none) ++
      groups.flatMap fun group => list.filter fun b => key b = some group).Perm list := by
  induction groups generalizing list with
  | nil =>
    rw [List.flatMap_nil, List.append_nil, List.filter_eq_self.mpr]
    intro b member
    cases keyed : key b with
    | none => rfl
    | some group => cases grouped b member group keyed
  | cons group rest hypothesis =>
    obtain ⟨apart, distinct⟩ := List.nodup_cons.mp distinct
    have others := hypothesis (list.filter fun b => ¬key b = some group) distinct (by
      intro b member other keyed
      obtain ⟨member, differs⟩ := List.mem_filter.mp member
      rcases List.mem_cons.mp (grouped b member other keyed) with rfl | there
      · exact absurd keyed (of_decide_eq_true differs)
      · exact there)
    have none_kept : (list.filter fun b => ¬key b = some group).filter (fun b => key b = none) =
        list.filter fun b => key b = none := by
      rw [List.filter_filter]
      refine List.filter_congr fun b _ => ?_
      cases key b <;> simp
    have rest_kept : (rest.flatMap fun other =>
        (list.filter fun b => ¬key b = some group).filter fun b => key b = some other) =
        rest.flatMap fun other => list.filter fun b => key b = some other := by
      refine List.flatMap_congr fun other there => ?_
      rw [List.filter_filter]
      refine List.filter_congr fun b _ => ?_
      have differ : other ≠ group := fun same => apart (same ▸ there)
      by_cases keyed : key b = some other
      · simp [keyed, differ]
      · simp [keyed]
    rw [none_kept, rest_kept] at others
    rw [List.flatMap_cons]
    refine (List.perm_append_comm_assoc ..).trans ?_
    refine (others.append_left _).trans ?_
    simp only [decide_not]
    exact List.filter_append_perm _ list

section Depths

variable (nodes : List α)

/-- How far a node is from the top. -/
inductive Depth : α → Nat → Prop
  | top {node : α} (alone : parent node = none) : Depth node 0
  | under {node above : α} {depth : Nat} (member : above ∈ nodes)
      (named : parent node = some (id above)) (deep : Depth above depth) : Depth node (depth + 1)

variable {id parent nodes}

theorem Depth.unique (distinct : (nodes.map id).Nodup) {node : α} {depth depth' : Nat}
    (deep : Depth id parent nodes node depth) (deep' : Depth id parent nodes node depth') :
    depth = depth' := by
  induction deep generalizing depth' with
  | top alone =>
    cases deep' with
    | top _ => rfl
    | under _ named _ =>
      rw [alone] at named
      cases named
  | @under node above depth member named deep hypothesis =>
    cases deep' with
    | top alone =>
      rw [alone] at named
      cases named
    | under member' named' deep' =>
      have same := List.inj_on_of_nodup_map distinct member member'
        (Option.some.inj (named.symm.trans named'))
      subst same
      rw [hypothesis deep']

/-- Every node of an acyclic list has a depth, and there are more nodes than that. -/
theorem Acyclic.depth (acyclic : Acyclic id parent nodes)
    (known : ∀ node ∈ nodes, ∀ above, parent node = some above → above ∈ nodes.map id) {node : α}
    (member : node ∈ nodes) : ∃ depth, Depth id parent nodes node depth ∧ depth < nodes.length := by
  -- the nodes that were passed on the way up are all different
  have climb : ∀ left (path : List ι) (node : α), node ∈ nodes → path.Nodup →
      (∀ below ∈ path, below ∈ nodes.map id ∧ TransGen (Link id parent nodes) below (id node)) →
      path.length + left = nodes.length →
        ∃ depth, Depth id parent nodes node depth ∧ depth + path.length < nodes.length := by
    intro left
    induction left with
    | zero =>
      intro path node member nodup below full
      have fresh : id node ∉ path := fun there => acyclic _ (below _ there).2
      have longer : (id node :: path).Nodup := List.nodup_cons.mpr ⟨fresh, nodup⟩
      have inside : id node :: path ⊆ nodes.map id := by
        intro x there
        rcases List.mem_cons.mp there with rfl | there
        · exact List.mem_map_of_mem member
        · exact (below x there).1
      have size := (longer.subperm inside).length_le
      rw [List.length_cons, List.length_map] at size
      omega
    | succ left hypothesis =>
      intro path node member nodup below full
      have fresh : id node ∉ path := fun there => acyclic _ (below _ there).2
      cases named : parent node with
      | none => exact ⟨0, .top named, by omega⟩
      | some above =>
        obtain ⟨upper, upper_member, rfl⟩ := List.mem_map.mp (known node member above named)
        have link : Link id parent nodes (id node) (id upper) := ⟨node, member, rfl, named⟩
        obtain ⟨depth, deep, room⟩ := hypothesis (id node :: path) upper upper_member
          (List.nodup_cons.mpr ⟨fresh, nodup⟩) (by
            intro x there
            rcases List.mem_cons.mp there with rfl | there
            · exact ⟨List.mem_map_of_mem member, .single link⟩
            · exact ⟨(below x there).1, (below x there).2.tail link⟩)
          (by rw [List.length_cons]; omega)
        rw [List.length_cons] at room
        exact ⟨depth + 1, .under upper_member named deep, by omega⟩
  obtain ⟨depth, deep, room⟩ := climb nodes.length [] node member List.nodup_nil (by simp) (by simp)
  exact ⟨depth, deep, room⟩

end Depths

section Subtrees

variable [DecidableEq ι] (nodes : List α)

/-- The nodes that name a parent, or none. -/
def children (named : Option ι) : List α := nodes.filter fun node => parent node = named

/-- A node and all below it, down to a depth. -/
def subtree : Nat → α → List α
  | 0, _ => []
  | depth + 1, node => node :: (children parent nodes (some (id node))).flatMap (subtree depth)

/-- The nodes at a depth. -/
def level : Nat → List α
  | 0 => children parent nodes none
  | depth + 1 => (level depth).flatMap fun node => children parent nodes (some (id node))

variable {id parent nodes}

theorem mem_children {named : Option ι} {node : α} :
    node ∈ children parent nodes named ↔ node ∈ nodes ∧ parent node = named := by
  rw [children, List.mem_filter, decide_eq_true_iff]

theorem flatMap_subtree (depth : Nat) (list : List α) :
    (list.flatMap (subtree id parent nodes (depth + 1))).Perm
      (list ++ (list.flatMap fun node => children parent nodes (some (id node))).flatMap
        (subtree id parent nodes depth)) := by
  induction list with
  | nil => rfl
  | cons node rest hypothesis =>
    rw [List.flatMap_cons, List.flatMap_cons, List.flatMap_append, subtree, List.cons_append,
      List.cons_append]
    refine List.Perm.cons node ?_
    refine (hypothesis.append_left _).trans ?_
    rw [← List.append_assoc, ← List.append_assoc]
    exact List.perm_append_comm.append_right _

theorem level_subtrees (depth first : Nat) :
    ((level id parent nodes first).flatMap (subtree id parent nodes depth)).Perm
      ((List.range' first depth).flatMap (level id parent nodes)) := by
  induction depth generalizing first with
  | zero =>
    have none : (level id parent nodes first).flatMap (subtree id parent nodes 0) = [] := by
      simp [subtree]
    rw [none]
    rfl
  | succ depth hypothesis =>
    refine (flatMap_subtree depth _).trans ?_
    rw [List.range'_succ, List.flatMap_cons]
    exact (hypothesis (first + 1)).append_left _

theorem mem_level {depth : Nat} {node : α} :
    node ∈ level id parent nodes depth ↔ node ∈ nodes ∧ Depth id parent nodes node depth := by
  induction depth generalizing node with
  | zero =>
    rw [level, mem_children]
    refine and_congr_right fun _ => ⟨.top, fun deep => ?_⟩
    cases deep with
    | top alone => exact alone
  | succ depth hypothesis =>
    rw [level, List.mem_flatMap]
    constructor
    · rintro ⟨above, there, member⟩
      obtain ⟨member, named⟩ := mem_children.mp member
      obtain ⟨above_member, deep⟩ := hypothesis.mp there
      exact ⟨member, .under above_member named deep⟩
    · rintro ⟨member, deep⟩
      cases deep with
      | under above_member named deep =>
        exact ⟨_, hypothesis.mpr ⟨above_member, deep⟩, mem_children.mpr ⟨member, named⟩⟩

theorem level_nodup (distinct : (nodes.map id).Nodup) (depth : Nat) :
    (level id parent nodes depth).Nodup := by
  have nodup : nodes.Nodup := List.Nodup.of_map id distinct
  induction depth with
  | zero => exact nodup.filter _
  | succ depth hypothesis =>
    rw [level, List.nodup_flatMap]
    refine ⟨fun node _ => nodup.filter _, ?_⟩
    refine hypothesis.imp_of_mem ?_
    intro one other here there apart
    rw [Function.onFun, List.disjoint_left]
    intro node below below'
    have same := Option.some.inj ((mem_children.mp below).2.symm.trans (mem_children.mp below').2)
    exact apart (List.inj_on_of_nodup_map distinct (mem_level.mp here).1 (mem_level.mp there).1 same)

/-- The subtrees of the top hold every node once. -/
theorem Acyclic.subtrees (acyclic : Acyclic id parent nodes) (distinct : (nodes.map id).Nodup)
    (known : ∀ node ∈ nodes, ∀ above, parent node = some above → above ∈ nodes.map id) :
    ((children parent nodes none).flatMap (subtree id parent nodes nodes.length)).Perm nodes := by
  refine (level_subtrees nodes.length 0).trans ?_
  rw [List.perm_ext_iff_of_nodup _ (List.Nodup.of_map id distinct)]
  · intro node
    rw [List.mem_flatMap]
    constructor
    · rintro ⟨depth, -, there⟩
      exact (mem_level.mp there).1
    · intro member
      obtain ⟨depth, deep, room⟩ := acyclic.depth known member
      exact ⟨depth, List.mem_range'_1.mpr ⟨Nat.zero_le _, by omega⟩, mem_level.mpr ⟨member, deep⟩⟩
  · rw [List.nodup_flatMap]
    refine ⟨fun depth _ => level_nodup distinct depth, ?_⟩
    refine (List.nodup_range' 1).imp ?_
    intro depth depth' apart
    rw [Function.onFun, List.disjoint_left]
    intro node there there'
    exact apart ((mem_level.mp there).2.unique distinct (mem_level.mp there').2)

end Subtrees

end DbFree.ParentForest
