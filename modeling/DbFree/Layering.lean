import Mathlib

/- Finite directed graphs: the walks into a node, how long they are, and the levels that the
longest of them give where there is no cycle. -/
namespace DbFree.Layering

open Relation

variable {ι : Type*} {edge : ι → ι → Prop}

/-- A walk of so many edges ends in the node. -/
def Walk (edge : ι → ι → Prop) : Nat → ι → Prop
  | 0, _ => True
  | length + 1, node => ∃ source, edge source node ∧ Walk edge length source

def Acyclic (edge : ι → ι → Prop) : Prop := ∀ node, ¬TransGen edge node node

/-- The longest walk into the node has so many edges. -/
def AtLevel (edge : ι → ι → Prop) (level : Nat) (node : ι) : Prop :=
  Walk edge level node ∧ ¬Walk edge (level + 1) node

theorem Walk.tail {length : Nat} {node : ι} (walk : Walk edge (length + 1) node) :
    Walk edge length node := by
  induction length generalizing node with
  | zero => trivial
  | succ length hypothesis =>
    obtain ⟨source, link, rest⟩ := walk
    exact ⟨source, link, hypothesis rest⟩

theorem Walk.shorter {length shorter : Nat} {node : ι} (walk : Walk edge length node)
    (less : shorter ≤ length) : Walk edge shorter node := by
  induction length with
  | zero =>
    obtain rfl := Nat.le_zero.mp less
    trivial
  | succ length hypothesis =>
    rcases Nat.lt_or_eq_of_le less with less | rfl
    · exact hypothesis walk.tail (by omega)
    · exact walk

theorem AtLevel.greatest {level : Nat} {node : ι} (here : AtLevel edge level node) :
    IsGreatest {length | Walk edge length node} level := by
  refine ⟨here.1, fun length walk => ?_⟩
  by_contra longer
  exact here.2 (Walk.shorter walk (by omega))

theorem AtLevel.unique {level level' : Nat} {node : ι} (here : AtLevel edge level node)
    (there : AtLevel edge level' node) : level = level' := here.greatest.unique there.greatest

theorem AtLevel.rises {level level' : Nat} {source target : ι} (link : edge source target)
    (here : AtLevel edge level source) (there : AtLevel edge level' target) : level < level' :=
  Nat.lt_of_succ_le (there.greatest.2 ⟨source, link, here.1⟩)

/-- A node that no long walk ends in has a level. -/
theorem atLevel_of_bounded {length : Nat} {node : ι} (bounded : ¬Walk edge length node) :
    ∃ level, level < length ∧ AtLevel edge level node := by
  induction length with
  | zero => exact absurd trivial bounded
  | succ length hypothesis =>
    by_cases walk : Walk edge length node
    · exact ⟨length, Nat.lt_succ_self _, walk, bounded⟩
    · obtain ⟨level, less, here⟩ := hypothesis walk
      exact ⟨level, by omega, here⟩

/-- Behind a level that has a node, every level before has one. -/
theorem AtLevel.before {level : Nat} {node : ι} (here : AtLevel edge (level + 1) node) :
    ∃ source, edge source node ∧ AtLevel edge level source := by
  obtain ⟨⟨source, link, walk⟩, longest⟩ := here
  exact ⟨source, link, walk, fun longer => longest ⟨source, link, longer⟩⟩

theorem Walk.along {length : Nat} {source target : ι} (walk : Walk edge length source)
    (path : TransGen edge source target) : Walk edge (length + 1) target := by
  induction path with
  | single link => exact ⟨source, link, walk⟩
  | tail _ link hypothesis => exact ⟨_, link, hypothesis.tail⟩

theorem walk_of_cycle {node : ι} (cycle : TransGen edge node node) (length : Nat) :
    Walk edge length node := by
  induction length with
  | zero => trivial
  | succ length hypothesis => exact hypothesis.along cycle

/-- Without a cycle a walk visits no node twice, and is shorter than there are nodes. -/
theorem Acyclic.bounded (acyclic : Acyclic edge) {nodes : List ι}
    (inside : ∀ source target, edge source target → source ∈ nodes) {node : ι}
    (member : node ∈ nodes) : ¬Walk edge nodes.length node := by
  have climb : ∀ left (path : List ι) (node : ι), node ∈ nodes → path.Nodup →
      (∀ later ∈ path, later ∈ nodes ∧ TransGen edge node later) →
      path.length + left = nodes.length → ¬Walk edge left node := by
    intro left
    induction left with
    | zero =>
      intro path node member nodup later full
      have fresh : node ∉ path := fun there => acyclic _ (later _ there).2
      have within : node :: path ⊆ nodes := by
        intro x there
        rcases List.mem_cons.mp there with rfl | there
        · exact member
        · exact (later x there).1
      have size := ((List.nodup_cons.mpr ⟨fresh, nodup⟩).subperm within).length_le
      rw [List.length_cons] at size
      omega
    | succ left hypothesis =>
      rintro path node member nodup later full ⟨source, link, walk⟩
      have fresh : node ∉ path := fun there => acyclic _ (later _ there).2
      refine hypothesis (node :: path) source (inside _ _ link)
        (List.nodup_cons.mpr ⟨fresh, nodup⟩) ?_ (by rw [List.length_cons]; omega) walk
      intro x there
      rcases List.mem_cons.mp there with rfl | there
      · exact ⟨member, .single link⟩
      · exact ⟨(later x there).1, .head link (later x there).2⟩
  exact climb nodes.length [] node member List.nodup_nil (by simp) (by simp)

/-- Without a cycle, one of some nodes is not behind another of them. -/
theorem Acyclic.free (acyclic : Acyclic edge) {nodes : List ι} (filled : nodes ≠ []) :
    ∃ node ∈ nodes, ∀ source ∈ nodes, ¬edge source node := by
  by_contra none_free
  push Not at none_free
  -- Otherwise a walk among the nodes goes back for ever.
  let among : ι → ι → Prop := fun source target => edge source target ∧ source ∈ nodes
  have still : Acyclic among := fun node cycle =>
    acyclic node (TransGen.mono (fun _ _ link => link.1) _ _ cycle)
  have walks : ∀ length, ∀ node ∈ nodes, Walk among length node := by
    intro length
    induction length with
    | zero => intro _ _; trivial
    | succ length hypothesis =>
      intro node member
      obtain ⟨source, inside, link⟩ := none_free node member
      exact ⟨source, ⟨link, inside⟩, hypothesis source inside⟩
  obtain ⟨node, member⟩ := List.exists_mem_of_ne_nil nodes filled
  exact still.bounded (fun _ _ link => link.2) member (walks _ node member)

/-- A graph has no cycle exactly if every node of it has a level. -/
theorem acyclic_iff {nodes : List ι}
    (inside : ∀ source target, edge source target → source ∈ nodes) :
    Acyclic edge ↔ ∀ node ∈ nodes, ∃ level, AtLevel edge level node := by
  constructor
  · intro acyclic node member
    obtain ⟨level, -, here⟩ := atLevel_of_bounded (acyclic.bounded inside member)
    exact ⟨level, here⟩
  · intro levels node cycle
    obtain ⟨next, link, -⟩ := TransGen.head'_iff.mp cycle
    obtain ⟨level, here⟩ := levels node (inside _ _ link)
    exact here.2 (walk_of_cycle cycle _)

/-- An edge closes a cycle exactly if its source lies behind its target. -/
theorem acyclic_add (acyclic : Acyclic edge) (source target : ι) :
    Acyclic (fun a b => edge a b ∨ (a = source ∧ b = target)) ↔
      ¬ReflTransGen edge target source := by
  constructor
  · intro still path
    have lifted : ReflTransGen (fun a b => edge a b ∨ (a = source ∧ b = target)) target source :=
      ReflTransGen.mono (fun _ _ => Or.inl) _ _ path
    exact still source (.head' (.inr ⟨rfl, rfl⟩) lifted)
  · intro apart
    have split : ∀ {a b}, TransGen (fun a b => edge a b ∨ (a = source ∧ b = target)) a b →
        TransGen edge a b ∨ (ReflTransGen edge a source ∧ ReflTransGen edge target b) := by
      intro a b path
      induction path using TransGen.head_induction_on with
      | single link =>
        rcases link with link | ⟨rfl, rfl⟩
        · exact .inl (.single link)
        · exact .inr ⟨.refl, .refl⟩
      | head link _ hypothesis =>
        rcases link with link | ⟨rfl, rfl⟩
        · rcases hypothesis with path | ⟨before, behind⟩
          · exact .inl (.head link path)
          · exact .inr ⟨.head link before, behind⟩
        · rcases hypothesis with path | ⟨before, -⟩
          · exact .inr ⟨.refl, path.to_reflTransGen⟩
          · exact absurd before apart
    intro node cycle
    rcases split cycle with path | ⟨before, behind⟩
    · exact acyclic node path
    · exact apart (behind.trans before)

end DbFree.Layering
