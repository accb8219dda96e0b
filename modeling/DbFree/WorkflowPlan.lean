import DbFree.WorkflowLevels

/- What a plan is: the groups hold their targets with all that feeds them, and the targets of
a group have its Repeat nodes upstream. -/
namespace DbFree.Workflows

open Relation

namespace Graph

variable {graph : Graph}

/-- The Repeat nodes upstream of a target, the target among them if it is one. -/
def upstreamRepeats (graph : Graph) (target : Text) : List (Text × UInt32) :=
  graph.nodes.filterMap fun node =>
    match node.config with
    | .repeat config =>
      if node.id ∈ graph.ancestors [target] then some (node.id, config.count) else none
    | _ => none

theorem repeatsAmong_ok {nodes : List Text} {document : List WorkflowNode}
    {repeats : List (Text × UInt32)} (found : repeatsAmong nodes document = .ok repeats) :
    (repeats = document.filterMap fun node =>
      match node.config with
      | .repeat config => if node.id ∈ nodes then some (node.id, config.count) else none
      | _ => none) ∧ ∀ r ∈ repeats, r.2 ≠ 0 := by
  induction document generalizing repeats with
  | nil =>
    cases found
    exact ⟨rfl, fun r none => absurd none List.not_mem_nil⟩
  | cons node rest hypothesis =>
    rw [repeatsAmong] at found
    split at found
    · rename_i config kind
      split at found
      · rename_i inside
        split at found
        · cases found
        · rename_i counted
          cases others : repeatsAmong nodes rest with
          | error problem =>
            rw [others] at found
            cases found
          | ok repeats' =>
            rw [others] at found
            cases found
            obtain ⟨same, positive⟩ := hypothesis others
            refine ⟨?_, ?_⟩
            · rw [List.filterMap_cons, kind]
              simp only [if_pos inside]
              rw [← same]
            · intro r member
              rcases List.mem_cons.mp member with rfl | member
              · exact counted
              · exact positive r member
      · rename_i outside
        obtain ⟨same, positive⟩ := hypothesis found
        refine ⟨?_, positive⟩
        rw [List.filterMap_cons, kind]
        simp only [if_neg outside]
        exact same
    · rename_i other
      obtain ⟨same, positive⟩ := hypothesis found
      refine ⟨?_, positive⟩
      rw [List.filterMap_cons]
      split
      · exact same
      · rename_i r here
        split at here
        · rename_i config kind
          exact absurd kind (other config)
        · cases here

/-- A group of a plan. -/
structure Planned (graph : Graph) (group : Group) : Prop where
  nodes : ∀ id, id ∈ group.nodes ↔ ∃ target ∈ group.targets, ReflTransGen graph.Edge id target
  targets : ∀ target ∈ group.targets, target ∈ allIds graph.nodes ∧
    graph.upstreamRepeats target = group.repeats
  positive : ∀ r ∈ group.repeats, r.2 ≠ 0
  filled : group.targets ≠ []

/-- The groups of some targets. -/
structure PlanOf (graph : Graph) (groups : List Group) (targets : List Text) : Prop where
  planned : ∀ group ∈ groups, Planned graph group
  distinct : (groups.map Group.repeats).Nodup
  covered : (groups.flatMap Group.targets).Perm targets

theorem place_repeats (target : Text) (nodes : List Text) (repeats : List (Text × UInt32))
    (groups : List Group) :
    (place target nodes repeats groups).map Group.repeats =
      if repeats ∈ groups.map Group.repeats then groups.map Group.repeats
      else groups.map Group.repeats ++ [repeats] := by
  induction groups with
  | nil => rfl
  | cons group rest hypothesis =>
    rw [place]
    split
    · rename_i same
      rw [if_pos (same ▸ List.mem_cons_self)]
      rfl
    · rename_i other
      have member : repeats ∈ (group :: rest).map Group.repeats ↔
          repeats ∈ rest.map Group.repeats := by
        rw [List.map_cons, List.mem_cons]
        exact or_iff_right fun back => other back.symm
      rw [List.map_cons, hypothesis, if_congr member rfl rfl]
      split <;> rfl

theorem place_targets (target : Text) (nodes : List Text) (repeats : List (Text × UInt32))
    (groups : List Group) :
    ((place target nodes repeats groups).flatMap Group.targets).Perm
      (groups.flatMap Group.targets ++ [target]) := by
  induction groups with
  | nil => exact List.Perm.refl _
  | cons group rest hypothesis =>
    rw [place]
    split
    · rw [List.flatMap_cons, List.flatMap_cons, List.append_assoc, List.append_assoc]
      exact List.Perm.append_left _ List.perm_append_comm
    · rw [List.flatMap_cons, List.flatMap_cons, List.append_assoc]
      exact List.Perm.append_left _ hypothesis

theorem place_planned {target : Text} {groups : List Group}
    {repeats : List (Text × UInt32)} (there : target ∈ allIds graph.nodes)
    (upstream : graph.upstreamRepeats target = repeats) (positive : ∀ r ∈ repeats, r.2 ≠ 0)
    (planned : ∀ group ∈ groups, Planned graph group) :
    ∀ group ∈ place target (graph.ancestors [target]) repeats groups, Planned graph group := by
  have own : ∀ id, id ∈ graph.ancestors [target] ↔ ReflTransGen graph.Edge id target := by
    intro id
    rw [mem_ancestors]
    constructor
    · rintro ⟨other, member, path⟩
      rwa [List.mem_singleton.mp member] at path
    · exact fun path => ⟨target, List.mem_singleton.mpr rfl, path⟩
  induction groups with
  | nil =>
    intro group member
    rw [place, List.mem_singleton] at member
    subst member
    refine ⟨fun id => ?_, fun other member => ?_, positive, List.cons_ne_nil _ _⟩
    · rw [own]
      simp only [List.mem_singleton, exists_eq_left]
    · rw [List.mem_singleton.mp member]
      exact ⟨there, upstream⟩
  | cons first rest hypothesis =>
    have first_planned := planned first List.mem_cons_self
    have rest_planned := fun group member => planned group (List.mem_cons_of_mem _ member)
    intro group member
    rw [place] at member
    split at member
    · rename_i same
      rcases List.mem_cons.mp member with rfl | member
      · refine ⟨fun id => ?_, fun other member => ?_, first_planned.positive,
          List.append_ne_nil_of_right_ne_nil _ (List.cons_ne_nil _ _)⟩
        · rw [List.mem_append, first_planned.nodes, own]
          constructor
          · rintro (⟨other, member, path⟩ | path)
            · exact ⟨other, List.mem_append_left _ member, path⟩
            · exact ⟨target, List.mem_append_right _ (List.mem_singleton.mpr rfl), path⟩
          · rintro ⟨other, member, path⟩
            rcases List.mem_append.mp member with member | member
            · exact .inl ⟨other, member, path⟩
            · exact .inr (List.mem_singleton.mp member ▸ path)
        · rcases List.mem_append.mp member with member | member
          · exact first_planned.targets other member
          · rw [List.mem_singleton.mp member]
            exact ⟨there, upstream.trans same.symm⟩
      · exact rest_planned group member
    · rcases List.mem_cons.mp member with rfl | member
      · exact first_planned
      · exact hypothesis rest_planned group member

theorem planFrom_ok {groups groups' : List Group} {before targets : List Text}
    (planned : PlanOf graph groups before)
    (found : graph.planFrom groups targets = .ok groups') :
    PlanOf graph groups' (before ++ targets) := by
  induction targets generalizing groups before with
  | nil =>
    cases found
    rwa [List.append_nil]
  | cons target rest hypothesis =>
    rw [planFrom] at found
    split at found
    · cases found
    · rename_i node there
      cases own : repeatsAmong (graph.ancestors [target]) graph.nodes with
      | error problem =>
        simp only [own, bind, Except.bind] at found
        cases found
      | ok repeats =>
        simp only [own, bind, Except.bind] at found
        obtain ⟨same, positive⟩ := repeatsAmong_ok own
        have member : target ∈ allIds graph.nodes := by
          have fits := List.find?_some there
          exact List.mem_map.mpr ⟨node, List.mem_of_find?_eq_some there, of_decide_eq_true fits⟩
        have more := @hypothesis (place target (graph.ancestors [target]) repeats groups)
          (before ++ [target]) ⟨place_planned member same.symm positive planned.planned, ?_,
            (place_targets _ _ _ _).trans (planned.covered.append_right _)⟩ found
        · rwa [List.append_assoc] at more
        · rw [place_repeats]
          split
          · exact planned.distinct
          · rename_i fresh
            exact planned.distinct.append (List.nodup_singleton _)
              (List.disjoint_singleton.mpr fresh)

theorem plan_ok {targets : List Text} {groups : List Group}
    (found : graph.plan targets = .ok groups) :
    PlanOf graph groups targets ∧
      ∀ group ∈ groups, totalPasses group.repeats ≤ maxPasses := by
  rw [plan] at found
  cases made : graph.planFrom [] targets with
  | error problem =>
    rw [made] at found
    cases found
  | ok groups' =>
    rw [made] at found
    simp only [bind, Except.bind] at found
    split at found
    · cases found
    · rename_i small
      cases found
      refine ⟨@planFrom_ok _ _ _ [] _ ⟨fun group none => absurd none List.not_mem_nil,
        List.nodup_nil, List.Perm.refl _⟩ made, fun group member => ?_⟩
      have fits := List.find?_eq_none.mp small group member
      rw [decide_eq_true_iff] at fits
      omega

theorem Planned.closed {group : Group} (planned : Planned graph group) (source target : Text)
    (edge : graph.Edge source target) (member : target ∈ group.nodes) :
    source ∈ group.nodes := by
  obtain ⟨last, wanted, path⟩ := (planned.nodes target).mp member
  exact (planned.nodes source).mpr ⟨last, wanted, .head edge path⟩

end Graph

end DbFree.Workflows
