import DbFree.WorkflowPasses
import DbFree.WorkflowPlan

/- Every run of a workflow keeps the discipline of its passes. -/
namespace DbFree.Workflows

open History Relation Layering

section Levels

variable {graph : Graph}

/-- Levels that list each node once, behind all that feed it. -/
structure Layout (graph : Graph) (levels : List (List Text)) : Prop where
  distinct : levels.flatten.Nodup
  sources : ∀ earlier level rest, levels = earlier ++ level :: rest → ∀ id ∈ level,
    ∀ e ∈ graph.incoming id, e.source ∈ earlier.flatten

theorem mem_incoming {id : Text} {e : WorkflowEdge} :
    e ∈ graph.incoming id ↔ e ∈ graph.edges ∧ e.target = id := by
  rw [Graph.incoming, List.mem_filter, decide_eq_true_iff]

/-- The levels of nodes that come with all that feeds them. -/
theorem layout_of_levels {nodes : List Text} {levels : List (List Text)}
    (closed : ∀ source target, graph.Edge source target → target ∈ nodes → source ∈ nodes)
    (found : graph.levels nodes = some (.ok levels)) :
    Layout graph levels ∧ ∀ id, id ∈ levels.flatten ↔ id ∈ graph.members nodes := by
  obtain ⟨levels', layered, ⟨acyclic, computed⟩ | ⟨-, error, computed⟩⟩ :=
    Graph.levels_layered graph nodes
  · rw [computed] at found
    cases found
    have inside : ∀ source target, graph.Feeds nodes source target →
        source ∈ graph.members nodes := fun _ _ feeds => feeds.members.1
    have all : ∀ id, id ∈ levels.flatten ↔ id ∈ graph.members nodes := by
      intro id
      rw [layered.mem_flatten inside, and_iff_left_iff_imp]
      exact fun member => (acyclic_iff inside).mp acyclic id member
    refine ⟨⟨layered.flatten_nodup, ?_⟩, all⟩
    intro earlier level rest split id member e into
    obtain ⟨edge, rfl⟩ := mem_incoming.mp into
    have here : levels[earlier.length]? = some level := by
      rw [split, List.getElem?_append_right (Nat.le_refl _), Nat.sub_self]
      rfl
    obtain ⟨target_in, at_target⟩ := (layered.mem_get here _).mp member
    rw [Nat.zero_add] at at_target
    have source_in : e.source ∈ nodes := closed _ _ ⟨e, edge, rfl, rfl⟩
      (Graph.mem_members.mp target_in).2
    have feeds : graph.Feeds nodes e.source e.target :=
      ⟨e, Graph.mem_within.mpr ⟨edge, source_in, (Graph.mem_members.mp target_in).2⟩, rfl, rfl⟩
    obtain ⟨above, there, source_there⟩ := List.mem_flatten.mp ((all _).mpr feeds.members.1)
    obtain ⟨j, at_j⟩ := List.mem_iff_getElem?.mp there
    have at_source := ((layered.mem_get at_j _).mp source_there).2
    rw [Nat.zero_add] at at_source
    have before := at_source.rises feeds at_target
    rw [split, List.getElem?_append_left before] at at_j
    exact List.mem_flatten.mpr ⟨above, List.mem_of_getElem? at_j, source_there⟩
  · rw [computed] at found
    cases found

theorem Layout.apart {levels earlier rest : List (List Text)} {level : List Text}
    (layout : Layout graph levels) (split : levels = earlier ++ level :: rest) {id : Text}
    (before : id ∈ earlier.flatten) : id ∉ level := by
  have distinct := layout.distinct
  rw [split, List.flatten_append, List.flatten_cons] at distinct
  have disjoint := (List.nodup_append'.mp distinct).2.2
  exact fun here => disjoint before (List.mem_append_left _ here)

theorem Layout.level_nodup {levels earlier rest : List (List Text)} {level : List Text}
    (layout : Layout graph levels) (split : levels = earlier ++ level :: rest) :
    level.Nodup := by
  have distinct := layout.distinct
  rw [split, List.flatten_append, List.flatten_cons] at distinct
  exact (List.nodup_append'.mp (List.nodup_append'.mp distinct).2.1).1

end Levels

section Sorting

variable {graph : Graph}

theorem allClosed_extra {pass : Pass} {extra : List Text} {id : Text}
    (apart : ∀ e ∈ graph.incoming id, e.source ∉ extra) :
    allClosed graph { pass with dead := extra ++ pass.dead } id = allClosed graph pass id := by
  rw [allClosed, allClosed]
  congr 1
  rw [Bool.eq_iff_iff, List.all_eq_true, List.all_eq_true]
  refine forall₂_congr fun e member => ?_
  have same : e.source ∈ extra ++ pass.dead ↔ e.source ∈ pass.dead := by
    rw [List.mem_append]
    exact or_iff_right (apart e member)
  simp only [edgeActive, same]

/-- Whether a node of a level is skipped does not depend on the others. -/
theorem sortLevel_extra {pass : Pass} {level extra all : List Text} (inside : level ⊆ all)
    (extra_in : extra ⊆ all)
    (apart : ∀ id ∈ level, ∀ e ∈ graph.incoming id, e.source ∉ all) :
    sortLevel graph { pass with dead := extra ++ pass.dead } level =
      ({ pass with dead := (level.filter (allClosed graph pass)).reverse ++ extra ++ pass.dead },
        level.filter (allClosed graph pass), level.filter fun id => !allClosed graph pass id) := by
  induction level generalizing extra with
  | nil => rfl
  | cons id rest hypothesis =>
    have same : allClosed graph { pass with dead := extra ++ pass.dead } id =
        allClosed graph pass id :=
      allClosed_extra fun e member there => apart id List.mem_cons_self e member (extra_in there)
    have rest_in : rest ⊆ all := fun x there => inside (List.mem_cons_of_mem _ there)
    have rest_apart : ∀ other ∈ rest, ∀ e ∈ graph.incoming other, e.source ∉ all :=
      fun other there => apart other (List.mem_cons_of_mem _ there)
    rw [sortLevel, same]
    cases closed : allClosed graph pass id with
    | true =>
      have more := @hypothesis (id :: extra) rest_in
        (List.cons_subset.mpr ⟨inside List.mem_cons_self, extra_in⟩) rest_apart
      rw [if_pos rfl]
      rw [List.cons_append] at more
      dsimp only
      rw [more, List.filter_cons_of_pos closed, List.filter_cons_of_neg (by rw [closed]; decide)]
      simp
    | false =>
      have more := @hypothesis extra rest_in extra_in rest_apart
      rw [if_neg Bool.false_ne_true, more, List.filter_cons_of_neg (by rw [closed]; decide),
        List.filter_cons_of_pos (by rw [closed]; rfl)]

theorem sortLevel_eq {pass : Pass} {level : List Text}
    (apart : ∀ id ∈ level, ∀ e ∈ graph.incoming id, e.source ∉ level) :
    sortLevel graph pass level =
      ({ pass with dead := (level.filter (allClosed graph pass)).reverse ++ pass.dead },
        level.filter (allClosed graph pass), level.filter fun id => !allClosed graph pass id) := by
  have whole := @sortLevel_extra graph pass level [] level (List.Subset.refl _)
    (List.nil_subset _) apart
  rwa [List.append_nil] at whole

end Sorting

section Standing

/-- Where a pass stands: the passes and the levels before are through, the nodes of the level
that are not ready were skipped, and of those that are some have begun and some finished. -/
structure Within (graph : Graph) (levels : List (List Text)) (trace : List Entry) (number : Nat)
    (pass : Pass) (earlier : List (List Text)) (here ready begun : List Text)
    (finished : Text → Option Outcome) : Prop where
  numbered : pass.number = number
  past : ∀ before < number, ∀ id ∈ levels.flatten, Settled trace before id
  through : ∀ id ∈ earlier.flatten, Settled trace number id
  only : ∀ entry ∈ trace, entry.pass < number ∨
    entry.pass = number ∧ (entry.id ∈ earlier.flatten ∨ entry.id ∈ here)
  calm : ∀ entry ∈ trace, entry.what.fails = true →
    entry.pass = number ∧ entry.id ∈ ready ∧ (finished entry.id).any Outcome.fails = true
  inside : ready ⊆ here
  distinct : ready.Nodup
  skipped : ∀ id ∈ here, id ∉ ready → ⟨number, id, .skipped⟩ ∈ trace
  marked : ∀ id ∈ ready, ⟨number, id, .ready⟩ ∈ trace
  began : ∀ id ∈ begun, id ∈ ready ∧ ∃ index input, ⟨number, id, .executed index input⟩ ∈ trace
  ended : ∀ id outcome, finished id = some outcome → id ∈ begun ∧
    ∃ error, ⟨number, id, .finished outcome error⟩ ∈ trace
  fates : ∀ id ∈ ready, fateOf trace number id = (finished id).map Fate.finished
  faithful : Faithful pass fun id => if id ∈ ready then none else fateOf trace number id
  opened : ∀ id ∈ ready, ¬Closed graph (fateOf trace number) id

/-- Between two passes. -/
structure Between (levels : List (List Text)) (trace : List Entry) (number : Nat) : Prop where
  past : ∀ before < number, ∀ id ∈ levels.flatten, Settled trace before id
  only : ∀ entry ∈ trace, entry.pass < number
  calm : ∀ entry ∈ trace, entry.what.fails = false

def Standing (graph : Graph) (levels : List (List Text)) (trace : List Entry) (number : Nat) :
    Phase → Prop
  | .between => Between levels trace number
  | .atLevel pass _ rest => ∃ earlier, levels = earlier ++ rest ∧
    Within graph levels trace number pass earlier [] [] [] fun _ => none
  | .pausing pass _ rest ready => ∃ earlier level, levels = earlier ++ level :: rest ∧
    Within graph levels trace number pass earlier level ready [] fun _ => none
  | .running pass _ rest ready begun finished => ∃ earlier level,
    levels = earlier ++ level :: rest ∧
    Within graph levels trace number pass earlier level ready begun finished
  | .over => True

/-- What a run keeps of each of its groups. -/
structure Orderly (graph : Graph) (run : GroupRun) : Prop where
  layout : Layout graph run.levels
  always : Always (Disciplined graph run.levels) run.trace
  standing : Standing graph run.levels run.trace run.number run.phase

variable {graph : Graph} {levels : List (List Text)} {trace : List Entry} {number : Nat}
  {pass : Pass} {earlier rest : List (List Text)} {here ready begun : List Text}
  {finished : Text → Option Outcome}

/-- A pass that has come to a level. -/
theorem within_fresh (numbered : pass.number = number)
    (past : ∀ before < number, ∀ id ∈ levels.flatten, Settled trace before id)
    (through : ∀ id ∈ earlier.flatten, Settled trace number id)
    (only : ∀ entry ∈ trace, entry.pass < number ∨
      entry.pass = number ∧ entry.id ∈ earlier.flatten)
    (calm : ∀ entry ∈ trace, entry.what.fails = false)
    (faithful : Faithful pass (fateOf trace number)) :
    Within graph levels trace number pass earlier [] [] [] fun _ => none where
  numbered := numbered
  past := past
  through := through
  only := fun entry member => (only entry member).imp_right (And.imp_right .inl)
  calm := by
    intro entry member fails
    rw [calm entry member] at fails
    cases fails
  inside := List.Subset.refl _
  distinct := List.nodup_nil
  skipped := fun _ none => absurd none List.not_mem_nil
  marked := fun _ none => absurd none List.not_mem_nil
  began := fun _ none => absurd none List.not_mem_nil
  ended := fun _ _ none => absurd none (Option.some_ne_none _).symm
  fates := fun _ none => absurd none List.not_mem_nil
  faithful := by
    have same : (fun id => if id ∈ ([] : List Text) then none else fateOf trace number id) =
        fateOf trace number := by
      funext id
      exact if_neg List.not_mem_nil
    exact same ▸ faithful
  opened := fun _ none => absurd none List.not_mem_nil

theorem Between.enter (between : Between levels trace number) (index : Graph.PassIndex) :
    Within graph levels trace number ⟨number, index, fun _ _ => none, []⟩ [] [] [] []
      fun _ => none := by
  have unsettled : ∀ id, fateOf trace number id = none := by
    intro id
    refine fateOf_none fun entry member same => ?_
    have before := between.only entry member
    omega
  refine within_fresh rfl between.past (fun _ none => absurd none List.not_mem_nil)
    (fun entry member => .inl (between.only entry member)) between.calm ⟨?_, ?_⟩
  · intro id handle
    rw [unsettled]
    rfl
  · intro id
    rw [unsettled]
    refine ⟨fun none => absurd none List.not_mem_nil, ?_⟩
    rintro ⟨f, none, -⟩
    cases none

theorem Within.leave (within : Within graph levels trace number pass levels [] [] []
    fun _ => none) : Between levels trace (number + 1) := by
  refine ⟨fun before less id member => ?_, fun entry member => ?_, fun entry member => ?_⟩
  · rcases Nat.lt_succ_iff_lt_or_eq.mp less with less | rfl
    · exact within.past before less id member
    · exact within.through id member
  · rcases within.only entry member with less | ⟨same, -⟩ <;> omega
  · rw [← Bool.not_eq_true]
    intro fails
    obtain ⟨-, none, -⟩ := within.calm entry member fails
    cases none

theorem absorb_number (ready : List Text) :
    (pass.absorb finished ready).number = pass.number ∧
      (pass.absorb finished ready).index = pass.index := by
  induction ready generalizing pass with
  | nil => exact ⟨rfl, rfl⟩
  | cons id rest hypothesis =>
    rw [Pass.absorb, List.foldl_cons]
    split
    · rename_i outcome _
      have more := @hypothesis (pass.settle id outcome)
      cases outcome <;> exact more
    · exact hypothesis

/-- Once every ready node finished and none failed, the level is through. -/
theorem Within.close
    (within : Within graph levels trace number pass earlier here ready begun finished)
    (all : ∀ id ∈ ready, ∃ outcome, finished id = some outcome ∧ outcome.fails = false) :
    Within graph levels trace number (pass.absorb finished ready) (earlier ++ [here]) [] [] []
      fun _ => none := by
  refine within_fresh ((absorb_number ready).1.trans within.numbered) within.past ?_ ?_ ?_ ?_
  · intro id member
    rw [List.flatten_append, List.mem_append, List.flatten_singleton] at member
    rcases member with before | now
    · exact within.through id before
    · by_cases is_ready : id ∈ ready
      · obtain ⟨outcome, found, -⟩ := all id is_ready
        obtain ⟨begun_in, error, there⟩ := within.ended id outcome found
        exact .inr ⟨(within.began id begun_in).2, outcome, error, there⟩
      · exact .inl (within.skipped id now is_ready)
  · intro entry member
    rw [List.flatten_append, List.mem_append, List.flatten_singleton]
    exact within.only entry member
  · intro entry member
    rw [← Bool.not_eq_true]
    intro fails
    obtain ⟨-, is_ready, failed⟩ := within.calm entry member fails
    obtain ⟨outcome, found, fine⟩ := all entry.id is_ready
    rw [found, Option.any_some, fine] at failed
    cases failed
  · refine Faithful.absorb within.distinct within.faithful fun id is_ready => ?_
    obtain ⟨outcome, found, -⟩ := all id is_ready
    refine ⟨outcome, found, ?_⟩
    rw [within.fates id is_ready, found]
    rfl

end Standing

section Marking

variable {graph : Graph} {levels : List (List Text)} {trace : List Entry} {number : Nat}
  {pass : Pass} {earlier rest : List (List Text)} {level : List Text}

/-- What is published of a level. -/
def marks (number : Nat) (skipped ready : List Text) : List Entry :=
  skipped.map (⟨number, ·, .skipped⟩) ++ ready.map (⟨number, ·, .ready⟩)

theorem mem_marks {skipped ready : List Text} {entry : Entry} :
    entry ∈ marks number skipped ready ↔ entry.pass = number ∧
      (entry.what = .skipped ∧ entry.id ∈ skipped ∨ entry.what = .ready ∧ entry.id ∈ ready) := by
  obtain ⟨n, id, what⟩ := entry
  rw [marks, List.mem_append, List.mem_map, List.mem_map]
  constructor
  · rintro (⟨other, member, same⟩ | ⟨other, member, same⟩)
    · cases same
      exact ⟨rfl, .inl ⟨rfl, member⟩⟩
    · cases same
      exact ⟨rfl, .inr ⟨rfl, member⟩⟩
  · rintro ⟨rfl, ⟨rfl, member⟩ | ⟨rfl, member⟩⟩
    · exact .inl ⟨id, member, rfl⟩
    · exact .inr ⟨id, member, rfl⟩

theorem fateOf_marks (skipped ready : List Text) (id : Text) :
    fateOf (marks number skipped ready) number id =
      if id ∈ skipped then some .skipped else none := by
  have silent : fateOf (ready.map (⟨number, ·, .ready⟩)) number id = none := by
    rw [fateOf, List.findSome?_eq_none_iff]
    intro entry member
    obtain ⟨other, -, rfl⟩ := List.mem_map.mp member
    exact ite_self none
  rw [marks, fateOf_append, silent, Option.or_none]
  induction skipped with
  | nil => rfl
  | cons other others hypothesis =>
    rw [List.map_cons, fateOf, List.findSome?_cons]
    by_cases same : other = id
    · rw [if_pos ⟨rfl, same⟩, if_pos (same ▸ List.mem_cons_self)]
      rfl
    · have member : id ∈ other :: others ↔ id ∈ others := by
        rw [List.mem_cons]
        exact or_iff_right fun back => same back.symm
      rw [if_neg fun both => same both.2, if_congr member rfl rfl]
      exact hypothesis

/-- Nothing is known of the nodes of a level when a pass comes to it. -/
theorem Within.unsettled (layout : Layout graph levels) (split : levels = earlier ++ level :: rest)
    (within : Within graph levels trace number pass earlier [] [] [] fun _ => none) {id : Text}
    (here : id ∈ level) : fateOf trace number id = none := by
  refine fateOf_none fun entry member same_pass same_id => ?_
  rcases within.only entry member with less | ⟨-, before | none⟩
  · omega
  · exact layout.apart split (same_id ▸ before) here
  · cases none

/-- The pass sees the fates that its trace tells. -/
theorem Within.sees
    (within : Within graph levels trace number pass earlier [] [] [] fun _ => none) :
    Faithful pass (fateOf trace number) := by
  have same : (fun id => if id ∈ ([] : List Text) then none else fateOf trace number id) =
      fateOf trace number := by
    funext id
    exact if_neg List.not_mem_nil
  exact same ▸ within.faithful

/-- The sources of edges into a level keep their fates while it is published. -/
theorem Within.sources (layout : Layout graph levels) (split : levels = earlier ++ level :: rest)
    {id : Text} (here : id ∈ level) {added : List Entry}
    (within_level : ∀ entry ∈ added, entry.id ∈ level) :
    ∀ e ∈ graph.incoming id, fateOf (trace ++ added) number e.source =
      fateOf trace number e.source := by
  intro e into
  refine fateOf_apart fun entry member _ same => ?_
  have source := layout.sources earlier level rest split id here e into
  exact layout.apart split source (same ▸ within_level entry member)

theorem Within.publish (layout : Layout graph levels)
    (split : levels = earlier ++ level :: rest)
    (within : Within graph levels trace number pass earlier [] [] [] fun _ => none)
    (always : Always (Disciplined graph levels) trace) :
    Always (Disciplined graph levels) (trace ++ marks number
      (level.filter (allClosed graph pass)) (level.filter fun id => !allClosed graph pass id)) := by
  refine always.append fun before entry after cut => ?_
  have of_level : ∀ other ∈ before, other.what.fails = false ∧ other.id ∈ level := by
    intro other member
    have marked : other ∈ marks number (level.filter (allClosed graph pass))
        (level.filter fun id => !allClosed graph pass id) :=
      cut ▸ List.mem_append_left _ member
    obtain ⟨-, ⟨what, here⟩ | ⟨what, here⟩⟩ := mem_marks.mp marked
    · exact ⟨by rw [what]; rfl, List.mem_of_mem_filter here⟩
    · exact ⟨by rw [what]; rfl, List.mem_of_mem_filter here⟩
  have marked : entry ∈ marks number (level.filter (allClosed graph pass))
      (level.filter fun id => !allClosed graph pass id) :=
    cut ▸ List.mem_append_right _ List.mem_cons_self
  obtain ⟨in_pass, place⟩ := mem_marks.mp marked
  have here : entry.id ∈ level :=
    place.elim (fun skipped => List.mem_of_mem_filter skipped.2) fun ready =>
      List.mem_of_mem_filter ready.2
  have same := @Within.sources _ _ trace number _ _ _ layout split _ here _
    fun other member => (of_level other member).2
  constructor
  · intro _ e into
    rw [in_pass]
    exact (within.through e.source (layout.sources _ _ _ split _ here e into)).append before
  · intro _
    rw [in_pass]
    exact ⟨earlier, level, rest, split, here, fun id member => (within.through id member).append _,
      fun m less id member => (within.past m less id member).append _⟩
  · intro _
    rw [in_pass, closed_congr same, ← allClosed_iff within.sees]
    rcases place with ⟨what, member⟩ | ⟨what, member⟩
    · exact iff_of_true what (List.mem_filter.mp member).2
    · have opened := (List.mem_filter.mp member).2
      rw [Bool.not_eq_true'] at opened
      refine iff_of_false (fun skipped => ?_) (Bool.not_eq_true _ ▸ opened)
      rw [what] at skipped
      cases skipped
  · intro index input what
    rcases place with ⟨other, -⟩ | ⟨other, -⟩ <;> rw [what] at other <;> cases other
  · intro _ failure member fails
    rcases List.mem_append.mp member with old | new
    · obtain ⟨-, none, -⟩ := within.calm failure old fails
      cases none
    · rw [(of_level failure new).1] at fails
      cases fails

theorem Within.into (layout : Layout graph levels) (split : levels = earlier ++ level :: rest)
    (within : Within graph levels trace number pass earlier [] [] [] fun _ => none) :
    Within graph levels (trace ++ marks number (level.filter (allClosed graph pass))
        (level.filter fun id => !allClosed graph pass id)) number
      { pass with dead := (level.filter (allClosed graph pass)).reverse ++ pass.dead } earlier level
      (level.filter fun id => !allClosed graph pass id) [] fun _ => none := by
  have none_yet : ∀ id ∈ level, fateOf trace number id = none := fun id here =>
    within.unsettled layout split here
  have fates : ∀ id, fateOf (trace ++ marks number (level.filter (allClosed graph pass))
      (level.filter fun id => !allClosed graph pass id)) number id =
      if id ∈ level.filter (allClosed graph pass) then some .skipped
      else fateOf trace number id := by
    intro id
    rw [fateOf_append, fateOf_marks]
    split
    · rename_i skipped
      rw [none_yet id (List.mem_of_mem_filter skipped)]
      rfl
    · exact Option.or_none
  have ready_iff : ∀ id, id ∈ level.filter (fun id => !allClosed graph pass id) ↔
      id ∈ level ∧ id ∉ level.filter (allClosed graph pass) := by
    intro id
    rw [List.mem_filter, List.mem_filter, not_and, Bool.not_eq_true', Bool.not_eq_true]
    exact and_congr_right fun here => ⟨fun opened _ => opened, fun opened => opened here⟩
  refine ⟨within.numbered, fun m less id member => (within.past m less id member).append _,
    fun id member => (within.through id member).append _, ?_, ?_, List.filter_subset_self _,
    (layout.level_nodup split).filter _, ?_, ?_, fun _ none => absurd none List.not_mem_nil,
    fun _ _ none => absurd none (Option.some_ne_none _).symm, ?_, ?_, ?_⟩
  · intro entry member
    rcases List.mem_append.mp member with old | new
    · refine (within.only entry old).imp_right (And.imp_right fun place => ?_)
      exact place.elim .inl fun none => absurd none List.not_mem_nil
    · obtain ⟨in_pass, place⟩ := mem_marks.mp new
      exact .inr ⟨in_pass, .inr (place.elim (fun skipped => List.mem_of_mem_filter skipped.2)
        fun ready => List.mem_of_mem_filter ready.2)⟩
  · intro entry member fails
    rcases List.mem_append.mp member with old | new
    · obtain ⟨-, none, -⟩ := within.calm entry old fails
      cases none
    · obtain ⟨-, ⟨what, -⟩ | ⟨what, -⟩⟩ := mem_marks.mp new <;> rw [what] at fails <;> cases fails
  · intro id here not_ready
    refine List.mem_append_right _ (mem_marks.mpr ⟨rfl, .inl ⟨rfl, ?_⟩⟩)
    by_contra not_skipped
    exact not_ready ((ready_iff id).mpr ⟨here, not_skipped⟩)
  · intro id ready
    exact List.mem_append_right _ (mem_marks.mpr ⟨rfl, .inr ⟨rfl, ready⟩⟩)
  · intro id ready
    obtain ⟨here, not_skipped⟩ := (ready_iff id).mp ready
    rw [fates, if_neg not_skipped, none_yet id here]
    rfl
  · have sees := within.sees
    have settled : ∀ id, (if id ∈ level.filter (fun id => !allClosed graph pass id) then none
        else fateOf (trace ++ marks number (level.filter (allClosed graph pass))
          (level.filter fun id => !allClosed graph pass id)) number id) =
        if id ∈ level.filter (allClosed graph pass) then some .skipped
        else fateOf trace number id := by
      intro id
      rw [fates]
      by_cases ready : id ∈ level.filter fun id => !allClosed graph pass id
      · obtain ⟨here, not_skipped⟩ := (ready_iff id).mp ready
        rw [if_pos ready, if_neg not_skipped, none_yet id here]
      · rw [if_neg ready]
    constructor
    · intro id handle
      rw [settled]
      split
      · rename_i skipped
        show pass.outputs id handle = none
        rw [sees.outputs, none_yet id (List.mem_of_mem_filter skipped)]
        rfl
      · exact sees.outputs id handle
    · intro id
      show id ∈ (level.filter (allClosed graph pass)).reverse ++ pass.dead ↔ _
      rw [settled, List.mem_append, List.mem_reverse]
      split
      · rename_i skipped
        exact iff_of_true (.inl skipped) ⟨_, rfl, rfl⟩
      · rename_i not_skipped
        rw [or_iff_right not_skipped]
        exact sees.dead id
  · intro id ready
    obtain ⟨here, opened⟩ := List.mem_filter.mp ready
    rw [closed_congr (Within.sources layout split here fun entry member => ?_),
      ← allClosed_iff within.sees, Bool.not_eq_true]
    · exact Bool.not_eq_true' _ ▸ opened
    · obtain ⟨-, place⟩ := mem_marks.mp member
      exact place.elim (fun skipped => List.mem_of_mem_filter skipped.2) fun ready =>
        List.mem_of_mem_filter ready.2

end Marking

section Running

variable {graph : Graph} {levels : List (List Text)} {trace : List Entry} {number : Nat}
  {pass : Pass} {earlier rest : List (List Text)} {level ready begun : List Text}
  {finished : Text → Option Outcome}

/-- What happened without an end tells no fate. -/
theorem fateOf_silent {entry : Entry} (silent : entry.what.fate = none) (n : Nat) (id : Text) :
    fateOf (trace ++ [entry]) n id = fateOf trace n id := by
  rw [fateOf_append, fateOf, fateOf, List.findSome?_singleton, silent, ite_self, Option.or_none]

theorem fateOf_other {entry : Entry} {n : Nat} {id : Text} (apart : entry.id ≠ id) :
    fateOf (trace ++ [entry]) n id = fateOf trace n id := by
  refine fateOf_apart fun other member _ => ?_
  rw [List.mem_singleton.mp member]
  exact apart

/-- The nodes that feed one of the level are not of the level. -/
theorem Layout.beyond (layout : Layout graph levels) (split : levels = earlier ++ level :: rest)
    {id : Text} (here : id ∈ level) {e : WorkflowEdge} (into : e ∈ graph.incoming id) :
    e.source ∉ level :=
  layout.apart split (layout.sources _ _ _ split id here e into)

theorem Within.executes (layout : Layout graph levels)
    (split : levels = earlier ++ level :: rest)
    (within : Within graph levels trace number pass earlier level ready begun finished)
    (always : Always (Disciplined graph levels) trace) {id : Text} (is_ready : id ∈ ready) :
    Always (Disciplined graph levels) (trace ++
      [⟨pass.number, id, .executed pass.index (Dataset.union (inputs graph pass id))⟩]) := by
  have here := within.inside is_ready
  refine always.snoc ⟨?_, ?_, ?_, ?_, ?_⟩
  · intro _ e into
    rw [within.numbered]
    exact within.through e.source (layout.sources _ _ _ split id here e into)
  · intro _
    rw [within.numbered]
    exact ⟨earlier, level, rest, split, here, within.through, within.past⟩
  · intro marks
    cases marks
  · intro index input what
    cases what
    rw [within.numbered]
    refine ⟨within.marked id is_ready, within.opened id is_ready, ?_⟩
    rw [inputs_eq within.faithful]
    refine congrArg Dataset.union (arriving_congr fun e into => ?_)
    exact if_neg fun there => layout.beyond split here into (within.inside there)
  · intro _ failure member fails
    obtain ⟨same, failed, -⟩ := within.calm failure member fails
    refine ⟨within.numbered.trans same.symm, level, ?_, here, within.inside failed⟩
    rw [split]
    exact List.mem_append_right _ List.mem_cons_self

theorem Within.begin_node
    (within : Within graph levels trace number pass earlier level ready begun finished)
    {id : Text} (is_ready : id ∈ ready) (input : Dataset) :
    Within graph levels (trace ++ [⟨pass.number, id, .executed pass.index input⟩]) number pass
      earlier level ready (id :: begun) finished := by
  have same : ∀ n, fateOf (trace ++ [⟨pass.number, id, .executed pass.index input⟩]) n =
      fateOf trace n := fun n => funext fun other => fateOf_silent rfl n other
  refine ⟨within.numbered, fun m less other member => (within.past m less other member).append _,
    fun other member => (within.through other member).append _, ?_, ?_, within.inside,
    within.distinct, fun other there not_ready => List.mem_append_left _
      (within.skipped other there not_ready), fun other there => List.mem_append_left _
      (within.marked other there), ?_, ?_, ?_, ?_, ?_⟩
  · intro entry member
    rcases List.mem_append.mp member with old | new
    · exact within.only entry old
    · rw [List.mem_singleton.mp new]
      exact .inr ⟨within.numbered, .inr (within.inside is_ready)⟩
  · intro entry member fails
    rcases List.mem_append.mp member with old | new
    · exact within.calm entry old fails
    · rw [List.mem_singleton.mp new] at fails
      cases fails
  · intro other member
    rcases List.mem_cons.mp member with rfl | member
    · exact ⟨is_ready, pass.index, input, List.mem_append_right _ (within.numbered ▸
        List.mem_singleton.mpr rfl)⟩
    · obtain ⟨ready_too, index, read, there⟩ := within.began other member
      exact ⟨ready_too, index, read, List.mem_append_left _ there⟩
  · intro other outcome found
    obtain ⟨begun_in, error, there⟩ := within.ended other outcome found
    exact ⟨List.mem_cons_of_mem _ begun_in, error, List.mem_append_left _ there⟩
  · rw [same]
    exact within.fates
  · rw [same]
    exact within.faithful
  · rw [same]
    exact within.opened

theorem Within.finish_node (layout : Layout graph levels)
    (split : levels = earlier ++ level :: rest)
    (within : Within graph levels trace number pass earlier level ready begun finished)
    {id : Text} (is_begun : id ∈ begun) (pending : finished id = none) (outcome : Outcome)
    (error : Option Text) :
    Within graph levels (trace ++ [⟨pass.number, id, .finished outcome error⟩]) number pass
      earlier level ready begun (Function.update finished id (some outcome)) := by
  have is_ready := (within.began id is_begun).1
  have elsewhere : ∀ n other, other ≠ id →
      fateOf (trace ++ [⟨pass.number, id, .finished outcome error⟩]) n other =
        fateOf trace n other := fun n other apart => fateOf_other apart.symm
  refine ⟨within.numbered, fun m less other member => (within.past m less other member).append _,
    fun other member => (within.through other member).append _, ?_, ?_, within.inside,
    within.distinct, fun other there not_ready => List.mem_append_left _
      (within.skipped other there not_ready), fun other there => List.mem_append_left _
      (within.marked other there), ?_, ?_, ?_, ?_, ?_⟩
  · intro entry member
    rcases List.mem_append.mp member with old | new
    · exact within.only entry old
    · rw [List.mem_singleton.mp new]
      exact .inr ⟨within.numbered, .inr (within.inside is_ready)⟩
  · intro entry member fails
    rcases List.mem_append.mp member with old | new
    · obtain ⟨same, ready_too, failed⟩ := within.calm entry old fails
      refine ⟨same, ready_too, ?_⟩
      rw [Function.update_of_ne]
      · exact failed
      · intro here
        rw [here, pending] at failed
        cases failed
    · rw [List.mem_singleton.mp new] at fails ⊢
      refine ⟨within.numbered, is_ready, ?_⟩
      rw [Function.update_self]
      exact fails
  · intro other member
    obtain ⟨ready_too, index, read, there⟩ := within.began other member
    exact ⟨ready_too, index, read, List.mem_append_left _ there⟩
  · intro other result found
    by_cases same : other = id
    · subst same
      rw [Function.update_self] at found
      cases found
      exact ⟨is_begun, error, List.mem_append_right _ (within.numbered ▸
        List.mem_singleton.mpr rfl)⟩
    · rw [Function.update_of_ne same] at found
      obtain ⟨begun_in, message, there⟩ := within.ended other result found
      exact ⟨begun_in, message, List.mem_append_left _ there⟩
  · intro other there
    by_cases same : other = id
    · subst same
      rw [Function.update_self, within.numbered]
      refine fateOf_snoc ?_ (.finished outcome error)
      rw [within.fates other there, pending]
      rfl
    · rw [Function.update_of_ne same, elsewhere number other same]
      exact within.fates other there
  · have same : (fun other => if other ∈ ready then none else
        fateOf (trace ++ [⟨pass.number, id, .finished outcome error⟩]) number other) =
        fun other => if other ∈ ready then none else fateOf trace number other := by
      funext other
      by_cases here : other = id
      · rw [if_pos (here ▸ is_ready), if_pos (here ▸ is_ready)]
      · rw [elsewhere number other here]
    exact same ▸ within.faithful
  · intro other there
    rw [closed_congr fun e into => elsewhere number e.source fun same => ?_]
    · exact within.opened other there
    · exact layout.beyond split (within.inside there) into (same ▸ within.inside is_ready)

end Running

section Moves

variable {graph : Graph} {delayed : Bool} {shared shared' : Shared} {run run' : GroupRun}

/-- How a node comes out is no mark, and it executes nothing. -/
theorem finished_disciplined (levels : List (List Text)) (before : List Entry) (number : Nat)
    (id : Text) (outcome : Outcome) (error : Option Text) :
    Disciplined graph levels before ⟨number, id, .finished outcome error⟩ := by
  refine ⟨?_, ?_, ?_, ?_, ?_⟩
  · rintro (none | none) <;> cases none
  · rintro (none | none) <;> cases none
  · intro none
    cases none
  · intro index input none
    cases none
  · rintro (none | none) <;> cases none

theorem enterPass_orderly (orderly : Orderly graph run) (phase : run.phase = .between) :
    Orderly graph (enterPass shared run) := by
  have standing := orderly.standing
  rw [phase] at standing
  rw [enterPass]
  split
  · exact ⟨orderly.layout, orderly.always, trivial⟩
  · rename_i index left _
    split
    · exact ⟨orderly.layout, orderly.always, trivial⟩
    · exact ⟨orderly.layout, orderly.always, [], rfl, Between.enter standing index⟩

theorem enterLevel_orderly (orderly : Orderly graph run) {pass : Pass} {index : Nat}
    {level : List Text} {rest : List (List Text)}
    (phase : run.phase = .atLevel pass index (level :: rest)) :
    Orderly graph (enterLevel graph delayed shared run pass index level rest).2 := by
  have standing := orderly.standing
  rw [phase] at standing
  obtain ⟨earlier, split, within⟩ := standing
  rw [enterLevel]
  split
  · exact ⟨orderly.layout, orderly.always, trivial⟩
  · rw [sortLevel_eq fun id here e into => orderly.layout.beyond split here into]
    have always := within.publish orderly.layout split orderly.always
    have into := within.into orderly.layout split
    have trace : run.trace ++ (level.filter (allClosed graph pass)).map
          (⟨pass.number, ·, .skipped⟩) ++
        (level.filter fun id => !allClosed graph pass id).map (⟨pass.number, ·, .ready⟩) =
        run.trace ++ marks run.number (level.filter (allClosed graph pass))
          (level.filter fun id => !allClosed graph pass id) := by
      rw [List.append_assoc, within.numbered]
      rfl
    refine ⟨orderly.layout, ?_, ?_⟩
    · simp only [trace]
      exact always
    · simp only [trace]
      split
      · rename_i none
        have nobody := List.isEmpty_iff.mp none
        rw [nobody] at into
        have closed := into.close fun id member => absurd member List.not_mem_nil
        rw [nobody]
        exact ⟨earlier ++ [level], by rw [split, List.append_assoc]; rfl, closed⟩
      · split
        · exact ⟨earlier, level, split, into⟩
        · exact ⟨earlier, level, split, into⟩

theorem leaveLevel_orderly (orderly : Orderly graph run) {pass : Pass} {index : Nat}
    {rest : List (List Text)} {ready begun : List Text} {finished : Text → Option Outcome}
    (phase : run.phase = .running pass index rest ready begun finished)
    (all : (ready.all fun id => (finished id).isSome) = true) :
    Orderly graph (leaveLevel run pass index rest ready finished) := by
  have standing := orderly.standing
  rw [phase] at standing
  obtain ⟨earlier, level, split, within⟩ := standing
  rw [leaveLevel]
  split
  · exact ⟨orderly.layout, orderly.always, trivial⟩
  · rename_i none_failed
    refine ⟨orderly.layout, orderly.always, earlier ++ [level], ?_, within.close ?_⟩
    · show run.levels = _
      rw [split, List.append_assoc]
      rfl
    · intro id member
      obtain ⟨outcome, found⟩ := Option.isSome_iff_exists.mp (List.all_eq_true.mp all id member)
      refine ⟨outcome, found, ?_⟩
      rw [← Bool.not_eq_true]
      intro fails
      refine none_failed (List.any_eq_true.mpr ⟨id, member, ?_⟩)
      rw [found]
      exact fails

theorem advance_orderly (orderly : Orderly graph run)
    (moved : advance graph delayed shared run = some (shared', run')) : Orderly graph run' := by
  have standing := orderly.standing
  unfold advance at moved
  split at moved
  · rename_i phase
    cases moved
    exact enterPass_orderly orderly phase
  · rename_i phase
    cases moved
    rw [phase] at standing
    obtain ⟨earlier, split, within⟩ := standing
    rw [List.append_nil] at split
    rw [← split] at within
    exact ⟨orderly.layout, orderly.always, within.leave⟩
  · rename_i phase
    have kept := @enterLevel_orderly _ delayed shared _ orderly _ _ _ _ phase
    rw [Option.some.inj moved] at kept
    exact kept
  · rename_i phase
    cases moved
    rw [phase] at standing
    exact ⟨orderly.layout, orderly.always, standing⟩
  · rename_i phase
    split at moved
    · rename_i all
      cases moved
      exact leaveLevel_orderly orderly phase all
    · cases moved
  · cases moved

theorem moveGroup_orderly {move : Move} (orderly : Orderly graph run)
    (moved : moveGroup graph delayed shared run move = some (shared', run')) :
    Orderly graph run' := by
  have standing := orderly.standing
  cases move with
  | advance => exact advance_orderly orderly moved
  | stop =>
    simp only [moveGroup] at moved
    split at moved
    · split at moved
      · cases moved
        exact ⟨orderly.layout, orderly.always, trivial⟩
      · cases moved
    · cases moved
  | begins id =>
    simp only [moveGroup] at moved
    split at moved
    · rename_i phase
      split at moved
      · rename_i allowed
        cases moved
        rw [phase] at standing
        obtain ⟨earlier, level, split, within⟩ := standing
        exact ⟨orderly.layout, within.executes orderly.layout split orderly.always allowed.1,
          earlier, level, split, within.begin_node allowed.1 _⟩
      · cases moved
    · cases moved
  | finish id result =>
    simp only [moveGroup] at moved
    split at moved
    · rename_i phase
      split at moved
      · rename_i allowed
        cases moved
        rw [phase] at standing
        obtain ⟨earlier, level, split, within⟩ := standing
        exact ⟨orderly.layout, orderly.always.snoc (finished_disciplined _ _ _ _ _ _),
          earlier, level, split, within.finish_node orderly.layout split allowed.1
            (Option.isNone_iff_eq_none.mp allowed.2) _ _⟩
      · cases moved
    · cases moved

theorem moveGroup_fixed {move : Move}
    (moved : moveGroup graph delayed shared run move = some (shared', run')) :
    run'.group = run.group ∧ run'.levels = run.levels := by
  cases move with
  | advance =>
    simp only [moveGroup, advance] at moved
    split at moved
    · cases moved
      rw [enterPass]
      split
      · exact ⟨rfl, rfl⟩
      · split <;> exact ⟨rfl, rfl⟩
    · cases moved
      exact ⟨rfl, rfl⟩
    · have same : _ = run' := congrArg Prod.snd (Option.some.inj moved)
      rw [← same, enterLevel]
      split <;> exact ⟨rfl, rfl⟩
    · cases moved
      exact ⟨rfl, rfl⟩
    · split at moved
      · cases moved
        rw [leaveLevel]
        split <;> exact ⟨rfl, rfl⟩
      · cases moved
    · cases moved
  | stop =>
    simp only [moveGroup] at moved
    split at moved
    · split at moved <;> cases moved
      exact ⟨rfl, rfl⟩
    · cases moved
  | begins id =>
    simp only [moveGroup] at moved
    split at moved
    · split at moved <;> cases moved
      exact ⟨rfl, rfl⟩
    · cases moved
  | finish id result =>
    simp only [moveGroup] at moved
    split at moved
    · split at moved <;> cases moved
      exact ⟨rfl, rfl⟩
    · cases moved

end Moves

section Runs

variable {graph : Graph} {delayed : Bool}

/-- One step of a run is Stop, or a move of one of its groups. -/
theorem step_cases {run next : Run} {action : Action}
    (stepped : step graph delayed run action = some next) :
    (action = .cancel ∧ next = { run with shared := { run.shared with cancelled := true } }) ∨
      ∃ i move before group after group' shared, action = .group i move ∧
        run.groups = before ++ group :: after ∧ before.length = i ∧
        moveGroup graph delayed run.shared group move = some (shared, group') ∧
        next = ⟨shared, before ++ group' :: after⟩ := by
  cases action with
  | cancel =>
    cases stepped
    exact .inl ⟨rfl, rfl⟩
  | group i move =>
    simp only [step, Option.bind_eq_bind, Option.bind_eq_some_iff] at stepped
    obtain ⟨group, found, ⟨shared, group'⟩, moved, last⟩ := stepped
    cases last
    obtain ⟨bound, rfl⟩ := List.getElem?_eq_some_iff.mp found
    refine .inr ⟨i, move, run.groups.take i, run.groups[i], run.groups.drop (i + 1), group',
      shared, rfl, ?_, List.length_take_of_le (Nat.le_of_lt bound), moved, ?_⟩
    · rw [List.cons_getElem_drop_succ, List.take_append_drop]
    · rw [List.set_eq_take_append_cons_drop, if_pos bound]

/-- What every move of a group keeps, every group keeps throughout a run. -/
theorem groups_kept {inv : GroupRun → Prop}
    (kept : ∀ shared shared' group group' move, inv group →
      moveGroup graph delayed shared group move = some (shared', group') → inv group')
    {start reached : Run} {actions : List Action} (begins : ∀ group ∈ start.groups, inv group)
    (reaches : Machine.run (step graph delayed) start actions = some reached) :
    ∀ group ∈ reached.groups, inv group := by
  refine @Machine.run_keeps _ _ _ (fun run => ∀ group ∈ run.groups, inv group)
    (fun run action next all stepped => ?_) _ _ _ begins reaches
  rcases step_cases stepped with ⟨rfl, rfl⟩ | ⟨i, move, before, group, after, group', shared,
    rfl, split, -, moved, rfl⟩
  · exact all
  · rw [split] at all
    intro other member
    rcases List.mem_append.mp member with there | there
    · exact all other (List.mem_append_left _ there)
    · rcases List.mem_cons.mp there with rfl | there
      · exact kept _ _ _ _ _ (all group (List.mem_append_right _ List.mem_cons_self)) moved
      · exact all other (List.mem_append_right _ (List.mem_cons_of_mem _ there))

theorem levelSets_ok {groups : List Graph.Group} {runs : List GroupRun}
    (found : levelSets graph groups = some (.ok runs)) :
    List.Forall₂ (fun group run => ∃ levels, graph.levels group.nodes = some (.ok levels) ∧
      run = newRun group levels) groups runs := by
  induction groups generalizing runs with
  | nil =>
    cases found
    exact .nil
  | cons group rest hypothesis =>
    simp only [levelSets, Option.bind_eq_bind, Option.bind_eq_some_iff] at found
    obtain ⟨levelled, computed, found⟩ := found
    cases levelled with
    | error problem => cases found
    | ok levels =>
      obtain ⟨others, rest_found, last⟩ := Option.bind_eq_some_iff.mp found
      cases others with
      | error problem => cases last
      | ok others =>
        cases last
        exact .cons ⟨levels, computed, rfl⟩ (hypothesis rest_found)

/-- What a run starts from: a plan of its targets, with the levels of each group. -/
theorem prepare_ok {nodes : List WorkflowNode} {edges : List WorkflowEdge} {targets : List Text}
    {start : Run} (found : prepare nodes edges targets = some (.ok (graph, start))) :
    Graph.new nodes edges = .ok graph ∧ ∃ groups, graph.plan targets = .ok groups ∧
      List.Forall₂ (fun group run => ∃ levels, graph.levels group.nodes = some (.ok levels) ∧
        run = newRun group levels) groups start.groups ∧
      start.shared = ⟨false, false, fun _ => none⟩ := by
  unfold prepare at found
  split at found
  · cases found
  · rename_i graph' made
    split at found
    · cases found
    · rename_i groups planned
      simp only [Option.bind_eq_bind, Option.bind_eq_some_iff] at found
      obtain ⟨levelled, computed, found⟩ := found
      cases levelled with
      | error problem => cases found
      | ok runs =>
        simp only at found
        split at found
        · cases found
        · cases found
          exact ⟨made, groups, planned, levelSets_ok computed, rfl⟩

theorem execute_ok {nodes : List WorkflowNode} {edges : List WorkflowEdge} {targets : List Text}
    {actions : List Action} {run : Run}
    (ran : execute nodes edges targets delayed actions = some (graph, run)) :
    ∃ start, prepare nodes edges targets = some (.ok (graph, start)) ∧
      Machine.run (step graph delayed) start actions = some run := by
  unfold execute at ran
  split at ran
  · rename_i graph' start prepared
    obtain ⟨reached, reaches, same⟩ := Option.map_eq_some_iff.mp ran
    cases same
    exact ⟨start, prepared, reaches⟩
  · cases ran

theorem newRun_orderly {group : Graph.Group} {levels : List (List Text)}
    (planned : Graph.Planned graph group)
    (found : graph.levels group.nodes = some (.ok levels)) :
    Orderly graph (newRun group levels) :=
  ⟨(layout_of_levels planned.closed found).1, always_nil,
    ⟨fun _ less => absurd less (Nat.not_lt_zero _), fun _ none => absurd none List.not_mem_nil,
      fun _ none => absurd none List.not_mem_nil⟩⟩

theorem prepare_groups {nodes : List WorkflowNode} {edges : List WorkflowEdge}
    {targets : List Text} {start : Run} {group : GroupRun}
    (found : prepare nodes edges targets = some (.ok (graph, start)))
    (member : group ∈ start.groups) :
    ∃ source levels, Graph.Planned graph source ∧
      graph.levels source.nodes = some (.ok levels) ∧ group = newRun source levels := by
  obtain ⟨-, groups, planned, starts, -⟩ := prepare_ok found
  obtain ⟨i, here⟩ := List.mem_iff_getElem?.mp member
  obtain ⟨bound, rfl⟩ := List.getElem?_eq_some_iff.mp here
  have wide : i < groups.length := by rwa [starts.length_eq]
  obtain ⟨levels, computed, same⟩ := starts.get wide bound
  exact ⟨groups[i], levels, (Graph.plan_ok planned).1.planned _ (List.getElem_mem wide), computed,
    same⟩

/-- The discipline of passes: in every run, whatever its nodes come to and whenever it is
stopped, everything that happens to a node is in order with what happened before. -/
theorem passes_disciplined {nodes : List WorkflowNode} {edges : List WorkflowEdge}
    {targets : List Text} {actions : List Action} {run : Run}
    (ran : execute nodes edges targets delayed actions = some (graph, run)) :
    ∀ group ∈ run.groups, Always (Disciplined graph group.levels) group.trace := by
  obtain ⟨start, prepared, reaches⟩ := execute_ok ran
  have orderly : ∀ group ∈ run.groups, Orderly graph group := by
    refine groups_kept (fun _ _ _ _ _ kept moved => moveGroup_orderly kept moved) ?_ reaches
    intro group member
    obtain ⟨source, levels, planned, computed, rfl⟩ := prepare_groups prepared member
    exact newRun_orderly planned computed
  exact fun group member => (orderly group member).always

/-- A gate that closes before a filter. -/
def gated : List WorkflowNode × List WorkflowEdge :=
  ([⟨"g".toList, [], false, .rowCountGate⟩, ⟨"f".toList, [], false, .filter⟩],
    [⟨"1".toList, "g".toList, "f".toList, none⟩])

def gatedRun : List Action :=
  [.group 0 .advance, .group 0 .advance, .group 0 (.begins "g".toList),
    .group 0 (.finish "g".toList (.ok ⟨[(none, Dataset.empty)], none, none, true⟩)),
    .group 0 .advance, .group 0 .advance, .group 0 .advance, .group 0 .advance]

theorem gated_disciplined :
    ∃ graph run, execute gated.1 gated.2 ["f".toList] true gatedRun = some (graph, run) ∧
      ∀ group ∈ run.groups, Always (Disciplined graph group.levels) group.trace := by
  have ran : (execute gated.1 gated.2 ["f".toList] true gatedRun).isSome = true := by
    decide +kernel
  obtain ⟨⟨graph, run⟩, found⟩ := Option.isSome_iff_exists.mp ran
  exact ⟨graph, run, found, passes_disciplined found⟩

end Runs

end DbFree.Workflows
