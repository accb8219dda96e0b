import DbFree.WorkflowDiscipline

/- How often a node is executed: once in each pass of each group that holds it. -/
namespace DbFree.Workflows

open Relation

section Combinations

/-- On which iteration each Repeat is in a pass. -/
def iterations (index : Graph.PassIndex) : List Nat := index.map fun r => r.2.1.toNat

/-- One Repeat is on one of its iterations. -/
def OneOf (r : Text × UInt32) (turn : Text × UInt32 × UInt32) : Prop :=
  turn.1 = r.1 ∧ turn.2.2 = r.2 ∧ turn.2.1 < r.2

theorem passes_snoc (repeats : List (Text × UInt32)) (r : Text × UInt32) :
    Graph.passes (repeats ++ [r]) = (Graph.passes repeats).flatMap fun base =>
      (List.range r.2.toNat).map fun i => base ++ [(r.1, UInt32.ofNat i, r.2)] := by
  rw [Graph.passes, List.foldl_append]
  rfl

theorem toNat_lt_count {count : UInt32} {i : Nat} (less : i < count.toNat) :
    (UInt32.ofNat i).toNat = i := by
  have small : i < 2 ^ 32 := Nat.lt_trans less count.toNat_lt
  exact UInt32.toNat_ofNat_of_lt' small

theorem mem_passes {repeats : List (Text × UInt32)} {index : Graph.PassIndex} :
    index ∈ Graph.passes repeats ↔ List.Forall₂ OneOf repeats index := by
  induction repeats using List.reverseRecOn generalizing index with
  | nil =>
    rw [Graph.passes, List.foldl_nil, List.mem_singleton]
    exact ⟨fun none => none ▸ .nil, fun none => List.forall₂_nil_left_iff.mp none⟩
  | append_singleton repeats r hypothesis =>
    rw [passes_snoc, List.mem_flatMap]
    constructor
    · rintro ⟨base, member, inside⟩
      obtain ⟨i, less, rfl⟩ := List.mem_map.mp inside
      refine List.rel_append (hypothesis.mp member) (.cons ⟨rfl, rfl, ?_⟩ .nil)
      rw [UInt32.lt_iff_toNat_lt, toNat_lt_count (List.mem_range.mp less)]
      exact List.mem_range.mp less
    · intro all
      obtain ⟨base, last, front, back, rfl⟩ : ∃ base last, List.Forall₂ OneOf repeats base ∧
          List.Forall₂ OneOf [r] last ∧ index = base ++ last := by
        refine ⟨index.take repeats.length, index.drop repeats.length,
          (List.forall₂_take_append index repeats [r] all.flip).flip,
          (List.forall₂_drop_append index repeats [r] all.flip).flip,
          (List.take_append_drop _ _).symm⟩
      cases back with
      | cons one none =>
        cases none
        rename_i turn
        obtain ⟨id, i, total⟩ := turn
        obtain ⟨rfl, rfl, less⟩ := one
        refine ⟨base, hypothesis.mpr front, List.mem_map.mpr ⟨i.toNat, ?_, ?_⟩⟩
        · exact List.mem_range.mpr (UInt32.lt_iff_toNat_lt.mp less)
        · rw [UInt32.ofNat_toNat]

theorem passes_length (repeats : List (Text × UInt32)) :
    (Graph.passes repeats).length = (repeats.map fun r => r.2.toNat).prod := by
  induction repeats using List.reverseRecOn with
  | nil => rfl
  | append_singleton repeats r hypothesis =>
    rw [passes_snoc, List.length_flatMap, List.map_append, List.prod_append, ← hypothesis]
    simp only [List.length_map, List.length_range, List.map_const', List.sum_replicate,
      List.map_cons, List.map_nil, List.prod_singleton, smul_eq_mul]

theorem lex_append {first second : List Nat} (less : List.Lex (· < ·) first second)
    (same : first.length = second.length) (a b : List Nat) :
    List.Lex (· < ·) (first ++ a) (second ++ b) := by
  induction less with
  | nil => cases same
  | cons _ hypothesis => exact .cons (hypothesis (Nat.succ.inj same))
  | rel below => exact .rel below

/-- The first Repeat is the outermost loop. -/
theorem passes_lex (repeats : List (Text × UInt32)) :
    ((Graph.passes repeats).map iterations).Pairwise (List.Lex (· < ·)) := by
  rw [List.pairwise_map]
  induction repeats using List.reverseRecOn with
  | nil => exact List.pairwise_singleton _ _
  | append_singleton repeats r hypothesis =>
    have sizes : ∀ base ∈ Graph.passes repeats, (iterations base).length = repeats.length := by
      intro base member
      rw [iterations, List.length_map, (mem_passes.mp member).length_eq]
    rw [passes_snoc, List.pairwise_flatMap]
    constructor
    · intro base _
      rw [List.pairwise_map]
      refine List.pairwise_lt_range.imp_of_mem fun {i j} first second less => ?_
      have small := toNat_lt_count (List.mem_range.mp first)
      have small' := toNat_lt_count (List.mem_range.mp second)
      simp only [iterations, List.map_append, List.map_cons, List.map_nil, small, small']
      exact List.Lex.append_left _ (.rel less) _
    · refine hypothesis.imp_of_mem fun {base other} first second less => ?_
      intro index member index' member'
      obtain ⟨i, -, rfl⟩ := List.mem_map.mp member
      obtain ⟨j, -, rfl⟩ := List.mem_map.mp member'
      simp only [iterations, List.map_append]
      exact lex_append less ((sizes base first).trans (sizes other second).symm) _ _

end Combinations

section Executions

def Happening.seen : Happening → Option Graph.PassIndex
  | .executed index _ => some index
  | _ => none

/-- The passes in which a node is executed, one after the other. -/
def executions (trace : List Entry) (id : Text) : List Graph.PassIndex :=
  trace.filterMap fun entry => if entry.id = id then entry.what.seen else none

/-- A node is skipped, fails or is stopped. -/
def Happening.disturbs : Happening → Bool
  | .skipped => true
  | .finished (.done _) _ => false
  | .finished _ _ => true
  | _ => false

def Calm (trace : List Entry) : Prop := ∀ entry ∈ trace, entry.what.disturbs = false

theorem Calm.before {trace added : List Entry} (calm : Calm (trace ++ added)) : Calm trace :=
  fun entry member => calm entry (List.mem_append_left _ member)

theorem executions_append (trace added : List Entry) (id : Text) :
    executions (trace ++ added) id = executions trace id ++ executions added id :=
  List.filterMap_append

theorem executions_quiet {added : List Entry} (quiet : ∀ entry ∈ added, entry.what.seen = none)
    (trace : List Entry) (id : Text) : executions (trace ++ added) id = executions trace id := by
  have none_added : executions added id = [] := by
    rw [executions, List.filterMap_eq_nil_iff]
    intro entry member
    rw [quiet entry member, ite_self]
  rw [executions_append, none_added, List.append_nil]

/-- Every node has seen the passes so far, and those that are through the present one too. -/
structure Ran (run : GroupRun) (index : Graph.PassIndex) (through : List Text)
    (left : List Graph.PassIndex) : Prop where
  seen : ∃ done, Graph.passes run.group.repeats = done ++ index :: left ∧
    ∀ id, executions run.trace id =
      if id ∈ run.levels.flatten then if id ∈ through then done ++ [index] else done else []

/-- Between two passes. -/
structure RanThrough (run : GroupRun) : Prop where
  seen : ∃ done, Graph.passes run.group.repeats = done ++ run.left ∧
    ∀ id, executions run.trace id = if id ∈ run.levels.flatten then done else []

/-- How often the nodes of a group have been executed while nothing disturbs it. -/
def Counted (cancelled : Bool) (run : GroupRun) : Phase → Prop
  | .between => RanThrough run
  | .atLevel pass _ rest => ∃ earlier, run.levels = earlier ++ rest ∧
    Ran run pass.index earlier.flatten run.left
  | .pausing pass _ rest _ => ∃ earlier level, run.levels = earlier ++ level :: rest ∧
    Ran run pass.index earlier.flatten run.left
  | .running pass _ rest _ begun _ => ∃ earlier level, run.levels = earlier ++ level :: rest ∧
    Ran run pass.index (earlier.flatten ++ begun) run.left
  | .over => cancelled = false → ∀ id, executions run.trace id =
    if id ∈ run.levels.flatten then Graph.passes run.group.repeats else []

/-- What a run keeps of each of its groups. -/
structure Counting (graph : Graph) (cancelled : Bool) (run : GroupRun) : Prop where
  orderly : Orderly graph run
  counted : Calm run.trace → Counted cancelled run run.phase

end Executions

section Moves

variable {graph : Graph} {delayed : Bool} {shared shared' : Shared} {run run' : GroupRun}

theorem Ran.congr {index : Graph.PassIndex} {through through' : List Text}
    {left : List Graph.PassIndex} (ran : Ran run index through left)
    (same : ∀ id ∈ run.levels.flatten, id ∈ through ↔ id ∈ through') :
    Ran run index through' left := by
  obtain ⟨done, split, seen⟩ := ran.seen
  refine ⟨done, split, fun id => ?_⟩
  rw [seen]
  by_cases member : id ∈ run.levels.flatten
  · rw [if_pos member, if_pos member, if_congr (same id member) rfl rfl]
  · rw [if_neg member, if_neg member]

theorem enterPass_counted (counted : RanThrough run) :
    Counted shared.cancelled (enterPass shared run) (enterPass shared run).phase := by
  obtain ⟨done, split, seen⟩ := counted.seen
  unfold enterPass
  split
  · rename_i none_left
    intro _ id
    show executions run.trace id = _
    rw [none_left, List.append_nil] at split
    rw [seen, split]
  · rename_i index left more
    split
    · rename_i cancelled
      intro running
      rw [cancelled] at running
      cases running
    · refine ⟨[], rfl, done, ?_, fun id => ?_⟩
      · exact more ▸ split
      · show executions run.trace id = _
        rw [seen, List.flatten_nil, if_neg List.not_mem_nil]

/-- While nothing is skipped, every node of a level is ready. -/
theorem Within.all_ready {levels : List (List Text)} {trace : List Entry} {number : Nat}
    {pass : Pass} {earlier : List (List Text)} {level ready begun : List Text}
    {finished : Text → Option Outcome}
    (within : Within graph levels trace number pass earlier level ready begun finished)
    (calm : Calm trace) : ∀ id ∈ level, id ∈ ready := by
  intro id here
  by_contra not_ready
  have skipped := calm _ (within.skipped id here not_ready)
  cases skipped

theorem enterLevel_counted {pass : Pass} {index : Nat} {level : List Text}
    {rest : List (List Text)} (orderly : Orderly graph run)
    (phase : run.phase = .atLevel pass index (level :: rest))
    (counted : Counted shared.cancelled run run.phase)
    (calm : Calm (enterLevel graph delayed shared run pass index level rest).2.trace) :
    Counted shared.cancelled (enterLevel graph delayed shared run pass index level rest).2
      (enterLevel graph delayed shared run pass index level rest).2.phase := by
  rw [phase] at counted
  obtain ⟨earlier, split, ran⟩ := counted
  have standing := orderly.standing
  rw [phase] at standing
  obtain ⟨earlier', split', within⟩ := standing
  obtain rfl : earlier' = earlier := List.append_cancel_right (split'.symm.trans split)
  unfold enterLevel at calm ⊢
  by_cases cancelled : shared.cancelled = true
  · rw [if_pos cancelled]
    intro running
    rw [cancelled] at running
    cases running
  · rw [if_neg cancelled] at calm ⊢
    rw [sortLevel_eq fun id here e into => orderly.layout.beyond split here into] at calm ⊢
    have nobody : level.filter (allClosed graph pass) = [] := by
      rw [List.eq_nil_iff_forall_not_mem]
      intro id skipped
      have disturbs := calm ⟨pass.number, id, .skipped⟩ (List.mem_append_left _
        (List.mem_append_right _ (List.mem_map_of_mem skipped)))
      cases disturbs
    have still : ∀ id, executions (run.trace ++
        (level.filter (allClosed graph pass)).map (⟨pass.number, ·, .skipped⟩) ++
        (level.filter fun id => !allClosed graph pass id).map (⟨pass.number, ·, .ready⟩)) id =
        executions run.trace id := by
      intro id
      rw [List.append_assoc]
      refine executions_quiet (fun entry member => ?_) run.trace id
      rcases List.mem_append.mp member with there | there <;>
      · obtain ⟨other, -, rfl⟩ := List.mem_map.mp there
        rfl
    obtain ⟨done, passes, seen⟩ := ran.seen
    have moved : ∀ id, executions (run.trace ++
        (level.filter (allClosed graph pass)).map (⟨pass.number, ·, .skipped⟩) ++
        (level.filter fun id => !allClosed graph pass id).map (⟨pass.number, ·, .ready⟩)) id =
        if id ∈ run.levels.flatten then
          if id ∈ earlier'.flatten then done ++ [pass.index] else done else [] :=
      fun id => (still id).trans (seen id)
    by_cases none_ready : (level.filter fun id => !allClosed graph pass id).isEmpty = true
    · have empty : level = [] := by
        rw [List.eq_nil_iff_forall_not_mem]
        intro id member
        by_cases closed : allClosed graph pass id = true
        · exact List.not_mem_nil (nobody ▸ List.mem_filter.mpr ⟨member, closed⟩)
        · rw [Bool.not_eq_true] at closed
          have ready : id ∈ level.filter fun id => !allClosed graph pass id :=
            List.mem_filter.mpr ⟨member, by rw [closed]; rfl⟩
          rw [List.isEmpty_iff.mp none_ready] at ready
          cases ready
      simp only [if_pos none_ready]
      refine ⟨earlier' ++ [level], by rw [split, List.append_assoc]; rfl, done, passes, ?_⟩
      rw [List.flatten_append, List.flatten_singleton, empty, List.append_nil]
      exact empty ▸ moved
    · simp only [if_neg none_ready]
      by_cases waits : 0 < index ∧ delayed = true
      · rw [if_pos waits]
        exact ⟨earlier', level, split, done, passes, moved⟩
      · rw [if_neg waits]
        refine ⟨earlier', level, split, done, passes, ?_⟩
        rw [List.append_nil]
        exact moved

theorem leaveLevel_counted {pass : Pass} {index : Nat} {rest : List (List Text)}
    {ready begun : List Text} {finished : Text → Option Outcome} {cancelled : Bool}
    (orderly : Orderly graph run)
    (phase : run.phase = .running pass index rest ready begun finished)
    (counted : Counted cancelled run run.phase)
    (all : (ready.all fun id => (finished id).isSome) = true)
    (calm : Calm (leaveLevel run pass index rest ready finished).trace) :
    Counted cancelled (leaveLevel run pass index rest ready finished)
      (leaveLevel run pass index rest ready finished).phase := by
  rw [phase] at counted
  obtain ⟨earlier, level, split, ran⟩ := counted
  have standing := orderly.standing
  rw [phase] at standing
  obtain ⟨earlier', level', split', within⟩ := standing
  obtain ⟨rfl, same⟩ := List.append_inj' (split'.symm.trans split) rfl
  obtain ⟨rfl, -⟩ := List.cons.inj same
  unfold leaveLevel at calm ⊢
  by_cases fails : (ready.any fun id => (finished id).any Outcome.fails) = true
  · rw [if_pos fails] at calm
    obtain ⟨id, member, failed⟩ := List.any_eq_true.mp fails
    obtain ⟨outcome, found, failed⟩ := (Option.any_eq_true _ _).mp failed
    obtain ⟨-, error, there⟩ := within.ended id outcome found
    have disturbs := calm _ there
    cases outcome with
    | done output => cases failed
    | continued => cases failed
    | failed => cases disturbs
  · rw [if_neg fails] at calm ⊢
    have absorbed := (@absorb_number pass finished ready).2
    refine ⟨earlier' ++ [level'], by rw [split', List.append_assoc]; rfl, ?_⟩
    rw [absorbed]
    have through : Ran run pass.index (earlier' ++ [level']).flatten run.left := ?_
    · exact ⟨through.seen⟩
    refine ran.congr fun id _ => ?_
    rw [List.flatten_append, List.flatten_singleton, List.mem_append, List.mem_append]
    refine or_congr_right ⟨fun started => within.inside (within.began id started).1, fun here => ?_⟩
    obtain ⟨outcome, found⟩ := Option.isSome_iff_exists.mp
      (List.all_eq_true.mp all id (within.all_ready calm id here))
    exact (within.ended id outcome found).1

theorem recordAll_cancelled (skipped : List Text) (shared : Shared) :
    (skipped.foldl (recordSkipped graph) shared).cancelled = shared.cancelled := by
  induction skipped generalizing shared with
  | nil => rfl
  | cons id rest hypothesis => exact hypothesis (recordSkipped graph shared id)

theorem finishNode_cancelled (id : Text) (result : Except NodeFailure NodeOutput) :
    (finishNode graph shared id result).1.cancelled = shared.cancelled := by
  unfold finishNode
  split
  · rfl
  · split <;> rfl

theorem moveGroup_cancelled {move : Move}
    (moved : moveGroup graph delayed shared run move = some (shared', run')) :
    shared'.cancelled = shared.cancelled := by
  cases move with
  | advance =>
    simp only [moveGroup, advance] at moved
    split at moved
    · cases moved
      rfl
    · cases moved
      rfl
    · have same : _ = shared' := congrArg Prod.fst (Option.some.inj moved)
      rw [← same, enterLevel]
      split
      · rfl
      · exact recordAll_cancelled _ shared
    · cases moved
      rfl
    · split at moved <;> cases moved
      rfl
    · cases moved
  | stop =>
    simp only [moveGroup] at moved
    split at moved
    · split at moved <;> cases moved
      rfl
    · cases moved
  | begins id =>
    simp only [moveGroup] at moved
    split at moved
    · split at moved <;> cases moved
      rfl
    · cases moved
  | finish id result =>
    simp only [moveGroup] at moved
    split at moved
    · split at moved <;> cases moved
      exact finishNode_cancelled id result
    · cases moved

theorem advance_counted (orderly : Orderly graph run)
    (counted : Calm run.trace → Counted shared.cancelled run run.phase)
    (moved : advance graph delayed shared run = some (shared', run'))
    (calm : Calm run'.trace) : Counted shared.cancelled run' run'.phase := by
  unfold advance at moved
  split at moved
  · rename_i phase
    cases moved
    have before : Calm run.trace := by
      unfold enterPass at calm
      split at calm
      · exact calm
      · split at calm <;> exact calm
    have here := counted before
    rw [phase] at here
    exact enterPass_counted here
  · rename_i pass index phase
    cases moved
    have here := counted calm
    rw [phase] at here
    obtain ⟨earlier, split, done, passes, seen⟩ := here
    rw [List.append_nil] at split
    refine ⟨done ++ [pass.index], ?_, fun id => ?_⟩
    · rw [List.append_assoc]
      exact passes
    · rw [← split] at seen
      refine (seen id).trans ?_
      by_cases member : id ∈ run.levels.flatten
      · rw [if_pos member, if_pos member, if_pos member]
      · rw [if_neg member, if_neg member]
  · rename_i pass index level rest phase
    have same : _ = run' := congrArg Prod.snd (Option.some.inj moved)
    rw [← same] at calm ⊢
    refine enterLevel_counted orderly phase (counted ?_) calm
    unfold enterLevel at calm
    split at calm
    · exact calm
    · simp only [List.append_assoc] at calm
      exact calm.before
  · rename_i phase
    cases moved
    have here := counted calm
    rw [phase] at here
    obtain ⟨earlier, level, split, ran⟩ := here
    refine ⟨earlier, level, split, ?_⟩
    rw [List.append_nil]
    exact ⟨ran.seen⟩
  · rename_i phase
    split at moved
    · rename_i all
      cases moved
      have before : Calm run.trace := by
        unfold leaveLevel at calm
        split at calm <;> exact calm
      exact leaveLevel_counted orderly phase (counted before) all calm
    · cases moved
  · cases moved

theorem moveGroup_counted {move : Move} (counting : Counting graph shared.cancelled run)
    (moved : moveGroup graph delayed shared run move = some (shared', run')) :
    Counting graph shared.cancelled run' := by
  refine ⟨moveGroup_orderly counting.orderly moved, fun calm => ?_⟩
  have counted := counting.counted
  have standing := counting.orderly.standing
  cases move with
  | advance => exact advance_counted counting.orderly counted moved calm
  | stop =>
    simp only [moveGroup] at moved
    split at moved
    · split at moved <;> cases moved
      rename_i cancelled
      intro running
      rw [cancelled] at running
      cases running
    · cases moved
  | begins id =>
    simp only [moveGroup] at moved
    split at moved
    · rename_i pass index rest ready begun finished phase
      split at moved <;> cases moved
      rename_i allowed
      have here := counted calm.before
      rw [phase] at here standing
      obtain ⟨earlier, level, split, done, passes, seen⟩ := here
      obtain ⟨earlier', level', split', within⟩ := standing
      obtain ⟨rfl, same⟩ := List.append_inj' (split'.symm.trans split) rfl
      obtain ⟨rfl, -⟩ := List.cons.inj same
      refine ⟨earlier', level', split, done, passes, fun other => ?_⟩
      show executions (run.trace ++ _) other = _
      rw [executions_append, seen]
      by_cases same : other = id
      · subst same
        have listed : other ∈ run.levels.flatten := by
          rw [split, List.flatten_append, List.flatten_cons]
          exact List.mem_append_right _ (List.mem_append_left _ (within.inside allowed.1))
        have fresh : other ∉ earlier'.flatten ++ begun := by
          rw [List.mem_append]
          rintro (before | started)
          · exact counting.orderly.layout.apart split before (within.inside allowed.1)
          · exact allowed.2 started
        rw [if_pos listed, if_neg fresh]
        show done ++ executions [⟨pass.number, other, .executed pass.index _⟩] other =
          if other ∈ run.levels.flatten then
            if other ∈ earlier'.flatten ++ other :: begun then done ++ [pass.index] else done
          else []
        rw [if_pos listed, if_pos (List.mem_append_right _ List.mem_cons_self), executions,
          List.filterMap_cons, if_pos rfl]
        rfl
      · have nothing : executions [⟨pass.number, id, .executed pass.index
            (Dataset.union (inputs graph pass id))⟩] other = [] := by
          rw [executions, List.filterMap_cons, if_neg fun back => same back.symm]
          rfl
        have member : other ∈ earlier'.flatten ++ begun ↔
            other ∈ earlier'.flatten ++ id :: begun := by
          rw [List.mem_append, List.mem_append, List.mem_cons, or_iff_right same]
        rw [nothing, List.append_nil, if_congr member rfl rfl]
    · cases moved
  | finish id result =>
    simp only [moveGroup] at moved
    split at moved
    · rename_i phase
      split at moved <;> cases moved
      have here := counted calm.before
      rw [phase] at here
      obtain ⟨earlier, level, split, done, passes, seen⟩ := here
      refine ⟨earlier, level, split, done, passes, fun other => ?_⟩
      refine Eq.trans (executions_quiet (fun entry member => ?_) run.trace other) (seen other)
      rw [List.mem_singleton.mp member]
      rfl
    · cases moved

end Moves

section Runs

variable {graph : Graph} {delayed : Bool}

theorem Counting.stopped {cancelled : Bool} {group : GroupRun}
    (counting : Counting graph cancelled group) : Counting graph true group := by
  refine ⟨counting.orderly, fun calm => ?_⟩
  have counted := counting.counted calm
  cases phase : group.phase with
  | «over» => exact fun running => by cases running
  | _ =>
    rw [phase] at counted
    exact counted

theorem step_counting {run next : Run} {action : Action}
    (counting : ∀ group ∈ run.groups, Counting graph run.shared.cancelled group)
    (stepped : step graph delayed run action = some next) :
    ∀ group ∈ next.groups, Counting graph next.shared.cancelled group := by
  rcases step_cases stepped with ⟨rfl, rfl⟩ | ⟨i, move, before, group, after, group', shared, rfl,
    split, place, moved, rfl⟩
  · exact fun group member => (counting group member).stopped
  · have same := moveGroup_cancelled moved
    rw [split] at counting
    intro other member
    show Counting graph shared.cancelled other
    rw [same]
    rcases List.mem_append.mp member with there | there
    · exact counting other (List.mem_append_left _ there)
    · rcases List.mem_cons.mp there with rfl | there
      · exact moveGroup_counted (counting group (List.mem_append_right _ List.mem_cons_self)) moved
      · exact counting other (List.mem_append_right _ (List.mem_cons_of_mem _ there))

/-- In all of a run, how often a node is executed. -/
def Run.timesExecuted (run : Run) (id : Text) : Nat :=
  (run.groups.map fun group => (executions group.trace id).length).sum

def countProduct (repeats : List (Text × UInt32)) : Nat := (repeats.map fun r => r.2.toNat).prod

/-- The groups that hold a node. -/
def Run.holding (run : Run) (id : Text) : List GroupRun :=
  run.groups.filter fun group => id ∈ group.group.nodes

/-- No node is skipped, fails or is stopped, and neither is the run. -/
def Undisturbed (run : Run) : Prop :=
  run.shared.cancelled = false ∧ ∀ group ∈ run.groups, Calm group.trace

instance (trace : List Entry) : Decidable (Calm trace) :=
  inferInstanceAs (Decidable (∀ entry ∈ trace, entry.what.disturbs = false))

instance (run : Run) : Decidable (Undisturbed run) := inferInstanceAs (Decidable (_ ∧ _))

/-- One Repeat of a group lies strictly upstream of a node. -/
def Before (graph : Graph) (id : Text) (r : Text × UInt32) : Prop :=
  r.1 ∈ graph.ancestors [id] ∧ r.1 ≠ id

instance (graph : Graph) (id : Text) (r : Text × UInt32) : Decidable (Before graph id r) :=
  inferInstanceAs (Decidable (_ ∧ _))

/-- The Repeat nodes strictly upstream of a node. -/
def strictlyUpstream (graph : Graph) (id : Text) : List (Text × UInt32) :=
  (graph.upstreamRepeats id).filter fun r => Before graph id r

theorem countProduct_filter (p : Text × UInt32 → Prop) [DecidablePred p]
    (repeats : List (Text × UInt32)) :
    countProduct repeats = countProduct (repeats.filter fun r => p r) *
      countProduct (repeats.filter fun r => ¬p r) := by
  induction repeats with
  | nil => rfl
  | cons r rest hypothesis =>
    have first : countProduct (r :: rest) = r.2.toNat * countProduct rest := List.prod_cons
    by_cases holds : p r
    · rw [List.filter_cons_of_pos (by simpa using holds),
        List.filter_cons_of_neg (by simpa using holds), first, hypothesis, ← Nat.mul_assoc]
      rfl
    · rw [List.filter_cons_of_neg (by simpa using holds),
        List.filter_cons_of_pos (by simpa using holds), first, hypothesis, Nat.mul_left_comm]
      rfl

theorem countProduct_pos {repeats : List (Text × UInt32)} (positive : ∀ r ∈ repeats, r.2 ≠ 0) :
    0 < countProduct repeats := by
  refine List.prod_pos fun count member => ?_
  obtain ⟨r, there, rfl⟩ := List.mem_map.mp member
  rw [Nat.pos_iff_ne_zero]
  intro none
  exact positive r there (UInt32.toNat_inj.mp none)

/-- A group has all Repeats that lie upstream of its nodes. -/
theorem filter_before {group : Graph.Group} (planned : Graph.Planned graph group) {id : Text}
    (member : id ∈ group.nodes) :
    group.repeats.filter (fun r => Before graph id r) = strictlyUpstream graph id := by
  obtain ⟨target, wanted, path⟩ := (planned.nodes id).mp member
  have whole : ∀ other, other ∈ graph.ancestors [id] → other ∈ graph.ancestors [target] := by
    intro other above
    obtain ⟨last, same, first⟩ := Graph.mem_ancestors.mp above
    rw [List.mem_singleton.mp same] at first
    exact Graph.mem_ancestors.mpr ⟨target, List.mem_singleton.mpr rfl, first.trans path⟩
  rw [← (planned.targets target wanted).2, strictlyUpstream, Graph.upstreamRepeats,
    Graph.upstreamRepeats]
  induction graph.nodes with
  | nil => rfl
  | cons node rest hypothesis =>
    rw [List.filterMap_cons, List.filterMap_cons]
    cases node.config with
    | «repeat» config =>
      simp only
      by_cases above : node.id ∈ graph.ancestors [id]
      · rw [if_pos above, if_pos (whole _ above)]
        by_cases itself : node.id = id
        · have out : ¬Before graph id (node.id, config.count) := fun before => before.2 itself
          simp only
          rw [List.filter_cons_of_neg (by simpa using out), List.filter_cons_of_neg
            (by simpa using out), hypothesis]
        · have inside : Before graph id (node.id, config.count) := ⟨above, itself⟩
          simp only
          rw [List.filter_cons_of_pos (by simpa using inside),
            List.filter_cons_of_pos (by simpa using inside), hypothesis]
      · rw [if_neg above]
        have out : ¬Before graph id (node.id, config.count) := fun before => above before.1
        split
        · exact hypothesis
        · rename_i r here
          split at here
          · cases here
            rw [List.filter_cons_of_neg (by simpa using out), hypothesis]
          · cases here
    | _ => exact hypothesis

/-- A sum of numbers that are each a multiple is that once exactly if there is one, and it is
just that. -/
theorem sum_eq_iff {α : Type} {list : List α} {times : α → Nat} {base : Nat} (positive : 0 < base)
    (each : ∀ a ∈ list, 0 < times a) (filled : list ≠ []) :
    (list.map fun a => base * times a).sum = base ↔ ∃ a, list = [a] ∧ times a = 1 := by
  constructor
  · intro once
    cases list with
    | nil => exact absurd rfl filled
    | cons a rest =>
      have first := each a List.mem_cons_self
      have at_least : base ≤ base * times a := Nat.le_mul_of_pos_right base first
      rw [List.map_cons, List.sum_cons] at once
      cases rest with
      | nil =>
        refine ⟨a, rfl, ?_⟩
        rw [List.map_nil, List.sum_nil, Nat.add_zero] at once
        exact Nat.eq_of_mul_eq_mul_left positive (once.trans (Nat.mul_one base).symm)
      | cons b others =>
        have second := each b (List.mem_cons_of_mem _ List.mem_cons_self)
        have more : 0 < base * times b := Nat.mul_pos positive second
        rw [List.map_cons, List.sum_cons] at once
        omega
  · rintro ⟨a, rfl, same⟩
    rw [List.map_singleton, List.sum_singleton, same, Nat.mul_one]

theorem execute_counting {nodes : List WorkflowNode} {edges : List WorkflowEdge}
    {targets : List Text} {actions : List Action} {run : Run}
    (ran : execute nodes edges targets delayed actions = some (graph, run)) :
    ∀ group ∈ run.groups, Counting graph run.shared.cancelled group := by
  obtain ⟨start, prepared, reaches⟩ := execute_ok ran
  refine @Machine.run_keeps _ _ _
    (fun run : Run => ∀ group ∈ run.groups, Counting graph run.shared.cancelled group)
    (fun run action next counting stepped => step_counting counting stepped) _ _ _ ?_ reaches
  intro group member
  obtain ⟨source, levels, planned, computed, rfl⟩ := prepare_groups prepared member
  refine ⟨newRun_orderly planned computed, fun _ => ⟨[], rfl, fun id => ?_⟩⟩
  rw [ite_self]
  rfl

/-- The groups of a run are those of the plan of its targets, and their levels hold the nodes
of the group. -/
theorem execute_groups {nodes : List WorkflowNode} {edges : List WorkflowEdge}
    {targets : List Text} {actions : List Action} {run : Run}
    (ran : execute nodes edges targets delayed actions = some (graph, run)) :
    Graph.PlanOf graph (run.groups.map GroupRun.group) targets ∧
      ∀ group ∈ run.groups, ∀ id, id ∈ group.levels.flatten ↔ id ∈ group.group.nodes := by
  obtain ⟨start, prepared, reaches⟩ := execute_ok ran
  obtain ⟨-, groups, planned, starts, -⟩ := prepare_ok prepared
  have plan := (Graph.plan_ok planned).1
  have same : run.groups.map GroupRun.group = groups := by
    have started : start.groups.map GroupRun.group = groups := by
      clear plan planned
      generalize start.groups = runs at starts
      induction starts with
      | nil => rfl
      | cons first _ hypothesis =>
        obtain ⟨levels, -, rfl⟩ := first
        rw [List.map_cons, hypothesis]
        rfl
    refine @Machine.run_keeps _ _ _ (fun run : Run => run.groups.map GroupRun.group = groups)
      (fun run action next kept stepped => ?_) _ _ _ started reaches
    rcases step_cases stepped with ⟨rfl, rfl⟩ | ⟨i, move, before, group, after, group', shared,
      rfl, split, place, moved, rfl⟩
    · exact kept
    · rw [split] at kept
      rw [← kept, List.map_append, List.map_append, List.map_cons, List.map_cons,
        (moveGroup_fixed moved).1]
  refine ⟨same ▸ plan, ?_⟩
  refine @groups_kept _ _
    (fun group => ∀ id, id ∈ group.levels.flatten ↔ id ∈ group.group.nodes) (fun _ _ _ _ _ kept moved => ?_)
    _ _ _ (fun group member => ?_) reaches
  · rw [(moveGroup_fixed moved).1, (moveGroup_fixed moved).2]
    exact kept
  · obtain ⟨source, levels, planned, computed, rfl⟩ := prepare_groups prepared member
    intro id
    show id ∈ levels.flatten ↔ id ∈ source.nodes
    rw [(layout_of_levels planned.closed computed).2, Graph.mem_members, and_iff_right_iff_imp]
    intro there
    obtain ⟨target, wanted, path⟩ := (planned.nodes id).mp there
    rcases ReflTransGen.cases_head path with rfl | ⟨next, ⟨e, edge, rfl, rfl⟩, -⟩
    · exact (planned.targets _ wanted).1
    · exact (graph.joined e edge).1

/-- In a run to the end that nothing disturbs, a node is executed in each pass of each group
that holds it: a group sees every combination of the iterations of its Repeat nodes once, the
first Repeat being the outermost loop. So a node runs as often as the product of the Repeats
strictly upstream of it exactly if one group holds it, and the others of that group count one. -/
theorem executed_in_passes {nodes : List WorkflowNode} {edges : List WorkflowEdge}
    {targets : List Text} {actions : List Action} {run : Run}
    (ran : execute nodes edges targets delayed actions = some (graph, run))
    (ended : run.isOver = true) (undisturbed : Undisturbed run) :
    Graph.PlanOf graph (run.groups.map GroupRun.group) targets ∧
    (∀ group ∈ run.groups, (∀ id, executions group.trace id =
        if id ∈ group.group.nodes then Graph.passes group.group.repeats else []) ∧
      (∀ index, index ∈ Graph.passes group.group.repeats ↔
        List.Forall₂ OneOf group.group.repeats index) ∧
      ((Graph.passes group.group.repeats).map iterations).Pairwise (List.Lex (· < ·))) ∧
    ∀ id, run.timesExecuted id =
        ((run.holding id).map fun group => countProduct group.group.repeats).sum ∧
      (run.holding id ≠ [] →
        (run.timesExecuted id = countProduct (strictlyUpstream graph id) ↔
          ∃ group, run.holding id = [group] ∧
            countProduct (group.group.repeats.filter fun r => ¬Before graph id r) = 1)) := by
  obtain ⟨plan, holds⟩ := execute_groups ran
  have counting := execute_counting ran
  have seen : ∀ group ∈ run.groups, ∀ id, executions group.trace id =
      if id ∈ group.group.nodes then Graph.passes group.group.repeats else [] := by
    intro group member id
    have counted := (counting group member).counted (undisturbed.2 group member)
    have is_over := List.all_eq_true.mp ended group member
    unfold GroupRun.isOver at is_over
    split at is_over
    · rename_i phase
      rw [phase] at counted
      rw [counted undisturbed.1 id, if_congr (holds group member id) rfl rfl]
    · cases is_over
  have times : ∀ id, run.timesExecuted id =
      ((run.holding id).map fun group => countProduct group.group.repeats).sum := by
    intro id
    have each : ∀ groups : List GroupRun, (∀ group ∈ groups, executions group.trace id =
        if id ∈ group.group.nodes then Graph.passes group.group.repeats else []) →
        (groups.map fun group => (executions group.trace id).length).sum =
          ((groups.filter fun group => id ∈ group.group.nodes).map fun group =>
            countProduct group.group.repeats).sum := by
      intro groups
      induction groups with
      | nil => exact fun _ => rfl
      | cons group rest hypothesis =>
        intro all
        have rest_all := hypothesis fun other there => all other (List.mem_cons_of_mem _ there)
        rw [List.map_cons, List.sum_cons, rest_all, all group List.mem_cons_self]
        by_cases member : id ∈ group.group.nodes
        · rw [if_pos member, List.filter_cons_of_pos (by simpa using member), List.map_cons,
            List.sum_cons, passes_length]
          rfl
        · rw [if_neg member, List.filter_cons_of_neg (by simpa using member), List.length_nil,
            Nat.zero_add]
    exact each run.groups fun group member => seen group member id
  refine ⟨plan, fun group member => ⟨seen group member, fun index => mem_passes,
    passes_lex _⟩, fun id => ⟨times id, fun held => ?_⟩⟩
  have planned : ∀ group ∈ run.holding id, Graph.Planned graph group.group ∧
      id ∈ group.group.nodes := by
    intro group member
    obtain ⟨there, inside⟩ := List.mem_filter.mp member
    exact ⟨plan.planned _ (List.mem_map_of_mem there), of_decide_eq_true inside⟩
  have products : (run.holding id).map (fun group => countProduct group.group.repeats) =
      (run.holding id).map fun group => countProduct (strictlyUpstream graph id) *
        countProduct (group.group.repeats.filter fun r => ¬Before graph id r) := by
    refine List.map_congr_left fun group member => ?_
    obtain ⟨well, inside⟩ := planned group member
    rw [countProduct_filter (Before graph id), filter_before well inside]
  obtain ⟨first, is_first⟩ := List.exists_mem_of_ne_nil _ held
  have base : 0 < countProduct (strictlyUpstream graph id) := by
    obtain ⟨well, inside⟩ := planned first is_first
    rw [← filter_before well inside]
    exact countProduct_pos fun r member => well.positive r (List.mem_of_mem_filter member)
  rw [times id, products]
  exact sum_eq_iff base (fun group member => countProduct_pos fun r there =>
    (planned group member).1.positive r (List.mem_of_mem_filter there)) held

/-- A Repeat and a query that feed one target. -/
def beside : List WorkflowNode × List WorkflowEdge :=
  ([⟨"r".toList, [], false, .repeat ⟨2⟩⟩, ⟨"q".toList, [], false, .query ⟨none, [], false⟩⟩,
      ⟨"t".toList, [], false, .filter⟩],
    [⟨"1".toList, "r".toList, "t".toList, none⟩, ⟨"2".toList, "q".toList, "t".toList, none⟩])

def runsWell (id : Text) : List Action :=
  [.group 0 (.begins id), .group 0 (.finish id (.ok ⟨[(none, Dataset.empty)], none, none, false⟩))]

def besidePass : List Action :=
  [.group 0 .advance, .group 0 .advance] ++ runsWell "r".toList ++ runsWell "q".toList ++
    [.group 0 .advance, .group 0 .advance] ++ runsWell "t".toList ++
    [.group 0 .advance, .group 0 .advance]

def besideRun : List Action := besidePass ++ besidePass ++ [.group 0 .advance]

theorem beside_executed :
    ∃ graph run, execute beside.1 beside.2 ["t".toList] false besideRun = some (graph, run) ∧
      run.isOver = true ∧ Undisturbed run ∧
      run.timesExecuted "t".toList =
        ((run.holding "t".toList).map fun group => countProduct group.group.repeats).sum := by
  have checked : (execute beside.1 beside.2 ["t".toList] false besideRun).any (fun r =>
      decide (r.2.isOver = true ∧ Undisturbed r.2)) = true := by decide +kernel
  obtain ⟨⟨graph, run⟩, ran, holds⟩ := (Option.any_eq_true _ _).mp checked
  obtain ⟨ended, undisturbed⟩ := of_decide_eq_true holds
  exact ⟨graph, run, ran, ended, undisturbed,
    ((executed_in_passes ran ended undisturbed).2.2 "t".toList).1⟩

/-- The query beside the Repeat, which has no Repeat upstream, is executed twice as well. -/
theorem beside_twice :
    ∃ graph run, execute beside.1 beside.2 ["t".toList] false besideRun = some (graph, run) ∧
      run.isOver = true ∧ Undisturbed run ∧ strictlyUpstream graph "q".toList = [] ∧
      run.timesExecuted "q".toList = 2 := by
  have checked : (execute beside.1 beside.2 ["t".toList] false besideRun).any (fun r =>
      decide (r.2.isOver = true ∧ Undisturbed r.2 ∧ strictlyUpstream r.1 "q".toList = [] ∧
        r.2.timesExecuted "q".toList = 2)) = true := by decide +kernel
  obtain ⟨⟨graph, run⟩, ran, holds⟩ := (Option.any_eq_true _ _).mp checked
  exact ⟨graph, run, ran, of_decide_eq_true holds⟩

end Runs

end DbFree.Workflows
