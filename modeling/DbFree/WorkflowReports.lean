import DbFree.WorkflowDiscipline

/- What the report of a run says of the nodes that failed. -/
namespace DbFree.Workflows

section Failures

/-- A node came to its end with an error. -/
def Happening.errs : Happening → Bool
  | .finished _ error => error.isSome
  | _ => false

def failedIn (trace : List Entry) (id : Text) : Bool :=
  trace.any fun entry => entry.id = id ∧ entry.what.errs = true

/-- A node failed in some pass of some group. -/
def Run.hasFailed (run : Run) (id : Text) : Bool :=
  run.groups.any fun group => failedIn group.trace id

/-- A failed run has a node in state Error with its message, and a node that failed is not
reported as anything better. -/
def NamesFailure (nodes : List WorkflowNode) (run : Run) : Prop :=
  ((report nodes run).status = .failed →
    ∃ result ∈ (report nodes run).nodes, result.state = .error ∧ result.error ≠ none) ∧
  ∀ result ∈ (report nodes run).nodes, run.hasFailed result.nodeId = true →
    result.state ≠ .success ∧ result.state ≠ .skipped ∧ result.state ≠ .running

instance (nodes : List WorkflowNode) (run : Run) : Decidable (NamesFailure nodes run) :=
  inferInstanceAs (Decidable (_ ∧ _))

/-- No node that failed is skipped, in a group that comes to its level. -/
def SkipsNoFailure (graph : Graph) (run : Run) : Phase → Prop
  | .atLevel pass _ (level :: _) =>
    ∀ id ∈ level, allClosed graph pass id = true → run.hasFailed id = false
  | _ => True

/-- A node that failed fails again, in every later pass and every other group. -/
def FailsAgain (graph : Graph) (run : Run) : Action → Prop
  | .cancel => True
  | .group i .advance =>
    match run.groups[i]? with
    | some group => SkipsNoFailure graph run group.phase
    | none => True
  | .group _ .stop => True
  | .group _ (.begins _) => True
  | .group _ (.finish id result) =>
    run.hasFailed id = true → (errorOf result).isSome = true

instance (graph : Graph) (run : Run) : (phase : Phase) →
    Decidable (SkipsNoFailure graph run phase)
  | .between => isTrue trivial
  | .atLevel _ _ [] => isTrue trivial
  | .atLevel pass _ (level :: _) => inferInstanceAs (Decidable (∀ id ∈ level,
    allClosed graph pass id = true → run.hasFailed id = false))
  | .pausing _ _ _ _ => isTrue trivial
  | .running _ _ _ _ _ _ => isTrue trivial
  | .over => isTrue trivial

instance (graph : Graph) (run : Run) : (action : Action) →
    Decidable (FailsAgain graph run action)
  | .cancel => isTrue trivial
  | .group i .advance =>
    match found : run.groups[i]? with
    | some group =>
      decidable_of_iff (SkipsNoFailure graph run group.phase) (by rw [FailsAgain, found])
    | none => isTrue (by rw [FailsAgain, found]; trivial)
  | .group _ .stop => isTrue trivial
  | .group _ (.begins _) => isTrue trivial
  | .group _ (.finish id result) => inferInstanceAs (Decidable (run.hasFailed id = true →
    (errorOf result).isSome = true))

end Failures

section Kept

variable {graph : Graph} {delayed : Bool}

/-- The records are about their nodes, that of a node that failed is its error, and the run
knows of an error only where a node failed. -/
structure Remembers (graph : Graph) (shared : Shared) (failed : Text → Bool) : Prop where
  named : ∀ id result, shared.results id = some result → result.nodeId = id
  kept : ∀ id, failed id = true → id ∈ Graph.allIds graph.nodes ∧
    ∃ result, shared.results id = some result ∧ result.state = .error ∧ result.error ≠ none
  errors : shared.errors = true → ∃ id, failed id = true

/-- A record is of its node, and of a node that failed it is the error. -/
theorem Remembers.record {shared : Shared} {failed failed' : Text → Bool} {id : Text}
    {state : NodeRunState} {error : Option Text} (remembers : Remembers graph shared failed)
    (same : ∀ other, other ≠ id → failed' other = failed other)
    (fine : failed' id = true → id ∈ Graph.allIds graph.nodes ∧ state = .error ∧ error ≠ none)
    (errors : Bool) (known : errors = true → ∃ other, failed' other = true) (rows : Option Nat)
    (filePath : Option Text) :
    Remembers graph (record graph { shared with errors := errors } id state rows error filePath)
      failed' := by
  refine ⟨?_, ?_, known⟩
  · intro other result found
    by_cases equal : other = id
    · subst equal
      simp only [Workflows.record, Function.update_self, Option.some.injEq] at found
      exact found ▸ rfl
    · simp only [Workflows.record, Function.update_of_ne equal] at found
      exact remembers.named other result found
  · intro other failure
    by_cases equal : other = id
    · subst equal
      obtain ⟨member, state_error, message⟩ := fine failure
      refine ⟨member, _, Function.update_self _ _ _, state_error, message⟩
    · rw [same other equal] at failure
      obtain ⟨member, result, found, error⟩ := remembers.kept other failure
      refine ⟨member, result, ?_, error⟩
      simp only [Workflows.record, Function.update_of_ne equal]
      exact found

theorem Remembers.skip {shared : Shared} {failed : Text → Bool} {skipped : List Text}
    (remembers : Remembers graph shared failed) (fine : ∀ id ∈ skipped, failed id = false) :
    Remembers graph (skipped.foldl (recordSkipped graph) shared) failed := by
  induction skipped generalizing shared with
  | nil => exact remembers
  | cons id rest hypothesis =>
    refine hypothesis (remembers.record (fun _ _ => rfl) (fun failure => ?_) shared.errors
      remembers.errors none none) fun other member => fine other (List.mem_cons_of_mem _ member)
    rw [fine id List.mem_cons_self] at failure
    cases failure

theorem failedIn_append (trace added : List Entry) (id : Text) :
    failedIn (trace ++ added) id = (failedIn trace id || failedIn added id) := List.any_append

theorem failedIn_quiet {added : List Entry} (quiet : ∀ entry ∈ added, entry.what.errs = false)
    (trace : List Entry) (id : Text) : failedIn (trace ++ added) id = failedIn trace id := by
  rw [failedIn_append, Bool.or_eq_left_iff_imp]
  intro failure
  obtain ⟨entry, member, holds⟩ := List.any_eq_true.mp failure
  rw [quiet entry member] at holds
  cases (of_decide_eq_true holds).2

/-- What a move of a group does to the records, and to the nodes that failed. -/
theorem moveGroup_cases {shared shared' : Shared} {group group' : GroupRun} {move : Move}
    (orderly : Orderly graph group)
    (moved : moveGroup graph delayed shared group move = some (shared', group')) :
    (shared' = shared ∧ ∀ id, failedIn group'.trace id = failedIn group.trace id) ∨
    (∃ pass index level rest, move = .advance ∧
      group.phase = .atLevel pass index (level :: rest) ∧
      shared' = (level.filter (allClosed graph pass)).foldl (recordSkipped graph) shared ∧
      ∀ id, failedIn group'.trace id = failedIn group.trace id) ∨
    ∃ id result, move = .finish id result ∧ id ∈ group.levels.flatten ∧
      shared' = (finishNode graph shared id result).1 ∧ ∀ other, failedIn group'.trace other =
        (failedIn group.trace other || decide (id = other) && (errorOf result).isSome) := by
  have standing := orderly.standing
  cases move with
  | advance =>
    simp only [moveGroup, advance] at moved
    split at moved
    · cases moved
      refine .inl ⟨rfl, fun id => ?_⟩
      rw [enterPass]
      split
      · rfl
      · split <;> rfl
    · cases moved
      exact .inl ⟨rfl, fun id => rfl⟩
    · rename_i pass index level rest phase
      rw [phase] at standing
      obtain ⟨earlier, split, within⟩ := standing
      rw [enterLevel, sortLevel_eq fun id here e into => orderly.layout.beyond split here into]
        at moved
      split at moved
      · cases moved
        exact .inl ⟨rfl, fun id => rfl⟩
      · cases moved
        refine .inr (.inl ⟨pass, index, level, rest, rfl, phase, rfl, fun id => ?_⟩)
        rw [List.append_assoc]
        refine failedIn_quiet (fun entry member => ?_) group.trace id
        obtain ⟨-, ⟨what, -⟩ | ⟨what, -⟩⟩ := mem_marks.mp member <;> rw [what] <;> rfl
    · cases moved
      exact .inl ⟨rfl, fun id => rfl⟩
    · split at moved
      · cases moved
        refine .inl ⟨rfl, fun id => ?_⟩
        rw [leaveLevel]
        split <;> rfl
      · cases moved
    · cases moved
  | stop =>
    simp only [moveGroup] at moved
    split at moved
    · split at moved <;> cases moved
      exact .inl ⟨rfl, fun id => rfl⟩
    · cases moved
  | begins id =>
    simp only [moveGroup] at moved
    split at moved
    · split at moved <;> cases moved
      refine .inl ⟨rfl, fun other => failedIn_quiet (fun entry member => ?_) group.trace other⟩
      rw [List.mem_singleton.mp member]
      rfl
    · cases moved
  | finish id result =>
    simp only [moveGroup] at moved
    split at moved
    · rename_i phase
      split at moved <;> cases moved
      rename_i allowed
      rw [phase] at standing
      obtain ⟨earlier, level, split, within⟩ := standing
      refine .inr (.inr ⟨id, result, rfl, ?_, rfl, fun other => ?_⟩)
      · rw [split, List.flatten_append, List.flatten_cons]
        exact List.mem_append_right _ (List.mem_append_left _
          (within.inside (within.began id allowed.1).1))
      · rw [failedIn_append]
        congr 1
        rw [failedIn, List.any_cons, List.any_nil, Bool.or_false, Bool.decide_and]
        congr 1
        exact Bool.decide_coe _
    · cases moved

/-- How a node comes out is recorded, and an error of it is remembered. -/
theorem Remembers.finish {shared : Shared} {failed : Text → Bool} {id : Text}
    {result : Except NodeFailure NodeOutput} (remembers : Remembers graph shared failed)
    (there : id ∈ Graph.allIds graph.nodes)
    (again : failed id = true → (errorOf result).isSome = true) :
    Remembers graph (finishNode graph shared id result).1 fun other =>
      failed other || decide (id = other) && (errorOf result).isSome := by
  obtain ⟨node, found, same⟩ : ∃ node, graph.node id = some node ∧ node.id = id := by
    obtain ⟨node, member, same⟩ := List.mem_map.mp there
    cases found : graph.node id with
    | none => exact absurd (decide_eq_true same) (List.find?_eq_none.mp found node member)
    | some first =>
      have fits := List.find?_some found
      exact ⟨first, rfl, of_decide_eq_true fits⟩
  have elsewhere : ∀ (quiet : Bool) other, other ≠ id →
      (failed other || decide (id = other) && quiet) = failed other := by
    intro quiet other apart
    rw [decide_eq_false apart.symm, Bool.false_and, Bool.or_false]
  have known : ∀ quiet : Bool, shared.errors = true →
      ∃ other, (failed other || decide (id = other) && quiet) = true := by
    intro quiet errors
    obtain ⟨other, failure⟩ := remembers.errors errors
    exact ⟨other, by rw [failure, Bool.true_or]⟩
  cases result with
  | ok output =>
    simp only [finishNode, found]
    refine remembers.record (elsewhere false) (fun failure => ?_) shared.errors
      (known _) output.rows output.filePath
    have old : failed id = true := by
      rwa [Bool.and_false, Bool.or_false] at failure
    cases again old
  | error failure =>
    simp only [finishNode, found, finishFailed, same]
    cases stopped : failure.stopped with
    | true =>
      have quiet : errorOf (Except.error failure : Except NodeFailure NodeOutput) = none :=
        if_pos stopped
      rw [quiet] at again ⊢
      refine remembers.record (elsewhere _) (fun failure => ?_) _
        (fun errors => known _ ?_) _ _
      · rw [Option.isSome_none, Bool.and_false, Bool.or_false] at failure
        cases again failure
      · rwa [Bool.not_true, Bool.or_false] at errors
    | false =>
      have loud : errorOf (Except.error failure : Except NodeFailure NodeOutput) =
          some failure.message := if_neg (by rw [stopped]; exact Bool.false_ne_true)
      rw [loud]
      refine remembers.record (elsewhere _) (fun _ => ⟨there, rfl, Option.some_ne_none _⟩) _
        (fun _ => ⟨id, ?_⟩) _ _
      rw [decide_eq_true rfl, Option.isSome_some, Bool.and_self, Bool.or_true]

end Kept

section Runs

variable {graph : Graph} {delayed : Bool}

/-- What a run keeps where the nodes that failed fail again. -/
structure Truthful (graph : Graph) (run : Run) : Prop where
  orderly : ∀ group ∈ run.groups, Orderly graph group ∧
    ∀ id ∈ group.levels.flatten, id ∈ Graph.allIds graph.nodes
  remembers : Remembers graph run.shared run.hasFailed

theorem hasFailed_split (before after : List GroupRun) (group : GroupRun) (shared : Shared)
    (id : Text) : (⟨shared, before ++ group :: after⟩ : Run).hasFailed id =
      ((⟨shared, before ++ after⟩ : Run).hasFailed id || failedIn group.trace id) := by
  rw [Run.hasFailed, Run.hasFailed, List.any_append, List.any_append, List.any_cons, Bool.or_assoc,
    Bool.or_comm (failedIn group.trace id)]

theorem step_truthful {run next : Run} {action : Action} (truthful : Truthful graph run)
    (again : FailsAgain graph run action)
    (stepped : step graph delayed run action = some next) : Truthful graph next := by
  rcases step_cases stepped with ⟨rfl, rfl⟩ | ⟨i, move, before, group, after, group', shared, rfl,
    split, place, moved, rfl⟩
  · exact ⟨truthful.orderly, truthful.remembers.named, truthful.remembers.kept,
      truthful.remembers.errors⟩
  · obtain ⟨orderly, inside⟩ := truthful.orderly group (by
      rw [split]
      exact List.mem_append_right _ List.mem_cons_self)
    have here : run.groups[i]? = some group := by
      rw [split, ← place, List.getElem?_append_right (Nat.le_refl _), Nat.sub_self]
      rfl
    have whole : ∀ id, run.hasFailed id =
        ((⟨shared, before ++ after⟩ : Run).hasFailed id || failedIn group.trace id) := by
      intro id
      rw [← hasFailed_split, Run.hasFailed, Run.hasFailed, split]
    constructor
    · intro other member
      rcases List.mem_append.mp member with there | there
      · exact truthful.orderly other (by
          rw [split]
          exact List.mem_append_left _ there)
      · rcases List.mem_cons.mp there with rfl | there
        · exact ⟨moveGroup_orderly orderly moved, (moveGroup_fixed moved).2.symm ▸ inside⟩
        · exact truthful.orderly other (by
            rw [split]
            exact List.mem_append_right _ (List.mem_cons_of_mem _ there))
    · have old : Remembers graph run.shared fun id =>
          (⟨shared, before ++ after⟩ : Run).hasFailed id || failedIn group.trace id :=
        (funext whole : run.hasFailed = _) ▸ truthful.remembers
      have new : Run.hasFailed ⟨shared, before ++ group' :: after⟩ = fun id =>
          (⟨shared, before ++ after⟩ : Run).hasFailed id || failedIn group'.trace id :=
        funext fun id => hasFailed_split before after group' shared id
      rw [new]
      rcases moveGroup_cases orderly moved with ⟨rfl, same⟩ | ⟨pass, index, level, rest, rfl, phase,
        rfl, same⟩ | ⟨id, result, rfl, there, rfl, same⟩
      · simp only [same]
        exact old
      · simp only [same]
        refine old.skip fun id member => ?_
        have fine := again
        rw [FailsAgain, here] at fine
        simp only [phase] at fine
        rw [← whole]
        exact fine id (List.mem_of_mem_filter member) (List.mem_filter.mp member).2
      · simp only [same, ← Bool.or_assoc]
        refine old.finish (inside id there) fun failure => again ?_
        rwa [whole]

theorem truthful_named {nodes : List WorkflowNode} {run : Run} (document : graph.nodes = nodes)
    (truthful : Truthful graph run) : NamesFailure nodes run := by
  have remembers := truthful.remembers
  have reported : ∀ result ∈ (report nodes run).nodes,
      run.shared.results result.nodeId = some result := by
    intro result member
    obtain ⟨node, -, found⟩ := List.mem_filterMap.mp member
    rwa [remembers.named node.id result found]
  constructor
  · intro failed
    have errors : run.shared.errors = true := by
      simp only [report] at failed
      split at failed
      · cases failed
      · split at failed
        · assumption
        · cases failed
    obtain ⟨id, failure⟩ := remembers.errors errors
    obtain ⟨member, result, found, error, message⟩ := remembers.kept id failure
    obtain ⟨node, node_in, rfl⟩ := List.mem_map.mp member
    exact ⟨result, List.mem_filterMap.mpr ⟨node, document ▸ node_in, found⟩, error, message⟩
  · intro result member failure
    obtain ⟨-, recorded, found, error, -⟩ := remembers.kept _ failure
    rw [reported result member] at found
    cases found
    rw [error]
    decide

/-- A failed run names its failure, in every run in which a node that failed is neither skipped
nor comes out well or stopped afterwards, in another pass or another group. -/
theorem failures_named {nodes : List WorkflowNode} {edges : List WorkflowEdge}
    {targets : List Text} {start : Run} {actions : List Action}
    (prepared : prepare nodes edges targets = some (.ok (graph, start)))
    (again : Machine.Along (step graph delayed) (FailsAgain graph) start actions) :
    Machine.Throughout (step graph delayed) (NamesFailure nodes) start actions := by
  obtain ⟨made, -, -, -, fresh⟩ := prepare_ok prepared
  have quiet : ∀ id, start.hasFailed id = false := by
    intro id
    rw [← Bool.not_eq_true]
    intro failure
    obtain ⟨group, member, failed⟩ := List.any_eq_true.mp failure
    obtain ⟨source, levels, -, -, rfl⟩ := prepare_groups prepared member
    cases failed
  have begins : Truthful graph start := by
    refine ⟨fun group member => ?_, ?_, fun id failure => ?_, fun errors => ?_⟩
    · obtain ⟨source, levels, planned, computed, rfl⟩ := prepare_groups prepared member
      refine ⟨newRun_orderly planned computed, fun id there => ?_⟩
      exact (Graph.mem_members.mp
        (((layout_of_levels planned.closed computed).2 id).mp there)).1
    · intro id result found
      rw [fresh] at found
      cases found
    · rw [quiet] at failure
      cases failure
    · rw [fresh] at errors
      cases errors
  refine (Machine.throughout_of_kept (fun run action next truthful met stepped =>
    step_truthful truthful met stepped) begins again).mono fun run truthful => ?_
  exact truthful_named (Graph.new_ok made).1 truthful

/-- A query that continues on error, run twice by a Repeat. -/
def retried : List WorkflowNode × List WorkflowEdge :=
  ([⟨"r".toList, [], false, .repeat ⟨2⟩⟩,
      ⟨"q".toList, [], true, .query ⟨none, "SELECT 1 / \x7b\x7bi\x7d\x7d".toList, false⟩⟩],
    [⟨"1".toList, "r".toList, "q".toList, none⟩])

def onePass (result : Except NodeFailure NodeOutput) : List Action :=
  [.group 0 .advance, .group 0 .advance, .group 0 (.begins "r".toList),
    .group 0 (.finish "r".toList (.ok ⟨[(none, Dataset.empty)], some 1, none, false⟩)),
    .group 0 .advance, .group 0 .advance, .group 0 (.begins "q".toList),
    .group 0 (.finish "q".toList result), .group 0 .advance, .group 0 .advance]

def divisionFails : Except NodeFailure NodeOutput := .error ⟨"division by zero".toList, false⟩

def divisionWorks : Except NodeFailure NodeOutput :=
  .ok ⟨[(none, Dataset.empty)], some 1, none, false⟩

theorem retried_named :
    ∃ graph start, prepare retried.1 retried.2 ["q".toList] = some (.ok (graph, start)) ∧
      Machine.Throughout (step graph false) (NamesFailure retried.1) start
        (onePass divisionFails ++ onePass divisionFails) := by
  have checked : ((prepare retried.1 retried.2 ["q".toList]).bind Except.toOption).any (fun r =>
      decide (Machine.Along (step r.1 false) (FailsAgain r.1) r.2
        (onePass divisionFails ++ onePass divisionFails))) = true := by decide +kernel
  obtain ⟨⟨graph, start⟩, found, along⟩ := (Option.any_eq_true _ _).mp checked
  obtain ⟨made, prepared, ok⟩ := Option.bind_eq_some_iff.mp found
  cases made with
  | error problem => cases ok
  | ok both =>
    cases ok
    exact ⟨graph, start, prepared, failures_named prepared (of_decide_eq_true along)⟩

/-- The second pass of a Repeat takes the record of the error of the first: the run failed, and
all its nodes came out well. -/
theorem later_pass_hides :
    ∃ graph run, execute retried.1 retried.2 ["q".toList] false
        (onePass divisionFails ++ onePass divisionWorks ++ [.group 0 .advance]) =
        some (graph, run) ∧
      run.isOver = true ∧ (report retried.1 run).status = .failed ∧
      ¬NamesFailure retried.1 run := by
  have checked : (execute retried.1 retried.2 ["q".toList] false
      (onePass divisionFails ++ onePass divisionWorks ++ [.group 0 .advance])).any (fun r =>
        decide (r.2.isOver = true ∧ (report retried.1 r.2).status = .failed ∧
          ¬NamesFailure retried.1 r.2)) = true := by decide +kernel
  obtain ⟨⟨graph, run⟩, ran, holds⟩ := (Option.any_eq_true _ _).mp checked
  exact ⟨graph, run, ran, of_decide_eq_true holds⟩

end Runs

end DbFree.Workflows
