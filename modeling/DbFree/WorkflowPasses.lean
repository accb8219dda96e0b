import DbFree.History
import DbFree.WorkflowLevels
import DbFree.WorkflowRunner

/- What a pass does with each node follows from what came of the nodes that feed it, and is
done once they are settled. -/
namespace DbFree.Workflows

open Relation

section Fates

/-- What came of a node in a pass. -/
inductive Fate where
  | skipped
  | finished (outcome : Outcome)

def Happening.fate : Happening → Option Fate
  | .skipped => some .skipped
  | .ready => none
  | .executed _ _ => none
  | .finished outcome _ => some (.finished outcome)

def fateOf (trace : List Entry) (pass : Nat) (id : Text) : Option Fate :=
  trace.findSome? fun entry =>
    if entry.pass = pass ∧ entry.id = id then entry.what.fate else none

/-- The output of a node on one of its handles: the last that it named for it. -/
def Outcome.side : Outcome → Option SourceHandle → Option Dataset
  | .done output, handle => (output.outputs.reverse.find? fun o => o.1 = handle).map Prod.snd
  | .continued, handle => if handle = none then some Dataset.empty else none
  | .failed, _ => none

def Fate.side : Fate → Option SourceHandle → Option Dataset
  | .skipped, _ => none
  | .finished outcome, handle => outcome.side handle

/-- Neither a skipped node nor a closed gate passes anything on. -/
def Fate.closes : Fate → Bool
  | .skipped => true
  | .finished (.done output) => output.closed
  | .finished _ => false

variable (graph : Graph)

/-- What an edge carries. -/
def carried (fate : Text → Option Fate) (e : WorkflowEdge) : Option Dataset :=
  (fate e.source).bind fun f => f.side e.sourceHandle

/-- The source of an edge was skipped or is a closed gate, or the side of the Branch that the
edge leaves by is empty. -/
def Inactive (fate : Text → Option Fate) (e : WorkflowEdge) : Prop :=
  (∃ f, fate e.source = some f ∧ f.closes = true) ∨
    (isBranch graph e.source = true ∧ ∀ data, carried fate e = some data → data.rows = [])

/-- A node has edges into it, and nothing comes along any. -/
def Closed (fate : Text → Option Fate) (id : Text) : Prop :=
  graph.incoming id ≠ [] ∧ ∀ e ∈ graph.incoming id, Inactive graph fate e

open Classical in
/-- What comes in at a node. -/
noncomputable def arriving (fate : Text → Option Fate) (id : Text) : List Dataset :=
  ((graph.incoming id).filter fun e => ¬Inactive graph fate e).filterMap (carried fate)

end Fates

section Discipline

/-- A node was skipped in a pass, or executed to its end. -/
def Settled (trace : List Entry) (pass : Nat) (id : Text) : Prop :=
  ⟨pass, id, .skipped⟩ ∈ trace ∨
    (∃ index input, ⟨pass, id, .executed index input⟩ ∈ trace) ∧
      ∃ outcome error, ⟨pass, id, .finished outcome error⟩ ∈ trace

def Happening.marks : Happening → Bool
  | .skipped => true
  | .ready => true
  | _ => false

def Happening.executes : Happening → Bool
  | .executed _ _ => true
  | _ => false

def Happening.fails : Happening → Bool
  | .finished outcome _ => outcome.fails
  | _ => false

/-- What holds of everything that happens in a pass, given what happened before. -/
structure Disciplined (graph : Graph) (levels : List (List Text)) (before : List Entry)
    (entry : Entry) : Prop where
  /-- The sources of the edges into a node come first. -/
  sources : entry.what.marks = true ∨ entry.what.executes = true →
    ∀ e ∈ graph.incoming entry.id, Settled before entry.pass e.source
  /-- The levels before its own are through, and so are the passes before. -/
  walked : entry.what.marks = true ∨ entry.what.executes = true →
    ∃ earlier level rest, levels = earlier ++ level :: rest ∧ entry.id ∈ level ∧
      (∀ id ∈ earlier.flatten, Settled before entry.pass id) ∧
      ∀ pass < entry.pass, ∀ id ∈ levels.flatten, Settled before pass id
  /-- A node that the pass comes to is skipped exactly if all that leads to it is inactive. -/
  skips : entry.what.marks = true →
    (entry.what = .skipped ↔ Closed graph (fateOf before entry.pass) entry.id)
  /-- A node that is executed is not one to skip, and reads what comes in. -/
  reads : ∀ index input, entry.what = .executed index input →
    ⟨entry.pass, entry.id, .ready⟩ ∈ before ∧
      ¬Closed graph (fateOf before entry.pass) entry.id ∧
      input = Dataset.union (arriving graph (fateOf before entry.pass) entry.id)
  /-- After a failure only the nodes beside the one that failed are executed. -/
  stops : entry.what.marks = true ∨ entry.what.executes = true →
    ∀ failure ∈ before, failure.what.fails = true → entry.pass = failure.pass ∧
      ∃ level ∈ levels, entry.id ∈ level ∧ failure.id ∈ level

end Discipline

section Lookup

variable {graph : Graph} {trace : List Entry} {pass : Nat} {id : Text}

theorem fateOf_append (trace added : List Entry) (pass : Nat) (id : Text) :
    fateOf (trace ++ added) pass id = (fateOf trace pass id).or (fateOf added pass id) :=
  List.findSome?_append

/-- Entries of other nodes tell nothing of a node. -/
theorem fateOf_none (others : ∀ entry ∈ trace, entry.pass = pass → entry.id ≠ id) :
    fateOf trace pass id = none := by
  rw [fateOf, List.findSome?_eq_none_iff]
  intro entry member
  rw [if_neg]
  rintro ⟨here, same⟩
  exact others entry member here same

theorem fateOf_apart {added : List Entry} (others : ∀ entry ∈ added, entry.pass = pass →
    entry.id ≠ id) : fateOf (trace ++ added) pass id = fateOf trace pass id := by
  rw [fateOf_append, fateOf_none others, Option.or_none]

theorem fateOf_snoc (unsettled : fateOf trace pass id = none) (what : Happening) :
    fateOf (trace ++ [⟨pass, id, what⟩]) pass id = what.fate := by
  rw [fateOf_append, unsettled, Option.none_or, fateOf, List.findSome?_cons, if_pos ⟨rfl, rfl⟩]
  cases what.fate with
  | none => rfl
  | some fate => rfl

theorem Settled.append (settled : Settled trace pass id) (added : List Entry) :
    Settled (trace ++ added) pass id := by
  rcases settled with skipped | ⟨⟨index, input, executed⟩, outcome, error, finished⟩
  · exact .inl (List.mem_append_left _ skipped)
  · exact .inr ⟨⟨index, input, List.mem_append_left _ executed⟩, outcome, error,
      List.mem_append_left _ finished⟩

/-- Which edges are inactive depends on the fates of their sources only. -/
theorem inactive_congr {fate fate' : Text → Option Fate} {e : WorkflowEdge}
    (same : fate e.source = fate' e.source) :
    Inactive graph fate e ↔ Inactive graph fate' e := by
  rw [Inactive, Inactive, carried, carried, same]

theorem closed_congr {fate fate' : Text → Option Fate}
    (same : ∀ e ∈ graph.incoming id, fate e.source = fate' e.source) :
    Closed graph fate id ↔ Closed graph fate' id := by
  refine and_congr_right fun _ => ?_
  exact forall₂_congr fun e member => inactive_congr (same e member)

open Classical in
theorem arriving_congr {fate fate' : Text → Option Fate}
    (same : ∀ e ∈ graph.incoming id, fate e.source = fate' e.source) :
    arriving graph fate id = arriving graph fate' id := by
  rw [arriving, arriving]
  have filtered : ((graph.incoming id).filter fun e => ¬Inactive graph fate e) =
      (graph.incoming id).filter fun e => ¬Inactive graph fate' e := by
    refine List.filter_congr fun e member => ?_
    rw [decide_eq_decide, inactive_congr (same e member)]
  rw [filtered]
  refine List.filterMap_congr fun e member => ?_
  rw [carried, carried, same e (List.mem_filter.mp member).1]

end Lookup

section Faithful

variable {graph : Graph} {pass : Pass} {fate : Text → Option Fate}

/-- The outputs and the dead nodes of a pass are those of the fates so far. -/
structure Faithful (pass : Pass) (fate : Text → Option Fate) : Prop where
  outputs : ∀ id handle, pass.outputs id handle = (fate id).bind fun f => f.side handle
  dead : ∀ id, id ∈ pass.dead ↔ ∃ f, fate id = some f ∧ f.closes = true

theorem edgeActive_iff (faithful : Faithful pass fate) (e : WorkflowEdge) :
    edgeActive graph pass e = true ↔ ¬Inactive graph fate e := by
  rw [edgeActive, Inactive, ← faithful.dead]
  by_cases dead : e.source ∈ pass.dead
  · rw [if_pos dead]
    simp only [Bool.false_eq_true, dead, true_or, not_true_eq_false]
  · rw [if_neg dead]
    by_cases branch : isBranch graph e.source = true
    · rw [if_pos branch, faithful.outputs]
      simp only [dead, branch, true_and, false_or, carried]
      cases (fate e.source).bind fun f => f.side e.sourceHandle with
      | none => simp
      | some data => simp
    · rw [if_neg branch]
      simp only [dead, branch, false_and, or_false, Bool.false_eq_true, not_false_eq_true]

theorem allClosed_iff (faithful : Faithful pass fate) (id : Text) :
    allClosed graph pass id = true ↔ Closed graph fate id := by
  rw [allClosed, Closed, Bool.and_eq_true, List.all_eq_true]
  refine and_congr ?_ ?_
  · rw [Bool.not_eq_true', List.isEmpty_eq_false_iff]
  · refine forall₂_congr fun e _ => ?_
    rw [Bool.not_eq_true', ← Bool.not_eq_true, edgeActive_iff faithful, not_not]

open Classical in
theorem inputs_eq (faithful : Faithful pass fate) (id : Text) :
    inputs graph pass id = arriving graph fate id := by
  rw [inputs, arriving]
  have filtered : (graph.incoming id).filter (edgeActive graph pass) =
      (graph.incoming id).filter fun e => ¬Inactive graph fate e := by
    refine List.filter_congr fun e _ => ?_
    rw [Bool.eq_iff_iff, edgeActive_iff faithful, decide_eq_true_iff]
  rw [filtered]
  exact List.filterMap_congr fun e _ => faithful.outputs e.source e.sourceHandle

theorem putAll_self (id : Text) (outputs : Outputs) (handle : Option SourceHandle)
    (entries : List (Option SourceHandle × Dataset)) :
    entries.foldl (put id) outputs id handle =
      ((entries.reverse.find? fun o => o.1 = handle).map Prod.snd).or (outputs id handle) := by
  induction entries using List.reverseRecOn with
  | nil => rfl
  | append_singleton entries last hypothesis =>
    rw [List.foldl_append, List.foldl_cons, List.foldl_nil, put, List.reverse_append,
      List.reverse_singleton, List.singleton_append, List.find?_cons]
    by_cases same : handle = last.1
    · rw [if_pos ⟨rfl, same⟩, decide_eq_true same.symm]
      rfl
    · rw [if_neg fun both => same both.2, decide_eq_false fun back => same back.symm, hypothesis]

theorem putAll_other {id other : Text} (apart : other ≠ id) (outputs : Outputs)
    (handle : Option SourceHandle) (entries : List (Option SourceHandle × Dataset)) :
    entries.foldl (put id) outputs other handle = outputs other handle := by
  induction entries using List.reverseRecOn with
  | nil => rfl
  | append_singleton entries last hypothesis =>
    rw [List.foldl_append, List.foldl_cons, List.foldl_nil, put, if_neg fun both => apart both.1,
      hypothesis]

/-- A node that comes to its end is added to the fates. -/
theorem Faithful.settle (faithful : Faithful pass fate) {id : Text} (fresh : fate id = none)
    (outcome : Outcome) :
    Faithful (pass.settle id outcome) (Function.update fate id (some (.finished outcome))) := by
  have empty : ∀ handle, pass.outputs id handle = none := by
    intro handle
    rw [faithful.outputs, fresh]
    rfl
  have alive : id ∉ pass.dead := by
    rw [faithful.dead, fresh]
    rintro ⟨f, none, -⟩
    cases none
  have elsewhere : ∀ other, other ≠ id →
      (other ∈ pass.dead ↔
        ∃ f, Function.update fate id (some (.finished outcome)) other = some f ∧
          f.closes = true) := by
    intro other apart
    rw [Function.update_of_ne apart]
    exact faithful.dead other
  cases outcome with
  | done output =>
    constructor
    · intro other handle
      by_cases same : other = id
      · subst same
        rw [Function.update_self]
        show output.outputs.foldl (put other) pass.outputs other handle = _
        rw [putAll_self, empty, Option.or_none]
        rfl
      · rw [Function.update_of_ne same, ← faithful.outputs]
        exact putAll_other same pass.outputs handle output.outputs
    · intro other
      show other ∈ (if output.closed then id :: pass.dead else pass.dead) ↔ _
      by_cases same : other = id
      · subst same
        rw [Function.update_self]
        cases closed : output.closed with
        | true =>
          rw [if_pos rfl]
          exact ⟨fun _ => ⟨_, rfl, closed⟩, fun _ => List.mem_cons_self⟩
        | false =>
          rw [if_neg Bool.false_ne_true]
          refine ⟨fun dead => absurd dead alive, ?_⟩
          rintro ⟨f, here, closes⟩
          cases here
          exact absurd (closed.symm.trans closes) Bool.false_ne_true
      · rw [← elsewhere other same]
        split
        · rw [List.mem_cons]
          exact or_iff_right same
        · rfl
  | continued =>
    constructor
    · intro other handle
      by_cases same : other = id
      · subst same
        rw [Function.update_self]
        show (if other = other ∧ handle = none then _ else pass.outputs other handle) = _
        rw [empty]
        simp only [true_and]
        rfl
      · rw [Function.update_of_ne same, ← faithful.outputs]
        exact if_neg fun both => same both.1
    · intro other
      show other ∈ pass.dead ↔ _
      by_cases same : other = id
      · subst same
        rw [Function.update_self]
        refine ⟨fun dead => absurd dead alive, ?_⟩
        rintro ⟨f, here, closes⟩
        cases here
        exact absurd closes Bool.false_ne_true
      · exact elsewhere other same
  | failed =>
    constructor
    · intro other handle
      by_cases same : other = id
      · subst same
        rw [Function.update_self]
        exact empty handle
      · rw [Function.update_of_ne same]
        exact faithful.outputs other handle
    · intro other
      show other ∈ pass.dead ↔ _
      by_cases same : other = id
      · subst same
        rw [Function.update_self]
        refine ⟨fun dead => absurd dead alive, ?_⟩
        rintro ⟨f, here, closes⟩
        cases here
        exact absurd closes Bool.false_ne_true
      · exact elsewhere other same

/-- So are all nodes of a level. -/
theorem Faithful.absorb {finished : Text → Option Outcome} {whole : Text → Option Fate}
    {ready : List Text} (distinct : ready.Nodup)
    (faithful : Faithful pass fun id => if id ∈ ready then none else whole id)
    (ends : ∀ id ∈ ready, ∃ outcome, finished id = some outcome ∧
      whole id = some (.finished outcome)) : Faithful (pass.absorb finished ready) whole := by
  induction ready generalizing pass with
  | nil =>
    have same : (fun id => if id ∈ ([] : List Text) then none else whole id) = whole := by
      funext id
      exact if_neg List.not_mem_nil
    exact same ▸ faithful
  | cons id rest hypothesis =>
    obtain ⟨fresh, distinct⟩ := List.nodup_cons.mp distinct
    obtain ⟨outcome, found, fate⟩ := ends id List.mem_cons_self
    rw [Pass.absorb, List.foldl_cons, found]
    apply hypothesis distinct
    · have settled := faithful.settle (if_pos List.mem_cons_self) outcome
      have same : Function.update (fun other => if other ∈ id :: rest then none else whole other)
          id (some (.finished outcome)) = fun other => if other ∈ rest then none else whole other := by
        funext other
        by_cases here : other = id
        · subst here
          rw [Function.update_self, if_neg fresh, fate]
        · rw [Function.update_of_ne here]
          simp only [List.mem_cons, here, false_or]
      exact same ▸ settled
    · exact fun other member => ends other (List.mem_cons_of_mem _ member)

end Faithful

end DbFree.Workflows
