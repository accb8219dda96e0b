import DbFree.WorkflowRunner

/- What becomes of the cells of several inputs when a node reads them as one dataset. -/
namespace DbFree.Dataset

section FirstSeen

/-- The names that were seen, and a name that is new behind them. -/
def see (columns : List Text) (name : Text) : List Text :=
  if name ∈ columns then columns else columns ++ [name]

/-- Each name once, where it is first seen. -/
def firstSeen (names : List Text) : List Text := names.foldl see []

theorem mem_see (columns : List Text) (name other : Text) :
    other ∈ see columns name ↔ other ∈ columns ∨ other = name := by
  unfold see
  split
  · rename_i seen
    constructor
    · exact Or.inl
    · rintro (old | rfl)
      · exact old
      · exact seen
  · simp

theorem mem_foldl_see (names columns : List Text) (other : Text) :
    other ∈ names.foldl see columns ↔ other ∈ columns ∨ other ∈ names := by
  induction names generalizing columns with
  | nil => simp
  | cons name names ih =>
    rw [List.foldl_cons, ih, mem_see, List.mem_cons, or_assoc]

theorem unionColumns_eq (inputs : List Dataset) :
    unionColumns inputs = firstSeen (inputs.flatMap columns) := by
  rw [firstSeen, List.foldl_flatMap]
  rfl

theorem mem_unionColumns {inputs : List Dataset} {input : Dataset} (member : input ∈ inputs)
    {name : Text} (column : name ∈ input.columns) : name ∈ unionColumns inputs := by
  rw [unionColumns_eq, firstSeen, mem_foldl_see]
  exact Or.inr (List.mem_flatMap.mpr ⟨input, member, column⟩)

end FirstSeen

/-- What a row has under a name: the cell of the first column that is named so. -/
def under (input : Dataset) (row : List Value) (name : Text) : Value :=
  ((input.indexOf name).bind fun i => row[i]?).getD .null

/-- A row of an input and the row that stands for it among `columns`: every cell is there under
its column, and a column the input lacks is NULL. -/
structure Carries (columns : List Text) (input : Dataset) (row found : List Value) : Prop where
  kept : ∀ (i : Nat) (name : Text) (cell : Value), input.columns[i]? = some name →
    row[i]? = some cell → ∃ j : Nat, columns[j]? = some name ∧ found[j]? = some cell
  absent : ∀ (j : Nat) (name : Text), columns[j]? = some name → name ∉ input.columns →
    found[j]? = some .null

/-- The rows of all inputs in order, each with the input it is of. -/
def sources (inputs : List Dataset) : List (Dataset × List Value) :=
  inputs.flatMap fun input => input.rows.map fun row => (input, row)

structure LosesNoCell (inputs : List Dataset) : Prop where
  carried : List.Forall₂
    (fun source found => Carries (union inputs).columns source.1 source.2 found)
    (sources inputs) (union inputs).rows
  count : (union inputs).rows.length = (inputs.map fun input => input.rows.length).sum
  /-- A dataset that is empty adds nothing, wherever it stands. -/
  padded : ∀ before after, inputs = before ++ after →
    (union (before ++ empty :: after)).rows = (union inputs).rows

/-- The cells that a row has under one name are all the same. -/
def Agrees (input : Dataset) (row : List Value) : Prop :=
  ∀ (i : Nat) (name : Text) (cell : Value), input.columns[i]? = some name → row[i]? = some cell →
    under input row name = cell

/-- The inputs the union is made for: rows whose cells under one name are the same; a single
input has no name twice and nothing but a cell for each name. -/
def Mergeable : List Dataset → Prop
  | [] => True
  | [only] => ∀ row ∈ only.rows, row = (firstSeen only.columns).map (under only row)
  | many => ∀ input ∈ many, ∀ row ∈ input.rows, Agrees input row

theorem length_sources (inputs : List Dataset) :
    (sources inputs).length = (inputs.map fun input => input.rows.length).sum := by
  simp [sources, List.length_flatMap]

theorem under_of_absent {input : Dataset} {name : Text} (absent : name ∉ input.columns)
    (row : List Value) : under input row name = .null := by
  have missing : input.indexOf name = none := by
    rw [indexOf, List.findIdx?_eq_none_iff]
    intro column member
    rw [beq_eq_false_iff_ne]
    exact fun same => absent (same ▸ member)
  rw [under, missing]
  rfl

/-- The first cell of each name carries the row just when the cells of a name agree. -/
theorem carries_iff {columns : List Text} {input : Dataset}
    (covers : ∀ name ∈ input.columns, name ∈ columns) (row : List Value) :
    Carries columns input row (columns.map (under input row)) ↔ Agrees input row := by
  constructor
  · rintro ⟨kept, -⟩ i name cell column here
    obtain ⟨j, stands, found⟩ := kept i name cell column here
    rw [List.getElem?_map, stands, Option.map_some, Option.some.injEq] at found
    exact found
  · intro agrees
    constructor
    · intro i name cell column here
      obtain ⟨j, stands⟩ := List.getElem?_of_mem (covers name (List.mem_of_getElem? column))
      refine ⟨j, stands, ?_⟩
      rw [List.getElem?_map, stands, Option.map_some, agrees i name cell column here]
    · intro j name stands absent
      rw [List.getElem?_map, stands, Option.map_some, under_of_absent absent]

theorem union_many {inputs : List Dataset} (several : 2 ≤ inputs.length) :
    union inputs = ⟨unionColumns inputs, (sources inputs).map fun source =>
      (unionColumns inputs).map (under source.1 source.2)⟩ := by
  have rows : (inputs.flatMap fun input => input.rows.map fun row =>
      (unionColumns inputs).map (under input row)) =
        (sources inputs).map fun source => (unionColumns inputs).map (under source.1 source.2) := by
    rw [sources, List.map_flatMap]
    simp only [List.map_map, Function.comp_def]
  rw [← rows]
  match inputs, several with
  | _ :: _ :: _, _ => rfl

theorem mem_sources {inputs : List Dataset} {source : Dataset × List Value} :
    source ∈ sources inputs ↔ source.1 ∈ inputs ∧ source.2 ∈ source.1.rows := by
  simp only [sources, List.mem_flatMap, List.mem_map]
  constructor
  · rintro ⟨input, member, row, inside, rfl⟩
    exact ⟨member, inside⟩
  · rintro ⟨member, inside⟩
    exact ⟨source.1, member, source.2, inside, rfl⟩

theorem carried_many_iff {inputs : List Dataset} (several : 2 ≤ inputs.length) :
    List.Forall₂ (fun source found => Carries (union inputs).columns source.1 source.2 found)
        (sources inputs) (union inputs).rows ↔
      ∀ input ∈ inputs, ∀ row ∈ input.rows, Agrees input row := by
  rw [union_many several]
  show List.Forall₂ _ _ _ ↔ _
  rw [List.forall₂_map_right_iff, List.forall₂_same]
  constructor
  · intro carried input member row inside
    have here := carried (input, row) (mem_sources.mpr ⟨member, inside⟩)
    exact (carries_iff (fun name column => mem_unionColumns member column) row).mp here
  · intro agrees source member
    obtain ⟨input, inside⟩ := mem_sources.mp member
    exact (carries_iff (fun name column => mem_unionColumns input column) source.2).mpr
      (agrees source.1 input source.2 inside)

theorem carried_single (only : Dataset) :
    List.Forall₂ (fun source found => Carries only.columns source.1 source.2 found)
      (sources [only]) only.rows := by
  have shape : sources [only] = only.rows.map fun row => (only, row) := by
    simp [sources]
  rw [shape, List.forall₂_map_left_iff, List.forall₂_same]
  intro row _
  constructor
  · exact fun i name cell column here => ⟨i, column, here⟩
  · exact fun j name stands absent => absurd (List.mem_of_getElem? stands) absent

theorem sources_empty (before after : List Dataset) :
    sources (before ++ empty :: after) = sources (before ++ after) := by
  simp [sources, empty]

theorem unionColumns_empty (before after : List Dataset) :
    unionColumns (before ++ empty :: after) = unionColumns (before ++ after) := by
  simp [unionColumns_eq, empty]

/-- Among several inputs an empty one adds nothing. -/
theorem union_empty {before after : List Dataset} (several : 2 ≤ (before ++ after).length) :
    (union (before ++ empty :: after)).rows = (union (before ++ after)).rows := by
  have more : 2 ≤ (before ++ empty :: after).length := by
    rw [List.length_append, List.length_cons]
    rw [List.length_append] at several
    omega
  rw [union_many several, union_many more, sources_empty, unionColumns_empty]

theorem union_single_empty {before after : List Dataset} {only : Dataset}
    (single : before ++ after = [only]) :
    (union (before ++ empty :: after)).rows =
      only.rows.map fun row => (firstSeen only.columns).map (under only row) := by
  have more : 2 ≤ (before ++ empty :: after).length := by
    have size := congrArg List.length single
    rw [List.length_append, List.length_singleton] at size
    rw [List.length_append, List.length_cons]
    omega
  rw [union_many more, sources_empty, unionColumns_empty, single, unionColumns_eq]
  simp [sources, Function.comp_def]

theorem map_eq_self_iff {α : Type} (f : α → α) (xs : List α) :
    xs.map f = xs ↔ ∀ x ∈ xs, f x = x := by
  conv => lhs; rhs; rw [← List.map_id xs]
  rw [List.map_inj_left]
  rfl

/-- The union keeps every cell, and an empty input out of sight, just where the cells of one
name agree in each row. -/
theorem losesNoCell_iff (inputs : List Dataset) : LosesNoCell inputs ↔ Mergeable inputs := by
  match inputs with
  | [] =>
    refine iff_of_true ⟨.nil, rfl, ?_⟩ trivial
    intro before after split
    obtain ⟨rfl, rfl⟩ := List.append_eq_nil_iff.mp split.symm
    rfl
  | [only] =>
    constructor
    · intro holds row member
      have same : only.rows.map (fun row => (firstSeen only.columns).map (under only row)) =
          only.rows := by
        rw [← @union_single_empty [] [only] only rfl]
        exact holds.padded [] [only] rfl
      exact ((map_eq_self_iff _ _).mp same row member).symm
    · intro aligned
      refine ⟨carried_single only, (Nat.add_zero _).symm, ?_⟩
      intro before after split
      rw [union_single_empty split.symm]
      exact (map_eq_self_iff _ _).mpr fun row member => (aligned row member).symm
  | first :: second :: rest =>
    have several : 2 ≤ (first :: second :: rest).length := by simp
    constructor
    · intro holds
      exact (carried_many_iff several).mp holds.carried
    · intro agrees
      have carried := (carried_many_iff several).mpr agrees
      refine ⟨carried, ?_, ?_⟩
      · rw [← carried.length_eq, length_sources]
      · intro before after split
        rw [split] at several ⊢
        exact union_empty several

/-- A joined SELECT that returns two columns of one name, beside another input. -/
theorem second_id_lost : ¬∀ inputs, LosesNoCell inputs := by
  intro holds
  let joined : Dataset := ⟨["id".toList, "id".toList], [[.int 1, .int 2]]⟩
  have carried : List.Forall₂
      (fun (source : Dataset × List Value) found =>
        Carries ["id".toList] source.1 source.2 found) [(joined, [.int 1, .int 2])] [[.int 1]] :=
    (holds [joined, empty]).carried
  cases carried with
  | cons here _ =>
    obtain ⟨j, column, cell⟩ := here.kept 1 "id".toList (.int 2) rfl rfl
    match j, column, cell with
    | 0, _, cell => cases cell

end DbFree.Dataset
