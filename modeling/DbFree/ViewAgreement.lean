import DbFree.ResultView

/- The order in which the browser shows a result against the order of the rows that the
server's fallback gives for the same rules. -/
namespace DbFree.ResultView

open StableSort

variable (crates : Crates) (toLowerCase : Text → Text) (columns : List Text) (rows : List Row)
  (filters : List FilterRule) (mode : FilterMode) (sort : List SortRule)

/-- The rows as the browser shows them, with no quick search. -/
def browserRows : List Row :=
  (Browser.viewIndexes toLowerCase columns rows ⟨[], filters, mode, sort⟩).map fun index =>
    rows.getD index []

/-- The rows as the server's fallback gives them. -/
def serverRows : List Row :=
  Server.applySort crates columns (Server.applyFilters crates columns rows filters mode) sort

/-- The rules decide on every row alike. -/
def KeptAlike : Prop :=
  filters ≠ [] → ∀ row ∈ rows, mode.passes filters (Browser.hit toLowerCase columns row) =
    mode.passes filters (Server.hit crates columns row)

/-- Of two rows that stay, the later one goes first on both sides or on neither. -/
def OrderedAlike (kept : List Row) : Prop :=
  kept.Pairwise fun first second =>
    Browser.InOrder columns sort first second ↔ Server.InOrder crates columns sort first second

section Server

theorem applyFilters_eq : Server.applyFilters crates columns rows filters mode =
    rows.filter fun row => filters.isEmpty || Server.keeps crates columns filters mode row := by
  unfold Server.applyFilters
  split
  · rename_i none
    simp [none]
  · rename_i some_rules
    simp [some_rules]

theorem applySort_eq : Server.applySort crates columns rows sort =
    rows.insertionSort (Server.InOrder crates columns sort) := by
  unfold Server.applySort
  split
  · rename_i none
    rw [List.isEmpty_iff] at none
    subst none
    refine (List.Pairwise.insertionSort_eq ?_).symm
    exact List.pairwise_of_forall fun _ _ => by
      show Ordering.eq ≠ .gt
      decide
  · rfl

end Server

section Browser

theorem above_of_isZero {number : F64} (zero : number.isZero = true) :
    Browser.above number = false := by
  simp [Browser.above, zero]

theorem placeInOrder_iff {first second : Nat × Nat} (earlier : first.2 ≤ second.2) :
    Browser.PlaceInOrder columns rows sort first second ↔
      Browser.InOrder columns sort (rows.getD first.1 []) (rows.getD second.1 []) := by
  unfold Browser.PlaceInOrder Browser.InOrder
  dsimp only
  split
  · rename_i zero
    exact ⟨fun _ => above_of_isZero zero, fun _ => decide_eq_true earlier⟩
  · rw [Bool.not_eq_true']

theorem zipIdx_earlier {α : Type} (list : List α) (start : Nat) :
    (list.zipIdx start).Pairwise fun first second => first.2 ≤ second.2 := by
  induction list generalizing start with
  | nil => exact List.Pairwise.nil
  | cons first rest hypothesis =>
    rw [List.zipIdx_cons, List.pairwise_cons]
    refine ⟨fun entry member => ?_, hypothesis (start + 1)⟩
    exact Nat.le_of_succ_le (List.le_snd_of_mem_zipIdx member)

theorem sorted_rows (out : List Nat) :
    ((out.zipIdx.insertionSort (Browser.PlaceInOrder columns rows sort)).map (·.1)).map
        (fun index => rows.getD index []) =
      (out.map fun index => rows.getD index []).insertionSort (Browser.InOrder columns sort) := by
  let row : Nat × Nat → Row := fun place => rows.getD place.1 []
  have agree : out.zipIdx.Pairwise fun first second =>
      Browser.PlaceInOrder columns rows sort first second ↔
        Browser.InOrder columns sort (row first) (row second) :=
    (zipIdx_earlier out 0).imp fun earlier => placeInOrder_iff columns rows sort earlier
  rw [insertionSort_congr agree, List.map_map]
  have mapped := List.map_insertionSort
    (r := fun first second => Browser.InOrder columns sort (row first) (row second))
    (Browser.InOrder columns sort) row out.zipIdx fun _ _ _ _ => Iff.rfl
  refine mapped.trans ?_
  have rows_eq : out.zipIdx.map row = out.map fun index => rows.getD index [] := by
    rw [← List.zipIdx_map_fst 0 out, List.map_map, List.zipIdx_map_fst]
    rfl
  rw [rows_eq]

theorem out_rows (keeps : Row → Bool) :
    ((rows.zipIdx.filter fun entry => keeps entry.1).map (·.2)).map
        (fun index => rows.getD index []) = rows.filter keeps := by
  have places : ∀ entry ∈ rows.zipIdx, rows.getD entry.2 [] = entry.1 := by
    intro entry member
    have found := List.mem_zipIdx_iff_getElem?.mp member
    rw [List.getD_eq_getElem?_getD, found]
    rfl
  have first_eq : rows.zipIdx.map Prod.fst = rows := List.zipIdx_map_fst 0 rows
  rw [List.map_map]
  calc (rows.zipIdx.filter fun entry => keeps entry.1).map
        ((fun index => rows.getD index []) ∘ fun entry => entry.2)
      = (rows.zipIdx.filter fun entry => keeps entry.1).map Prod.fst :=
        List.map_congr_left fun entry member => places entry (List.mem_filter.mp member).1
    _ = (rows.zipIdx.map Prod.fst).filter keeps := (List.filter_map ..).symm
    _ = rows.filter keeps := by rw [first_eq]

end Browser

variable {toLowerCase} in
theorem browserRows_eq (lower_empty : toLowerCase [] = []) :
    browserRows toLowerCase columns rows filters mode sort =
      (rows.filter fun row => filters.isEmpty ||
        mode.passes filters (Browser.hit toLowerCase columns row)).insertionSort
          (Browser.InOrder columns sort) := by
  have keeps_eq : ∀ row, Browser.keeps toLowerCase columns ⟨[], filters, mode, sort⟩ row =
      (filters.isEmpty || mode.passes filters (Browser.hit toLowerCase columns row)) := by
    intro row
    have off : toLowerCase (Browser.trim []) = [] := lower_empty
    simp [Browser.keeps, off]
  unfold browserRows Browser.viewIndexes
  dsimp only
  simp only [keeps_eq]
  split
  · rename_i none
    rw [List.isEmpty_iff] at none
    rw [out_rows rows fun row => filters.isEmpty ||
      mode.passes filters (Browser.hit toLowerCase columns row)]
    refine (List.Pairwise.insertionSort_eq ?_).symm
    refine List.pairwise_of_forall fun first second => ?_
    show Browser.above (Browser.compareRows first second (Browser.sortKeys columns sort)) = false
    rw [none]
    rfl
  · rw [sorted_rows, out_rows rows fun row => filters.isEmpty ||
      mode.passes filters (Browser.hit toLowerCase columns row)]

theorem serverRows_eq : serverRows crates columns rows filters mode sort =
    (rows.filter fun row => filters.isEmpty ||
      mode.passes filters (Server.hit crates columns row)).insertionSort
        (Server.InOrder crates columns sort) := by
  rw [serverRows, applySort_eq, applyFilters_eq]
  rfl

theorem keptAlike_iff : KeptAlike crates toLowerCase columns rows filters mode ↔
    ∀ row ∈ rows, (filters.isEmpty || mode.passes filters (Browser.hit toLowerCase columns row)) =
      (filters.isEmpty || mode.passes filters (Server.hit crates columns row)) := by
  unfold KeptAlike
  by_cases none : filters = []
  · simp [none]
  · have some_rules : filters.isEmpty = false := List.isEmpty_eq_false_iff.mpr none
    simp [none, some_rules]

/-- Crates that read no JSON and lower ASCII letters. -/
def asciiCrates : Crates where
  jsonText _ := []
  jsonPretty _ := []
  base64Decode _ := none
  toLowercase := Texts.toAsciiLowercase

def people : List Row :=
  [[.text "Ann".toList, .int 31], [.text "Bo".toList, .null], [.text "Cy".toList, .int 7]]

end DbFree.ResultView
