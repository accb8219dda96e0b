import DbFree.CompareCaps
import DbFree.JsonExport

/- How an export pages through a table up to the row limit (services/export.rs). -/
namespace DbFree.ExportPaging

open RowCompare JsonExport

/-- An export: where it reads, and how many rows it writes of a table at most. -/
structure Run where
  ctx : SessionCtx
  includeData : Bool
  limit : Nat
  /-- Whether the user has cancelled by a turn of the page loop. -/
  cancelled : Nat → Bool

structure TableOutcome where
  rows : Nat
  capped : Bool
deriving DecidableEq

/-- The page loop, with the rows written so far: those it writes in all, and whether it stops at
the limit. A turn that is not the last one writes a row. -/
def pageRows (run : Run) (page : Nat) (table : SqlText.TableRef) (sort : List SortRule)
    (turn : Nat) (written : List (List Value)) : Except AppError (List (List Value) × Bool) :=
  if run.cancelled turn then .error (.cancelled "Cancelled by user".toList)
  else
    if _ : min (run.limit - written.length) page = 0 then .ok (written, true)
    else
      match run.ctx.fetchPage table ⟨sort, written.length, min (run.limit - written.length) page⟩ with
      | .error error => .error error
      | .ok answer =>
        if _ : answer.rows.length < min (run.limit - written.length) page then
          .ok (written ++ answer.rows, false)
        else if run.limit ≤ written.length + answer.rows.length then
          .ok (written ++ answer.rows, true)
        else pageRows run page table sort (turn + 1) (written ++ answer.rows)
termination_by run.limit - written.length
decreasing_by
  rw [List.length_append]
  omega

/-- Ascending by the columns of the primary key. -/
def keySort (columns : List ColumnInfo) : List SortRule :=
  (columns.filter ColumnInfo.primaryKey).map fun column => ⟨column.name, false⟩

/-- The rows written of a table, and what the report says of it. -/
def writeTable (run : Run) (page : Nat) (table : SqlText.TableRef) :
    Except AppError (List (List Value) × TableOutcome) := do
  let columns ← run.ctx.columns table
  if columns.isEmpty then
    .error (.notFound ("\"".toList ++ tableLabel table ++
      "\" has no columns or does not exist.".toList))
  else if run.includeData then do
    let (written, capped) ← pageRows run page table (keySort columns) 0 []
    .ok (written, ⟨written.length, capped⟩)
  else .ok ([], ⟨0, false⟩)

section Pages

variable {run : Run} {page : Nat} {table : SqlText.TableRef} {data : Table}
  {sort : List SortRule}

/-- With one more page, what is written is still the front of the table. -/
theorem page_grows (serves : Serves run.ctx table data) {written : List (List Value)} {want : Nat}
    {answer : ResultSet}
    (answered : run.ctx.fetchPage table ⟨sort, written.length, want⟩ = .ok answer)
    (front : written = (data.ordered sort).take written.length) :
    written ++ answer.rows = (data.ordered sort).take (written.length + want) ∧
      answer.rows.length = min want ((data.ordered sort).length - written.length) ∧
      written.length ≤ (data.ordered sort).length := by
  have window : answer.rows = ((data.ordered sort).drop written.length).take want :=
    (serves _ _ answered).2
  have filled := congrArg List.length front
  rw [List.length_take] at filled
  refine ⟨?_, ?_, by omega⟩
  · rw [List.take_add, ← front, window]
  · rw [window, List.length_take, List.length_drop]

/-- The loop writes the first rows of the table, and stops at the limit when they reach it. -/
theorem pageRows_writes (serves : Serves run.ctx table data) (positive : 0 < page) {turn : Nat}
    {written result : List (List Value)} {capped : Bool}
    (front : written = (data.ordered sort).take written.length)
    (within : written.length ≤ run.limit)
    (done : pageRows run page table sort turn written = .ok (result, capped)) :
    result = (data.ordered sort).take run.limit ∧
      (capped = true ↔ run.limit ≤ (data.ordered sort).length) := by
  fun_induction pageRows run page table sort turn written with
  | case1 => cases done
  | case2 _ written _ spent =>
    obtain ⟨is_written, is_capped⟩ := Prod.mk.inj (Except.ok.inj done)
    have reached : written.length = run.limit := by omega
    have filled := congrArg List.length front
    rw [List.length_take] at filled
    rw [← is_written, ← is_capped, ← reached]
    exact ⟨front, iff_of_true rfl (by omega)⟩
  | case3 => cases done
  | case4 _ written _ _ answer answered short =>
    cases done
    obtain ⟨grown, counted, filled⟩ := page_grows serves answered front
    refine ⟨?_, iff_of_false (by decide) (by omega)⟩
    rw [grown, List.take_of_length_le (by omega), List.take_of_length_le (by omega)]
  | case5 _ written _ _ answer answered full reached =>
    cases done
    obtain ⟨grown, counted, filled⟩ := page_grows serves answered front
    have all : written.length + min (run.limit - written.length) page = run.limit := by omega
    rw [grown, all]
    exact ⟨rfl, iff_of_true rfl (by omega)⟩
  | case6 _ written _ _ answer answered full more hypothesis =>
    obtain ⟨grown, counted, filled⟩ := page_grows serves answered front
    have count : (written ++ answer.rows).length =
        written.length + min (run.limit - written.length) page := by
      rw [List.length_append]
      omega
    apply hypothesis _ _ done
    · rw [count]
      exact grown
    · rw [count]
      omega

end Pages

/-- What an export of `count` rows under a limit is to write and to report. -/
structure Truthful (limit count : Nat) (written : List (List Value)) (outcome : TableOutcome) :
    Prop where
  writes : written.length = min limit count
  rows : outcome.rows = written.length
  capped : outcome.capped = true ↔ limit < count

/-- The limit is reported truthfully exactly when the table does not have just as many rows. -/
theorem limit_reported_iff (run : Run) (page : Nat) (positive : 0 < page)
    (table : SqlText.TableRef) (data : Table) (serves : Serves run.ctx table data)
    (includes : run.includeData = true) (written : List (List Value)) (outcome : TableOutcome)
    (done : writeTable run page table = .ok (written, outcome)) :
    Truthful run.limit (data.ordered []).length written outcome ↔
      (data.ordered []).length ≠ run.limit := by
  obtain ⟨columns, -, done⟩ := bind_ok done
  split at done
  · cases done
  · obtain ⟨⟨rows, capped⟩, paged, done⟩ := bind_ok done
    cases done
    obtain ⟨front, stops⟩ := pageRows_writes serves positive (List.take_zero).symm
      (Nat.zero_le _) paged
    have size : (data.ordered (keySort columns)).length = (data.ordered []).length :=
      (data.sameRows _ _).length_eq
    rw [size] at stops
    have count : written.length = min run.limit (data.ordered []).length := by
      rw [front, List.length_take, size]
    constructor
    · intro truthful same
      have short := truthful.capped.mp (stops.mpr (Nat.le_of_eq same.symm))
      omega
    · intro other
      refine ⟨count, rfl, stops.trans ?_⟩
      omega

section Example

/-- A table of one column and some rows. -/
def column (count : Nat) : Table where
  header := ["n".toList]
  ordered _ := List.replicate count [.null]
  sameRows _ _ := List.Perm.refl _

def exporting (count limit : Nat) : Run where
  ctx := {
    engine := .sqlite
    sql := true
    columns := fun _ => .ok [⟨"n".toList, false, 1⟩]
    fetchPage := fun _ query => .ok ⟨["n".toList],
      (((column count).ordered query.sort).drop query.offset).take query.limit⟩ }
  includeData := true
  limit := limit
  cancelled _ := false

theorem column_serves (count limit : Nat) (table : SqlText.TableRef) :
    Serves (exporting count limit).ctx table (column count) := by
  intro query answer answered
  cases answered
  exact ⟨rfl, rfl⟩

theorem limit_reported_two_of_one :
    Truthful 1 2 [[.null]] ⟨1, true⟩ ↔ 2 ≠ 1 := by
  refine limit_reported_iff (exporting 2 1) 1 (by decide) ⟨none, "t".toList⟩ (column 2)
    (column_serves 2 1 _) rfl [[.null]] ⟨1, true⟩ ?_
  simp [writeTable, pageRows, exporting, column, bind, Except.bind]

/-- A table of one row is reported as stopped at a limit of one row. -/
theorem whole_table_reported_stopped :
    writeTable (exporting 1 1) 1000 ⟨none, "t".toList⟩ = .ok ([[.null]], ⟨1, true⟩) ∧
      ¬ Truthful 1 ((column 1).ordered []).length [[.null]] ⟨1, true⟩ := by
  constructor
  · simp [writeTable, pageRows, exporting, column, bind, Except.bind]
  · intro truthful
    exact absurd (truthful.capped.mp rfl) (by decide)

end Example

end DbFree.ExportPaging
