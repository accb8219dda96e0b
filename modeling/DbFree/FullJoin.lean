import DbFree.CompareCaps

/- The row comparison is the full join of both sides on their canonical keys
(services/data_compare.rs). -/
namespace DbFree.RowCompare

open MergeJoin

section Entries

variable (crates : Crates) (columns : List Text) (left right : List KeyedRow)

/-- The first row of a side that has a key. -/
def firstRow (rows : List KeyedRow) (key : Key) : Option KeyedRow :=
  rows.find? fun row => canonicalKey crates row = key

/-- A column is absent on both sides, or its values are the same. -/
def sameCell : Option Value → Option Value → Bool
  | some first, some second => sameValue crates first second
  | first, second => first.isSome == second.isSome

def sameColumns (first second : KeyedRow) : Bool :=
  (List.range columns.length).all fun i => sameCell crates first.values[i]? second.values[i]?

/-- What the report holds for a key. -/
def entryOf (key : Key) : Option RowDiff :=
  match firstRow crates left key, firstRow crates right key with
  | some first, none => some ⟨.onlyLeft, first.key, some first.values, none, []⟩
  | none, some second => some ⟨.onlyRight, second.key, none, some second.values, []⟩
  | some first, some second =>
    if sameColumns crates columns first second then none
    else some ⟨.different, first.key, some first.values, some second.values,
      changedColumns crates columns first.values second.values⟩
  | none, none => none

/-- A report and the keys of both sides, in ascending order. -/
structure FullJoin (out : RowComparison) (keys : List Key) : Prop where
  ascending : keys.Pairwise fun first second => compare first second = .lt
  complete : ∀ key, key ∈ keys ↔
    key ∈ left.map (canonicalKey crates) ∨ key ∈ right.map (canonicalKey crates)
  rows : out.rows = keys.filterMap (entryOf crates columns left right)
  onlyLeft : out.onlyLeft = out.rows.countP (·.status = .onlyLeft)
  onlyRight : out.onlyRight = out.rows.countP (·.status = .onlyRight)
  different : out.different = out.rows.countP (·.status = .different)
  identical : out.identical = keys.countP (entryOf crates columns left right · = none)
  duplicates : out.duplicateKeys + (left.map (canonicalKey crates)).toFinset.card +
    (right.map (canonicalKey crates)).toFinset.card = left.length + right.length

end Entries

variable {crates : Crates} {columns : List Text} {left right : List KeyedRow}

theorem changed_isEmpty (first second : KeyedRow) :
    (changedColumns crates columns first.values second.values).isEmpty =
      sameColumns crates columns first second := by
  rw [Bool.eq_iff_iff, List.isEmpty_iff, changedColumns, List.map_eq_nil_iff,
    List.filter_eq_nil_iff, sameColumns, List.all_eq_true]
  constructor
  · intro none_changed i member
    have small := List.mem_range.mp member
    have kept := none_changed (columns[i], i)
      (List.mem_zipIdx_iff_getElem?.mpr (List.getElem?_eq_getElem small))
    cases one : first.values[i]? <;> cases other : second.values[i]? <;>
      simp [sameCell, one, other] at kept ⊢
    exact kept
  · intro all_same entry member
    obtain ⟨small, _⟩ := List.getElem?_eq_some_iff.mp (List.mem_zipIdx_iff_getElem?.mp member)
    have same := all_same entry.2 (List.mem_range.mpr small)
    cases one : first.values[entry.2]? <;> cases other : second.values[entry.2]? <;>
      simp [sameCell, one, other] at same ⊢
    exact same

/-- What is joined for a key is what the report holds for it. -/
theorem differenceOf_joined {entry : Key × Joined KeyedRow KeyedRow}
    (member : entry ∈ joined crates left right) :
    differenceOf crates columns entry = entryOf crates columns left right entry.1 := by
  obtain ⟨key, entry⟩ := entry
  rw [mem_joined] at member
  have absent : ∀ rows : List KeyedRow, (∀ row, (key, row) ∉ (filed crates rows).toList) →
      firstRow crates rows key = none := by
    intro rows missing
    rw [firstRow, ← getElem?_filed]
    apply Option.eq_none_iff_forall_ne_some.mpr
    intro row found
    exact missing row (Std.TreeMap.mem_toList_iff_getElem?_eq_some.mpr found)
  have present : ∀ (rows : List KeyedRow) (row : KeyedRow),
      (key, row) ∈ (filed crates rows).toList → firstRow crates rows key = some row := by
    intro rows row inside
    rw [firstRow, ← getElem?_filed]
    exact Std.TreeMap.mem_toList_iff_getElem?_eq_some.mp inside
  unfold entryOf
  dsimp only
  cases entry with
  | left row =>
    rw [present left row member.1, absent right member.2]
    rfl
  | right row =>
    rw [absent left member.2, present right row member.1]
    rfl
  | both first second =>
    rw [present left first member.1, present right second member.2]
    simp only [differenceOf, changed_isEmpty]

variable (crates columns) in
theorem foldl_visit_counts (entries : List (Key × Joined KeyedRow KeyedRow))
    (out : RowComparison) :
    (entries.foldl (visit crates columns) out).onlyLeft = out.onlyLeft +
        (entries.filterMap (differenceOf crates columns)).countP (·.status = .onlyLeft) ∧
      (entries.foldl (visit crates columns) out).onlyRight = out.onlyRight +
        (entries.filterMap (differenceOf crates columns)).countP (·.status = .onlyRight) ∧
      (entries.foldl (visit crates columns) out).different = out.different +
        (entries.filterMap (differenceOf crates columns)).countP (·.status = .different) ∧
      (entries.foldl (visit crates columns) out).identical = out.identical +
        entries.countP (differenceOf crates columns · = none) ∧
      (entries.foldl (visit crates columns) out).duplicateKeys = out.duplicateKeys := by
  induction entries generalizing out with
  | nil => simp
  | cons entry entries hypothesis =>
    obtain ⟨key, entry⟩ := entry
    rw [List.foldl_cons]
    have later := hypothesis (visit crates columns out (key, entry))
    rw [List.filterMap_cons]
    cases entry with
    | left row =>
      simp only [differenceOf, visit, List.countP_cons] at later ⊢
      simp at later ⊢
      omega
    | right row =>
      simp only [differenceOf, visit, List.countP_cons] at later ⊢
      simp at later ⊢
      omega
    | both first second =>
      by_cases same : (changedColumns crates columns first.values second.values).isEmpty = true
      · simp only [differenceOf, visit, List.countP_cons, same] at later ⊢
        simp at later ⊢
        omega
      · simp only [differenceOf, visit, List.countP_cons, same] at later ⊢
        simp at later ⊢
        omega

variable (crates) in
theorem index_count (rows : List KeyedRow) (duplicates : Nat) :
    (index crates rows duplicates).2 + (filed crates rows).size = duplicates + rows.length := by
  suffices step : ∀ (map : Std.TreeMap Key KeyedRow) (duplicates : Nat),
      (rows.foldl (fileRow crates) (map, duplicates)).2 + (indexFrom crates map rows).size =
        duplicates + rows.length + map.size by
    have whole := step ∅ duplicates
    rw [Std.TreeMap.size_emptyc, Nat.add_zero] at whole
    exact whole
  induction rows with
  | nil =>
    intro map duplicates
    rfl
  | cons row rows hypothesis =>
    intro map duplicates
    have later := hypothesis (map.insertIfNew (canonicalKey crates row) row)
      (if map.contains (canonicalKey crates row) then duplicates + 1 else duplicates)
    rw [Std.TreeMap.size_insertIfNew] at later
    show (rows.foldl (fileRow crates) (map.insertIfNew (canonicalKey crates row) row,
        if map.contains (canonicalKey crates row) then duplicates + 1 else duplicates)).2 +
      (indexFrom crates (map.insertIfNew (canonicalKey crates row) row) rows).size = _
    rw [later, List.length_cons]
    by_cases taken : canonicalKey crates row ∈ map
    · rw [if_pos taken, if_pos (Std.TreeMap.mem_iff_contains.mp taken)]
      omega
    · rw [if_neg taken, if_neg fun contains => taken (Std.TreeMap.mem_iff_contains.mpr contains)]
      omega

theorem filed_size (rows : List KeyedRow) :
    (filed crates rows).size = (rows.map (canonicalKey crates)).toFinset.card := by
  rw [← Std.TreeMap.length_keys, ← List.toFinset_card_of_nodup Std.TreeMap.nodup_keys]
  congr 1
  ext key
  rw [List.mem_toFinset, List.mem_toFinset, Std.TreeMap.mem_keys, mem_filed]

theorem joined_keys (key : Key) :
    key ∈ (joined crates left right).map Prod.fst ↔
      key ∈ left.map (canonicalKey crates) ∨ key ∈ right.map (canonicalKey crates) := by
  rw [← mem_filed crates left, ← mem_filed crates right, Std.TreeMap.mem_iff_isSome_getElem?,
    Std.TreeMap.mem_iff_isSome_getElem?, List.mem_map]
  constructor
  · intro ⟨entry, member, same⟩
    obtain ⟨key', entry⟩ := entry
    dsimp only at same
    subst same
    rcases ((mem_joined _ _ _ _ _).mp member).key with ⟨row, inside⟩ | ⟨row, inside⟩
    · rw [Std.TreeMap.mem_toList_iff_getElem?_eq_some] at inside
      rw [inside]
      exact Or.inl rfl
    · rw [Std.TreeMap.mem_toList_iff_getElem?_eq_some] at inside
      rw [inside]
      exact Or.inr rfl
  · intro present
    cases in_left : (filed crates left)[key]? with
    | none =>
      cases in_right : (filed crates right)[key]? with
      | none =>
        rw [in_left, in_right] at present
        simp at present
      | some second =>
        refine ⟨(key, .right second), (mem_joined _ _ _ _ _).mpr ⟨?_, ?_⟩, rfl⟩
        · exact Std.TreeMap.mem_toList_iff_getElem?_eq_some.mpr in_right
        · intro first inside
          rw [Std.TreeMap.mem_toList_iff_getElem?_eq_some, in_left] at inside
          cases inside
    | some first =>
      have here := Std.TreeMap.mem_toList_iff_getElem?_eq_some.mpr in_left
      cases in_right : (filed crates right)[key]? with
      | none =>
        refine ⟨(key, .left first), (mem_joined _ _ _ _ _).mpr ⟨here, ?_⟩, rfl⟩
        intro second inside
        rw [Std.TreeMap.mem_toList_iff_getElem?_eq_some, in_right] at inside
        cases inside
      | some second =>
        exact ⟨(key, .both first second), (mem_joined _ _ _ _ _).mpr
          ⟨here, Std.TreeMap.mem_toList_iff_getElem?_eq_some.mpr in_right⟩, rfl⟩

/-- Every key of either side is joined once, in ascending order; a key whose rows are the same
on both sides is counted and has no entry. -/
theorem diffRows_fullJoin (crates : Crates) (left right : List KeyedRow) (columns : List Text) :
    ∃ keys, FullJoin crates columns left right (diffRows crates left right columns) keys := by
  have found := diffRows_rows crates left right columns
  have entries : ∀ entry ∈ joined crates left right,
      differenceOf crates columns entry = entryOf crates columns left right entry.1 :=
    fun _ member => differenceOf_joined member
  have rows : (diffRows crates left right columns).rows =
      ((joined crates left right).map Prod.fst).filterMap (entryOf crates columns left right) := by
    rw [found, List.filterMap_map]
    exact List.filterMap_congr entries
  have shape : diffRows crates left right columns =
      (joined crates left right).foldl (visit crates columns)
        { duplicateKeys := (index crates right (index crates left 0).2).2 } := by
    show List.foldl (visit crates columns) _ (mergeJoin (index crates left 0).1.toList
      (index crates right (index crates left 0).2).1.toList) = _
    rw [index_map, index_map]
    rfl
  obtain ⟨only_left, only_right, different, identical, duplicates⟩ :=
    foldl_visit_counts crates columns (joined crates left right)
      { duplicateKeys := (index crates right (index crates left 0).2).2 }
  rw [← shape, ← found, Nat.zero_add] at only_left only_right different
  rw [← shape] at identical duplicates
  dsimp only at duplicates
  refine ⟨(joined crates left right).map Prod.fst, ?_, joined_keys, rows, only_left, only_right,
    different, ?_, ?_⟩
  · exact List.pairwise_map.mpr (increasing_mergeJoin _ _ Std.TreeMap.ordered_keys_toList
      Std.TreeMap.ordered_keys_toList)
  · rw [identical, Nat.zero_add, List.countP_map]
    apply List.countP_congr
    intro entry member
    rw [entries entry member]
    rfl
  · have leftCount := index_count crates left 0
    have rightCount := index_count crates right (index crates left 0).2
    rw [duplicates, ← filed_size, ← filed_size]
    omega

section Example

/-- A row that is its own key. -/
def oneCell (number : Int) : KeyedRow := ⟨[.int number], [.int number]⟩

/-- A row that is the same on both sides has no entry of its own. -/
theorem same_row_no_entry :
    [Canon.num (F64.ofInt 1) ['1']] ∈ [oneCell 1].map (canonicalKey asciiCrates) ∧
      (diffRows asciiCrates [oneCell 1] [oneCell 1] ["id".toList]).rows = [] := by
  decide +kernel

end Example

end DbFree.RowCompare
