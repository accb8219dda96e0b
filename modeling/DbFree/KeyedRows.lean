import DbFree.DataCompare

/- The canonical order of keys is a lawful one, so the maps of both sides hold the
first row of each key, and the merge join tells one-sided rows from shared ones. -/
namespace DbFree.RowCompare

open MergeJoin

namespace Canon

/-- The place of a number, and the same for everything else. -/
def place : Canon → Int
  | .num value _ => value.place
  | _ => 0

def spelling : Canon → Text
  | .null => []
  | .num _ spelled => spelled
  | .text spelled => spelled

theorem cmp_eq : (Ord.compare : Canon → Canon → Ordering) =
    compareLex (compareOn rank) (compareLex (compareOn place) (compareOn spelling)) := by
  funext first second
  cases first <;> cases second <;> rfl

instance : Std.TransOrd Canon := by
  show Std.TransCmp (Ord.compare : Canon → Canon → Ordering)
  rw [cmp_eq]
  infer_instance

theorem cmp_eq_iff (first second : Canon) : Canon.cmp first second = .eq ↔ first = second := by
  show Ord.compare first second = .eq ↔ first = second
  rw [cmp_eq]
  simp only [compareLex_eq_eq, compareOn, Std.LawfulEqCmp.compare_eq_iff_eq]
  constructor
  · rintro ⟨ranks, places, spellings⟩
    cases first <;> cases second <;> cases ranks
    · rfl
    · cases F64.place_injective _ _ places
      cases show _ = _ from spellings
      rfl
    · cases show _ = _ from spellings
      rfl
  · intro same
    subst same
    exact ⟨rfl, rfl, rfl⟩

instance : Std.LawfulEqOrd Canon where
  eq_of_compare := (cmp_eq_iff _ _).mp
  compare_self := (cmp_eq_iff _ _).mpr rfl

end Canon

/-- The map of some rows after those it already holds. -/
def indexFrom (crates : Crates) (map : Std.TreeMap Key KeyedRow) (rows : List KeyedRow) :
    Std.TreeMap Key KeyedRow :=
  rows.foldl (fun map row => map.insertIfNew (canonicalKey crates row) row) map

theorem index_map (crates : Crates) (rows : List KeyedRow) (duplicates : Nat) :
    (index crates rows duplicates).1 = indexFrom crates ∅ rows := by
  suffices step : ∀ (map : Std.TreeMap Key KeyedRow) (duplicates : Nat),
      (rows.foldl (fileRow crates) (map, duplicates)).1 = indexFrom crates map rows from
    step ∅ duplicates
  induction rows with
  | nil =>
    intro map duplicates
    rfl
  | cons row rows ih =>
    intro map duplicates
    exact ih _ _

/-- What is true of every row under its key is true of everything filed. -/
theorem holds_of_indexFrom (crates : Crates) (holds : Key → KeyedRow → Prop)
    (rows : List KeyedRow) (ofRows : ∀ row ∈ rows, holds (canonicalKey crates row) row)
    (map : Std.TreeMap Key KeyedRow) (ofMap : ∀ key row, map[key]? = some row → holds key row)
    (key : Key) (row : KeyedRow) (found : (indexFrom crates map rows)[key]? = some row) :
    holds key row := by
  induction rows generalizing map with
  | nil => exact ofMap key row found
  | cons first rows ih =>
    apply ih (fun row member => ofRows row (List.mem_cons_of_mem first member))
      (map.insertIfNew (canonicalKey crates first) first) _ found
    intro key row found
    rw [Std.TreeMap.getElem?_insertIfNew] at found
    split at found
    · rename_i fresh
      cases found
      rw [← Std.LawfulEqCmp.eq_of_compare fresh.1]
      exact ofRows first List.mem_cons_self
    · exact ofMap key row found

theorem mem_indexFrom (crates : Crates) (rows : List KeyedRow) (map : Std.TreeMap Key KeyedRow)
    (key : Key) :
    key ∈ indexFrom crates map rows ↔ key ∈ rows.map (canonicalKey crates) ∨ key ∈ map := by
  induction rows generalizing map with
  | nil =>
    show key ∈ map ↔ key ∈ [] ∨ key ∈ map
    simp
  | cons first rows ih =>
    have later := ih (map.insertIfNew (canonicalKey crates first) first)
    rw [Std.TreeMap.mem_insertIfNew, Std.LawfulEqCmp.compare_eq_iff_eq] at later
    show key ∈ indexFrom crates (map.insertIfNew (canonicalKey crates first) first) rows ↔ _
    rw [later, List.map_cons, List.mem_cons, eq_comm (a := key)]
    tauto

/-- The row a side holds for a key, the first one that has it. -/
def filed (crates : Crates) (rows : List KeyedRow) : Std.TreeMap Key KeyedRow :=
  indexFrom crates ∅ rows

theorem mem_filed (crates : Crates) (rows : List KeyedRow) (key : Key) :
    key ∈ filed crates rows ↔ key ∈ rows.map (canonicalKey crates) := by
  rw [filed, mem_indexFrom]
  simp

/-- A filed row is one of the rows, and its key is the one it is filed under. -/
theorem of_filed (crates : Crates) (rows : List KeyedRow) (key : Key) (row : KeyedRow)
    (found : (filed crates rows)[key]? = some row) :
    canonicalKey crates row = key ∧ row ∈ rows := by
  apply holds_of_indexFrom crates (fun key row => canonicalKey crates row = key ∧ row ∈ rows)
    rows _ ∅ _ key row found
  · intro row member
    exact ⟨rfl, member⟩
  · intro key row found
    simp at found

/-- A side holds the first of its rows that has the key. -/
theorem getElem?_indexFrom (crates : Crates) (rows : List KeyedRow) (map : Std.TreeMap Key KeyedRow)
    (key : Key) :
    (indexFrom crates map rows)[key]? =
      (map[key]?).or (rows.find? fun row => canonicalKey crates row = key) := by
  induction rows generalizing map with
  | nil => exact (Option.or_none).symm
  | cons first rows hypothesis =>
    show (indexFrom crates (map.insertIfNew (canonicalKey crates first) first) rows)[key]? = _
    rw [hypothesis, Std.TreeMap.getElem?_insertIfNew, List.find?_cons]
    by_cases same : canonicalKey crates first = key
    · subst same
      have equal := Std.ReflOrd.compare_self (a := canonicalKey crates first)
      rw [decide_eq_true rfl]
      by_cases taken : canonicalKey crates first ∈ map
      · obtain ⟨row, found⟩ := Option.isSome_iff_exists.mp
          (Std.TreeMap.mem_iff_isSome_getElem?.mp taken)
        rw [if_neg fun fresh => fresh.2 taken, found]
        rfl
      · rw [if_pos ⟨equal, taken⟩, Std.TreeMap.getElem?_eq_none taken]
        rfl
    · rw [if_neg fun fresh => same (Std.LawfulEqCmp.eq_of_compare fresh.1), decide_eq_false same]

theorem getElem?_filed (crates : Crates) (rows : List KeyedRow) (key : Key) :
    (filed crates rows)[key]? = rows.find? fun row => canonicalKey crates row = key := by
  rw [filed, getElem?_indexFrom, Std.TreeMap.getElem?_emptyc, Option.none_or]

theorem filed_absent_iff (crates : Crates) (rows : List KeyedRow) (key : Key) :
    (∀ row, (filed crates rows)[key]? ≠ some row) ↔
      key ∉ rows.map (canonicalKey crates) := by
  rw [← mem_filed, Std.TreeMap.mem_iff_isSome_getElem?]
  cases (filed crates rows)[key]? <;> simp

/-- The difference one joined entry adds to the report. -/
def differenceOf (crates : Crates) (columns : List Text) :
    Key × Joined KeyedRow KeyedRow → Option RowDiff
  | (_, .left row) => some ⟨.onlyLeft, row.key, some row.values, none, []⟩
  | (_, .right row) => some ⟨.onlyRight, row.key, none, some row.values, []⟩
  | (_, .both left right) =>
    let changed := changedColumns crates columns left.values right.values
    if changed.isEmpty then none
    else some ⟨.different, left.key, some left.values, some right.values, changed⟩

theorem visit_rows (crates : Crates) (columns : List Text) (out : RowComparison)
    (entry : Key × Joined KeyedRow KeyedRow) :
    (visit crates columns out entry).rows =
      out.rows ++ (differenceOf crates columns entry).toList := by
  obtain ⟨key, joined⟩ := entry
  cases joined with
  | left row => rfl
  | right row => rfl
  | both left right =>
    simp only [visit, differenceOf]
    split <;> simp

theorem foldl_visit_rows (crates : Crates) (columns : List Text)
    (entries : List (Key × Joined KeyedRow KeyedRow)) (out : RowComparison) :
    (entries.foldl (visit crates columns) out).rows =
      out.rows ++ entries.filterMap (differenceOf crates columns) := by
  induction entries generalizing out with
  | nil => simp
  | cons entry entries ih =>
    rw [List.foldl_cons, ih, visit_rows, List.filterMap_cons, List.append_assoc]
    cases differenceOf crates columns entry <;> rfl

/-- The joined entries of two sides. -/
def joined (crates : Crates) (left right : List KeyedRow) :
    List (Key × Joined KeyedRow KeyedRow) :=
  mergeJoin (filed crates left).toList (filed crates right).toList

theorem diffRows_rows (crates : Crates) (left right : List KeyedRow) (columns : List Text) :
    (diffRows crates left right columns).rows =
      (joined crates left right).filterMap (differenceOf crates columns) := by
  show (List.foldl (visit crates columns) _ (mergeJoin (index crates left 0).1.toList
    (index crates right (index crates left 0).2).1.toList)).rows = _
  rw [index_map, index_map, foldl_visit_rows]
  rfl

theorem mem_joined (crates : Crates) (left right : List KeyedRow) (key : Key)
    (entry : Joined KeyedRow KeyedRow) :
    (key, entry) ∈ joined crates left right ↔
      Holds (filed crates left).toList (filed crates right).toList key entry :=
  mem_mergeJoin _ _ Std.TreeMap.ordered_keys_toList Std.TreeMap.ordered_keys_toList key entry

/-- The values of the rows only the left side has. -/
def onlyLeftRows (rows : List RowDiff) : List (List Value) :=
  rows.filterMap fun row =>
    match row.left, row.right with
    | some values, none => some values
    | _, _ => none

/-- The values of the rows only the right side has. -/
def onlyRightRows (rows : List RowDiff) : List (List Value) :=
  rows.filterMap fun row =>
    match row.left, row.right with
    | none, some values => some values
    | _, _ => none

theorem mem_onlyLeftRows (crates : Crates) (left right : List KeyedRow) (columns : List Text)
    (values : List Value) :
    values ∈ onlyLeftRows (diffRows crates left right columns).rows ↔
      ∃ key row, (filed crates left)[key]? = some row ∧
        key ∉ right.map (canonicalKey crates) ∧ row.values = values := by
  rw [diffRows_rows, onlyLeftRows, List.filterMap_filterMap, List.mem_filterMap]
  constructor
  · rintro ⟨⟨key, entry⟩, member, taken⟩
    cases entry with
    | left row =>
      rw [mem_joined, Holds, Std.TreeMap.mem_toList_iff_getElem?_eq_some] at member
      refine ⟨key, row, member.1, (filed_absent_iff crates right key).mp ?_,
        Option.some.inj taken⟩
      simpa only [Std.TreeMap.mem_toList_iff_getElem?_eq_some] using member.2
    | right row => cases taken
    | both first second =>
      simp only [differenceOf] at taken
      split at taken <;> cases taken
  · rintro ⟨key, row, found, absent, rfl⟩
    refine ⟨(key, .left row), ?_, rfl⟩
    rw [mem_joined, Holds, Std.TreeMap.mem_toList_iff_getElem?_eq_some]
    refine ⟨found, ?_⟩
    simpa only [Std.TreeMap.mem_toList_iff_getElem?_eq_some] using
      (filed_absent_iff crates right key).mpr absent

theorem mem_onlyRightRows (crates : Crates) (left right : List KeyedRow) (columns : List Text)
    (values : List Value) :
    values ∈ onlyRightRows (diffRows crates left right columns).rows ↔
      ∃ key row, (filed crates right)[key]? = some row ∧
        key ∉ left.map (canonicalKey crates) ∧ row.values = values := by
  rw [diffRows_rows, onlyRightRows, List.filterMap_filterMap, List.mem_filterMap]
  constructor
  · rintro ⟨⟨key, entry⟩, member, taken⟩
    cases entry with
    | left row => cases taken
    | right row =>
      rw [mem_joined, Holds, Std.TreeMap.mem_toList_iff_getElem?_eq_some] at member
      refine ⟨key, row, member.1, (filed_absent_iff crates left key).mp ?_,
        Option.some.inj taken⟩
      simpa only [Std.TreeMap.mem_toList_iff_getElem?_eq_some] using member.2
    | both first second =>
      simp only [differenceOf] at taken
      split at taken <;> cases taken
  · rintro ⟨key, row, found, absent, rfl⟩
    refine ⟨(key, .right row), ?_, rfl⟩
    rw [mem_joined, Holds, Std.TreeMap.mem_toList_iff_getElem?_eq_some]
    refine ⟨found, ?_⟩
    simpa only [Std.TreeMap.mem_toList_iff_getElem?_eq_some] using
      (filed_absent_iff crates left key).mpr absent

end DbFree.RowCompare
