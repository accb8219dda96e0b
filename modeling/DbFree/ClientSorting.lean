import DbFree.Errors
import DbFree.MixedOrders
import DbFree.ResultView

/- The sorts the program makes itself where an engine cannot (integrations/http.rs, mod local, and
integrations/redis.rs), and the columns whose cells their comparisons put into an order. -/
namespace DbFree

open MixedOrders

/-- `first <= second`. -/
def F64.atMost (first second : F64) : Bool := (first.partialCmp second).any (· != .gt)

/-- Where a number stands among the numbers; both zeros stand alike. -/
def F64.rank (number : F64) : Int := if number.isZero then 0 else number.place

/-- `skip(offset).take(limit)`. -/
def pageOf {α : Type} (offset limit : Nat) (list : List α) : List α :=
  (list.drop offset).take limit

/-- What is asked of a sort: an order that compares the rows, all rows again, none greater than a
later one, and pages that hold each row once. -/
structure SortsRows (compareRows : Row → Row → Ordering) (rows sorted : List Row)
    (page : Nat → Nat → List Row) : Prop where
  order : Orders compareRows {row | row ∈ rows}
  perm : sorted.Perm rows
  ascending : sorted.Pairwise fun first second => compareRows first second ≠ .gt
  pages : ∀ limit count, rows.length ≤ count * limit →
    (List.range count).flatMap (fun number => page (number * limit) limit) = sorted

namespace Server

variable (crates : Crates)

/-- Filter, sort, offset and limit (http.rs, `local::page`). -/
def page (columns : List Text) (rows : List Row) (filters : List FilterRule) (mode : FilterMode)
    (sort : List SortRule) (offset limit : Nat) : List Row :=
  pageOf offset limit
    (applySort crates columns (applyFilters crates columns rows filters mode) sort)

def isNumber : Value → Bool
  | .int _ | .float _ => true
  | _ => false

def isNanCell : Value → Bool
  | .float number => number.isNan
  | _ => false

def isWhole : Value → Bool
  | .int _ => true
  | _ => false

/-- A whole number's value. -/
def toInt : Value → Int
  | .int number => number
  | _ => 0

/-- Anything but NULL. -/
def isCell : Value → Bool
  | .null => false
  | _ => true

/-- `number as f64`. -/
def double : Value → F64
  | .int number => F64.ofInt number
  | .float number => number
  | _ => F64.zero false

def compareDoubles (first second : Value) : Ordering :=
  compare (double first).rank (double second).rank

/-- Numbers by value: whole ones exactly, and a float with any other as doubles. -/
def compareNumbers : Value → Value → Ordering
  | .int first, .int second => compare first second
  | first, second => ((double first).partialCmp (double second)).getD .eq

/-- NULL first, all else by its text. -/
def compareTexts : Value → Value → Ordering
  | .null, .null => .eq
  | .null, _ => .lt
  | _, .null => .gt
  | first, second => compare (cellText crates first) (cellText crates second)

/-- The cells have one order. NaN stands only among numbers that are all alike, no float lies from
the double of a whole number back to the double of a smaller one, and no text between the texts of
two numbers that stand the other way around. -/
structure Orderly (cells : Set Value) : Prop where
  nan : (∃ cell ∈ cells, isNanCell cell = true) →
    ∀ first ∈ cells, ∀ second ∈ cells, isNumber first = true → isNumber second = true →
      compareNumbers first second = .eq
  whole : ∀ small large float, .int small ∈ cells → .int large ∈ cells → .float float ∈ cells →
    small < large →
      ¬((F64.ofInt large).atMost float = true ∧ float.atMost (F64.ofInt small) = true)
  apart : NoneBetween isNumber compareNumbers (compareTexts crates) cells

end Server

namespace Redis

variable (crates : Crates)

abbrev cellText := Server.cellText crates

def compareCells (first second : Value) : Ordering :=
  match F64.parse (cellText crates first), F64.parse (cellText crates second) with
  | some x, some y => (x.partialCmp y).getD .eq
  | _, _ => compare (cellText crates first) (cellText crates second)

def columnIndex (columns : List Text) (name : Text) : Except AppError Nat :=
  match columns.findIdx? (· = name) with
  | some index => .ok index
  | none =>
    .error (.invalidInput ("Unknown column \"".toList ++ name ++ "\" for this key.".toList))

/-- The sort columns, all of which the key must have. -/
def sortKeys (columns : List Text) (sort : List SortRule) : Except AppError (List (Nat × Bool)) :=
  sort.mapM fun rule => (columnIndex columns rule.column).map fun index => (index, rule.desc)

/-- A row that has no such cell stands beside any other. -/
def compareAt (first second : Option Value) : Ordering :=
  match first, second with
  | some x, some y => compareCells crates x y
  | _, _ => .eq

def compareRows (first second : Row) : List (Nat × Bool) → Ordering
  | [] => .eq
  | (index, desc) :: rest =>
    let order := compareAt crates first[index]? second[index]?
    let order := if desc then order.swap else order
    if order ≠ .eq then order else compareRows first second rest

def applySort (columns : List Text) (rows : List Row) (sort : List SortRule) :
    Except AppError (List Row) :=
  if sort.isEmpty then .ok rows
  else
    (sortKeys columns sort).map fun keys =>
      rows.insertionSort fun first second => compareRows crates first second keys ≠ .gt

def isNumber (cell : Value) : Bool := (F64.parse (cellText crates cell)).isSome

def isNanCell (cell : Value) : Bool := (F64.parse (cellText crates cell)).any F64.isNan

/-- Numbers, in whatever spelling, by value. -/
def compareNumbers (first second : Value) : Ordering :=
  match F64.parse (cellText crates first), F64.parse (cellText crates second) with
  | some x, some y => (x.partialCmp y).getD .eq
  | _, _ => .eq

def compareTexts (first second : Value) : Ordering :=
  compare (cellText crates first) (cellText crates second)

/-- The same number, or the same text. -/
def Alike (first second : Value) : Prop :=
  if isNumber crates first && isNumber crates second then
    compareNumbers crates first second = .eq
  else cellText crates first = cellText crates second

/-- The cells of a column have one order. A row without a cell stands only among cells that are
all alike and NaN only among numbers that are, and no other text between the texts of two numbers
that stand the other way around. -/
structure Orderly (cells : Set (Option Value)) : Prop where
  missing : none ∈ cells → ∀ first second, some first ∈ cells → some second ∈ cells →
    Alike crates first second
  nan : (∃ cell, some cell ∈ cells ∧ isNanCell crates cell = true) →
    ∀ first second, some first ∈ cells → some second ∈ cells → isNumber crates first = true →
      isNumber crates second = true → compareNumbers crates first second = .eq
  apart : NoneBetween (isNumber crates) (compareNumbers crates) (compareTexts crates)
    {cell | some cell ∈ cells}

end Redis

namespace F64

theorem compare_place_zero {number : F64} (apart : number.isZero = false) {zero : Int}
    (isZero : zero = 0 ∨ zero = -1) : compare number.place zero = compare number.place 0 := by
  rw [F64.isZero, decide_eq_false_iff_not] at apart
  have side : number.place ≤ -2 ∨ 1 ≤ number.place := by
    rw [place]
    split <;> omega
  rcases side with below | above
  · rw [compare_lt_iff_lt.mpr (by omega), compare_lt_iff_lt.mpr (by omega)]
  · rw [compare_gt_iff_gt.mpr (by omega), compare_gt_iff_gt.mpr (by omega)]

theorem place_of_isZero {number : F64} (isZero : number.isZero = true) :
    number.place = 0 ∨ number.place = -1 := by
  rw [F64.isZero, decide_eq_true_eq] at isZero
  rw [place]
  split <;> omega

theorem partialCmp_eq {first second : F64} (firstReal : first.isNan = false)
    (secondReal : second.isNan = false) :
    first.partialCmp second = some (compare first.rank second.rank) := by
  rw [partialCmp, firstReal, secondReal, rank, rank]
  cases left : first.isZero with
  | true =>
    cases right : second.isZero with
    | true => rfl
    | false =>
      have turned := compare_place_zero right (place_of_isZero left)
      have swapped : compare first.place second.place = compare 0 second.place := by
        rw [Std.OrientedOrd.eq_swap (a := first.place), turned,
          ← Std.OrientedOrd.eq_swap (a := (0 : Int))]
      exact congrArg some swapped
  | false =>
    cases right : second.isZero with
    | true => exact congrArg some (compare_place_zero left (place_of_isZero right))
    | false => rfl

theorem ofInt_isNan (number : Int) : (ofInt number).isNan = false := by
  have small : (ofInt number).magnitude.val ≤ infinity := Nat.min_le_left _ _
  rw [isNan, decide_eq_false_iff_not]
  omega

theorem partialCmp_nan {first second : F64} (nan : first.isNan = true ∨ second.isNan = true) :
    first.partialCmp second = none := by
  rw [partialCmp, if_pos (by rwa [Bool.or_eq_true])]

theorem atMost_iff {first second : F64} (firstReal : first.isNan = false)
    (secondReal : second.isNan = false) :
    first.atMost second = true ↔ compare first.rank second.rank ≠ .gt := by
  rw [atMost, partialCmp_eq firstReal secondReal, Option.any_some, bne_iff_ne]

theorem atMost_nan {first second : F64} (nan : first.isNan = true ∨ second.isNan = true) :
    first.atMost second = false := by
  rw [atMost, partialCmp_nan nan]
  rfl

end F64

section Sorting

theorem flatMap_pageOf {α : Type} (limit count : Nat) (list : List α) :
    (List.range count).flatMap (fun number => pageOf (number * limit) limit list) =
      list.take (count * limit) := by
  induction count with
  | zero => simp
  | succ count hypothesis =>
    rw [List.range_succ, List.flatMap_append, hypothesis, List.flatMap_singleton, pageOf,
      Nat.succ_mul, List.take_add]

variable {compareRows : Row → Row → Ordering} {rows : List Row}

theorem sortsRows_of_orders (orders : Orders compareRows {row | row ∈ rows}) {sorted : List Row}
    (isSorted : sorted = rows.insertionSort fun first second => compareRows first second ≠ .gt) :
    SortsRows compareRows rows sorted fun offset limit => pageOf offset limit sorted where
  order := orders
  perm := by
    rw [isSorted]
    exact List.perm_insertionSort _ rows
  ascending := by
    rw [isSorted]
    exact StableSort.sorted_of_consistent
      ⟨fun _ first _ second => orders.total first second, orders.trans⟩
  pages limit count enough := by
    rw [flatMap_pageOf]
    apply List.take_of_length_le
    rwa [isSorted, List.length_insertionSort]

theorem sortsRows_of_eq (same : ∀ first second, compareRows first second = .eq) :
    SortsRows compareRows rows rows fun offset limit => pageOf offset limit rows where
  order := Orders.of_eq fun first _ second _ => same first second
  perm := List.Perm.refl rows
  ascending := List.pairwise_of_forall fun {first second} => ne_gt_of_eq (same first second)
  pages limit count enough := by
    rw [flatMap_pageOf]
    exact List.take_of_length_le enough

end Sorting

namespace Server

variable {crates : Crates}

theorem compareNumbers_eq {first second : Value} (apart : isWhole first = false ∨
    isWhole second = false) :
    compareNumbers first second = ((double first).partialCmp (double second)).getD .eq := by
  cases first <;> cases second <;> first | rfl | (rcases apart with apart | apart <;> cases apart)

/-- Booleans stand as their texts do. -/
theorem compare_bool (first second : Bool) :
    compare first second =
      compare (cellText crates (.bool first)) (cellText crates (.bool second)) := by
  cases first <;> cases second <;> simp only [cellText] <;> decide

/-- Of two numbers the comparison of cells takes the values, of all other cells the texts. -/
theorem compareCells_eq_mixed :
    compareCells crates = mixed isNumber compareNumbers (compareTexts crates) := by
  funext first second
  cases first <;> cases second <;> first | rfl | exact compare_bool _ _

/-- The texts' comparison is one of keys: whether there is a cell at all, and its text. -/
theorem compareTexts_eq (first second : Value) :
    compareTexts crates first second =
      (compare (isCell first) (isCell second)).then
        (compare (cellText crates first) (cellText crates second)) := by
  cases first <;> cases second <;> rfl

theorem orders_compareTexts (cells : Set Value) : Orders (compareTexts crates) cells :=
  (Orders.iff_of_agree fun first _ second _ => compareTexts_eq first second).mpr
    ((Orders.of_key isCell cells).orders_then (Orders.of_key (cellText crates) cells))

/-- The whole numbers and floats that `number` picks, without NaN. -/
def realNumbers (cells : Set Value) : Set Value :=
  {cell ∈ {cell ∈ cells | isNumber cell = true} | isNanCell cell = false}

theorem double_isNan {cell : Value} (real : isNanCell cell = false) :
    (double cell).isNan = false := by
  cases cell with
  | int number => exact F64.ofInt_isNan number
  | float number => exact real
  | _ => rfl

/-- Numbers that are no NaN stand by their doubles, and whole ones among each other exactly. -/
theorem compareNumbers_eq_mixed {cells : Set Value} :
    ∀ first ∈ realNumbers cells, ∀ second ∈ realNumbers cells,
      compareNumbers first second =
        mixed isWhole compareNumbers compareDoubles first second := by
  intro first firstIn second secondIn
  rw [mixed]
  split
  · rfl
  · next apart =>
    rw [Bool.and_eq_true, not_and_or, Bool.not_eq_true, Bool.not_eq_true] at apart
    rw [compareNumbers_eq apart,
      F64.partialCmp_eq (double_isNan firstIn.2) (double_isNan secondIn.2)]
    rfl

theorem orders_whole (cells : Set Value) :
    Orders compareNumbers {cell ∈ realNumbers cells | isWhole cell = true} := by
  refine (Orders.iff_of_agree ?_).mpr (Orders.of_key toInt _)
  rintro first ⟨-, isFirst⟩ second ⟨-, isSecond⟩
  cases first <;> cases isFirst
  cases second <;> cases isSecond
  rfl

/-- Between whole numbers a float stands in the wrong order only where it lies from the double of
the larger one back to that of the smaller. -/
theorem noneBetween_whole_iff (cells : Set Value) :
    NoneBetween isWhole compareNumbers compareDoubles (realNumbers cells) ↔
      ∀ small large float, .int small ∈ cells → .int large ∈ cells → .float float ∈ cells →
        small < large →
          ¬((F64.ofInt large).atMost float = true ∧ float.atMost (F64.ofInt small) = true) := by
  constructor
  · rintro apart small large float smallIn largeIn floatIn less ⟨above, below⟩
    cases real : float.isNan with
    | true =>
      rw [F64.atMost_nan (Or.inl real)] at below
      cases below
    | false =>
      rw [F64.atMost_iff (F64.ofInt_isNan large) real] at above
      rw [F64.atMost_iff real (F64.ofInt_isNan small)] at below
      have ahead : compareNumbers (.int small) (.int large) = .lt := compare_lt_iff_lt.mpr less
      have alike := apart (.int small) ⟨⟨smallIn, rfl⟩, rfl⟩ (.int large) ⟨⟨largeIn, rfl⟩, rfl⟩
        (.float float) ⟨⟨floatIn, rfl⟩, real⟩ rfl rfl rfl (by rw [ahead]; decide) above below
      rw [ahead] at alike
      cases alike.1
  · intro none first firstIn second secondIn third thirdIn isFirst isSecond isThird order
      above below
    cases first <;> cases isFirst
    cases second <;> cases isSecond
    next small large =>
    cases third with
    | float float =>
      have upper := (F64.atMost_iff (F64.ofInt_isNan large) thirdIn.2).mpr above
      have lower := (F64.atMost_iff thirdIn.2 (F64.ofInt_isNan small)).mpr below
      have notLess : ¬small < large := fun less =>
        none small large float firstIn.1.1 secondIn.1.1 thirdIn.1.1 less ⟨upper, lower⟩
      have notGreater : ¬large < small := fun less => order (compare_gt_iff_gt.mpr less)
      have same : small = large := by omega
      subst same
      have turned := eq_of_ne_gt above (by rwa [compareDoubles, ← Std.OrientedOrd.eq_swap])
      have swapped := (Orders.of_key (fun cell => (double cell).rank) Set.univ).swap
        (.int small) trivial (.float float) trivial
      refine ⟨compare_eq_iff_eq.mpr rfl, turned, swapped.trans ?_⟩
      exact congrArg Ordering.swap turned
    | int number => cases isThird
    | _ => cases thirdIn.1.2

theorem double_nan {cell : Value} (nan : isNanCell cell = true) :
    (double cell).isNan = true ∧ isWhole cell = false := by
  cases cell with
  | float number => exact ⟨nan, rfl⟩
  | _ => cases nan

theorem compareNumbers_nan (first second : Value)
    (nan : isNanCell first = true ∨ isNanCell second = true) :
    compareNumbers first second = .eq := by
  have apart := nan.imp (fun left => (double_nan left).2) (fun right => (double_nan right).2)
  have none := nan.imp (fun left => (double_nan left).1) (fun right => (double_nan right).1)
  rw [compareNumbers_eq apart, F64.partialCmp_nan none]
  rfl

theorem orders_realNumbers_iff (cells : Set Value) :
    Orders compareNumbers (realNumbers cells) ↔
      NoneBetween isWhole compareNumbers compareDoubles (realNumbers cells) := by
  have doubles : Orders compareDoubles (realNumbers cells) := Orders.of_key _ _
  have mixedOrders : Orders (mixed isWhole compareNumbers compareDoubles) (realNumbers cells) ↔
      _ := orders_mixed_iff doubles
  rw [← Orders.iff_of_agree compareNumbers_eq_mixed] at mixedOrders
  rw [mixedOrders]
  exact and_iff_right (orders_whole cells)

theorem nan_iff (cells : Set Value) :
    ((∃ cell ∈ {cell ∈ cells | isNumber cell = true}, isNanCell cell = true) →
        ∀ first ∈ {cell ∈ cells | isNumber cell = true},
          ∀ second ∈ {cell ∈ cells | isNumber cell = true}, compareNumbers first second = .eq) ↔
      ((∃ cell ∈ cells, isNanCell cell = true) →
        ∀ first ∈ cells, ∀ second ∈ cells, isNumber first = true → isNumber second = true →
          compareNumbers first second = .eq) := by
  constructor
  · rintro flat ⟨cell, member, nan⟩ first firstIn second secondIn isFirst isSecond
    have counts : isNumber cell = true := by
      cases cell with
      | float number => rfl
      | _ => cases nan
    exact flat ⟨cell, ⟨member, counts⟩, nan⟩ first ⟨firstIn, isFirst⟩ second ⟨secondIn, isSecond⟩
  · rintro flat ⟨cell, ⟨member, -⟩, nan⟩ first ⟨firstIn, isFirst⟩ second ⟨secondIn, isSecond⟩
    exact flat ⟨cell, member, nan⟩ first firstIn second secondIn isFirst isSecond

theorem orders_compareCells_iff {cells : Set Value} :
    Orders (compareCells crates) cells ↔ Orderly crates cells := by
  rw [compareCells_eq_mixed, orders_mixed_iff (orders_compareTexts cells),
    orders_wild_iff compareNumbers_nan, nan_iff]
  change (Orders compareNumbers (realNumbers cells) ∧ _) ∧ _ ↔ _
  rw [orders_realNumbers_iff, noneBetween_whole_iff]
  constructor
  · rintro ⟨⟨whole, nan⟩, apart⟩
    exact ⟨nan, whole, apart⟩
  · rintro ⟨nan, whole, apart⟩
    exact ⟨⟨whole, nan⟩, apart⟩

/-- The cells of a column, NULL where a row is too short. -/
def cellsAt (index : Nat) (rows : List Row) : Set Value :=
  (fun row : Row => row[index]?.getD .null) '' {row | row ∈ rows}

/-- How one sort column compares rows. -/
def compareColumn (crates : Crates) (key : Nat × Bool) : Row → Row → Ordering :=
  directed key.2 fun first second =>
    compareCells crates (first[key.1]?.getD .null) (second[key.1]?.getD .null)

theorem compareRows_eq_lexical (first second : Row) (keys : List (Nat × Bool)) :
    compareRows crates first second keys =
      lexical (keys.map (compareColumn crates)) first second := by
  induction keys with
  | nil => rfl
  | cons key rest hypothesis =>
    obtain ⟨index, desc⟩ := key
    rw [compareRows, List.map_cons, lexical, ← hypothesis, compareColumn, directed]
    cases compareCells crates (first[index]?.getD .null) (second[index]?.getD .null) <;>
      cases desc <;> rfl

theorem orders_compareRows {rows : List Row} {keys : List (Nat × Bool)}
    (orderly : ∀ key ∈ keys, Orderly crates (cellsAt key.1 rows)) :
    Orders (fun first second => compareRows crates first second keys) {row | row ∈ rows} := by
  refine (Orders.iff_of_agree fun first _ second _ =>
    compareRows_eq_lexical first second keys).mpr (orders_lexical ?_)
  intro cmp member
  obtain ⟨key, isKey, rfl⟩ := List.mem_map.mp member
  exact orders_directed
    (Orders.orders_image_iff.mp (orders_compareCells_iff.mpr (orderly key isKey))) key.2

theorem found_of_mem_sortKeys {columns : List Text} {sort : List SortRule} {key : Nat × Bool}
    (member : key ∈ sortKeys columns sort) : ∃ name, columns.findIdx? (· = name) = some key.1 := by
  obtain ⟨rule, -, found⟩ := List.mem_filterMap.mp member
  obtain ⟨index, isIndex, rfl⟩ := Option.map_eq_some_iff.mp found
  exact ⟨rule.column, isIndex⟩

/-- The fallback sorts by every list of rules exactly if each column has one order. -/
theorem sorts_iff (crates : Crates) (columns : List Text) (rows : List Row)
    (filters : List FilterRule) (mode : FilterMode) {kept : List Row}
    (isKept : applyFilters crates columns rows filters mode = kept) :
    (∀ sort, SortsRows
        (fun first second => compareRows crates first second (sortKeys columns sort)) kept
        (applySort crates columns kept sort) (page crates columns rows filters mode sort)) ↔
      ∀ name index, columns.findIdx? (· = name) = some index →
        Orderly crates (cellsAt index kept) := by
  subst isKept
  constructor
  · intro sorts name index found
    have isSort : sortKeys columns [⟨name, false⟩] = [(index, false)] := by
      simp only [sortKeys, List.filterMap_cons, List.filterMap_nil, found, Option.map_some]
    have order := (sorts [⟨name, false⟩]).order
    rw [isSort] at order
    apply orders_compareCells_iff.mp
    apply Orders.orders_image_iff.mpr
    refine (Orders.iff_of_agree ?_).mpr order
    intro first _ second _
    rw [compareRows_eq_lexical, List.map_cons, List.map_nil, lexical, lexical, Ordering.then_eq]
    rfl
  · intro orderly sort
    cases sort with
    | nil => exact sortsRows_of_eq fun _ _ => rfl
    | cons rule rules =>
      apply sortsRows_of_orders _ rfl
      apply orders_compareRows
      intro key member
      obtain ⟨name, found⟩ := found_of_mem_sortKeys member
      exact orderly name key.1 found

end Server

namespace Redis

variable {crates : Crates}

/-- Where both texts are numbers the comparison of cells takes the values, else the texts. -/
theorem compareCells_eq_mixed :
    compareCells crates =
      mixed (isNumber crates) (compareNumbers crates) (compareTexts crates) := by
  funext first second
  rw [compareCells, mixed, isNumber, isNumber, compareNumbers, compareTexts]
  cases F64.parse (cellText crates first) with
  | none => rfl
  | some x =>
    cases F64.parse (cellText crates second) with
    | none => rfl
    | some y => rfl

/-- The number a cell's text spells. -/
def number (crates : Crates) (cell : Value) : F64 :=
  (F64.parse (cellText crates cell)).getD (F64.zero false)

theorem compareNumbers_eq {first second : Value} (isFirst : isNumber crates first = true)
    (isSecond : isNumber crates second = true) :
    compareNumbers crates first second =
      ((number crates first).partialCmp (number crates second)).getD .eq := by
  obtain ⟨x, firstReads⟩ := Option.isSome_iff_exists.mp isFirst
  obtain ⟨y, secondReads⟩ := Option.isSome_iff_exists.mp isSecond
  rw [compareNumbers, number, number, firstReads, secondReads]
  rfl

theorem isNan_number {cell : Value} (isCell : isNumber crates cell = true) :
    (number crates cell).isNan = isNanCell crates cell := by
  obtain ⟨x, reads⟩ := Option.isSome_iff_exists.mp isCell
  rw [number, isNanCell, reads]
  rfl

theorem isNumber_of_nan {cell : Value} (nan : isNanCell crates cell = true) :
    isNumber crates cell = true := by
  rw [isNanCell] at nan
  rw [isNumber]
  cases reads : F64.parse (cellText crates cell) with
  | none =>
    rw [reads] at nan
    cases nan
  | some x => rfl

theorem compareNumbers_nan (first second : Value)
    (nan : isNanCell crates first = true ∨ isNanCell crates second = true) :
    compareNumbers crates first second = .eq := by
  cases isFirst : F64.parse (cellText crates first) with
  | none => rw [compareNumbers, isFirst]
  | some x =>
    cases isSecond : F64.parse (cellText crates second) with
    | none => rw [compareNumbers, isFirst, isSecond]
    | some y =>
      have nans : x.isNan = true ∨ y.isNan = true := by
        rwa [isNanCell, isNanCell, isFirst, isSecond, Option.any_some, Option.any_some] at nan
      simp only [compareNumbers, isFirst, isSecond, F64.partialCmp_nan nans, Option.getD_none]

theorem orders_realNumbers (cells : Set Value) :
    Orders (compareNumbers crates)
      {cell ∈ {cell ∈ cells | isNumber crates cell = true} | isNanCell crates cell = false} := by
  refine (Orders.iff_of_agree ?_).mpr (Orders.of_key (fun cell => (number crates cell).rank) _)
  rintro first ⟨⟨-, isFirst⟩, firstReal⟩ second ⟨⟨-, isSecond⟩, secondReal⟩
  rw [compareNumbers_eq isFirst isSecond,
    F64.partialCmp_eq ((isNan_number isFirst).trans firstReal)
      ((isNan_number isSecond).trans secondReal)]
  rfl

theorem orders_numbers_iff (cells : Set Value) :
    Orders (compareNumbers crates) {cell ∈ cells | isNumber crates cell = true} ↔
      ((∃ cell ∈ cells, isNanCell crates cell = true) →
        ∀ first ∈ cells, ∀ second ∈ cells, isNumber crates first = true →
          isNumber crates second = true → compareNumbers crates first second = .eq) := by
  rw [orders_wild_iff compareNumbers_nan]
  constructor
  · rintro ⟨-, flat⟩ ⟨cell, member, nan⟩ first firstIn second secondIn isFirst isSecond
    exact flat ⟨cell, ⟨member, isNumber_of_nan nan⟩, nan⟩ first ⟨firstIn, isFirst⟩ second
      ⟨secondIn, isSecond⟩
  · intro flat
    refine ⟨orders_realNumbers cells, ?_⟩
    rintro ⟨cell, ⟨member, -⟩, nan⟩ first ⟨firstIn, isFirst⟩ second ⟨secondIn, isSecond⟩
    exact flat ⟨cell, member, nan⟩ first firstIn second secondIn isFirst isSecond

theorem orders_compareCells_iff (cells : Set Value) :
    Orders (compareCells crates) cells ↔
      ((∃ cell ∈ cells, isNanCell crates cell = true) →
        ∀ first ∈ cells, ∀ second ∈ cells, isNumber crates first = true →
          isNumber crates second = true → compareNumbers crates first second = .eq) ∧
      NoneBetween (isNumber crates) (compareNumbers crates) (compareTexts crates) cells := by
  have texts : Orders (compareTexts crates) cells := Orders.of_key (cellText crates) cells
  rw [compareCells_eq_mixed, orders_mixed_iff texts, orders_numbers_iff]

/-- The cells of a column, none where a row is too short. -/
def cellsAt (index : Nat) (rows : List Row) : Set (Option Value) :=
  (fun row : Row => row[index]?) '' {row | row ∈ rows}

theorem compareAt_missing (first second : Option Value)
    (missing : first.isNone = true ∨ second.isNone = true) :
    compareAt crates first second = .eq := by
  cases first with
  | none => cases second <;> rfl
  | some x =>
    cases second with
    | none => rfl
    | some y => rcases missing with missing | missing <;> cases missing

theorem compareCells_eq_iff (first second : Value) :
    compareCells crates first second = .eq ↔ Alike crates first second := by
  rw [compareCells_eq_mixed, mixed, Alike]
  split
  · rfl
  · exact Std.LawfulEqOrd.compare_eq_iff_eq

theorem flat_iff (cells : Set (Option Value)) :
    (∀ first ∈ cells, ∀ second ∈ cells, compareAt crates first second = .eq) ↔
      ∀ first second, some first ∈ cells → some second ∈ cells → Alike crates first second := by
  constructor
  · intro flat first second firstIn secondIn
    exact (compareCells_eq_iff first second).mp (flat _ firstIn _ secondIn)
  · intro alike first firstIn second secondIn
    cases first with
    | none => exact compareAt_missing none second (Or.inl rfl)
    | some x =>
      cases second with
      | none => rfl
      | some y => exact (compareCells_eq_iff x y).mpr (alike x y firstIn secondIn)

theorem orders_compareAt_iff {cells : Set (Option Value)} :
    Orders (compareAt crates) cells ↔ Orderly crates cells := by
  have present : {cell ∈ cells | cell.isNone = false} = some '' {cell | some cell ∈ cells} := by
    ext cell
    cases cell with
    | none => simp
    | some cell => simp
  have ordersPresent : Orders (compareAt crates) (some '' {cell | some cell ∈ cells}) ↔
      Orders (compareCells crates) {cell | some cell ∈ cells} := Orders.orders_image_iff
  have absent : (∃ cell ∈ cells, cell.isNone = true) ↔ none ∈ cells := by
    constructor
    · rintro ⟨cell, member, isNone⟩
      rwa [Option.isNone_iff_eq_none.mp isNone] at member
    · intro member
      exact ⟨none, member, rfl⟩
  rw [orders_wild_iff compareAt_missing, present, ordersPresent, orders_compareCells_iff, absent,
    flat_iff]
  constructor
  · rintro ⟨⟨nan, apart⟩, missing⟩
    refine ⟨missing, ?_, apart⟩
    rintro ⟨cell, member, isNan⟩ first second firstIn secondIn
    exact nan ⟨cell, member, isNan⟩ first firstIn second secondIn
  · rintro ⟨missing, nan, apart⟩
    refine ⟨⟨?_, apart⟩, missing⟩
    rintro ⟨cell, member, isNan⟩ first firstIn second secondIn
    exact nan ⟨cell, member, isNan⟩ first second firstIn secondIn

/-- How one sort column compares rows. -/
def compareColumn (crates : Crates) (key : Nat × Bool) : Row → Row → Ordering :=
  directed key.2 fun first second => compareAt crates first[key.1]? second[key.1]?

theorem compareRows_eq_lexical (first second : Row) (keys : List (Nat × Bool)) :
    compareRows crates first second keys =
      lexical (keys.map (compareColumn crates)) first second := by
  induction keys with
  | nil => rfl
  | cons key rest hypothesis =>
    obtain ⟨index, desc⟩ := key
    rw [compareRows, List.map_cons, lexical, ← hypothesis, compareColumn, directed]
    cases compareAt crates first[index]? second[index]? <;> cases desc <;> rfl

theorem found_of_columnIndex {columns : List Text} {name : Text} {index : Nat}
    (found : columnIndex columns name = .ok index) : columns.findIdx? (· = name) = some index := by
  rw [columnIndex] at found
  split at found
  · next known =>
    cases found
    exact known
  · cases found

theorem found_of_sortKeys {columns : List Text} {sort : List SortRule} {keys : List (Nat × Bool)}
    (known : sortKeys columns sort = .ok keys) :
    ∀ key ∈ keys, ∃ name, columns.findIdx? (· = name) = some key.1 := by
  induction sort generalizing keys with
  | nil =>
    cases known
    exact fun _ member => nomatch member
  | cons rule rules hypothesis =>
    rw [sortKeys, List.mapM_cons] at known
    obtain ⟨key, isKey, later⟩ := bind_ok known
    obtain ⟨others, isOthers, same⟩ := bind_ok later
    cases same
    intro other member
    rcases List.mem_cons.mp member with rfl | inRest
    · cases isIndex : columnIndex columns rule.column with
      | error error =>
        rw [isIndex] at isKey
        cases isKey
      | ok index =>
        rw [isIndex] at isKey
        cases isKey
        exact ⟨rule.column, found_of_columnIndex isIndex⟩
    · exact hypothesis isOthers other inRest

theorem orders_compareRows {rows : List Row} {keys : List (Nat × Bool)}
    (orderly : ∀ key ∈ keys, Orderly crates (cellsAt key.1 rows)) :
    Orders (fun first second => compareRows crates first second keys) {row | row ∈ rows} := by
  refine (Orders.iff_of_agree fun first _ second _ =>
    compareRows_eq_lexical first second keys).mpr (orders_lexical ?_)
  intro cmp member
  obtain ⟨key, isKey, rfl⟩ := List.mem_map.mp member
  exact orders_directed
    (Orders.orders_image_iff.mp (orders_compareAt_iff.mpr (orderly key isKey))) key.2

/-- The rows of a key are sorted by every list of rules on its columns exactly if each column has
one order. -/
theorem sorts_iff (crates : Crates) (columns : List Text) (rows : List Row) :
    (∀ sort keys, sortKeys columns sort = .ok keys →
        ∃ sorted, applySort crates columns rows sort = .ok sorted ∧
          SortsRows (fun first second => compareRows crates first second keys) rows sorted
            fun offset limit => pageOf offset limit sorted) ↔
      ∀ name index, columns.findIdx? (· = name) = some index →
        Orderly crates (cellsAt index rows) := by
  constructor
  · intro sorts name index found
    have isSort : sortKeys columns [⟨name, false⟩] = .ok [(index, false)] := by
      simp only [sortKeys, List.mapM_cons, List.mapM_nil, columnIndex, found]
      rfl
    obtain ⟨sorted, -, sorting⟩ := sorts _ _ isSort
    apply orders_compareAt_iff.mp
    apply Orders.orders_image_iff.mpr
    refine (Orders.iff_of_agree ?_).mpr sorting.order
    intro first _ second _
    rw [compareRows_eq_lexical, List.map_cons, List.map_nil, lexical, lexical, Ordering.then_eq]
    rfl
  · intro orderly sort keys known
    cases sort with
    | nil =>
      cases known
      exact ⟨rows, rfl, sortsRows_of_eq fun _ _ => rfl⟩
    | cons rule rules =>
      have sorted : applySort crates columns rows (rule :: rules) =
          .ok (rows.insertionSort fun first second => compareRows crates first second keys ≠ .gt) :=
        congrArg (Except.map _) known
      refine ⟨_, sorted, sortsRows_of_orders ?_ rfl⟩
      apply orders_compareRows
      intro key member
      obtain ⟨name, found⟩ := found_of_sortKeys known key member
      exact orderly name key.1 found

end Redis

/-- For whatever rows and rules, both sorts sort exactly where each sort column has one order. -/
theorem client_sorts_iff (crates : Crates) (columns : List Text) (rows : List Row)
    (filters : List FilterRule) (mode : FilterMode) :
    ((∀ sort, SortsRows
        (fun first second =>
          Server.compareRows crates first second (Server.sortKeys columns sort))
        (Server.applyFilters crates columns rows filters mode)
        (Server.applySort crates columns (Server.applyFilters crates columns rows filters mode)
          sort)
        (Server.page crates columns rows filters mode sort)) ↔
      ∀ name index, columns.findIdx? (· = name) = some index →
        Server.Orderly crates
          (Server.cellsAt index (Server.applyFilters crates columns rows filters mode))) ∧
    ((∀ sort keys, Redis.sortKeys columns sort = .ok keys →
        ∃ sorted, Redis.applySort crates columns rows sort = .ok sorted ∧
          SortsRows (fun first second => Redis.compareRows crates first second keys) rows sorted
            fun offset limit => pageOf offset limit sorted) ↔
      ∀ name index, columns.findIdx? (· = name) = some index →
        Redis.Orderly crates (Redis.cellsAt index rows)) :=
  ⟨Server.sorts_iff crates columns rows filters mode rfl, Redis.sorts_iff crates columns rows⟩

/-- Nine stands before ten as a number, ten before `1a` as a text, and `1a` before nine. -/
theorem nine_ten_cycle :
    (¬∀ (crates : Crates) (columns : List Text) (rows : List Row) (sort : List SortRule),
      Orders
        (fun first second =>
          Server.compareRows crates first second (Server.sortKeys columns sort))
        {row | row ∈ rows}) ∧
    ¬∀ (crates : Crates) (columns : List Text) (rows : List Row) (sort : List SortRule)
      (keys : List (Nat × Bool)), Redis.sortKeys columns sort = .ok keys →
        Orders (fun first second => Redis.compareRows crates first second keys)
          {row | row ∈ rows} := by
  let crates : Crates := ⟨fun _ => [], fun _ => [], fun _ => none, id⟩
  constructor
  · intro orders
    have order := orders crates ["value".toList]
      [[.int 9], [.int 10], [.text "1a".toList]] [⟨"value".toList, false⟩]
    have chained := order.trans [.int 9] (by simp) [.int 10] (by simp) [.text "1a".toList] (by simp)
    exact absurd (chained (by decide) (by decide)) (by decide)
  · intro orders
    have order := orders crates ["value".toList]
      [[.text "9".toList], [.text "10".toList], [.text "1a".toList]] [⟨"value".toList, false⟩]
      [(0, false)] rfl
    have chained := order.trans [.text "9".toList] (by simp) [.text "10".toList] (by simp)
      [.text "1a".toList] (by simp)
    exact absurd (chained (by decide +kernel) (by decide +kernel)) (by decide +kernel)

end DbFree
