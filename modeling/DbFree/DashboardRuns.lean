import DbFree.DashboardGrid
import DbFree.Machine

/- Whatever is loaded and however it is edited, the tiles of a dashboard lie inside the columns
and none of them overlaps another. -/
namespace DbFree.DashboardGrid

/-- A cell that has an extent and lies inside the columns. -/
structure Inside (c : Cell) : Prop where
  left : 0 ≤ c.x
  top : 0 ≤ c.y
  wide : 1 ≤ c.w
  high : 1 ≤ c.h
  right : c.x + c.w ≤ GRID_COLS

structure Valid (tiles : List Placed) : Prop where
  inside : ∀ tile ∈ tiles, Inside tile.toCell
  apart : tiles.Pairwise Apart
  distinct : (tiles.map Placed.id).Nodup

theorem overlaps_eq_false_iff (a b : Cell) : overlaps a b = false ↔
    b.x + b.w ≤ a.x ∨ a.x + a.w ≤ b.x ∨ b.y + b.h ≤ a.y ∨ a.y + a.h ≤ b.y := by
  rw [← Bool.not_eq_true, overlaps]
  simp only [Bool.and_eq_true, decide_eq_true_eq]
  omega

theorem Apart.symm {a b : Placed} (apart : Apart a b) : Apart b a := by
  rw [Apart, overlaps_eq_false_iff] at apart ⊢
  omega

instance : Std.Symm Apart := ⟨fun _ _ => Apart.symm⟩

theorem le_bottom (cells : List Cell) (most : Int) :
    most ≤ cells.foldl (fun most c => max most (c.y + c.h)) most ∧
      ∀ c ∈ cells, c.y + c.h ≤ cells.foldl (fun most c => max most (c.y + c.h)) most := by
  induction cells generalizing most with
  | nil => simp
  | cons first rest hypothesis =>
    obtain ⟨least, all⟩ := hypothesis (max most (first.y + first.h))
    rw [List.foldl_cons, List.forall_mem_cons]
    exact ⟨by omega, by omega, all⟩

theorem fits_iff (obstacles : List Cell) (w h : Int) (spot : Int × Int) :
    fits obstacles w h spot = true ↔ 0 ≤ spot.1 ∧ 0 ≤ spot.2 ∧ spot.1 + w ≤ GRID_COLS ∧
      ∀ o ∈ obstacles, overlaps ⟨spot.1, spot.2, w, h⟩ o = false := by
  simp [fits, and_assoc]

/-- Whatever was asked for first, the spot that is found is free. -/
theorem findFreeSlot_fits (obstacles : List Cell) {w : Int} (h : Int)
    (preferred : List (Int × Int)) (fromY : Int) (narrow : w ≤ GRID_COLS) :
    fits obstacles w h (findFreeSlot obstacles w h preferred fromY) = true := by
  unfold findFreeSlot
  dsimp only
  cases found : (preferred ++ rowMajor fromY (bottomOf obstacles) w).find? (fits obstacles w h) with
  | some spot => exact List.find?_some found
  | none =>
    obtain ⟨least, all⟩ := le_bottom obstacles 0
    rw [Option.getD_none, fits_iff]
    refine ⟨le_rfl, least, by simpa using narrow, fun o member => ?_⟩
    rw [overlaps_eq_false_iff]
    exact .inr (.inr (.inl (all o member)))

/-- A tile moved beside its place lies inside, apart from the obstacles. -/
theorem at_slotBeside (tile : Placed) (obstacles : List Cell) (inside : Inside tile.toCell) :
    Inside (tile.at (slotBeside obstacles tile.toCell)).toCell ∧
      ∀ o ∈ obstacles, overlaps (tile.at (slotBeside obstacles tile.toCell)).toCell o = false := by
  have narrow : tile.w ≤ GRID_COLS := by
    have := inside.left
    have := inside.right
    omega
  obtain ⟨left, top, right, apart⟩ := (fits_iff ..).mp (findFreeSlot_fits obstacles _ _ _ narrow)
  exact ⟨⟨left, top, inside.wide, inside.high, right⟩, apart⟩

theorem clampCell_inside (cell : Cell) : Inside (clampCell cell) := by
  have columns : GRID_COLS = 12 := rfl
  constructor <;> simp only [clampCell, clamp] <;> omega

theorem clampCell_of_inside {cell : Cell} (inside : Inside cell) : clampCell cell = cell := by
  obtain ⟨left, top, wide, high, right⟩ := inside
  have w : clamp cell.w 1 GRID_COLS = cell.w := by
    unfold clamp
    omega
  have x : clamp cell.x 0 (GRID_COLS - cell.w) = cell.x := by
    unfold clamp
    omega
  simp only [clampCell, w, x, max_eq_right top, max_eq_right high]

theorem settleItem_spec (placed rest : List Placed) (item : Placed) :
    Inside (settleItem placed rest item).toCell ∧
      (∀ p ∈ placed, Apart p (settleItem placed rest item)) ∧
      (settleItem placed rest item).id = item.id := by
  unfold settleItem
  dsimp only
  split
  · obtain ⟨inside, clear⟩ := at_slotBeside ⟨clampCell item.toCell, item.id⟩
      (placed.map Placed.toCell ++ rest.map fun o => clampCell o.toCell)
      (clampCell_inside item.toCell)
    refine ⟨inside, fun p member => Apart.symm ?_, rfl⟩
    exact clear _ (List.mem_append_left _ (List.mem_map_of_mem member))
  · rename_i clear
    rw [List.any_eq_true, not_exists] at clear
    exact ⟨clampCell_inside item.toCell, fun p member => Bool.eq_false_of_not_eq_true fun hits =>
      clear p ⟨member, hits⟩, rfl⟩

theorem placeAll_spec (items placed : List Placed) (inside : ∀ p ∈ placed, Inside p.toCell)
    (apart : placed.Pairwise Apart) :
    (∀ tile ∈ placeAll placed items, Inside tile.toCell) ∧
      (placeAll placed items).Pairwise Apart ∧
      (placeAll placed items).map Placed.id = (placed ++ items).map Placed.id := by
  induction items generalizing placed with
  | nil => exact ⟨inside, apart, by rw [placeAll, List.append_nil]⟩
  | cons item rest hypothesis =>
    obtain ⟨item_inside, item_apart, same⟩ := settleItem_spec placed rest item
    have next := hypothesis (placed ++ [settleItem placed rest item])
      (List.forall_mem_append.mpr ⟨inside, List.forall_mem_singleton.mpr item_inside⟩)
      (List.pairwise_append.mpr ⟨apart, List.pairwise_singleton .., fun p member other last => by
        rw [List.mem_singleton.mp last]
        exact item_apart p member⟩)
    refine ⟨next.1, next.2.1, ?_⟩
    rw [placeAll, next.2.2]
    simp [same]

/-- A layout that is valid is left as it is. -/
theorem placeAll_valid (items placed : List Placed) (valid : Valid (placed ++ items)) :
    placeAll placed items = placed ++ items := by
  induction items generalizing placed with
  | nil => rw [placeAll, List.append_nil]
  | cons item rest hypothesis =>
    have same : settleItem placed rest item = item := by
      unfold settleItem
      dsimp only
      rw [clampCell_of_inside (valid.inside item (by simp)), if_neg]
      rw [List.any_eq_true]
      rintro ⟨p, member, hits⟩
      have clear := (List.pairwise_append.mp valid.apart).2.2 p member item List.mem_cons_self
      rw [Apart, hits] at clear
      cases clear
    rw [placeAll, same, hypothesis _ (by rwa [List.append_assoc]), List.append_assoc]
    rfl

theorem mem_others {tiles : List Placed} {id : Text} {tile : Placed} :
    tile ∈ others tiles id ↔ tile ∈ tiles ∧ tile.id ≠ id := by
  rw [others, List.mem_filter, decide_eq_true_eq]

/-- What an edit of a tile may do: the tile is put elsewhere, changes places with another one, is
added or taken away; all others stay as they are. -/
inductive Changed (tiles : List Placed) : Text → List Placed → Prop where
  | same (id : Text) : Changed tiles id tiles
  | placed (tile : Placed) (inside : Inside tile.toCell)
      (clear : ∀ o ∈ others tiles tile.id, Apart tile o) :
      Changed tiles tile.id (change tiles tile.id fun _ => tile)
  | swapped (one other : Placed) (members : one ∈ tiles ∧ other ∈ tiles)
      (fit : other.x + one.w ≤ GRID_COLS ∧ one.x + other.w ≤ GRID_COLS)
      (clear : (swap tiles one other).Pairwise Apart) :
      Changed tiles one.id (swap tiles one other)
  | added (tile : Placed) (fresh : tile.id ∉ tiles.map Placed.id) (inside : Inside tile.toCell)
      (clear : ∀ o ∈ tiles, Apart tile o) : Changed tiles tile.id (tiles ++ [tile])
  | removed (id : Text) : Changed tiles id (others tiles id)

theorem map_ids {tiles : List Placed} {edit : Placed → Placed} (keeps : ∀ t, (edit t).id = t.id) :
    (tiles.map edit).map Placed.id = tiles.map Placed.id := by
  rw [List.map_map]
  exact List.map_congr_left fun t _ => keeps t

theorem Changed.valid {tiles next : List Placed} {id : Text} (changed : Changed tiles id next)
    (valid : Valid tiles) : Valid next := by
  cases changed with
  | same => exact valid
  | placed tile inside clear =>
    refine ⟨?_, ?_, ?_⟩
    · simp only [change, List.forall_mem_map]
      intro t member
      split
      · exact inside
      · exact valid.inside t member
    · rw [change, List.pairwise_map]
      apply (valid.apart.and (List.pairwise_map.mp valid.distinct)).imp_of_mem
      intro a b first second both
      by_cases one : a.id = tile.id <;> by_cases other : b.id = tile.id
      · exact absurd (one.trans other.symm) both.2
      · rw [if_pos one, if_neg other]
        exact clear b (mem_others.mpr ⟨second, other⟩)
      · rw [if_neg one, if_pos other]
        exact (clear a (mem_others.mpr ⟨first, one⟩)).symm
      · rw [if_neg one, if_neg other]
        exact both.1
    · rw [change, map_ids fun t => by split <;> simp_all]
      exact valid.distinct
  | swapped one other members fit clear =>
    have in_one := valid.inside one members.1
    have in_other := valid.inside other members.2
    refine ⟨?_, clear, ?_⟩
    · simp only [swap, List.forall_mem_map]
      intro t member
      split
      · exact ⟨in_other.left, in_other.top, in_one.wide, in_one.high, fit.1⟩
      · split
        · exact ⟨in_one.left, in_one.top, in_other.wide, in_other.high, fit.2⟩
        · exact valid.inside t member
    · rw [swap, map_ids fun t => by split <;> [skip; split] <;> simp_all [Placed.at]]
      exact valid.distinct
  | added tile fresh inside clear =>
    refine ⟨List.forall_mem_append.mpr ⟨valid.inside, List.forall_mem_singleton.mpr inside⟩, ?_, ?_⟩
    · refine List.pairwise_append.mpr ⟨valid.apart, List.pairwise_singleton .., ?_⟩
      intro a member b last
      rw [List.mem_singleton.mp last]
      exact (clear a member).symm
    · rw [List.map_append, List.map_singleton, ← List.concat_eq_append]
      exact valid.distinct.concat fresh
  | removed id =>
    exact ⟨fun t member => valid.inside t (mem_others.mp member).1, valid.apart.filter _,
      valid.distinct.sublist (List.filter_sublist.map _)⟩

theorem find_spec {tiles : List Placed} {id : Text} {tile : Placed}
    (found : tiles.find? (·.id = id) = some tile) : tile ∈ tiles ∧ tile.id = id :=
  ⟨List.mem_of_find?_eq_some found, by simpa using List.find?_some found⟩

/-- No other tile has the id. -/
theorem change_eq {tiles : List Placed} (valid : Valid tiles) {tile : Placed}
    (member : tile ∈ tiles) (edit : Placed → Placed) :
    change tiles tile.id edit = change tiles tile.id fun _ => edit tile := by
  apply List.map_congr_left
  intro t there
  split
  · rw [List.inj_on_of_nodup_map valid.distinct there member ‹_›]
  · rfl

/-- A tile that overlaps none is left where it was dropped. -/
theorem settleDrop_apart {layout : List Placed} (apart : layout.Pairwise Apart) (id : Text) :
    settleDrop layout id = layout := by
  unfold settleDrop
  split
  · rfl
  · rename_i dropped found
    rw [if_neg]
    rw [List.any_eq_true]
    rintro ⟨t, member, hits⟩
    have own := find_spec found
    have other := mem_others.mp member
    have clear : Apart dropped t := apart.forall own.1 other.1 fun same => other.2 (same ▸ own.2)
    rw [Apart, hits] at clear
    cases clear

theorem change_change (tiles : List Placed) {id : Text} {tile : Placed} (same : tile.id = id)
    (edit : Placed → Placed) :
    change (change tiles id fun _ => tile) id edit = change tiles id fun _ => edit tile := by
  rw [change, change, List.map_map]
  apply List.map_congr_left
  intro t _
  by_cases own : t.id = id <;> simp [own, same]

theorem find_change {tiles : List Placed} {id : Text} {origin tile : Placed}
    (found : tiles.find? (·.id = id) = some origin) (same : tile.id = id) :
    (change tiles id fun _ => tile).find? (·.id = id) = some tile := by
  induction tiles with
  | nil => cases found
  | cons first rest hypothesis =>
    by_cases own : first.id = id
    · simp [change, own, same]
    · rw [List.find?_cons_of_neg (by simpa using own)] at found
      rw [← hypothesis found]
      simp [change, own]

theorem others_change (tiles : List Placed) {id : Text} {tile : Placed} (same : tile.id = id) :
    others (change tiles id fun _ => tile) id = others tiles id := by
  induction tiles with
  | nil => rfl
  | cons first rest hypothesis =>
    by_cases own : first.id = id <;> simp_all [others, change]

/-- A tile that is dragged and dropped. -/
theorem move_changed {base : List Placed} (valid : Valid base) (id : Text)
    (desired : Int × Int) : Changed base id (settleDrop (previewMove base id desired) id) := by
  unfold previewMove
  split
  · rw [settleDrop_apart valid.apart]
    exact .same _
  · rename_i origin found
    obtain ⟨member, rfl⟩ := find_spec found
    obtain ⟨left, top, wide, high, right⟩ := valid.inside origin member
    dsimp only
    generalize tile_eq : origin.at (clamp desired.1 0 (GRID_COLS - origin.w), max 0 desired.2) = tile
    have inside : Inside tile.toCell := by
      rw [← tile_eq]
      constructor <;> simp only [Placed.at, clamp] <;> omega
    have same : tile.id = origin.id := by rw [← tile_eq, Placed.at]
    split
    · rename_i clear
      have moved := Changed.placed tile inside fun o there =>
        Bool.eq_false_of_not_eq_true (List.find?_eq_none.mp clear o (same ▸ there))
      rw [← same, settleDrop_apart (moved.valid valid).apart]
      exact moved
    · rename_i hit hits
      have struck := List.mem_of_find?_eq_some hits
      split
      · rename_i fit
        rw [settleDrop_apart fit.2.2]
        exact .swapped origin hit ⟨member, (mem_others.mp struck).1⟩ ⟨fit.1, fit.2.1⟩ fit.2.2
      · -- The tile stays on the one it hits, so the drop moves it on.
        unfold settleDrop
        rw [find_change found same]
        dsimp only
        rw [others_change base same,
          if_pos (List.any_eq_true.mpr ⟨hit, struck, List.find?_some hits⟩),
          change_change base same]
        rw [← same]
        obtain ⟨free, clear⟩ := at_slotBeside tile ((others base tile.id).map Placed.toCell) inside
        exact .placed _ free fun o there => clear _ (List.mem_map_of_mem there)

/-- The size that is found is one of those looked at, and free. -/
theorem foldl_better {clear : Int × Int → Bool} {cost : Int × Int → Int}
    {sizes : List (Int × Int)} {best : Option (Int × Int)} {size : Int × Int}
    (found : sizes.foldl (better clear cost) best = some size) :
    (size ∈ sizes ∧ clear size = true) ∨ best = some size := by
  induction sizes generalizing best with
  | nil => exact .inr found
  | cons first rest hypothesis =>
    rcases hypothesis found with ⟨member, free⟩ | turn
    · exact .inl ⟨List.mem_cons_of_mem _ member, free⟩
    · unfold better at turn
      split at turn
      · rename_i taken
        cases turn
        exact .inl ⟨List.mem_cons_self, taken.1⟩
      · exact .inr turn

theorem mem_upTo {first last value : Int} (member : value ∈ upTo first last) :
    first ≤ value ∧ value ≤ last := by
  obtain ⟨step, small, rfl⟩ := List.mem_map.mp member
  rw [List.mem_range] at small
  omega

theorem resizeTo_changed {layout : List Placed} (valid : Valid layout) (id : Text)
    (want : Int × Int) : Changed layout id (resizeTo layout id want) := by
  unfold resizeTo
  split
  · exact .same _
  · rename_i tile found
    obtain ⟨member, rfl⟩ := find_spec found
    obtain ⟨left, top, wide, high, right⟩ := valid.inside tile member
    dsimp only
    split
    · exact .same _
    · rename_i size chosen
      rcases foldl_better chosen with ⟨listed, free⟩ | none
      · obtain ⟨w, isWidth, pairs⟩ := List.mem_flatMap.mp listed
        obtain ⟨h, isHeight, rfl⟩ := List.mem_map.mp pairs
        have width := mem_upTo isWidth
        have height := mem_upTo isHeight
        unfold clamp MIN_W at width
        unfold MIN_H at height
        split
        · exact .same _
        · rw [change_eq valid member]
          refine .placed { tile with w, h } ⟨left, top, ?_, ?_, ?_⟩ fun o there => ?_
          · show 1 ≤ w
            omega
          · show 1 ≤ h
            omega
          · show tile.x + w ≤ GRID_COLS
            omega
          · simp only [Bool.not_eq_true', List.any_eq_false] at free
            exact Bool.eq_false_of_not_eq_true (free o there)
      · cases none

inductive Edit where
  | move (id : Text) (desired : Int × Int)
  | resize (id : Text) (want : Int × Int)
  /-- A rectangle is drawn; the new tile has a new id. -/
  | draw (id : Text) (a b : GridPoint)
  | add (id : Text)
  | duplicate (source id : Text)
  | remove (id : Text)
deriving DecidableEq

def Edit.id : Edit → Text
  | move id _ | resize id _ | draw id _ _ | add id | duplicate _ id | remove id => id

/-- A new tile; `newWidgetId` gives an id that no tile has. -/
def append (tiles : List Placed) (tile : Placed) : Option (List Placed) :=
  if tile.id ∈ tiles.map Placed.id then none else some (tiles ++ [tile])

def step (tiles : List Placed) : Edit → Option (List Placed)
  | .move id desired => some (settleDrop (previewMove tiles id desired) id)
  | .resize id want => some (resizeTo tiles id want)
  | .draw id a b =>
    let cell := finalizeDrawn (drawnCell a b)
    append tiles (Placed.at ⟨cell, id⟩ (slotForDrawn (tiles.map Placed.toCell) cell))
  | .add id => append tiles (Placed.at ⟨⟨0, 0, 4, 5⟩, id⟩ (slotForNew (tiles.map Placed.toCell) 4 5))
  | .duplicate source id =>
    match tiles.find? (·.id = source) with
    | none => some tiles
    | some tile =>
      append tiles ({ tile with id }.at (slotForDuplicate (tiles.map Placed.toCell) tile.toCell))
  | .remove id => some (others tiles id)

/-- A new tile takes a free spot. -/
theorem append_changed {tiles next : List Placed} (tile : Placed) {spot : Int × Int}
    (appended : append tiles (tile.at spot) = some next) (wide : 1 ≤ tile.w) (high : 1 ≤ tile.h)
    (free : fits (tiles.map Placed.toCell) tile.w tile.h spot = true) :
    Changed tiles tile.id next := by
  obtain ⟨fresh, rest⟩ := Option.ite_none_left_eq_some.mp appended
  cases rest
  obtain ⟨left, top, right, clear⟩ := (fits_iff ..).mp free
  exact .added _ fresh ⟨left, top, wide, high, right⟩ fun o member =>
    clear _ (List.mem_map_of_mem member)

theorem drawn_inside (a b : GridPoint) : Inside (finalizeDrawn (drawnCell a b)) := by
  have columns : GRID_COLS = 12 := rfl
  have one := a.gx.isLt
  have other := b.gx.isLt
  constructor <;> simp only [finalizeDrawn, drawnCell, MIN_W, MIN_H] <;> omega

theorem slotForDrawn_fits (items : List Cell) {drawn : Cell} (inside : Inside drawn) :
    fits items drawn.w drawn.h (slotForDrawn items drawn) = true := by
  obtain ⟨left, top, wide, high, right⟩ := inside
  unfold slotForDrawn
  split
  · exact findFreeSlot_fits _ _ _ _ (by omega)
  · rename_i clear
    rw [fits_iff]
    exact ⟨left, top, right, by simpa using clear⟩

/-- One edit changes only what it is about. -/
theorem step_changed {tiles next : List Placed} {edit : Edit} (valid : Valid tiles)
    (stepped : step tiles edit = some next) : Changed tiles edit.id next := by
  cases edit with
  | move id desired =>
    cases stepped
    exact move_changed valid id desired
  | resize id want =>
    cases stepped
    exact resizeTo_changed valid id want
  | draw id a b =>
    have inside := drawn_inside a b
    exact append_changed _ stepped inside.wide inside.high (slotForDrawn_fits _ inside)
  | add id =>
    have wide : (1 : Int) ≤ 4 := by decide
    have high : (1 : Int) ≤ 5 := by decide
    have narrow : (4 : Int) ≤ GRID_COLS := by decide
    exact append_changed ⟨⟨0, 0, 4, 5⟩, id⟩ stepped wide high (findFreeSlot_fits _ _ _ _ narrow)
  | duplicate source id =>
    simp only [step] at stepped
    split at stepped
    · cases stepped
      exact .same _
    · rename_i tile found
      obtain ⟨left, top, wide, high, right⟩ := valid.inside tile (find_spec found).1
      have narrow : tile.w ≤ GRID_COLS := by omega
      exact append_changed { tile with id } stepped wide high (findFreeSlot_fits _ _ _ _ narrow)
  | remove id =>
    cases stepped
    exact .removed id

theorem normalizeLayout_valid {items : List Placed} (distinct : (items.map Placed.id).Nodup) :
    Valid (normalizeLayout items) := by
  obtain ⟨inside, apart, ids⟩ :=
    placeAll_spec items [] (List.forall_mem_nil _) List.Pairwise.nil
  exact ⟨inside, apart, ids ▸ distinct⟩

section Runs

variable (items : List Placed) (distinct : (items.map Placed.id).Nodup) (edits : List Edit)
  (layout : List Placed) (reaches : Machine.run step (normalizeLayout items) edits = some layout)
include distinct reaches

theorem reached_valid : Valid layout :=
  Machine.run_keeps (fun _ _ _ valid stepped => (step_changed valid stepped).valid valid)
    (normalizeLayout_valid distinct) reaches

/-- However a dashboard is edited, its tiles lie inside and apart, and are the same when they are
loaded again. -/
theorem tiles_never_overlap : Valid layout ∧ normalizeLayout layout = layout :=
  have valid := reached_valid items distinct edits layout reaches
  ⟨valid, placeAll_valid layout [] valid⟩

end Runs

def twoTiles : List Placed := [⟨⟨0, 0, 4, 2⟩, ['a']⟩, ⟨⟨2, 1, 4, 2⟩, ['b']⟩]

def swappedTiles : List Placed := [⟨⟨2, 3, 4, 2⟩, ['a']⟩, ⟨⟨0, 0, 4, 2⟩, ['b']⟩]

theorem twoTiles_swapped : Valid swappedTiles ∧ normalizeLayout swappedTiles = swappedTiles :=
  tiles_never_overlap twoTiles (by decide) [.move ['a'] (1, 2)] swappedTiles (by decide)

end DbFree.DashboardGrid
