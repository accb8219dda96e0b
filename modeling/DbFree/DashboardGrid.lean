import DbFree.Texts

/- The grid of a dashboard: twelve columns of whole cells, and the functions that place, move
and resize its tiles (features/dashboards/layout.ts). -/
namespace DbFree.DashboardGrid

def GRID_COLS : Int := 12
def MIN_W : Int := 2
def MIN_H : Int := 2

structure Cell where
  x : Int
  y : Int
  w : Int
  h : Int
deriving DecidableEq

structure Placed extends Cell where
  id : Text
deriving DecidableEq

def overlaps (a b : Cell) : Bool :=
  a.x < b.x + b.w && b.x < a.x + a.w && a.y < b.y + b.h && b.y < a.y + a.h

def clamp (value low high : Int) : Int := max low (min high value)

/-- A cell kept inside the columns. -/
def clampCell (cell : Cell) : Cell :=
  let w := clamp cell.w 1 GRID_COLS
  { x := clamp cell.x 0 (GRID_COLS - w), y := max 0 cell.y, w, h := max 1 cell.h }

def bottomOf (cells : List Cell) : Int := cells.foldl (fun most c => max most (c.y + c.h)) 0

def fits (obstacles : List Cell) (w h : Int) (spot : Int × Int) : Bool :=
  0 ≤ spot.1 && 0 ≤ spot.2 && spot.1 + w ≤ GRID_COLS &&
    !obstacles.any (overlaps ⟨spot.1, spot.2, w, h⟩)

/-- The spots of the rows from one on to the bottom, row by row. -/
def rowMajor (fromY bottom w : Int) : List (Int × Int) :=
  (List.range (bottom - max 0 fromY).toNat).flatMap fun row =>
    (List.range (GRID_COLS - w + 1).toNat).map fun column => (↑column, max 0 fromY + ↑row)

/-- The preferred spots, then row by row, then a new row at the bottom. -/
def findFreeSlot (obstacles : List Cell) (w h : Int) (preferred : List (Int × Int)) (fromY : Int) :
    Int × Int :=
  let bottom := bottomOf obstacles
  ((preferred ++ rowMajor fromY bottom w).find? (fits obstacles w h)).getD (0, bottom)

/-- Just below a cell and just to the right of it, else the nearest free spot. -/
def slotBeside (obstacles : List Cell) (cell : Cell) : Int × Int :=
  findFreeSlot obstacles cell.w cell.h [(cell.x, cell.y + cell.h), (cell.x + cell.w, cell.y)] cell.y

def Placed.at (tile : Placed) (spot : Int × Int) : Placed := { tile with x := spot.1, y := spot.2 }

/-- A tile among those placed before it and those still to come. -/
def settleItem (placed rest : List Placed) (item : Placed) : Placed :=
  let next : Placed := { item with toCell := clampCell item.toCell }
  if placed.any fun p => overlaps p.toCell next.toCell then
    next.at (slotBeside (placed.map Placed.toCell ++ rest.map fun o => clampCell o.toCell)
      next.toCell)
  else next

def placeAll : List Placed → List Placed → List Placed
  | placed, [] => placed
  | placed, item :: rest => placeAll (placed ++ [settleItem placed rest item]) rest

/-- The list made valid: a tile that overlaps an earlier one moves to a free spot. -/
def normalizeLayout (items : List Placed) : List Placed := placeAll [] items

def change (tiles : List Placed) (id : Text) (edit : Placed → Placed) : List Placed :=
  tiles.map fun t => if t.id = id then edit t else t

/-- Two tiles in each other's place. -/
def swap (tiles : List Placed) (one other : Placed) : List Placed :=
  tiles.map fun t =>
    if t.id = one.id then one.at (other.x, other.y)
    else if t.id = other.id then other.at (one.x, one.y) else t

def others (tiles : List Placed) (id : Text) : List Placed := tiles.filter (·.id ≠ id)

def Apart (a b : Placed) : Prop := overlaps a.toCell b.toCell = false

instance : DecidableRel Apart := fun _ _ => inferInstanceAs (Decidable (_ = _))

/-- The layout while a tile is dragged; dropped onto another one, the two are swapped if they can
be. -/
def previewMove (base : List Placed) (id : Text) (desired : Int × Int) : List Placed :=
  match base.find? (·.id = id) with
  | none => base
  | some origin =>
    let dragged := origin.at (clamp desired.1 0 (GRID_COLS - origin.w), max 0 desired.2)
    let follow := change base id fun _ => dragged
    match (others base id).find? fun t => overlaps dragged.toCell t.toCell with
    | none => follow
    | some hit =>
      let swapped := swap base origin hit
      if hit.x + origin.w ≤ GRID_COLS ∧ origin.x + hit.w ≤ GRID_COLS ∧ swapped.Pairwise Apart then
        swapped
      else follow

/-- After a drop: a tile that still overlaps another one moves to the nearest free spot. -/
def settleDrop (layout : List Placed) (id : Text) : List Placed :=
  match layout.find? (·.id = id) with
  | none => layout
  | some dropped =>
    if (others layout id).any fun t => overlaps dropped.toCell t.toCell then
      let slot := slotBeside ((others layout id).map Placed.toCell) dropped.toCell
      change layout id fun t => t.at slot
    else layout

/-- The whole numbers from one to another. -/
def upTo (first last : Int) : List Int :=
  (List.range (last - first + 1).toNat).map fun step => first + ↑step

/-- One turn of the loops over the sizes: the nearest free size so far. -/
def better (clear : Int × Int → Bool) (cost : Int × Int → Int) (best : Option (Int × Int))
    (size : Int × Int) : Option (Int × Int) :=
  if clear size ∧ best.all fun found => cost size < cost found then some size else best

/-- A tile resized to the wanted size, or the nearest one that runs into no other tile. -/
def resizeTo (layout : List Placed) (id : Text) (want : Int × Int) : List Placed :=
  match layout.find? (·.id = id) with
  | none => layout
  | some tile =>
    let maxW := GRID_COLS - tile.x
    let goalW := clamp want.1 (min MIN_W maxW) maxW
    let goalH := max MIN_H want.2
    let sizes := (upTo (min MIN_W maxW) goalW).flatMap fun w =>
      (upTo MIN_H goalH).map fun h => (w, h)
    let clear := fun (size : Int × Int) =>
      !(others layout id).any fun o => overlaps ⟨tile.x, tile.y, size.1, size.2⟩ o.toCell
    match sizes.foldl (better clear fun size => goalW - size.1 + (goalH - size.2)) none with
    | none => layout
    | some size =>
      if size = (tile.w, tile.h) then layout
      else change layout id fun t => { t with w := size.1, h := size.2 }

/-- The cell under a point, inside the columns. -/
structure GridPoint where
  gx : Fin 12
  gy : Nat
deriving DecidableEq

/-- The rectangle between two corner cells. -/
def drawnCell (a b : GridPoint) : Cell :=
  let x : Int := min a.gx.val b.gx.val
  { x, y := min a.gy b.gy, w := min (|(a.gx.val : Int) - b.gx.val| + 1) (GRID_COLS - x)
    h := |(a.gy : Int) - b.gy| + 1 }

/-- A drawn rectangle too thin to hold a tile grows to a usable one. -/
def finalizeDrawn (cell : Cell) : Cell :=
  let w := if cell.w < MIN_W then 3 else cell.w
  { x := min cell.x (GRID_COLS - min w GRID_COLS), y := cell.y, w := min w GRID_COLS
    h := if cell.h < MIN_H then 3 else cell.h }

def slotForDrawn (items : List Cell) (drawn : Cell) : Int × Int :=
  if items.any (overlaps drawn) then slotBeside items drawn else (drawn.x, drawn.y)

def slotForDuplicate (items : List Cell) (source : Cell) : Int × Int := slotBeside items source

def slotForNew (items : List Cell) (w h : Int) : Int × Int := findFreeSlot items w h [] 0

end DbFree.DashboardGrid
