import DbFree.Javascript
import DbFree.Records

/- The editor area as a tree of panes, which pane each tab is in, and the repair of a
layout after the tabs have changed (lib/panes.ts). -/
namespace DbFree.Panes

open Records Javascript

def MAX_PANES : Nat := 4

inductive SplitDirection where
  | row | column
deriving DecidableEq

inductive PaneNode where
  | leaf (id : Text)
  | split (id : Text) (direction : SplitDirection) (ratio : F64) (first second : PaneNode)
deriving DecidableEq

structure PaneLayout where
  root : PaneNode
  /-- The pane that has the keyboard. -/
  focused : Text
  /-- The tab each pane shows. -/
  active : Record Text (Option Text)
  /-- Which pane each tab is in; a tab missing here belongs to the focused pane. -/
  owner : Record Text Text
  /-- Behind new pane and split ids. -/
  counter : F64
deriving DecidableEq

def initialPanes : PaneLayout where
  root := .leaf "p1".toList
  focused := "p1".toList
  active := build (fun _ => none) ["p1".toList]
  owner := ∅
  counter := F64.ofInt 1

/-- Pane ids in reading order. -/
def PaneNode.paneIds : PaneNode → List Text
  | .leaf id => [id]
  | .split _ _ _ first second => first.paneIds ++ second.paneIds

def paneCount (layout : PaneLayout) : Nat := layout.root.paneIds.length

def hasPane (layout : PaneLayout) (paneId : Text) : Bool := layout.root.paneIds.contains paneId

/-- The pane a tab is in: its recorded pane if that still exists, else the focused one. -/
def paneOf (layout : PaneLayout) (tabId : Text) : Text :=
  match layout.owner.lookup tabId with
  | some recorded => if hasPane layout recorded then recorded else layout.focused
  | none => layout.focused

def activeIn (layout : PaneLayout) (paneId : Text) : Option Text :=
  (layout.active.lookup paneId).join

def activeOf (layout : PaneLayout) : Option Text := activeIn layout layout.focused

def PaneNode.removeLeaf (paneId : Text) : PaneNode → Option PaneNode
  | .leaf id => if id = paneId then none else some (.leaf id)
  | .split id direction ratio first second =>
    match first.removeLeaf paneId, second.removeLeaf paneId with
    | none, second => second
    | some first, none => some first
    | some first, some second => some (.split id direction ratio first second)

inductive Position where
  | before | after
deriving DecidableEq

/-- `0.5`. -/
def half : F64 := F64.ofDecimal false 5 (-1)

def PaneNode.splitLeaf (paneId : Text) (newPane : PaneNode) (splitId : Text)
    (direction : SplitDirection) (position : Position) : PaneNode → PaneNode
  | .leaf id =>
    if id ≠ paneId then .leaf id
    else
      match position with
      | .before => .split splitId direction half newPane (.leaf id)
      | .after => .split splitId direction half (.leaf id) newPane
  | .split id otherWay ratio first second =>
    .split id otherWay ratio (splitLeaf paneId newPane splitId direction position first)
      (splitLeaf paneId newPane splitId direction position second)

inductive DropZone where
  | left | right | top | bottom | center
deriving DecidableEq

/-- The counter behind the next pane and split ids. -/
def PaneLayout.nextCounter (layout : PaneLayout) : F64 := layout.counter.add (F64.ofInt 1)

def PaneLayout.newId (layout : PaneLayout) : Text := 'p' :: numberToString layout.nextCounter

/-- Splits a pane and gives the new one the tab; nothing happens at four panes. -/
def splitWithTab (layout : PaneLayout) (paneId : Text) (zone : DropZone) (tabId : Text) :
    Option PaneLayout :=
  if MAX_PANES ≤ paneCount layout ∨ ¬hasPane layout paneId then none
  else
    let direction : SplitDirection := if zone = .left ∨ zone = .right then .row else .column
    let position : Position := if zone = .left ∨ zone = .top then .before else .after
    some {
      root := PaneNode.splitLeaf paneId (.leaf layout.newId)
        ('s' :: numberToString layout.nextCounter) direction position layout.root
      focused := layout.newId
      active := layout.active.insert layout.newId (some tabId)
      owner := layout.owner.insert tabId layout.newId
      counter := layout.nextCounter }

/-- The pane that takes the place of a closed one: the next in reading order, else the
one before. -/
def heirOf (layout : PaneLayout) (paneId : Text) (remaining : List Text) : Text :=
  let before := layout.root.paneIds
  let at_ := before.idxOf paneId
  let next := before[at_ + 1]?
  let previous := if at_ = 0 then none else before[at_ - 1]?
  match [next, previous].reduceOption.find? (· ∈ remaining) with
  | some id => id
  | none => remaining.head?.getD layout.focused

/-- Closes a pane, handing its tabs to the pane that takes its place. -/
def closePane (layout : PaneLayout) (paneId : Text) : PaneLayout :=
  if paneCount layout ≤ 1 ∨ ¬hasPane layout paneId then layout
  else
    match layout.root.removeLeaf paneId with
    | none => layout
    | some root =>
      let remaining := root.paneIds
      let target := heirOf layout paneId remaining
      let active := build (activeIn layout) remaining
      { layout with
        root
        focused := if layout.focused = paneId then target else layout.focused
        owner := mapValues (fun pane => if pane = paneId then target else pane) layout.owner
        active :=
          match active.lookup target, layout.active.lookup paneId with
          | some none, some moved => active.insert target moved
          | _, _ => active }

def focusPane (layout : PaneLayout) (paneId : Text) : PaneLayout :=
  if layout.focused = paneId ∨ ¬hasPane layout paneId then layout
  else { layout with focused := paneId }

/-- Makes a tab the active one of the pane it is in, and focuses that pane. -/
def activateInLayout (layout : PaneLayout) (tabId : Text) : PaneLayout :=
  let pane := paneOf layout tabId
  { layout with
    active :=
      if layout.active.lookup pane = some (some tabId) then layout.active
      else layout.active.insert pane (some tabId)
    owner :=
      if layout.owner.lookup tabId = some pane then layout.owner
      else layout.owner.insert tabId pane
    focused := pane }

/-- Moves a tab into another pane and makes it that pane's active tab. -/
def moveToPane (layout : PaneLayout) (tabId toPane : Text) : PaneLayout :=
  if !hasPane layout toPane then layout
  else
    { layout with
      owner := layout.owner.insert tabId toPane
      active := layout.active.insert toPane (some tabId)
      focused := toPane }

/-- Every open tab has an owner; closed tabs are forgotten. -/
def settleOwners (tabIds : List Text) (layout : PaneLayout) : PaneLayout :=
  let owner := build (paneOf layout) tabIds
  let ownerChanged := tabIds.any (fun id => layout.owner.lookup id ≠ some (paneOf layout id)) ||
    layout.owner.keys.length ≠ tabIds.length
  if ownerChanged then { layout with owner } else layout

/-- Whether a pane has a tab. -/
def holdsTab (tabIds : List Text) (layout : PaneLayout) (paneId : Text) : Bool :=
  tabIds.any fun tab => paneOf layout tab == paneId

def closeEmptyPane (tabIds : List Text) (layout : PaneLayout) (paneId : Text) : PaneLayout :=
  if 1 < paneCount layout ∧ !holdsTab tabIds layout paneId then closePane layout paneId else layout

/-- Panes with no tabs go away (never the last one). -/
def closeEmptyPanes (tabIds : List Text) (layout : PaneLayout) : PaneLayout :=
  layout.root.paneIds.foldl (closeEmptyPane tabIds) layout

/-- A tab someone activated focuses its own pane. -/
def showRequested (tabIds : List Text) (requestedActive : Option Text) (layout : PaneLayout) :
    PaneLayout :=
  match requestedActive with
  | some requested =>
    if requested ∈ tabIds ∧ activeOf layout ≠ some requested then activateInLayout layout requested
    else layout
  | none => layout

/-- What a pane is to show: its tab of before if that is still in it, else its last one. -/
def shownIn (tabIds : List Text) (layout : PaneLayout) (paneId : Text) : Option Text :=
  let mine := tabIds.filter fun tab => paneOf layout tab == paneId
  match activeIn layout paneId with
  | some current => if current ∈ mine then some current else mine.getLast?
  | none => mine.getLast?

/-- Each pane shows one of its own tabs. -/
def showOwn (tabIds : List Text) (layout : PaneLayout) : PaneLayout :=
  let ids := layout.root.paneIds
  let active := build (shownIn tabIds layout) ids
  let activeChanged := ids.any (fun id =>
    shownIn tabIds layout id ≠ activeIn layout id || (layout.active.lookup id).isNone) ||
      layout.active.keys.length ≠ active.keys.length
  if activeChanged then { layout with active } else layout

/-- Focus is a real pane. -/
def focusReal (layout : PaneLayout) : PaneLayout :=
  if hasPane layout layout.focused then layout
  else { layout with focused := layout.root.paneIds.head?.getD "p1".toList }

/-- Makes a layout consistent with the open tabs, whoever changed them. -/
def normalize (layout : PaneLayout) (tabIds : List Text) (requestedActive : Option Text) :
    PaneLayout :=
  focusReal (showOwn tabIds (showRequested tabIds requestedActive
    (closeEmptyPanes tabIds (settleOwners tabIds layout))))

/-- The active tab of the first pane that is not the focused one. -/
def sideTabOf (layout : PaneLayout) : Option Text :=
  (layout.root.paneIds.find? (· ≠ layout.focused)).bind (activeIn layout)

end DbFree.Panes
