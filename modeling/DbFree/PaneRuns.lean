import DbFree.Machine
import DbFree.PaneRepair

/- The workspace's tabs and panes, the actions that change them, and what every sequence
of actions keeps (stores/workspace.ts). -/
namespace DbFree.Panes

open Machine

structure Tab where
  id : Text
  connectionId : Option Text
deriving DecidableEq

structure Workspace where
  tabs : List Tab
  panes : PaneLayout
deriving DecidableEq

def Workspace.tabIds (s : Workspace) : List Text := s.tabs.map Tab.id

/-- A tab list with its layout, repaired and consistent. -/
def paneState (tabs : List Tab) (panes : PaneLayout) (requestedActive : Option Text) :
    Workspace :=
  ⟨tabs, normalize panes (tabs.map Tab.id) requestedActive⟩

/-- The place behind the last tab asked for, or behind all tabs. -/
def placeBehind (asked : Tab → Bool) (tabs : List Tab) : Nat :=
  match tabs.reverse.findIdx? asked with
  | some back => tabs.length - back
  | none => tabs.length

def insertAt (tabs : List Tab) (place : Nat) (tab : Tab) : List Tab :=
  tabs.take place ++ tab :: tabs.drop place

/-- The tab list with a tab added, next to the last one of its connection in the focused
pane. -/
def withTab (s : Workspace) (tab : Tab) : List Tab :=
  let place :=
    if tab.connectionId.isSome then
      placeBehind (fun t => t.connectionId = tab.connectionId ∧
        paneOf s.panes t.id = s.panes.focused) s.tabs
    else s.tabs.length
  insertAt s.tabs place tab

/-- A tab brought to the front, added when new. -/
def showTab (s : Workspace) (tab : Tab) (replace : Bool) : Workspace :=
  let known := s.tabs.any fun t => t.id = tab.id
  let tabs :=
    if known then
      if replace then s.tabs.map fun t => if t.id = tab.id then tab else t else s.tabs
    else withTab s tab
  paneState tabs (activateInLayout s.panes tab.id) (some tab.id)

/-- Which tab takes over in a pane: the nearest one that stays, on the left first. A tab
shown by a pane it is not in has no place, which `slice` takes for the last one. -/
def successor (mine leaving : List Text) (current : Text) : Option Text :=
  let stays := fun id => decide (id ∉ leaving)
  match mine.idxOf? current with
  | some place =>
    ((mine.take place).reverse.find? stays).or ((mine.drop (place + 1)).find? stays)
  | none => (mine.dropLast.reverse.find? stays).or (mine.find? stays)

/-- The layout once the tabs leave: every pane that shows one of them shows another. -/
def handOffActive (layout : PaneLayout) (tabs : List Tab) (leaving : List Text) : PaneLayout :=
  { layout with
    active := layout.root.paneIds.foldl (fun active pane =>
      let mine := (tabs.filter fun t => paneOf layout t.id = pane).map Tab.id
      match (active.lookup pane).join with
      | some current =>
        if current ∈ leaving then active.insert pane (successor mine leaving current) else active
      | none => active) layout.active }

def afterRemoval (s : Workspace) (gone : List Text) : Workspace :=
  paneState (s.tabs.filter fun t => t.id ∉ gone) (handOffActive s.panes s.tabs gone) none

/-- Closes tabs for good. -/
def removeTabs (s : Workspace) (ids : List Text) : Workspace :=
  if s.tabs.any fun t => t.id ∈ ids then afterRemoval s ids else s

/-- The tab list with a tab moved to just before another one, or behind those of a pane. -/
def placeTab (tabs : List Tab) (layout : PaneLayout) (tabId paneId : Text)
    (beforeId : Option Text) : List Tab :=
  match tabs.find? (·.id = tabId) with
  | none => tabs
  | some moving =>
    if beforeId = some tabId then tabs
    else
      let rest := tabs.filter (·.id ≠ tabId)
      let place :=
        match beforeId.bind fun before => rest.findIdx? (·.id = before) with
        | some index => index
        | none => placeBehind (fun t => paneOf layout t.id = paneId) rest
      insertAt rest place moving

/-- Moves a tab into a pane; inside its own pane this is a reorder. -/
def moveTabPatch (s : Workspace) (tabId paneId : Text) (beforeId : Option Text) : Workspace :=
  if tabId ∉ s.tabIds ∨ ¬hasPane s.panes paneId then s
  else
    let tabs := placeTab s.tabs s.panes tabId paneId beforeId
    if paneOf s.panes tabId = paneId then { s with tabs }
    else
      paneState tabs (moveToPane (handOffActive s.panes s.tabs [tabId]) tabId paneId) none

/-- Splits a pane with one of its tabs; the pane must keep another one. -/
def splitPane (s : Workspace) (paneId : Text) (zone : DropZone) (tabId : Text) : Workspace :=
  let inPane := s.tabs.filter fun t => paneOf s.panes t.id = paneId
  if inPane.length < 2 ∨ tabId ∉ inPane.map Tab.id then s
  else
    match splitWithTab (handOffActive s.panes s.tabs [tabId]) paneId zone tabId with
    | some layout => paneState s.tabs layout none
    | none => s

def dropTab (s : Workspace) (tabId paneId : Text) (zone : DropZone) : Workspace :=
  if tabId ∉ s.tabIds ∨ ¬hasPane s.panes paneId then s
  else if zone = .center then moveTabPatch s tabId paneId none
  else if paneOf s.panes tabId = paneId ∧
      (s.tabs.filter fun t => paneOf s.panes t.id = paneId).length < 2 then s
  else
    match splitWithTab (handOffActive s.panes s.tabs [tabId]) paneId zone tabId with
    | some layout => paneState s.tabs layout none
    | none => s

/-- The first pane that is not the focused one. -/
def sidePane (layout : PaneLayout) : Option Text :=
  layout.root.paneIds.find? (· ≠ layout.focused)

def closeSplit (s : Workspace) : Workspace :=
  match sidePane s.panes with
  | some side => paneState s.tabs (closePane s.panes side) none
  | none => s

def swapSplit (s : Workspace) : Workspace :=
  let focused := s.panes.focused
  match sidePane s.panes with
  | none => s
  | some side =>
    match activeIn s.panes focused, activeIn s.panes side with
    | some mine, some theirs =>
      paneState s.tabs { s.panes with
        owner := (s.panes.owner.insert mine side).insert theirs focused
        active := (s.panes.active.insert focused (some theirs)).insert side (some mine) } none
    | _, _ => s

/-- A new preview tab in the place of the old one. -/
def replacePreview (s : Workspace) (preview : Text) (tab : Tab) : Workspace :=
  if tab.id ∈ s.tabIds ∨ preview ∉ s.tabIds then s
  else
    let pane := paneOf s.panes preview
    let shown := if s.panes.active.lookup pane = some (some preview) then some tab.id
      else activeIn s.panes pane
    let layout := { s.panes with
      owner := (s.panes.owner.erase preview).insert tab.id pane
      active := s.panes.active.insert pane shown }
    paneState (s.tabs.map fun t => if t.id = preview then tab else t)
      (activateInLayout layout tab.id) (some tab.id)

inductive Action where
  | openTab (tab : Tab) (replace : Bool)
  | replacePreview (preview : Text) (tab : Tab)
  | closeTabs (ids : List Text)
  | activateTab (id : Text)
  | moveTab (tabId paneId : Text) (beforeId : Option Text)
  | splitPane (paneId : Text) (zone : DropZone) (tabId : Text)
  | dropTab (tabId paneId : Text) (zone : DropZone)
  | focusPane (paneId : Text)
  | closePane (paneId : Text)
  | closeSplit
  | swapSplit
deriving DecidableEq

/-- "Open to the side": into the pane beside its own, or into a new one. -/
def openToSide (s : Workspace) (id : Text) : Option Action :=
  if id ∉ s.tabIds then none
  else
    let from_ := paneOf s.panes id
    let order := s.panes.root.paneIds
    let place := order.idxOf from_
    let previous := if place = 0 then none else order[place - 1]?
    match order[place + 1]?.or previous with
    | some neighbour => some (.moveTab id neighbour none)
    | none => some (.splitPane from_ .right id)

def Workspace.act (s : Workspace) : Action → Workspace
  | .openTab tab replace => showTab s tab replace
  | .replacePreview preview tab => Panes.replacePreview s preview tab
  | .closeTabs ids => removeTabs s ids
  | .activateTab id => paneState s.tabs (activateInLayout s.panes id) (some id)
  | .moveTab tabId paneId beforeId => moveTabPatch s tabId paneId beforeId
  | .splitPane paneId zone tabId => Panes.splitPane s paneId zone tabId
  | .dropTab tabId paneId zone => Panes.dropTab s tabId paneId zone
  | .focusPane paneId => paneState s.tabs (Panes.focusPane s.panes paneId) none
  | .closePane paneId => paneState s.tabs (Panes.closePane s.panes paneId) none
  | .closeSplit => Panes.closeSplit s
  | .swapSplit => Panes.swapSplit s

/-- After every action the layout is brought in step with the tabs. -/
def Workspace.step (s : Workspace) (action : Action) : Workspace :=
  paneState (s.act action).tabs (s.act action).panes none

/-- A workspace, and the ids of the tabs that were opened and not closed since. -/
structure Session where
  workspace : Workspace
  opened : Multiset Text

/-- What an action opens and closes. -/
def Action.after (opened : Multiset Text) : Action → Multiset Text
  | .openTab tab _ => if tab.id ∈ opened then opened else tab.id ::ₘ opened
  | .replacePreview preview tab =>
    if tab.id ∈ opened ∨ preview ∉ opened then opened
    else opened.map fun id => if id = preview then tab.id else id
  | .closeTabs ids => opened.filter (· ∉ ids)
  | _ => opened

def Session.step (session : Session) (action : Action) : Option Session :=
  some ⟨session.workspace.step action, action.after session.opened⟩

/-- The start: the tabs and the layout that were stored. -/
def restore (tabs : List Tab) (layout : PaneLayout) (active : Option Text) : Session :=
  ⟨paneState tabs layout active, (tabs.map Tab.id : Multiset Text)⟩

/-- A new pane gets an id of its own, and a moved tab is not in the list twice. -/
def Fits (session : Session) : Action → Prop
  | .splitPane _ _ _ => session.workspace.panes.newId ∉ session.workspace.panes.root.paneIds
  | .dropTab tabId _ zone =>
    (zone ≠ .center → session.workspace.panes.newId ∉ session.workspace.panes.root.paneIds) ∧
      (zone = .center → session.workspace.tabIds.count tabId ≤ 1)
  | .moveTab tabId _ _ => session.workspace.tabIds.count tabId ≤ 1
  | _ => True

/-- The layout is well formed and at rest, and the tabs are those opened and not closed. -/
structure Session.Sound (session : Session) : Prop where
  wellFormed : WellFormed session.workspace.tabIds session.workspace.panes
  atRest : normalize session.workspace.panes session.workspace.tabIds none =
    session.workspace.panes
  complete : (session.workspace.tabIds : Multiset Text) = session.opened

/-- What an action has to leave of a layout for the repair to do the rest. -/
structure Whole (layout : PaneLayout) : Prop where
  distinct : layout.root.paneIds.Nodup
  few : paneCount layout ≤ MAX_PANES
  focused : layout.focused ∈ layout.root.paneIds

variable {layout next : PaneLayout} {tabs : List Tab} {paneId tabId : Text}

theorem Whole.paneOf_mem (whole : Whole layout) (tab : Text) :
    paneOf layout tab ∈ layout.root.paneIds := by
  unfold paneOf
  split
  · split
    · rename_i present
      exact hasPane_iff.mp present
    · exact whole.focused
  · exact whole.focused

theorem Whole.repairable (whole : Whole layout) (tabIds : List Text) :
    Repairable tabIds layout where
  placed tab _ := whole.paneOf_mem tab
  distinct := whole.distinct.sublist List.filter_sublist
  few := List.filter_sublist.length_le.trans whole.few
  bare _ := whole.distinct

theorem WellFormed.whole {tabIds : List Text} (wellFormed : WellFormed tabIds layout) :
    Whole layout :=
  ⟨wellFormed.distinct, wellFormed.few, wellFormed.focused⟩

theorem Whole.of_same (whole : Whole layout) (root : next.root = layout.root)
    (focused : next.focused = layout.focused) : Whole next := by
  refine ⟨root ▸ whole.distinct, ?_, ?_⟩
  · rw [paneCount, root]
    exact whole.few
  · rw [focused, root]
    exact whole.focused

theorem Whole.activate (whole : Whole layout) (tab : Text) :
    Whole (activateInLayout layout tab) :=
  ⟨whole.distinct, whole.few, whole.paneOf_mem tab⟩

theorem Whole.handOff (whole : Whole layout) (tabs : List Tab) (leaving : List Text) :
    Whole (handOffActive layout tabs leaving) := whole.of_same rfl rfl

theorem Whole.focus (whole : Whole layout) (paneId : Text) : Whole (focusPane layout paneId) := by
  unfold focusPane
  split
  · exact whole
  · rename_i other
    refine ⟨whole.distinct, whole.few, hasPane_iff.mp ?_⟩
    by_contra absent
    exact other (Or.inr absent)

theorem Whole.move (whole : Whole layout) (tab toPane : Text) :
    Whole (moveToPane layout tab toPane) := by
  unfold moveToPane
  split
  · exact whole
  · rename_i present
    have here : hasPane layout toPane = true := by simpa using present
    exact ⟨whole.distinct, whole.few, hasPane_iff.mp here⟩

theorem Whole.close (whole : Whole layout) (paneId : Text) : Whole (closePane layout paneId) := by
  by_cases others : paneId ∈ layout.root.paneIds ∧ ∃ other ∈ layout.root.paneIds, other ≠ paneId
  · obtain ⟨member, other, other_member, apart⟩ := others
    have closed := closePane_closes member other_member apart
    obtain ⟨target, present, _, focused⟩ := closed.heir
    have shorter : (closePane layout paneId).root.paneIds.Sublist layout.root.paneIds := by
      rw [closed.ids]
      exact List.filter_sublist
    refine ⟨whole.distinct.sublist shorter, shorter.length_le.trans whole.few, ?_⟩
    rw [focused]
    split
    · exact present
    · rename_i elsewhere
      rw [closed.ids]
      exact List.mem_filter.mpr ⟨whole.focused, decide_eq_true elsewhere⟩
  · rw [closePane_eq]
    · exact whole
    · intro member other other_member
      by_contra apart
      exact others ⟨member, other, other_member, apart⟩

theorem Whole.split (whole : Whole layout) {zone : DropZone} {tab : Text}
    (fresh : layout.newId ∉ layout.root.paneIds)
    (splits : splitWithTab layout paneId zone tab = some next) : Whole next := by
  unfold splitWithTab at splits
  split at splits
  · cases splits
  · rename_i room
    cases splits
    push Not at room
    obtain ⟨few, present⟩ := room
    have once : layout.root.paneIds.count paneId = 1 :=
      List.count_eq_one_of_mem whole.distinct (hasPane_iff.mp present)
    have ids := PaneNode.splitLeaf_ids paneId layout.newId
      ('s' :: Javascript.numberToString layout.nextCounter)
      (if zone = .left ∨ zone = .right then .row else .column)
      (if zone = .left ∨ zone = .top then .before else .after) layout.root
    rw [once, List.replicate_one] at ids
    constructor
    · rw [ids.nodup_iff]
      exact whole.distinct.append (List.nodup_singleton _) (List.disjoint_singleton.mpr fresh)
    · rw [paneCount, ids.length_eq, List.length_append]
      unfold paneCount at few
      exact few
    · rw [ids.mem_iff]
      exact List.mem_append_right _ List.mem_cons_self

theorem Whole.paneState (whole : Whole layout) (tabs : List Tab)
    (requestedActive : Option Text) : Whole (paneState tabs layout requestedActive).panes :=
  (normalize_repairs (whole.repairable _) requestedActive).wellFormed.whole

theorem moveTabPatch_whole {s : Workspace} (whole : Whole s.panes) (tabId paneId : Text)
    (beforeId : Option Text) : Whole (moveTabPatch s tabId paneId beforeId).panes := by
  unfold moveTabPatch
  split
  · exact whole
  · dsimp only
    split
    · exact whole
    · exact ((whole.handOff s.tabs [tabId]).move tabId paneId).paneState _ none

theorem split_whole {s : Workspace} (whole : Whole s.panes)
    (fresh : s.panes.newId ∉ s.panes.root.paneIds) (paneId : Text) (zone : DropZone)
    (tabId : Text) {layout : PaneLayout}
    (splits : splitWithTab (handOffActive s.panes s.tabs [tabId]) paneId zone tabId =
      some layout) : Whole (paneState s.tabs layout none).panes :=
  ((whole.handOff s.tabs [tabId]).split fresh splits).paneState s.tabs none

theorem act_whole {session : Session} (whole : Whole session.workspace.panes) {action : Action}
    (fits : Fits session action) : Whole (session.workspace.act action).panes := by
  cases action with
  | openTab tab replace => exact (whole.activate tab.id).paneState _ _
  | replacePreview preview tab =>
    show Whole (Panes.replacePreview session.workspace preview tab).panes
    unfold Panes.replacePreview
    split
    · exact whole
    · refine Whole.paneState (Whole.activate ?_ tab.id) _ _
      exact whole.of_same rfl rfl
  | closeTabs ids =>
    show Whole (removeTabs session.workspace ids).panes
    unfold removeTabs
    split
    · exact (whole.handOff _ ids).paneState _ none
    · exact whole
  | activateTab id => exact (whole.activate id).paneState _ _
  | moveTab tabId paneId beforeId => exact moveTabPatch_whole whole tabId paneId beforeId
  | splitPane paneId zone tabId =>
    show Whole (Panes.splitPane session.workspace paneId zone tabId).panes
    unfold Panes.splitPane
    dsimp only
    split
    · exact whole
    · split
      · rename_i splits
        exact split_whole whole fits paneId zone tabId splits
      · exact whole
  | dropTab tabId paneId zone =>
    show Whole (Panes.dropTab session.workspace tabId paneId zone).panes
    unfold Panes.dropTab
    split
    · exact whole
    · split
      · exact moveTabPatch_whole whole tabId paneId none
      · rename_i edge
        split
        · exact whole
        · split
          · rename_i splits
            exact split_whole whole (fits.1 edge) paneId zone tabId splits
          · exact whole
  | focusPane paneId => exact (whole.focus paneId).paneState _ none
  | closePane paneId => exact (whole.close paneId).paneState _ none
  | closeSplit =>
    show Whole (Panes.closeSplit session.workspace).panes
    unfold Panes.closeSplit
    split
    · rename_i side _
      exact (whole.close side).paneState _ none
    · exact whole
  | swapSplit =>
    show Whole (Panes.swapSplit session.workspace).panes
    unfold Panes.swapSplit
    dsimp only
    split
    · exact whole
    · split
      · refine Whole.paneState ?_ _ none
        exact whole.of_same rfl rfl
      · exact whole

theorem insertAt_perm (tabs : List Tab) (place : Nat) (tab : Tab) :
    (insertAt tabs place tab).Perm (tab :: tabs) := by
  unfold insertAt
  refine List.perm_middle.trans ?_
  rw [List.take_append_drop]

/-- A tab that stands in the list once, taken out and put back. -/
theorem moved_perm {tabs : List Tab} {moving : Tab}
    (found : tabs.find? (·.id = tabId) = some moving) (once : (tabs.map Tab.id).count tabId ≤ 1) :
    (moving :: tabs.filter (·.id ≠ tabId)).Perm tabs := by
  induction tabs with
  | nil => cases found
  | cons first rest hypothesis =>
    by_cases here : first.id = tabId
    · have head : first = moving := by simpa [here] using found
      have absent : tabId ∉ rest.map Tab.id := by
        rw [List.map_cons, here, List.count_cons_self] at once
        exact List.count_eq_zero.mp (by omega)
      have kept : rest.filter (·.id ≠ tabId) = rest := by
        refine List.filter_eq_self.mpr fun tab member => decide_eq_true fun same => ?_
        exact absent (List.mem_map.mpr ⟨tab, member, same⟩)
      rw [List.filter_cons_of_neg (by simp [here]), kept, head]
    · have found_rest : rest.find? (·.id = tabId) = some moving := by simpa [here] using found
      rw [List.map_cons, List.count_cons_of_ne here] at once
      rw [List.filter_cons_of_pos (by simp [here])]
      exact (List.Perm.swap first moving _).trans ((hypothesis found_rest once).cons first)

theorem placeTab_perm {tabs : List Tab} (layout : PaneLayout) (paneId : Text)
    (beforeId : Option Text) (once : (tabs.map Tab.id).count tabId ≤ 1) :
    (placeTab tabs layout tabId paneId beforeId).Perm tabs := by
  unfold placeTab
  split
  · exact List.Perm.refl tabs
  · rename_i moving found
    split
    · exact List.Perm.refl tabs
    · exact (insertAt_perm _ _ moving).trans (moved_perm found once)

theorem moveTabPatch_perm {s : Workspace} (paneId : Text) (beforeId : Option Text)
    (once : s.tabIds.count tabId ≤ 1) :
    (moveTabPatch s tabId paneId beforeId).tabIds.Perm s.tabIds := by
  have placed : (placeTab s.tabs s.panes tabId paneId beforeId).map Tab.id |>.Perm s.tabIds :=
    (placeTab_perm s.panes paneId beforeId once).map Tab.id
  unfold moveTabPatch
  split
  · exact List.Perm.refl _
  · dsimp only
    split <;> exact placed

theorem paneState_tabIds (tabs : List Tab) (layout : PaneLayout)
    (requestedActive : Option Text) :
    (paneState tabs layout requestedActive).tabIds = tabs.map Tab.id := rfl

theorem showTab_ids (s : Workspace) (tab : Tab) (replace : Bool) :
    ((showTab s tab replace).tabIds : Multiset Text) =
      if tab.id ∈ (s.tabIds : Multiset Text) then (s.tabIds : Multiset Text)
      else tab.id ::ₘ (s.tabIds : Multiset Text) := by
  have known : (s.tabs.any fun t => decide (t.id = tab.id)) = true ↔ tab.id ∈ s.tabIds := by
    simp [Workspace.tabIds]
  unfold showTab
  rw [paneState_tabIds]
  by_cases inside : tab.id ∈ (s.tabIds : Multiset Text)
  · rw [if_pos inside, if_pos (known.mpr inside)]
    cases replace with
    | false => rfl
    | true =>
      rw [if_pos rfl, List.map_map]
      refine congrArg _ (List.map_congr_left fun t _ => ?_)
      by_cases same : t.id = tab.id
      · simp [same]
      · simp [same]
  · rw [if_neg inside, if_neg fun asked => inside (known.mp asked), Multiset.cons_coe,
      Multiset.coe_eq_coe]
    exact (insertAt_perm _ _ tab).map Tab.id

theorem removeTabs_ids (s : Workspace) (ids : List Text) :
    ((removeTabs s ids).tabIds : Multiset Text) =
      (s.tabIds : Multiset Text).filter (· ∉ ids) := by
  have kept : ((s.tabs.filter fun t => t.id ∉ ids).map Tab.id) =
      s.tabIds.filter fun id => id ∉ ids := by
    rw [Workspace.tabIds, List.filter_map]
    rfl
  rw [Multiset.filter_coe]
  unfold removeTabs
  split
  · exact congrArg _ kept
  · rename_i absent
    have stays : ∀ id ∈ s.tabIds, decide (id ∉ ids) = true := by
      intro id member
      obtain ⟨tab, tab_member, rfl⟩ := List.mem_map.mp member
      refine decide_eq_true fun inside => ?_
      exact absent (List.any_eq_true.mpr ⟨tab, tab_member, decide_eq_true inside⟩)
    exact congrArg _ (List.filter_eq_self.mpr stays).symm

theorem replacePreview_ids (s : Workspace) (preview : Text) (tab : Tab) :
    ((Panes.replacePreview s preview tab).tabIds : Multiset Text) =
      if tab.id ∈ (s.tabIds : Multiset Text) ∨ preview ∉ (s.tabIds : Multiset Text) then
        (s.tabIds : Multiset Text)
      else (s.tabIds : Multiset Text).map fun id => if id = preview then tab.id else id := by
  unfold Panes.replacePreview
  by_cases asked : tab.id ∈ s.tabIds ∨ preview ∉ s.tabIds
  · have asked' : tab.id ∈ (s.tabIds : Multiset Text) ∨ preview ∉ (s.tabIds : Multiset Text) := asked
    rw [if_pos asked, if_pos asked']
  · have asked' : ¬(tab.id ∈ (s.tabIds : Multiset Text) ∨ preview ∉ (s.tabIds : Multiset Text)) :=
      asked
    rw [if_neg asked, if_neg asked', paneState_tabIds, Multiset.map_coe, Workspace.tabIds,
      List.map_map, List.map_map]
    refine congrArg _ (List.map_congr_left fun t _ => ?_)
    by_cases same : t.id = preview <;> simp [same]

/-- An action opens and closes what it says, and keeps every other tab. -/
theorem act_tabs {session : Session} {action : Action} (fits : Fits session action)
    (complete : (session.workspace.tabIds : Multiset Text) = session.opened) :
    ((session.workspace.act action).tabIds : Multiset Text) = action.after session.opened := by
  rw [← complete]
  cases action with
  | openTab tab replace => exact showTab_ids session.workspace tab replace
  | replacePreview preview tab => exact replacePreview_ids session.workspace preview tab
  | closeTabs ids => exact removeTabs_ids session.workspace ids
  | activateTab | focusPane | closePane => rfl
  | moveTab tabId paneId beforeId =>
    exact Multiset.coe_eq_coe.mpr (moveTabPatch_perm paneId beforeId fits)
  | splitPane paneId zone tabId =>
    refine congrArg _ ?_
    show (Panes.splitPane session.workspace paneId zone tabId).tabIds = _
    unfold Panes.splitPane
    dsimp only
    split
    · rfl
    · split <;> rfl
  | dropTab tabId paneId zone =>
    show ((Panes.dropTab session.workspace tabId paneId zone).tabIds : Multiset Text) = _
    unfold Panes.dropTab
    split
    · rfl
    · split
      · rename_i center
        exact Multiset.coe_eq_coe.mpr (moveTabPatch_perm paneId none (fits.2 center))
      · split
        · rfl
        · split <;> rfl
  | closeSplit =>
    refine congrArg _ ?_
    show (Panes.closeSplit session.workspace).tabIds = _
    unfold Panes.closeSplit
    split <;> rfl
  | swapSplit =>
    refine congrArg _ ?_
    show (Panes.swapSplit session.workspace).tabIds = _
    unfold Panes.swapSplit
    dsimp only
    split
    · rfl
    · split <;> rfl

theorem sound_of_repairable {tabs : List Tab} (repairable : Repairable (tabs.map Tab.id) layout)
    (requestedActive : Option Text) {opened : Multiset Text}
    (complete : (tabs.map Tab.id : Multiset Text) = opened) :
    (⟨paneState tabs layout requestedActive, opened⟩ : Session).Sound where
  wellFormed := (normalize_repairs repairable requestedActive).wellFormed
  atRest := (normalize_repairs repairable requestedActive).normalize_eq fun _ none => by cases none
  complete := complete

theorem step_sound (session : Session) (action : Action) (next : Session) (sound : session.Sound)
    (fits : Fits session action) (stepped : session.step action = some next) : next.Sound := by
  cases stepped
  have whole := act_whole sound.wellFormed.whole fits
  exact sound_of_repairable (whole.repairable _) none (act_tabs fits sound.complete)

theorem initialPanes_whole : Whole initialPanes := by
  constructor <;> decide +kernel

theorem initialPanes_home (tab : Text) : ShownAtHome initialPanes tab := fun _ here =>
  absurd (join_lookup_build _ _ _ _ here).symm (Option.some_ne_none tab)

/-- A stored layout whose focused pane is not there: the tab's recorded pane is not either. -/
def astray : PaneLayout where
  root := .leaf "p1".toList
  focused := "p9".toList
  active := ∅
  owner := ∅
  counter := F64.ofInt 1

end DbFree.Panes
