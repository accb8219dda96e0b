import DbFree.Panes

/- What the repair of a pane layout makes of it, and when it leaves a layout alone. -/
namespace DbFree.Panes

open Records

variable {layout next : PaneLayout} {tabIds : List Text} {paneId tab : Text}

theorem hasPane_iff : hasPane layout paneId = true ↔ paneId ∈ layout.root.paneIds :=
  List.contains_iff_mem

theorem PaneNode.paneIds_ne_nil (node : PaneNode) : node.paneIds ≠ [] := by
  induction node with
  | leaf id => exact List.cons_ne_nil id []
  | split id direction ratio first second left _ =>
    rw [paneIds]
    exact List.append_ne_nil_of_left_ne_nil left _

/-- Removing a pane leaves the other ones in their order. -/
theorem PaneNode.removeLeaf_ids (paneId : Text) (node : PaneNode) :
    ((node.removeLeaf paneId).map paneIds).getD [] = node.paneIds.filter (· ≠ paneId) := by
  induction node with
  | leaf id =>
    rw [removeLeaf, paneIds]
    split
    · rename_i same
      simp [same]
    · rename_i other
      simp [other, paneIds]
  | split id direction ratio first second left right =>
    rw [paneIds, List.filter_append, ← left, ← right, removeLeaf]
    cases first.removeLeaf paneId with
    | none => rfl
    | some kept =>
      cases second.removeLeaf paneId with
      | none => exact (List.append_nil _).symm
      | some other => rfl

theorem PaneNode.removeLeaf_some {root node : PaneNode}
    (kept : node.removeLeaf paneId = some root) :
    root.paneIds = node.paneIds.filter (· ≠ paneId) := by
  rw [← removeLeaf_ids, kept]
  rfl

theorem PaneNode.removeLeaf_isSome {node : PaneNode} {other : Text}
    (member : other ∈ node.paneIds) (apart : other ≠ paneId) :
    ∃ root, node.removeLeaf paneId = some root := by
  cases removed : node.removeLeaf paneId with
  | some root => exact ⟨root, rfl⟩
  | none =>
    have ids := node.removeLeaf_ids paneId
    rw [removed] at ids
    have kept : other ∈ node.paneIds.filter (· ≠ paneId) :=
      List.mem_filter.mpr ⟨member, decide_eq_true apart⟩
    rw [← ids] at kept
    exact absurd kept List.not_mem_nil

/-- A split puts the new pane beside each pane of that id. -/
theorem PaneNode.splitLeaf_ids (paneId new splitId : Text) (direction : SplitDirection)
    (position : Position) (node : PaneNode) :
    (splitLeaf paneId (.leaf new) splitId direction position node).paneIds.Perm
      (node.paneIds ++ List.replicate (node.paneIds.count paneId) new) := by
  induction node with
  | leaf id =>
    unfold splitLeaf
    split
    · rename_i other
      simp [paneIds, other]
    · rename_i same
      rw [not_not.mp same]
      cases position with
      | before => simpa [paneIds] using List.Perm.swap paneId new []
      | after => simp [paneIds]
  | split id otherWay ratio first second left right =>
    rw [splitLeaf, paneIds, paneIds, List.count_append, List.replicate_add]
    refine (left.append right).trans ?_
    rw [List.append_assoc, List.append_assoc]
    refine List.Perm.append_left _ ?_
    rw [← List.append_assoc, ← List.append_assoc]
    exact List.Perm.append_right _ List.perm_append_comm

theorem heirOf_mem {remaining : List Text} (some_left : remaining ≠ []) :
    heirOf layout paneId remaining ∈ remaining := by
  unfold heirOf
  dsimp only
  split
  · rename_i id found
    have inside := List.find?_some found
    exact of_decide_eq_true inside
  · cases remaining with
    | nil => exact absurd rfl some_left
    | cons first rest => exact List.mem_cons_self

/-- What closing a pane does: it goes, and its focus and its tabs go to the heir. -/
structure Closed (layout next : PaneLayout) (paneId : Text) : Prop where
  ids : next.root.paneIds = layout.root.paneIds.filter (· ≠ paneId)
  heir : ∃ target ∈ next.root.paneIds,
    next.owner = mapValues (fun pane => if pane = paneId then target else pane) layout.owner ∧
    next.focused = if layout.focused = paneId then target else layout.focused
  shows : ∀ pane shown, activeIn next pane = some shown →
    activeIn layout pane = some shown ∨ activeIn layout paneId = some shown

theorem two_le_length {first second : Text} {list : List Text} (first_member : first ∈ list)
    (second_member : second ∈ list) (apart : second ≠ first) : 2 ≤ list.length := by
  rcases list with _ | ⟨one, _ | ⟨two, rest⟩⟩
  · exact absurd first_member List.not_mem_nil
  · rw [List.mem_singleton] at first_member second_member
    exact absurd (second_member.trans first_member.symm) apart
  · exact Nat.le_add_left 2 rest.length

theorem length_le_one {only : Text} {list : List Text} (distinct : list.Nodup)
    (alone : ∀ other ∈ list, other = only) : list.length ≤ 1 := by
  rcases list with _ | ⟨one, _ | ⟨two, rest⟩⟩
  · exact Nat.zero_le 1
  · exact Nat.le_refl 1
  · have same : one = two := (alone one (by simp)).trans (alone two (by simp)).symm
    simp [same] at distinct

theorem join_lookup_build (value : Text → Option Text) (keys : List Text) (pane shown : Text)
    (found : ((build value keys).lookup pane).join = some shown) : value pane = some shown := by
  rw [lookup_build] at found
  split at found
  · exact found
  · cases found

theorem closePane_closes {other : Text} (member : paneId ∈ layout.root.paneIds)
    (other_member : other ∈ layout.root.paneIds) (apart : other ≠ paneId) :
    Closed layout (closePane layout paneId) paneId := by
  obtain ⟨root, removed⟩ := PaneNode.removeLeaf_isSome other_member apart
  have several : ¬(paneCount layout ≤ 1 ∨ ¬hasPane layout paneId) := by
    rintro (few | absent)
    · have many := two_le_length member other_member apart
      unfold paneCount at few
      omega
    · exact absent (hasPane_iff.mpr member)
  rw [closePane, if_neg several, removed]
  refine ⟨PaneNode.removeLeaf_some removed,
    ⟨heirOf layout paneId root.paneIds, heirOf_mem root.paneIds_ne_nil, rfl, rfl⟩, ?_⟩
  intro pane shown here
  unfold activeIn at here
  dsimp only at here
  split at here
  · rename_i moved _ moved_eq
    by_cases same : pane = heirOf layout paneId root.paneIds
    · rw [same, AList.lookup_insert] at here
      refine Or.inr ?_
      rw [activeIn, moved_eq]
      exact here
    · rw [AList.lookup_insert_ne same] at here
      exact Or.inl (join_lookup_build _ _ _ _ here)
  · exact Or.inl (join_lookup_build _ _ _ _ here)

/-- A pane that is not there, or has no other beside it, is not closed. -/
theorem closePane_eq (alone : paneId ∈ layout.root.paneIds →
    ∀ other ∈ layout.root.paneIds, other = paneId) : closePane layout paneId = layout := by
  unfold closePane
  split
  · rfl
  · rename_i several
    have member : paneId ∈ layout.root.paneIds := by
      by_contra absent
      exact several (Or.inr fun present => absent (hasPane_iff.mp present))
    cases removed : layout.root.removeLeaf paneId with
    | none => rfl
    | some root =>
      have ids := PaneNode.removeLeaf_some removed
      rw [List.filter_eq_nil_iff.mpr fun other other_member => by
        rw [alone member other other_member]; simp] at ids
      exact absurd ids root.paneIds_ne_nil

/-- Every tab has a recorded owner that exists, and the record is one the repair keeps. -/
structure Settled (tabIds : List Text) (layout : PaneLayout) : Prop where
  owned : ∀ tab ∈ tabIds, layout.owner.lookup tab = some (paneOf layout tab) ∧
    paneOf layout tab ∈ layout.root.paneIds
  tidy : layout.owner = build (paneOf layout) tabIds ∨ layout.owner.keys.length = tabIds.length

theorem paneOf_of_owner (owner : layout.owner.lookup tab = some paneId)
    (present : paneId ∈ layout.root.paneIds) : paneOf layout tab = paneId := by
  rw [paneOf, owner]
  exact if_pos (hasPane_iff.mpr present)

/-- Where every tab has an owner, only the owners and the tree count. -/
theorem Settled.of_same (settled : Settled tabIds layout) (owner : next.owner = layout.owner)
    (root : next.root = layout.root) :
    Settled tabIds next ∧ ∀ tab ∈ tabIds, paneOf next tab = paneOf layout tab := by
  have same : ∀ tab ∈ tabIds, paneOf next tab = paneOf layout tab := by
    intro tab member
    obtain ⟨found, present⟩ := settled.owned tab member
    exact paneOf_of_owner (owner ▸ found) (root ▸ present)
  refine ⟨⟨fun tab member => ?_, ?_⟩, same⟩
  · rw [same tab member, owner, root]
    exact settled.owned tab member
  · rw [owner]
    rcases settled.tidy with built | count
    · exact Or.inl (built.trans (build_congr fun tab member => (same tab member).symm))
    · exact Or.inr count

theorem holdsTab_iff : holdsTab tabIds layout paneId = true ↔
    ∃ tab ∈ tabIds, paneOf layout tab = paneId := by
  rw [holdsTab, List.any_eq_true]
  simp only [beq_iff_eq]

theorem holdsTab_congr (same : ∀ tab ∈ tabIds, paneOf next tab = paneOf layout tab)
    (paneId : Text) : holdsTab tabIds next paneId = holdsTab tabIds layout paneId := by
  rw [Bool.eq_iff_iff, holdsTab_iff, holdsTab_iff]
  exact exists_congr fun tab => and_congr_right fun member => by rw [same tab member]

/-- Closing a pane without tabs moves no tab. -/
theorem Settled.close (settled : Settled tabIds layout) (closed : Closed layout next paneId)
    (empty : holdsTab tabIds layout paneId = false) :
    Settled tabIds next ∧ ∀ tab ∈ tabIds, paneOf next tab = paneOf layout tab := by
  obtain ⟨target, _, owner, _⟩ := closed.heir
  have elsewhere : ∀ tab ∈ tabIds, paneOf layout tab ≠ paneId := by
    intro tab member here
    rw [holdsTab_iff.mpr ⟨tab, member, here⟩] at empty
    cases empty
  have found : ∀ tab ∈ tabIds, next.owner.lookup tab = some (paneOf layout tab) := by
    intro tab member
    rw [owner, lookup_mapValues, (settled.owned tab member).1, Option.map_some,
      if_neg (elsewhere tab member)]
  have present : ∀ tab ∈ tabIds, paneOf layout tab ∈ next.root.paneIds := by
    intro tab member
    rw [closed.ids]
    exact List.mem_filter.mpr
      ⟨(settled.owned tab member).2, decide_eq_true (elsewhere tab member)⟩
  have same : ∀ tab ∈ tabIds, paneOf next tab = paneOf layout tab :=
    fun tab member => paneOf_of_owner (found tab member) (present tab member)
  refine ⟨⟨fun tab member => ?_, ?_⟩, same⟩
  · rw [same tab member]
    exact ⟨found tab member, present tab member⟩
  · rcases settled.tidy with built | count
    · refine Or.inl ?_
      rw [owner, built, mapValues_build fun tab member => if_neg (elsewhere tab member)]
      exact build_congr fun tab member => (same tab member).symm
    · rw [owner, keys_mapValues]
      exact Or.inr count

/-- Each tab has a recorded pane that exists, or else the focused pane does. -/
def Placed (tabIds : List Text) (layout : PaneLayout) : Prop :=
  ∀ tab ∈ tabIds, paneOf layout tab ∈ layout.root.paneIds

theorem settleOwners_settles (placed : Placed tabIds layout) :
    Settled tabIds (settleOwners tabIds layout) ∧
      ∀ tab ∈ tabIds, paneOf (settleOwners tabIds layout) tab = paneOf layout tab := by
  unfold settleOwners
  dsimp only
  split
  · have same : ∀ tab ∈ tabIds,
        paneOf { layout with owner := build (paneOf layout) tabIds } tab = paneOf layout tab := by
      intro tab member
      exact paneOf_of_owner ((lookup_build _ _ tab).trans (if_pos member)) (placed tab member)
    refine ⟨⟨fun tab member => ?_, Or.inl ?_⟩, same⟩
    · rw [same tab member]
      exact ⟨(lookup_build _ _ tab).trans (if_pos member), placed tab member⟩
    · exact build_congr fun tab member => (same tab member).symm
  · rename_i kept
    simp only [Bool.or_eq_true, List.any_eq_true, decide_eq_true_eq, not_or, not_exists, not_and,
      not_not] at kept
    exact ⟨⟨fun tab member => ⟨kept.1 tab member, placed tab member⟩, Or.inr kept.2⟩,
      fun tab member => rfl⟩

theorem settleOwners_eq (settled : Settled tabIds layout) : settleOwners tabIds layout = layout := by
  unfold settleOwners
  dsimp only
  split
  · rename_i changed
    simp only [Bool.or_eq_true, List.any_eq_true, decide_eq_true_eq] at changed
    rcases changed with ⟨tab, member, other⟩ | count
    · exact absurd (settled.owned tab member).1 other
    · rcases settled.tidy with built | same
      · rw [← built]
      · exact absurd same count
  · rfl

@[simp]
theorem settleOwners_root (tabIds : List Text) (layout : PaneLayout) :
    (settleOwners tabIds layout).root = layout.root := by
  unfold settleOwners
  dsimp only
  split <;> rfl

@[simp]
theorem settleOwners_activeIn (tabIds : List Text) (layout : PaneLayout) (pane : Text) :
    activeIn (settleOwners tabIds layout) pane = activeIn layout pane := by
  unfold settleOwners
  dsimp only
  split <;> rfl

/-- What one look at a pane does: an empty pane that is not the last one is closed. -/
theorem closeEmptyPane_cases (tabIds : List Text) (layout : PaneLayout) (paneId : Text) :
    (closeEmptyPane tabIds layout paneId = layout ∧
      (paneId ∈ layout.root.paneIds → holdsTab tabIds layout paneId = false →
        ∀ other ∈ layout.root.paneIds, other = paneId)) ∨
    (Closed layout (closeEmptyPane tabIds layout paneId) paneId ∧
      holdsTab tabIds layout paneId = false) := by
  unfold closeEmptyPane
  split
  · rename_i asked
    have empty : holdsTab tabIds layout paneId = false := by simpa using asked.2
    by_cases others : paneId ∈ layout.root.paneIds ∧ ∃ other ∈ layout.root.paneIds, other ≠ paneId
    · obtain ⟨member, other, other_member, apart⟩ := others
      exact Or.inr ⟨closePane_closes member other_member apart, empty⟩
    · have alone : paneId ∈ layout.root.paneIds →
          ∀ other ∈ layout.root.paneIds, other = paneId := by
        intro member other other_member
        by_contra apart
        exact others ⟨member, other, other_member, apart⟩
      exact Or.inl ⟨closePane_eq alone, fun member _ => alone member⟩
  · rename_i kept
    refine Or.inl ⟨rfl, fun member empty other other_member => ?_⟩
    by_contra apart
    exact kept ⟨two_le_length member other_member apart, by rw [empty]; rfl⟩

/-- What the closing of the empty panes keeps, and what it leaves. -/
structure Emptied (tabIds : List Text) (layout next : PaneLayout) : Prop where
  settled : Settled tabIds next
  same : ∀ tab ∈ tabIds, paneOf next tab = paneOf layout tab
  fewer : next.root.paneIds.Sublist layout.root.paneIds
  shows : ∀ pane shown, activeIn next pane = some shown → activeIn layout pane = some shown ∨
    ∃ empty, holdsTab tabIds layout empty = false ∧ activeIn layout empty = some shown

theorem Emptied.step {after : PaneLayout} (emptied : Emptied tabIds layout next)
    (closed : Closed next after paneId) (empty : holdsTab tabIds layout paneId = false) :
    Emptied tabIds layout after := by
  rw [← holdsTab_congr emptied.same paneId] at empty
  obtain ⟨settled, same⟩ := emptied.settled.close closed empty
  constructor
  · exact settled
  · exact fun tab member => (same tab member).trans (emptied.same tab member)
  · rw [closed.ids]
    exact List.filter_sublist.trans emptied.fewer
  · intro pane shown here
    rcases closed.shows pane shown here with before | moved
    · exact emptied.shows pane shown before
    · rcases emptied.shows paneId shown moved with before | other
      · rw [holdsTab_congr emptied.same paneId] at empty
        exact Or.inr ⟨paneId, empty, before⟩
      · exact Or.inr other

theorem foldl_closeEmptyPane (ids : List Text) (emptied : Emptied tabIds layout next) :
    Emptied tabIds layout (ids.foldl (closeEmptyPane tabIds) next) ∧
      (ids.foldl (closeEmptyPane tabIds) next).root.paneIds.Sublist next.root.paneIds ∧
      ∀ paneId ∈ ids, paneId ∈ (ids.foldl (closeEmptyPane tabIds) next).root.paneIds →
        holdsTab tabIds layout paneId = true ∨
          ∀ other ∈ (ids.foldl (closeEmptyPane tabIds) next).root.paneIds, other = paneId := by
  induction ids generalizing next with
  | nil => exact ⟨emptied, List.Sublist.refl _, fun paneId none => absurd none List.not_mem_nil⟩
  | cons first rest hypothesis =>
    rw [List.foldl_cons]
    have holds_eq := holdsTab_congr emptied.same first
    rcases closeEmptyPane_cases tabIds next first with ⟨kept, alone⟩ | ⟨closed, empty⟩
    · rw [kept]
      obtain ⟨emptied', shorter, filled⟩ := hypothesis emptied
      refine ⟨emptied', shorter, fun paneId member inside => ?_⟩
      rcases List.mem_cons.mp member with rfl | later
      · cases held : holdsTab tabIds layout paneId with
        | true => exact Or.inl rfl
        | false =>
          have only := alone (shorter.subset inside) (holds_eq.trans held)
          exact Or.inr fun other other_member => only other (shorter.subset other_member)
      · exact filled paneId later inside
    · obtain ⟨emptied', shorter, filled⟩ := hypothesis (emptied.step closed (holds_eq ▸ empty))
      have gone := closed.ids ▸ shorter
      refine ⟨emptied', gone.trans List.filter_sublist, fun paneId member inside => ?_⟩
      rcases List.mem_cons.mp member with rfl | later
      · exact absurd (gone.subset inside) (by simp)
      · exact filled paneId later inside

/-- The panes that hold a tab are distinct and at most four, and every tab has a place. -/
structure Repairable (tabIds : List Text) (layout : PaneLayout) : Prop where
  placed : Placed tabIds layout
  distinct : (layout.root.paneIds.filter (holdsTab tabIds layout)).Nodup
  few : (layout.root.paneIds.filter (holdsTab tabIds layout)).length ≤ MAX_PANES
  bare : tabIds = [] → layout.root.paneIds.Nodup

/-- Distinct panes, at most four of them, each with a tab unless it is the only one. -/
structure Trimmed (tabIds : List Text) (layout : PaneLayout) : Prop where
  distinct : layout.root.paneIds.Nodup
  few : paneCount layout ≤ MAX_PANES
  filled : 1 < paneCount layout → ∀ paneId ∈ layout.root.paneIds,
    holdsTab tabIds layout paneId = true

theorem closeEmptyPanes_trims (repairable : Repairable tabIds layout)
    (settled : Settled tabIds layout) :
    Emptied tabIds layout (closeEmptyPanes tabIds layout) ∧
      Trimmed tabIds (closeEmptyPanes tabIds layout) := by
  have start : Emptied tabIds layout layout :=
    ⟨settled, fun _ _ => rfl, List.Sublist.refl _, fun _ _ here => Or.inl here⟩
  obtain ⟨emptied, shorter, filled⟩ := foldl_closeEmptyPane layout.root.paneIds start
  change Emptied tabIds layout (closeEmptyPanes tabIds layout) at emptied
  change (closeEmptyPanes tabIds layout).root.paneIds.Sublist _ at shorter
  change ∀ paneId ∈ layout.root.paneIds, paneId ∈ (closeEmptyPanes tabIds layout).root.paneIds →
    _ ∨ ∀ other ∈ (closeEmptyPanes tabIds layout).root.paneIds, other = paneId at filled
  refine ⟨emptied, ?_⟩
  generalize closeEmptyPanes tabIds layout = next at emptied shorter filled ⊢
  by_cases held : ∀ paneId ∈ next.root.paneIds, holdsTab tabIds layout paneId = true
  · have inside : next.root.paneIds.Sublist
        (layout.root.paneIds.filter (holdsTab tabIds layout)) := by
      rw [← List.filter_eq_self.mpr held]
      exact shorter.filter _
    exact ⟨repairable.distinct.sublist inside, inside.length_le.trans repairable.few,
      fun _ paneId member => (holdsTab_congr emptied.same paneId).trans (held paneId member)⟩
  · push Not at held
    obtain ⟨bare, bare_member, empty⟩ := held
    have alone : ∀ other ∈ next.root.paneIds, other = bare :=
      (filled bare (shorter.subset bare_member) bare_member).resolve_left empty
    have no_tabs : tabIds = [] := by
      by_contra some_tabs
      obtain ⟨tab, member⟩ := List.exists_mem_of_ne_nil tabIds some_tabs
      have here := alone _ (emptied.settled.owned tab member).2
      exact empty (holdsTab_iff.mpr ⟨tab, member, (emptied.same tab member).symm.trans here⟩)
    have distinct := (repairable.bare no_tabs).sublist shorter
    have single : paneCount next ≤ 1 := length_le_one distinct alone
    exact ⟨distinct, single.trans (by decide), fun several => absurd single (by omega)⟩

/-- The tree and the owners are the same. -/
structure SameTabs (layout next : PaneLayout) : Prop where
  root : next.root = layout.root
  owner : next.owner = layout.owner

theorem SameTabs.trimmed (same : SameTabs layout next) (settled : Settled tabIds layout)
    (trimmed : Trimmed tabIds layout) : Trimmed tabIds next := by
  have kept := (settled.of_same same.owner same.root).2
  refine ⟨same.root ▸ trimmed.distinct, ?_, fun several paneId member => ?_⟩
  · rw [paneCount, same.root]
    exact trimmed.few
  · rw [paneCount, same.root] at several
    rw [same.root] at member
    rw [holdsTab_congr kept]
    exact trimmed.filled several paneId member

theorem closeEmptyPanes_eq (trimmed : Trimmed tabIds layout) :
    closeEmptyPanes tabIds layout = layout := by
  have kept : ∀ paneId ∈ layout.root.paneIds, closeEmptyPane tabIds layout paneId = layout := by
    intro paneId member
    unfold closeEmptyPane
    split
    · rename_i asked
      have held := trimmed.filled asked.1 paneId member
      simp [held] at asked
    · rfl
  have folded : ∀ ids : List Text, (∀ paneId ∈ ids, paneId ∈ layout.root.paneIds) →
      ids.foldl (closeEmptyPane tabIds) layout = layout := by
    intro ids inside
    induction ids with
    | nil => rfl
    | cons first rest hypothesis =>
      rw [List.foldl_cons, kept first (inside first List.mem_cons_self)]
      exact hypothesis fun paneId member => inside paneId (List.mem_cons_of_mem first member)
  exact folded layout.root.paneIds fun _ member => member

theorem activateInLayout_same (owned : layout.owner.lookup tab = some (paneOf layout tab)) :
    SameTabs layout (activateInLayout layout tab) := by
  refine ⟨rfl, ?_⟩
  rw [activateInLayout]
  exact if_pos owned

theorem activateInLayout_active (layout : PaneLayout) (tab : Text) :
    activeOf (activateInLayout layout tab) = some tab := by
  rw [activeOf, activeIn, activateInLayout]
  dsimp only
  split
  · rename_i shown
    rw [shown]
    rfl
  · rw [AList.lookup_insert]
    rfl

theorem showRequested_same (settled : Settled tabIds layout) (requestedActive : Option Text) :
    SameTabs layout (showRequested tabIds requestedActive layout) := by
  unfold showRequested
  split
  · split
    · rename_i asked
      exact activateInLayout_same (settled.owned _ asked.1).1
    · exact ⟨rfl, rfl⟩
  · exact ⟨rfl, rfl⟩

theorem showOwn_same (tabIds : List Text) (layout : PaneLayout) :
    SameTabs layout (showOwn tabIds layout) ∧
      (showOwn tabIds layout).focused = layout.focused := by
  unfold showOwn
  dsimp only
  split <;> exact ⟨⟨rfl, rfl⟩, rfl⟩

theorem focusReal_same (layout : PaneLayout) :
    SameTabs layout (focusReal layout) ∧ (focusReal layout).active = layout.active := by
  unfold focusReal
  split <;> exact ⟨⟨rfl, rfl⟩, rfl⟩

theorem focusReal_focused (layout : PaneLayout) :
    (focusReal layout).focused ∈ (focusReal layout).root.paneIds := by
  unfold focusReal
  split
  · rename_i here
    exact hasPane_iff.mp here
  · have some_panes := layout.root.paneIds_ne_nil
    show layout.root.paneIds.head?.getD _ ∈ layout.root.paneIds
    cases ids : layout.root.paneIds with
    | nil => exact absurd ids some_panes
    | cons first rest => exact List.mem_cons_self

/-- What each pane shows is recorded, and no more than that. -/
structure Shows (tabIds : List Text) (layout : PaneLayout) : Prop where
  shown : ∀ paneId ∈ layout.root.paneIds,
    layout.active.lookup paneId = some (shownIn tabIds layout paneId)
  tidy : layout.active.keys.length =
    (build (shownIn tabIds layout) layout.root.paneIds).keys.length

theorem shownIn_mem (shown : shownIn tabIds layout paneId = some tab) :
    tab ∈ tabIds ∧ paneOf layout tab = paneId := by
  have mine : tab ∈ tabIds.filter fun tab => paneOf layout tab == paneId := by
    unfold shownIn at shown
    dsimp only at shown
    split at shown
    · split at shown
      · rename_i inside
        cases shown
        exact inside
      · exact List.mem_of_getLast? shown
    · exact List.mem_of_getLast? shown
  rw [List.mem_filter, beq_iff_eq] at mine
  exact mine

theorem shownIn_none (bare : shownIn tabIds layout paneId = none) :
    ∀ tab ∈ tabIds, paneOf layout tab ≠ paneId := by
  intro tab member here
  have mine : tab ∈ tabIds.filter fun tab => paneOf layout tab == paneId :=
    List.mem_filter.mpr ⟨member, beq_iff_eq.mpr here⟩
  have none_last : (tabIds.filter fun tab => paneOf layout tab == paneId).getLast? = none := by
    unfold shownIn at bare
    dsimp only at bare
    split at bare
    · split at bare
      · cases bare
      · exact bare
    · exact bare
  rw [List.getLast?_eq_none_iff.mp none_last] at mine
  exact absurd mine List.not_mem_nil

/-- Once a pane shows what it is to show, it goes on showing that. -/
theorem shownIn_shown (same : ∀ tab ∈ tabIds, paneOf next tab = paneOf layout tab)
    (here : activeIn next paneId = shownIn tabIds layout paneId) :
    shownIn tabIds next paneId = shownIn tabIds layout paneId := by
  have mine : (tabIds.filter fun tab => paneOf next tab == paneId) =
      tabIds.filter fun tab => paneOf layout tab == paneId :=
    List.filter_congr fun tab member => by rw [same tab member]
  cases shown : shownIn tabIds layout paneId with
  | some tab =>
    obtain ⟨member, inside⟩ := shownIn_mem shown
    have own : tab ∈ tabIds.filter fun tab => paneOf layout tab == paneId :=
      List.mem_filter.mpr ⟨member, beq_iff_eq.mpr inside⟩
    rw [shownIn, here, shown, mine]
    exact if_pos own
  | none =>
    have bare := shownIn_none shown
    rw [shownIn, here, shown, mine]
    show (tabIds.filter fun tab => paneOf layout tab == paneId).getLast? = none
    rw [List.getLast?_eq_none_iff, List.filter_eq_nil_iff]
    intro tab member inside
    exact bare tab member (beq_iff_eq.mp inside)

/-- The repair of what the panes show, whatever they showed. -/
theorem showOwn_shows (tabIds : List Text) (layout : PaneLayout) :
    (∀ paneId ∈ layout.root.paneIds, (showOwn tabIds layout).active.lookup paneId =
      some (shownIn tabIds layout paneId)) ∧
    (showOwn tabIds layout).active.keys.length =
      (build (shownIn tabIds layout) layout.root.paneIds).keys.length := by
  unfold showOwn
  dsimp only
  split
  · exact ⟨fun paneId member => (lookup_build _ _ paneId).trans (if_pos member), rfl⟩
  · rename_i kept
    simp only [Bool.or_eq_true, List.any_eq_true, decide_eq_true_eq, not_or, not_exists, not_and,
      not_not] at kept
    refine ⟨fun paneId member => ?_, kept.2⟩
    have shown := kept.1 paneId member
    rw [shown.1, activeIn]
    cases found : layout.active.lookup paneId with
    | none => simp [found] at shown
    | some tab => rfl

theorem shows_of_showOwn {shown : PaneLayout} (settled : Settled tabIds layout)
    (same : SameTabs (showOwn tabIds layout) shown)
    (active : shown.active = (showOwn tabIds layout).active) : Shows tabIds shown := by
  obtain ⟨own, _⟩ := showOwn_same tabIds layout
  obtain ⟨found, tidy⟩ := showOwn_shows tabIds layout
  have root : shown.root = layout.root := same.root.trans own.root
  have kept := (settled.of_same (same.owner.trans own.owner) root).2
  have again : ∀ paneId ∈ layout.root.paneIds,
      shownIn tabIds shown paneId = shownIn tabIds layout paneId := by
    intro paneId member
    refine shownIn_shown kept ?_
    rw [activeIn, active, found paneId member]
    rfl
  constructor
  · intro paneId member
    rw [root] at member
    rw [again paneId member, active]
    exact found paneId member
  · rw [active, root, tidy]
    exact congrArg List.length (keys_build _ _ _)

theorem showOwn_eq (shows : Shows tabIds layout) : showOwn tabIds layout = layout := by
  unfold showOwn
  dsimp only
  split
  · rename_i changed
    simp only [Bool.or_eq_true, List.any_eq_true, decide_eq_true_eq] at changed
    rcases changed with ⟨paneId, member, other | absent⟩ | count
    · refine absurd ?_ other
      rw [activeIn, shows.shown paneId member]
      rfl
    · rw [shows.shown paneId member] at absent
      cases absent
    · exact absurd shows.tidy count
  · rfl

/-- A layout that the repair leaves alone. -/
structure Repaired (tabIds : List Text) (layout : PaneLayout) : Prop where
  settled : Settled tabIds layout
  trimmed : Trimmed tabIds layout
  shows : Shows tabIds layout
  focused : layout.focused ∈ layout.root.paneIds

theorem Repairable.settleOwners (repairable : Repairable tabIds layout) :
    Repairable tabIds (settleOwners tabIds layout) := by
  obtain ⟨settled, same⟩ := settleOwners_settles repairable.placed
  have held : holdsTab tabIds (Panes.settleOwners tabIds layout) = holdsTab tabIds layout :=
    funext fun paneId => holdsTab_congr same paneId
  constructor
  · exact fun tab member => (settled.owned tab member).2
  · rw [settleOwners_root, held]
    exact repairable.distinct
  · rw [settleOwners_root, held]
    exact repairable.few
  · rw [settleOwners_root]
    exact repairable.bare

theorem normalize_repairs (repairable : Repairable tabIds layout)
    (requestedActive : Option Text) :
    Repaired tabIds (normalize layout tabIds requestedActive) := by
  obtain ⟨settled, _⟩ := settleOwners_settles repairable.placed
  obtain ⟨emptied, trimmed⟩ := closeEmptyPanes_trims repairable.settleOwners settled
  have requested := showRequested_same emptied.settled requestedActive
  have settled' := (emptied.settled.of_same requested.owner requested.root).1
  have trimmed' := requested.trimmed emptied.settled trimmed
  obtain ⟨own, _⟩ := showOwn_same tabIds (showRequested tabIds requestedActive
    (closeEmptyPanes tabIds (settleOwners tabIds layout)))
  obtain ⟨real, active⟩ := focusReal_same (showOwn tabIds (showRequested tabIds requestedActive
    (closeEmptyPanes tabIds (settleOwners tabIds layout))))
  have settled'' := (settled'.of_same own.owner own.root).1
  constructor
  · exact (settled''.of_same real.owner real.root).1
  · exact real.trimmed settled'' (own.trimmed settled' trimmed')
  · exact shows_of_showOwn settled' real active
  · exact focusReal_focused _

/-- A repaired layout stays as it is, unless a tab that it does not show is asked for. -/
theorem Repaired.normalize_eq (repaired : Repaired tabIds layout)
    {requestedActive : Option Text} (shown : ∀ requested, requestedActive = some requested →
      requested ∈ tabIds → activeOf layout = some requested) :
    normalize layout tabIds requestedActive = layout := by
  have requested_eq : showRequested tabIds requestedActive layout = layout := by
    unfold showRequested
    split
    · rename_i requested
      rw [if_neg]
      rintro ⟨known, other⟩
      exact other (shown requested rfl known)
    · rfl
  rw [normalize, settleOwners_eq repaired.settled, closeEmptyPanes_eq repaired.trimmed,
    requested_eq, showOwn_eq repaired.shows, focusReal,
    if_pos (hasPane_iff.mpr repaired.focused)]

/-- No pane but its own is recorded as showing the tab. -/
def ShownAtHome (layout : PaneLayout) (tab : Text) : Prop :=
  ∀ pane, activeIn layout pane = some tab → paneOf layout tab = pane

theorem Emptied.shownAtHome (emptied : Emptied tabIds layout next) (member : tab ∈ tabIds)
    (home : ShownAtHome layout tab) : ShownAtHome next tab := by
  intro pane here
  rw [emptied.same tab member]
  rcases emptied.shows pane tab here with before | ⟨empty, bare, moved⟩
  · exact home pane before
  · rw [holdsTab_iff.mpr ⟨tab, member, home empty moved⟩] at bare
    cases bare

theorem showRequested_active (member : tab ∈ tabIds) (home : ShownAtHome layout tab) :
    activeOf (showRequested tabIds (some tab) layout) = some tab ∧
      paneOf layout tab = (showRequested tabIds (some tab) layout).focused := by
  unfold showRequested
  dsimp only
  split
  · exact ⟨activateInLayout_active layout tab, rfl⟩
  · rename_i kept
    have shown : activeOf layout = some tab := by
      by_contra other
      exact kept ⟨member, other⟩
    exact ⟨shown, home _ shown⟩

/-- The tab asked for is the one that has the keyboard. -/
theorem normalize_shows (repairable : Repairable tabIds layout) (member : tab ∈ tabIds)
    (home : ShownAtHome layout tab) : activeOf (normalize layout tabIds (some tab)) = some tab := by
  obtain ⟨settled, same⟩ := settleOwners_settles repairable.placed
  obtain ⟨emptied, _⟩ := closeEmptyPanes_trims repairable.settleOwners settled
  have home' : ShownAtHome (closeEmptyPanes tabIds (settleOwners tabIds layout)) tab := by
    refine emptied.shownAtHome member fun pane here => ?_
    rw [settleOwners_activeIn] at here
    exact (same tab member).trans (home pane here)
  obtain ⟨active, focused⟩ := showRequested_active member home'
  have requested := showRequested_same emptied.settled (some tab)
  obtain ⟨settled', kept⟩ := emptied.settled.of_same requested.owner requested.root
  have present := (emptied.settled.owned tab member).2
  rw [normalize]
  generalize showRequested tabIds (some tab) (closeEmptyPanes tabIds (settleOwners tabIds layout))
    = third at active focused settled' kept requested ⊢
  rw [focused, ← requested.root] at present
  obtain ⟨own, still⟩ := showOwn_same tabIds third
  have here : hasPane (showOwn tabIds third) (showOwn tabIds third).focused = true := by
    rw [hasPane_iff, still, own.root]
    exact present
  rw [focusReal, if_pos here, activeOf, still, activeIn,
    (showOwn_shows tabIds third).1 _ present, Option.join_some]
  have mine : tab ∈ tabIds.filter fun tab => paneOf third tab == third.focused :=
    List.mem_filter.mpr ⟨member, beq_iff_eq.mpr ((kept tab member).trans focused)⟩
  unfold activeOf at active
  rw [shownIn, active]
  exact if_pos mine

/-- Distinct panes, at most four, the focused one among them; every tab in one of them and
each with a tab where there are several; each showing a tab of its own if it has one. -/
structure WellFormed (tabIds : List Text) (layout : PaneLayout) : Prop where
  distinct : layout.root.paneIds.Nodup
  few : paneCount layout ≤ MAX_PANES
  focused : layout.focused ∈ layout.root.paneIds
  placed : ∀ tab ∈ tabIds, ∃ paneId ∈ layout.root.paneIds, layout.owner.lookup tab = some paneId
  filled : 1 < paneCount layout → ∀ paneId ∈ layout.root.paneIds,
    ∃ tab ∈ tabIds, paneOf layout tab = paneId
  shown : ∀ paneId ∈ layout.root.paneIds, ∃ shown, layout.active.lookup paneId = some shown ∧
    (∀ tab, shown = some tab → tab ∈ tabIds ∧ paneOf layout tab = paneId) ∧
    (shown = none → ∀ tab ∈ tabIds, paneOf layout tab ≠ paneId)

theorem Repaired.wellFormed (repaired : Repaired tabIds layout) : WellFormed tabIds layout where
  distinct := repaired.trimmed.distinct
  few := repaired.trimmed.few
  focused := repaired.focused
  placed tab member := ⟨paneOf layout tab, (repaired.settled.owned tab member).2,
    (repaired.settled.owned tab member).1⟩
  filled several paneId member := holdsTab_iff.mp (repaired.trimmed.filled several paneId member)
  shown paneId member := ⟨shownIn tabIds layout paneId, repaired.shows.shown paneId member,
    fun _ here => shownIn_mem here, fun bare => shownIn_none bare⟩

theorem normalize_idempotent (repairable : Repairable tabIds layout)
    {requestedActive : Option Text} (home : ∀ requested, requestedActive = some requested →
      requested ∈ tabIds → ShownAtHome layout requested) :
    normalize (normalize layout tabIds requestedActive) tabIds requestedActive =
      normalize layout tabIds requestedActive := by
  apply (normalize_repairs repairable requestedActive).normalize_eq
  intro requested asked member
  rw [asked]
  exact normalize_shows repairable member (home requested asked member)

end DbFree.Panes
