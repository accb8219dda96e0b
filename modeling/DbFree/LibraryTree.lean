import DbFree.ParentForest
import DbFree.Texts

/- The folder tree of one list of the library, built from the flat rows of folders and
placements (lib/libraryTree.ts). -/
namespace DbFree.Library

open ParentForest

inductive LibraryScope
  | savedQuery
  | dashboard
  | workflow
  | diagram
  deriving DecidableEq

structure LibraryFolder where
  id : Text
  scope : LibraryScope
  /-- `none` for a folder at the top. -/
  parentId : Option Text
  name : Text
  deriving DecidableEq

structure LibraryPlacement where
  scope : LibraryScope
  itemId : Text
  folderId : Text
  deriving DecidableEq

class LibraryItem (T : Type) where
  id : T → Text
  name : T → Text

structure FolderNode (T : Type) where
  folder : LibraryFolder
  folders : List (FolderNode T)
  items : List T
  count : Nat

structure LibraryTreeData (T : Type) where
  folders : List (FolderNode T)
  items : List T
  count : Nat

inductive SortDirection
  | az
  | za
  deriving DecidableEq

structure BuildOptions (T : Type) where
  visible : T → Bool
  hideEmptyFolders : Bool
  direction : SortDirection

def compareNames (localeCompare : Text → Text → Int) (a b : Text) (direction : SortDirection) :
    Int :=
  let order := localeCompare a b
  if direction = .az then order else -order

/-- What `buildTree` is given besides its options. -/
structure Rows (T : Type) where
  scope : LibraryScope
  folders : List LibraryFolder
  placements : List LibraryPlacement
  items : List T

variable {T : Type}

mutual

/-- Every item shown under a node, in tree order. -/
def itemsUnder : FolderNode T → List T
  | ⟨_, folders, items, _⟩ => items ++ itemsUnderAll folders

def itemsUnderAll : List (FolderNode T) → List T
  | [] => []
  | node :: rest => itemsUnder node ++ itemsUnderAll rest

end

mutual

/-- A node's folder and all shown under it. -/
def foldersUnder : FolderNode T → List LibraryFolder
  | ⟨folder, folders, _, _⟩ => folder :: foldersUnderAll folders

def foldersUnderAll : List (FolderNode T) → List LibraryFolder
  | [] => []
  | node :: rest => foldersUnder node ++ foldersUnderAll rest

end

def LibraryTreeData.allItems (tree : LibraryTreeData T) : List T :=
  tree.items ++ itemsUnderAll tree.folders

def LibraryTreeData.allFolders (tree : LibraryTreeData T) : List LibraryFolder :=
  foldersUnderAll tree.folders

section Shown

theorem itemsUnderAll_eq (nodes : List (FolderNode T)) :
    itemsUnderAll nodes = nodes.flatMap itemsUnder := by
  induction nodes with
  | nil => rfl
  | cons node rest hypothesis => rw [itemsUnderAll, List.flatMap_cons, hypothesis]

theorem foldersUnderAll_eq (nodes : List (FolderNode T)) :
    foldersUnderAll nodes = nodes.flatMap foldersUnder := by
  induction nodes with
  | nil => rfl
  | cons node rest hypothesis => rw [foldersUnderAll, List.flatMap_cons, hypothesis]

theorem itemsUnderAll_perm {nodes nodes' : List (FolderNode T)} (same : nodes.Perm nodes') :
    (itemsUnderAll nodes).Perm (itemsUnderAll nodes') := by
  rw [itemsUnderAll_eq, itemsUnderAll_eq]
  exact same.flatMap_right _

theorem foldersUnderAll_perm {nodes nodes' : List (FolderNode T)} (same : nodes.Perm nodes') :
    (foldersUnderAll nodes).Perm (foldersUnderAll nodes') := by
  rw [foldersUnderAll_eq, foldersUnderAll_eq]
  exact same.flatMap_right _

theorem itemsUnderAll_built {α : Type} (build : α → Option (FolderNode T)) (list : List α) :
    itemsUnderAll (list.filterMap build) =
      list.flatMap fun a => (build a).toList.flatMap itemsUnder := by
  induction list with
  | nil => rfl
  | cons a rest hypothesis =>
    rw [List.flatMap_cons, ← hypothesis]
    cases built : build a with
    | none => rw [List.filterMap_cons_none built]; rfl
    | some node =>
      rw [List.filterMap_cons_some built, itemsUnderAll, Option.toList_some,
        List.flatMap_singleton]

theorem foldersUnderAll_built {α : Type} (build : α → Option (FolderNode T)) (list : List α) :
    foldersUnderAll (list.filterMap build) =
      list.flatMap fun a => (build a).toList.flatMap foldersUnder := by
  induction list with
  | nil => rfl
  | cons a rest hypothesis =>
    rw [List.flatMap_cons, ← hypothesis]
    cases built : build a with
    | none => rw [List.filterMap_cons_none built]; rfl
    | some node =>
      rw [List.filterMap_cons_some built, foldersUnderAll, Option.toList_some,
        List.flatMap_singleton]

/-- Every node counts what is shown under it. -/
theorem sum_counts {nodes : List (FolderNode T)}
    (counted : ∀ node ∈ nodes, node.count = (itemsUnder node).length) :
    (nodes.map FolderNode.count).sum = (itemsUnderAll nodes).length := by
  induction nodes with
  | nil => rfl
  | cons node rest hypothesis =>
    rw [List.map_cons, List.sum_cons, itemsUnderAll, List.length_append,
      counted node List.mem_cons_self,
      hypothesis fun other member => counted other (List.mem_cons_of_mem node member)]

end Shown

section Joined

variable (rows : Rows T)

def Rows.mine : List LibraryFolder := rows.folders.filter fun f => f.scope = rows.scope

def Rows.known : List Text := rows.mine.map LibraryFolder.id

/-- A later placement of an item takes the place of an earlier one. -/
def Rows.folderOf (itemId : Text) : Option Text :=
  (rows.placements.reverse.find? fun p =>
    p.scope = rows.scope ∧ p.folderId ∈ rows.known ∧ p.itemId = itemId).map
      LibraryPlacement.folderId

/-- A folder whose parent is gone surfaces at the top level. -/
def Rows.parentOf (f : LibraryFolder) : Option Text := f.parentId.filter (· ∈ rows.known)

def Rows.childrenOf (parent : Option Text) : List LibraryFolder :=
  children rows.parentOf rows.mine parent

theorem mem_childrenOf {rows : Rows T} {parent : Option Text} {f : LibraryFolder} :
    f ∈ rows.childrenOf parent ↔ f ∈ rows.mine ∧ rows.parentOf f = parent := mem_children

/-- The link from a folder to the one it is shown in. -/
def Rows.Up : Text → Text → Prop := Link LibraryFolder.id rows.parentOf rows.mine

variable {rows}

theorem child_up {folder child : LibraryFolder} (member : child ∈ rows.childrenOf (some folder.id)) :
    rows.Up child.id folder.id :=
  ⟨child, (mem_childrenOf.mp member).1, rfl, (mem_childrenOf.mp member).2⟩

theorem known_mine {folder : LibraryFolder} (member : folder ∈ rows.mine) :
    folder.id ∈ rows.known := List.mem_map_of_mem member

theorem parentOf_known {folder : LibraryFolder} {above : Text}
    (named : rows.parentOf folder = some above) : above ∈ rows.known := by
  rw [Rows.parentOf, Option.filter_eq_some_iff] at named
  exact of_decide_eq_true named.2

theorem folderOf_known {item folder : Text} (filed : rows.folderOf item = some folder) :
    folder ∈ rows.known := by
  obtain ⟨placement, found, rfl⟩ := Option.map_eq_some_iff.mp filed
  have fits := List.find?_some found
  exact (of_decide_eq_true fits).2.1

end Joined

variable (localeCompare : Text → Text → Int)

def sortNodes (direction : SortDirection) (list : List (FolderNode T)) : List (FolderNode T) :=
  list.mergeSort fun a b =>
    compareNames localeCompare a.folder.name b.folder.name direction ≤ 0

variable {localeCompare} in
theorem sortNodes_perm (direction : SortDirection) (list : List (FolderNode T)) :
    (sortNodes localeCompare direction list).Perm list := List.mergeSort_perm ..

variable [LibraryItem T]

def Rows.itemsIn (rows : Rows T) (key : Option Text) : List T :=
  rows.items.filter fun item => rows.folderOf (LibraryItem.id item) = key

def sortItems (direction : SortDirection) (list : List T) : List T :=
  list.mergeSort fun a b =>
    compareNames localeCompare (LibraryItem.name a) (LibraryItem.name b) direction ≤ 0


/-- The node for a folder, unless it should not be shown. Each call adds an id to those it has
seen, so that as many nested calls as there are folders meet an id that was seen. -/
def Rows.build (rows : Rows T) (options : BuildOptions T) :
    Nat → LibraryFolder → List Text → Option (FolderNode T)
  | 0, _, _ => none
  | fuel + 1, folder, seen =>
    if folder.id ∈ seen then none
    else
      let trail := folder.id :: seen
      let subfolders := sortNodes localeCompare options.direction
        ((rows.childrenOf (some folder.id)).filterMap fun child =>
          rows.build options fuel child trail)
      let all := rows.itemsIn (some folder.id)
      let shown := sortItems localeCompare options.direction (all.filter options.visible)
      let count := shown.length + (subfolders.map FolderNode.count).sum
      let holdsAnything := !all.isEmpty || !(rows.childrenOf (some folder.id)).isEmpty
      let keep := decide (0 < count) ||
        (!options.hideEmptyFolders && (!subfolders.isEmpty || !holdsAnything))
      if keep then some ⟨folder, subfolders, shown, count⟩ else none

def buildTree (rows : Rows T) (options : BuildOptions T) : LibraryTreeData T :=
  let roots := sortNodes localeCompare options.direction
    ((rows.childrenOf none).filterMap fun f =>
      rows.build localeCompare options rows.mine.length f [])
  let top := sortItems localeCompare options.direction
    ((rows.itemsIn none).filter options.visible)
  ⟨roots, top, top.length + (roots.map FolderNode.count).sum⟩

section Build

variable {localeCompare} {rows : Rows T} {options : BuildOptions T}

theorem sortItems_perm (direction : SortDirection) (list : List T) :
    (sortItems localeCompare direction list).Perm list := List.mergeSort_perm ..

theorem build_count {fuel : Nat} {folder : LibraryFolder} {seen : List Text} {node : FolderNode T}
    (built : rows.build localeCompare options fuel folder seen = some node) :
    node.count = (itemsUnder node).length := by
  induction fuel generalizing folder seen node with
  | zero => cases built
  | succ fuel hypothesis =>
    rw [Rows.build] at built
    split at built
    · cases built
    · simp only at built
      split at built
      · cases built
        rw [itemsUnder, List.length_append, sum_counts]
        intro inner member
        obtain ⟨child, -, made⟩ := List.mem_filterMap.mp
          ((sortNodes_perm options.direction _).mem_iff.mp member)
        exact hypothesis made
      · cases built

/-- The shown items of a folder itself. -/
def Rows.shownIn (rows : Rows T) (options : BuildOptions T) (folder : LibraryFolder) : List T :=
  (rows.itemsIn (some folder.id)).filter options.visible

/-- A folder is built with the shown items of its subtree, or not at all if there are none. -/
theorem build_items (acyclic : Acyclic LibraryFolder.id rows.parentOf rows.mine) {fuel : Nat}
    {folder : LibraryFolder} {seen : List Text}
    (above : ∀ id ∈ seen, Relation.TransGen rows.Up folder.id id) :
    ((rows.build localeCompare options fuel folder seen).toList.flatMap itemsUnder).Perm
      ((subtree LibraryFolder.id rows.parentOf rows.mine fuel folder).flatMap
        (rows.shownIn options)) := by
  induction fuel generalizing folder seen with
  | zero => rfl
  | succ fuel hypothesis =>
    have fresh : folder.id ∉ seen := fun member => acyclic _ (above _ member)
    rw [Rows.build, if_neg fresh, subtree, List.flatMap_cons, List.flatMap_assoc]
    set subfolders := sortNodes localeCompare options.direction
      ((rows.childrenOf (some folder.id)).filterMap fun child =>
        rows.build localeCompare options fuel child (folder.id :: seen)) with sorted
    set shown := sortItems localeCompare options.direction
      ((rows.itemsIn (some folder.id)).filter options.visible) with listed
    have below : (itemsUnderAll subfolders).Perm
        ((children rows.parentOf rows.mine (some folder.id)).flatMap fun child =>
          (subtree LibraryFolder.id rows.parentOf rows.mine fuel child).flatMap
            (rows.shownIn options)) := by
      refine (itemsUnderAll_perm (sortNodes_perm options.direction _)).trans ?_
      rw [itemsUnderAll_built]
      refine List.Perm.flatMap_left _ fun child member => ?_
      refine hypothesis fun id seen_id => ?_
      rcases List.mem_cons.mp seen_id with rfl | seen_id
      · exact .single (child_up member)
      · exact .head (child_up member) (above id seen_id)
    have whole : (shown ++ itemsUnderAll subfolders).Perm _ :=
      (sortItems_perm options.direction _).append below
    refine List.Perm.trans ?_ whole
    have counted : (subfolders.map FolderNode.count).sum = (itemsUnderAll subfolders).length := by
      refine sum_counts fun node member => ?_
      obtain ⟨child, -, made⟩ := List.mem_filterMap.mp
        ((sortNodes_perm options.direction _).mem_iff.mp member)
      exact build_count made
    simp only
    split
    · rw [Option.toList_some, List.flatMap_singleton, itemsUnder]
    · rename_i dropped
      have empty : (shown ++ itemsUnderAll subfolders).length = 0 := by
        rw [List.length_append, ← counted]
        by_contra some_shown
        exact dropped (by rw [decide_eq_true (Nat.pos_of_ne_zero some_shown), Bool.true_or])
      rw [List.eq_nil_of_length_eq_zero empty]
      rfl

/-- With nothing hidden, a folder is built with all the folders of its subtree. -/
theorem build_folders (acyclic : Acyclic LibraryFolder.id rows.parentOf rows.mine)
    (visible : ∀ item, options.visible item = true) (all : options.hideEmptyFolders = false)
    {fuel : Nat} {folder : LibraryFolder} (member : folder ∈ rows.mine) {seen : List Text}
    (distinct : seen.Nodup)
    (above : ∀ id ∈ seen, id ∈ rows.known ∧ Relation.TransGen rows.Up folder.id id)
    (room : seen.length + fuel = rows.mine.length) :
    ∃ node, rows.build localeCompare options fuel folder seen = some node ∧
      (foldersUnder node).Perm (subtree LibraryFolder.id rows.parentOf rows.mine fuel folder) := by
  induction fuel generalizing folder seen with
  | zero =>
    -- every folder was seen, and this one is another
    have fresh : folder.id ∉ seen := fun there => acyclic _ (above _ there).2
    have longer : (folder.id :: seen).Nodup := List.nodup_cons.mpr ⟨fresh, distinct⟩
    have inside : folder.id :: seen ⊆ rows.known := by
      intro id there
      rcases List.mem_cons.mp there with rfl | there
      · exact known_mine member
      · exact (above id there).1
    have size := (longer.subperm inside).length_le
    rw [List.length_cons, Rows.known, List.length_map] at size
    omega
  | succ fuel hypothesis =>
    have fresh : folder.id ∉ seen := fun there => acyclic _ (above _ there).2
    rw [Rows.build, if_neg fresh, subtree]
    set kids := children rows.parentOf rows.mine (some folder.id) with kids_eq
    have each : ∀ child ∈ kids, ∃ node,
        rows.build localeCompare options fuel child (folder.id :: seen) = some node ∧
          (foldersUnder node).Perm
            (subtree LibraryFolder.id rows.parentOf rows.mine fuel child) := by
      intro child there
      refine hypothesis (mem_childrenOf.mp there).1 (List.nodup_cons.mpr ⟨fresh, distinct⟩) ?_
        (by rw [List.length_cons]; omega)
      intro id seen_id
      rcases List.mem_cons.mp seen_id with rfl | seen_id
      · exact ⟨known_mine member, .single (child_up there)⟩
      · exact ⟨(above id seen_id).1, .head (child_up there) (above id seen_id).2⟩
    set subfolders := sortNodes localeCompare options.direction
      ((rows.childrenOf (some folder.id)).filterMap fun child =>
        rows.build localeCompare options fuel child (folder.id :: seen)) with sorted
    have below : (foldersUnderAll subfolders).Perm
        (kids.flatMap (subtree LibraryFolder.id rows.parentOf rows.mine fuel)) := by
      refine (foldersUnderAll_perm (sortNodes_perm options.direction _)).trans ?_
      rw [foldersUnderAll_built]
      refine List.Perm.flatMap_left _ fun child there => ?_
      obtain ⟨node, built, under⟩ := each child there
      rw [built, Option.toList_some, List.flatMap_singleton]
      exact under
    have kept_kids : kids ≠ [] → subfolders ≠ [] := by
      intro some_kid none_kept
      obtain ⟨child, there⟩ := List.exists_mem_of_ne_nil _ some_kid
      obtain ⟨node, built, -⟩ := each child there
      have kept : node ∈ subfolders :=
        (sortNodes_perm options.direction _).mem_iff.mpr (List.mem_filterMap.mpr ⟨child, there, built⟩)
      rw [none_kept] at kept
      cases kept
    simp only
    split
    · exact ⟨_, rfl, by rw [foldersUnder]; exact below.cons folder⟩
    · rename_i dropped
      exfalso
      apply dropped
      rw [all, Bool.or_eq_true, Bool.not_false, Bool.true_and, Bool.or_eq_true, decide_eq_true_iff]
      by_cases held : rows.itemsIn (some folder.id) = []
      · by_cases kid : kids = []
        · refine .inr (.inr ?_)
          have no_kid : rows.childrenOf (some folder.id) = [] := kid
          rw [held, no_kid]
          rfl
        · refine .inr (.inl ?_)
          rw [Bool.not_eq_true', List.isEmpty_eq_false_iff]
          exact kept_kids kid
      · refine .inl ?_
        have shows : (rows.itemsIn (some folder.id)).filter options.visible =
            rows.itemsIn (some folder.id) := List.filter_eq_self.mpr fun item _ => visible item
        have size := (@sortItems_perm T localeCompare _ options.direction
          (rows.itemsIn (some folder.id))).length_eq
        have some_item := List.length_pos_of_ne_nil held
        rw [shows]
        omega

end Build

section Tree

variable {localeCompare} {rows : Rows T} {options : BuildOptions T}

theorem buildTree_items (acyclic : Acyclic LibraryFolder.id rows.parentOf rows.mine)
    (distinct : rows.known.Nodup) :
    (buildTree localeCompare rows options).allItems.Perm (rows.items.filter options.visible) := by
  have roots : (itemsUnderAll (buildTree localeCompare rows options).folders).Perm
      (rows.mine.flatMap (rows.shownIn options)) := by
    refine (itemsUnderAll_perm (sortNodes_perm options.direction _)).trans ?_
    rw [itemsUnderAll_built]
    have each : ((rows.childrenOf none).flatMap fun f =>
        (rows.build localeCompare options rows.mine.length f []).toList.flatMap itemsUnder).Perm
        ((rows.childrenOf none).flatMap fun f =>
          (subtree LibraryFolder.id rows.parentOf rows.mine rows.mine.length f).flatMap
            (rows.shownIn options)) :=
      List.Perm.flatMap_left _ fun f _ => build_items acyclic fun id none => by cases none
    refine each.trans ?_
    rw [← List.flatMap_assoc]
    exact (acyclic.subtrees distinct fun f _ above named => parentOf_known named).flatMap_right _
  refine ((sortItems_perm options.direction _).append roots).trans ?_
  have grouped := grouped_perm (fun item => rows.folderOf (LibraryItem.id item)) rows.items distinct
    fun item _ folder filed => folderOf_known filed
  refine List.Perm.trans ?_ (grouped.filter options.visible)
  rw [List.filter_append, List.filter_flatMap, Rows.known, List.flatMap_map]
  rfl

/-- With nothing hidden the tree shows every folder of its list, once. -/
theorem buildTree_folders (acyclic : Acyclic LibraryFolder.id rows.parentOf rows.mine)
    (distinct : rows.known.Nodup) (visible : ∀ item, options.visible item = true)
    (all : options.hideEmptyFolders = false) :
    (buildTree localeCompare rows options).allFolders.Perm rows.mine := by
  refine (foldersUnderAll_perm (sortNodes_perm options.direction _)).trans ?_
  rw [foldersUnderAll_built]
  refine List.Perm.trans (List.Perm.flatMap_left _ fun f member => ?_)
    (acyclic.subtrees distinct fun f _ above named => parentOf_known named)
  obtain ⟨node, built, under⟩ := build_folders acyclic visible all
    (mem_childrenOf.mp member).1 List.nodup_nil (fun id none => by cases none) (Nat.zero_add _)
  rw [built, Option.toList_some, List.flatMap_singleton]
  exact under

end Tree

end DbFree.Library
