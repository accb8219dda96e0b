import DbFree.Library

/- What the operations of the library keep: folders without a cycle whose names differ,
placements in folders that exist, and saved queries whose names differ. -/
namespace DbFree.Library

open Texts ParentForest

/-- The folders of a library: no cycle, parents in the list of their folders, and no two
beside each other with one name. -/
structure FoldersKept (toLowercase : Text → Text) (folders : List LibraryFolder) : Prop where
  ids : (folders.map LibraryFolder.id).Nodup
  acyclic : Acyclic LibraryFolder.id LibraryFolder.parentId folders
  parents : ∀ f ∈ folders, ∀ above, f.parentId = some above →
    ∃ parent ∈ folders, parent.id = above ∧ parent.scope = f.scope
  names : ∀ f ∈ folders, ∀ g ∈ folders, f.scope = g.scope → f.parentId = g.parentId →
    toLowercase f.name = toLowercase g.name → f.id = g.id

/-- The ids of the items of a list. -/
def Store.itemIds (store : Store) (scope : LibraryScope) : List Text :=
  if scope = .savedQuery then store.queries.map SavedQuery.id
  else (store.documents.filter fun d => LibraryScope.ofDocument d.kind = scope).map Document.id

/-- Placements: one of an item, and of an item and in a folder that its list has. -/
structure Filed (store : Store) : Prop where
  keys : (store.placements.map fun p => (p.scope, p.itemId)).Nodup
  folders : ∀ p ∈ store.placements, ∃ f ∈ store.folders, f.id = p.folderId ∧ f.scope = p.scope
  items : ∀ p ∈ store.placements, p.itemId ∈ store.itemIds p.scope

/-- Saved queries: no two in one place with one name. -/
structure QueriesKept (toLowercase : Text → Text) (store : Store) : Prop where
  ids : (store.queries.map SavedQuery.id).Nodup
  trimmed : ∀ q ∈ store.queries, trim q.name = q.name ∧ q.name ≠ []
  names : ∀ q ∈ store.queries, ∀ r ∈ store.queries, q.connectionId = r.connectionId →
    store.folderOf .savedQuery q.id = store.folderOf .savedQuery r.id →
    toLowercase q.name = toLowercase r.name → q.id = r.id

section Folders

variable {toLowercase : Text → Text} {folders : List LibraryFolder}

theorem folder_eq (kept : FoldersKept toLowercase folders) {f g : LibraryFolder} (f_in : f ∈ folders)
    (g_in : g ∈ folders) (same : f.id = g.id) : f = g :=
  List.inj_on_of_nodup_map kept.ids f_in g_in same

theorem find_folder (kept : FoldersKept toLowercase folders) {folder : LibraryFolder}
    (member : folder ∈ folders) :
    folders.find? (fun f => f.id = folder.id) = some folder := by
  have some_found : (folders.find? fun f => f.id = folder.id).isSome = true :=
    List.find?_isSome.mpr ⟨folder, member, by rw [decide_eq_true_iff]⟩
  obtain ⟨found, search⟩ := Option.isSome_iff_exists.mp some_found
  have same := List.find?_some search
  rw [search, folder_eq kept (List.mem_of_find?_eq_some search) member (of_decide_eq_true same)]

/-- A folder that is new, in a place where none has its name. -/
theorem FoldersKept.create (kept : FoldersKept toLowercase folders) {folder : LibraryFolder}
    (fresh : folder.id ∉ folders.map LibraryFolder.id)
    (parent : ∀ above, folder.parentId = some above →
      ∃ parent ∈ folders, parent.id = above ∧ parent.scope = folder.scope)
    (fits : ∀ f ∈ folders, f.scope = folder.scope → f.parentId = folder.parentId →
      toLowercase f.name ≠ toLowercase folder.name) :
    FoldersKept toLowercase (folder :: folders) := by
  refine ⟨List.nodup_cons.mpr ⟨fresh, kept.ids⟩, kept.acyclic.insert ?_, ?_, ?_⟩
  · intro other member named
    have inside : ∃ parent ∈ folders, parent.id = folder.id ∧ parent.scope = other.scope := by
      rcases List.mem_cons.mp member with rfl | member
      · exact parent _ named
      · exact kept.parents other member _ named
    obtain ⟨above, above_in, same, -⟩ := inside
    exact fresh (same ▸ List.mem_map_of_mem above_in)
  · intro f member above named
    have inside : ∃ parent ∈ folders, parent.id = above ∧ parent.scope = f.scope := by
      rcases List.mem_cons.mp member with rfl | member
      · exact parent _ named
      · exact kept.parents f member _ named
    obtain ⟨found, found_in, facts⟩ := inside
    exact ⟨found, List.mem_cons_of_mem _ found_in, facts⟩
  · intro f f_in g g_in scopes places names
    rcases List.mem_cons.mp f_in with rfl | f_old
    · rcases List.mem_cons.mp g_in with rfl | g_old
      · rfl
      · exact absurd names.symm (fits g g_old scopes.symm places.symm)
    · rcases List.mem_cons.mp g_in with rfl | g_old
      · exact absurd names (fits f f_old scopes places)
      · exact kept.names f f_old g g_old scopes places names

/-- A folder that is changed, in a place where no other has its name. -/
theorem FoldersKept.change (kept : FoldersKept toLowercase folders)
    {change : LibraryFolder → LibraryFolder} {id : Text}
    (same_id : ∀ f, (change f).id = f.id) (same_scope : ∀ f, (change f).scope = f.scope)
    (others : ∀ f, f.id ≠ id → change f = f)
    (acyclic : Acyclic LibraryFolder.id LibraryFolder.parentId (folders.map change))
    (parent : ∀ f ∈ folders, f.id = id → ∀ above, (change f).parentId = some above →
      ∃ parent ∈ folders, parent.id = above ∧ parent.scope = f.scope)
    (fits : ∀ folder ∈ folders, folder.id = id → ∀ f ∈ folders, f.id ≠ id →
      f.scope = folder.scope → f.parentId = (change folder).parentId →
      toLowercase f.name ≠ toLowercase (change folder).name) :
    FoldersKept toLowercase (folders.map change) := by
  have ids : (folders.map change).map LibraryFolder.id = folders.map LibraryFolder.id := by
    rw [List.map_map]
    exact List.map_congr_left fun f _ => same_id f
  refine ⟨ids ▸ kept.ids, acyclic, ?_, ?_⟩
  · intro f' member above named
    obtain ⟨f, f_in, rfl⟩ := List.mem_map.mp member
    have inside : ∃ parent ∈ folders, parent.id = above ∧ parent.scope = f.scope := by
      by_cases here : f.id = id
      · exact parent f f_in here above named
      · rw [others f here] at named
        exact kept.parents f f_in above named
    obtain ⟨found, found_in, found_id, found_scope⟩ := inside
    exact ⟨change found, List.mem_map_of_mem found_in, by rw [same_id, found_id],
      by rw [same_scope, same_scope, found_scope]⟩
  · intro f' f'_in g' g'_in scopes places names
    obtain ⟨f, f_in, rfl⟩ := List.mem_map.mp f'_in
    obtain ⟨g, g_in, rfl⟩ := List.mem_map.mp g'_in
    rw [same_scope, same_scope] at scopes
    rw [same_id, same_id]
    by_cases f_here : f.id = id
    · by_cases g_here : g.id = id
      · rw [f_here, g_here]
      · rw [others g g_here] at places names
        exact absurd names.symm (fits f f_in f_here g g_in g_here scopes.symm places.symm)
    · rw [others f f_here] at places names
      by_cases g_here : g.id = id
      · exact absurd names (fits g g_in g_here f f_in f_here scopes places)
      · rw [others g g_here] at places names
        exact kept.names f f_in g g_in scopes places names

theorem climbs_above (store : Store) (kept : FoldersKept toLowercase store.folders)
    {folderId candidate : Text} {steps : Nat}
    (path : Relation.ReflTransGen
      (Link LibraryFolder.id LibraryFolder.parentId store.folders) candidate folderId) :
    store.climbs folderId steps (some candidate) = true := by
  induction steps generalizing candidate with
  | zero => rfl
  | succ steps hypothesis =>
    rw [Store.climbs]
    rcases path.cases_head with rfl | ⟨above, ⟨folder, member, rfl, named⟩, rest⟩
    · rw [if_pos rfl]
    · split
      · rfl
      · rw [find_folder kept member, Option.bind_some, named]
        exact hypothesis rest

theorem FoldersKept.delete (kept : FoldersKept toLowercase folders) {folder : LibraryFolder}
    (member : folder ∈ folders)
    (fits : ∀ f ∈ folders, f.parentId = some folder.id → ∀ g ∈ folders, g.id ≠ folder.id →
      g.scope = f.scope → g.parentId = folder.parentId →
      toLowercase g.name ≠ toLowercase f.name) :
    FoldersKept toLowercase ((folders.map (Store.lifted folder.id folder.parentId)).filter
      fun f => f.id ≠ folder.id) := by
  have lifts : ∀ f, (Store.lifted folder.id folder.parentId f).id = f.id ∧
      (Store.lifted folder.id folder.parentId f).scope = f.scope ∧
      (Store.lifted folder.id folder.parentId f).name = f.name := by
    intro f
    rw [Store.lifted]
    split <;> exact ⟨rfl, rfl, rfl⟩
  have from_old : ∀ f' ∈ (folders.map (Store.lifted folder.id folder.parentId)).filter
      fun f => f.id ≠ folder.id, ∃ f ∈ folders, f.id ≠ folder.id ∧
        f' = Store.lifted folder.id folder.parentId f := by
    intro f' there
    obtain ⟨there, apart⟩ := List.mem_filter.mp there
    obtain ⟨f, f_in, rfl⟩ := List.mem_map.mp there
    exact ⟨f, f_in, (lifts f).1 ▸ of_decide_eq_true apart, rfl⟩
  refine ⟨?_, ?_, ?_, ?_⟩
  · refine List.Nodup.sublist (List.filter_sublist.map _) ?_
    have ids : (folders.map (Store.lifted folder.id folder.parentId)).map LibraryFolder.id =
        folders.map LibraryFolder.id := by
      rw [List.map_map]
      exact List.map_congr_left fun f _ => (lifts f).1
    rw [ids]
    exact kept.ids
  · refine kept.acyclic.of_paths fun a b link => ?_
    obtain ⟨f', there, rfl, named⟩ := link
    obtain ⟨f, f_in, -, rfl⟩ := from_old f' there
    rw [(lifts f).1]
    rw [Store.lifted] at named
    split at named
    · rename_i below
      -- a lifted folder went through the deleted one before
      exact .head ⟨f, f_in, rfl, below⟩ (.single ⟨folder, member, rfl, named⟩)
    · exact .single ⟨f, f_in, rfl, named⟩
  · intro f' there above named
    obtain ⟨f, f_in, -, rfl⟩ := from_old f' there
    have inside : ∃ parent ∈ folders, parent.id = above ∧ parent.scope = f.scope ∧
        parent.id ≠ folder.id := by
      rw [Store.lifted] at named
      split at named
      · rename_i below
        obtain ⟨own, own_in, own_id, own_scope⟩ := kept.parents f f_in _ below
        obtain rfl := folder_eq kept own_in member own_id
        obtain ⟨parent, parent_in, parent_id, parent_scope⟩ :=
          kept.parents own member above named
        refine ⟨parent, parent_in, parent_id, parent_scope.trans own_scope, ?_⟩
        intro same
        exact kept.acyclic own.id (.single ⟨own, member, rfl, by rw [named, ← parent_id, same]⟩)
      · rename_i aside
        obtain ⟨parent, parent_in, parent_id, parent_scope⟩ := kept.parents f f_in above named
        refine ⟨parent, parent_in, parent_id, parent_scope, ?_⟩
        intro same
        exact aside (by rw [named, ← parent_id, same])
    obtain ⟨parent, parent_in, parent_id, parent_scope, apart⟩ := inside
    refine ⟨Store.lifted folder.id folder.parentId parent, List.mem_filter.mpr
      ⟨List.mem_map_of_mem parent_in, decide_eq_true ((lifts parent).1 ▸ apart)⟩, ?_, ?_⟩
    · rw [(lifts parent).1, parent_id]
    · rw [(lifts parent).2.1, (lifts f).2.1, parent_scope]
  · intro f' f'_in g' g'_in scopes places names
    obtain ⟨f, f_in, f_apart, rfl⟩ := from_old f' f'_in
    obtain ⟨g, g_in, g_apart, rfl⟩ := from_old g' g'_in
    rw [(lifts f).2.1, (lifts g).2.1] at scopes
    rw [(lifts f).2.2, (lifts g).2.2] at names
    rw [(lifts f).1, (lifts g).1]
    rw [Store.lifted, Store.lifted] at places
    split at places
    · rename_i f_below
      split at places
      · rename_i g_below
        exact kept.names f f_in g g_in scopes (f_below.trans g_below.symm) names
      · exact absurd names.symm (fits f f_in f_below g g_in g_apart scopes.symm places.symm)
    · split at places
      · rename_i g_below
        exact absurd names (fits g g_in g_below f f_in f_apart scopes places)
      · exact kept.names f f_in g g_in scopes places names

end Folders

section Places

variable {store : Store} {scope scope' : LibraryScope} {item item' folder : Text}

theorem find_filtered {α : Type*} (list : List α) (p q : α → Bool)
    (implies : ∀ a, p a = true → q a = true) : (list.filter q).find? p = list.find? p := by
  induction list with
  | nil => rfl
  | cons a rest hypothesis =>
    by_cases kept : q a = true
    · rw [List.filter_cons_of_pos kept, List.find?_cons, List.find?_cons, hypothesis]
    · have other : p a = false := by
        by_contra holds
        exact kept (implies a (Bool.eq_true_of_not_eq_false holds))
      rw [List.filter_cons_of_neg kept, List.find?_cons, other, hypothesis]

theorem folderOf_clear_self : (store.clearPlacement scope item).folderOf scope item = none := by
  rw [Store.folderOf, Option.map_eq_none_iff, List.find?_eq_none]
  intro p member
  have kept := of_decide_eq_true (List.mem_filter.mp member).2
  rw [decide_eq_true_iff]
  exact kept

theorem folderOf_clear_other (apart : ¬(scope' = scope ∧ item' = item)) :
    (store.clearPlacement scope item).folderOf scope' item' = store.folderOf scope' item' := by
  rw [Store.folderOf, Store.folderOf, Store.clearPlacement]
  refine congrArg _ (find_filtered _ _ _ fun p fits => ?_)
  obtain ⟨rfl, rfl⟩ := of_decide_eq_true fits
  exact decide_eq_true apart

theorem folderOf_file_self : (store.file scope item folder).folderOf scope item = some folder := by
  rw [Store.folderOf, Store.file, List.find?_cons_of_pos (by simp), Option.map_some]

theorem folderOf_file_other (apart : ¬(scope' = scope ∧ item' = item)) :
    (store.file scope item folder).folderOf scope' item' = store.folderOf scope' item' := by
  have behind : (store.file scope item folder).folderOf scope' item' =
      (store.clearPlacement scope item).folderOf scope' item' := by
    rw [Store.folderOf, Store.file, List.find?_cons_of_neg]
    · rfl
    · rw [decide_eq_true_iff]
      rintro ⟨rfl, rfl⟩
      exact apart ⟨rfl, rfl⟩
  rw [behind, folderOf_clear_other apart]

theorem folderOf_mem {id : Text} (filed : store.folderOf scope item = some id) :
    ∃ p ∈ store.placements, p.scope = scope ∧ p.itemId = item ∧ p.folderId = id := by
  obtain ⟨p, found, rfl⟩ := Option.map_eq_some_iff.mp filed
  have fits := List.find?_some found
  obtain ⟨same_scope, same_item⟩ := of_decide_eq_true fits
  exact ⟨p, List.mem_of_find?_eq_some found, same_scope, same_item, rfl⟩

theorem find_unless {α : Type*} (list : List α) (p q : α → Bool)
    (single : list.Pairwise fun a b => p a = true → p b = false) :
    (list.filter q).find? p = (list.find? p).filter q := by
  induction single with
  | nil => rfl
  | @cons a rest only _ hypothesis =>
    rw [List.find?_cons]
    cases found : p a with
    | false =>
      by_cases kept : q a = true
      · rw [List.filter_cons_of_pos kept, List.find?_cons, found, hypothesis]
      · rw [List.filter_cons_of_neg kept, hypothesis]
    | true =>
      by_cases kept : q a = true
      · rw [List.filter_cons_of_pos kept, List.find?_cons, found, Option.filter_some_pos kept]
      · have none_left : rest.find? p = none := by
          rw [List.find?_eq_none]
          intro b member
          rw [only b member found]
          exact Bool.false_ne_true
        rw [List.filter_cons_of_neg kept, hypothesis, none_left, Option.filter_some_neg (Bool.eq_false_of_not_eq_true kept)]
        rfl

theorem single_placement (keys : (store.placements.map fun p => (p.scope, p.itemId)).Nodup)
    (scope : LibraryScope) (item : Text) :
    store.placements.Pairwise fun a b =>
      decide (a.scope = scope ∧ a.itemId = item) = true →
        decide (b.scope = scope ∧ b.itemId = item) = false := by
  refine (List.pairwise_map.mp keys).imp fun {a b} apart here => ?_
  rw [decide_eq_false_iff_not]
  intro there
  obtain ⟨same_scope, same_item⟩ := of_decide_eq_true here
  exact apart (by rw [same_scope, same_item, there.1, there.2])

/-- Where an item is once a folder went: in the folder above it, if it was in that. -/
theorem folderOf_lifted (id : Text) (parentId : Option Text)
    (folders : List LibraryFolder)
    (keys : (store.placements.map fun p => (p.scope, p.itemId)).Nodup) :
    { store with
        folders := folders
        placements := Store.liftedPlacements id store.placements parentId : Store }.folderOf
          scope item =
      if store.folderOf scope item = some id then parentId else store.folderOf scope item := by
  cases parentId with
  | some parent =>
    have same : ∀ p : LibraryPlacement, decide
        ((if p.folderId = id then { p with folderId := parent } else p).scope = scope ∧
          (if p.folderId = id then { p with folderId := parent } else p).itemId = item) =
        decide (p.scope = scope ∧ p.itemId = item) := by
      intro p
      split <;> rfl
    rw [Store.folderOf, Store.folderOf, Store.liftedPlacements, List.find?_map]
    simp only [Function.comp_def, same]
    cases store.placements.find? fun p => decide (p.scope = scope ∧ p.itemId = item) with
    | none => rfl
    | some p =>
      simp only [Option.map_some, Option.some.injEq]
      split <;> rfl
  | none =>
    rw [Store.folderOf, Store.folderOf, Store.liftedPlacements,
      find_unless _ _ _ (single_placement keys scope item)]
    cases store.placements.find? fun p => decide (p.scope = scope ∧ p.itemId = item) with
    | none => rfl
    | some p =>
      by_cases here : p.folderId = id
      · rw [Option.filter_some_neg (by simp [here]), Option.map_some, here, if_pos rfl]
        rfl
      · rw [Option.filter_some_pos (by simp [here]), Option.map_some,
          if_neg (fun same => here (Option.some.inj same))]

theorem Filed.sublist (filed : Filed store) {next : Store}
    (fewer : next.placements.Sublist store.placements)
    (covers : ∀ f ∈ store.folders, ∃ g ∈ next.folders, g.id = f.id ∧ g.scope = f.scope)
    (items : ∀ p ∈ next.placements, p.itemId ∈ store.itemIds p.scope →
      p.itemId ∈ next.itemIds p.scope) : Filed next := by
  refine ⟨filed.keys.sublist (fewer.map _), ?_, ?_⟩
  · intro p member
    obtain ⟨f, f_in, same, scopes⟩ := filed.folders p (fewer.subset member)
    obtain ⟨g, g_in, g_id, g_scope⟩ := covers f f_in
    exact ⟨g, g_in, g_id.trans same, g_scope.trans scopes⟩
  · exact fun p member => items p member (filed.items p (fewer.subset member))

theorem Filed.clear (filed : Filed store) : Filed (store.clearPlacement scope item) :=
  filed.sublist List.filter_sublist (fun f f_in => ⟨f, f_in, rfl, rfl⟩) fun _ _ here => here

theorem Filed.file (filed : Filed store)
    (found : ∃ f ∈ store.folders, f.id = folder ∧ f.scope = scope)
    (listed : item ∈ store.itemIds scope) : Filed (store.file scope item folder) := by
  have cleared : Filed (store.clearPlacement scope item) := filed.clear
  refine ⟨?_, ?_, ?_⟩
  · refine List.nodup_cons.mpr ⟨?_, cleared.keys⟩
    intro there
    obtain ⟨p, member, same⟩ := List.mem_map.mp there
    have apart := of_decide_eq_true (List.mem_filter.mp member).2
    exact apart (Prod.mk.inj same)
  · intro p member
    rcases List.mem_cons.mp member with rfl | member
    · exact found
    · exact cleared.folders p member
  · intro p member
    rcases List.mem_cons.mp member with rfl | member
    · exact listed
    · exact cleared.items p member

/-- Placements in a folder that goes away end in the one above it. -/
theorem Filed.delete (filed : Filed store) {toLowercase : Text → Text}
    (kept : FoldersKept toLowercase store.folders) {folder : LibraryFolder}
    (member : folder ∈ store.folders) :
    Filed { store with
      folders := (store.folders.map (Store.lifted folder.id folder.parentId)).filter
        fun f => f.id ≠ folder.id
      placements := Store.liftedPlacements folder.id store.placements folder.parentId } := by
  have stays : ∀ f ∈ store.folders, f.id ≠ folder.id →
      ∃ g ∈ (store.folders.map (Store.lifted folder.id folder.parentId)).filter
        fun f => f.id ≠ folder.id, g.id = f.id ∧ g.scope = f.scope := by
    intro f f_in apart
    have same : (Store.lifted folder.id folder.parentId f).id = f.id ∧
        (Store.lifted folder.id folder.parentId f).scope = f.scope := by
      rw [Store.lifted]
      split <;> exact ⟨rfl, rfl⟩
    exact ⟨_, List.mem_filter.mpr ⟨List.mem_map_of_mem f_in, decide_eq_true (same.1 ▸ apart)⟩, same⟩
  cases place : folder.parentId with
  | none =>
    refine ⟨filed.keys.sublist (List.filter_sublist.map _), ?_, ?_⟩
    · intro p there
      obtain ⟨there, apart⟩ := List.mem_filter.mp there
      obtain ⟨f, f_in, same, scopes⟩ := filed.folders p there
      obtain ⟨g, g_in, g_id, g_scope⟩ := stays f f_in (same ▸ of_decide_eq_true apart)
      rw [place] at g_in
      exact ⟨g, g_in, g_id.trans same, g_scope.trans scopes⟩
    · exact fun p there => filed.items p (List.mem_filter.mp there).1
  | some parent =>
    have moved : ∀ p : LibraryPlacement,
        ((if p.folderId = folder.id then { p with folderId := parent } else p).scope = p.scope) ∧
        ((if p.folderId = folder.id then { p with folderId := parent } else p).itemId =
          p.itemId) := by
      intro p
      split <;> exact ⟨rfl, rfl⟩
    refine ⟨?_, ?_, ?_⟩
    · rw [Store.liftedPlacements, List.map_map]
      have keys : store.placements.map ((fun p => (p.scope, p.itemId)) ∘ fun p : LibraryPlacement =>
          if p.folderId = folder.id then { p with folderId := parent } else p) =
          store.placements.map fun p => (p.scope, p.itemId) :=
        List.map_congr_left fun p _ => Prod.ext (moved p).1 (moved p).2
      rw [keys]
      exact filed.keys
    · intro p' there
      obtain ⟨p, old, rfl⟩ := List.mem_map.mp there
      rw [(moved p).1]
      obtain ⟨f, f_in, same, scopes⟩ := filed.folders p old
      rw [← place]
      by_cases here : p.folderId = folder.id
      · obtain rfl := folder_eq kept f_in member (same.trans here)
        obtain ⟨above, above_in, above_id, above_scope⟩ := kept.parents f member parent place
        have apart : above.id ≠ f.id := fun loop =>
          kept.acyclic f.id (.single ⟨f, member, rfl, by rw [place, ← above_id, loop]⟩)
        obtain ⟨g, g_in, g_id, g_scope⟩ := stays above above_in apart
        rw [if_pos here]
        exact ⟨g, g_in, g_id.trans above_id, (g_scope.trans above_scope).trans scopes⟩
      · obtain ⟨g, g_in, g_id, g_scope⟩ := stays f f_in (same ▸ here)
        rw [if_neg here]
        exact ⟨g, g_in, g_id.trans same, g_scope.trans scopes⟩
    · intro p' there
      obtain ⟨p, old, rfl⟩ := List.mem_map.mp there
      rw [(moved p).1, (moved p).2]
      exact filed.items p old

end Places

section Queries

variable {toLowercase : Text → Text} {store : Store}

theorem query_eq (kept : QueriesKept toLowercase store) {q r : SavedQuery}
    (q_in : q ∈ store.queries) (r_in : r ∈ store.queries) (same : q.id = r.id) : q = r :=
  List.inj_on_of_nodup_map kept.ids q_in r_in same

/-- One row is written, in a place where no other query has its name. -/
theorem QueriesKept.write (kept : QueriesKept toLowercase store) {next : Store} {row : SavedQuery}
    (ids : (next.queries.map SavedQuery.id).Nodup)
    (rows : ∀ q ∈ next.queries, q = row ∨ (q ∈ store.queries ∧ q.id ≠ row.id))
    (places : ∀ id, id ≠ row.id →
      next.folderOf .savedQuery id = store.folderOf .savedQuery id)
    (trimmed : trim row.name = row.name ∧ row.name ≠ [])
    (fits : ∀ q ∈ store.queries, q.id ≠ row.id → q.connectionId = row.connectionId →
      store.folderOf .savedQuery q.id = next.folderOf .savedQuery row.id →
      toLowercase q.name ≠ toLowercase row.name) : QueriesKept toLowercase next := by
  refine ⟨ids, ?_, ?_⟩
  · intro q member
    rcases rows q member with rfl | ⟨old, -⟩
    · exact trimmed
    · exact kept.trimmed q old
  · intro q q_in r r_in connections folders names
    rcases rows q q_in with rfl | ⟨q_old, q_apart⟩
    · rcases rows r r_in with rfl | ⟨r_old, r_apart⟩
      · rfl
      · rw [places r.id r_apart] at folders
        exact absurd names.symm (fits r r_old r_apart connections.symm folders.symm)
    · rw [places q.id q_apart] at folders
      rcases rows r r_in with rfl | ⟨r_old, r_apart⟩
      · exact absurd names (fits q q_old q_apart connections folders)
      · rw [places r.id r_apart] at folders
        exact kept.names q q_old r r_old connections folders names

/-- Queries go, and those that stay stay where they are. -/
theorem QueriesKept.fewer (kept : QueriesKept toLowercase store) {next : Store}
    (rows : next.queries.Sublist store.queries)
    (places : ∀ q ∈ next.queries,
      next.folderOf .savedQuery q.id = store.folderOf .savedQuery q.id) :
    QueriesKept toLowercase next := by
  refine ⟨kept.ids.sublist (rows.map _), fun q member => kept.trimmed q (rows.subset member), ?_⟩
  intro q q_in r r_in connections folders names
  rw [places q q_in, places r r_in] at folders
  exact kept.names q (rows.subset q_in) r (rows.subset r_in) connections folders names

/-- A folder goes, and its queries to a place where none has the name of one of them. -/
theorem QueriesKept.delete (kept : QueriesKept toLowercase store) (filed : Filed store)
    {id : Text} {parentId : Option Text} {folders : List LibraryFolder}
    (fits : ∀ q ∈ store.queries, store.folderOf .savedQuery q.id = some id →
      ∀ r ∈ store.queries, store.folderOf .savedQuery r.id = parentId →
        r.connectionId = q.connectionId → r.id ≠ q.id → toLowercase r.name ≠ toLowercase q.name) :
    QueriesKept toLowercase { store with
      folders := folders
      placements := Store.liftedPlacements id store.placements parentId } := by
  refine ⟨kept.ids, kept.trimmed, ?_⟩
  intro q q_in r r_in connections same names
  by_contra apart
  rw [folderOf_lifted id parentId folders filed.keys,
    folderOf_lifted id parentId folders filed.keys] at same
  split at same
  · rename_i q_below
    split at same
    · rename_i r_below
      exact apart (kept.names q q_in r r_in connections (q_below.trans r_below.symm) names)
    · exact fits q q_in q_below r r_in same.symm connections.symm (Ne.symm apart) names.symm
  · split at same
    · rename_i r_below
      exact fits r r_in r_below q q_in same connections apart names
    · exact apart (kept.names q q_in r r_in connections same names)

end Queries

end DbFree.Library
