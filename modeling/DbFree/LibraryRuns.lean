import DbFree.LibraryInvariants
import DbFree.Machine
import DbFree.Trimming

/- Runs of the library: folders that are made, renamed, moved and deleted, items that are
placed, and queries that are saved, renamed, copied and deleted. -/
namespace DbFree.Library

open Texts Chars ParentForest Machine

/-- An operation, with the id that is drawn where it makes one. -/
inductive Action
  | createFolder (id : Text) (scope : LibraryScope) (parentId : Option Text) (name : Text)
  | renameFolder (id name : Text)
  | moveFolder (id : Text) (parentId : Option Text)
  | deleteFolder (id : Text)
  | moveItem (scope : LibraryScope) (itemId : Text) (folderId : Option Text)
  | save (fresh : Text) (query : SavedQuery) (folderId : Option Text)
  | rename (id name : Text)
  | duplicate (fresh id : Text) (target name : Option Text)
  | deleteQuery (id : Text)
  | createDocument (id : Text) (kind : DocumentKind) (name : Text)
  | deleteDocument (id : Text)
  | connect (id : Text)
  | disconnect (id : Text)
  deriving DecidableEq

section Machine

variable (toLowercase : Text → Text)

/-- What an operation answers and leaves. Ids are drawn anew: one that is there is never
drawn, and a search for a name that does not end leaves nothing. -/
def perform (store : Store) : Action → Option (Except AppError Unit × Store)
  | .createFolder id scope parentId name =>
    if id ∈ store.folders.map LibraryFolder.id then none
    else some (store.settle (store.createFolder id scope parentId name))
  | .renameFolder id name => some (store.settle (store.renameFolder id name))
  | .moveFolder id parentId => some (store.settle (store.moveFolder id parentId))
  | .deleteFolder id => some (store.settle (store.deleteFolder id))
  | .moveItem scope itemId folderId => some (store.settle (store.moveItem scope itemId folderId))
  | .save fresh query folderId =>
    if fresh ∈ store.queries.map SavedQuery.id ∨ fresh = [] then none
    else some (store.save toLowercase fresh query folderId)
  | .rename id name => some (store.settle (store.rename id name))
  | .duplicate fresh id target name =>
    if fresh ∈ store.queries.map SavedQuery.id ∨ fresh = [] then none
    else store.duplicate toLowercase fresh id target name
  | .deleteQuery id => some (.ok (), store.deleteSavedQuery id)
  | .createDocument id kind name =>
    if id ∈ store.documents.map Document.id then none
    else some (.ok (), store.createDocument id kind name)
  | .deleteDocument id => some (.ok (), store.deleteDocument id)
  | .connect id => some (.ok (), { store with connections := id :: store.connections })
  | .disconnect id =>
    some (.ok (), { store with connections := store.connections.filter fun c => c ≠ id })

def step (store : Store) (action : Action) : Option Store :=
  (perform toLowercase store action).map Prod.snd

def Store.empty : Store := ⟨[], [], [], [], []⟩

/-- Whether an operation deletes an item. -/
def Action.deletes (scope : LibraryScope) (itemId : Text) : Action → Prop
  | .deleteQuery id => scope = .savedQuery ∧ itemId = id
  | .deleteDocument id => scope ≠ .savedQuery ∧ itemId = id
  | _ => False

/-- An item is gone behind no operation but one that deletes it. -/
def LosesNothing (store : Store) (action : Action) : Prop :=
  ∀ next, step toLowercase store action = some next → ∀ scope itemId,
    ¬action.deletes scope itemId → itemId ∈ store.itemIds scope → itemId ∈ next.itemIds scope

/-- The names differ in more than the case of letters beyond ASCII, or not at all. -/
def Plain (name name' : Text) : Prop :=
  toLowercase name = toLowercase name' → lower name = lower name'

/-- No folder beside the place has a name that differs from this one in letters beyond ASCII
only. -/
def PlainBeside (store : Store) (scope : LibraryScope) (parentId : Option Text) (name : Text)
    (id : Option Text) : Prop :=
  ∀ f ∈ store.folders, f.scope = scope → f.parentId = parentId → some f.id ≠ id →
    Plain toLowercase f.name name

/-- No query in the place has a name that differs from this one in letters beyond ASCII only. -/
def PlainAmong (store : Store) (connectionId folderId : Option Text) (name : Text)
    (id : Option Text) : Prop :=
  ∀ q ∈ store.queriesIn connectionId folderId, some q.id ≠ id → Plain toLowercase q.name name

/-- Where the folder is deleted, what is in it comes to a place where nothing has its name. -/
def LiftsFreely (store : Store) (folder : LibraryFolder) : Prop :=
  (∀ f ∈ store.folders, f.parentId = some folder.id → ∀ g ∈ store.folders, g.id ≠ folder.id →
    g.scope = f.scope → g.parentId = folder.parentId →
      toLowercase g.name ≠ toLowercase f.name) ∧
  ∀ q ∈ store.queries, store.folderOf .savedQuery q.id = some folder.id →
    ∀ r ∈ store.queries, store.folderOf .savedQuery r.id = folder.parentId →
      r.connectionId = q.connectionId → r.id ≠ q.id → toLowercase r.name ≠ toLowercase q.name

/-- The operation names nothing, and lifts nothing, where another name is the same. -/
def Careful (store : Store) : Action → Prop
  | .createFolder _ scope parentId name =>
    PlainBeside toLowercase store scope parentId (trim name) none
  | .renameFolder id name => ∀ folder ∈ store.folders, folder.id = id →
    PlainBeside toLowercase store folder.scope folder.parentId (trim name) (some id)
  | .moveFolder id parentId => ∀ folder ∈ store.folders, folder.id = id →
    PlainBeside toLowercase store folder.scope parentId folder.name (some id)
  | .deleteFolder id => ∀ folder ∈ store.folders, folder.id = id →
    LiftsFreely toLowercase store folder
  | .moveItem scope itemId folderId => scope = .savedQuery → ∀ query ∈ store.queries,
    query.id = itemId →
      PlainAmong toLowercase store query.connectionId folderId query.name (some itemId)
  | .save _ query folderId => PlainAmong toLowercase store query.connectionId
    (store.targetFolder query.id folderId) (trim query.name)
      ((store.existing query.id).map SavedQuery.id)
  | .rename id name => ∀ query ∈ store.queries, query.id = id →
    PlainAmong toLowercase store query.connectionId (store.folderOf .savedQuery id) (trim name)
      (some id)
  | _ => True

end Machine

section Property

/-- The tree of a list shows its folders and items, each once. -/
def ShowsAll {T : Type} [LibraryItem T] (rows : Rows T) : Prop :=
  ∀ localeCompare direction,
    let tree := buildTree localeCompare rows ⟨fun _ => true, false, direction⟩
    tree.allFolders.Perm rows.mine ∧ tree.allItems.Perm rows.items

/-- What the claim says of a library, whatever order its rows come in. -/
structure Sound (toLowercase : Text → Text) (store : Store) : Prop where
  acyclic : Acyclic LibraryFolder.id LibraryFolder.parentId store.folders
  parents : ∀ f ∈ store.folders, ∀ above, f.parentId = some above →
    ∃ parent ∈ store.folders, parent.id = above ∧ parent.scope = f.scope
  placed : ∀ p ∈ store.placements, p.itemId ∈ store.itemIds p.scope ∧
    ∃ f ∈ store.folders, f.id = p.folderId ∧ f.scope = p.scope
  folders : ∀ f ∈ store.folders, ∀ g ∈ store.folders, f ≠ g → f.scope = g.scope →
    f.parentId = g.parentId → toLowercase f.name ≠ toLowercase g.name
  queries : ∀ q ∈ store.queries, ∀ r ∈ store.queries, q ≠ r → q.connectionId = r.connectionId →
    store.folderOf .savedQuery q.id = store.folderOf .savedQuery r.id →
    toLowercase q.name ≠ toLowercase r.name
  ids : (store.folders.map LibraryFolder.id).Nodup ∧ (store.queries.map SavedQuery.id).Nodup ∧
    (store.documents.map Document.id).Nodup
  shown : ∀ folders placements, folders.Perm store.folders → placements.Perm store.placements →
    (∀ queries, queries.Perm store.queries →
      ShowsAll ⟨.savedQuery, folders, placements, queries⟩) ∧
    ∀ kind documents, documents.Perm (store.documents.filter fun d => d.kind = kind) →
      ShowsAll ⟨LibraryScope.ofDocument kind, folders, placements, documents⟩

end Property

/-- What every operation keeps. -/
structure Kept (toLowercase : Text → Text) (store : Store) : Prop where
  folders : FoldersKept toLowercase store.folders
  filed : Filed store
  queries : QueriesKept toLowercase store
  documents : (store.documents.map Document.id).Nodup

section Checks

variable {store : Store}

theorem getFolder_ok {id : Text} {folder : LibraryFolder} (found : store.getFolder id = .ok folder) :
    folder ∈ store.folders ∧ folder.id = id := by
  rw [Store.getFolder] at found
  split at found
  · rename_i there search
    cases found
    have same := List.find?_some search
    exact ⟨List.mem_of_find?_eq_some search, of_decide_eq_true same⟩
  · cases found

theorem getSavedQuery_ok {id : Text} {query : SavedQuery}
    (found : store.getSavedQuery id = .ok query) : query ∈ store.queries ∧ query.id = id := by
  rw [Store.getSavedQuery] at found
  split at found
  · rename_i there search
    cases found
    have same := List.find?_some search
    exact ⟨List.mem_of_find?_eq_some search, of_decide_eq_true same⟩
  · cases found

theorem getDocument_ok {id : Text} {doc : Doc} (found : store.getDocument id = .ok doc) :
    doc ∈ store.documents ∧ doc.id = id := by
  rw [Store.getDocument] at found
  split at found
  · rename_i there search
    cases found
    have same := List.find?_some search
    exact ⟨List.mem_of_find?_eq_some search, of_decide_eq_true same⟩
  · cases found

theorem cleanFolderName_ok {raw name : Text} (clean : cleanFolderName raw = .ok name) :
    name = trim raw := by
  simp only [cleanFolderName] at clean
  split at clean
  · cases clean
  · split at clean
    · cases clean
    · cases clean
      rfl

theorem cleanName_ok {raw name : Text} (clean : cleanName raw = .ok name) :
    name = trim raw ∧ name ≠ [] := by
  simp only [cleanName] at clean
  split at clean
  · cases clean
  · rename_i filled
    split at clean
    · cases clean
    · cases clean
      exact ⟨rfl, filled⟩

theorem requireParent_ok {scope : LibraryScope} {parentId : Option Text} {done : Unit}
    (checked : store.requireParent scope parentId = .ok done) (above : Text)
    (named : parentId = some above) :
    ∃ parent ∈ store.folders, parent.id = above ∧ parent.scope = scope := by
  subst named
  obtain ⟨parent, found, fits⟩ := bind_ok checked
  obtain ⟨member, same⟩ := getFolder_ok found
  split at fits
  · cases fits
  · rename_i scopes
    exact ⟨parent, member, same, not_not.mp scopes⟩

theorem not_taken {scope : LibraryScope} {parentId except : Option Text} {name : Text}
    (free : ¬store.folderNameTaken scope parentId name except = true) {f : LibraryFolder}
    (member : f ∈ store.folders) (scopes : f.scope = scope) (place : f.parentId = parentId)
    (other : some f.id ≠ except) : lower f.name ≠ lower name := by
  intro same
  exact free (List.any_eq_true.mpr ⟨f, member, decide_eq_true ⟨scopes, place, same, other⟩⟩)

theorem mem_queriesIn {connectionId folderId : Option Text} {q : SavedQuery} :
    q ∈ store.queriesIn connectionId folderId ↔ q ∈ store.queries ∧
      q.connectionId = connectionId ∧ store.folderOf .savedQuery q.id = folderId := by
  rw [Store.queriesIn, List.mem_filter, decide_eq_true_iff]

theorem query_not_taken {connectionId folderId exceptId : Option Text} {name : Text}
    (free : ¬store.savedQueryNameTaken connectionId folderId name exceptId = true)
    {q : SavedQuery} (member : q ∈ store.queriesIn connectionId folderId)
    (other : some q.id ≠ exceptId) : lower (sqliteTrim q.name) ≠ lower (sqliteTrim name) := by
  intro same
  exact free (List.any_eq_true.mpr ⟨q, member, decide_eq_true ⟨same, other⟩⟩)

end Checks

section Names

theorem sqliteTrim_trimmed {text : Text} (trimmed : trim text = text) : sqliteTrim text = text := by
  have space_white : ∀ c, decide (c = ' ') = true → isWhitespace c = true := by
    intro c space
    rw [of_decide_eq_true space]
    decide
  obtain ⟨start, ends⟩ := trimmed_ends trimmed
  exact strip_lesser space_white start ends

theorem Plain.differ {toLowercase : Text → Text} {name name' : Text}
    (plain : Plain toLowercase name name') (other : lower name ≠ lower name') :
    toLowercase name ≠ toLowercase name' := fun same => other (plain same)

/-- The name of a copy is trimmed, as the name that is copied was. -/
theorem trim_copy {root : Text} (start : trimStart root = root) (filled : root ≠ []) (copy : Text) :
    trim (root ++ (copy ++ [')'])) = root ++ (copy ++ [')']) := by
  have visible : blank root = false := by
    rw [Bool.eq_false_iff]
    intro white
    rw [trimStart, List.dropWhile_eq_nil_iff.mpr (List.all_eq_true.mp white)] at start
    exact filled start.symm
  have closed : blank [')'] = false := by decide
  rw [trim, trimStart_append root _ visible, start, ← List.append_assoc,
    trimEnd_append _ _ closed]
  rfl

theorem stripCopySuffix_start {name : Text} (start : trimStart name = name) (filled : name ≠ []) :
    trimStart (stripCopySuffix name) = stripCopySuffix name ∧ stripCopySuffix name ≠ [] := by
  rw [stripCopySuffix]
  split
  · exact ⟨start, filled⟩
  · rename_i openAt found
    simp only
    split
    · rename_i suffix
      refine ⟨trimStart_take start openAt, ?_⟩
      rw [ne_eq, List.take_eq_nil_iff]
      rintro (none_left | empty)
      · exact absurd suffix.2.2 (by omega)
      · exact filled empty
    · exact ⟨start, filled⟩

theorem firstFree_free {root : Text} {isTaken : Text → Bool} {left n : Nat} {name : Text}
    (found : firstFree root isTaken left n = some name) :
    isTaken name = false ∧ ∃ copy, name = root ++ (copy ++ [')']) := by
  induction left generalizing n with
  | zero => cases found
  | succ left hypothesis =>
    simp only [firstFree] at found
    split at found
    · exact hypothesis found
    · rename_i free
      cases found
      exact ⟨Bool.eq_false_of_not_eq_true free, " (copy ".toList ++ decimal n, by simp⟩

theorem copyName_free {toLowercase : Text → Text} {base name : Text} {taken : List Text}
    (start : trimStart (trim base) = trim base) (filled : trim base ≠ [])
    (found : copyName toLowercase base taken = some name) :
    trim name = name ∧ name ≠ [] ∧ ∀ t ∈ taken, toLowercase (trim t) ≠ toLowercase name := by
  obtain ⟨root_start, root_filled⟩ := stripCopySuffix_start start filled
  have facts : decide (toLowercase name ∈ taken.map fun t => toLowercase (trim t)) = false ∧
      ∃ copy, name = stripCopySuffix (trim base) ++ (copy ++ [')']) := by
    simp only [copyName] at found
    split at found
    · exact firstFree_free found
    · rename_i free
      cases found
      exact ⟨Bool.eq_false_of_not_eq_true free, " (copy".toList, by simp⟩
  obtain ⟨free, copy, rfl⟩ := facts
  refine ⟨trim_copy root_start root_filled copy, ?_, ?_⟩
  · exact fun empty => root_filled (List.append_eq_nil_iff.mp empty).1
  · intro t member same
    exact of_decide_eq_false free (List.mem_map.mpr ⟨t, member, same⟩)

end Names

section Steps

variable {toLowercase : Text → Text} {store : Store}

theorem kept_settle (kept : Kept toLowercase store) {result : Except AppError Store}
    (keeps : ∀ next, result = .ok next → Kept toLowercase next) :
    Kept toLowercase (store.settle result).2 := by
  cases result with
  | error error => exact kept
  | ok next => exact keeps next rfl

/-- A change of the folders that leaves each in its list. -/
theorem Kept.refolder (kept : Kept toLowercase store) {folders : List LibraryFolder}
    (changed : FoldersKept toLowercase folders)
    (covers : ∀ f ∈ store.folders, ∃ g ∈ folders, g.id = f.id ∧ g.scope = f.scope) :
    Kept toLowercase { store with folders := folders } :=
  ⟨changed, kept.filed.sublist (List.Sublist.refl _) covers fun _ _ here => here,
    ⟨kept.queries.ids, kept.queries.trimmed, kept.queries.names⟩, kept.documents⟩

theorem kept_createFolder (kept : Kept toLowercase store) {id name : Text} {scope : LibraryScope}
    {parentId : Option Text} (fresh : id ∉ store.folders.map LibraryFolder.id)
    (plain : PlainBeside toLowercase store scope parentId (trim name) none) {next : Store}
    (done : store.createFolder id scope parentId name = .ok next) : Kept toLowercase next := by
  obtain ⟨clean, cleaned, done⟩ := bind_ok done
  obtain ⟨_, checked, done⟩ := bind_ok done
  obtain rfl := cleanFolderName_ok cleaned
  split at done
  · cases done
  · rename_i free
    cases done
    refine kept.refolder (kept.folders.create fresh (requireParent_ok checked) ?_) ?_
    · intro f member scopes place
      have other : some f.id ≠ none := Option.some_ne_none _
      exact (plain f member scopes place other).differ
        (not_taken free member scopes place other)
    · exact fun f member => ⟨f, List.mem_cons_of_mem _ member, rfl, rfl⟩

theorem named_facts (id name : Text) (f : LibraryFolder) :
    (Store.named id name f).id = f.id ∧ (Store.named id name f).scope = f.scope ∧
      (Store.named id name f).parentId = f.parentId := by
  rw [Store.named]
  split <;> exact ⟨rfl, rfl, rfl⟩

theorem kept_renameFolder (kept : Kept toLowercase store) {id name : Text}
    (plain : ∀ folder ∈ store.folders, folder.id = id →
      PlainBeside toLowercase store folder.scope folder.parentId (trim name) (some id))
    {next : Store} (done : store.renameFolder id name = .ok next) : Kept toLowercase next := by
  obtain ⟨clean, cleaned, done⟩ := bind_ok done
  obtain ⟨folder, found, done⟩ := bind_ok done
  obtain rfl := cleanFolderName_ok cleaned
  obtain ⟨folder_in, folder_id⟩ := getFolder_ok found
  split at done
  · cases done
  · rename_i free
    cases done
    have others : ∀ f : LibraryFolder, f.id ≠ id → Store.named id (trim name) f = f :=
      fun f apart => if_neg apart
    refine kept.refolder (kept.folders.change (fun f => (named_facts id _ f).1)
      (fun f => (named_facts id _ f).2.1) others ?_ ?_ ?_) ?_
    · refine acyclic_map (fun f => (named_facts id _ f).1) (kept.folders.acyclic.of_paths ?_)
      rintro a b ⟨f, member, own, above⟩
      exact .single ⟨f, member, own, (named_facts id _ f).2.2 ▸ above⟩
    · intro f member _ above place
      exact kept.folders.parents f member above ((named_facts id _ f).2.2 ▸ place)
    · intro own own_in own_id f member apart scopes place
      obtain rfl := folder_eq kept.folders own_in folder_in (own_id.trans folder_id.symm)
      rw [(named_facts id _ own).2.2] at place
      have renamed : (Store.named id (trim name) own).name = trim name := by
        rw [Store.named, if_pos own_id]
      have other : some f.id ≠ some id := fun same => apart (Option.some.inj same)
      rw [renamed]
      exact (plain own own_in own_id f member scopes place other).differ
        (not_taken free member scopes place other)
    · exact fun f member => ⟨_, List.mem_map_of_mem member, (named_facts id _ f).1,
        (named_facts id _ f).2.1⟩

theorem movedTo_facts (id : Text) (parentId : Option Text) (f : LibraryFolder) :
    (Store.movedTo id parentId f).id = f.id ∧ (Store.movedTo id parentId f).scope = f.scope ∧
      (Store.movedTo id parentId f).name = f.name := by
  rw [Store.movedTo]
  split <;> exact ⟨rfl, rfl, rfl⟩

theorem kept_moveFolder (kept : Kept toLowercase store) {id : Text} {parentId : Option Text}
    (plain : ∀ folder ∈ store.folders, folder.id = id →
      PlainBeside toLowercase store folder.scope parentId folder.name (some id))
    {next : Store} (done : store.moveFolder id parentId = .ok next) : Kept toLowercase next := by
  obtain ⟨folder, found, done⟩ := bind_ok done
  obtain ⟨_, checked, done⟩ := bind_ok done
  obtain ⟨folder_in, folder_id⟩ := getFolder_ok found
  split at done
  · cases done
  · rename_i below
    split at done
    · cases done
    · rename_i free
      cases done
      have others : ∀ f : LibraryFolder, f.id ≠ id → Store.movedTo id parentId f = f :=
        fun f apart => if_neg apart
      refine kept.refolder (kept.folders.change (fun f => (movedTo_facts id _ f).1)
        (fun f => (movedTo_facts id _ f).2.1) others ?_ ?_ ?_) ?_
      · have links_others : ∀ f ∈ store.folders, f.id ≠ id →
            (Store.movedTo id parentId f).parentId = f.parentId := by
          intro f _ apart
          rw [others f apart]
        refine acyclic_map (fun f => (movedTo_facts id _ f).1)
          (kept.folders.acyclic.reparent links_others ?_)
        intro f member here target named path
        rw [Store.movedTo, if_pos here] at named
        have aimed : parentId = some target := named
        -- the climb from the target would have met the folder
        exact below (by rw [aimed]; exact climbs_above store kept.folders path)
      · intro f member here above named
        rw [Store.movedTo, if_pos here] at named
        obtain rfl := folder_eq kept.folders member folder_in (here.trans folder_id.symm)
        exact requireParent_ok checked above named
      · intro own own_in own_id f member apart scopes place
        obtain rfl := folder_eq kept.folders own_in folder_in (own_id.trans folder_id.symm)
        rw [(movedTo_facts id _ own).2.2]
        rw [Store.movedTo, if_pos own_id] at place
        have other : some f.id ≠ some id := fun same => apart (Option.some.inj same)
        by_cases stays : own.parentId = parentId
        · intro names
          exact apart ((kept.folders.names f member own own_in scopes (place.trans stays.symm)
            names).trans own_id)
        · exact (plain own own_in own_id f member scopes place other).differ
            (not_taken (fun taken => free ⟨stays, taken⟩) member scopes place other)
      · exact fun f member => ⟨_, List.mem_map_of_mem member, (movedTo_facts id _ f).1,
          (movedTo_facts id _ f).2.1⟩

theorem kept_deleteFolder (kept : Kept toLowercase store) {id : Text}
    (free : ∀ folder ∈ store.folders, folder.id = id → LiftsFreely toLowercase store folder)
    {next : Store} (done : store.deleteFolder id = .ok next) : Kept toLowercase next := by
  obtain ⟨folder, found, done⟩ := bind_ok done
  obtain ⟨folder_in, rfl⟩ := getFolder_ok found
  cases done
  obtain ⟨folders_free, queries_free⟩ := free folder folder_in rfl
  exact ⟨kept.folders.delete folder_in folders_free, kept.filed.delete kept.folders folder_in,
    kept.queries.delete kept.filed queries_free, kept.documents⟩

theorem placeItem_ok {scope : LibraryScope} {item : Text} {folderId : Option Text} {next : Store}
    (done : store.placeItem scope item folderId = .ok next) :
    (folderId = none ∧ next = store.clearPlacement scope item) ∨ ∃ folder, folderId = some folder ∧
      (∃ f ∈ store.folders, f.id = folder ∧ f.scope = scope) ∧
        next = store.file scope item folder := by
  cases folderId with
  | none =>
    cases done
    exact .inl ⟨rfl, rfl⟩
  | some folder =>
    obtain ⟨found, search, done⟩ := bind_ok done
    obtain ⟨member, same⟩ := getFolder_ok search
    split at done
    · cases done
    · rename_i scopes
      cases done
      exact .inr ⟨folder, rfl, ⟨found, member, same, not_not.mp scopes⟩, rfl⟩

theorem placed_facts {scope : LibraryScope} {item : Text} {folderId : Option Text} {next : Store}
    (done : store.placeItem scope item folderId = .ok next) :
    next.folders = store.folders ∧ next.queries = store.queries ∧
      next.documents = store.documents ∧ next.folderOf scope item = folderId ∧
      ∀ scope' item', ¬(scope' = scope ∧ item' = item) →
        next.folderOf scope' item' = store.folderOf scope' item' := by
  rcases placeItem_ok done with ⟨rfl, rfl⟩ | ⟨folder, rfl, -, rfl⟩
  · exact ⟨rfl, rfl, rfl, folderOf_clear_self, fun _ _ apart => folderOf_clear_other apart⟩
  · exact ⟨rfl, rfl, rfl, folderOf_file_self, fun _ _ apart => folderOf_file_other apart⟩

theorem placed_filed (filed : Filed store) {scope : LibraryScope} {item : Text}
    {folderId : Option Text} (listed : item ∈ store.itemIds scope) {next : Store}
    (done : store.placeItem scope item folderId = .ok next) : Filed next := by
  rcases placeItem_ok done with ⟨-, rfl⟩ | ⟨folder, -, found, rfl⟩
  · exact filed.clear
  · exact filed.file found listed

/-- A name that the store does not find taken, and that no name is nearly, is another name. -/
theorem differs_among (kept : Kept toLowercase store) {connectionId folderId except : Option Text}
    {name : Text} (plain : PlainAmong toLowercase store connectionId folderId name except)
    (free : ¬store.savedQueryNameTaken connectionId folderId name except = true)
    (trimmed : trim name = name) {q : SavedQuery} (member : q ∈ store.queries)
    (connection : q.connectionId = connectionId)
    (place : store.folderOf .savedQuery q.id = folderId) (other : some q.id ≠ except) :
    toLowercase q.name ≠ toLowercase name := by
  have among := mem_queriesIn.mpr ⟨member, connection, place⟩
  have differ := query_not_taken free among other
  rw [sqliteTrim_trimmed (kept.queries.trimmed q member).1, sqliteTrim_trimmed trimmed] at differ
  exact (plain q among other).differ differ

theorem kept_moveItem (kept : Kept toLowercase store) {scope : LibraryScope} {item : Text}
    {folderId : Option Text} (plain : scope = .savedQuery → ∀ query ∈ store.queries,
      query.id = item →
        PlainAmong toLowercase store query.connectionId folderId query.name (some item))
    {next : Store} (done : store.moveItem scope item folderId = .ok next) :
    Kept toLowercase next := by
  obtain ⟨_, checked, done⟩ := bind_ok done
  obtain ⟨folders, queries, documents, here, elsewhere⟩ := placed_facts done
  rw [Store.checkItem] at checked
  split at checked
  · rename_i saved
    subst saved
    obtain ⟨query, found, checked⟩ := bind_ok checked
    obtain ⟨member, rfl⟩ := getSavedQuery_ok found
    split at checked
    · cases checked
    · rename_i free
      refine ⟨folders ▸ kept.folders, placed_filed kept.filed ?_ done, ?_,
        documents ▸ kept.documents⟩
      · rw [Store.itemIds, if_pos rfl]
        exact List.mem_map_of_mem member
      · refine kept.queries.write (queries ▸ kept.queries.ids) ?_ ?_
          (kept.queries.trimmed query member) ?_
        · intro q there
          rw [queries] at there
          by_cases same : q.id = query.id
          · exact .inl (query_eq kept.queries there member same)
          · exact .inr ⟨there, same⟩
        · exact fun id apart => elsewhere _ _ fun both => apart both.2
        · intro q there apart connection place
          rw [here] at place
          exact differs_among kept (plain rfl query member rfl) free
            (kept.queries.trimmed query member).1 there connection place
              fun same => apart (Option.some.inj same)
  · rename_i listed
    obtain ⟨doc, found, listable⟩ := bind_ok checked
    obtain ⟨member, rfl⟩ := getDocument_ok found
    split at listable
    · cases listable
    · rename_i kind
      refine ⟨folders ▸ kept.folders, placed_filed kept.filed ?_ done,
        kept.queries.fewer (queries ▸ List.Sublist.refl _) ?_, documents ▸ kept.documents⟩
      · rw [Store.itemIds, if_neg listed]
        exact List.mem_map_of_mem (List.mem_filter.mpr ⟨member, decide_eq_true (not_not.mp kind)⟩)
      · exact fun q _ => elsewhere _ _ fun both => listed both.1.symm

theorem upsert_rows {fresh : Text} {query q : SavedQuery}
    (member : q ∈ (store.upsertSavedQuery fresh query).queries) :
    q = Store.rowOf fresh query ∨ (q ∈ store.queries ∧ q.id ≠ (Store.rowOf fresh query).id) := by
  simp only [Store.upsertSavedQuery] at member
  split at member
  · obtain ⟨old, old_in, rfl⟩ := List.mem_map.mp member
    rw [Store.overwrite]
    split
    · exact .inl rfl
    · rename_i apart
      exact .inr ⟨old_in, apart⟩
  · rename_i unknown
    rcases List.mem_cons.mp member with rfl | old_in
    · exact .inl rfl
    · exact .inr ⟨old_in, fun same => unknown (same ▸ List.mem_map_of_mem old_in)⟩

theorem upsert_ids (fresh : Text) (query : SavedQuery) :
    (store.upsertSavedQuery fresh query).queries.map SavedQuery.id =
      if (Store.rowOf fresh query).id ∈ store.queries.map SavedQuery.id then
        store.queries.map SavedQuery.id
      else (Store.rowOf fresh query).id :: store.queries.map SavedQuery.id := by
  simp only [Store.upsertSavedQuery]
  split
  · rw [List.map_map]
    refine List.map_congr_left fun q _ => ?_
    show (Store.overwrite _ q).id = q.id
    rw [Store.overwrite]
    split
    · rename_i same
      exact same.symm
    · rfl
  · rfl

theorem upsert_items (fresh : Text) (query : SavedQuery) {scope : LibraryScope} {item : Text}
    (listed : item ∈ store.itemIds scope) :
    item ∈ (store.upsertSavedQuery fresh query).itemIds scope := by
  rw [Store.itemIds] at listed ⊢
  split
  · rename_i saved
    rw [if_pos saved] at listed
    rw [upsert_ids]
    split
    · exact listed
    · exact List.mem_cons_of_mem _ listed
  · rename_i other
    rw [if_neg other] at listed
    exact listed

theorem row_listed (fresh : Text) (query : SavedQuery) :
    (Store.rowOf fresh query).id ∈ (store.upsertSavedQuery fresh query).itemIds .savedQuery := by
  rw [Store.itemIds, if_pos rfl, upsert_ids]
  split
  · rename_i known
    exact known
  · exact List.mem_cons_self

theorem Filed.upsert (filed : Filed store) (fresh : Text) (query : SavedQuery) :
    Filed (store.upsertSavedQuery fresh query) :=
  filed.sublist (List.Sublist.refl _) (fun f member => ⟨f, member, rfl, rfl⟩)
    fun _ _ listed => upsert_items fresh query listed

/-- A row is written and filed where no other query has its name. -/
theorem Kept.upsert (kept : Kept toLowercase store) {fresh : Text} {query : SavedQuery}
    {next : Store} (folders : next.folders = store.folders)
    (queries : next.queries = (store.upsertSavedQuery fresh query).queries)
    (documents : next.documents = store.documents) (filed : Filed next)
    (places : ∀ id, id ≠ (Store.rowOf fresh query).id →
      next.folderOf .savedQuery id = store.folderOf .savedQuery id)
    (trimmed : trim query.name = query.name ∧ query.name ≠ [])
    (fits : ∀ q ∈ store.queries, q.id ≠ (Store.rowOf fresh query).id →
      q.connectionId = query.connectionId → store.folderOf .savedQuery q.id =
        next.folderOf .savedQuery (Store.rowOf fresh query).id →
      toLowercase q.name ≠ toLowercase query.name) : Kept toLowercase next := by
  have name : (Store.rowOf fresh query).name = query.name := trimmed.1
  refine ⟨folders ▸ kept.folders, filed, ?_, documents ▸ kept.documents⟩
  refine kept.queries.write ?_ ?_ places ?_ ?_
  · rw [queries, upsert_ids]
    split
    · exact kept.queries.ids
    · rename_i unknown
      exact List.nodup_cons.mpr ⟨unknown, kept.queries.ids⟩
  · intro q member
    rw [queries] at member
    exact upsert_rows member
  · rw [name]
    exact trimmed
  · intro q member apart connection place
    rw [name]
    exact fits q member apart connection place

/-- An item that is not saved is in no folder. -/
theorem unfiled (filed : Filed store) {id : Text} (unknown : id ∉ store.queries.map SavedQuery.id) :
    store.folderOf .savedQuery id = none := by
  cases place : store.folderOf .savedQuery id with
  | none => rfl
  | some folder =>
    obtain ⟨p, member, scopes, rfl, -⟩ := folderOf_mem place
    have listed := filed.items p member
    rw [Store.itemIds, if_pos scopes] at listed
    exact absurd listed unknown

theorem existing_some {id : Text} {found : SavedQuery} (there : store.existing id = some found) :
    id ≠ [] ∧ found ∈ store.queries ∧ found.id = id := by
  rw [Store.existing] at there
  split at there
  · cases there
  · rename_i filled
    have same := List.find?_some there
    exact ⟨filled, List.mem_of_find?_eq_some there, of_decide_eq_true same⟩

theorem existing_none {id : Text} (nowhere : store.existing id = none) (filled : id ≠ []) :
    id ∉ store.queries.map SavedQuery.id := by
  rw [Store.existing, if_neg filled, List.find?_eq_none] at nowhere
  intro there
  obtain ⟨q, member, rfl⟩ := List.mem_map.mp there
  exact nowhere q member (decide_eq_true rfl)

/-- The folder that a save finds a query in is the one it is in. -/
theorem currentFolder_eq (filed : Filed store) {fresh : Text}
    (new : ¬(fresh ∈ store.queries.map SavedQuery.id ∨ fresh = [])) (query : SavedQuery) :
    store.currentFolder query.id = store.folderOf .savedQuery (Store.rowOf fresh query).id := by
  rw [Store.currentFolder, Store.rowOf]
  cases there : store.existing query.id with
  | some found =>
    obtain ⟨filled, -, same⟩ := existing_some there
    rw [Option.bind_some, same, if_neg filled]
  | none =>
    rw [Option.bind_none, unfiled filed]
    split
    · exact fun known => new (.inl known)
    · rename_i filled
      exact existing_none there filled

theorem placeItem_found {next : Store} {folder item : Text}
    (found : ∃ f ∈ store.folders, f.id = folder ∧ f.scope = .savedQuery)
    (kept : FoldersKept toLowercase store.folders) (same : next.folders = store.folders) :
    next.placeItem .savedQuery item (some folder) = .ok (next.file .savedQuery item folder) := by
  obtain ⟨f, member, rfl, scopes⟩ := found
  have search : next.getFolder f.id = .ok f := by
    rw [Store.getFolder, same, find_folder kept member]
  rw [Store.placeItem]
  show (next.getFolder f.id >>= _) = _
  rw [search]
  show (if f.scope ≠ .savedQuery then _ else _) = _
  rw [if_neg (not_not.mpr scopes)]

/-- A query is written, and filed in the folder that is given. -/
theorem Kept.file_upsert (kept : Kept toLowercase store) {fresh : Text} {query : SavedQuery}
    {folder : Text} (found : ∃ f ∈ store.folders, f.id = folder ∧ f.scope = .savedQuery)
    (trimmed : trim query.name = query.name ∧ query.name ≠ [])
    (fits : ∀ q ∈ store.queries, q.id ≠ (Store.rowOf fresh query).id →
      q.connectionId = query.connectionId → store.folderOf .savedQuery q.id = some folder →
      toLowercase q.name ≠ toLowercase query.name) :
    Kept toLowercase ((store.upsertSavedQuery fresh query).settle
      ((store.upsertSavedQuery fresh query).placeItem .savedQuery (Store.rowOf fresh query).id
        (some folder))).2 := by
  have placed := @placeItem_found toLowercase store (store.upsertSavedQuery fresh query) folder
    (Store.rowOf fresh query).id found kept.folders rfl
  rw [placed]
  refine kept.upsert rfl rfl rfl
    ((kept.filed.upsert fresh query).file found (row_listed fresh query)) ?_ trimmed ?_
  · exact fun id apart => folderOf_file_other fun both => apart both.2
  · intro q member apart connection place
    rw [Store.settle, folderOf_file_self] at place
    exact fits q member apart connection place

theorem Kept.stay_upsert (kept : Kept toLowercase store) {fresh : Text} {query : SavedQuery}
    (trimmed : trim query.name = query.name ∧ query.name ≠ [])
    (fits : ∀ q ∈ store.queries, q.id ≠ (Store.rowOf fresh query).id →
      q.connectionId = query.connectionId → store.folderOf .savedQuery q.id =
        store.folderOf .savedQuery (Store.rowOf fresh query).id →
      toLowercase q.name ≠ toLowercase query.name) :
    Kept toLowercase (store.upsertSavedQuery fresh query) :=
  kept.upsert rfl rfl rfl (kept.filed.upsert fresh query) (fun _ _ => rfl) trimmed fits

theorem checkFolder_ok {folder : Text} {done : Unit}
    (checked : store.checkFolder (some folder) = .ok done) :
    ∃ f ∈ store.folders, f.id = folder ∧ f.scope = .savedQuery := by
  obtain ⟨f, found, checked⟩ := bind_ok checked
  obtain ⟨member, same⟩ := getFolder_ok found
  split at checked
  · cases checked
  · rename_i scopes
    exact ⟨f, member, same, not_not.mp scopes⟩

theorem kept_save (kept : Kept toLowercase store) {fresh : Text} {query : SavedQuery}
    {folderId : Option Text} (new : ¬(fresh ∈ store.queries.map SavedQuery.id ∨ fresh = []))
    (plain : PlainAmong toLowercase store query.connectionId
      (store.targetFolder query.id folderId) (trim query.name)
        ((store.existing query.id).map SavedQuery.id)) :
    Kept toLowercase (store.save toLowercase fresh query folderId).2 := by
  rw [Store.save]
  cases checked : store.checkSave toLowercase query folderId with
  | error error => exact kept
  | ok name =>
    obtain ⟨clean, cleaned, checked⟩ := bind_ok checked
    obtain ⟨_, folder_ok, checked⟩ := bind_ok checked
    obtain ⟨rfl, filled⟩ := cleanName_ok cleaned
    have same_name : name = trim query.name := by
      split at checked
      · cases checked
        rfl
      · split at checked
        · cases checked
        · cases checked
          rfl
    subst same_name
    have trimmed := trim_trim query.name
    have fits : ∀ q ∈ store.queries,
        q.id ≠ (Store.rowOf fresh { query with name := trim query.name }).id →
        q.connectionId = query.connectionId →
        store.folderOf .savedQuery q.id = store.targetFolder query.id folderId →
        toLowercase q.name ≠ toLowercase (trim query.name) := by
      intro q member apart connection place
      have other : some q.id ≠ (store.existing query.id).map SavedQuery.id := by
        cases there : store.existing query.id with
        | none => exact Option.some_ne_none _
        | some found =>
          obtain ⟨known, -, same⟩ := existing_some there
          intro both
          apply apart
          rw [Store.rowOf]
          simp only
          rw [if_neg known, ← same]
          exact Option.some.inj both
      split at checked
      · rename_i unchanged
        obtain ⟨found, there, facts⟩ := (Option.any_eq_true _ _).mp unchanged
        obtain ⟨names, connections, folders⟩ := of_decide_eq_true facts
        obtain ⟨-, found_in, found_id⟩ := existing_some there
        rw [(kept.queries.trimmed found found_in).1] at names
        rw [← names]
        intro same
        apply other
        rw [there, Option.map_some]
        refine congrArg some (kept.queries.names q member found found_in
          (connection.trans connections.symm) ?_ same)
        rw [place, folders, Store.currentFolder, there, Option.bind_some]
      · split at checked
        · cases checked
        · rename_i free
          exact differs_among kept plain free trimmed member connection place other
    cases folderId with
    | some folder =>
      exact kept.file_upsert (checkFolder_ok folder_ok) ⟨trimmed, filled⟩ fits
    | none =>
      refine kept.stay_upsert ⟨trimmed, filled⟩ fun q member apart connection place =>
        fits q member apart connection (place.trans ?_)
      exact (currentFolder_eq kept.filed new { query with name := trim query.name }).symm

theorem kept_rename (kept : Kept toLowercase store) {id name : Text}
    (plain : ∀ query ∈ store.queries, query.id = id → PlainAmong toLowercase store
      query.connectionId (store.folderOf .savedQuery id) (trim name) (some id))
    {next : Store} (done : store.rename id name = .ok next) : Kept toLowercase next := by
  obtain ⟨clean, cleaned, done⟩ := bind_ok done
  obtain ⟨query, found, done⟩ := bind_ok done
  obtain ⟨rfl, filled⟩ := cleanName_ok cleaned
  obtain ⟨member, rfl⟩ := getSavedQuery_ok found
  have trimmed := trim_trim name
  split at done
  · cases done
  · rename_i free
    rw [Store.renameSavedQuery, if_pos (List.mem_map_of_mem member)] at done
    cases done
    have ids : (store.queries.map fun q =>
        if q.id = query.id then { q with name := trim (trim name) } else q).map SavedQuery.id =
          store.queries.map SavedQuery.id := by
      rw [List.map_map]
      refine List.map_congr_left fun q _ => ?_
      show (if q.id = query.id then { q with name := trim (trim name) } else q).id = q.id
      split <;> rfl
    refine ⟨kept.folders, ?_, ?_, kept.documents⟩
    · refine kept.filed.sublist (List.Sublist.refl _)
        (fun f there => ⟨f, there, rfl, rfl⟩) fun p _ listed => ?_
      rw [Store.itemIds] at listed ⊢
      rw [ids]
      exact listed
    · refine @QueriesKept.write _ _ kept.queries _ { query with name := trim name }
        (ids ▸ kept.queries.ids) ?_ (fun _ _ => rfl) ⟨trimmed, filled⟩ ?_
      · intro q there
        obtain ⟨old, old_in, rfl⟩ := List.mem_map.mp there
        split
        · rename_i same
          rw [query_eq kept.queries old_in member same, trimmed]
          exact .inl rfl
        · rename_i apart
          exact .inr ⟨old_in, apart⟩
      · intro q there apart connection place
        exact differs_among kept (plain query member rfl) free trimmed there connection place
          fun same => apart (Option.some.inj same)

theorem mapM_cleanName_ok {name explicit : Option Text}
    (cleaned : name.mapM cleanName = .ok explicit) (chosen : Text) (given : explicit = some chosen) :
    trim chosen = chosen ∧ chosen ≠ [] := by
  cases name with
  | none =>
    cases cleaned
    cases given
  | some raw =>
    obtain ⟨clean, checked, same⟩ := bind_ok cleaned
    cases same
    cases given
    obtain ⟨rfl, filled⟩ := cleanName_ok checked
    exact ⟨trim_trim raw, filled⟩

/-- The name of a copy is trimmed, and no query where the copy goes has it. -/
theorem copyNamed_free (kept : Kept toLowercase store) {original : SavedQuery}
    (member : original ∈ store.queries) {target explicit : Option Text} {name : Text}
    (clean : ∀ chosen, explicit = some chosen → trim chosen = chosen ∧ chosen ≠ [])
    (named : store.copyNamed toLowercase original target explicit = .ok (some name)) :
    (trim name = name ∧ name ≠ []) ∧
      ∀ q ∈ store.queriesIn (copyConnection original target)
        (store.folderOf .savedQuery original.id), toLowercase q.name ≠ toLowercase name := by
  obtain ⟨trimmed, filled⟩ := kept.queries.trimmed original member
  have others : ∀ {taken : Text}, (decide (toLowercase taken ∈ (store.savedQueryNamesIn
      (copyConnection original target) (store.folderOf .savedQuery original.id)).map fun t =>
        toLowercase (trim t))) = false →
      ∀ q ∈ store.queriesIn (copyConnection original target)
        (store.folderOf .savedQuery original.id), toLowercase q.name ≠ toLowercase taken := by
    intro taken free q there same
    refine of_decide_eq_false free (List.mem_map.mpr ⟨q.name, List.mem_map_of_mem there, ?_⟩)
    rw [(kept.queries.trimmed q (mem_queriesIn.mp there).1).1, same]
  simp only [Store.copyNamed] at named
  cases explicit with
  | some chosen =>
    simp only at named
    split at named
    · cases named
    · rename_i free
      cases named
      exact ⟨clean _ rfl, others (Bool.eq_false_of_not_eq_true free)⟩
  | none =>
    simp only at named
    split at named
    · rename_i free
      cases named
      rw [Bool.and_eq_true, Bool.not_eq_true', trimmed] at free
      exact ⟨⟨trimmed, filled⟩, others free.2⟩
    · have found := Except.ok.inj named
      obtain ⟨copy_trimmed, copy_filled, free⟩ :=
        copyName_free (trimmed.symm ▸ (trimmed_ends trimmed).1) (trimmed.symm ▸ filled) found
      refine ⟨⟨copy_trimmed, copy_filled⟩, fun q there => ?_⟩
      have differ := free q.name (List.mem_map_of_mem there)
      rw [(kept.queries.trimmed q (mem_queriesIn.mp there).1).1] at differ
      exact differ

theorem kept_duplicate (kept : Kept toLowercase store) {fresh id : Text} {target name : Option Text}
    (new : ¬(fresh ∈ store.queries.map SavedQuery.id ∨ fresh = []))
    {answer : Except AppError Unit × Store}
    (done : store.duplicate toLowercase fresh id target name = some answer) :
    Kept toLowercase answer.2 := by
  rw [Store.duplicate] at done
  split at done
  · cases done
    exact kept
  · cases done
  · rename_i original name checked
    obtain ⟨explicit, cleaned, behind⟩ := bind_ok checked
    obtain ⟨found, search, crossing⟩ := bind_ok behind
    obtain ⟨member, rfl⟩ := getSavedQuery_ok search
    split at crossing
    · cases crossing
    · obtain ⟨copied, named, same⟩ := bind_ok crossing
      cases same
      obtain ⟨trimmed, free⟩ := copyNamed_free kept member (mapM_cleanName_ok cleaned) named
      have row : (Store.rowOf fresh
          ⟨[], copyConnection original target, name, original.sql⟩).id = fresh := by
        show (if ([] : Text) = [] then fresh else []) = fresh
        rw [if_pos rfl]
      simp only at done
      split at done
      · rename_i unplaced
        cases done
        refine kept.stay_upsert trimmed fun q there _ connection place => ?_
        rw [row, unfiled kept.filed fun known => new (.inl known)] at place
        exact free q (mem_queriesIn.mpr ⟨there, connection, place.trans unplaced.symm⟩)
      · rename_i folder place_of
        cases done
        obtain ⟨p, placed, scopes, -, rfl⟩ := folderOf_mem place_of
        obtain ⟨f, f_in, f_id, f_scope⟩ := kept.filed.folders p placed
        have into := @Kept.file_upsert _ _ kept fresh
          ⟨[], copyConnection original target, name, original.sql⟩ _ ⟨f, f_in, f_id, f_scope.trans scopes⟩
          trimmed fun q there _ connection place =>
            free q (mem_queriesIn.mpr ⟨there, connection, place.trans place_of.symm⟩)
        rw [row] at into
        exact into

theorem kept_deleteQuery (kept : Kept toLowercase store) (id : Text) :
    Kept toLowercase (store.deleteSavedQuery id) := by
  refine ⟨kept.folders, ?_, kept.queries.fewer List.filter_sublist ?_, kept.documents⟩
  · refine kept.filed.sublist List.filter_sublist (fun f there => ⟨f, there, rfl, rfl⟩) ?_
    intro p there listed
    have apart := of_decide_eq_true (List.mem_filter.mp there).2
    rw [Store.itemIds] at listed ⊢
    split
    · rename_i saved
      rw [if_pos saved] at listed
      obtain ⟨q, q_in, same⟩ := List.mem_map.mp listed
      exact List.mem_map.mpr ⟨q, List.mem_filter.mpr
        ⟨q_in, decide_eq_true fun here => apart ⟨saved, same.symm.trans here⟩⟩, same⟩
    · rename_i other
      rw [if_neg other] at listed
      exact listed
  · intro q there
    have apart := of_decide_eq_true (List.mem_filter.mp there).2
    exact folderOf_clear_other fun both => apart both.2

theorem kept_createDocument (kept : Kept toLowercase store) {id name : Text} {kind : DocumentKind}
    (fresh : id ∉ store.documents.map Document.id) :
    Kept toLowercase (store.createDocument id kind name) := by
  refine ⟨kept.folders, ?_, kept.queries.fewer (List.Sublist.refl _) fun _ _ => rfl,
    List.nodup_cons.mpr ⟨fresh, kept.documents⟩⟩
  refine kept.filed.sublist (List.Sublist.refl _) (fun f there => ⟨f, there, rfl, rfl⟩) ?_
  intro p _ listed
  rw [Store.itemIds] at listed ⊢
  split
  · rename_i saved
    rw [if_pos saved] at listed
    exact listed
  · rename_i other
    rw [if_neg other] at listed
    obtain ⟨d, d_in, same⟩ := List.mem_map.mp listed
    obtain ⟨d_in, kinds⟩ := List.mem_filter.mp d_in
    exact List.mem_map.mpr
      ⟨d, List.mem_filter.mpr ⟨List.mem_cons_of_mem _ d_in, kinds⟩, same⟩

theorem kept_deleteDocument (kept : Kept toLowercase store) (id : Text) :
    Kept toLowercase (store.deleteDocument id) := by
  refine ⟨kept.folders, ?_, kept.queries.fewer (List.Sublist.refl _) ?_,
    kept.documents.sublist (List.filter_sublist.map _)⟩
  · refine kept.filed.sublist List.filter_sublist (fun f there => ⟨f, there, rfl, rfl⟩) ?_
    intro p there listed
    have apart := of_decide_eq_true (List.mem_filter.mp there).2
    rw [Store.itemIds] at listed ⊢
    split
    · rename_i saved
      rw [if_pos saved] at listed
      exact listed
    · rename_i other
      rw [if_neg other] at listed
      obtain ⟨d, d_in, same⟩ := List.mem_map.mp listed
      obtain ⟨d_in, kinds⟩ := List.mem_filter.mp d_in
      exact List.mem_map.mpr ⟨d, List.mem_filter.mpr ⟨List.mem_filter.mpr
        ⟨d_in, decide_eq_true fun here => apart ⟨other, same.symm.trans here⟩⟩, kinds⟩, same⟩
  · intro q _
    rw [Store.folderOf, Store.folderOf, Store.deleteDocument]
    refine congrArg _ (find_filtered _ _ _ fun p fits => ?_)
    exact decide_eq_true fun away => away.1 (of_decide_eq_true fits).1

theorem kept_step (kept : Kept toLowercase store) {action : Action}
    (careful : Careful toLowercase store action) {next : Store}
    (stepped : step toLowercase store action = some next) : Kept toLowercase next := by
  obtain ⟨answer, performed, rfl⟩ := Option.map_eq_some_iff.mp stepped
  cases action with
  | createFolder id scope parentId name =>
    rw [perform] at performed
    split at performed
    · cases performed
    · rename_i fresh
      cases performed
      exact kept_settle kept fun next done => kept_createFolder kept fresh careful done
  | renameFolder id name =>
    cases performed
    exact kept_settle kept fun next done => kept_renameFolder kept careful done
  | moveFolder id parentId =>
    cases performed
    exact kept_settle kept fun next done => kept_moveFolder kept careful done
  | deleteFolder id =>
    cases performed
    exact kept_settle kept fun next done => kept_deleteFolder kept careful done
  | moveItem scope item folderId =>
    cases performed
    exact kept_settle kept fun next done => kept_moveItem kept careful done
  | save fresh query folderId =>
    rw [perform] at performed
    split at performed
    · cases performed
    · rename_i new
      cases performed
      exact kept_save kept new careful
  | rename id name =>
    cases performed
    exact kept_settle kept fun next done => kept_rename kept careful done
  | duplicate fresh id target name =>
    rw [perform] at performed
    split at performed
    · cases performed
    · rename_i new
      exact kept_duplicate kept new performed
  | deleteQuery id =>
    cases performed
    exact kept_deleteQuery kept id
  | createDocument id kind name =>
    rw [perform] at performed
    split at performed
    · cases performed
    · rename_i fresh
      cases performed
      exact kept_createDocument kept fresh
  | deleteDocument id =>
    cases performed
    exact kept_deleteDocument kept id
  | connect id =>
    cases performed
    exact ⟨kept.folders, ⟨kept.filed.keys, kept.filed.folders, kept.filed.items⟩,
      kept.queries.fewer (List.Sublist.refl _) fun _ _ => rfl, kept.documents⟩
  | disconnect id =>
    cases performed
    exact ⟨kept.folders, ⟨kept.filed.keys, kept.filed.folders, kept.filed.items⟩,
      kept.queries.fewer (List.Sublist.refl _) fun _ _ => rfl, kept.documents⟩

end Steps

section Trees

variable {toLowercase : Text → Text} {store : Store}

/-- Folders without a cycle, in whatever order, make a tree that shows all of its list. -/
theorem shows_all (kept : FoldersKept toLowercase store.folders) {T : Type} [LibraryItem T]
    {folders : List LibraryFolder} (order : folders.Perm store.folders) (scope : LibraryScope)
    (placements : List LibraryPlacement) (items : List T) :
    ShowsAll ⟨scope, folders, placements, items⟩ := by
  intro localeCompare direction
  have acyclic : Acyclic LibraryFolder.id (Rows.parentOf ⟨scope, folders, placements, items⟩)
      (Rows.mine ⟨scope, folders, placements, items⟩) := by
    refine kept.acyclic.of_paths fun a b link => ?_
    obtain ⟨f, member, own, named⟩ := link
    exact .single ⟨f, order.subset (List.mem_filter.mp member).1, own,
      (Option.filter_eq_some_iff.mp named).1⟩
  have distinct : (Rows.known ⟨scope, folders, placements, items⟩).Nodup :=
    ((order.map _).nodup_iff.mpr kept.ids).sublist (List.filter_sublist.map _)
  refine ⟨buildTree_folders acyclic distinct (fun _ => rfl) rfl, ?_⟩
  have shown := @buildTree_items T localeCompare _ ⟨scope, folders, placements, items⟩
    ⟨fun _ => true, false, direction⟩ acyclic distinct
  rw [List.filter_eq_self.mpr fun _ _ => rfl] at shown
  exact shown

theorem Kept.sound (kept : Kept toLowercase store) : Sound toLowercase store where
  acyclic := kept.folders.acyclic
  parents := kept.folders.parents
  placed p member := ⟨kept.filed.items p member, kept.filed.folders p member⟩
  folders f f_in g g_in apart scopes places names :=
    apart (folder_eq kept.folders f_in g_in
      (kept.folders.names f f_in g g_in scopes places names))
  queries q q_in r r_in apart connections places names :=
    apart (query_eq kept.queries q_in r_in
      (kept.queries.names q q_in r r_in connections places names))
  ids := ⟨kept.folders.ids, kept.queries.ids, kept.documents⟩
  shown _ _ order _ :=
    ⟨fun queries _ => shows_all kept.folders order _ _ queries,
      fun _ documents _ => shows_all kept.folders order _ _ documents⟩

theorem kept_empty (toLowercase : Text → Text) : Kept toLowercase Store.empty where
  folders := {
    ids := List.nodup_nil
    acyclic := by
      intro a cycle
      obtain ⟨b, ⟨f, member, -⟩, -⟩ := Relation.TransGen.head'_iff.mp cycle
      cases member
    parents := fun f member => by cases member
    names := fun f member => by cases member }
  filed := ⟨List.nodup_nil, fun p member => (by cases member), fun p member => by cases member⟩
  queries := ⟨List.nodup_nil, fun q member => (by cases member), fun q member => by cases member⟩
  documents := List.nodup_nil

end Trees

section Losses

variable {toLowercase : Text → Text} {store : Store}

/-- The stores that an operation may leave have the items that were there. -/
def Lasts (store next : Store) : Prop :=
  ∀ scope item, item ∈ store.itemIds scope → item ∈ next.itemIds scope

theorem lasts_settle {result : Except AppError Store}
    (lasts : ∀ next, result = .ok next → Lasts store next) :
    Lasts store (store.settle result).2 := by
  cases result with
  | error error => exact fun _ _ there => there
  | ok next => exact lasts next rfl

theorem lasts_same {next : Store} (queries : next.queries = store.queries)
    (documents : next.documents = store.documents) : Lasts store next := by
  intro scope item there
  rw [Store.itemIds] at there ⊢
  rw [queries, documents]
  exact there

theorem lasts_createFolder {id name : Text} {scope : LibraryScope} {parentId : Option Text}
    {next : Store} (done : store.createFolder id scope parentId name = .ok next) :
    Lasts store next := by
  obtain ⟨clean, -, done⟩ := bind_ok done
  obtain ⟨_, -, done⟩ := bind_ok done
  split at done
  · cases done
  · cases done
    exact lasts_same rfl rfl

theorem lasts_renameFolder {id name : Text} {next : Store}
    (done : store.renameFolder id name = .ok next) : Lasts store next := by
  obtain ⟨clean, -, done⟩ := bind_ok done
  obtain ⟨_, -, done⟩ := bind_ok done
  split at done
  · cases done
  · cases done
    exact lasts_same rfl rfl

theorem lasts_moveFolder {id : Text} {parentId : Option Text} {next : Store}
    (done : store.moveFolder id parentId = .ok next) : Lasts store next := by
  obtain ⟨folder, -, done⟩ := bind_ok done
  obtain ⟨_, -, done⟩ := bind_ok done
  split at done
  · cases done
  · split at done
    · cases done
    · cases done
      exact lasts_same rfl rfl

theorem lasts_deleteFolder {id : Text} {next : Store} (done : store.deleteFolder id = .ok next) :
    Lasts store next := by
  obtain ⟨folder, -, done⟩ := bind_ok done
  cases done
  exact lasts_same rfl rfl

theorem lasts_moveItem {scope : LibraryScope} {item : Text} {folderId : Option Text} {next : Store}
    (done : store.moveItem scope item folderId = .ok next) : Lasts store next := by
  obtain ⟨_, -, done⟩ := bind_ok done
  obtain ⟨-, queries, documents, -⟩ := placed_facts done
  exact lasts_same queries documents

theorem lasts_placed {middle : Store} (lasts : Lasts store middle) {item : Text}
    {folderId : Option Text} :
    Lasts store (middle.settle (middle.placeItem .savedQuery item folderId)).2 := by
  intro scope other there
  refine lasts_settle ?_ scope other (lasts scope other there)
  intro next done
  obtain ⟨-, queries, documents, -⟩ := placed_facts done
  exact lasts_same queries documents

theorem lasts_save (fresh : Text) (query : SavedQuery) (folderId : Option Text) :
    Lasts store (store.save toLowercase fresh query folderId).2 := by
  rw [Store.save]
  split
  · exact fun _ _ there => there
  · rename_i name _
    have written : Lasts store (store.upsertSavedQuery fresh { query with name := name }) :=
      fun _ _ there => upsert_items fresh _ there
    cases folderId with
    | none => exact written
    | some folder => exact lasts_placed written

theorem lasts_rename {id name : Text} {next : Store} (done : store.rename id name = .ok next) :
    Lasts store next := by
  obtain ⟨clean, -, done⟩ := bind_ok done
  obtain ⟨_, -, done⟩ := bind_ok done
  split at done
  · cases done
  · rw [Store.renameSavedQuery] at done
    split at done
    · cases done
      intro scope item there
      rw [Store.itemIds] at there ⊢
      rw [List.map_map]
      have ids : (fun q : SavedQuery => SavedQuery.id
          (if q.id = id then { q with name := trim clean } else q)) = SavedQuery.id := by
        funext q
        split <;> rfl
      rw [Function.comp_def, ids]
      exact there
    · cases done

theorem lasts_duplicate {fresh id : Text} {target name : Option Text}
    {answer : Except AppError Unit × Store}
    (done : store.duplicate toLowercase fresh id target name = some answer) :
    Lasts store answer.2 := by
  rw [Store.duplicate] at done
  split at done
  · cases done
    exact fun _ _ there => there
  · cases done
  · rename_i original name _
    have written : Lasts store (store.upsertSavedQuery fresh
        ⟨[], copyConnection original target, name, original.sql⟩) :=
      fun _ _ there => upsert_items fresh _ there
    simp only at done
    split at done
    · cases done
      exact written
    · cases done
      exact lasts_placed written

theorem loses_nothing (toLowercase : Text → Text) (store : Store) (action : Action) :
    LosesNothing toLowercase store action := by
  intro next stepped scope item spared there
  obtain ⟨answer, performed, rfl⟩ := Option.map_eq_some_iff.mp stepped
  cases action with
  | createFolder id scope parentId name =>
    rw [perform] at performed
    split at performed
    · cases performed
    · cases performed
      exact lasts_settle (fun next done => lasts_createFolder done) _ _ there
  | renameFolder id name =>
    cases performed
    exact lasts_settle (fun next done => lasts_renameFolder done) _ _ there
  | moveFolder id parentId =>
    cases performed
    exact lasts_settle (fun next done => lasts_moveFolder done) _ _ there
  | deleteFolder id =>
    cases performed
    exact lasts_settle (fun next done => lasts_deleteFolder done) _ _ there
  | moveItem scope' item' folderId =>
    cases performed
    exact lasts_settle (fun next done => lasts_moveItem done) _ _ there
  | save fresh query folderId =>
    rw [perform] at performed
    split at performed
    · cases performed
    · cases performed
      exact lasts_save fresh query folderId _ _ there
  | rename id name =>
    cases performed
    exact lasts_settle (fun next done => lasts_rename done) _ _ there
  | duplicate fresh id target name =>
    rw [perform] at performed
    split at performed
    · cases performed
    · exact lasts_duplicate performed _ _ there
  | deleteQuery id =>
    cases performed
    rw [Store.itemIds] at there ⊢
    split
    · rename_i saved
      rw [if_pos saved] at there
      obtain ⟨q, member, same⟩ := List.mem_map.mp there
      have apart : q.id ≠ id := fun here => spared ⟨saved, same.symm.trans here⟩
      exact List.mem_map.mpr ⟨q, List.mem_filter.mpr ⟨member, decide_eq_true apart⟩, same⟩
    · rename_i other
      rw [if_neg other] at there
      exact there
  | createDocument id kind name =>
    rw [perform] at performed
    split at performed
    · cases performed
    · cases performed
      rw [Store.itemIds] at there ⊢
      split
      · rename_i saved
        rw [if_pos saved] at there
        exact there
      · rename_i other
        rw [if_neg other] at there
        obtain ⟨d, member, same⟩ := List.mem_map.mp there
        obtain ⟨member, kinds⟩ := List.mem_filter.mp member
        exact List.mem_map.mpr
          ⟨d, List.mem_filter.mpr ⟨List.mem_cons_of_mem _ member, kinds⟩, same⟩
  | deleteDocument id =>
    cases performed
    rw [Store.itemIds] at there ⊢
    split
    · rename_i saved
      rw [if_pos saved] at there
      exact there
    · rename_i other
      rw [if_neg other] at there
      obtain ⟨d, member, same⟩ := List.mem_map.mp there
      obtain ⟨member, kinds⟩ := List.mem_filter.mp member
      have apart : d.id ≠ id := fun here => spared ⟨other, same.symm.trans here⟩
      exact List.mem_map.mpr ⟨d, List.mem_filter.mpr
        ⟨List.mem_filter.mpr ⟨member, decide_eq_true apart⟩, kinds⟩, same⟩
  | connect id =>
    cases performed
    exact there
  | disconnect id =>
    cases performed
    exact there

end Losses

theorem along_of_always {State Op : Type} {step : State → Op → Option State}
    {condition : State → Op → Prop} (always : ∀ state op, condition state op) (start : State)
    (ops : List Op) : Along step condition start ops := by
  induction ops generalizing start with
  | nil => trivial
  | cons op rest hypothesis => exact fun next _ => ⟨always start op, hypothesis next⟩

/-- A library whose operations meet the condition stays a forest that is shown whole, and no
operation loses an item. -/
theorem stays_a_forest (toLowercase : Text → Text) (actions : List Action)
    (careful : Along (step toLowercase) (Careful toLowercase) Store.empty actions) :
    Throughout (step toLowercase) (Sound toLowercase) Store.empty actions ∧
      Along (step toLowercase) (LosesNothing toLowercase) Store.empty actions := by
  have kept : Throughout (step toLowercase) (Kept toLowercase) Store.empty actions :=
    throughout_of_kept (fun _ _ _ kept careful stepped => kept_step kept careful stepped)
      (kept_empty toLowercase) careful
  exact ⟨kept.mono fun _ => Kept.sound, along_of_always (loses_nothing toLowercase) _ _⟩

section Runs

/-- A query is saved in a folder in a folder, and copied; then the inner folder goes. -/
def filing : List Action :=
  [.createFolder "1".toList .savedQuery none "Reports".toList,
    .createFolder "2".toList .savedQuery (some "1".toList) "Weekly".toList,
    .save "3".toList ⟨[], none, "Revenue".toList, "select 1".toList⟩ (some "2".toList),
    .duplicate "4".toList "3".toList none none,
    .deleteFolder "2".toList]

instance (toLowercase : Text → Text) (name name' : Text) :
    Decidable (Plain toLowercase name name') :=
  inferInstanceAs (Decidable (toLowercase name = toLowercase name' → lower name = lower name'))

instance (toLowercase : Text → Text) (store : Store) (scope : LibraryScope)
    (parentId : Option Text) (name : Text) (id : Option Text) :
    Decidable (PlainBeside toLowercase store scope parentId name id) :=
  inferInstanceAs (Decidable (∀ f ∈ store.folders, f.scope = scope → f.parentId = parentId →
    some f.id ≠ id → Plain toLowercase f.name name))

instance (toLowercase : Text → Text) (store : Store) (connectionId folderId : Option Text)
    (name : Text) (id : Option Text) :
    Decidable (PlainAmong toLowercase store connectionId folderId name id) :=
  inferInstanceAs (Decidable (∀ q ∈ store.queriesIn connectionId folderId,
    some q.id ≠ id → Plain toLowercase q.name name))

instance (toLowercase : Text → Text) (store : Store) (folder : LibraryFolder) :
    Decidable (LiftsFreely toLowercase store folder) := by
  unfold LiftsFreely
  infer_instance

instance (toLowercase : Text → Text) (store : Store) (action : Action) :
    Decidable (Careful toLowercase store action) := by
  unfold Careful
  cases action <;> infer_instance

theorem filing_stays_a_forest :
    Throughout (step toAsciiLowercase) (Sound toAsciiLowercase) Store.empty filing ∧
      Along (step toAsciiLowercase) (LosesNothing toAsciiLowercase) Store.empty filing :=
  stays_a_forest toAsciiLowercase filing (by decide +kernel)

/-- A folder goes that holds one with the name of a folder beside it. -/
def lifting : List Action :=
  [.createFolder "1".toList .dashboard none "A".toList,
    .createFolder "2".toList .dashboard none "B".toList,
    .createFolder "3".toList .dashboard (some "2".toList) "A".toList,
    .deleteFolder "2".toList]

def liftedBeside : List LibraryFolder :=
  [⟨"3".toList, .dashboard, none, "A".toList⟩, ⟨"1".toList, .dashboard, none, "A".toList⟩]

theorem lifting_leaves : run (step toAsciiLowercase) Store.empty lifting =
    some { Store.empty with folders := liftedBeside } := by decide +kernel

theorem one_name_twice : ¬∀ (toLowercase : Text → Text) (actions : List Action),
    Throughout (step toLowercase) (Sound toLowercase) Store.empty actions ∧
      Along (step toLowercase) (LosesNothing toLowercase) Store.empty actions := by
  intro claim
  have sound := (claim toAsciiLowercase lifting).1.last lifting_leaves
  exact sound.folders ⟨"3".toList, .dashboard, none, "A".toList⟩ List.mem_cons_self
    ⟨"1".toList, .dashboard, none, "A".toList⟩ (List.mem_cons_of_mem _ List.mem_cons_self)
    (by decide) rfl rfl rfl

end Runs

end DbFree.Library
