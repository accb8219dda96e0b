import DbFree.Documents
import DbFree.Errors
import DbFree.LibraryTree

/- The folders of the library, which items they hold, and the saved queries
(store/library.rs, store/saved_queries.rs, services/library.rs, services/saved_queries.rs). -/
namespace DbFree.Library

open Texts

structure SavedQuery where
  id : Text
  connectionId : Option Text
  name : Text
  sql : Text
  deriving DecidableEq

instance : LibraryItem SavedQuery := ⟨SavedQuery.id, SavedQuery.name⟩

/-- A document, whose body the library does not look into. -/
abbrev Doc := Document Unit

instance : LibraryItem Doc := ⟨Document.id, Document.name⟩

def LibraryScope.ofDocument : DocumentKind → LibraryScope
  | .dashboard => .dashboard
  | .workflow => .workflow
  | .diagram => .diagram

structure Store where
  folders : List LibraryFolder
  placements : List LibraryPlacement
  queries : List SavedQuery
  documents : List Doc
  connections : List Text
  deriving DecidableEq

/-- The functions `lower` and `trim` of SQLite, which know ASCII letters and blanks. -/
def lower : Text → Text := toAsciiLowercase

def sqliteTrim (text : Text) : Text := (text.dropWhile (· = ' ')).rdropWhile (· = ' ')

def maxFolderName : Nat := 120

def maxName : Nat := 200

def cleanFolderName (raw : Text) : Except AppError Text :=
  let name := trim raw
  if name = [] then .error (.invalidInput "A folder needs a name.".toList)
  else if maxFolderName < name.length then
    .error (.invalidInput "A folder name can be at most 120 characters.".toList)
  else .ok name

def cleanName (raw : Text) : Except AppError Text :=
  let name := trim raw
  if name = [] then .error (.invalidInput "A saved query needs a name.".toList)
  else if maxName < name.length then
    .error (.invalidInput "A saved query name can be at most 200 characters.".toList)
  else .ok name

namespace Store

variable (store : Store)

section Reads

def getFolder (id : Text) : Except AppError LibraryFolder :=
  match store.folders.find? fun f => f.id = id with
  | some folder => .ok folder
  | none => .error (.notFound ("Folder ".toList ++ id ++ " does not exist.".toList))

def getSavedQuery (id : Text) : Except AppError SavedQuery :=
  match store.queries.find? fun q => q.id = id with
  | some query => .ok query
  | none => .error (.notFound ("Saved query ".toList ++ id ++ " does not exist.".toList))

def getDocument (id : Text) : Except AppError Doc :=
  match store.documents.find? fun d => d.id = id with
  | some doc => .ok doc
  | none => .error (.notFound ("Document ".toList ++ id ++ " does not exist.".toList))

def folderNameTaken (scope : LibraryScope) (parentId : Option Text) (name : Text)
    (except : Option Text) : Bool :=
  store.folders.any fun f =>
    f.scope = scope ∧ f.parentId = parentId ∧ lower f.name = lower name ∧ some f.id ≠ except

def requireParent (scope : LibraryScope) : Option Text → Except AppError Unit
  | none => .ok ()
  | some parentId => do
    let parent ← store.getFolder parentId
    if parent.scope ≠ scope then
      .error (.invalidInput "A folder can only go inside a folder from the same list.".toList)
    else .ok ()

/-- Whether a folder is `folderId` or lies beneath it, as far up as a number of steps finds. -/
def climbs (folderId : Text) : Nat → Option Text → Bool
  | 0, _ => true
  | _ + 1, none => false
  | steps + 1, some id =>
    if id = folderId then true
    else climbs folderId steps ((store.folders.find? fun f => f.id = id).bind LibraryFolder.parentId)

def isSelfOrDescendant (folderId candidate : Text) : Bool :=
  store.climbs folderId 256 (some candidate)

def folderOf (scope : LibraryScope) (itemId : Text) : Option Text :=
  (store.placements.find? fun p => p.scope = scope ∧ p.itemId = itemId).map
    LibraryPlacement.folderId

def connectionExists (id : Text) : Bool := id ∈ store.connections

/-- The saved queries of a connection in a folder, or in none. -/
def queriesIn (connectionId folderId : Option Text) : List SavedQuery :=
  store.queries.filter fun q =>
    q.connectionId = connectionId ∧ store.folderOf .savedQuery q.id = folderId

def savedQueryNameTaken (connectionId folderId : Option Text) (name : Text)
    (exceptId : Option Text) : Bool :=
  (store.queriesIn connectionId folderId).any fun q =>
    lower (sqliteTrim q.name) = lower (sqliteTrim name) ∧ some q.id ≠ exceptId

def savedQueryNamesIn (connectionId folderId : Option Text) : List Text :=
  (store.queriesIn connectionId folderId).map SavedQuery.name

end Reads

section Folders

def createFolder (id : Text) (scope : LibraryScope) (parentId : Option Text) (name : Text) :
    Except AppError Store := do
  let name ← cleanFolderName name
  store.requireParent scope parentId
  if store.folderNameTaken scope parentId name none then
    .error (.invalidInput ("A folder named “".toList ++ name ++ "” already exists here.".toList))
  else .ok { store with folders := ⟨id, scope, parentId, name⟩ :: store.folders }

/-- A folder with another name. -/
def named (id name : Text) (f : LibraryFolder) : LibraryFolder :=
  if f.id = id then { f with name := name } else f

def renameFolder (id name : Text) : Except AppError Store := do
  let name ← cleanFolderName name
  let folder ← store.getFolder id
  if store.folderNameTaken folder.scope folder.parentId name (some id) then
    .error (.invalidInput ("A folder named “".toList ++ name ++ "” already exists here.".toList))
  else .ok { store with folders := store.folders.map (named id name) }

/-- A folder in another place. -/
def movedTo (id : Text) (parentId : Option Text) (f : LibraryFolder) : LibraryFolder :=
  if f.id = id then { f with parentId := parentId } else f

def moveFolder (id : Text) (parentId : Option Text) : Except AppError Store := do
  let folder ← store.getFolder id
  store.requireParent folder.scope parentId
  if parentId.any (store.isSelfOrDescendant id) then
    .error (.invalidInput
      "A folder cannot be moved into itself or one of its own folders.".toList)
  else if folder.parentId ≠ parentId ∧
      store.folderNameTaken folder.scope parentId folder.name (some id) = true then
    .error (.invalidInput
      ("A folder named “".toList ++ folder.name ++ "” already exists there.".toList))
  else .ok { store with folders := store.folders.map (movedTo id parentId) }

/-- A folder in the place of the folder above it, where that goes away. -/
def lifted (id : Text) (parentId : Option Text) (f : LibraryFolder) : LibraryFolder :=
  if f.parentId = some id then { f with parentId := parentId } else f

/-- A placement in the folder above its own, where its own goes away. -/
def liftedPlacements (id : Text) (placements : List LibraryPlacement) :
    Option Text → List LibraryPlacement
  | some parent =>
    placements.map fun p => if p.folderId = id then { p with folderId := parent } else p
  | none => placements.filter fun p => p.folderId ≠ id

def deleteFolder (id : Text) : Except AppError Store := do
  let folder ← store.getFolder id
  .ok { store with
    folders := (store.folders.map (lifted id folder.parentId)).filter fun f => f.id ≠ id
    placements := liftedPlacements id store.placements folder.parentId }

end Folders

section Placements

def clearPlacement (scope : LibraryScope) (itemId : Text) : Store :=
  { store with
    placements := store.placements.filter fun p => ¬(p.scope = scope ∧ p.itemId = itemId) }

/-- The placement of an item, in place of the one it had. -/
def file (scope : LibraryScope) (itemId folderId : Text) : Store :=
  { store with
    placements := ⟨scope, itemId, folderId⟩ :: (store.clearPlacement scope itemId).placements }

def placeItem (scope : LibraryScope) (itemId : Text) : Option Text → Except AppError Store
  | none => .ok (store.clearPlacement scope itemId)
  | some folderId => do
    let folder ← store.getFolder folderId
    if folder.scope ≠ scope then
      .error (.invalidInput "That folder belongs to a different list.".toList)
    else .ok (store.file scope itemId folderId)

/-- Whether an item may be placed there: a query where no other has its name, a document in
its own list. -/
def checkItem (scope : LibraryScope) (itemId : Text) (folderId : Option Text) :
    Except AppError Unit :=
  if scope = .savedQuery then do
    let query ← store.getSavedQuery itemId
    if store.savedQueryNameTaken query.connectionId folderId query.name (some itemId) then
      .error (.invalidInput ("A saved query named “".toList ++ trim query.name ++
        "” already exists in that folder.".toList))
    else .ok ()
  else do
    let doc ← store.getDocument itemId
    if LibraryScope.ofDocument doc.kind ≠ scope then
      .error (.invalidInput "That item is not in this list.".toList)
    else .ok ()

def moveItem (scope : LibraryScope) (itemId : Text) (folderId : Option Text) :
    Except AppError Store := do
  store.checkItem scope itemId folderId
  store.placeItem scope itemId folderId

end Placements

section Queries

/-- A row written over the one with its id. -/
def overwrite (row q : SavedQuery) : SavedQuery := if q.id = row.id then row else q

/-- The row that is written for a query, under a new id where it has none. -/
def rowOf (fresh : Text) (query : SavedQuery) : SavedQuery :=
  { query with
    id := if query.id = [] then fresh else query.id
    name := trim query.name }

def upsertSavedQuery (fresh : Text) (query : SavedQuery) : Store :=
  let row := rowOf fresh query
  { store with
    queries := if row.id ∈ store.queries.map SavedQuery.id then store.queries.map (overwrite row)
      else row :: store.queries }

def renameSavedQuery (id name : Text) : Except AppError Store :=
  if id ∈ store.queries.map SavedQuery.id then
    .ok { store with
      queries := store.queries.map fun q => if q.id = id then { q with name := trim name } else q }
  else .error (.notFound ("Saved query ".toList ++ id ++ " does not exist.".toList))

def deleteSavedQuery (id : Text) : Store :=
  { store.clearPlacement .savedQuery id with
    queries := store.queries.filter fun q => q.id ≠ id }

end Queries

section Documents

def createDocument (id : Text) (kind : DocumentKind) (name : Text) : Store :=
  { store with documents := ⟨id, kind, name, ()⟩ :: store.documents }

def deleteDocument (id : Text) : Store :=
  { store with
    placements := store.placements.filter fun p => ¬(p.scope ≠ .savedQuery ∧ p.itemId = id)
    documents := store.documents.filter fun d => d.id ≠ id }

end Documents

end Store

section CopyNames

/-- `str::rfind`. -/
def rfind (text : Text) (part : String) : Option Nat :=
  (List.range (text.length + 1)).reverse.find? fun i => startsWith (text.drop i) part

/-- The number in a copy's suffix, or nothing for a first copy. -/
def isCopyNumber (inner : Text) : Bool :=
  inner.isEmpty ||
    (startsWith inner " " && !(inner.drop 1).isEmpty && (inner.drop 1).all Char.isDigit)

def stripCopySuffix (name : Text) : Text :=
  match rfind name " (copy" with
  | none => name
  | some openAt =>
    let tail := name.drop (openAt + 6)
    if tail.getLast? = some ')' ∧ isCopyNumber tail.dropLast = true ∧ 0 < openAt then
      name.take openAt
    else name

variable (toLowercase : Text → Text)

/-- The first number from one on whose copy is not taken; `u32` ends the numbers. -/
def firstFree (root : Text) (isTaken : Text → Bool) : Nat → Nat → Option Text
  | 0, _ => none
  | left + 1, n =>
    let candidate := root ++ " (copy ".toList ++ decimal n ++ ")".toList
    if isTaken candidate then firstFree root isTaken left (n + 1) else some candidate

/-- `none` where the numbers end, and the search with them. -/
def copyName (base : Text) (taken : List Text) : Option Text :=
  let root := stripCopySuffix (trim base)
  let lowered := taken.map fun t => toLowercase (trim t)
  let isTaken := fun candidate => decide (toLowercase candidate ∈ lowered)
  let first := root ++ " (copy)".toList
  if isTaken first then firstFree root isTaken (2 ^ 32 - 2) 2 else some first

end CopyNames

section Services

variable (toLowercase : Text → Text) (store : Store)

def nameClash (name : Text) : AppError :=
  .invalidInput ("A saved query named “".toList ++ name ++
    "” already exists in this folder.".toList)

/-- What comes of an operation that may fail behind a change, and the store behind it. -/
def Store.settle (store : Store) : Except AppError Store → Except AppError Unit × Store
  | .ok next => (.ok (), next)
  | .error error => (.error error, store)

/-- The query with an id, if there is one that is not blank. -/
def Store.existing (store : Store) (id : Text) : Option SavedQuery :=
  if id = [] then none else store.queries.find? fun q => q.id = id

def Store.currentFolder (store : Store) (id : Text) : Option Text :=
  (store.existing id).bind fun found => store.folderOf .savedQuery found.id

/-- The folder that a save puts a query in. -/
def Store.targetFolder (store : Store) (id : Text) (folderId : Option Text) : Option Text :=
  folderId <|> store.currentFolder id

/-- Whether a save leaves the name and the place of a query as they are. -/
def Store.unchanged (store : Store) (query : SavedQuery) (name : Text) (folderId : Option Text) :
    Bool :=
  (store.existing query.id).any fun found =>
    toLowercase (trim found.name) = toLowercase name ∧ found.connectionId = query.connectionId ∧
      store.targetFolder query.id folderId = store.currentFolder query.id

/-- Whether a save may take the folder it is given. -/
def Store.checkFolder (store : Store) : Option Text → Except AppError Unit
  | none => .ok ()
  | some folder => do
    let target ← store.getFolder folder
    if target.scope ≠ .savedQuery then
      .error (.invalidInput "That folder belongs to a different list.".toList)
    else .ok ()

/-- The name that a save gives a query, if it may. -/
def Store.checkSave (store : Store) (query : SavedQuery) (folderId : Option Text) :
    Except AppError Text := do
  let name ← cleanName query.name
  store.checkFolder folderId
  if store.unchanged toLowercase query name folderId then .ok name
  else if store.savedQueryNameTaken query.connectionId (store.targetFolder query.id folderId) name
      ((store.existing query.id).map SavedQuery.id) then .error (nameClash name)
  else .ok name

def Store.save (fresh : Text) (query : SavedQuery) (folderId : Option Text) :
    Except AppError Unit × Store :=
  match store.checkSave toLowercase query folderId with
  | .error error => (.error error, store)
  | .ok name =>
    let query := { query with name := name }
    let saved := store.upsertSavedQuery fresh query
    match folderId with
    | none => (.ok (), saved)
    | some folder => saved.settle (saved.placeItem .savedQuery (Store.rowOf fresh query).id folder)

def Store.rename (id name : Text) : Except AppError Store := do
  let name ← cleanName name
  let current ← store.getSavedQuery id
  if store.savedQueryNameTaken current.connectionId (store.folderOf .savedQuery id) name
      (some id) then .error (nameClash name)
  else store.renameSavedQuery id name

/-- The connection that a copy goes to. -/
def copyConnection (original : SavedQuery) : Option Text → Option Text
  | some target => if some target = original.connectionId then original.connectionId else some target
  | none => original.connectionId

/-- Whether a copy goes to another connection. -/
def crosses (original : SavedQuery) (target : Option Text) : Bool :=
  target.any fun target => some target ≠ original.connectionId

/-- The name of a copy; `none` where none is found. -/
def Store.copyNamed (store : Store) (original : SavedQuery) (target explicit : Option Text) :
    Except AppError (Option Text) :=
  let folder := store.folderOf .savedQuery original.id
  let taken := store.savedQueryNamesIn (copyConnection original target) folder
  let isTaken := fun name => decide (toLowercase name ∈ taken.map fun t => toLowercase (trim t))
  match explicit with
  | some chosen => if isTaken chosen then .error (nameClash chosen) else .ok (some chosen)
  | none =>
    if crosses original target && !isTaken (trim original.name) then .ok (some original.name)
    else .ok (copyName toLowercase original.name taken)

/-- The query that is copied, and the name of its copy. -/
def Store.checkDuplicate (store : Store) (id : Text) (target name : Option Text) :
    Except AppError (SavedQuery × Option Text) := do
  let explicit ← name.mapM cleanName
  let original ← store.getSavedQuery id
  if crosses original target && !target.all store.connectionExists then
    .error (.notFound "The connection to copy to no longer exists.".toList)
  else do
    let name ← store.copyNamed toLowercase original target explicit
    .ok (original, name)

/-- `none` where the search for a name does not end. -/
def Store.duplicate (fresh id : Text) (target name : Option Text) :
    Option (Except AppError Unit × Store) :=
  match store.checkDuplicate toLowercase id target name with
  | .error error => some (.error error, store)
  | .ok (_, none) => none
  | .ok (original, some name) =>
    let copy : SavedQuery := ⟨[], copyConnection original target, name, original.sql⟩
    let copied := store.upsertSavedQuery fresh copy
    match store.folderOf .savedQuery id with
    | none => some (.ok (), copied)
    | some folder => some (copied.settle (copied.placeItem .savedQuery fresh folder))

end Services

end DbFree.Library
