import DbFree.DocumentVersions
import DbFree.Documents
import DbFree.Interleaving

/- Autosaves, checkpoints and restores of documents that take turns at the store, and what
their histories keep (services/document_versions.rs, services/documents.rs). -/
namespace DbFree.DocumentVersions

open Interleaving

/-- Bodies of documents and how they are written: as JSON, as the documents table holds
them, and back. -/
structure Bodies (Body : Type) where
  toJson : Body → Text
  toStored : Body → Text
  ofJson : Text → Option Body
  kindOf : Body → DocumentKind
  summarize : Body → Text

/-- A row of the documents table. -/
structure DocumentRow where
  kind : DocumentKind
  name : Text
  body : Text

structure Store where
  documents : Text → Option DocumentRow
  versions : Text → History

structure DocumentVersionSummary where
  documentId : Text
  version : Nat
  name : Option Text
  createdAt : Text
  summary : Text
deriving DecidableEq

section Code

variable {Body : Type} (bodies : Bodies Body)

def Store.getDocument (store : Store) (id : Text) : Except AppError (Document Body) :=
  let missing := AppError.notFound ("Document ".toList ++ id ++ " does not exist.".toList)
  match store.documents id with
  | none => .error missing
  | some row =>
    match bodies.ofJson row.body with
    | some body => .ok ⟨id, row.kind, row.name, body⟩
    | none => .error missing

def Store.getVersion (store : Store) (id : Text) (version : Nat) :
    Except AppError StoredVersion :=
  match (store.versions id).find? fun stored => stored.version = version with
  | some stored => .ok stored
  | none => .error (.notFound ("Version ".toList ++ decimal version ++ " of document ".toList ++
      id ++ " does not exist.".toList))

/-- A row that is there keeps its kind. -/
def Store.upsert (store : Store) (id : Text) (doc : Document Body) : Store :=
  let kind := ((store.documents id).map DocumentRow.kind).getD doc.kind
  let row : DocumentRow := ⟨kind, Texts.trim doc.name, bodies.toStored doc.body⟩
  { store with documents := Function.update store.documents id (some row) }

/-- Which write and which snapshot a call performs. -/
inductive Writer where
  | edit | restore
deriving DecidableEq

inductive Filing where
  | edit
  /-- The snapshots of a restore, before and after its write. -/
  | before | after
deriving DecidableEq

/-- The steps at the store. -/
inductive StoreOp (Body : Type) where
  | getVersion (id : Text) (version : Nat)
  | getDocument (id : Text)
  /-- Sealing the secrets of a workflow, which reads the stored workflows. -/
  | sealSecrets (doc : Document Body)
  | upsert (writer : Writer) (doc : Document Body)
  | file (filing : Filing) (id json : Text) (name : Option Text)

abbrev StoreOp.Answer : StoreOp Body → Type
  | .getVersion _ _ => Except AppError StoredVersion
  | .getDocument _ => Except AppError (Document Body)
  | .sealSecrets _ => Except AppError (Document Body)
  | .upsert _ _ => Except AppError (Document Body)
  | .file _ _ _ _ => Except AppError (Option StoredVersion)

abbrev Code (Body : Type) := Prog (StoreOp Body) StoreOp.Answer

/-- One step at the store. -/
def ask (op : StoreOp Body) : Code Body op.Answer := Prog.ask op

/-- `?`: the rest runs where nothing failed. -/
def orFail {α β : Type} (first : Code Body (Except AppError α))
    (next : α → Code Body (Except AppError β)) : Code Body (Except AppError β) :=
  first.bind fun answer =>
    match answer with
    | .ok value => next value
    | .error error => .done (.error error)

def summaryOf (stored : StoredVersion) : DocumentVersionSummary :=
  ⟨stored.documentId, stored.version, stored.name, stored.createdAt,
    match bodies.ofJson stored.body with
    | some body => bodies.summarize body
    | none => "Snapshot".toList⟩

/-- The name a version is filed under. -/
def versionName (name : Text) : Text :=
  let trimmed := Texts.trim name
  if trimmed.isEmpty then DEFAULT_CHECKPOINT_NAME else trimmed

/-- Files the body as a version; an automatic one that repeats the latest is not filed. -/
def snapshot (filing : Filing) (id : Text) (body : Body) (name : Option Text) :
    Code Body (Except AppError (Option DocumentVersionSummary)) :=
  orFail (ask (.file filing id (bodies.toJson body) (name.map versionName))) fun stored =>
    .done (.ok (stored.map (summaryOf bodies)))

def saveSealed (writer : Writer) (doc : Document Body) :
    Code Body (Except AppError (Document Body)) :=
  if doc.kind = .workflow then
    orFail (ask (.sealSecrets doc)) fun prepared => ask (.upsert writer prepared)
  else ask (.upsert writer doc)

/-- Saves a document after checking the body matches its declared kind. -/
def save (writer : Writer) (doc : Document Body) : Code Body (Except AppError (Document Body)) :=
  if (Texts.trim doc.name).isEmpty then .done (.error (.invalidInput "A name is required.".toList))
  else if bodies.kindOf doc.body ≠ doc.kind then
    .done (.error (.invalidInput "Document body does not match its kind.".toList))
  else saveSealed writer doc

/-- Refuses to write a document that is not in the store. -/
def ensureSavedOnce (doc : Document Body) (unsavedMessage : String) :
    Code Body (Except AppError Unit) :=
  if doc.id.isEmpty then .done (.error (.invalidInput unsavedMessage.toList))
  else orFail (ask (.getDocument doc.id)) fun _ => .done (.ok ())

/-- What a call gives back. -/
inductive Reply (Body : Type) where
  | document (doc : Document Body)
  | version (summary : DocumentVersionSummary)

def autosave (doc : Document Body) (takeVersion : Bool) : Code Body (Except AppError (Reply Body)) :=
  orFail (ensureSavedOnce doc "Save the document once before autosaving it.") fun _ =>
    orFail (save bodies .edit doc) fun saved =>
      if takeVersion then
        orFail (snapshot bodies .edit saved.id saved.body none) fun _ => .done (.ok (.document saved))
      else .done (.ok (.document saved))

def checkpoint (doc : Document Body) (name : Text) : Code Body (Except AppError (Reply Body)) :=
  orFail (ensureSavedOnce doc "Save the document once before taking a checkpoint.") fun _ =>
    orFail (save bodies .edit doc) fun saved =>
      orFail (snapshot bodies .edit saved.id saved.body (some name)) fun filed =>
        match filed with
        | some summary => .done (.ok (.version summary))
        | none => .done (.error (.internal "A checkpoint was not recorded.".toList))

/-- The rest of a restore, once the document is read. -/
def restoreOver (id : Text) (current : Document Body) (body : Body) :
    Code Body (Except AppError (Reply Body)) :=
  orFail (snapshot bodies .before id current.body none) fun _ =>
    orFail (save bodies .restore { current with body := body }) fun saved =>
      orFail (snapshot bodies .after id saved.body none) fun _ =>
        .done (.ok (.document saved))

def restore (id : Text) (version : Nat) : Code Body (Except AppError (Reply Body)) :=
  orFail (ask (.getVersion id version)) fun stored =>
    match bodies.ofJson stored.body with
    | none => .done (.error (.invalidInput ("Version ".toList ++ decimal version ++
        " can no longer be read".toList)))
    | some body => orFail (ask (.getDocument id)) fun current => restoreOver bodies id current body

inductive Call (Body : Type) where
  | autosave (doc : Document Body) (takeVersion : Bool)
  | checkpoint (doc : Document Body) (name : Text)
  | restore (id : Text) (version : Nat)

def program : Call Body → Code Body (Except AppError (Reply Body))
  | .autosave doc takeVersion => autosave bodies doc takeVersion
  | .checkpoint doc name => checkpoint bodies doc name
  | .restore id version => restore bodies id version

end Code

section Shared

variable {Body : Type}

/-- The body that a restore filed before its write, and how many automatic versions were
filed since. -/
structure Guard where
  id : Text
  json : Text
  since : Nat
deriving DecidableEq

/-- The end of a restore: the body its write replaced, and the history as it is then. -/
structure Finish where
  replaced : Text
  history : History
deriving DecidableEq

/-- The store that the calls share, and what has happened in the run so far. -/
structure Shared (Body : Type) where
  store : Store
  /-- Every version that was filed. -/
  filed : Text → History
  /-- The document that a thread read last. -/
  read : Nat → Option (Document Body)
  guard : Nat → Option Guard
  /-- The document and the body that the write of a thread's restore replaced. -/
  replaced : Nat → Option (Text × Text)
  finished : List Finish

/-- The surroundings of a step: whether the store fails, the time, and what sealing gives. -/
structure Surroundings (Body : Type) where
  fails : Option AppError
  now : Text
  fresh : Text
  sealedBody : Body

namespace Shared

def start (documents : Text → Option DocumentRow) : Shared Body where
  store := ⟨documents, fun _ => []⟩
  filed _ := []
  read _ := none
  guard _ := none
  replaced _ := none
  finished := []

/-- A guard, once a version of a document is filed. -/
def Guard.bump (id : Text) (stored : Option StoredVersion) (guard : Guard) : Guard :=
  if guard.id = id then
    { guard with since := guard.since + (stored.toList.filter StoredVersion.automatic).length }
  else guard

def record (shared : Shared Body) (id : Text) (stored : Option StoredVersion) (history : History) :
    Shared Body :=
  { shared with
    store := { shared.store with
      versions := Function.update shared.store.versions id history }
    filed := Function.update shared.filed id (shared.filed id ++ stored.toList)
    guard := fun thread => (shared.guard thread).map (Guard.bump id stored) }

/-- The first snapshot of a restore guards the body it filed. -/
def watch (shared : Shared Body) (thread : Nat) (filing : Filing) (id json : Text) : Shared Body :=
  if filing = .before then
    { shared with guard := Function.update shared.guard thread (some ⟨id, json, 0⟩) }
  else shared

/-- A restore ends behind its write: the body that the write replaced, and the history. -/
def finish (shared : Shared Body) (thread : Nat) : Shared Body :=
  match shared.replaced thread with
  | some (id, json) =>
    { shared with finished := shared.finished ++ [⟨json, shared.store.versions id⟩] }
  | none => shared

/-- The last snapshot of a restore ends it. -/
def close (shared : Shared Body) (thread : Nat) (filing : Filing) : Shared Body :=
  if filing = .after then shared.finish thread else shared

variable (bodies : Bodies Body)

def fileVersion (shared : Shared Body) (thread : Nat) (filing : Filing) (id json : Text)
    (name : Option Text) (now : Text) : Except AppError (Option StoredVersion) × Shared Body :=
  match (shared.store.versions id).file id json name now with
  | .error error => (.error error, shared.close thread filing)
  | .ok (stored, history) =>
    (.ok stored, ((shared.record id stored history).watch thread filing id json).close thread filing)

/-- The body in the store, as JSON. -/
def standing (shared : Shared Body) (id : Text) : Option Text :=
  (shared.store.documents id).bind fun row => (bodies.ofJson row.body).map bodies.toJson

/-- The write of a document, under a new id when it has none. -/
def write (shared : Shared Body) (thread : Nat) (writer : Writer) (id : Text)
    (doc : Document Body) : Shared Body :=
  { shared with
    store := shared.store.upsert bodies id doc
    replaced :=
      if writer = .restore then
        Function.update shared.replaced thread ((shared.standing bodies id).map fun json => (id, json))
      else shared.replaced }

/-- The write, and the row read again; a restore whose row cannot be read ends there. -/
def writeDocument (shared : Shared Body) (thread : Nat) (writer : Writer) (id : Text)
    (doc : Document Body) : Except AppError (Document Body) × Shared Body :=
  let written := shared.write bodies thread writer id doc
  match written.store.getDocument bodies id with
  | .ok saved => (.ok saved, written)
  | .error error =>
    (.error error, if writer = .restore then written.finish thread else written)

def readDocument (shared : Shared Body) (thread : Nat) (id : Text) :
    Except AppError (Document Body) × Shared Body :=
  match shared.store.getDocument bodies id with
  | .ok doc => (.ok doc, { shared with read := Function.update shared.read thread (some doc) })
  | .error error => (.error error, shared)

def exec (thread : Nat) (shared : Shared Body) :
    (op : StoreOp Body) → Surroundings Body → Option (op.Answer × Shared Body)
  | .getVersion id version, around =>
    match around.fails with
    | some error => some (.error error, shared)
    | none => some (shared.store.getVersion id version, shared)
  | .getDocument id, around =>
    match around.fails with
    | some error => some (.error error, shared)
    | none => some (shared.readDocument bodies thread id)
  | .sealSecrets doc, around =>
    match around.fails with
    | some error => some (.error error, shared)
    | none => some (.ok { doc with body := around.sealedBody }, shared)
  | .upsert writer doc, around =>
    match around.fails with
    | some error => some (.error error, shared)
    | none =>
      if doc.id.isEmpty then
        -- a new id is one that no document has
        if (shared.store.documents around.fresh).isSome then none
        else some (shared.writeDocument bodies thread writer around.fresh doc)
      else some (shared.writeDocument bodies thread writer doc.id doc)
  | .file filing id json name, around =>
    match around.fails with
    | some error => some (.error error, shared.close thread filing)
    | none => some (shared.fileVersion thread filing id json name around.now)

end Shared

end Shared

section Kept

variable {Body : Type} (bodies : Bodies Body)

/-- The automatic versions kept are the newest of those filed, checkpoints are all kept, and
the body that a restore replaced is in the history at its end. -/
structure WorkKept (shared : Shared Body) : Prop where
  automatic : ∀ id, (shared.store.versions id).filter StoredVersion.automatic =
    History.newest KEEP_AUTOMATIC ((shared.filed id).filter StoredVersion.automatic)
  named : ∀ id, (shared.store.versions id).filter (fun stored => !stored.automatic) =
    (shared.filed id).filter fun stored => !stored.automatic
  restored : ∀ finish ∈ shared.finished, ∃ stored ∈ finish.history, stored.body = finish.replaced

/-- Too few automatic versions were filed since the thread's restore began to prune what
its first snapshot filed, with one more to come. -/
def FewSince (shared : Shared Body) (thread : Nat) : Prop :=
  ∀ guard, shared.guard thread = some guard → guard.since + 1 < KEEP_AUTOMATIC

/-- A restore writes over the body it has read, and ends before too many versions of other
calls are filed. -/
def RestoresOver (thread : Nat) (shared : Shared Body) (op : StoreOp Body)
    (_ : Surroundings Body) : Prop :=
  match op with
  | .upsert .restore doc =>
    (∀ read, shared.read thread = some read →
      shared.standing bodies doc.id = some (bodies.toJson read.body)) ∧ FewSince shared thread
  | .file .after _ _ _ => FewSince shared thread
  | _ => True

instance (shared : Shared Body) (thread : Nat) : Decidable (FewSince shared thread) :=
  inferInstanceAs (Decidable (∀ guard ∈ shared.guard thread, _))

instance (thread : Nat) (shared : Shared Body) : (op : StoreOp Body) → (around : Surroundings Body) →
    Decidable (RestoresOver bodies thread shared op around)
  | .upsert .restore _, _ =>
    inferInstanceAs (Decidable ((∀ read ∈ shared.read thread, _) ∧ _))
  | .file .after _ _ _, _ => inferInstanceAs (Decidable (FewSince shared thread))
  | .upsert .edit _, _ | .file .edit _ _ _, _ | .file .before _ _ _, _ | .getVersion _ _, _
  | .getDocument _, _ | .sealSecrets _, _ => isTrue trivial

structure Shared.Kept (shared : Shared Body) : Prop extends WorkKept shared where
  ascending : ∀ id, Ascending (shared.store.versions id)
  guarded : ∀ thread guard, shared.guard thread = some guard → guard.since < KEEP_AUTOMATIC →
    ∃ stored ∈ shared.store.versions guard.id, stored.body = guard.json ∧
      (stored.automatic = true → newer (shared.store.versions guard.id) stored ≤ guard.since)

section Record

variable (shared : Shared Body) (id : Text) (stored : Option StoredVersion) (history : History)

@[simp]
theorem record_versions_self :
    (shared.record id stored history).store.versions id = history := Function.update_self ..

@[simp]
theorem record_filed_self :
    (shared.record id stored history).filed id = shared.filed id ++ stored.toList :=
  Function.update_self ..

theorem record_versions_other {other : Text} (different : other ≠ id) :
    (shared.record id stored history).store.versions other = shared.store.versions other :=
  Function.update_of_ne different ..

theorem record_filed_other {other : Text} (different : other ≠ id) :
    (shared.record id stored history).filed other = shared.filed other :=
  Function.update_of_ne different ..

end Record

namespace Shared.Kept

variable {shared : Shared Body}

theorem start (documents : Text → Option DocumentRow) :
    (Shared.start documents : Shared Body).Kept where
  automatic := fun _ => rfl
  named := fun _ => rfl
  restored := by simp [Shared.start]
  ascending := fun _ => List.Pairwise.nil
  guarded := by simp [Shared.start]

theorem few_automatic (kept : shared.Kept) (id : Text) :
    ((shared.store.versions id).filter StoredVersion.automatic).length ≤ KEEP_AUTOMATIC := by
  rw [kept.automatic id]
  exact newest_length _ _

theorem record (kept : shared.Kept) {id json now : Text} {name : Option Text}
    {stored : Option StoredVersion} {history : History}
    (filed : (shared.store.versions id).file id json name now = .ok (stored, history)) :
    (shared.record id stored history).Kept where
  automatic := by
    intro other
    by_cases same : other = id
    · subst same
      rw [record_versions_self, record_filed_self, List.filter_append,
        file_automatic (kept.ascending other) filed (kept.few_automatic other), kept.automatic other]
      cases stored with
      | none =>
        rw [Option.toList_none, List.filter_nil, List.append_nil, List.append_nil,
          newest_of_short (newest_length _ _)]
      | some stored =>
        rw [Option.toList_some, List.filter_cons]
        split
        · exact newest_snoc _ _ _
        · rw [List.filter_nil, List.append_nil, List.append_nil,
            newest_of_short (newest_length _ _)]
    · rw [record_versions_other _ _ _ _ same, record_filed_other _ _ _ _ same]
      exact kept.automatic other
  named := by
    intro other
    by_cases same : other = id
    · subst same
      rw [record_versions_self, record_filed_self, List.filter_append, file_named filed,
        kept.named other]
    · rw [record_versions_other _ _ _ _ same, record_filed_other _ _ _ _ same]
      exact kept.named other
  restored := kept.restored
  ascending := by
    intro other
    by_cases same : other = id
    · subst same
      rw [record_versions_self]
      exact file_ascending (kept.ascending other) filed
    · rw [record_versions_other _ _ _ _ same]
      exact kept.ascending other
  guarded := by
    intro thread bumped found few
    obtain ⟨guard, before, rfl⟩ := Option.map_eq_some_iff.mp found
    rw [Guard.bump] at few ⊢
    split at few
    · rename_i same
      rw [if_pos same]
      obtain ⟨held, member, body, count⟩ := kept.guarded thread guard before (by
        exact Nat.lt_of_le_of_lt (Nat.le_add_right _ _) few)
      rw [same] at member count
      obtain ⟨there, counted⟩ := mem_file (kept.ascending id) filed member count few
      rw [same, record_versions_self]
      exact ⟨held, there, body, counted⟩
    · rename_i other
      rw [if_neg other]
      rw [record_versions_other _ _ _ _ other]
      exact kept.guarded thread guard before few

theorem watch (kept : shared.Kept) (thread : Nat) (filing : Filing) {id json : Text}
    (held : ∃ stored ∈ shared.store.versions id, stored.body = json ∧
      newer (shared.store.versions id) stored = 0) : (shared.watch thread filing id json).Kept := by
  rw [Shared.watch]
  split
  · refine ⟨⟨kept.automatic, kept.named, kept.restored⟩, kept.ascending, ?_⟩
    intro other guard found few
    have found : Function.update shared.guard thread (some ⟨id, json, 0⟩) other = some guard := found
    by_cases same : other = thread
    · rw [same, Function.update_self] at found
      obtain rfl := Option.some.inj found
      obtain ⟨stored, member, body, none_newer⟩ := held
      exact ⟨stored, member, body, fun _ => Nat.le_of_eq none_newer⟩
    · rw [Function.update_of_ne same] at found
      exact kept.guarded other guard found few
  · exact kept

theorem finish (kept : shared.Kept) {thread : Nat}
    (held : ∀ id json, shared.replaced thread = some (id, json) →
      ∃ stored ∈ shared.store.versions id, stored.body = json) : (shared.finish thread).Kept := by
  rw [Shared.finish]
  split
  · rename_i id json replaced
    refine ⟨⟨kept.automatic, kept.named, ?_⟩, kept.ascending, kept.guarded⟩
    intro finish member
    rcases List.mem_append.mp member with old | new
    · exact kept.restored finish old
    · rw [List.mem_singleton.mp new]
      exact held id json replaced
  · exact kept

/-- A thread whose replaced body is guarded has it in the history. -/
theorem held (kept : shared.Kept) {thread : Nat}
    (guards : ∀ id json, shared.replaced thread = some (id, json) →
      ∃ since, shared.guard thread = some ⟨id, json, since⟩)
    (few : ∀ guard, shared.guard thread = some guard → guard.since < KEEP_AUTOMATIC) :
    ∀ id json, shared.replaced thread = some (id, json) →
      ∃ stored ∈ shared.store.versions id, stored.body = json := by
  intro id json replaced
  obtain ⟨since, guard⟩ := guards id json replaced
  obtain ⟨stored, member, body, -⟩ := kept.guarded thread _ guard (few _ guard)
  exact ⟨stored, member, body⟩

end Shared.Kept

section Steps

variable (thread : Nat) (shared : Shared Body)

theorem finish_keeps (shared : Shared Body) (thread : Nat) :
    (shared.finish thread).read = shared.read ∧ (shared.finish thread).guard = shared.guard ∧
      (shared.finish thread).replaced = shared.replaced := by
  rw [Shared.finish]
  split
  · exact ⟨rfl, rfl, rfl⟩
  · exact ⟨rfl, rfl, rfl⟩

theorem close_keeps (shared : Shared Body) (thread : Nat) (filing : Filing) :
    (shared.close thread filing).read = shared.read ∧
      (shared.close thread filing).guard = shared.guard ∧
      (shared.close thread filing).replaced = shared.replaced := by
  rw [Shared.close]
  split
  · exact finish_keeps shared thread
  · exact ⟨rfl, rfl, rfl⟩

/-- A guard stays on its body while versions are filed. -/
theorem bump_guards {id json other : Text} {since : Nat} (stored : Option StoredVersion) :
    ∃ more, Shared.Guard.bump other stored ⟨id, json, since⟩ = ⟨id, json, more⟩ := by
  rw [Shared.Guard.bump]
  split
  · exact ⟨_, rfl⟩
  · exact ⟨_, rfl⟩

/-- The guard of a thread is on a body. -/
def Guards (id json : Text) (shared : Shared Body) : Prop :=
  ∃ since, shared.guard thread = some ⟨id, json, since⟩

/-- What a thread's write replaced is guarded. -/
def ReplacedGuarded (shared : Shared Body) : Prop :=
  ∀ id json, shared.replaced thread = some (id, json) → Guards thread id json shared

variable {thread}

theorem record_guards {id json other : Text} {stored : Option StoredVersion} {history : History}
    {shared : Shared Body} (guards : Guards thread id json shared) :
    Guards thread id json (shared.record other stored history) := by
  obtain ⟨since, guard⟩ := guards
  obtain ⟨more, bumped⟩ := bump_guards stored
  refine ⟨more, ?_⟩
  show (shared.guard thread).map _ = _
  rw [guard, Option.map_some, bumped]

variable {shared} {bodies}

/-- What a filing does to the notes of a thread: it may move the thread's guard. -/
theorem fileVersion_ok {filing : Filing} {id json now : Text} {name : Option Text}
    {stored : Option StoredVersion} {next : Shared Body}
    (performed : shared.fileVersion thread filing id json name now = (.ok stored, next)) :
    ∃ history, (shared.store.versions id).file id json name now = .ok (stored, history) ∧
      next = ((shared.record id stored history).watch thread filing id json).close thread
        filing := by
  rw [Shared.fileVersion] at performed
  split at performed
  · cases performed
  · cases performed
    exact ⟨_, ‹_›, rfl⟩

theorem fileVersion_error {filing : Filing} {id json now : Text} {name : Option Text}
    {error : AppError} {next : Shared Body}
    (performed : shared.fileVersion thread filing id json name now = (.error error, next)) :
    next = shared.close thread filing := by
  rw [Shared.fileVersion] at performed
  split at performed
  · cases performed
    rfl
  · cases performed

theorem watch_other {other : Nat} (different : thread ≠ other) (filing : Filing) (id json : Text)
    (shared : Shared Body) :
    (shared.watch other filing id json).guard thread = shared.guard thread ∧
      (shared.watch other filing id json).read = shared.read ∧
      (shared.watch other filing id json).replaced = shared.replaced := by
  rw [Shared.watch]
  split
  · exact ⟨Function.update_of_ne different .., rfl, rfl⟩
  · exact ⟨rfl, rfl, rfl⟩

/-- What a step of another thread leaves of a thread's notes. -/
structure Untouched (thread : Nat) (shared next : Shared Body) : Prop where
  read : next.read thread = shared.read thread
  guards : ∀ id json, Guards thread id json shared → Guards thread id json next
  replaced : next.replaced thread = shared.replaced thread

theorem untouched_fileVersion {other : Nat} (different : thread ≠ other) {filing : Filing}
    {id json now : Text} {name : Option Text} {answer : Except AppError (Option StoredVersion)}
    {next : Shared Body}
    (performed : shared.fileVersion other filing id json name now = (answer, next)) :
    Untouched thread shared next := by
  cases answer with
  | error error =>
    rw [fileVersion_error performed]
    obtain ⟨read, guard, replaced⟩ := close_keeps shared other filing
    exact ⟨by rw [read], fun id json ⟨since, found⟩ => ⟨since, by rw [guard, found]⟩,
      by rw [replaced]⟩
  | ok stored =>
    obtain ⟨history, -, rfl⟩ := fileVersion_ok performed
    obtain ⟨read, guard, replaced⟩ := close_keeps
      ((shared.record id stored history).watch other filing id json) other filing
    obtain ⟨watched, watched_read, watched_replaced⟩ :=
      watch_other different filing id json (shared.record id stored history)
    refine ⟨by rw [read, watched_read]; rfl, ?_, by rw [replaced, watched_replaced]; rfl⟩
    intro own body guards
    have recorded : Guards thread own body (shared.record id stored history) := record_guards guards
    obtain ⟨since, found⟩ := recorded
    exact ⟨since, by rw [guard, watched, found]⟩

theorem Untouched.refl (shared : Shared Body) : Untouched thread shared shared :=
  ⟨rfl, fun _ _ guards => guards, rfl⟩

theorem untouched_finish {other : Nat} {next : Shared Body}
    (untouched : Untouched thread shared next) : Untouched thread shared (next.finish other) := by
  obtain ⟨read, guard, replaced⟩ := finish_keeps next other
  refine ⟨by rw [read, untouched.read], ?_, by rw [replaced, untouched.replaced]⟩
  intro id json guards
  obtain ⟨since, found⟩ := untouched.guards id json guards
  exact ⟨since, by rw [guard, found]⟩

theorem untouched_write {other : Nat} (different : thread ≠ other) (writer : Writer) (id : Text)
    (doc : Document Body) : Untouched thread shared (shared.write bodies other writer id doc) := by
  refine ⟨rfl, fun _ _ guards => guards, ?_⟩
  simp only [Shared.write]
  split
  · exact Function.update_of_ne different ..
  · rfl

theorem untouched_writeDocument {other : Nat} (different : thread ≠ other) {writer : Writer}
    {id : Text} {doc : Document Body} {answer : Except AppError (Document Body)}
    {next : Shared Body}
    (performed : shared.writeDocument bodies other writer id doc = (answer, next)) :
    Untouched thread shared next := by
  rw [Shared.writeDocument] at performed
  have written : Untouched thread shared (shared.write bodies other writer id doc) :=
    untouched_write different writer id doc
  split at performed
  · cases performed
    exact written
  · cases performed
    split
    · exact untouched_finish written
    · exact written

theorem exec_untouched {other : Nat} (different : thread ≠ other) {op : StoreOp Body}
    {around : Surroundings Body} {answer : op.Answer} {next : Shared Body}
    (performed : Shared.exec bodies other shared op around = some (answer, next)) :
    Untouched thread shared next := by
  cases op with
  | getVersion id version =>
    rw [Shared.exec] at performed
    split at performed <;> (cases performed; exact Untouched.refl shared)
  | getDocument id =>
    rw [Shared.exec] at performed
    split at performed
    · cases performed
      exact Untouched.refl shared
    · have read := Option.some.inj performed
      rw [Shared.readDocument] at read
      split at read
      · cases read
        exact ⟨Function.update_of_ne different .., fun _ _ guards => guards, rfl⟩
      · cases read
        exact Untouched.refl shared
  | sealSecrets doc =>
    rw [Shared.exec] at performed
    split at performed <;> (cases performed; exact Untouched.refl shared)
  | upsert writer doc =>
    rw [Shared.exec] at performed
    split at performed
    · cases performed
      exact Untouched.refl shared
    · split at performed
      · split at performed
        · cases performed
        · exact untouched_writeDocument different (Option.some.inj performed)
      · exact untouched_writeDocument different (Option.some.inj performed)
  | file filing id json name =>
    rw [Shared.exec] at performed
    split at performed
    · cases performed
      obtain ⟨read, guard, replaced⟩ := close_keeps shared other filing
      exact ⟨by rw [read], fun id json ⟨since, found⟩ => ⟨since, by rw [guard, found]⟩,
        by rw [replaced]⟩
    · exact untouched_fileVersion different (Option.some.inj performed)

end Steps

section Keeping

variable {bodies} {shared : Shared Body} {thread : Nat}

/-- What a filing needs of the thread that performs it, when it is the last one of a restore. -/
def Closes (filing : Filing) (thread : Nat) (shared : Shared Body) : Prop :=
  filing = .after → ReplacedGuarded thread shared ∧ FewSince shared thread

theorem kept_close (kept : shared.Kept) {filing : Filing}
    (held : filing = .after → ∀ id json, shared.replaced thread = some (id, json) →
      ∃ stored ∈ shared.store.versions id, stored.body = json) :
    (shared.close thread filing).Kept := by
  rw [Shared.close]
  split
  · exact kept.finish (held ‹_›)
  · exact kept

theorem kept_fileVersion (kept : shared.Kept) {filing : Filing} (closes : Closes filing thread shared)
    {id json now : Text} {name : Option Text} {answer : Except AppError (Option StoredVersion)}
    {next : Shared Body}
    (performed : shared.fileVersion thread filing id json name now = (answer, next)) :
    next.Kept := by
  cases answer with
  | error error =>
    rw [fileVersion_error performed]
    refine kept_close kept fun after => ?_
    obtain ⟨guards, few⟩ := closes after
    exact kept.held guards fun guard found => Nat.lt_of_succ_lt (few guard found)
  | ok stored =>
    obtain ⟨history, filed, rfl⟩ := fileVersion_ok performed
    have recorded := kept.record filed
    have latest : ∃ held ∈ (shared.record id stored history).store.versions id, held.body = json ∧
        newer ((shared.record id stored history).store.versions id) held = 0 := by
      rw [record_versions_self]
      exact file_latest (kept.ascending id) filed
    refine kept_close (recorded.watch thread filing latest) ?_
    intro after
    obtain ⟨guards, few⟩ := closes after
    have unwatched : (shared.record id stored history).watch thread filing id json =
        shared.record id stored history := by
      rw [Shared.watch, after]
      exact if_neg (by decide)
    rw [unwatched]
    refine recorded.held (fun own body replaced => record_guards (guards own body replaced)) ?_
    intro bumped found
    obtain ⟨guard, before, rfl⟩ := Option.map_eq_some_iff.mp found
    have room := few guard before
    have one : (stored.toList.filter StoredVersion.automatic).length ≤ 1 :=
      (List.length_filter_le _ _).trans (by cases stored <;> simp)
    rw [Shared.Guard.bump]
    split
    · exact Nat.lt_of_le_of_lt (Nat.add_le_add_left one _) room
    · exact Nat.lt_of_succ_lt room

theorem kept_write (kept : shared.Kept) (writer : Writer) (id : Text) (doc : Document Body) :
    (shared.write bodies thread writer id doc).Kept :=
  ⟨⟨kept.automatic, kept.named, kept.restored⟩, kept.ascending, kept.guarded⟩

theorem kept_writeDocument (kept : shared.Kept) {writer : Writer} {id : Text} {doc : Document Body}
    (guards : writer = .restore → ∀ json, shared.standing bodies id = some json →
      Guards thread id json shared)
    (few : writer = .restore → FewSince shared thread)
    {answer : Except AppError (Document Body)} {next : Shared Body}
    (performed : shared.writeDocument bodies thread writer id doc = (answer, next)) :
    next.Kept ∧ (writer = .restore → ReplacedGuarded thread next) := by
  have written : (shared.write bodies thread writer id doc).Kept := kept_write kept writer id doc
  have replaced : writer = .restore →
      ReplacedGuarded thread (shared.write bodies thread writer id doc) := by
    rintro rfl own json found
    have found : Function.update shared.replaced thread
        ((shared.standing bodies id).map fun json => (id, json)) thread = some (own, json) := found
    rw [Function.update_self] at found
    obtain ⟨_, standing, same⟩ := Option.map_eq_some_iff.mp found
    cases same
    exact guards rfl json standing
  rw [Shared.writeDocument] at performed
  split at performed
  · cases performed
    exact ⟨written, replaced⟩
  · cases performed
    split
    · rename_i restores
      refine ⟨written.finish (written.held (replaced restores) ?_), ?_⟩
      · intro guard found
        exact Nat.lt_of_succ_lt (few restores guard found)
      · intro _ own json found
        obtain ⟨-, guard, same⟩ := finish_keeps (shared.write bodies thread writer id doc) thread
        rw [same] at found
        obtain ⟨since, guarded⟩ := replaced restores own json found
        exact ⟨since, by rw [guard, guarded]⟩
    · exact ⟨written, fun restores => absurd restores ‹_›⟩

end Keeping

section Programs

/-- What a thread proves of its code under the condition on restores. -/
abbrev Proves (thread : Nat) {α : Type} (code : Code Body α) (known : Shared Body → Prop)
    (result : α → Shared Body → Prop) : Prop :=
  Verified (Shared.exec bodies) Shared.Kept (RestoresOver bodies) thread code known result

variable {bodies} {thread : Nat}

theorem proves_orFail {α β : Type} {first : Code Body (Except AppError α)}
    {next : α → Code Body (Except AppError β)} {known : Shared Body → Prop}
    {middle : Except AppError α → Shared Body → Prop}
    (begins : Proves bodies thread first known middle)
    (later : ∀ value, Proves bodies thread (next value) (middle (.ok value)) fun _ _ => True) :
    Proves bodies thread (orFail first next) known fun _ _ => True := by
  refine Verified.bind begins fun answer => ?_
  cases answer with
  | ok value => exact later value
  | error error => exact fun _ _ _ => trivial

/-- Knowledge that rests on the notes of the thread alone. -/
def Noted (thread : Nat) (known : Shared Body → Prop) : Prop :=
  ∀ shared next, Untouched thread shared next → known shared → known next

theorem noted_stable {known : Shared Body → Prop} (noted : Noted thread known) :
    Stable (Shared.exec bodies) Shared.Kept (RestoresOver bodies) thread known :=
  fun _ different shared _ _ _ next _ holds _ performed =>
    noted shared next (exec_untouched (Ne.symm different) performed) holds

theorem proves_ask {op : StoreOp Body} {known : Shared Body → Prop}
    {result : op.Answer → Shared Body → Prop} (noted : Noted thread known)
    (performs : Performs (Shared.exec bodies) Shared.Kept (RestoresOver bodies) thread known op
      result) : Proves bodies thread (ask op) known result :=
  Verified.ask (noted_stable noted) performs

theorem noted_true : Noted thread fun _ : Shared Body => True := fun _ _ _ _ => trivial

theorem reads_keep {known : Shared Body → Prop} (noted : Noted thread known) (id : Text)
    (version : Nat) : Proves bodies thread (ask (.getVersion id version)) known fun _ => known := by
  refine proves_ask noted ?_
  intro shared around answer next kept holds _ performed
  rw [Shared.exec] at performed
  split at performed <;> (cases performed; exact ⟨kept, holds⟩)

theorem sealing_keeps {known : Shared Body → Prop} (noted : Noted thread known)
    (doc : Document Body) : Proves bodies thread (ask (.sealSecrets doc)) known fun answer shared =>
      known shared ∧ ∀ prepared, answer = .ok prepared → prepared.id = doc.id := by
  refine proves_ask noted ?_
  intro shared around answer next kept holds _ performed
  rw [Shared.exec] at performed
  split at performed
  · cases performed
    exact ⟨kept, holds, by rintro _ ⟨⟩⟩
  · cases performed
    refine ⟨kept, holds, ?_⟩
    rintro _ ⟨⟩
    rfl

theorem document_read (id : Text) :
    Proves bodies thread (ask (.getDocument id)) (fun _ => True) fun answer shared =>
      ∀ doc, answer = .ok doc → shared.read thread = some doc ∧ doc.id = id := by
  refine proves_ask noted_true ?_
  intro shared around answer next kept _ _ performed
  rw [Shared.exec] at performed
  split at performed
  · cases performed
    exact ⟨kept, by rintro _ ⟨⟩⟩
  · have read := Option.some.inj performed
    rw [Shared.readDocument] at read
    split at read
    · rename_i doc found
      cases read
      refine ⟨⟨⟨kept.automatic, kept.named, kept.restored⟩, kept.ascending, kept.guarded⟩, ?_⟩
      rintro _ ⟨⟩
      refine ⟨Function.update_self .., ?_⟩
      rw [Store.getDocument] at found
      split at found
      · cases found
      · split at found
        · cases found
          rfl
        · cases found
    · cases read
      exact ⟨kept, by rintro _ ⟨⟩⟩

theorem edit_written (doc : Document Body) :
    Proves bodies thread (ask (.upsert .edit doc)) (fun _ => True) fun _ _ => True := by
  refine proves_ask noted_true ?_
  intro shared around answer next kept _ _ performed
  rw [Shared.exec] at performed
  have written : ∀ id, shared.writeDocument bodies thread .edit id doc = (answer, next) →
      next.Kept :=
    fun id performed => (kept_writeDocument kept (by rintro ⟨⟩) (by rintro ⟨⟩) performed).1
  split at performed
  · cases performed
    exact ⟨kept, trivial⟩
  · split at performed
    · split at performed
      · cases performed
      · exact ⟨written _ (Option.some.inj performed), trivial⟩
    · exact ⟨written _ (Option.some.inj performed), trivial⟩

theorem edit_filed (id json : Text) (name : Option Text) :
    Proves bodies thread (ask (.file .edit id json name)) (fun _ => True) fun _ _ => True := by
  refine proves_ask noted_true ?_
  intro shared around answer next kept _ _ performed
  rw [Shared.exec] at performed
  split at performed
  · cases performed
    exact ⟨kept, trivial⟩
  · exact ⟨kept_fileVersion kept (by rintro ⟨⟩) (Option.some.inj performed), trivial⟩

/-- Before its write a restore has filed the body it read. -/
def Filed (thread : Nat) (id json : Text) (doc : Document Body) (shared : Shared Body) : Prop :=
  shared.read thread = some doc ∧ Guards thread id json shared

theorem filed_noted (id json : Text) (doc : Document Body) : Noted thread (Filed thread id json doc) :=
  fun _ _ untouched holds =>
    ⟨untouched.read.trans holds.1, untouched.guards id json holds.2⟩

theorem read_noted (doc : Document Body) :
    Noted thread fun shared : Shared Body => shared.read thread = some doc :=
  fun _ _ untouched holds => untouched.read.trans holds

theorem replaced_noted : Noted thread (ReplacedGuarded thread : Shared Body → Prop) := by
  intro shared next untouched guards id json found
  rw [untouched.replaced] at found
  exact untouched.guards id json (guards id json found)

theorem before_filed (id json : Text) (doc : Document Body) :
    Proves bodies thread (ask (.file .before id json none))
      (fun shared => shared.read thread = some doc) fun answer shared =>
        ∀ stored, answer = .ok stored → Filed thread id json doc shared := by
  refine proves_ask (read_noted doc) ?_
  intro shared around answer next kept holds _ performed
  rw [Shared.exec] at performed
  split at performed
  · cases performed
    exact ⟨kept, by rintro _ ⟨⟩⟩
  · have performed := Option.some.inj performed
    refine ⟨kept_fileVersion kept (by rintro ⟨⟩) performed, ?_⟩
    rintro stored rfl
    obtain ⟨history, -, rfl⟩ := fileVersion_ok performed
    exact ⟨holds, 0, Function.update_self ..⟩

theorem restore_written (doc current : Document Body) :
    Proves bodies thread (ask (.upsert .restore doc))
      (Filed thread doc.id (bodies.toJson current.body) current) fun answer shared =>
        ∀ saved, answer = .ok saved → ReplacedGuarded thread shared := by
  refine proves_ask (filed_noted _ _ _) ?_
  intro shared around answer next kept holds condition performed
  obtain ⟨same, few⟩ := condition
  have standing := same current holds.1
  have written : ∀ id, (∀ json, shared.standing bodies id = some json →
      Guards thread id json shared) →
      shared.writeDocument bodies thread .restore id doc = (answer, next) →
        next.Kept ∧ ∀ saved, answer = .ok saved → ReplacedGuarded thread next := by
    intro id guards performed
    obtain ⟨kept, replaced⟩ := kept_writeDocument kept (fun _ => guards) (fun _ => few) performed
    exact ⟨kept, fun _ _ => replaced rfl⟩
  rw [Shared.exec] at performed
  split at performed
  · cases performed
    exact ⟨kept, by rintro _ ⟨⟩⟩
  · split at performed
    · split at performed
      · cases performed
      · rename_i taken
        -- no body stands under a new id
        refine written around.fresh ?_ (Option.some.inj performed)
        intro json there
        rw [Shared.standing] at there
        rw [Bool.not_eq_true, Option.isSome_eq_false_iff, Option.isNone_iff_eq_none] at taken
        rw [taken] at there
        cases there
    · refine written doc.id ?_ (Option.some.inj performed)
      intro json there
      rw [standing] at there
      rw [← Option.some.inj there]
      exact holds.2

theorem after_filed (id json : Text) :
    Proves bodies thread (ask (.file .after id json none)) (ReplacedGuarded thread)
      fun _ _ => True := by
  refine proves_ask replaced_noted ?_
  intro shared around answer next kept guards condition performed
  have closes : Closes .after thread shared := fun _ => ⟨guards, condition⟩
  rw [Shared.exec] at performed
  split at performed
  · cases performed
    refine ⟨kept_close kept fun after => kept.held guards fun guard found => ?_, trivial⟩
    exact Nat.lt_of_succ_lt (condition guard found)
  · exact ⟨kept_fileVersion kept closes (Option.some.inj performed), trivial⟩

theorem proves_done {α : Type} (value : α) (known : Shared Body → Prop) :
    Proves bodies thread (.done value : Code Body α) known fun _ _ => True :=
  fun _ _ _ => trivial

theorem snapshot_proves {filing : Filing} {id : Text} {body : Body} {name : Option Text}
    {known : Shared Body → Prop}
    {result : Except AppError (Option DocumentVersionSummary) → Shared Body → Prop}
    {filed : Except AppError (Option StoredVersion) → Shared Body → Prop}
    (files : Proves bodies thread
      (ask (.file filing id (bodies.toJson body) (name.map versionName))) known filed)
    (gives : ∀ answer shared, filed answer shared →
      result (answer.map fun stored => stored.map (summaryOf bodies)) shared) :
    Proves bodies thread (snapshot bodies filing id body name) known result := by
  refine Verified.bind files fun answer => ?_
  cases answer with
  | error error => exact fun shared _ holds => gives _ _ holds
  | ok stored => exact fun shared _ holds => gives _ _ holds

/-- A document that is saved goes through one write, of its own id. -/
theorem save_proves {writer : Writer} {doc : Document Body} {known : Shared Body → Prop}
    {result : Except AppError (Document Body) → Shared Body → Prop} (noted : Noted thread known)
    (refused : ∀ error shared, result (.error error) shared)
    (writes : ∀ prepared : Document Body, prepared.id = doc.id →
      Proves bodies thread (ask (.upsert writer prepared)) known result) :
    Proves bodies thread (save bodies writer doc) known result := by
  rw [save]
  split
  · exact fun shared _ _ => refused _ shared
  · split
    · exact fun shared _ _ => refused _ shared
    · rw [saveSealed]
      split
      · refine Verified.bind (sealing_keeps noted doc) fun answer => ?_
        cases answer with
        | error error => exact fun shared _ _ => refused _ shared
        | ok prepared =>
          have named : Proves bodies thread (ask (.upsert writer prepared))
              (fun shared => known shared ∧ prepared.id = doc.id) result :=
            Verified.assuming (writes prepared)
          exact named.of_known fun _ _ holds => ⟨holds.1, holds.2 prepared rfl⟩
      · exact writes doc rfl

theorem ensured (doc : Document Body) (unsavedMessage : String) :
    Proves bodies thread (ensureSavedOnce doc unsavedMessage) (fun _ => True) fun _ _ => True := by
  rw [ensureSavedOnce]
  split
  · exact proves_done _ _
  · exact proves_orFail ((document_read doc.id).gives fun _ _ _ _ => trivial) fun _ =>
      proves_done _ _

theorem edit_saved (doc : Document Body) :
    Proves bodies thread (save bodies .edit doc) (fun _ => True) fun _ _ => True :=
  save_proves noted_true (fun _ _ => trivial) fun prepared _ => edit_written prepared

theorem edit_snapshot (id : Text) (body : Body) (name : Option Text) :
    Proves bodies thread (snapshot bodies .edit id body name) (fun _ => True) fun _ _ => True :=
  snapshot_proves (edit_filed id _ _) fun _ _ _ => trivial

theorem autosave_proves (doc : Document Body) (takeVersion : Bool) :
    Proves bodies thread (autosave bodies doc takeVersion) (fun _ => True) fun _ _ => True := by
  refine proves_orFail (ensured doc _) fun _ => proves_orFail (edit_saved doc) fun saved => ?_
  split
  · exact proves_orFail (edit_snapshot saved.id saved.body none) fun _ => proves_done _ _
  · exact proves_done _ _

theorem checkpoint_proves (doc : Document Body) (name : Text) :
    Proves bodies thread (checkpoint bodies doc name) (fun _ => True) fun _ _ => True := by
  refine proves_orFail (ensured doc _) fun _ => proves_orFail (edit_saved doc) fun saved => ?_
  refine proves_orFail (edit_snapshot saved.id saved.body (some name)) fun filed => ?_
  cases filed with
  | some summary => exact proves_done _ _
  | none => exact proves_done _ _

theorem restoreOver_proves (id : Text) (current : Document Body) (body : Body)
    (named : current.id = id) :
    Proves bodies thread (restoreOver bodies id current body)
      (fun shared => shared.read thread = some current) fun _ _ => True := by
  have files : Proves bodies thread (snapshot bodies .before id current.body none)
      (fun shared => shared.read thread = some current) fun answer shared =>
        ∀ summary, answer = .ok summary → Filed thread id (bodies.toJson current.body) current shared := by
    refine snapshot_proves (before_filed id _ current) ?_
    intro answer shared filed summary same
    cases answer with
    | error error => cases same
    | ok stored => exact filed stored rfl
  have writes : Proves bodies thread (save bodies .restore { current with body := body })
      (Filed thread id (bodies.toJson current.body) current) fun answer shared =>
        ∀ saved, answer = .ok saved → ReplacedGuarded thread shared := by
    refine save_proves (filed_noted _ _ _) (by rintro error shared _ ⟨⟩) fun prepared same => ?_
    rw [← named, ← show prepared.id = current.id from same]
    exact restore_written prepared current
  refine proves_orFail files fun filed => ?_
  refine Verified.of_known ?_ fun shared _ holds => holds filed rfl
  refine proves_orFail writes fun saved => ?_
  refine Verified.of_known ?_ fun shared _ holds => holds saved rfl
  have ends : Proves bodies thread (snapshot bodies .after id saved.body none)
      (ReplacedGuarded thread) fun _ _ => True :=
    snapshot_proves (after_filed id _) fun _ _ _ => trivial
  exact proves_orFail ends fun _ => proves_done _ _

theorem restore_proves (id : Text) (version : Nat) :
    Proves bodies thread (restore bodies id version) (fun _ => True) fun _ _ => True := by
  refine proves_orFail (reads_keep noted_true id version) fun stored => ?_
  split
  · exact proves_done _ _
  · rename_i body _
    refine proves_orFail (document_read id) fun current => ?_
    refine Verified.of_known (Verified.assuming (restoreOver_proves id current body)) ?_
    exact fun shared _ holds => holds current rfl

theorem program_proves (what : Call Body) :
    Proves bodies thread (program bodies what) (fun _ => True) fun _ _ => True := by
  cases what with
  | autosave doc takeVersion => exact autosave_proves doc takeVersion
  | checkpoint doc name => exact checkpoint_proves doc name
  | restore id version => exact restore_proves id version

end Programs

section Tables

/-- Bodies that are their own text. -/
def plain : Bodies Text := ⟨id, id, some, fun _ => .diagram, id⟩

def tables (body : Text) : Document Text := ⟨"d".toList, .diagram, "Tables".toList, body⟩

def savedTables : Text → Option DocumentRow :=
  fun id => if id = "d".toList then some ⟨.diagram, "Tables".toList, "orders".toList⟩ else none

/-- The steps of a thread, one after the other. -/
def turns (thread count : Nat) : List (Event (Call Text) (Surroundings Text)) :=
  List.replicate count (.go thread ⟨none, "today".toList, "e".toList, []⟩)

def filesOrders : List (Event (Call Text) (Surroundings Text)) :=
  .call 0 (.autosave (tables "orders".toList) true) :: turns 0 4

def savesUsers (thread : Nat) : List (Event (Call Text) (Surroundings Text)) :=
  .call thread (.autosave (tables "orders, users".toList) false) :: turns thread 3

/-- An editor adds a table behind the first snapshot of a restore and before its write. -/
def addsTable : List (Event (Call Text) (Surroundings Text)) :=
  filesOrders ++ .call 0 (.restore "d".toList 1) :: turns 0 3 ++ savesUsers 1 ++ turns 0 3

theorem users_replaced :
    (Machine.run (step (Shared.exec plain) (program plain))
      (Interleaving.start (Shared.start savedTables)) addsTable).map
        (fun threads => threads.shared.finished) =
      some [⟨"orders, users".toList,
        [⟨"d".toList, 1, none, "today".toList, "orders".toList⟩]⟩] := by
  decide +kernel

end Tables

end Kept

end DbFree.DocumentVersions
