import DbFree.Errors

/- The versions a document keeps: numbered rows of the store, and which of them stay
(store/document_versions.rs, services/document_versions.rs). -/
namespace DbFree.DocumentVersions

/-- One stored snapshot of a document. -/
structure StoredVersion where
  documentId : Text
  version : Nat
  name : Option Text
  createdAt : Text
  body : Text
deriving DecidableEq

def StoredVersion.automatic (stored : StoredVersion) : Bool := stored.name.isNone

/-- How many unnamed versions a document keeps. -/
def KEEP_AUTOMATIC : Nat := 20

/-- What a checkpoint is called when the user gives no name. -/
def DEFAULT_CHECKPOINT_NAME : Text := "Checkpoint".toList

/-- `u32::MAX`, the highest number a version can have. -/
def MAX_VERSION : Nat := 2 ^ 32 - 1

/-- The rows of one document, in the order of their numbers. -/
abbrev History := List StoredVersion

namespace History

def latest (history : History) : Option StoredVersion := history.getLast?

def nextVersion (history : History) : Nat :=
  match history.latest with
  | some stored => stored.version + 1
  | none => 1

def insert (history : History) (documentId body : Text) (name : Option Text) (createdAt : Text) :
    Except AppError (StoredVersion × History) :=
  if history.nextVersion ≤ MAX_VERSION then
    let stored := ⟨documentId, history.nextVersion, name, createdAt, body⟩
    .ok (stored, history ++ [stored])
  else .error (.store "The version number does not fit.".toList)

/-- The newest rows of a list that has the newest last. -/
def newest {α : Type} (count : Nat) (rows : List α) : List α := rows.drop (rows.length - count)

/-- Deletes the oldest unnamed versions beyond `keep`. -/
def prune (history : History) (keep : Nat) : History :=
  let kept := (newest keep (history.filter StoredVersion.automatic)).map StoredVersion.version
  history.filter fun stored => !stored.automatic || kept.contains stored.version

/-- An automatic snapshot is pointless when the latest version already holds the body. -/
def isRedundant (latestBody : Option Text) (newBody : Text) (named : Bool) : Bool :=
  !named && latestBody == some newBody

/-- The step of the store in `snapshot`: the version filed, unless the latest one holds
the body. -/
def file (history : History) (documentId json : Text) (name : Option Text) (now : Text) :
    Except AppError (Option StoredVersion × History) :=
  if isRedundant (history.latest.map StoredVersion.body) json name.isSome then .ok (none, history)
  else
    (history.insert documentId json name now).map fun (stored, longer) =>
      (some stored, if name.isNone then longer.prune KEEP_AUTOMATIC else longer)

end History

section Newest

variable {α : Type}

theorem newest_snoc (count : Nat) (rows : List α) (row : α) :
    History.newest count (History.newest count rows ++ [row]) =
      History.newest count (rows ++ [row]) := by
  simp only [History.newest, List.length_append, List.length_drop, List.length_singleton]
  rcases Nat.lt_or_ge rows.length count with few | many
  · have all : rows.length - count = 0 := by omega
    rw [all, List.drop_zero, Nat.sub_zero]
  · have extra : rows.length - (rows.length - count) + 1 - count = 1 := by omega
    have inside : rows.length + 1 - count = rows.length - count + 1 := by omega
    rw [extra, inside]
    cases count with
    | zero => simp
    | succ count =>
      rw [List.drop_append_of_le_length (by rw [List.length_drop]; omega), List.drop_drop,
        List.drop_append_of_le_length (by omega)]

theorem newest_length (count : Nat) (rows : List α) :
    (History.newest count rows).length ≤ count := by
  rw [History.newest, List.length_drop]
  omega

theorem newest_of_short {count : Nat} {rows : List α} (few : rows.length ≤ count) :
    History.newest count rows = rows := by
  rw [History.newest, Nat.sub_eq_zero_of_le few, List.drop_zero]

theorem newest_sublist (count : Nat) (rows : List α) :
    (History.newest count rows).Sublist rows := List.drop_sublist ..

/-- A row with few rows behind it is among the newest. -/
theorem mem_newest {count : Nat} {before later : List α} {row : α} (few : later.length < count) :
    row ∈ History.newest count (before ++ row :: later) := by
  have cut : (before ++ row :: later).length - count ≤ before.length := by
    rw [List.length_append, List.length_cons]
    omega
  rw [History.newest, List.drop_append_of_le_length cut]
  exact List.mem_append_right _ List.mem_cons_self

end Newest

/-- The rows stand in the order of their numbers, which are all different. -/
def Ascending (history : History) : Prop :=
  history.Pairwise fun earlier later => earlier.version < later.version

theorem nextVersion_above {history : History} (ascending : Ascending history)
    (stored : StoredVersion) (member : stored ∈ history) :
    stored.version < history.nextVersion := by
  rcases List.eq_nil_or_concat history with rfl | ⟨before, last, rfl⟩
  · cases member
  · rw [List.concat_eq_append] at ascending member ⊢
    have next : History.nextVersion (before ++ [last]) = last.version + 1 := by
      rw [History.nextVersion, History.latest, List.getLast?_concat]
    rw [next]
    rcases List.mem_append.mp member with earlier | same
    · have less := (List.pairwise_append.mp ascending).2.2 stored earlier last (List.mem_singleton_self _)
      exact Nat.lt_succ_of_lt less
    · rw [List.mem_singleton.mp same]
      exact Nat.lt_succ_self _

/-- Of different numbers, the rows that a list of rows names are the rows of that list. -/
theorem filter_contains {history kept : History} (ascending : Ascending history)
    (sub : kept.Sublist history) :
    history.filter (fun stored => (kept.map StoredVersion.version).contains stored.version) =
      kept := by
  induction sub with
  | slnil => rfl
  | @cons kept rest head sub ih =>
    obtain ⟨above, later⟩ := List.pairwise_cons.mp ascending
    have absent : ¬(kept.map StoredVersion.version).contains head.version = true := by
      rw [List.contains_iff_mem, List.mem_map]
      rintro ⟨stored, member, same⟩
      have less := above stored (sub.subset member)
      omega
    rw [List.filter_cons, if_neg absent, ih later]
  | @cons_cons kept rest head sub ih =>
    obtain ⟨above, later⟩ := List.pairwise_cons.mp ascending
    have others : rest.filter (fun stored =>
        (((head :: kept).map StoredVersion.version).contains stored.version)) =
        rest.filter (fun stored => (kept.map StoredVersion.version).contains stored.version) := by
      refine List.filter_congr ?_
      intro stored member
      have less := above stored member
      rw [List.map_cons, List.contains_cons, beq_eq_false_iff_ne.mpr (by omega), Bool.false_or]
    rw [List.filter_cons, if_pos (by simp), others, ih later]

/-- Pruning leaves the named versions alone and the newest automatic ones. -/
theorem prune_automatic {history : History} (ascending : Ascending history) (keep : Nat) :
    (history.prune keep).filter StoredVersion.automatic =
      History.newest keep (history.filter StoredVersion.automatic) := by
  have automatic := filter_contains (ascending.filter StoredVersion.automatic)
    (newest_sublist keep (history.filter StoredVersion.automatic))
  rw [List.filter_filter] at automatic
  rw [History.prune, List.filter_filter]
  refine (List.filter_congr ?_).trans automatic
  intro stored _
  cases stored.automatic <;> simp

theorem prune_named (history : History) (keep : Nat) :
    (history.prune keep).filter (fun stored => !stored.automatic) =
      history.filter fun stored => !stored.automatic := by
  rw [History.prune, List.filter_filter]
  refine List.filter_congr ?_
  intro stored _
  cases stored.automatic <;> simp

section Filing

variable {history next : History} {documentId json now : Text} {name : Option Text}
  {answer : Option StoredVersion}

/-- What the store does with a snapshot: nothing, when the latest version holds the body,
or one more version. -/
theorem file_cases (filed : history.file documentId json name now = .ok (answer, next)) :
    (answer = none ∧ next = history ∧ ∃ last, history.latest = some last ∧ last.body = json) ∨
      ∃ stored : StoredVersion, answer = some stored ∧ stored.version = history.nextVersion ∧
        stored.body = json ∧ stored.automatic = name.isNone ∧
          next = if stored.automatic then
            History.prune (history ++ [stored]) KEEP_AUTOMATIC else history ++ [stored] := by
  rw [History.file] at filed
  split at filed
  · rename_i redundant
    cases filed
    rw [History.isRedundant, Bool.and_eq_true, beq_iff_eq, Option.map_eq_some_iff] at redundant
    exact .inl ⟨rfl, rfl, redundant.2⟩
  · by_cases fits : history.nextVersion ≤ MAX_VERSION
    · rw [History.insert, if_pos fits] at filed
      cases filed
      exact .inr ⟨_, rfl, rfl, rfl, rfl, rfl⟩
    · rw [History.insert, if_neg fits] at filed
      cases filed

theorem insert_ascending (ascending : Ascending history) {stored : StoredVersion}
    (number : stored.version = history.nextVersion) : Ascending (history ++ [stored]) := by
  refine List.pairwise_append.mpr ⟨ascending, List.pairwise_singleton _ _, ?_⟩
  intro earlier member last same
  rw [List.mem_singleton.mp same, number]
  exact nextVersion_above ascending earlier member

theorem file_ascending (ascending : Ascending history)
    (filed : history.file documentId json name now = .ok (answer, next)) : Ascending next := by
  rcases file_cases filed with ⟨-, rfl, -⟩ | ⟨stored, -, number, -, -, rfl⟩
  · exact ascending
  · split
    · exact (insert_ascending ascending number).filter _
    · exact insert_ascending ascending number

/-- The automatic versions are the newest of those there were and the one filed. -/
theorem file_automatic (ascending : Ascending history)
    (filed : history.file documentId json name now = .ok (answer, next))
    (few : (history.filter StoredVersion.automatic).length ≤ KEEP_AUTOMATIC) :
    next.filter StoredVersion.automatic = History.newest KEEP_AUTOMATIC
      (history.filter StoredVersion.automatic ++ answer.toList.filter StoredVersion.automatic) := by
  rcases file_cases filed with ⟨rfl, rfl, -⟩ | ⟨stored, rfl, number, -, -, rfl⟩
  · rw [Option.toList_none, List.filter_nil, List.append_nil, newest_of_short few]
  · split
    · rw [prune_automatic (insert_ascending ascending number), List.filter_append]
      rfl
    · rename_i named
      rw [List.filter_append, Option.toList_some, List.filter_cons, if_neg named, List.filter_nil,
        List.append_nil, newest_of_short few]

theorem file_named (filed : history.file documentId json name now = .ok (answer, next)) :
    next.filter (fun stored => !stored.automatic) =
      history.filter (fun stored => !stored.automatic) ++
        answer.toList.filter fun stored => !stored.automatic := by
  rcases file_cases filed with ⟨rfl, rfl, -⟩ | ⟨stored, rfl, -, -, -, rfl⟩
  · exact (List.append_nil _).symm
  · split
    · rw [prune_named, List.filter_append]
      rfl
    · rw [List.filter_append]
      rfl

/-- How many automatic versions are newer than one. -/
def newer (history : History) (stored : StoredVersion) : Nat :=
  (history.filter fun other => other.automatic && stored.version < other.version).length

/-- Pruning keeps an automatic version that few automatic ones are newer than. -/
theorem mem_prune (ascending : Ascending history) {stored : StoredVersion}
    (member : stored ∈ history) {keep : Nat}
    (few : stored.automatic = true → newer history stored < keep) :
    stored ∈ history.prune keep := by
  rw [History.prune, List.mem_filter]
  refine ⟨member, ?_⟩
  by_cases automatic : stored.automatic = true
  · obtain ⟨before, later, split⟩ := List.append_of_mem
      (List.mem_filter.mpr ⟨member, automatic⟩)
    have order : Ascending (before ++ stored :: later) := by
      rw [← split]
      exact ascending.filter _
    obtain ⟨-, behind, above⟩ := List.pairwise_append.mp order
    have count : newer history stored = later.length := by
      rw [newer, ← List.filter_filter, List.filter_comm, split, List.filter_append,
        List.filter_cons, if_neg (by simp)]
      have none_before : before.filter (fun other => stored.version < other.version) = [] := by
        rw [List.filter_eq_nil_iff]
        intro other earlier
        have less := above other earlier stored List.mem_cons_self
        simp only [decide_eq_true_eq]
        omega
      have all_later : later.filter (fun other => stored.version < other.version) = later := by
        rw [List.filter_eq_self]
        intro other after
        exact decide_eq_true ((List.pairwise_cons.mp behind).1 other after)
      rw [none_before, all_later, List.nil_append]
    have among : stored ∈ History.newest keep (history.filter StoredVersion.automatic) := by
      rw [split]
      exact mem_newest (by rw [← count]; exact few automatic)
    rw [Bool.or_eq_true, List.contains_iff_mem]
    exact .inr (List.mem_map_of_mem among)
  · rw [Bool.or_eq_true, Bool.not_eq_true']
    exact .inl (Bool.eq_false_iff.mpr automatic)

theorem newer_sublist {shorter : History} (sub : shorter.Sublist history)
    (stored : StoredVersion) : newer shorter stored ≤ newer history stored :=
  (sub.filter _).length_le

/-- A version stays while few automatic ones are newer, and at most the one filed is more. -/
theorem mem_file (ascending : Ascending history)
    (filed : history.file documentId json name now = .ok (answer, next)) {stored : StoredVersion}
    (member : stored ∈ history) {count : Nat}
    (few : stored.automatic = true → newer history stored ≤ count)
    (room : count + (answer.toList.filter StoredVersion.automatic).length < KEEP_AUTOMATIC) :
    stored ∈ next ∧ (stored.automatic = true → newer next stored ≤
      count + (answer.toList.filter StoredVersion.automatic).length) := by
  rcases file_cases filed with ⟨rfl, rfl, -⟩ | ⟨added, rfl, number, -, -, rfl⟩
  · exact ⟨member, few⟩
  · have more : newer (history ++ [added]) stored ≤ newer history stored +
        ([added].filter StoredVersion.automatic).length := by
      rw [newer, newer, List.filter_append, List.length_append]
      refine Nat.add_le_add_left ?_ _
      rw [← List.filter_filter]
      exact (List.filter_sublist.filter StoredVersion.automatic).length_le
    have counted : stored.automatic = true → newer (history ++ [added]) stored ≤
        count + ([added].filter StoredVersion.automatic).length := by
      intro automatic
      have few := few automatic
      omega
    have there : stored ∈ history ++ [added] := List.mem_append_left _ member
    split
    · refine ⟨mem_prune (insert_ascending ascending number) there ?_, ?_⟩
      · intro automatic
        exact Nat.lt_of_le_of_lt (counted automatic) room
      · intro automatic
        exact (newer_sublist List.filter_sublist stored).trans (counted automatic)
    · exact ⟨there, counted⟩

/-- Behind a snapshot the latest version holds its body, and none is newer. -/
theorem file_latest (ascending : Ascending history)
    (filed : history.file documentId json name now = .ok (answer, next)) :
    ∃ stored ∈ next, stored.body = json ∧ newer next stored = 0 := by
  have last_newest : ∀ (rows : History) (last : StoredVersion), Ascending (rows ++ [last]) →
      newer (rows ++ [last]) last = 0 := by
    intro rows last order
    rw [newer, List.length_eq_zero_iff, List.filter_eq_nil_iff]
    intro other member
    have below : other.version ≤ last.version := by
      rcases List.mem_append.mp member with earlier | same
      · exact Nat.le_of_lt ((List.pairwise_append.mp order).2.2 other earlier last
          (List.mem_singleton_self _))
      · rw [List.mem_singleton.mp same]
    simp only [Bool.and_eq_true, decide_eq_true_eq, not_and]
    omega
  rcases file_cases filed with ⟨-, rfl, last, latest, body⟩ | ⟨added, -, number, body, -, rfl⟩
  · obtain ⟨rows, rfl⟩ := List.getLast?_eq_some_iff.mp latest
    exact ⟨last, by simp, body, last_newest rows last ascending⟩
  · have newest := last_newest history added (insert_ascending ascending number)
    have there : added ∈ history ++ [added] := by simp
    split
    · refine ⟨added, mem_prune (insert_ascending ascending number) there ?_, body, ?_⟩
      · intro _
        rw [newest]
        decide
      · exact Nat.le_zero.mp ((newer_sublist List.filter_sublist added).trans (Nat.le_of_eq newest))
    · exact ⟨added, there, body, newest⟩

end Filing

end DbFree.DocumentVersions
