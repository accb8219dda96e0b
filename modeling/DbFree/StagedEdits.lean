import DbFree.Javascript
import DbFree.Machine
import DbFree.Upserts

/- The edits a user stages for review before they are committed: the list of each
connection and the calls that change it (stores/workspace.ts). -/
namespace DbFree.Staging

open SqlText Javascript Machine Upserts

inductive SqlToken where
  | default | now | currentDate | currentTime | currentTimestamp
deriving DecidableEq

def SqlToken.text : SqlToken → Text
  | .default => "default".toList
  | .now => "now".toList
  | .currentDate => "current_date".toList
  | .currentTime => "current_time".toList
  | .currentTimestamp => "current_timestamp".toList

structure CellValue where
  column : Text
  value : Value
  raw : Option SqlToken

def CellValue.json (cell : CellValue) : Json :=
  .object ([("column".toList, .string cell.column), ("value".toList, valueJson cell.value)] ++
    cell.raw.toList.map fun raw => ("raw".toList, .string raw.text))

/-- A new value for one cell; the row is found by its key. -/
structure UpdateChange where
  id : Text
  table : TableRef
  key : List CellValue
  column : Text
  old : Value
  new : Value
  newRaw : Option SqlToken

inductive StagedChange where
  | update (change : UpdateChange)
  | insert (id : Text) (table : TableRef) (values : List CellValue)
  | delete (id : Text) (table : TableRef) (key : List CellValue)
  | ddl (id : Text) (table : TableRef) (statement description : Text) (destructive : Bool)

def StagedChange.id : StagedChange → Text
  | .update change => change.id
  | .insert id _ _ | .delete id _ _ | .ddl id _ _ _ _ => id

def tableKey (table : TableRef) : Text :=
  match table.schema with
  | none => table.name
  | some schema => schema ++ '.' :: table.name

/-- `JSON.stringify` of a row's key. -/
def keyText (key : List CellValue) : Text := stringify (.array (key.map CellValue.json))

/-- Whether the staged change `c` makes room for `change`. -/
def replaces (change c : StagedChange) : Bool :=
  c.id == change.id ||
    match c, change with
    | .update first, .update second =>
      tableKey first.table == tableKey second.table && first.column == second.column &&
        keyText first.key == keyText second.key
    | _, _ => false

structure Workspace where
  pendingChanges : Text → Option (List StagedChange)
  changesPanelOpen : Bool

inductive Call where
  | stage (connectionId : Text) (change : StagedChange)
  | unstage (connectionId changeId : Text)
  | clear (connectionId : Text)

namespace Workspace

def pending (workspace : Workspace) (connectionId : Text) : List StagedChange :=
  (workspace.pendingChanges connectionId).getD []

def stageChange (workspace : Workspace) (connectionId : Text) (change : StagedChange) :
    Workspace :=
  let next := upsert (replaces change) change (workspace.pending connectionId)
  ⟨Function.update workspace.pendingChanges connectionId (some next), true⟩

def unstageChange (workspace : Workspace) (connectionId changeId : Text) : Workspace :=
  let next := (workspace.pending connectionId).filter fun c => c.id ≠ changeId
  { workspace with
    pendingChanges := Function.update workspace.pendingChanges connectionId (some next) }

def clearChanges (workspace : Workspace) (connectionId : Text) : Workspace :=
  { workspace with
    pendingChanges := Function.update workspace.pendingChanges connectionId none }

def call (workspace : Workspace) : Call → Workspace
  | .stage connectionId change => workspace.stageChange connectionId change
  | .unstage connectionId changeId => workspace.unstageChange connectionId changeId
  | .clear connectionId => workspace.clearChanges connectionId

def new : Workspace := ⟨fun _ => none, false⟩

end Workspace

/-- A workspace and the calls that led to it. -/
structure Session where
  workspace : Workspace
  calls : List Call

def Session.step (session : Session) (call : Call) : Option Session :=
  some ⟨session.workspace.call call, session.calls ++ [call]⟩

def Session.new : Session := ⟨.new, []⟩

/-- What a change is about. A row is known by its key's columns in any order, a table by
its schema and its name; a change other than an update is about itself. -/
inductive Subject where
  | cell (table : TableRef) (row : Multiset CellValue) (column : Text)
  | change (id : Text)

def StagedChange.subject : StagedChange → Subject
  | .update change => .cell change.table change.key change.column
  | other => .change other.id

/-- The call does not concern this staged change. -/
def Call.Leaves (connectionId : Text) (change : StagedChange) : Call → Prop
  | .stage other new => other = connectionId → change.subject ≠ new.subject
  | .unstage other id => other = connectionId → change.id ≠ id
  | .clear other => other ≠ connectionId

/-- The change was staged, and no later call concerns it. -/
def Stands (calls : List Call) (connectionId : Text) (change : StagedChange) : Prop :=
  ∃ before after, calls = before ++ .stage connectionId change :: after ∧
    ∀ call ∈ after, call.Leaves connectionId change

theorem stands_append (calls : List Call) (call : Call) (connectionId : Text)
    (change : StagedChange) :
    Stands (calls ++ [call]) connectionId change ↔
      call = .stage connectionId change ∨
        (Stands calls connectionId change ∧ call.Leaves connectionId change) := by
  constructor
  · rintro ⟨before, after, split, left⟩
    rcases List.eq_nil_or_concat' after with rfl | ⟨earlier, last, rfl⟩
    · exact Or.inl (List.singleton_inj.mp (List.append_inj' split rfl).2)
    · rw [← List.cons_append, ← List.append_assoc] at split
      obtain ⟨same, last_eq⟩ := List.append_inj' split rfl
      cases last_eq
      exact Or.inr ⟨⟨before, earlier, same, fun call member =>
        left call (List.mem_append_left _ member)⟩, left _ (by simp)⟩
  · rintro (rfl | ⟨⟨before, after, rfl, left⟩, leaves⟩)
    · exact ⟨calls, [], rfl, by simp⟩
    · refine ⟨before, after ++ [call], by simp, fun other member => ?_⟩
      rcases List.mem_append.mp member with earlier | last
      · exact left other earlier
      · rw [List.mem_singleton.mp last]
        exact leaves

/-- The code's comparison of a staged change with a new one sees what they are about. -/
structure ToldApart (staged new : StagedChange) : Prop where
  /-- One id never stands for two edits. -/
  id : staged.id = new.id → staged.subject = new.subject
  /-- No two tables in question have the same dotted name. -/
  table : ∀ first second, staged = .update first → new = .update second →
    first.column = second.column → keyText first.key = keyText second.key →
      tableKey first.table = tableKey second.table → first.table = second.table
  /-- The columns of a key come in one order. -/
  row : ∀ first second, staged = .update first → new = .update second →
    first.column = second.column → first.table = second.table →
      (keyText first.key = keyText second.key ↔
        (first.key : Multiset CellValue) = (second.key : Multiset CellValue))

theorem ToldApart.replaces_iff {staged new : StagedChange} (apart : ToldApart staged new) :
    replaces new staged = true ↔ staged.subject = new.subject := by
  unfold replaces
  rw [Bool.or_eq_true, beq_iff_eq]
  constructor
  · rintro (same | close)
    · exact apart.id same
    · cases staged with
      | update first =>
        cases new with
        | update second =>
          simp only [Bool.and_eq_true, beq_iff_eq] at close
          obtain ⟨⟨key, column⟩, row⟩ := close
          have table := apart.table first second rfl rfl column row key
          have row := (apart.row first second rfl rfl column table).mp row
          rw [StagedChange.subject, StagedChange.subject, table, row, column]
        | insert | delete | ddl => exact absurd close Bool.false_ne_true
      | insert | delete | ddl => exact absurd close Bool.false_ne_true
  · intro same
    cases staged with
    | update first =>
      cases new with
      | update second =>
        injection same with table row column
        refine Or.inr ?_
        simp only [Bool.and_eq_true, beq_iff_eq]
        exact ⟨⟨congrArg tableKey table, column⟩,
          (apart.row first second rfl rfl column table).mpr row⟩
      | insert | delete | ddl => cases same
    | insert | delete | ddl =>
      cases new with
      | update => cases same
      | insert | delete | ddl => exact Or.inl (Subject.change.inj same)

/-- A call stages a change that the code tells apart from those already staged. -/
def Session.Apart (session : Session) : Call → Prop
  | .stage connectionId new =>
    ∀ staged ∈ session.workspace.pending connectionId, ToldApart staged new
  | _ => True

/-- A connection's list holds one change for each cell, the last one staged for it, and
nothing that later calls took back. -/
structure Session.Kept (session : Session) : Prop where
  single : ∀ connectionId, OneEach (fun c d => c.subject = d.subject)
    (session.workspace.pending connectionId)
  last : ∀ connectionId change, change ∈ session.workspace.pending connectionId ↔
    Stands session.calls connectionId change

theorem subject_equivalence : Equivalence fun c d : StagedChange => c.subject = d.subject :=
  ⟨fun _ => rfl, Eq.symm, Eq.trans⟩

theorem new_kept : Session.new.Kept where
  single _ := List.Pairwise.nil
  last _ _ := by
    constructor
    · exact fun member => absurd member List.not_mem_nil
    · rintro ⟨before, after, split, _⟩
      simp [Session.new] at split

theorem pending_update (changes : Text → Option (List StagedChange)) (isOpen : Bool)
    (connectionId other : Text) (next : Option (List StagedChange)) :
    (⟨Function.update changes connectionId next, isOpen⟩ : Workspace).pending other =
      if other = connectionId then next.getD [] else (changes other).getD [] := by
  show (Function.update changes connectionId next other).getD [] = _
  rw [Function.update_apply]
  split <;> rfl

theorem kept_stage {session : Session} (kept : session.Kept) {connectionId : Text}
    {new : StagedChange} (apart : session.Apart (.stage connectionId new)) :
    (⟨session.workspace.call (.stage connectionId new),
      session.calls ++ [.stage connectionId new]⟩ : Session).Kept := by
  obtain ⟨one, members⟩ := upsert_spec subject_equivalence
    (fun staged member => (apart staged member).replaces_iff) (kept.single connectionId)
  constructor
  · intro other
    dsimp only [Workspace.call, Workspace.stageChange]
    rw [pending_update]
    split
    · exact one
    · exact kept.single other
  · intro other change
    dsimp only [Workspace.call, Workspace.stageChange]
    rw [pending_update, stands_append, ← kept.last]
    by_cases here : other = connectionId
    · subst here
      rw [if_pos rfl, Option.getD_some, members]
      simp only [Call.stage.injEq, true_and, Call.Leaves, forall_const, ne_eq, eq_comm (a := new)]
    · rw [if_neg here]
      have elsewhere : Call.stage connectionId new ≠ .stage other change :=
        fun same => here (Call.stage.inj same).1.symm
      simp only [elsewhere, false_or, Call.Leaves]
      exact ⟨fun member => ⟨member, fun same => absurd same.symm here⟩, And.left⟩

theorem kept_unstage {session : Session} (kept : session.Kept) (connectionId changeId : Text) :
    (⟨session.workspace.call (.unstage connectionId changeId),
      session.calls ++ [.unstage connectionId changeId]⟩ : Session).Kept := by
  constructor
  · intro other
    dsimp only [Workspace.call, Workspace.unstageChange]
    rw [pending_update]
    split
    · exact (kept.single connectionId).filter _
    · exact kept.single other
  · intro other change
    dsimp only [Workspace.call, Workspace.unstageChange]
    rw [pending_update, stands_append, ← kept.last]
    by_cases here : other = connectionId
    · subst here
      simp [Call.Leaves]
    · rw [if_neg here]
      simp only [reduceCtorEq, false_or, Call.Leaves]
      exact ⟨fun member => ⟨member, fun same => absurd same.symm here⟩, And.left⟩

theorem kept_clear {session : Session} (kept : session.Kept) (connectionId : Text) :
    (⟨session.workspace.call (.clear connectionId),
      session.calls ++ [.clear connectionId]⟩ : Session).Kept := by
  constructor
  · intro other
    dsimp only [Workspace.call, Workspace.clearChanges]
    rw [pending_update]
    split
    · exact List.Pairwise.nil
    · exact kept.single other
  · intro other change
    dsimp only [Workspace.call, Workspace.clearChanges]
    rw [pending_update, stands_append, ← kept.last]
    by_cases here : other = connectionId
    · subst here
      simp [Call.Leaves]
    · rw [if_neg here]
      simp only [reduceCtorEq, false_or, Call.Leaves]
      exact ⟨fun member => ⟨member, Ne.symm here⟩, And.left⟩

theorem kept_step (session : Session) (call : Call) (next : Session) (kept : session.Kept)
    (apart : session.Apart call) (stepped : session.step call = some next) : next.Kept := by
  cases stepped
  cases call with
  | stage connectionId new => exact kept_stage kept apart
  | unstage connectionId changeId => exact kept_unstage kept connectionId changeId
  | clear connectionId => exact kept_clear kept connectionId

/-- Whatever is staged, unstaged and cleared in whatever order, every cell keeps the last
change staged for it, as long as the code tells a new change apart from those staged. -/
theorem staging_keeps_edits (calls : List Call)
    (apart : Along Session.step Session.Apart Session.new calls) :
    Throughout Session.step Session.Kept Session.new calls :=
  throughout_of_kept kept_step new_kept apart

/-- A new name for the row with the id 1. -/
def renamed (id : String) (table : TableRef) (name : String) : StagedChange :=
  .update ⟨id.toList, table, [⟨"id".toList, .int 1, none⟩], "name".toList, .null,
    .text name.toList, none⟩

theorem renamed_apart (id id' name name' : String) (table : TableRef)
    (fresh : id.toList ≠ id'.toList) :
    ToldApart (renamed id table name) (renamed id' table name') where
  id same := absurd same fresh
  table first second first_eq second_eq _ _ _ := by
    cases first_eq
    cases second_eq
    rfl
  row first second first_eq second_eq _ _ := by
    cases first_eq
    cases second_eq
    exact ⟨fun _ => rfl, fun _ => rfl⟩

def staged (id : String) (table : TableRef) (name : String) : Call :=
  .stage "pg".toList (renamed id table name)

/-- A cell edited twice, and the edit taken back. -/
theorem edited_twice :
    Throughout Session.step Session.Kept Session.new
      [staged "chg-1" ⟨some "public".toList, "users".toList⟩ "Ann",
        staged "chg-2" ⟨some "public".toList, "users".toList⟩ "Bo",
        .unstage "pg".toList "chg-2".toList] := by
  refine staging_keeps_edits _ (along_step rfl ?_ (along_step rfl ?_ (along_step rfl ?_ trivial)))
  · exact fun staged member => absurd member List.not_mem_nil
  · intro staged member
    rw [List.mem_singleton.mp (show staged ∈ [renamed "chg-1" _ "Ann"] from member)]
    exact renamed_apart "chg-1" "chg-2" "Ann" "Bo" _ (by decide)
  · trivial

/-- The edit of a row of `"a"."b.c"` is gone once the same row of `"a.b"."c"` is edited. -/
theorem other_table_replaced :
    ¬ ∀ calls, Throughout Session.step Session.Kept Session.new calls := by
  intro keeps
  let first := renamed "chg-1" ⟨some "a".toList, "b.c".toList⟩ "Ann"
  let second := renamed "chg-2" ⟨some "a.b".toList, "c".toList⟩ "Bo"
  have kept := (keeps [.stage "pg".toList first, .stage "pg".toList second]).last rfl
  have apart : first.subject ≠ second.subject := by
    intro same
    injection same with table
    exact absurd table (by decide)
  have stands : Stands [.stage "pg".toList first, .stage "pg".toList second] "pg".toList first := by
    refine ⟨[], _, rfl, fun call member => ?_⟩
    rw [List.mem_singleton.mp member]
    exact fun _ => apart
  have member := (kept.last "pg".toList first).mpr stands
  have asked : replaces second first = true := by decide +kernel
  have list : (((Workspace.new.stageChange "pg".toList first).stageChange "pg".toList
      second)).pending "pg".toList = [second] := by
    simp [Workspace.stageChange, Workspace.pending, Workspace.new, upsert, asked]
  have gone : first ∈ [second] := list ▸ member
  exact apart (congrArg StagedChange.subject (List.mem_singleton.mp gone))

end DbFree.Staging
