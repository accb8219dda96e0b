import DbFree.CommitEdits

/- When a commit that fails leaves everything as it was. -/
namespace DbFree.Changes

open Transactions

variable {Data : Type} (adapter : Adapter Data) (plan : CommitPlan)

/-- The statements the edits of a plan come to. -/
def Adapter.statements : List (Text × Nat) :=
  plan.items.flatMap fun item => (adapter.cut (plan.runSql item)).map (·, returnedRowCap)

/-- Every edit is an ordinary statement: none begins, ends or marks a transaction. -/
def Plain : Prop :=
  ∀ item ∈ plan.items, ∀ statement ∈ adapter.cut (plan.runSql item),
    adapter.reads statement returnedRowCap = .run (statement, returnedRowCap)

/-- The adapter cuts the commit's own statements and scripts, and the server takes them, for
what they say. -/
structure AsSpecified : Prop where
  savepoint : adapter.commands savepointSql 0 = [.savepoint savepointName]
  release : adapter.commands releaseSql 0 = [.release savepointName]
  rollbackTo : adapter.commands rollbackToSql 0 = [.rollbackTo savepointName]
  script : adapter.manualTransactions = false → ∀ parts, scriptParts plan.engine = some parts →
    adapter.commands (wrappedScript plan parts) returnedRowCap =
      parts.before.map (adapter.reads · returnedRowCap) ++
        plan.items.flatMap (fun item => adapter.commands (plan.runSql item) returnedRowCap) ++
        [.commit]
  opening : ∀ parts, scriptParts plan.engine = some parts → ∀ statement ∈ parts.before,
    adapter.reads statement returnedRowCap = .setting ∨
      adapter.reads statement returnedRowCap = .begin
  begins : ∀ parts, scriptParts plan.engine = some parts →
    .begin ∈ parts.before.map (adapter.reads · returnedRowCap) ∨
      adapter.server.autocommit = false
  rollback : ∀ parts, scriptParts plan.engine = some parts →
    adapter.commands parts.rollback 0 = [.rollback] ∨
      adapter.commands parts.rollback 0 = [.rollbackOpen]

/-- Nobody can tell the session from what it was. -/
structure Unchanged (before after : EditSession Data) : Prop where
  committed : after.committed = before.committed
  visible : after.visible = before.visible
  inTransaction : adapter.inTransaction after = adapter.inTransaction before

/-- If the commit fails, it is as if it had not been tried. -/
def Restores (fails : Nat → Option AppError) (session : EditSession Data) : Prop :=
  ∀ error after, commit adapter fails plan session = (.error error, after) →
    Unchanged adapter session after

section

variable {adapter plan} {fails : Nat → Option AppError}

theorem unchanged_idle {before after : EditSession Data}
    (committed : after.committed = before.committed) (idle : before.work = none)
    (idle_after : after.work = none) : Unchanged adapter before after := by
  refine ⟨committed, ?_, ?_⟩
  · simp only [Session.visible, idle_after, idle, committed]
  · simp only [Adapter.inTransaction, idle_after, idle]

theorem commands_of_plain (plain : Plain adapter plan) :
    plan.items.flatMap (fun item => adapter.commands (plan.runSql item) returnedRowCap) =
      (adapter.statements plan).map .run := by
  rw [Adapter.statements, List.map_flatMap]
  refine List.flatMap_congr fun item inside => ?_
  rw [Adapter.commands, List.map_map]
  exact List.map_congr_left fun statement cut => plain item inside statement cut

variable (fails) in
theorem execute_eq {sql : Text} {maxRows : Nat} {commands : List (Command Text (Text × Nat))}
    (read : adapter.commands sql maxRows = commands) (session : EditSession Data) :
    (adapter.execute fails sql maxRows session).2 =
        (Session.sendAll adapter.server fails commands session).2 ∧
      (adapter.execute fails sql maxRows session).1.isOk =
        (Session.sendAll adapter.server fails commands session).1.isOk := by
  rw [Adapter.execute, read]
  cases Session.sendAll adapter.server fails commands session with
  | mk answer later => cases answer <;> exact ⟨rfl, rfl⟩

variable (fails) in
theorem execute_single {sql : Text} {maxRows : Nat} {command : Command Text (Text × Nat)}
    (read : adapter.commands sql maxRows = [command]) (session : EditSession Data) :
    (adapter.execute fails sql maxRows session).2 =
        (session.send adapter.server fails command).2 ∧
      (adapter.execute fails sql maxRows session).1.isOk =
        (session.send adapter.server fails command).1.isOk := by
  have sent := execute_eq fails read session
  have single := Session.sendAll_single adapter.server fails command session
  exact ⟨sent.1.trans single.1, sent.2.trans single.2⟩

variable (adapter fails) in
theorem tell_eq (command : Command Text (Text × Nat)) (session : EditSession Data) :
    (adapter.tell fails command session).2 = (session.send adapter.server fails command).2 ∧
      (adapter.tell fails command session).1.isOk =
        (session.send adapter.server fails command).1.isOk := by
  rw [Adapter.tell]
  cases session.send adapter.server fails command with
  | mk answer later => cases answer <;> exact ⟨rfl, rfl⟩

variable (adapter fails plan) in
/-- One by one, the edits reach the server as the commands of the whole plan in a row. -/
theorem runEachFrom_eq (index : Nat) (items : List PlannedStatement)
    (session : EditSession Data) :
    (runEachFrom adapter fails plan index items session).2 =
        (Session.sendAll adapter.server fails (items.flatMap fun item =>
          adapter.commands (plan.runSql item) returnedRowCap) session).2 ∧
      (runEachFrom adapter fails plan index items session).1.isOk =
        (Session.sendAll adapter.server fails (items.flatMap fun item =>
          adapter.commands (plan.runSql item) returnedRowCap) session).1.isOk := by
  induction items generalizing index session with
  | nil => exact ⟨rfl, rfl⟩
  | cons item rest hypothesis =>
    rw [List.flatMap_cons, runEachFrom, Adapter.execute]
    cases sent : Session.sendAll adapter.server fails
        (adapter.commands (plan.runSql item) returnedRowCap) session with
    | mk answer later =>
      cases answer with
      | error error =>
        rw [Session.sendAll_fails sent]
        exact ⟨rfl, rfl⟩
      | ok results =>
        rw [Session.sendAll_works sent]
        have run := hypothesis (index + 1) later
        dsimp only
        cases ended : runEachFrom adapter fails plan (index + 1) rest later with
        | mk answers last =>
          rw [ended] at run
          cases finished : Session.sendAll adapter.server fails (rest.flatMap fun item =>
              adapter.commands (plan.runSql item) returnedRowCap) later with
          | mk replies final =>
            rw [finished] at run
            cases answers <;> cases replies <;> exact run

/-- The edits under a guard commit nothing. -/
theorem runEach_guarded (plain : Plain adapter plan) {session : EditSession Data}
    (guarded : Session.Guarded adapter.server session) :
    (runEach adapter fails plan session).2.committed = session.committed := by
  have sent := (runEachFrom_eq adapter plan fails 0 plan.items session).1
  rw [commands_of_plain plain] at sent
  rw [runEach, sent]
  exact (Session.sendAll_staging fails (Command.staging_run _) guarded).1

theorem new_transaction_restores (plain : Plain adapter plan) {session : EditSession Data}
    (idle : session.work = none) {error : AppError} {after : EditSession Data}
    (failed : runInNewTransaction adapter fails plan session = (.error error, after)) :
    Unchanged adapter session after := by
  rw [runInNewTransaction, Adapter.beginTransaction, Adapter.tell] at failed
  cases failing : fails session.sent with
  | some first =>
    rw [Session.send_fails failing] at failed
    cases failed
    exact unchanged_idle rfl idle idle
  | none =>
    rw [Session.send_works failing] at failed
    simp only [Session.obey, idle] at failed
    let begun : EditSession Data := ⟨session.committed, some ⟨session.committed, []⟩,
      session.sent + 1⟩
    have kept : (runEach adapter fails plan begun).2.committed = session.committed :=
      runEach_guarded plain (Or.inl rfl)
    cases ran : runEach adapter fails plan begun with
    | mk answer later =>
      rw [ran] at kept
      simp only [begun] at ran
      rw [ran] at failed
      cases answer with
      | error other =>
        have rolled := Session.send_rollback adapter.server fails (Or.inl rfl) later
        have told := tell_eq adapter fails .rollback later
        cases failed
        rw [Adapter.rollbackTransaction, told.1]
        exact unchanged_idle (rolled.2.trans kept) idle rolled.1
      | ok results =>
        have told := tell_eq adapter fails .commit later
        dsimp only at failed
        rw [Adapter.commitTransaction] at failed
        cases closed : adapter.tell fails .commit later with
        | mk reply last =>
          rw [closed] at failed told
          cases reply with
          | ok _ => cases failed
          | error other =>
            cases failed
            have ended := Session.send_commit_fails told.2.symm
            rw [← told.1] at ended
            exact unchanged_idle (ended.2.trans kept) idle ended.1

theorem script_restores (specified : AsSpecified adapter plan) (plain : Plain adapter plan)
    (scripted : adapter.manualTransactions = false) {parts : ScriptParts}
    (wrapped : scriptParts plan.engine = some parts) {session : EditSession Data}
    (idle : session.work = none) {error : AppError} {after : EditSession Data}
    (failed : runAsScript adapter fails plan parts session = (.error error, after)) :
    Unchanged adapter session after := by
  have read := specified.script scripted parts wrapped
  rw [commands_of_plain plain] at read
  have sent := execute_eq fails read session
  have opening : ∀ command ∈ parts.before.map (adapter.reads · returnedRowCap),
      command = .setting ∨ command = .begin := by
    intro command inside
    obtain ⟨statement, listed, same⟩ := List.mem_map.mp inside
    rw [← same]
    exact specified.opening parts wrapped statement listed
  rw [runAsScript] at failed
  cases ran : adapter.execute fails (wrappedScript plan parts) returnedRowCap session with
  | mk answer later =>
    rw [ran] at sent failed
    cases answer with
    | ok results =>
      dsimp only at failed
      split at failed
      · cases failed
      · split at failed <;> cases failed
    | error other =>
      cases failed
      have kept := Session.sendAll_script opening (specified.begins parts wrapped) session
        sent.2.symm
      rw [← sent.1] at kept
      have undone : ∃ command, (command = .rollback ∨ command = .rollbackOpen) ∧
          adapter.commands parts.rollback 0 = [command] :=
        (specified.rollback parts wrapped).elim
          (fun said => ⟨_, Or.inl rfl, said⟩) (fun said => ⟨_, Or.inr rfl, said⟩)
      obtain ⟨command, undoing, said⟩ := undone
      have rolled := Session.send_rollback adapter.server fails undoing later
      rw [(execute_single fails said later).1]
      exact unchanged_idle (rolled.2.trans kept) idle rolled.1

/-- The user's transaction with the commit's savepoint in it. -/
def saved (session : EditSession Data) (work : Work Data Text) : EditSession Data :=
  ⟨session.committed, some ⟨work.data, (savepointName, work.data) :: work.savepoints⟩,
    session.sent + 1⟩

variable (fails) in
theorem runEach_ran (plain : Plain adapter plan) (session : EditSession Data)
    (work : Work Data Text) :
    ∃ ended, Session.Ran adapter.server fails (adapter.statements plan) (saved session work)
        ⟨work.data, (savepointName, work.data) :: work.savepoints⟩ ended ∧
      (runEach adapter fails plan (saved session work)).2 = ended.2 ∧
      (runEach adapter fails plan (saved session work)).1.isOk = ended.1.isOk := by
  have opened : (saved session work).work =
      some ⟨work.data, (savepointName, work.data) :: work.savepoints⟩ := rfl
  have ran := Session.sendAll_ran adapter.server fails opened (adapter.statements plan)
  have sent := runEachFrom_eq adapter plan fails 0 plan.items (saved session work)
  rw [commands_of_plain plain] at sent
  exact ⟨_, ran, sent⟩

theorem send_rollbackTo {session : EditSession Data} {data saved_data : Data}
    {older : List (Text × Data)}
    (opened : session.work = some ⟨data, (savepointName, saved_data) :: older⟩)
    (works : fails session.sent = none) :
    (session.send adapter.server fails (.rollbackTo savepointName)).2 =
      ⟨session.committed, some ⟨saved_data, (savepointName, saved_data) :: older⟩,
        session.sent + 1⟩ := by
  rw [Session.send_works works]
  simp [Session.obey, opened, Session.since]

theorem send_release {session : EditSession Data} {data saved_data : Data}
    {older : List (Text × Data)}
    (opened : session.work = some ⟨data, (savepointName, saved_data) :: older⟩)
    (works : fails session.sent = none) :
    (session.send adapter.server fails (.release savepointName)).1.isOk = true := by
  rw [Session.send_works works]
  simp [Session.obey, opened, Session.since, Except.isOk, Except.toBool]

variable (adapter) in
theorem send_savepoint {session : EditSession Data} {work : Work Data Text}
    (opened : session.work = some work) (works : fails session.sent = none) :
    (session.send adapter.server fails (.savepoint savepointName)).2 = saved session work ∧
      (session.send adapter.server fails (.savepoint savepointName)).1.isOk = true := by
  rw [Session.send_works works]
  simp only [Session.obey, opened]
  exact ⟨rfl, rfl⟩

theorem visible_of_work {session : EditSession Data} {work : Work Data Text}
    (opened : session.work = some work) : session.visible = work.data := by
  simp only [Session.visible, opened]

theorem unchanged_open {before after : EditSession Data} {first last : Work Data Text}
    (committed : after.committed = before.committed) (opened : before.work = some first)
    (opened_after : after.work = some last) (same : last.data = first.data) :
    Unchanged adapter before after := by
  refine ⟨committed, ?_, ?_⟩
  · rw [visible_of_work opened, visible_of_work opened_after, same]
  · simp only [Adapter.inTransaction, opened, opened_after, Option.isSome_some]

/-- All edits are in and the savepoint still stands. -/
structure Edited (adapter : Adapter Data) (plan : CommitPlan) (session : EditSession Data)
    (work : Work Data Text) (final : EditSession Data) : Prop where
  committed : final.committed = session.committed
  sent : final.sent = session.sent + 1 + (adapter.statements plan).length
  work : final.work = some ⟨adapter.server.applyAll (adapter.statements plan) work.data,
    (savepointName, work.data) :: work.savepoints⟩

theorem edits_run (specified : AsSpecified adapter plan) (plain : Plain adapter plan)
    (once : ∀ first second, (fails first).isSome = true → (fails second).isSome = true →
      first = second)
    {session : EditSession Data} {work : Work Data Text} (opened : session.work = some work) :
    ((underSavepoint adapter fails plan (saved session work)).1.isOk = false ∧
      Unchanged adapter session (underSavepoint adapter fails plan (saved session work)).2 ∧
      ∃ index < session.sent + 1 + (adapter.statements plan).length,
        (fails index).isSome = true) ∨
    ∃ final, Edited adapter plan session work final ∧
      (underSavepoint adapter fails plan (saved session work)).2 =
        (final.send adapter.server fails (.release savepointName)).2 ∧
      (underSavepoint adapter fails plan (saved session work)).1.isOk =
        (final.send adapter.server fails (.release savepointName)).1.isOk := by
  obtain ⟨ended, ran, sent, outcome⟩ := runEach_ran fails plain session work
  obtain ⟨data, moved⟩ := ran.savepoints
  have committed := ran.committed
  rw [← sent] at moved committed
  rw [underSavepoint]
  cases edited : runEach adapter fails plan (saved session work) with
  | mk answers final =>
    rw [edited] at sent outcome moved committed
    cases reply : ended.1 with
    | error reason =>
      rw [reply] at outcome
      cases answers with
      | ok replies => cases outcome
      | error another =>
        left
        obtain ⟨index, _, early, before_now, fails_at⟩ := ran.failed reason reply
        have fails_there : (fails index).isSome = true := by
          rw [fails_at]
          rfl
        have works : fails final.sent = none := by
          by_contra again
          have same := once index final.sent fails_there (Option.isSome_iff_ne_none.mpr again)
          rw [← sent] at before_now
          change index < final.sent at before_now
          omega
        have undone := execute_single fails specified.rollbackTo final
        rw [send_rollbackTo moved works] at undone
        refine ⟨rfl, ?_, index, early, fails_there⟩
        rw [undone.1]
        exact unchanged_open committed opened rfl rfl
    | ok results =>
      rw [reply] at outcome
      cases answers with
      | error another => cases outcome
      | ok replies =>
        right
        obtain ⟨_, count, finished⟩ := ran.done results reply
        rw [← sent] at count finished
        refine ⟨final, ⟨committed, count, finished⟩, ?_⟩
        have released := execute_single fails specified.release final
        rw [← released.1, ← released.2]
        dsimp only
        cases closed : adapter.execute fails releaseSql 0 final with
        | mk reply last => cases reply <;> exact ⟨rfl, rfl⟩

/-- Inside the user's transaction the edits are undone, or only the release is left to do. -/
theorem savepoint_runs (specified : AsSpecified adapter plan) (plain : Plain adapter plan)
    (once : ∀ first second, (fails first).isSome = true → (fails second).isSome = true →
      first = second)
    {session : EditSession Data} {work : Work Data Text} (opened : session.work = some work) :
    ((runInSavepoint adapter fails plan session).1.isOk = false ∧
      Unchanged adapter session (runInSavepoint adapter fails plan session).2 ∧
      ∃ index < session.sent + 1 + (adapter.statements plan).length,
        (fails index).isSome = true) ∨
    ∃ final, Edited adapter plan session work final ∧
      (runInSavepoint adapter fails plan session).2 =
        (final.send adapter.server fails (.release savepointName)).2 ∧
      (runInSavepoint adapter fails plan session).1.isOk =
        (final.send adapter.server fails (.release savepointName)).1.isOk := by
  rw [runInSavepoint]
  have first := execute_single fails specified.savepoint session
  cases failing : fails session.sent with
  | some other =>
    rw [Session.send_fails failing] at first
    left
    cases began : adapter.execute fails savepointSql 0 session with
    | mk answer later =>
      rw [began] at first
      cases answer with
      | ok results => cases first.2
      | error another =>
        have same : later = _ := first.1
        refine ⟨rfl, ?_, session.sent, by omega, by rw [failing]; rfl⟩
        rw [same]
        exact unchanged_open rfl opened opened rfl
  | none =>
    have marked := send_savepoint adapter opened failing
    cases began : adapter.execute fails savepointSql 0 session with
    | mk answer later =>
      rw [began] at first
      cases answer with
      | error another => cases first.2.trans marked.2
      | ok results =>
        have here : later = saved session work := first.1.trans marked.1
        subst here
        exact edits_run specified plain once opened

theorem atomic_parts (atomic : plan.atomic = true) :
    editDialect plan.engine = some .sql ∧ ∃ parts, scriptParts plan.engine = some parts := by
  simp only [CommitPlan.atomic, isAtomic] at atomic
  split at atomic
  · cases atomic
  · rw [Bool.and_eq_true, beq_iff_eq, Option.isSome_iff_exists] at atomic
    exact atomic

theorem error_of_not_ok {answer : Except AppError (List StatementResult)}
    (failed : answer.isOk = false) : ∃ error, answer = .error error := by
  cases answer with
  | ok _ => cases failed
  | error error => exact ⟨error, rfl⟩

/-- Inside the user's transaction all hangs on the release of the savepoint. -/
theorem savepoint_restores_iff (specified : AsSpecified adapter plan) (plain : Plain adapter plan)
    (once : ∀ first second, (fails first).isSome = true → (fails second).isSome = true →
      first = second)
    {session : EditSession Data} {work : Work Data Text} (opened : session.work = some work) :
    (∀ error after, runInSavepoint adapter fails plan session = (.error error, after) →
        Unchanged adapter session after) ↔
      ((fails (session.sent + 1 + (adapter.statements plan).length)).isSome = true →
        adapter.server.applyAll (adapter.statements plan) session.visible = session.visible) := by
  rw [visible_of_work opened]
  rcases savepoint_runs specified plain once opened with
    ⟨failed, unchanged, index, early, fails_at⟩ | ⟨final, edited, left_after, outcome⟩
  · constructor
    · intro _ release_fails
      have same := once index _ fails_at release_fails
      omega
    · intro _ error after result
      rw [result] at unchanged
      exact unchanged
  · rw [← edited.sent]
    cases release_fails : fails final.sent with
    | none =>
      constructor
      · intro _ some_error
        cases some_error
      · intro _ error after result
        rw [result, send_release edited.work release_fails] at outcome
        cases outcome
    | some reason =>
      rw [Session.send_fails release_fails] at outcome left_after
      obtain ⟨error, failed⟩ := error_of_not_ok outcome
      constructor
      · intro restored _
        have unchanged := restored error _ (Prod.ext failed left_after)
        have counted : ({ final with sent := final.sent + 1 } : EditSession Data).work = _ :=
          edited.work
        have same : ({ final with sent := final.sent + 1 } : EditSession Data).visible = _ :=
          unchanged.visible
        rw [visible_of_work opened, visible_of_work counted] at same
        exact same
      · intro harmless other after result
        rw [result] at left_after
        change after = _ at left_after
        rw [left_after]
        exact unchanged_open edited.committed opened edited.work (harmless rfl)

end

section

/-- A database that keeps what it ran, one statement a text. -/
def ledger : Adapter (List Text) where
  manualTransactions := true
  cut text := [text]
  reads text maxRows :=
    if text = "BEGIN".toList then .begin
    else if text = "COMMIT".toList then .commit
    else if text = "ROLLBACK".toList then .rollback
    else if text = savepointSql then .savepoint savepointName
    else if text = releaseSql then .release savepointName
    else if text = rollbackToSql then .rollbackTo savepointName
    else .run (text, maxRows)
  server := {
    effect := fun statement data => (statement.1 :: data, some (.affected 1))
    done := fun _ => none
    refusal := fun _ => .driver "no transaction".toList none none none
    autocommit := true }

def renamed : CommitPlan where
  engine := .postgres
  items := [⟨"1".toList, "UPDATE t SET a = 1 WHERE id = 7".toList, .update⟩]
  returning := false

/-- One command, by its number, fails. -/
def failingAt (index : Nat) (asked : Nat) : Option AppError :=
  if asked = index then some (.timeout "no answer".toList) else none

theorem failingAt_once (index first second : Nat)
    (first_fails : (failingAt index first).isSome = true)
    (second_fails : (failingAt index second).isSome = true) : first = second := by
  rw [failingAt] at first_fails second_fails
  split at first_fails
  · split at second_fails
    · omega
    · cases second_fails
  · cases first_fails

theorem ledger_specified : AsSpecified ledger renamed where
  savepoint := by decide +kernel
  release := by decide +kernel
  rollbackTo := by decide +kernel
  script := fun scripted => by cases scripted
  opening := by
    intro parts wrapped statement listed
    cases wrapped
    rw [List.mem_singleton.mp listed]
    right
    decide +kernel
  begins := by
    intro parts wrapped
    cases wrapped
    left
    decide +kernel
  rollback := by
    intro parts wrapped
    cases wrapped
    left
    decide +kernel

theorem renamed_plain : Plain ledger renamed := by
  intro item inside statement cut
  rw [List.mem_singleton.mp inside] at cut
  rw [List.mem_singleton.mp cut]
  decide +kernel

end

end DbFree.Changes
