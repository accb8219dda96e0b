import Mathlib

/- Sessions of a server with transactions and savepoints: what each command does to the
data, also when it fails. -/
namespace DbFree.Transactions

variable {Data Name Statement Result Error : Type}

/-- An open transaction: the data as it sees them, and as they were at its savepoints. -/
structure Work (Data Name : Type) where
  data : Data
  savepoints : List (Name × Data)
deriving DecidableEq

structure Session (Data Name : Type) where
  committed : Data
  work : Option (Work Data Name)
  /-- The commands sent so far. -/
  sent : Nat
deriving DecidableEq

/-- What a server takes a statement for. -/
inductive Command (Name Statement : Type) where
  | run (statement : Statement)
  | begin
  | commit
  | rollback
  | rollbackOpen
  | savepoint (name : Name)
  | release (name : Name)
  | rollbackTo (name : Name)
  | setting
  /-- A statement that ends the transaction before it runs. -/
  | commitFirst (statement : Statement)
deriving DecidableEq

/-- Whether a command ends the transaction even when it fails. -/
def Command.ends : Command Name Statement → Bool
  | .commit | .rollback | .rollbackOpen => true
  | _ => false

/-- Commands that leave everything uncommitted while a transaction is open. -/
def Command.Staging (command : Command Name Statement) : Prop :=
  command = .setting ∨ command = .begin ∨ ∃ statement, command = .run statement

theorem Command.Staging.not_ends {command : Command Name Statement} (staging : command.Staging) :
    command.ends = false := by
  rcases staging with same | same | ⟨statement, same⟩ <;> rw [same] <;> rfl

theorem Command.staging_run (statements : List Statement) :
    ∀ command ∈ (statements.map .run : List (Command Name Statement)), command.Staging := by
  intro command inside
  obtain ⟨statement, _, same⟩ := List.mem_map.mp inside
  exact Or.inr (Or.inr ⟨statement, same.symm⟩)

/-- The server's own part: what statements do, and what it says to a command out of place. -/
structure Server (Data Name Statement Result Error : Type) where
  effect : Statement → Data → Data × Result
  done : Command Name Statement → Result
  refusal : Command Name Statement → Error
  /-- A statement outside a transaction is committed at once, or begins a transaction. -/
  autocommit : Bool

namespace Session

/-- The data as the session sees them. -/
def visible (session : Session Data Name) : Data :=
  match session.work with
  | some work => work.data
  | none => session.committed

variable (server : Server Data Name Statement Result Error)

/-- The statement runs where the session is. -/
def apply (session : Session Data Name) (statement : Statement) : Result × Session Data Name :=
  match session.work with
  | some work =>
    let (data, result) := server.effect statement work.data
    (result, { session with work := some { work with data } })
  | none =>
    let (data, result) := server.effect statement session.committed
    (result, if server.autocommit then { session with committed := data }
      else { session with work := some ⟨data, []⟩ })

/-- Everything up to the savepoint, itself included. -/
def since [DecidableEq Name] (name : Name) (savepoints : List (Name × Data)) :
    List (Name × Data) :=
  savepoints.dropWhile (·.1 ≠ name)

def obey [DecidableEq Name] (session : Session Data Name) (command : Command Name Statement) :
    Except Error Result × Session Data Name :=
  let done := fun later => (.ok (server.done command), later)
  let refused := (.error (server.refusal command), session)
  match command, session.work with
  | .run statement, _ =>
    let (result, later) := session.apply server statement
    (.ok result, later)
  | .setting, _ => done session
  | .begin, none => done { session with work := some ⟨session.committed, []⟩ }
  | .begin, some _ => refused
  | .commit, some work => done { session with
      committed := work.data
      work := none }
  | .commit, none => refused
  | .rollback, some _ => done { session with work := none }
  | .rollback, none => refused
  | .rollbackOpen, _ => done { session with work := none }
  | .savepoint name, some work =>
    done { session with work := some { work with
      savepoints := (name, work.data) :: work.savepoints } }
  | .savepoint _, none => refused
  | .release name, some work =>
    match since name work.savepoints with
    | _ :: older => done { session with work := some { work with savepoints := older } }
    | [] => refused
  | .release _, none => refused
  | .rollbackTo name, some work =>
    match since name work.savepoints with
    | (here, data) :: older => done { session with work := some ⟨data, (here, data) :: older⟩ }
    | [] => refused
  | .rollbackTo _, none => refused
  | .commitFirst statement, some work =>
    let (data, result) := server.effect statement work.data
    (.ok result, { session with
      committed := data
      work := none })
  | .commitFirst statement, none =>
    let (data, result) := server.effect statement session.committed
    (.ok result, { session with committed := data })

attribute [grind =] obey.eq_1

/-- The command is sent; it may fail for reasons of its own. -/
def send [DecidableEq Name] (fails : Nat → Option Error) (session : Session Data Name)
    (command : Command Name Statement) : Except Error Result × Session Data Name :=
  let counted := { session with sent := session.sent + 1 }
  match fails session.sent with
  | some error => (.error error, if command.ends then { counted with work := none } else counted)
  | none => counted.obey server command

/-- The commands are sent in order, up to the first that fails. -/
def sendAll [DecidableEq Name] (fails : Nat → Option Error) :
    List (Command Name Statement) → Session Data Name →
      Except Error (List Result) × Session Data Name
  | [], session => (.ok [], session)
  | command :: rest, session =>
    match session.send server fails command with
    | (.error error, later) => (.error error, later)
    | (.ok result, later) =>
      match sendAll fails rest later with
      | (.error error, last) => (.error error, last)
      | (.ok results, last) => (.ok (result :: results), last)

end Session

/-- What the statements do to the data, one after the other. -/
def Server.applyAll (server : Server Data Name Statement Result Error)
    (statements : List Statement) (data : Data) : Data :=
  statements.foldl (fun data statement => (server.effect statement data).1) data

namespace Session

variable {server : Server Data Name Statement Result Error} [DecidableEq Name]
  {fails : Nat → Option Error}

theorem send_fails {session : Session Data Name} {error : Error}
    (failing : fails session.sent = some error) (command : Command Name Statement) :
    session.send server fails command = (.error error,
      if command.ends then { session with
        sent := session.sent + 1
        work := none } else { session with sent := session.sent + 1 }) := by
  simp only [send, failing]

theorem send_works {session : Session Data Name} (works : fails session.sent = none)
    (command : Command Name Statement) :
    session.send server fails command =
      ({ session with sent := session.sent + 1 } : Session Data Name).obey server command := by
  simp only [send, works]

theorem sendAll_fails {first second : List (Command Name Statement)}
    {session later : Session Data Name} {error : Error}
    (failing : sendAll server fails first session = (.error error, later)) :
    sendAll server fails (first ++ second) session = (.error error, later) := by
  induction first generalizing session with
  | nil => cases failing
  | cons command rest hypothesis =>
    rw [List.cons_append]
    rw [sendAll] at failing ⊢
    cases sent : session.send server fails command with
    | mk answer middle =>
      simp only [sent] at failing ⊢
      cases answer with
      | error other => exact failing
      | ok result =>
        cases ended : sendAll server fails rest middle with
        | mk answers last =>
          simp only [ended] at failing
          cases answers with
          | ok results => cases failing
          | error other =>
            cases failing
            simp only [hypothesis ended]

theorem sendAll_works {first second : List (Command Name Statement)}
    {session later : Session Data Name} {results : List Result}
    (works : sendAll server fails first session = (.ok results, later)) :
    sendAll server fails (first ++ second) session =
      ((sendAll server fails second later).1.map (results ++ ·),
        (sendAll server fails second later).2) := by
  induction first generalizing session results with
  | nil =>
    cases works
    rw [List.nil_append]
    cases ended : sendAll server fails second later with
    | mk answers last => cases answers <;> rfl
  | cons command rest hypothesis =>
    rw [List.cons_append]
    rw [sendAll] at works ⊢
    cases sent : session.send server fails command with
    | mk answer middle =>
      simp only [sent] at works ⊢
      cases answer with
      | error other => cases works
      | ok result =>
        cases ended : sendAll server fails rest middle with
        | mk answers last =>
          simp only [ended] at works
          cases answers with
          | error other => cases works
          | ok others =>
            cases works
            simp only [hypothesis ended]
            cases finished : sendAll server fails second later with
            | mk answers final => cases answers <;> rfl

variable (server fails) in
theorem sendAll_single (command : Command Name Statement) (session : Session Data Name) :
    (sendAll server fails [command] session).2 = (session.send server fails command).2 ∧
      (sendAll server fails [command] session).1.isOk =
        (session.send server fails command).1.isOk := by
  rw [sendAll]
  cases session.send server fails command with
  | mk answer later => cases answer <;> exact ⟨rfl, rfl⟩

/-- Statements in a transaction touch nothing but its data; they fail where one of them is
made to, and else have their whole effect. -/
structure Ran (server : Server Data Name Statement Result Error) (fails : Nat → Option Error)
    (statements : List Statement) (before : Session Data Name) (work : Work Data Name)
    (ended : Except Error (List Result) × Session Data Name) : Prop where
  committed : ended.2.committed = before.committed
  savepoints : ∃ data, ended.2.work = some { work with data }
  failed : ∀ error, ended.1 = .error error → ∃ index, before.sent ≤ index ∧
    index < before.sent + statements.length ∧ index < ended.2.sent ∧ fails index = some error
  done : ∀ results, ended.1 = .ok results → results.length = statements.length ∧
    ended.2.sent = before.sent + statements.length ∧
    ended.2.work = some { work with data := server.applyAll statements work.data }

theorem obey_run {session : Session Data Name} {work : Work Data Name}
    (opened : session.work = some work) (statement : Statement) :
    session.obey server (.run statement) = (.ok (server.effect statement work.data).2,
      { session with
        work := some { work with data := (server.effect statement work.data).1 } }) := by
  simp only [obey, apply, opened]

variable (server fails) in
theorem sendAll_ran {before : Session Data Name} {work : Work Data Name}
    (opened : before.work = some work) (statements : List Statement) :
    Ran server fails statements before work
      (sendAll server fails (statements.map .run) before) := by
  induction statements generalizing before work with
  | nil =>
    refine ⟨rfl, ⟨work.data, opened⟩, fun error ended => ?_, fun results ended => ?_⟩
    · cases ended
    · cases ended
      exact ⟨rfl, rfl, opened⟩
  | cons statement rest hypothesis =>
    rw [List.map_cons, sendAll]
    cases failing : fails before.sent with
    | some error =>
      rw [send_fails failing]
      refine ⟨rfl, ⟨work.data, opened⟩, fun other ended => ?_, fun results ended => ?_⟩
      · cases ended
        exact ⟨before.sent, Nat.le_refl _, by simp, Nat.lt_succ_self _, failing⟩
      · cases ended
    | none =>
      have counted : ({ before with sent := before.sent + 1 } : Session Data Name).work =
          some work := opened
      rw [send_works failing, obey_run counted]
      let later : Session Data Name := { before with
        sent := before.sent + 1
        work := some { work with data := (server.effect statement work.data).1 } }
      have ran : Ran server fails rest later _ (sendAll server fails (rest.map .run) later) :=
        hypothesis rfl
      dsimp only
      cases ended : sendAll server fails (rest.map .run) later with
      | mk answer last =>
        rw [ended] at ran
        cases answer with
        | error error =>
          refine ⟨ran.committed, ran.savepoints, fun other same => ?_, fun results same => ?_⟩
          · obtain ⟨index, lower, upper, sent, fails_at⟩ := ran.failed error rfl
            cases same
            change before.sent + 1 ≤ index at lower
            change index < before.sent + 1 + rest.length at upper
            refine ⟨index, by omega, ?_, sent, fails_at⟩
            rw [List.length_cons]
            omega
          · cases same
        | ok results =>
          refine ⟨ran.committed, ran.savepoints, fun other same => ?_, fun all same => ?_⟩
          · cases same
          · obtain ⟨lengths, sent, work_eq⟩ := ran.done results rfl
            cases same
            refine ⟨by simp [lengths], ?_, work_eq⟩
            change last.sent = before.sent + 1 + rest.length at sent
            show last.sent = before.sent + (rest.length + 1)
            omega

/-- What a statement does now is not committed at once. -/
def Guarded (server : Server Data Name Statement Result Error) (session : Session Data Name) :
    Prop :=
  session.work.isSome = true ∨ server.autocommit = false

theorem obey_staging {session : Session Data Name} {command : Command Name Statement}
    (staging : command.Staging) (guarded : Guarded server session) :
    (session.obey server command).2.committed = session.committed ∧
      Guarded server (session.obey server command).2 := by
  rcases staging with same | same | ⟨statement, same⟩
  · subst same
    exact ⟨rfl, guarded⟩
  · subst same
    simp only [obey]
    cases session.work with
    | none => exact ⟨rfl, Or.inl rfl⟩
    | some work => exact ⟨rfl, guarded⟩
  · subst same
    simp only [obey, apply]
    cases opened : session.work with
    | some work => exact ⟨rfl, Or.inl rfl⟩
    | none =>
      have delayed : server.autocommit = false := by
        rcases guarded with some | delayed
        · rw [opened] at some
          cases some
        · exact delayed
      simp only [delayed]
      exact ⟨rfl, Or.inl rfl⟩

variable (fails) in
/-- Under a guard nothing is committed, whichever command fails. -/
theorem sendAll_staging {commands : List (Command Name Statement)}
    (staging : ∀ command ∈ commands, command.Staging) {session : Session Data Name}
    (guarded : Guarded server session) :
    (sendAll server fails commands session).2.committed = session.committed ∧
      Guarded server (sendAll server fails commands session).2 := by
  induction commands generalizing session with
  | nil => exact ⟨rfl, guarded⟩
  | cons command rest hypothesis =>
    have first : command.Staging := staging command (by simp)
    have others : ∀ other ∈ rest, other.Staging := fun other inside =>
      staging other (List.mem_cons_of_mem _ inside)
    rw [sendAll]
    cases failing : fails session.sent with
    | some error =>
      rw [send_fails failing]
      simp only [first.not_ends]
      exact ⟨rfl, guarded⟩
    | none =>
      rw [send_works failing]
      have counted : Guarded server { session with sent := session.sent + 1 } := guarded
      have kept := obey_staging first counted
      cases obeyed : ({ session with sent := session.sent + 1 } : Session Data Name).obey
          server command with
      | mk answer later =>
        rw [obeyed] at kept
        cases answer with
        | error error => exact kept
        | ok result =>
          have run := hypothesis others kept.2
          dsimp only
          cases ended : sendAll server fails rest later with
          | mk answers last =>
            rw [ended] at run
            cases answers <;> exact ⟨run.1.trans kept.1, run.2⟩

variable (server) in
theorem obey_opening {command : Command Name Statement}
    (opening : command = .setting ∨ command = .begin) (session : Session Data Name) :
    (session.obey server command).2.committed = session.committed ∧
      ((command = .begin ∨ session.work.isSome = true) →
        (session.obey server command).2.work.isSome = true) := by
  rcases opening with same | same
  · subst same
    refine ⟨rfl, fun begun => ?_⟩
    rcases begun with other | some
    · cases other
    · exact some
  · subst same
    simp only [obey]
    cases opened : session.work with
    | none => exact ⟨rfl, fun _ => rfl⟩
    | some work => exact ⟨rfl, fun _ => by simp [opened]⟩

variable (server fails) in
/-- What opens a script commits nothing; where it begins a transaction, one is open after. -/
theorem sendAll_opening {commands : List (Command Name Statement)}
    (opening : ∀ command ∈ commands, command = .setting ∨ command = .begin)
    (session : Session Data Name) :
    (sendAll server fails commands session).2.committed = session.committed ∧
      ((sendAll server fails commands session).1.isOk = true →
        (.begin ∈ commands ∨ session.work.isSome = true) →
          (sendAll server fails commands session).2.work.isSome = true) := by
  induction commands generalizing session with
  | nil =>
    refine ⟨rfl, fun _ begun => ?_⟩
    rcases begun with inside | some
    · cases inside
    · exact some
  | cons command rest hypothesis =>
    have others : ∀ other ∈ rest, other = .setting ∨ other = .begin := fun other inside =>
      opening other (List.mem_cons_of_mem _ inside)
    rw [sendAll]
    cases failing : fails session.sent with
    | some error =>
      have staging : command.Staging :=
        (opening command (by simp)).imp id Or.inl
      rw [send_fails failing]
      simp only [staging.not_ends]
      exact ⟨rfl, fun ok => by cases ok⟩
    | none =>
      rw [send_works failing]
      have step := obey_opening server (opening command (by simp))
        { session with sent := session.sent + 1 }
      cases obeyed : ({ session with sent := session.sent + 1 } : Session Data Name).obey
          server command with
      | mk answer later =>
      rw [obeyed] at step
      have committed : later.committed = session.committed := step.1
      have begun : (command = .begin ∨ session.work.isSome = true) → later.work.isSome = true :=
        step.2
      cases answer with
      | error error => exact ⟨committed, fun ok => by cases ok⟩
      | ok result =>
        have run := hypothesis others later
        dsimp only
        cases ended : sendAll server fails rest later with
        | mk answers last =>
          rw [ended] at run
          cases answers with
          | error error => exact ⟨run.1.trans committed, fun ok => by cases ok⟩
          | ok results =>
            refine ⟨run.1.trans committed, fun _ open_or => run.2 rfl ?_⟩
            rcases open_or with inside | some
            · rcases List.mem_cons.mp inside with same | inside
              · exact Or.inr (begun (Or.inl same.symm))
              · exact Or.inl inside
            · exact Or.inr (begun (Or.inr some))

variable (server fails) in
/-- A rollback closes the transaction, whether the server takes it or not. -/
theorem send_rollback {command : Command Name Statement}
    (undoing : command = .rollback ∨ command = .rollbackOpen) (session : Session Data Name) :
    (session.send server fails command).2.work = none ∧
      (session.send server fails command).2.committed = session.committed := by
  have ending : command.ends = true := by
    rcases undoing with same | same <;> rw [same] <;> rfl
  cases failing : fails session.sent with
  | some error =>
    rw [send_fails failing]
    simp only [ending]
    exact ⟨rfl, rfl⟩
  | none =>
    rw [send_works failing]
    rcases undoing with same | same
    · subst same
      simp only [obey]
      cases session.work <;> exact ⟨rfl, rfl⟩
    · subst same
      exact ⟨rfl, rfl⟩

theorem send_commit_fails {session : Session Data Name}
    (refused : (session.send server fails .commit).1.isOk = false) :
    (session.send server fails .commit).2.work = none ∧
      (session.send server fails .commit).2.committed = session.committed := by
  cases failing : fails session.sent with
  | some error =>
    rw [send_fails failing]
    exact ⟨rfl, rfl⟩
  | none =>
    rw [send_works failing] at refused ⊢
    simp only [obey] at refused ⊢
    cases opened : session.work with
    | none => exact ⟨rfl, rfl⟩
    | some work =>
      rw [opened] at refused
      cases refused

/-- A script that opens a transaction, runs its statements and commits has committed nothing
when it fails. -/
theorem sendAll_script {opening : List (Command Name Statement)} {statements : List Statement}
    (openings : ∀ command ∈ opening, command = .setting ∨ command = .begin)
    (begins : .begin ∈ opening ∨ server.autocommit = false) (session : Session Data Name)
    (failed : (sendAll server fails (opening ++ statements.map .run ++ [.commit])
      session).1.isOk = false) :
    (sendAll server fails (opening ++ statements.map .run ++ [.commit]) session).2.committed =
      session.committed := by
  have opened := sendAll_opening server fails openings session
  rw [List.append_assoc] at failed ⊢
  cases began : sendAll server fails opening session with
  | mk answer later =>
    rw [began] at opened
    cases answer with
    | error error =>
      rw [sendAll_fails began]
      exact opened.1
    | ok results =>
      rw [sendAll_works began] at failed ⊢
      have guarded : Guarded server later :=
        begins.imp (fun inside => opened.2 rfl (Or.inl inside)) id
      have kept := sendAll_staging fails (Command.staging_run statements) guarded
      refine Eq.trans ?_ opened.1
      cases ran : sendAll server fails (statements.map .run) later with
      | mk replies last =>
        rw [ran] at kept
        cases replies with
        | error error =>
          rw [sendAll_fails ran]
          exact kept.1
        | ok others =>
          rw [sendAll_works ran] at failed ⊢
          refine Eq.trans ?_ kept.1
          have single := sendAll_single server fails .commit last
          have refused : (last.send server fails .commit).1.isOk = false := by
            rw [← single.2]
            cases closed : sendAll server fails [.commit] last with
            | mk reply final =>
              cases reply with
              | ok result =>
                rw [closed] at failed
                cases failed
              | error error => rfl
          have ended := send_commit_fails refused
          rw [single.1]
          exact ended.2

end Session

end DbFree.Transactions
