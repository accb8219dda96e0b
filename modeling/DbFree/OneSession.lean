import DbFree.SessionSteps

/- One live session for each tab: a connection is opened and used only on slots that are in
the table or still to be retired, as long as no slot is retired before a run that has taken
it gets its lock. -/
namespace DbFree.Pooling

open Interleaving

namespace Pins

/-- The registry while threads are at work on it. -/
abbrev Registry := Threads Pins PinOp PinOp.Answer (Except AppError StatementResults)

/-- Connections are used on live slots only, each has a slot that is in the table or that
someone sees to, and of two connections of one tab the older one is being retired. -/
structure OneLiveSession (registry : Registry) : Prop where
  well_used : registry.shared.misused = false
  owned : ∀ slot, (registry.shared.slots slot).state.conn ≠ none →
    ((registry.shared.slots slot).key, slot) ∈ registry.shared.table ∨
      registry.shared.spawned slot = true ∨
        ∃ thread, (registry.shared.slots slot).standing = .leaving thread ∧
          registry.running thread ≠ none
  single : ∀ slot other conn newer, slot ≠ other →
    (registry.shared.slots slot).state.conn = some conn →
    (registry.shared.slots other).state.conn = some newer →
    (registry.shared.slots slot).key = (registry.shared.slots other).key → conn < newer →
      ((registry.shared.slots slot).key, slot) ∉ registry.shared.table

variable {thread slot : Nat}

theorem probe_keeps : Verified exec Inv InOrder thread (probe slot) (RunsOn thread slot)
    fun _ => RunsOn thread slot := by
  have working := runsOn_working thread slot
  apply Verified.bind (does_probeDue working)
  intro due
  cases due with
  | false => exact Verified.done fun _ _ running => running
  | true =>
    apply Verified.bind ((does_state working))
    intro session
    show Verified exec Inv InOrder thread (if session.conn.isSome then _ else _) _ _
    split
    · apply Verified.of_known _ (fun _ _ both => both.1)
      apply Verified.bind does_alive
      intro answers
      cases answers with
      | true => exact Verified.done fun _ _ running => running
      | false =>
        apply Verified.bind (does_closeConn working)
        intro _
        exact (does_setLoss working).of_known fun _ _ both => both.1
    · exact Verified.done fun _ _ both => both.1

theorem runOn_keeps (dialect : Dialect) (sql : Text) (maxRows : Nat) :
    Verified exec Inv InOrder thread (runOn dialect slot sql maxRows) (RunsOn thread slot)
      fun _ => Idle thread := by
  have working := runsOn_working thread slot
  have unlocks := does_unlock working fun _ running => running.1
  unfold runOn
  extract_lets goes
  have goes_on : ∀ flagged, Verified exec Inv InOrder thread (goes flagged) (RunsOn thread slot)
      fun _ => Idle thread := by
    intro _
    apply Verified.bind (does_state working)
    intro session
    apply Verified.of_known _ (fun _ _ both => both.1)
    split
    · apply Verified.bind unlocks
      exact fun _ => Verified.done fun _ _ idle => idle
    · apply Verified.bind (does_send sql maxRows)
      intro (result, lost)
      apply Verified.bind (does_used working)
      intro _
      cases lost with
      | false =>
        apply Verified.bind unlocks
        exact fun _ => Verified.done fun _ _ idle => idle
      | true =>
        apply Verified.bind (does_closeConn working)
        intro _
        apply Verified.bind ((does_clearFlags working .lost).of_known fun _ _ both => both.1)
        intro _
        apply Verified.bind unlocks
        intro _
        cases result with
        | error original => exact Verified.done fun _ _ idle => idle
        | ok results => exact Verified.done fun _ _ idle => idle
  split
  · exact Verified.bind (does_setStateful working) goes_on
  · exact goes_on ()

theorem runLocked_keeps (dialect : Dialect) (sql : Text) (maxRows : Nat) :
    Verified exec Inv InOrder thread (runLocked dialect slot sql maxRows) (RunsOn thread slot)
      fun _ => Idle thread := by
  have working := runsOn_working thread slot
  have unlocks := does_unlock working fun _ running => running.1
  apply Verified.bind probe_keeps
  intro _
  apply Verified.bind (does_state working)
  intro session
  apply Verified.of_known _ (fun _ _ both => both.1)
  split
  · split
    · apply Verified.bind (does_clearFlags working .expired)
      intro _
      apply Verified.bind unlocks
      exact fun _ => Verified.done fun _ _ idle => idle
    · apply Verified.bind (does_clearFlags working .nothing)
      intro _
      apply Verified.bind does_openConn
      intro opened
      cases opened with
      | error error =>
        apply Verified.bind unlocks
        exact fun _ => Verified.done fun _ _ idle => idle
      | ok => exact runOn_keeps dialect sql maxRows
  · exact runOn_keeps dialect sql maxRows

theorem run_keeps (dialect : Dialect) (key sql : Text) (maxRows : Nat) :
    Verified exec Inv InOrder thread (run dialect key sql maxRows) (Idle thread)
      fun _ => Idle thread := by
  apply Verified.bind (does_takeSlot key)
  intro taken
  cases taken with
  | error error => exact Verified.done fun _ _ idle => idle
  | ok slot =>
    apply Verified.bind does_lock
    intro _
    exact runLocked_keeps dialect sql maxRows

theorem close_keeps (key : Text) :
    Verified exec Inv InOrder thread (close key) (Idle thread) fun _ => Idle thread := by
  apply Verified.bind (does_remove key)
  intro removed
  cases removed with
  | none => exact Verified.done fun _ _ idle => idle
  | some slot =>
    apply Verified.gives (does_retire [])
    exact fun _ _ _ removes => removes.1

/-- Closes the session of the first of the slots in hand. -/
theorem closing_keeps {rest : List Nat} {session : SlotState} {next : PinProg Unit}
    {result : Unit → Pins → Prop}
    (goes_on : Verified exec Inv InOrder thread next (Removes thread rest) result) :
    Verified exec Inv InOrder thread
      (if session.conn.isSome then closeConn slot >>= fun _ => release slot >>= fun _ => next
        else release slot >>= fun _ => next)
      (fun pins => Closes thread slot rest pins ∧ (pins.slots slot).state = session) result := by
  have working := closes_working thread slot rest
  split
  · apply Verified.bind ((does_closeConn working).of_known fun _ _ both => both.1)
    intro _
    exact Verified.bind (does_release rest) fun _ => goes_on
  · rename_i none_open
    apply Verified.of_known (Verified.bind (does_release rest) fun _ => goes_on)
    intro pins _ both
    refine ⟨both.1, ?_⟩
    rw [both.2]
    simpa using none_open

theorem retireTask_keeps :
    Verified exec Inv InOrder thread retireTask (Idle thread) fun _ => Idle thread := by
  apply Verified.bind does_board
  intro slot
  apply Verified.bind (does_lockRemoved [])
  intro _
  apply Verified.bind (does_state (closes_working thread slot []))
  intro session
  have ends : Verified exec Inv InOrder thread (pure () : PinProg Unit) (Removes thread [])
      fun _ => Idle thread := Verified.done fun _ _ removes => removes.1
  exact closing_keeps ends

theorem closeEach_keeps (slots : List Nat) :
    Verified exec Inv InOrder thread (closeEach slots) (Removes thread slots)
      fun _ => Idle thread := by
  induction slots with
  | nil => exact Verified.done fun _ _ removes => removes.1
  | cons slot rest hypothesis =>
    apply Verified.bind (does_lockInTime rest)
    intro got
    cases got with
    | false => exact Verified.bind (does_retire rest) fun _ => hypothesis
    | true =>
      apply Verified.bind (does_state (closes_working thread slot rest))
      intro session
      exact closing_keeps hypothesis

theorem closeAll_keeps :
    Verified exec Inv InOrder thread closeAll (Idle thread) fun _ => Idle thread :=
  Verified.bind does_drain closeEach_keeps

theorem sweepOne_keeps :
    Verified exec Inv InOrder thread (sweepOne slot) (Idle thread) fun _ => Idle thread := by
  have working := sweeps_working thread slot
  have unlocks := does_unlock working fun _ sweeps => sweeps
  apply Verified.bind does_tryLock
  intro got
  cases got with
  | false => exact Verified.done fun _ _ idle => idle
  | true =>
    apply Verified.bind (does_state working)
    intro session
    apply Verified.of_known _ (fun _ _ both => both.1)
    show Verified exec Inv InOrder thread (if session.conn.isSome then _ else _) _ _
    split
    · apply Verified.bind (does_idle working)
      intro tooLong
      cases tooLong with
      | false => exact unlocks
      | true =>
        apply Verified.bind (does_closeConn working)
        intro _
        apply Verified.bind ((does_setLoss working).of_known fun _ _ both => both.1)
        exact fun _ => unlocks
    · exact unlocks

theorem sweepEach_keeps (slots : List Nat) :
    Verified exec Inv InOrder thread (sweepEach slots) (Idle thread) fun _ => Idle thread := by
  induction slots with
  | nil => exact Verified.done fun _ _ idle => idle
  | cons slot rest hypothesis => exact Verified.bind sweepOne_keeps fun _ => hypothesis

theorem call_keeps (dialect : Dialect) (call : PinCall) :
    Verified exec Inv InOrder thread (call.program dialect) (Idle thread) fun _ => Idle thread := by
  have ends : ∀ {prog : PinProg Unit}, Verified exec Inv InOrder thread prog (Idle thread)
      (fun _ => Idle thread) → Verified exec Inv InOrder thread
        (prog >>= fun _ => return .ok []) (Idle thread)
        fun (_ : Except AppError StatementResults) => Idle thread :=
    fun keeps => keeps.bind fun _ => Verified.done fun _ _ idle => idle
  cases call with
  | run key sql maxRows => exact run_keeps dialect key sql maxRows
  | close key => exact ends (close_keeps key)
  | closeAll => exact ends closeAll_keeps
  | sweep => exact ends (Verified.bind does_snapshot sweepEach_keeps)
  | retireTask => exact ends retireTask_keeps

/-- The invariant, and threads that are done having nothing in hand, are what is wanted. -/
theorem oneLiveSession_of_inv {registry : Registry} (inv : registry.shared.Inv)
    (rests : ∀ thread, registry.running thread = none → Idle thread registry.shared) :
    OneLiveSession registry where
  well_used := inv.well_used
  owned slot opened := by
    have live := inv.open_live slot opened
    cases standing : (registry.shared.slots slot).standing with
    | unmade => exact absurd standing live.2
    | mapped => exact .inl (inv.listed slot standing)
    | leaving thread =>
      refine .inr (.inr ⟨thread, rfl, fun stopped => ?_⟩)
      exact absurd (((rests thread stopped).hand slot).mp standing) List.not_mem_nil
    | retiring => exact .inr (.inl ((inv.tasks slot).mpr standing))
    | retired => exact absurd standing live.1
  single slot other conn newer different has has_newer keys older mem := by
    have kept := inv.latest slot other conn newer different has has_newer
    exact kept.2 keys older (inv.keyed _ mem).2

/-- In every interleaving that keeps the order there is one live session for each tab. -/
theorem one_live_session (limits : Limits) (dialect : Dialect)
    (events : List (Event PinCall Answers))
    (in_order : Machine.Along (step exec (PinCall.program dialect)) (Meets InOrder)
      (start (new limits dialect)) events) :
    Machine.Throughout (step exec (PinCall.program dialect)) OneLiveSession
      (start (new limits dialect)) events := by
  have idle_start : ∀ thread, Idle thread (new limits dialect) := by
    intro thread
    exact ⟨rfl, by simp [new, Slot.unmade], by simp [new, Slot.unmade]⟩
  have kept := throughout_idle (fun thread => local_stable thread none none [])
    (fun _ call => call_keeps dialect call) (new_inv limits dialect) idle_start in_order
  exact kept.mono fun registry both => oneLiveSession_of_inv both.1 both.2

def someLimits : Limits := ⟨1800, 20, 16⟩

/-- Connections open and answer, and the first retire task is the one that begins. -/
def working : Answers where
  now := 1
  victim := []
  alive := true
  openFails := none
  result := .ok []
  lost := false
  inTime := true
  task := 0

/-- A run up to the lock of its slot, and the rest of it. -/
def takes : List (Event PinCall Answers) :=
  [.call 0 (.run "a".toList "SELECT 1".toList 100), .go 0 working]

def runsOn : List (Event PinCall Answers) := List.replicate 10 (.go 0 working)

def closesTab : List (Event PinCall Answers) :=
  .call 1 (.close "a".toList) :: List.replicate 3 (.go 1 working)

def retires (steps : Nat) : List (Event PinCall Answers) :=
  .call 2 .retireTask :: List.replicate steps (.go 2 working)

theorem nobody_waits (runner : Nat) :
    Function.update (Function.update (fun _ => none) 0 (some 0)) 0 none runner ≠ some 0 := by
  rw [Function.update_idem]
  by_cases first : runner = 0
  · rw [first, Function.update_self]
    simp
  · rw [Function.update_of_ne first]
    simp

/-- A run that returns before its tab is closed. -/
theorem run_then_close : Machine.Throughout (step exec (PinCall.program .postgres)) OneLiveSession
    (start (new someLimits .postgres)) (takes ++ runsOn ++ closesTab ++ retires 6) := by
  apply one_live_session
  apply Machine.along_step rfl trivial
  apply Machine.along_step rfl (meets_go rfl trivial)
  apply Machine.along_step rfl (meets_go rfl trivial)
  apply Machine.along_step rfl (meets_go rfl trivial)
  apply Machine.along_step rfl (meets_go rfl trivial)
  apply Machine.along_step rfl (meets_go rfl trivial)
  apply Machine.along_step rfl (meets_go rfl fun _ unmapped => absurd rfl unmapped)
  apply Machine.along_step rfl (meets_go rfl trivial)
  apply Machine.along_step rfl (meets_go rfl trivial)
  apply Machine.along_step rfl (meets_go rfl trivial)
  apply Machine.along_step rfl (meets_go rfl trivial)
  apply Machine.along_step rfl fun _ _ running => nomatch running
  apply Machine.along_step rfl trivial
  apply Machine.along_step rfl (meets_go rfl trivial)
  apply Machine.along_step rfl (meets_go rfl trivial)
  apply Machine.along_step rfl fun _ _ running => nomatch running
  apply Machine.along_step rfl trivial
  apply Machine.along_step rfl (meets_go rfl trivial)
  apply Machine.along_step rfl (meets_go rfl fun runner => nobody_waits runner)
  apply Machine.along_step rfl (meets_go rfl trivial)
  apply Machine.along_step rfl (meets_go rfl trivial)
  apply Machine.along_step rfl (meets_go rfl trivial)
  exact Machine.along_step rfl (fun _ _ running => nomatch running) trivial

/-- A tab that is closed, its retire task done, while its run is on its way to the lock. -/
theorem close_then_run : ¬Machine.Throughout (step exec (PinCall.program .postgres))
    OneLiveSession (start (new someLimits .postgres))
    (takes ++ closesTab ++ retires 5 ++ List.replicate 5 (.go 0 working)) := by
  intro holds
  have after := holds.last rfl
  have used : true = false := after.well_used
  cases used

end Pins

end DbFree.Pooling
