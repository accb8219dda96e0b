import DbFree.SessionDebts

/- A tab is told of the loss of a session that held state before anything is sent for it on
another one, over any sequence of calls: unless the session was retired to make room. -/
namespace DbFree.Pooling

open Interleaving

namespace Pins

variable {dialect : Dialect} {pins : Pins} {slot : Nat} {key sql : Text}
  {allowed : Answers → Prop}

/-- Nothing was sent and nobody was told anything since. -/
structure Quiet (dialect : Dialect) (pins now : Pins) : Prop where
  settled : Settled dialect now
  table : now.table = pins.table
  sent : now.sent = pins.sent
  owed : now.owed = pins.owed

theorem Quiet.find {now : Pins} (quiet : Quiet dialect pins now) (key : Text) :
    now.find key = pins.find key := find_of_table quiet.table key

theorem Quiet.step {now next : Pins} (quiet : Quiet dialect pins now)
    (same : SameShape slot now next) (speaks : next.dialect = now.dialect)
    (owed : next.owed = now.owed) (sent : next.sent = now.sent)
    (conn : (next.slots slot).state.conn = (now.slots slot).state.conn)
    (stateful : (next.slots slot).state.stateful = (now.slots slot).state.stateful)
    (loss : (next.slots slot).state.unannouncedLoss = (now.slots slot).state.unannouncedLoss) :
    Quiet dialect pins next where
  settled := quiet.settled.quiet same speaks owed conn stateful loss
  table := by rw [same.table, quiet.table]
  sent := by rw [sent, quiet.sent]
  owed := by rw [owed, quiet.owed]

/-- The change of a slot that does not count. -/
theorem Quiet.modify {now : Pins} (quiet : Quiet dialect pins now) (slot : Nat)
    {change : Slot → Slot} (same : ∀ s, (change s).key = s.key ∧ (change s).standing = s.standing ∧
      (change s).state.conn = s.state.conn ∧ (change s).state.stateful = s.state.stateful ∧
      (change s).state.unannouncedLoss = s.state.unannouncedLoss) :
    Quiet dialect pins (now.modify slot change) := by
  have kept := same (now.slots slot)
  apply quiet.step (sameShape_modify now kept.1 kept.2.1) rfl rfl rfl
  · rw [modify_self, kept.2.2.1]
  · rw [modify_self, kept.2.2.2.1]
  · rw [modify_self, kept.2.2.2.2]

theorem Quiet.locked {now next : Pins} (quiet : Quiet dialect pins now)
    (gets : now.locked 0 slot = some next) : Quiet dialect pins next := by
  obtain ⟨-, -, rfl⟩ := locked_eq gets
  exact quiet.modify slot fun _ => ⟨rfl, rfl, rfl, rfl, rfl⟩

theorem state_leads {known : Pins → Prop} :
    Prog.Leads (exec 0) allowed known (state slot) fun session now =>
      known now ∧ (now.slots slot).state = session := by
  apply Prog.leads_ask
  intro now answers session next known_here _ performed
  obtain ⟨-, done⟩ := guarded_eq performed
  cases done
  exact ⟨known_here, rfl⟩

theorem probeDue_leads {known : Pins → Prop} :
    Prog.Leads (exec 0) allowed known (probeDue slot) fun _ => known := by
  apply Prog.leads_ask
  intro now answers due next known_here _ performed
  obtain ⟨-, done⟩ := guarded_eq performed
  cases done
  exact known_here

theorem idle_leads {known : Pins → Prop} :
    Prog.Leads (exec 0) allowed known (idle slot) fun _ => known := by
  apply Prog.leads_ask
  intro now answers due next known_here _ performed
  obtain ⟨-, done⟩ := guarded_eq performed
  cases done
  exact known_here

theorem alive_leads : Prog.Leads (exec 0) allowed (Quiet dialect pins) (alive slot)
    fun _ => Quiet dialect pins := by
  apply Prog.leads_ask
  intro now answers answered next quiet _ performed
  obtain ⟨-, done⟩ := guarded_eq performed
  cases done
  exact ⟨{ quiet.settled with }, quiet.table, quiet.sent, quiet.owed⟩

/-- The connection of the slot is closed and nothing noted about it yet. -/
def Closed (slot : Nat) (known : Pins → Prop) (now : Pins) : Prop :=
  ∃ before, known before ∧ now = before.setState slot fun s => { s with conn := none }

theorem closeConn_leads {known : Pins → Prop} :
    Prog.Leads (exec 0) allowed known (closeConn slot) fun _ => Closed slot known := by
  apply Prog.leads_ask
  intro now answers _ next known_here _ performed
  obtain ⟨-, done⟩ := guarded_eq performed
  cases done
  exact ⟨now, known_here, rfl⟩

theorem setLoss_leads :
    Prog.Leads (exec 0) allowed (Closed slot (Quiet dialect pins)) (setLoss slot)
      fun _ => Quiet dialect pins := by
  apply Prog.leads_ask
  intro now answers _ next closed _ performed
  obtain ⟨-, done⟩ := guarded_eq performed
  cases done
  obtain ⟨before, quiet, rfl⟩ := closed
  exact ⟨quiet.settled.lose slot, quiet.table, quiet.sent, quiet.owed⟩

theorem unlock_leads : Prog.Leads (exec 0) allowed (Quiet dialect pins) (unlock slot)
    fun _ => Quiet dialect pins := by
  apply Prog.leads_ask
  intro now answers _ next quiet _ performed
  obtain ⟨-, done⟩ := guarded_eq performed
  cases done
  exact quiet.modify slot fun _ => ⟨rfl, rfl, rfl, rfl, rfl⟩

theorem probe_leads : Prog.Leads (exec 0) allowed (Quiet dialect pins) (probe slot)
    fun _ => Quiet dialect pins := by
  apply Prog.Leads.bind probeDue_leads
  intro due
  cases due with
  | false => exact Prog.leads_done fun _ quiet => quiet
  | true =>
    apply Prog.Leads.bind state_leads
    intro session
    apply Prog.Leads.of_known _ (fun _ both => both.1)
    show Prog.Leads (exec 0) allowed _ (if session.conn.isSome then _ else _) _
    split
    · apply Prog.Leads.bind alive_leads
      intro answers
      cases answers with
      | true => exact Prog.leads_done fun _ quiet => quiet
      | false => exact Prog.Leads.bind closeConn_leads fun _ => setLoss_leads
    · exact Prog.leads_done fun _ quiet => quiet

theorem sweepOne_leads : Prog.Leads (exec 0) allowed (Quiet dialect pins) (sweepOne slot)
    fun _ => Quiet dialect pins := by
  have locks : Prog.Leads (exec 0) allowed (Quiet dialect pins) (tryLock slot)
      fun _ => Quiet dialect pins := by
    apply Prog.leads_ask
    intro now answers got next quiet _ performed
    rw [exec] at performed
    split at performed
    · rename_i locked gets
      cases performed
      exact quiet.locked gets
    · cases performed
      exact quiet
  apply Prog.Leads.bind locks
  intro got
  cases got with
  | false => exact Prog.leads_done fun _ quiet => quiet
  | true =>
    apply Prog.Leads.bind state_leads
    intro session
    apply Prog.Leads.of_known _ (fun _ both => both.1)
    show Prog.Leads (exec 0) allowed _ (if session.conn.isSome then _ else _) _
    split
    · apply Prog.Leads.bind idle_leads
      intro tooLong
      cases tooLong with
      | false => exact unlock_leads
      | true =>
        apply Prog.Leads.bind closeConn_leads
        intro _
        exact Prog.Leads.bind setLoss_leads fun _ => unlock_leads
    · exact unlock_leads

theorem sweep_leads : Prog.Leads (exec 0) allowed (Quiet dialect pins) sweep
    fun _ => Quiet dialect pins := by
  have lists : Prog.Leads (exec 0) allowed (Quiet dialect pins) snapshot
      fun _ => Quiet dialect pins := by
    apply Prog.leads_ask
    intro now answers slots next quiet _ performed
    cases performed
    exact quiet
  apply Prog.Leads.bind lists
  intro slots
  induction slots with
  | nil => exact Prog.leads_done fun _ quiet => quiet
  | cons slot rest hypothesis => exact Prog.Leads.bind sweepOne_leads fun _ => hypothesis

/-- A slot that a thread sees to changes, and does not come back to the table. -/
theorem Quiet.handled {now next : Pins} (quiet : Quiet dialect pins now)
    (own : (now.slots slot).standing ≠ .mapped ∧ (now.slots slot).standing ≠ .unmade)
    (table : next.table = now.table) (made : next.made = now.made)
    (speaks : next.dialect = now.dialect) (owed : next.owed = now.owed)
    (sent : next.sent = now.sent)
    (others : ∀ other, other ≠ slot → next.slots other = now.slots other)
    (tasks : ∀ other, next.spawned other = true → (next.slots other).standing = .retiring) :
    Quiet dialect pins next where
  settled := quiet.settled.elsewhere own table made speaks owed others tasks
  table := by rw [table, quiet.table]
  sent := by rw [sent, quiet.sent]
  owed := by rw [owed, quiet.owed]

/-- A slot in the hands of the thread: what it does there is nobody's business. -/
structure Handles (dialect : Dialect) (pins : Pins) (slot : Nat) (now : Pins) : Prop where
  quiet : Quiet dialect pins now
  own : (now.slots slot).standing = .leaving 0

theorem Handles.modify {now : Pins} (handles : Handles dialect pins slot now)
    (change : Slot → Slot) : Quiet dialect pins (now.modify slot change) := by
  have leaving : (now.slots slot).standing ≠ .mapped ∧ (now.slots slot).standing ≠ .unmade := by
    simp [handles.own]
  have tasks : ∀ other, now.spawned other = true →
      ((now.modify slot change).slots other).standing = .retiring := by
    intro other spawned
    have retiring := handles.quiet.settled.tasks other spawned
    have different : other ≠ slot := by
      intro same
      rw [same, handles.own] at retiring
      cases retiring
    rw [modify_of_ne now different]
    exact retiring
  exact handles.quiet.handled leaving rfl rfl rfl rfl rfl
    (fun other different => modify_of_ne now different change) tasks

theorem board_leads : Prog.Leads (exec 0) allowed (Quiet dialect pins) board
    fun slot => Handles dialect pins slot := by
  apply Prog.leads_ask
  intro now answers slot next quiet _ performed
  rw [exec] at performed
  split at performed
  · rename_i spawned
    cases performed
    have retiring := quiet.settled.tasks answers.task spawned
    have others : ∀ other, other ≠ answers.task →
        (now.setStanding answers.task (.leaving 0)).slots other = now.slots other :=
      fun other different => setStanding_of_ne now different _
    refine ⟨quiet.handled (by simp [retiring]) rfl rfl rfl rfl rfl others ?_, ?_⟩
    · intro other still
      change Function.update now.spawned answers.task false other = true at still
      have different : other ≠ answers.task := by
        intro same
        rw [same, Function.update_self] at still
        cases still
      rw [Function.update_of_ne different] at still
      show ((now.setStanding answers.task (.leaving 0)).slots other).standing = _
      rw [others other different]
      exact quiet.settled.tasks other still
    · show ((now.setStanding answers.task (.leaving 0)).slots answers.task).standing = _
      rw [setStanding_self]
  · cases performed

theorem lockRemoved_leads : Prog.Leads (exec 0) allowed (Handles dialect pins slot)
    (lockRemoved slot) fun _ => Handles dialect pins slot := by
  apply Prog.leads_ask
  intro now answers _ next handles _ performed
  obtain ⟨result, gets, taken⟩ := Option.bind_eq_some_iff.mp performed
  obtain ⟨locked, gets_lock, rfl⟩ := Option.map_eq_some_iff.mp gets
  obtain ⟨-, done⟩ := inHand_eq taken
  cases done
  refine ⟨handles.quiet.locked gets_lock, ?_⟩
  obtain ⟨-, -, rfl⟩ := locked_eq gets_lock
  rw [modify_self]
  exact handles.own

/-- Closes what the slot in hand holds and lets go of it. -/
theorem closing_leads {session : SlotState} {next : PinProg Unit} {result : Unit → Pins → Prop}
    (goes_on : Prog.Leads (exec 0) allowed (Quiet dialect pins) next result) :
    Prog.Leads (exec 0) allowed (Handles dialect pins slot)
      (if session.conn.isSome then closeConn slot >>= fun _ => release slot >>= fun _ => next
        else release slot >>= fun _ => next) result := by
  have closes : Prog.Leads (exec 0) allowed (Handles dialect pins slot) (closeConn slot)
      fun _ => Handles dialect pins slot := by
    apply Prog.leads_ask
    intro now answers _ next handles _ performed
    obtain ⟨-, done⟩ := guarded_eq performed
    cases done
    refine ⟨handles.modify _, ?_⟩
    rw [setState, modify_self]
    exact handles.own
  have releases : Prog.Leads (exec 0) allowed (Handles dialect pins slot) (release slot)
      fun _ => Quiet dialect pins := by
    apply Prog.leads_ask
    intro now answers _ next handles _ performed
    obtain ⟨⟨_, _⟩, released, taken⟩ := Option.bind_eq_some_iff.mp performed
    obtain ⟨-, result_eq⟩ := guarded_eq released
    obtain ⟨-, done⟩ := inHand_eq taken
    cases result_eq
    cases done
    exact handles.modify _
  split
  · exact Prog.Leads.bind closes fun _ => Prog.Leads.bind releases fun _ => goes_on
  · exact Prog.Leads.bind releases fun _ => goes_on

theorem retireTask_leads : Prog.Leads (exec 0) allowed (Quiet dialect pins) retireTask
    fun _ => Quiet dialect pins := by
  apply Prog.Leads.bind board_leads
  intro slot
  apply Prog.Leads.bind lockRemoved_leads
  intro _
  apply Prog.Leads.bind state_leads
  intro session
  apply Prog.Leads.of_known _ (fun _ both => both.1)
  have ends : Prog.Leads (exec 0) allowed (Quiet dialect pins) (pure () : PinProg Unit)
      fun _ => Quiet dialect pins := Prog.leads_done fun _ quiet => quiet
  exact closing_leads ends

theorem retire_leads : Prog.Leads (exec 0) allowed (Quiet dialect pins) (retire slot)
    fun _ => Quiet dialect pins := by
  apply Prog.leads_ask
  intro now answers _ next quiet _ performed
  obtain ⟨own, done⟩ := inHand_eq performed
  cases done
  have others : ∀ other, other ≠ slot → (now.spawnRetire slot).slots other = now.slots other :=
    fun other different => setStanding_of_ne now different _
  refine quiet.handled (by simp [own]) rfl rfl rfl rfl rfl others ?_
  intro other spawned
  change Function.update now.spawned slot true other = true at spawned
  by_cases same : other = slot
  · rw [same]
    show ((now.setStanding slot .retiring).slots slot).standing = _
    rw [setStanding_self]
  · rw [Function.update_of_ne same] at spawned
    rw [others other same]
    exact quiet.settled.tasks other spawned

theorem lockInTime_leads : Prog.Leads (exec 0) allowed (Quiet dialect pins) (lockInTime slot)
    fun got => if got then Handles dialect pins slot else Quiet dialect pins := by
  apply Prog.leads_ask
  intro now answers got next quiet _ performed
  rw [exec] at performed
  split at performed
  · obtain ⟨result, gets, taken⟩ := Option.bind_eq_some_iff.mp performed
    obtain ⟨locked, gets_lock, rfl⟩ := Option.map_eq_some_iff.mp gets
    obtain ⟨own, done⟩ := inHand_eq taken
    cases done
    refine ⟨quiet.locked gets_lock, ?_⟩
    obtain ⟨-, -, rfl⟩ := locked_eq gets_lock
    rw [modify_self]
    exact own
  · cases performed
    exact quiet

theorem closeEach_leads (slots : List Nat) :
    Prog.Leads (exec 0) allowed (Quiet dialect pins) (closeEach slots)
      fun _ => Quiet dialect pins := by
  induction slots with
  | nil => exact Prog.leads_done fun _ quiet => quiet
  | cons slot rest hypothesis =>
    apply Prog.Leads.bind lockInTime_leads
    intro got
    cases got with
    | false => exact Prog.Leads.bind retire_leads fun _ => hypothesis
    | true =>
      apply Prog.Leads.bind state_leads
      intro session
      apply Prog.Leads.of_known _ (fun _ both => both.1)
      exact closing_leads hypothesis

theorem Settled.start (settled : Settled dialect pins) : Quiet dialect pins pins :=
  ⟨settled, rfl, rfl, rfl⟩

theorem closeAll_leads (settled : Settled dialect pins) :
    Prog.Leads (exec 0) allowed (fun now => now = pins) closeAll
      fun _ => Quiet dialect (pins.drained 0) := by
  have drains : Prog.Leads (exec 0) allowed (fun now => now = pins) drain
      fun _ => Quiet dialect (pins.drained 0) := by
    apply Prog.leads_ask
    intro now answers slots next same _ performed
    cases performed
    rw [same]
    exact (settled.drained 0).start
  exact Prog.Leads.bind drains closeEach_leads

/-- The table without the slot of a tab that is closed. -/
def closed (pins : Pins) (key : Text) (slot : Nat) : Pins :=
  ((pins.removeEntry key).setStanding slot (.leaving 0)).forget key

theorem Settled.closed (settled : Settled dialect pins) (found : pins.find key = some slot) :
    Settled dialect (pins.closed key slot) := by
  have others : ∀ other, other ≠ slot → (pins.closed key slot).slots other = pins.slots other :=
    fun other different => setStanding_of_ne (pins.removeEntry key) different _
  have tasks : ∀ other, (pins.closed key slot).spawned other = true →
      ((pins.closed key slot).slots other).standing = .retiring := by
    intro other spawned
    have retiring := settled.tasks other spawned
    have different : other ≠ slot := by
      intro same
      rw [same, (settled.keyed key slot found).2] at retiring
      cases retiring
    rw [others other different]
    exact retiring
  exact settled.takeOut found (Function.update_self ..) rfl rfl rfl
    (fun other different => Function.update_of_ne different ..) others tasks

theorem close_leads (settled : Settled dialect pins) (key : Text) :
    Prog.Leads (exec 0) allowed (fun now => now = pins) (close key) fun _ now =>
      Settled dialect now ∧ now.sent = pins.sent ∧
        ∀ other, other ≠ key → now.owed other = pins.owed other := by
  have removes : Prog.Leads (exec 0) allowed (fun now => now = pins) (Pooling.remove key)
      fun removed now => removed.elim (now = pins) fun slot =>
        pins.find key = some slot ∧ now = pins.closed key slot := by
    apply Prog.leads_ask
    intro now answers removed next same _ performed
    rw [same, exec] at performed
    split at performed
    · rename_i slot found
      cases performed
      exact ⟨found, rfl⟩
    · cases performed
      rfl
  apply Prog.Leads.bind removes
  intro removed
  cases removed with
  | none =>
    apply Prog.leads_done
    intro now same
    rw [same]
    exact ⟨settled, rfl, fun _ _ => rfl⟩
  | some slot =>
    refine ⟨fun now choices value last same may performed => ?_⟩
    have start : Quiet dialect (pins.closed key slot) now := by
      rw [same.2]
      exact (settled.closed same.1).start
    have quiet := retire_leads.ends now choices value last start may performed
    refine ⟨quiet.settled, quiet.sent, fun other different => ?_⟩
    rw [quiet.owed]
    exact Function.update_of_ne different ..

/-- What a run does to what is sent and owed, and what it answers. -/
structure Reports (dialect : Dialect) (allowed : Answers → Prop) (key sql : Text)
    (before : Pins) (answer : Except AppError StatementResults) (after : Pins) : Prop where
  /-- The script is sent once at most, and nothing else is. -/
  once : after.sent = before.sent ∨ ∃ conn, after.sent = (key, conn, sql) :: before.sent
  others : ∀ other, other ≠ key → after.owed other = before.owed other
  /-- A session that holds state gets the script, or the tab is told that it has expired. -/
  held : ∀ conn, before.owed key = some conn → after.sent = (key, conn, sql) :: before.sent ∨
    after.sent = before.sent ∧ answer = .error sessionExpired ∧ after.owed key = none
  /-- Only a tab that has just been told of the loss is owed nothing more. -/
  kept : ∀ conn, before.owed key = some conn → after.owed key = some conn ∨
    after.owed key = none ∧
      (answer = .error sessionExpired ∨ ∃ original, answer = .error (lostError original))
  owes : ∀ conn, after.sent = (key, conn, sql) :: before.sent → (scan sql dialect).any = true →
    after.owed key = some conn ∨
      after.owed key = none ∧ ∃ original, answer = .error (lostError original)
  /-- A tab that is owed nothing is told of no loss that did not just happen. -/
  free : before.owed key = none → after.sent = before.sent →
    answer = .error (tooManySessions before.limits.max) ∨
      ∃ answers error, allowed answers ∧ answers.openFails = some error ∧ answer = .error error

theorem cons_ne_self {α : Type} (first : α) (rest : List α) : first :: rest ≠ rest := by
  intro same
  have lengths := congrArg List.length same
  simp at lengths

/-- The ledger after a script was sent. -/
def ledger (pins : Pins) (key : Text) (conn : Nat) (sql : Text) : Pins :=
  { pins with
    sent := (key, conn, sql) :: pins.sent
    owed := if (scan sql pins.dialect).any then Function.update pins.owed key (some conn)
      else pins.owed }

theorem ledger_others (pins : Pins) (conn : Nat) {other : Text} (different : other ≠ key) :
    (pins.ledger key conn sql).owed other = pins.owed other := by
  show (if _ then _ else _ : Text → Option Nat) other = _
  split
  · exact Function.update_of_ne different ..
  · rfl

theorem ledger_held {conn : Nat} (held : pins.owed key = some conn) :
    (pins.ledger key conn sql).owed key = some conn := by
  show (if _ then _ else _ : Text → Option Nat) key = _
  split
  · exact Function.update_self ..
  · exact held

/-- A script that was sent, its session still there. -/
theorem reports_sent {conn : Nat} {now : Pins}
    (held : ∀ other, pins.owed key = some other → other = conn)
    (quiet : Quiet pins.dialect (pins.ledger key conn sql) now)
    (answer : Except AppError StatementResults) :
    Reports pins.dialect allowed key sql pins answer now := by
  have sent : now.sent = (key, conn, sql) :: pins.sent := quiet.sent
  refine ⟨.inr ⟨conn, sent⟩, fun other different => ?_, fun other owed => ?_,
    fun other owed => ?_, fun other same flagged => ?_, fun _ same => ?_⟩
  · rw [quiet.owed]
    exact ledger_others pins conn different
  · rw [held other owed]
    exact .inl sent
  · rw [quiet.owed, held other owed]
    rw [held other owed] at owed
    exact .inl (ledger_held owed)
  · rw [sent] at same
    cases same
    rw [quiet.owed]
    refine .inl ?_
    show (if _ then _ else _ : Text → Option Nat) key = _
    rw [if_pos flagged, Function.update_self]
  · rw [sent] at same
    exact absurd same (cons_ne_self _ _)

/-- A script whose connection died under it. -/
theorem reports_lost {conn : Nat} {now : Pins}
    (held : ∀ other, pins.owed key = some other → other = conn)
    (quiet : Quiet pins.dialect ((pins.ledger key conn sql).forget key) now) (original : AppError) :
    Reports pins.dialect allowed key sql pins (.error (lostError original)) now := by
  have sent : now.sent = (key, conn, sql) :: pins.sent := quiet.sent
  have told : now.owed key = none := by
    rw [quiet.owed]
    exact Function.update_self ..
  refine ⟨.inr ⟨conn, sent⟩, fun other different => ?_, fun other owed => ?_,
    fun other _ => .inr ⟨told, .inr ⟨original, rfl⟩⟩,
    fun other _ _ => .inr ⟨told, original, rfl⟩, fun _ same => ?_⟩
  · rw [quiet.owed]
    exact (Function.update_of_ne different ..).trans (ledger_others pins conn different)
  · rw [held other owed]
    exact .inl sent
  · rw [sent] at same
    exact absurd same (cons_ne_self _ _)

/-- The tab is told that its session has expired, and nothing is sent. -/
theorem reports_expired {now : Pins} (owing : pins.owed key ≠ none)
    (quiet : Quiet dialect (pins.forget key) now) :
    Reports dialect allowed key sql pins (.error sessionExpired) now := by
  have told : now.owed key = none := by
    rw [quiet.owed]
    exact Function.update_self ..
  refine ⟨.inl quiet.sent, fun other different => ?_, fun _ _ => .inr ⟨quiet.sent, rfl, told⟩,
    fun _ _ => .inr ⟨told, .inl rfl⟩, fun conn same _ => ?_, fun free => absurd free owing⟩
  · rw [quiet.owed]
    exact Function.update_of_ne different ..
  · rw [show now.sent = pins.sent from quiet.sent] at same
    exact absurd same.symm (cons_ne_self _ _)

/-- Nothing is sent for a tab that is owed nothing, for a reason of its own. -/
theorem reports_unsent {now : Pins} {error : AppError} (free : pins.owed key = none)
    (sent : now.sent = pins.sent) (owed : now.owed = pins.owed)
    (reason : error = tooManySessions pins.limits.max ∨
      ∃ answers, allowed answers ∧ answers.openFails = some error) :
    Reports dialect allowed key sql pins (.error error) now := by
  refine ⟨.inl sent, fun _ _ => by rw [owed], fun conn held => ?_, fun conn held => ?_,
    fun conn same _ => ?_, fun _ _ => ?_⟩
  · rw [free] at held
    cases held
  · rw [free] at held
    cases held
  · rw [sent] at same
    exact absurd same.symm (cons_ne_self _ _)
  · cases reason with
    | inl full => exact .inl (by rw [full])
    | inr opener =>
      obtain ⟨answers, may, fails⟩ := opener
      exact .inr ⟨answers, error, may, fails, rfl⟩

/-- The slot's connection is open. -/
structure Connected (pins : Pins) (slot conn : Nat) (now : Pins) : Prop where
  quiet : Quiet pins.dialect pins now
  opened : (now.slots slot).state.conn = some conn

/-- The flags are set for the script, which is about to be sent. -/
def Flagged (pins : Pins) (slot conn : Nat) (sql : Text) (now : Pins) : Prop :=
  ∃ before, Connected pins slot conn before ∧ now = before.flagFor slot sql

theorem send_leads {conn maxRows : Nat} (found : pins.find key = some slot) :
    Prog.Leads (exec 0) allowed (Flagged pins slot conn sql) (send slot sql maxRows)
      fun _ => Quiet pins.dialect (pins.ledger key conn sql) := by
  apply Prog.leads_ask
  intro now answers _ next flagged _ performed
  obtain ⟨-, done⟩ := guarded_eq performed
  cases done
  obtain ⟨before, connected, rfl⟩ := flagged
  have found_before : before.find key = some slot := (connected.quiet.find key).trans found
  obtain ⟨settled, sent, owed⟩ := connected.quiet.settled.sent found_before connected.opened sql
  refine ⟨settled, ?_, ?_, ?_⟩
  · rw [sendOn_eq ((flagFor_conn before slot sql).trans connected.opened)]
    show (before.flagFor slot sql).table = pins.table
    rw [← connected.quiet.table]
    unfold flagFor
    split <;> rfl
  · rw [sent, connected.quiet.sent]
    rfl
  · rw [owed, connected.quiet.owed]
    rfl

theorem used_leads : Prog.Leads (exec 0) allowed (Quiet dialect pins) (used slot)
    fun _ => Quiet dialect pins := by
  apply Prog.leads_ask
  intro now answers _ next quiet _ performed
  obtain ⟨-, done⟩ := guarded_eq performed
  cases done
  exact quiet.modify slot fun _ => ⟨rfl, rfl, rfl, rfl, rfl⟩

/-- The tab is told of the loss that the closing of the connection has left. -/
theorem clearLost_leads (found : pins.find key = some slot) :
    Prog.Leads (exec 0) allowed (Closed slot (Quiet dialect pins))
      (Pooling.clearFlags slot .lost) fun _ => Quiet dialect (pins.forget key) := by
  apply Prog.leads_ask
  intro now answers _ next closed _ performed
  obtain ⟨-, done⟩ := guarded_eq performed
  cases done
  obtain ⟨before, quiet, rfl⟩ := closed
  have found_before : before.find key = some slot := (quiet.find key).trans found
  have same : SameShape slot before (before.setState slot fun s => { s with conn := none }) :=
    sameShape_modify before rfl rfl
  have loud : Telling.lost = .nothing → (before.slots slot).state.stateful = false :=
    fun nothing => nomatch nothing
  obtain ⟨settled, owed⟩ := quiet.settled.clear found_before same rfl rfl loud
  refine ⟨settled, quiet.table, quiet.sent, ?_⟩
  rw [owed, quiet.owed]
  rfl

/-- The flags are cleared: the tab is told, or there is nothing to tell. -/
theorem clear_leads {telling : Telling} (found : pins.find key = some slot) :
    Prog.Leads (exec 0) allowed (fun now => Quiet dialect pins now ∧
        (telling = .nothing → (now.slots slot).state.stateful = false))
      (Pooling.clearFlags slot telling) fun _ => Quiet dialect (pins.forget key) := by
  apply Prog.leads_ask
  intro now answers _ next known _ performed
  obtain ⟨-, done⟩ := guarded_eq performed
  cases done
  obtain ⟨quiet, silent⟩ := known
  have found_now : now.find key = some slot := (quiet.find key).trans found
  obtain ⟨settled, owed⟩ := quiet.settled.clear found_now (.refl slot now) rfl rfl silent
  refine ⟨settled, ?_, ?_, ?_⟩
  · cases telling <;> exact quiet.table
  · cases telling <;> exact quiet.sent
  · rw [owed, quiet.owed]
    rfl

/-- The run has settled the flags, and reports. -/
def Ends (dialect : Dialect) (allowed : Answers → Prop) (key sql : Text) (before : Pins)
    (answer : Except AppError StatementResults) (after : Pins) : Prop :=
  Settled dialect after ∧ Reports dialect allowed key sql before answer after

theorem sent_leads {conn : Nat} (found : pins.find key = some slot)
    (held : ∀ other, pins.owed key = some other → other = conn)
    (result : Except AppError StatementResults) (lost : Bool) :
    Prog.Leads (exec 0) allowed (Quiet pins.dialect (pins.ledger key conn sql))
      (do
        let _ ← used slot
        if lost then
          let _ ← closeConn slot
          let _ ← Pooling.clearFlags slot .lost
          let _ ← unlock slot
          match result with
          | .error original => return .error (lostError original)
          | .ok _ => return .error (lostError connectionClosed)
        else
          let _ ← unlock slot
          return result)
      (Ends pins.dialect allowed key sql pins) := by
  have found_after : (pins.ledger key conn sql).find key = some slot := found
  apply Prog.Leads.bind used_leads
  intro _
  cases lost with
  | false =>
    apply Prog.Leads.bind unlock_leads
    exact fun _ => Prog.leads_done fun _ quiet =>
      ⟨quiet.settled, reports_sent held quiet result⟩
  | true =>
    apply Prog.Leads.bind closeConn_leads
    intro _
    apply Prog.Leads.bind (clearLost_leads found_after)
    intro _
    apply Prog.Leads.bind unlock_leads
    intro _
    cases result with
    | error original =>
      exact Prog.leads_done fun _ quiet => ⟨quiet.settled, reports_lost held quiet original⟩
    | ok results =>
      exact Prog.leads_done fun _ quiet =>
        ⟨quiet.settled, reports_lost held quiet connectionClosed⟩

theorem runOn_leads {conn maxRows : Nat} (found : pins.find key = some slot)
    (held : ∀ other, pins.owed key = some other → other = conn) :
    Prog.Leads (exec 0) allowed (Connected pins slot conn)
      (runOn pins.dialect slot sql maxRows) (Ends pins.dialect allowed key sql pins) := by
  unfold runOn
  extract_lets goes
  have goes_on : ∀ flagged, Prog.Leads (exec 0) allowed (Flagged pins slot conn sql)
      (goes flagged) (Ends pins.dialect allowed key sql pins) := by
    intro _
    apply Prog.Leads.bind state_leads
    intro session
    split
    · rename_i none_open
      refine ⟨fun now _ _ _ known _ _ => ?_⟩
      obtain ⟨⟨before, connected, rfl⟩, same⟩ := known
      rw [← same, flagFor_conn, connected.opened] at none_open
      cases none_open
    · apply Prog.Leads.of_known _ (fun _ both => both.1)
      apply Prog.Leads.bind (send_leads found)
      exact fun (result, lost) => sent_leads found held result lost
  split
  · rename_i flagged
    have flags : Prog.Leads (exec 0) allowed (Connected pins slot conn) (setStateful slot)
        fun _ => Flagged pins slot conn sql := by
      apply Prog.leads_ask
      intro now answers _ next connected _ performed
      obtain ⟨-, done⟩ := guarded_eq performed
      cases done
      refine ⟨now, connected, ?_⟩
      rw [flagFor, connected.quiet.settled.speaks, if_pos flagged]
    exact Prog.Leads.bind flags goes_on
  · rename_i plain
    apply (goes_on ()).of_known
    intro now connected
    refine ⟨now, connected, ?_⟩
    rw [flagFor, connected.quiet.settled.speaks, if_neg plain]

/-- A tab that is owed nothing gets a fresh connection, or the opener's error. -/
theorem openConn_leads (free : pins.owed key = none) (found : pins.find key = some slot) :
    Prog.Leads (exec 0) allowed (Quiet pins.dialect pins) (openConn slot) fun opened now =>
      match opened with
      | .ok () => ∃ conn, Connected pins slot conn now
      | .error error => Quiet pins.dialect pins now ∧
        ∃ answers, allowed answers ∧ answers.openFails = some error := by
  apply Prog.leads_ask
  intro now answers opened next quiet may performed
  rw [exec] at performed
  split at performed
  · rename_i error fails
    obtain ⟨-, done⟩ := guarded_eq performed
    cases done
    exact ⟨quiet, answers, may, fails⟩
  · obtain ⟨-, done⟩ := guarded_eq performed
    cases done
    have found_now : now.find key = some slot := (quiet.find key).trans found
    have free_now : now.owed key = none := by
      rw [quiet.owed]
      exact free
    refine ⟨now.opened, ⟨quiet.settled.opened found_now free_now, quiet.table, quiet.sent,
      quiet.owed⟩, ?_⟩
    rw [openOn_self]

/-- A tab that is owed nothing goes on with a fresh connection. -/
theorem open_leads {maxRows : Nat} (found : pins.find key = some slot)
    (free : pins.owed key = none) :
    Prog.Leads (exec 0) allowed (Quiet pins.dialect (pins.forget key))
      (do
        match ← openConn slot with
        | .error error =>
          let _ ← unlock slot
          return .error error
        | .ok () => runOn pins.dialect slot sql maxRows)
      (Ends pins.dialect allowed key sql pins) := by
  have same : pins.forget key = pins := by
    unfold forget
    rw [← free, Function.update_eq_self]
  rw [same]
  apply Prog.Leads.bind (openConn_leads free found)
  intro opened
  cases opened with
  | error error =>
    apply Prog.Leads.of_known _ (fun now known =>
      (⟨known.2, known.1⟩ : ∃ _ : ∃ answers, allowed answers ∧ answers.openFails = some error,
        Quiet pins.dialect pins now))
    apply Prog.Leads.of_exists
    intro opener
    apply Prog.Leads.bind unlock_leads
    exact fun _ => Prog.leads_done fun _ quiet =>
      ⟨quiet.settled, reports_unsent free quiet.sent quiet.owed (.inr opener)⟩
  | ok =>
    apply Prog.Leads.of_exists
    intro conn
    apply runOn_leads found
    intro other owed
    rw [free] at owed
    cases owed

theorem runLocked_leads {maxRows : Nat} (found : pins.find key = some slot) :
    Prog.Leads (exec 0) allowed (Quiet pins.dialect pins)
      (runLocked pins.dialect slot sql maxRows) (Ends pins.dialect allowed key sql pins) := by
  apply Prog.Leads.bind probe_leads
  intro _
  apply Prog.Leads.bind state_leads
  intro session
  split
  · rename_i none_open
    split
    · rename_i lost_state
      have owing : ∀ now, Quiet pins.dialect pins now ∧ (now.slots slot).state = session →
          pins.owed key ≠ none := by
        intro now known
        have found_now : now.find key = some slot := (known.1.find key).trans found
        rw [← known.2] at lost_state
        have owed := known.1.settled.clean key slot found_now (by simp_all)
        rw [known.1.owed] at owed
        exact owed
      apply Prog.Leads.of_known _ (fun now known =>
        (⟨owing now known, known.1, fun nothing => nomatch nothing⟩ :
          ∃ _ : pins.owed key ≠ none, Quiet pins.dialect pins now ∧
            (Telling.expired = .nothing → (now.slots slot).state.stateful = false)))
      apply Prog.Leads.of_exists
      intro owes
      apply Prog.Leads.bind (clear_leads found)
      intro _
      apply Prog.Leads.bind unlock_leads
      exact fun _ => Prog.leads_done fun _ quiet => ⟨quiet.settled, reports_expired owes quiet⟩
    · rename_i not_lost
      have silent : ∀ now, Quiet pins.dialect pins now ∧ (now.slots slot).state = session →
          (now.slots slot).state.stateful = false := by
        intro now known
        have found_now : now.find key = some slot := (known.1.find key).trans found
        rw [← known.2] at none_open not_lost
        cases known.1.settled.lost_or_free found_now (by simpa using none_open) with
        | inl lost => simp_all
        | inr stateless => exact stateless
      have free : ∀ now, Quiet pins.dialect pins now ∧ (now.slots slot).state = session →
          pins.owed key = none := by
        intro now known
        have found_now : now.find key = some slot := (known.1.find key).trans found
        rw [← known.1.owed]
        exact known.1.settled.owes_nothing found_now (silent now known)
      apply Prog.Leads.of_known _ (fun now known =>
        (⟨free now known, known.1, fun _ => silent now known⟩ :
          ∃ _ : pins.owed key = none, Quiet pins.dialect pins now ∧
            (Telling.nothing = .nothing → (now.slots slot).state.stateful = false)))
      apply Prog.Leads.of_exists
      intro owes_nothing
      exact Prog.Leads.bind (clear_leads found) fun _ => open_leads found owes_nothing
  · rename_i is_open
    cases conn_eq : session.conn with
    | none =>
      rw [conn_eq] at is_open
      exact absurd rfl is_open
    | some conn =>
      have held : ∀ now, Quiet pins.dialect pins now ∧ (now.slots slot).state = session →
          ∀ other, pins.owed key = some other → other = conn := by
        intro now known other owed
        have found_now : now.find key = some slot := (known.1.find key).trans found
        rw [← known.1.owed] at owed
        obtain ⟨place, found_place, -, flags⟩ := known.1.settled.debts key other owed
        rw [found_now] at found_place
        cases found_place
        rw [known.2, conn_eq] at flags
        simp_all
      apply Prog.Leads.of_known _ (fun now known =>
        (⟨held now known, known.1, by rw [known.2, conn_eq]⟩ :
          ∃ _ : ∀ other, pins.owed key = some other → other = conn, Connected pins slot conn now))
      exact Prog.Leads.of_exists fun holds => runOn_leads found holds

/-- Room is made for the tab by retiring sessions that hold no state only. -/
def Spares (pins : Pins) (key : Text) : Prop :=
  pins.find key = none → pins.limits.max ≤ pins.table.length →
    ∀ victim, pins.Stalest victim → (pins.slots victim.2).state.stateful = false

/-- The slot of the tab, and nothing sent or told. -/
structure Taken (pins : Pins) (key : Text) (slot : Nat) (now : Pins) : Prop where
  settled : Settled pins.dialect now
  found : now.find key = some slot
  sent : now.sent = pins.sent
  owed : now.owed = pins.owed
  limits : now.limits = pins.limits

theorem takeSlot_leads (settled : Settled pins.dialect pins) (spares : pins.Spares key) :
    Prog.Leads (exec 0) allowed (fun now => now = pins) (Pooling.takeSlot key) fun taken now =>
      match taken with
      | .ok slot => Taken pins key slot now
      | .error error => error = tooManySessions pins.limits.max ∧ pins.find key = none ∧
        now = pins := by
  apply Prog.leads_ask
  intro now answers taken next same _ performed
  rw [same] at performed
  change pins.takeSlot 0 key answers = _ at performed
  unfold takeSlot at performed
  split at performed
  · rename_i slot found
    cases performed
    have touched : Quiet pins.dialect pins
        (pins.modify slot fun s => { s with touched := answers.now }) :=
      settled.start.modify slot fun _ => ⟨rfl, rfl, rfl, rfl, rfl⟩
    exact ⟨{ touched.settled with }, found, rfl, rfl, rfl⟩
  · rename_i missing
    split at performed
    · rename_i full
      split at performed
      · cases performed
        exact ⟨rfl, missing, rfl⟩
      · split at performed
        · rename_i old found
          split at performed
          · rename_i stalest
            cases performed
            have evicted := settled.evict found (spares missing full _ stalest)
            have absent : ((pins.removeEntry answers.victim).spawnRetire old).find key = none := by
              show (pins.removeEntry answers.victim).find key = none
              rw [find_removeEntry, missing]
              split <;> rfl
            refine ⟨evicted.insert absent 0 answers.now, ?_, rfl, rfl, rfl⟩
            rw [find_insertSlot, if_pos rfl]
            rfl
          · cases performed
        · cases performed
    · cases performed
      refine ⟨settled.insert missing 0 answers.now, ?_, rfl, rfl, rfl⟩
      rw [find_insertSlot, if_pos rfl]

theorem Reports.of_taken {now after : Pins} {answer : Except AppError StatementResults}
    (taken : Taken pins key slot now)
    (reports : Reports now.dialect allowed key sql now answer after) :
    Reports pins.dialect allowed key sql pins answer after := by
  have speaks : now.dialect = pins.dialect := taken.settled.speaks
  rw [speaks] at reports
  constructor
  · rw [← taken.sent]
    exact reports.once
  · rw [← taken.owed]
    exact reports.others
  · rw [← taken.sent, ← taken.owed]
    exact reports.held
  · rw [← taken.owed]
    exact reports.kept
  · rw [← taken.sent]
    exact reports.owes
  · rw [← taken.sent, ← taken.owed, ← taken.limits]
    exact reports.free

theorem run_leads {maxRows : Nat} (settled : Settled pins.dialect pins) (spares : pins.Spares key) :
    Prog.Leads (exec 0) allowed (fun now => now = pins) (run pins.dialect key sql maxRows)
      (Ends pins.dialect allowed key sql pins) := by
  apply Prog.Leads.bind (takeSlot_leads settled spares)
  intro taken
  cases taken with
  | error error =>
    apply Prog.leads_done
    intro now full
    obtain ⟨error_eq, missing, now_eq⟩ := full
    have free : pins.owed key = none := by
      cases owed : pins.owed key with
      | none => rfl
      | some conn =>
        obtain ⟨slot, found, -⟩ := settled.debts key conn owed
        rw [missing] at found
        cases found
    rw [now_eq]
    exact ⟨settled, reports_unsent free rfl rfl (.inl error_eq)⟩
  | ok slot =>
    refine ⟨fun now choices answer after taken may performed => ?_⟩
    have speaks : now.dialect = pins.dialect := taken.settled.speaks
    have locks : Prog.Leads (exec 0) allowed (Quiet now.dialect now) (lock slot)
        fun _ => Quiet now.dialect now := by
      apply Prog.leads_ask
      intro held answers _ next quiet _ performed
      obtain ⟨locked, gets, done⟩ := Option.map_eq_some_iff.mp performed
      cases done
      have kept := quiet.locked gets
      exact ⟨{ kept.settled with }, kept.table, kept.sent, kept.owed⟩
    have start : Quiet now.dialect now now := by
      rw [speaks]
      exact taken.settled.start
    rw [← speaks] at performed
    have ended := (Prog.Leads.bind locks fun _ => runLocked_leads taken.found).ends now choices
      answer after start may performed
    rw [← speaks]
    refine ⟨ended.1, ?_⟩
    rw [speaks]
    exact ended.2.of_taken taken

/-- What a call did to what was sent and owed, and what it answered. -/
def Told (dialect : Dialect) (pins : Pins) (choices : List Answers) (after : Pins)
    (answer : Except AppError StatementResults) : PinCall → Prop
  | .run key sql _ => Reports dialect (· ∈ choices) key sql pins answer after
  | .close key => after.sent = pins.sent ∧
    ∀ other, other ≠ key → after.owed other = pins.owed other
  | .closeAll => after.sent = pins.sent
  | .sweep | .retireTask => after.sent = pins.sent ∧ after.owed = pins.owed

/-- Room is made only by retiring sessions that hold no state. -/
def KeepsState (pins : Pins) (called : PinCall × List Answers) : Prop :=
  match called.1 with
  | .run key _ _ => pins.Spares key
  | _ => True

theorem call_tells {call : PinCall} {choices : List Answers}
    {answer : Except AppError StatementResults} {after : Pins}
    (settled : Settled dialect pins) (keeps : pins.KeepsState (call, choices))
    (performed : Prog.alone (exec 0) (call.program dialect) pins choices = some (answer, after)) :
    Settled dialect after ∧ Told dialect pins choices after answer call := by
  have may : ∀ choice ∈ choices, choice ∈ choices := fun _ mem => mem
  have speaks : pins.dialect = dialect := settled.speaks
  rw [← speaks] at settled performed ⊢
  have ends : ∀ {prog : PinProg Unit} {known result : Pins → Prop},
      Prog.Leads (exec 0) (· ∈ choices) known prog (fun _ => result) →
        Prog.Leads (exec 0) (· ∈ choices) known (prog >>= fun _ => return .ok [])
          fun (_ : Except AppError StatementResults) => result :=
    fun leads => leads.bind fun _ => Prog.leads_done fun _ holds => holds
  cases call with
  | run key sql maxRows =>
    exact (run_leads settled keeps).ends pins choices answer after rfl may performed
  | close key =>
    exact (ends (close_leads settled key)).ends pins choices answer after rfl may performed
  | closeAll =>
    have quiet := (ends (closeAll_leads settled)).ends pins choices answer after rfl may performed
    exact ⟨quiet.settled, quiet.sent⟩
  | sweep =>
    have quiet := (ends sweep_leads).ends pins choices answer after settled.start may performed
    exact ⟨quiet.settled, quiet.sent, quiet.owed⟩
  | retireTask =>
    have quiet := (ends retireTask_leads).ends pins choices answer after settled.start may performed
    exact ⟨quiet.settled, quiet.sent, quiet.owed⟩

end Pins

/-- One call after the other, each with what its surroundings answered. -/
def callStep (dialect : Dialect) (pins : Pins) (called : PinCall × List Answers) : Option Pins :=
  (Prog.alone (Pins.exec 0) (called.1.program dialect) pins called.2).map Prod.snd

namespace Pins

/-- The call tells the tab what it is owed. -/
def Honest (dialect : Dialect) (pins : Pins) (called : PinCall × List Answers) : Prop :=
  ∀ answer after,
    Prog.alone (exec 0) (called.1.program dialect) pins called.2 = some (answer, after) →
      Told dialect pins called.2 after answer called.1

/-- Whatever the calls and the answers, no session that held state is lost silently, as
long as none is retired to make room. -/
theorem never_lost_silently (limits : Limits) (dialect : Dialect)
    (calls : List (PinCall × List Answers))
    (keeps : Machine.Along (callStep dialect) KeepsState (new limits dialect) calls) :
    Machine.Along (callStep dialect) (Honest dialect) (new limits dialect) calls := by
  have settled := new_settled limits dialect
  generalize new limits dialect = pins at keeps settled ⊢
  induction calls generalizing pins with
  | nil => trivial
  | cons called rest hypothesis =>
    intro next stepped
    obtain ⟨met, along⟩ := keeps next stepped
    obtain ⟨ended, performed, next_eq⟩ := Option.map_eq_some_iff.mp stepped
    refine ⟨fun answer after performed => (call_tells settled met performed).2, ?_⟩
    apply hypothesis next along
    rw [← next_eq]
    exact (call_tells settled met performed).1

/-- The limits a registry has unless it is told others. -/
def defaultLimits : Limits := ⟨1800, 20, 16⟩

/-- Connections open and answer. -/
def answering (now : Nat) (victim : Text) : Answers where
  now := now
  victim := victim
  alive := true
  openFails := none
  result := .ok []
  lost := false
  inTime := true
  task := 0

def runs (key sql victim : Text) (steps now : Nat) : PinCall × List Answers :=
  (.run key sql 100, List.replicate steps (answering now victim))

/-- A transaction is begun, its session swept, and the next run of the tab told. -/
theorem swept_is_told : Machine.Along (callStep .postgres) (Honest .postgres)
    (new defaultLimits .postgres)
    [runs "a".toList "BEGIN".toList [] 11 1, (.sweep, List.replicate 7 (answering 5000 [])),
      runs "a".toList "SELECT 1".toList [] 7 5000] := by
  apply never_lost_silently
  apply Machine.along_step rfl (fun _ full => absurd full (by decide))
  apply Machine.along_step rfl trivial
  exact Machine.along_step rfl (fun missing => nomatch missing) trivial

/-- A tab begins a transaction, and then sixteen others run. -/
def crowd : List (PinCall × List Answers) :=
  runs "a".toList "BEGIN".toList [] 11 1 :: "bcdefghijklmnopq".toList.map fun tab =>
    runs [tab] "SELECT 1".toList "a".toList 10 1

/-- The next run of the tab that had to make room. -/
def again : PinCall × List Answers := runs "a".toList "SELECT 1".toList "b".toList 10 1

/-- The session with the open transaction is the one retired to make room: the next script
of the tab goes to a fresh connection, and nobody is told. -/
theorem crowded_out_silently : ¬Machine.Along (callStep .postgres) (Honest .postgres)
    (new defaultLimits .postgres) (crowd ++ [again]) := by
  intro honest
  have outcome : (crowd.foldlM (callStep .postgres) (new defaultLimits .postgres)).bind
      (fun pins => (Prog.alone (exec 0) (again.1.program .postgres) pins again.2).map
        fun ended => (pins.owed "a".toList, ended.2.sent.head?.map fun script => script.2.1,
          ended.1.isOk)) = some (some 0, some 17, true) := by
    decide +kernel
  obtain ⟨pins, reaches, ended⟩ := Option.bind_eq_some_iff.mp outcome
  obtain ⟨⟨answer, after⟩, performed, seen⟩ := Option.map_eq_some_iff.mp ended
  obtain ⟨owed, sent, fine⟩ : pins.owed "a".toList = some 0 ∧
      (after.sent.head?.map fun script => script.2.1) = some 17 ∧ answer.isOk = true := by
    simpa using seen
  have stepped : callStep .postgres pins again = some after := by
    rw [callStep, performed]
    rfl
  have told : Reports .postgres (· ∈ again.2) "a".toList "SELECT 1".toList pins answer after :=
    honest.last reaches stepped answer after performed
  cases told.held 0 owed with
  | inl same =>
    rw [same] at sent
    simp at sent
  | inr expired =>
    rw [expired.2.1] at fine
    cases fine

end Pins

end DbFree.Pooling
