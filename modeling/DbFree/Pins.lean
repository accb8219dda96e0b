import DbFree.Interleaving
import DbFree.Errors
import DbFree.SessionHazards

/- The registry of pinned connections: one dedicated session for each query tab. A run takes
the tab's slot from the table, later locks it, and later opens or uses its connection. -/
namespace DbFree.Pooling

open Interleaving

/-- The results of a script, passed on as they are. -/
abbrev StatementResults := List Text

structure Limits where
  idle : Nat
  probeAfter : Nat
  max : Nat
deriving DecidableEq

def sessionExpired : AppError :=
  .driver ("This query tab's database session was closed by the server, so its settings, ".toList ++
    "temporary tables and any open transaction are gone. Nothing was run; run again to ".toList ++
    "continue on a new session.".toList) none none none

def lostError (original : AppError) : AppError :=
  .driver ("The connection of this query tab's session was lost (".toList ++
    original.message.rdropWhile (· == '.') ++
    "). The script may or may not have been applied. Run again to reconnect; session ".toList ++
    "settings, temporary tables and any open transaction are gone.".toList) none none none

def connectionClosed : AppError := .driver "connection closed".toList none none none

def connectionVanished : AppError := .internal "the session connection vanished".toList

def tooManySessions (max : Nat) : AppError :=
  .invalidInput ((toString max).toList ++
    " query sessions are running at once. Wait for one to finish or close a query tab.".toList)

/-- A connection, known by its number. -/
structure SlotState where
  conn : Option Nat
  lastUsed : Nat
  stateful : Bool
  unannouncedLoss : Bool
deriving DecidableEq

/-- Where a slot stands: in the table, out of it with a thread that sees to its connection,
handed to a retire task that has not begun, or done with. -/
inductive Standing where
  | unmade
  | mapped
  | leaving (thread : Nat)
  | retiring
  | retired
deriving DecidableEq

structure Slot where
  key : Text
  state : SlotState
  touched : Nat
  /-- The thread that holds the lock on the state. -/
  holder : Option Nat
  standing : Standing
deriving DecidableEq

def Slot.unmade : Slot := ⟨[], ⟨none, 0, false, false⟩, 0, none, .unmade⟩

def Slot.new (key : Text) (now : Nat) : Slot :=
  ⟨key, ⟨none, now, false, false⟩, now, none, .mapped⟩

/-- The registry, and what has happened in the run so far. -/
structure Pins where
  limits : Limits
  dialect : Dialect
  table : List (Text × Nat)
  slots : Nat → Slot
  made : Nat
  opened : Nat
  /-- Retire tasks that were spawned and have not begun. -/
  spawned : Nat → Bool
  /-- The slot a run has taken from the table and not yet locked. -/
  waiting : Nat → Option Nat
  /-- A connection was opened or used on a slot that was already retired. -/
  misused : Bool
  /-- The scripts sent, the latest first: for which tab, on which connection. -/
  sent : List (Text × Nat × Text)
  /-- The connection that holds session state a tab has not been told the loss of. -/
  owed : Text → Option Nat

/-- What the surroundings answer to one operation. -/
structure Answers where
  now : Nat
  /-- The idle session that is retired to make room; one of the least recently used. -/
  victim : Text
  alive : Bool
  openFails : Option AppError
  result : Except AppError StatementResults
  lost : Bool
  /-- The lock is free within the moment `close_all` gives it. -/
  inTime : Bool
  /-- The retire task that begins. -/
  task : Nat

/-- What a script that clears the flags of its session tells the user. -/
inductive Telling where
  | nothing | expired | lost
deriving DecidableEq

inductive PinOp where
  | slot (key : Text)
  | lock (slot : Nat)
  | unlock (slot : Nat)
  | state (slot : Nat)
  | probeDue (slot : Nat)
  | alive (slot : Nat)
  | closeConn (slot : Nat)
  | setLoss (slot : Nat)
  | clearFlags (slot : Nat) (telling : Telling)
  | openConn (slot : Nat)
  | setStateful (slot : Nat)
  | send (slot : Nat) (sql : Text) (maxRows : Nat)
  | used (slot : Nat)
  /-- `close` takes the slot of a key out of the table; `close_all` takes them all. -/
  | remove (key : Text)
  | drain
  | retire (slot : Nat)
  /-- A spawned retire task begins. -/
  | board
  | lockRemoved (slot : Nat)
  | lockInTime (slot : Nat)
  /-- The guard of a removed slot is dropped, its connection closed. -/
  | release (slot : Nat)
  | snapshot
  | tryLock (slot : Nat)
  | idle (slot : Nat)
deriving DecidableEq

abbrev PinOp.Answer : PinOp → Type
  | .slot _ => Except AppError Nat
  | .state _ => SlotState
  | .probeDue _ => Bool
  | .alive _ => Bool
  | .openConn _ => Except AppError Unit
  | .send _ _ _ => Except AppError StatementResults × Bool
  | .remove _ => Option Nat
  | .drain => List Nat
  | .board => Nat
  | .lockInTime _ => Bool
  | .snapshot => List Nat
  | .tryLock _ => Bool
  | .idle _ => Bool
  | _ => Unit

namespace Pins

def new (limits : Limits) (dialect : Dialect) : Pins where
  limits := limits
  dialect := dialect
  table := []
  slots _ := .unmade
  made := 0
  opened := 0
  spawned _ := false
  waiting _ := none
  misused := false
  sent := []
  owed _ := none

def find (pins : Pins) (key : Text) : Option Nat :=
  (pins.table.find? (·.1 = key)).map Prod.snd

def modify (pins : Pins) (slot : Nat) (change : Slot → Slot) : Pins :=
  { pins with slots := Function.update pins.slots slot (change (pins.slots slot)) }

def setState (pins : Pins) (slot : Nat) (change : SlotState → SlotState) : Pins :=
  pins.modify slot fun s => { s with state := change s.state }

def setStanding (pins : Pins) (slot : Nat) (standing : Standing) : Pins :=
  pins.modify slot fun s => { s with standing }

/-- The sessions nobody is running on: `try_lock` gets their lock. -/
def free (pins : Pins) : List (Text × Nat) :=
  pins.table.filter fun entry => (pins.slots entry.2).holder = none

/-- `min_by_key` of the free sessions by when they were touched; ties fall as they will. -/
def Stalest (pins : Pins) (victim : Text × Nat) : Prop :=
  victim ∈ pins.free ∧
    ∀ other ∈ pins.free, (pins.slots victim.2).touched ≤ (pins.slots other.2).touched

instance (pins : Pins) (victim : Text × Nat) : Decidable (pins.Stalest victim) := by
  unfold Stalest
  infer_instance

def insertSlot (pins : Pins) (thread : Nat) (key : Text) (now : Nat) : Pins :=
  { pins with
    table := (key, pins.made) :: pins.table
    slots := Function.update pins.slots pins.made (.new key now)
    made := pins.made + 1
    waiting := Function.update pins.waiting thread (some pins.made) }

def removeEntry (pins : Pins) (key : Text) : Pins :=
  { pins with table := pins.table.filter (·.1 ≠ key) }

/-- A retire task for the slot is spawned. -/
def spawnRetire (pins : Pins) (slot : Nat) : Pins :=
  { pins.setStanding slot .retiring with
    spawned := Function.update pins.spawned slot true }

def takeSlot (pins : Pins) (thread : Nat) (key : Text) (answers : Answers) :
    Option (Except AppError Nat × Pins) :=
  match pins.find key with
  | some slot =>
    some (.ok slot, { pins.modify slot fun s => { s with touched := answers.now } with
      waiting := Function.update pins.waiting thread (some slot) })
  | none =>
    if pins.limits.max ≤ pins.table.length then
      match pins.free with
      | [] => some (.error (tooManySessions pins.limits.max), pins)
      | _ =>
        match pins.find answers.victim with
        | some old =>
          if pins.Stalest (answers.victim, old) then
            some (.ok pins.made, ((pins.removeEntry answers.victim).spawnRetire old).insertSlot
              thread key answers.now)
          else none
        | none => none
    else some (.ok pins.made, pins.insertSlot thread key answers.now)

/-- Only the holder of a lock gets at what it guards. -/
def guarded {α : Type} (pins : Pins) (thread slot : Nat) (result : α × Pins) : Option (α × Pins) :=
  if (pins.slots slot).holder = some thread then some result else none

/-- Only the thread that took a slot out of the table, or its retire task, sees to it. -/
def inHand {α : Type} (pins : Pins) (thread slot : Nat) (result : α × Pins) : Option (α × Pins) :=
  if (pins.slots slot).standing = .leaving thread then some result else none

/-- The thread gets the lock on a slot nobody holds. -/
def locked (pins : Pins) (thread slot : Nat) : Option Pins :=
  if (pins.slots slot).holder = none ∧ (pins.slots slot).standing ≠ .unmade then
    some (pins.modify slot fun s => { s with holder := some thread })
  else none

/-- The connection of the slot is opened or used. -/
def touchConn (pins : Pins) (slot : Nat) : Pins :=
  { pins with misused := pins.misused || decide ((pins.slots slot).standing = .retired) }

def openOn (pins : Pins) (slot : Nat) : Pins :=
  { (pins.touchConn slot).setState slot fun s => { s with conn := some pins.opened } with
    opened := pins.opened + 1 }

/-- The script goes to the connection; one that leaves state behind makes the tab owe for it. -/
def sendOn (pins : Pins) (slot : Nat) (sql : Text) : Pins :=
  let key := (pins.slots slot).key
  match (pins.slots slot).state.conn with
  | some conn =>
    { pins.touchConn slot with
      sent := (key, conn, sql) :: pins.sent
      owed := if (scan sql pins.dialect).any then Function.update pins.owed key (some conn)
        else pins.owed }
  | none => pins

def forget (pins : Pins) (key : Text) : Pins :=
  { pins with owed := Function.update pins.owed key none }

def clearFlags (pins : Pins) (slot : Nat) (telling : Telling) : Pins :=
  let cleared := pins.setState slot fun s => { s with unannouncedLoss := false, stateful := false }
  match telling with
  | .nothing => cleared
  | .expired | .lost => cleared.forget (pins.slots slot).key

def drained (pins : Pins) (thread : Nat) : Pins :=
  { pins with
    table := []
    slots := fun slot =>
      if (pins.slots slot).standing = .mapped then
        { pins.slots slot with standing := .leaving thread }
      else pins.slots slot
    owed := fun _ => none }

def exec (thread : Nat) (pins : Pins) : (op : PinOp) → Answers → Option (op.Answer × Pins)
  | .slot key, answers => pins.takeSlot thread key answers
  | .lock slot, _ =>
    (pins.locked thread slot).map fun next =>
      ((), { next with waiting := Function.update next.waiting thread none })
  | .unlock slot, _ =>
    pins.guarded thread slot ((), pins.modify slot fun s => { s with holder := none })
  | .state slot, _ => pins.guarded thread slot ((pins.slots slot).state, pins)
  | .probeDue slot, answers =>
    pins.guarded thread slot
      (decide (pins.limits.probeAfter ≤ answers.now - (pins.slots slot).state.lastUsed), pins)
  | .alive slot, answers => pins.guarded thread slot (answers.alive, pins.touchConn slot)
  | .closeConn slot, _ =>
    pins.guarded thread slot ((), pins.setState slot fun s => { s with conn := none })
  | .setLoss slot, _ =>
    pins.guarded thread slot ((), pins.setState slot fun s => { s with unannouncedLoss := true })
  | .clearFlags slot telling, _ => pins.guarded thread slot ((), pins.clearFlags slot telling)
  | .openConn slot, answers =>
    match answers.openFails with
    | some error => pins.guarded thread slot (.error error, pins)
    | none => pins.guarded thread slot (.ok (), pins.openOn slot)
  | .setStateful slot, _ =>
    pins.guarded thread slot ((), pins.setState slot fun s => { s with stateful := true })
  | .send slot sql _, answers =>
    pins.guarded thread slot ((answers.result, answers.lost), pins.sendOn slot sql)
  | .used slot, answers =>
    pins.guarded thread slot ((), pins.modify slot fun s =>
      { s with state := { s.state with lastUsed := answers.now }, touched := answers.now })
  | .remove key, _ =>
    match pins.find key with
    | some slot =>
      some (some slot, ((pins.removeEntry key).setStanding slot (.leaving thread)).forget key)
    | none => some (none, pins)
  | .drain, _ => some (pins.table.map Prod.snd, pins.drained thread)
  | .retire slot, _ => pins.inHand thread slot ((), pins.spawnRetire slot)
  | .board, answers =>
    if pins.spawned answers.task then
      some (answers.task, { pins.setStanding answers.task (.leaving thread) with
        spawned := Function.update pins.spawned answers.task false })
    else none
  | .lockRemoved slot, _ => ((pins.locked thread slot).map fun next => ((), next)).bind
      (pins.inHand thread slot)
  | .lockInTime slot, answers =>
    if answers.inTime then ((pins.locked thread slot).map fun next => (true, next)).bind
      (pins.inHand thread slot)
    else some (false, pins)
  | .release slot, _ =>
    (pins.guarded thread slot ((), pins.modify slot fun s =>
      { s with holder := none, standing := .retired })).bind (pins.inHand thread slot)
  | .snapshot, _ => some (pins.table.map Prod.snd, pins)
  | .tryLock slot, _ =>
    match pins.locked thread slot with
    | some next => some (true, next)
    | none => some (false, pins)
  | .idle slot, answers =>
    pins.guarded thread slot
      (decide (pins.limits.idle ≤ answers.now - (pins.slots slot).state.lastUsed), pins)

end Pins

abbrev PinProg := Prog PinOp PinOp.Answer

def takeSlot (key : Text) : PinProg (Except AppError Nat) := .ask (PinOp.slot key)
def lock (slot : Nat) : PinProg Unit := .ask (PinOp.lock slot)
def unlock (slot : Nat) : PinProg Unit := .ask (PinOp.unlock slot)
def state (slot : Nat) : PinProg SlotState := .ask (PinOp.state slot)
def probeDue (slot : Nat) : PinProg Bool := .ask (PinOp.probeDue slot)
def alive (slot : Nat) : PinProg Bool := .ask (PinOp.alive slot)
def closeConn (slot : Nat) : PinProg Unit := .ask (PinOp.closeConn slot)
def setLoss (slot : Nat) : PinProg Unit := .ask (PinOp.setLoss slot)
def clearFlags (slot : Nat) (telling : Telling) : PinProg Unit :=
  .ask (PinOp.clearFlags slot telling)
def openConn (slot : Nat) : PinProg (Except AppError Unit) := .ask (PinOp.openConn slot)
def setStateful (slot : Nat) : PinProg Unit := .ask (PinOp.setStateful slot)
def send (slot : Nat) (sql : Text) (maxRows : Nat) :
    PinProg (Except AppError StatementResults × Bool) := .ask (PinOp.send slot sql maxRows)
def used (slot : Nat) : PinProg Unit := .ask (PinOp.used slot)
def remove (key : Text) : PinProg (Option Nat) := .ask (PinOp.remove key)
def drain : PinProg (List Nat) := .ask PinOp.drain
def retire (slot : Nat) : PinProg Unit := .ask (PinOp.retire slot)
def board : PinProg Nat := .ask PinOp.board
def lockRemoved (slot : Nat) : PinProg Unit := .ask (PinOp.lockRemoved slot)
def lockInTime (slot : Nat) : PinProg Bool := .ask (PinOp.lockInTime slot)
def release (slot : Nat) : PinProg Unit := .ask (PinOp.release slot)
def snapshot : PinProg (List Nat) := .ask PinOp.snapshot
def tryLock (slot : Nat) : PinProg Bool := .ask (PinOp.tryLock slot)
def idle (slot : Nat) : PinProg Bool := .ask (PinOp.idle slot)

/-- Finds out before sending whether a session that sat idle still answers. -/
def probe (slot : Nat) : PinProg Unit := do
  if ← probeDue slot then
    if (← state slot).conn.isSome then
      if ← alive slot then return ()
      else
        let _ ← closeConn slot
        setLoss slot
    else return ()
  else return ()

/-- Sends the script to the open connection of the slot. -/
def runOn (dialect : Dialect) (slot : Nat) (sql : Text) (maxRows : Nat) :
    PinProg (Except AppError StatementResults) := do
  let _ ← if (scan sql dialect).any then setStateful slot else pure ()
  if (← state slot).conn.isNone then
    let _ ← unlock slot
    return .error connectionVanished
  else
    let (result, lost) ← send slot sql maxRows
    let _ ← used slot
    if lost then
      let _ ← closeConn slot
      -- The error tells the user; the next run reconnects without repeating it.
      let _ ← clearFlags slot .lost
      let _ ← unlock slot
      match result with
      | .error original => return .error (lostError original)
      | .ok _ => return .error (lostError connectionClosed)
    else
      let _ ← unlock slot
      return result

def runLocked (dialect : Dialect) (slot : Nat) (sql : Text) (maxRows : Nat) :
    PinProg (Except AppError StatementResults) := do
  let _ ← probe slot
  let session ← state slot
  if session.conn.isNone then
    if session.unannouncedLoss && session.stateful then
      let _ ← clearFlags slot .expired
      let _ ← unlock slot
      return .error sessionExpired
    else
      let _ ← clearFlags slot .nothing
      match ← openConn slot with
      | .error error =>
        let _ ← unlock slot
        return .error error
      | .ok () => runOn dialect slot sql maxRows
  else runOn dialect slot sql maxRows

def run (dialect : Dialect) (key sql : Text) (maxRows : Nat) :
    PinProg (Except AppError StatementResults) := do
  match ← takeSlot key with
  | .error error => return .error error
  | .ok slot =>
    let _ ← lock slot
    runLocked dialect slot sql maxRows

def close (key : Text) : PinProg Unit := do
  match ← remove key with
  | some slot => retire slot
  | none => return ()

/-- The body of a retire task. -/
def retireTask : PinProg Unit := do
  let slot ← board
  let _ ← lockRemoved slot
  let _ ← if (← state slot).conn.isSome then closeConn slot else pure ()
  release slot

def closeEach : List Nat → PinProg Unit
  | [] => return ()
  | slot :: rest => do
    if ← lockInTime slot then
      let _ ← if (← state slot).conn.isSome then closeConn slot else pure ()
      let _ ← release slot
      closeEach rest
    else
      let _ ← retire slot
      closeEach rest

def closeAll : PinProg Unit := do
  closeEach (← drain)

/-- Closes the session if it has been idle for too long. -/
def sweepOne (slot : Nat) : PinProg Unit := do
  if ← tryLock slot then
    if (← state slot).conn.isSome then
      if ← idle slot then
        let _ ← closeConn slot
        let _ ← setLoss slot
        unlock slot
      else unlock slot
    else unlock slot
  else return ()

def sweepEach : List Nat → PinProg Unit
  | [] => return ()
  | slot :: rest => do
    let _ ← sweepOne slot
    sweepEach rest

def sweep : PinProg Unit := do
  sweepEach (← snapshot)

inductive PinCall where
  | run (key sql : Text) (maxRows : Nat)
  | close (key : Text)
  | closeAll
  | sweep
  | retireTask
deriving DecidableEq

/-- What the tab gets back from a run; the other calls answer nothing. -/
def PinCall.program (dialect : Dialect) : PinCall → PinProg (Except AppError StatementResults)
  | .run key sql maxRows => Pooling.run dialect key sql maxRows
  | .close key => do
    let _ ← Pooling.close key
    return .ok []
  | .closeAll => do
    let _ ← Pooling.closeAll
    return .ok []
  | .sweep => do
    let _ ← Pooling.sweep
    return .ok []
  | .retireTask => do
    let _ ← Pooling.retireTask
    return .ok []

end DbFree.Pooling
