import DbFree.KeyedTables
import DbFree.ScheduleTimes
import DbFree.WorkflowSecrets

/- The book of the armed schedules: which are wanted, which keep their timer, and which are due
(services/workflows/scheduler.rs). -/
namespace DbFree.Workflows.Schedule

open KeyedTables

def rescanEverySeconds : Int := 30

structure Fire where
  workflowId : Text
  nodeId : Text
deriving DecidableEq

abbrev Key := Text × Text

def Fire.key (fire : Fire) : Key := (fire.workflowId, fire.nodeId)

def fireOf (key : Key) : Fire := ⟨key.1, key.2⟩

@[simp]
theorem fireOf_key (key : Key) : (fireOf key).key = key := rfl

/-- By the workflow's id and then the node's. -/
def Fire.before (a b : Fire) : Prop :=
  a.workflowId < b.workflowId ∨ (a.workflowId = b.workflowId ∧ a.nodeId ≤ b.nodeId)

instance : DecidableRel Fire.before := fun a b =>
  inferInstanceAs (Decidable (a.workflowId < b.workflowId ∨ _))

variable {Zone Signature : Type}

structure Armed (around : Surroundings Zone Signature) where
  config : ScheduleConfig
  signature : Signature
  next : Int
  signed : signature = around.signature config

structure Book (around : Surroundings Zone Signature) where
  armed : Table Key (Armed around)
  lastScan : Option Int

structure Scheduler (around : Surroundings Zone Signature) where
  book : Book around
  dirty : Bool

section Wanted

variable (around : Surroundings Zone Signature)

def addNode (id : Text) (wanted : Table Key ScheduleConfig) (node : WorkflowNode) :
    Table Key ScheduleConfig :=
  match node.config with
  | .schedule config =>
    if problem around config = none then wanted.insert (id, node.id) config else wanted
  | _ => wanted

def addWorkflow (wanted : Table Key ScheduleConfig) (doc : StoredWorkflow) :
    Table Key ScheduleConfig :=
  match doc.body with
  | none => wanted
  | some body =>
    if body.schedulesActive then body.nodes.foldl (addNode around doc.id) wanted else wanted

/-- Every schedule that should be armed: Schedule nodes of workflows whose schedules are active. -/
def wanted (store : WorkflowStore) : Table Key ScheduleConfig :=
  store.allWorkflows.foldl (addWorkflow around) ∅

end Wanted

section Book

variable {around : Surroundings Zone Signature} [DecidableEq Signature]

def armOne (now : Int) (armed : Table Key (Armed around)) (entry : KeyedTables.Entry Key ScheduleConfig) :
    Table Key (Armed around) :=
  let signature := around.signature entry.2
  if (armed.lookup entry.1).any fun old => old.signature = signature then armed
  else
    match nextFire around entry.2 now with
    | some next => armed.insert entry.1 ⟨entry.2, signature, next, rfl⟩
    | none => armed.erase entry.1

/-- Arms what should be armed and forgets the rest. -/
def Book.apply (book : Book around) (wanted : Table Key ScheduleConfig) (now : Int) :
    Book around :=
  let retained := update
    (fun key armed => if (wanted.lookup key).isSome then some armed else none) book.armed
  { armed := wanted.entries.foldl (armOne now) retained, lastScan := some now }

def rearm (now : Int) (armed : Armed around) : Option (Armed around) :=
  if now < armed.next then some armed
  else (nextFire around armed.config now).map fun next => { armed with next }

/-- The armed schedules whose time has come, each armed again for its next time. -/
def Book.takeDue (book : Book around) (now : Int) : List Fire × Book around :=
  let due := (book.armed.entries.filter fun entry => entry.2.next ≤ now).map fun entry =>
    fireOf entry.1
  (due.insertionSort Fire.before, { book with armed := update (fun _ => rearm now) book.armed })

def Book.stale (book : Book around) (now : Int) : Bool :=
  book.lastScan.all fun scanned => rescanEverySeconds ≤ (now - scanned).tdiv second

def Scheduler.markDirty (scheduler : Scheduler around) : Scheduler around :=
  { scheduler with dirty := true }

/-- The first half of a poll: the saved workflows are read again if something says so. The mark
is taken off before it is known whether they can be read. -/
def Scheduler.refresh (scheduler : Scheduler around) (read : Option (Table Key ScheduleConfig))
    (now : Int) : Scheduler around :=
  if scheduler.dirty || scheduler.book.stale now then
    match read with
    | some wanted => { book := scheduler.book.apply wanted now, dirty := false }
    | none => { scheduler with dirty := false }
  else { scheduler with dirty := false }

/-- The fires that are due now, after the saved workflows are read again if needed. -/
def Scheduler.poll (scheduler : Scheduler around) (read : Option (Table Key ScheduleConfig))
    (now : Int) : List Fire × Scheduler around :=
  let refreshed := scheduler.refresh read now
  let (due, book) := refreshed.book.takeDue now
  (due, { refreshed with book })

/-- What becomes of a schedule that is wanted: the same settings keep their timer. -/
def keptOrArmed (now : Int) (config : ScheduleConfig) (old : Option (Armed around)) :
    Option (Armed around) :=
  if old.any fun armed => armed.signature = around.signature config then old
  else (nextFire around config now).map fun next => ⟨config, around.signature config, next, rfl⟩

theorem armOne_frame (now : Int) (armed : Table Key (Armed around))
    (entry : KeyedTables.Entry Key ScheduleConfig) (key : Key) (other : key ≠ entry.1) :
    (armOne now armed entry).lookup key = armed.lookup key := by
  rw [armOne]
  split
  · rfl
  · split
    · exact AList.lookup_insert_ne other
    · exact AList.lookup_erase_ne other

theorem armOne_own (now : Int) (armed : Table Key (Armed around)) (key : Key)
    (config : ScheduleConfig) :
    (armOne now armed ⟨key, config⟩).lookup key = keptOrArmed now config (armed.lookup key) := by
  rw [armOne, keptOrArmed]
  split
  · rfl
  · cases nextFire around config now with
    | some next => exact AList.lookup_insert _
    | none => exact AList.lookup_erase _ _

/-- After a scan exactly what is wanted may be armed. -/
theorem lookup_apply (book : Book around) (wanted : Table Key ScheduleConfig) (now : Int)
    (key : Key) :
    (book.apply wanted now).armed.lookup key =
      (wanted.lookup key).bind fun config => keptOrArmed now config (book.armed.lookup key) := by
  rw [Book.apply]
  cases found : wanted.lookup key with
  | none =>
    have absent : key ∉ wanted.entries.keys := AList.lookup_eq_none.mp found
    rw [lookup_foldl_absent (armOne_frame now) absent, lookup_update, found]
    cases book.armed.lookup key <;> rfl
  | some config =>
    rw [lookup_foldl_present (armOne_frame now) wanted.nodupKeys
      (fun armed => armOne_own now armed key config) found, lookup_update, found]
    cases book.armed.lookup key <;> rfl

/-- What is armed after a scan is wanted as it is, and was armed before or is armed from now. -/
theorem apply_armed {book : Book around} {wanted : Table Key ScheduleConfig} {now : Int}
    {key : Key} {armed : Armed around}
    (found : (book.apply wanted now).armed.lookup key = some armed) :
    wanted.lookup key = some armed.config ∧
      (book.armed.lookup key = some armed ∨ nextFire around armed.config now = some armed.next) := by
  rw [lookup_apply] at found
  obtain ⟨config, is_wanted, found⟩ := Option.bind_eq_some_iff.mp found
  rw [keptOrArmed] at found
  split at found
  · rename_i same
    rw [found, Option.any_some, decide_eq_true_eq, armed.signed] at same
    rw [is_wanted, around.signature_injective same]
    exact ⟨rfl, .inl found⟩
  · obtain ⟨next, fires, rfl⟩ := Option.map_eq_some_iff.mp found
    exact ⟨is_wanted, .inr fires⟩

/-- A schedule that is wanted as it is armed keeps its timer. -/
theorem apply_keeps {book : Book around} {wanted : Table Key ScheduleConfig} {now : Int}
    {key : Key} {armed : Armed around} (found : book.armed.lookup key = some armed)
    (same : wanted.lookup key = some armed.config) :
    (book.apply wanted now).armed.lookup key = some armed := by
  rw [lookup_apply, same, Option.bind_some, keptOrArmed, found, Option.any_some, armed.signed,
    decide_eq_true rfl, if_pos rfl]

end Book

section Due

variable {around : Surroundings Zone Signature}

theorem mem_takeDue {book : Book around} {now : Int} {fire : Fire} :
    fire ∈ (book.takeDue now).1 ↔
      ∃ armed, book.armed.lookup fire.key = some armed ∧ armed.next ≤ now := by
  rw [Book.takeDue, List.mem_insertionSort, List.mem_map]
  constructor
  · rintro ⟨⟨key, armed⟩, member, rfl⟩
    obtain ⟨member, due⟩ := List.mem_filter.mp member
    exact ⟨armed, AList.mem_lookup_iff.mpr member, of_decide_eq_true due⟩
  · rintro ⟨armed, found, due⟩
    exact ⟨⟨fire.key, armed⟩,
      List.mem_filter.mpr ⟨AList.mem_lookup_iff.mp found, decide_eq_true due⟩, rfl⟩

theorem takeDue_nodup (book : Book around) (now : Int) :
    ((book.takeDue now).1.map Fire.key).Nodup := by
  have sorted := List.perm_insertionSort Fire.before
    ((book.armed.entries.filter fun entry => entry.2.next ≤ now).map fun entry => fireOf entry.1)
  have keys := (List.filter_sublist (p := fun entry : KeyedTables.Entry Key (Armed around) =>
    decide (entry.2.next ≤ now)) (l := book.armed.entries)).map Sigma.fst
  rw [Book.takeDue, (sorted.map Fire.key).nodup_iff, List.map_map]
  exact keys.nodup book.armed.nodupKeys

theorem lookup_takeDue (book : Book around) (now : Int) (key : Key) :
    (book.takeDue now).2.armed.lookup key = (book.armed.lookup key).bind (rearm now) :=
  lookup_update _ _ _

end Due

end DbFree.Workflows.Schedule
