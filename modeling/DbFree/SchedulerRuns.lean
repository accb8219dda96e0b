import DbFree.Machine
import DbFree.Scheduler

/- Runs of the scheduler: edits of the saved workflows, marks and polls, some of which cannot
read them. No fire is early, the fires of a schedule keep their distance, what does not change
keeps its timer, and old settings fire no more if the poll after the mark could read. -/
namespace DbFree.Workflows.Schedule

open Machine KeyedTables

variable {Zone Signature : Type}

/-- A fire that a poll returned, with the armed schedule it came from. -/
structure Firing where
  key : Key
  config : ScheduleConfig
  armedFor : Int
  moment : Int
deriving DecidableEq

structure System (around : Surroundings Zone Signature) where
  store : WorkflowStore
  scheduler : Scheduler around
  clock : Int
  fired : List Firing

inductive Action where
  | edit (store : WorkflowStore)
  | markDirty
  /-- `reads` says whether the saved workflows can be read. -/
  | poll (now : Int) (reads : Bool)

section Steps

variable {around : Surroundings Zone Signature} [DecidableEq Signature]

abbrev System.armed (system : System around) : Table Key (Armed around) :=
  system.scheduler.book.armed

def firingOf (armed : Table Key (Armed around)) (now : Int) (fire : Fire) : Option Firing :=
  (armed.lookup fire.key).map fun armed => ⟨fire.key, armed.config, armed.next, now⟩

def System.read (system : System around) (reads : Bool) : Option (Table Key ScheduleConfig) :=
  if reads then some (wanted around system.store) else none

/-- The scheduler when a poll looks for what is due. -/
def System.refreshed (system : System around) (now : Int) (reads : Bool) : Scheduler around :=
  system.scheduler.refresh (system.read reads) now

/-- What a poll returns, as it goes into the history. -/
def System.firings (system : System around) (now : Int) (reads : Bool) : List Firing :=
  (system.scheduler.poll (system.read reads) now).1.filterMap
    (firingOf (system.refreshed now reads).book.armed now)

def System.polled (system : System around) (now : Int) (reads : Bool) : System around where
  store := system.store
  scheduler := (system.scheduler.poll (system.read reads) now).2
  clock := now
  fired := system.fired ++ system.firings now reads

def step (system : System around) : Action → Option (System around)
  | .edit store => some { system with store }
  | .markDirty => some { system with scheduler := system.scheduler.markDirty }
  | .poll now reads => if system.clock ≤ now then some (system.polled now reads) else none

/-- The scheduler as it starts, with nothing armed. -/
def System.fresh (store : WorkflowStore) (dirty : Bool) (clock : Int) : System around :=
  ⟨store, ⟨⟨∅, none⟩, dirty⟩, clock, []⟩

/-- A poll that finds the mark can read the saved workflows. -/
def MarkRead (system : System around) : Action → Prop
  | .poll _ reads => system.scheduler.dirty = true → reads = true
  | _ => True

instance (system : System around) (action : Action) : Decidable (MarkRead system action) :=
  match action with
  | .poll _ reads => inferInstanceAs (Decidable (system.scheduler.dirty = true → reads = true))
  | .edit _ => isTrue trivial
  | .markDirty => isTrue trivial

/-- Every edit saves workflows of which the property holds. -/
def Edits (property : WorkflowStore → Prop) (actions : List Action) : Prop :=
  ∀ store, .edit store ∈ actions → property store

theorem poll_step {system next : System around} {now : Int} {reads : Bool}
    (stepped : step system (.poll now reads) = some next) :
    system.clock ≤ now ∧ next = system.polled now reads := by
  rw [step] at stepped
  split at stepped
  · cases stepped
    exact ⟨by assumption, rfl⟩
  · cases stepped

theorem mem_firings {system : System around} {now : Int} {reads : Bool} {firing : Firing} :
    firing ∈ system.firings now reads ↔
      ∃ armed, (system.refreshed now reads).book.armed.lookup firing.key = some armed ∧
        armed.next ≤ now ∧ firing = ⟨firing.key, armed.config, armed.next, now⟩ := by
  rw [System.firings, List.mem_filterMap]
  constructor
  · intro fires
    obtain ⟨fire, member, is_firing⟩ := fires
    obtain ⟨armed, found, due⟩ := mem_takeDue.mp member
    have same : firingOf (system.refreshed now reads).book.armed now fire = some firing := is_firing
    have here : (system.refreshed now reads).book.armed.lookup fire.key = some armed := found
    rw [firingOf, here] at same
    cases same
    exact ⟨armed, found, due, rfl⟩
  · intro fires
    obtain ⟨armed, found, due, same⟩ := fires
    refine ⟨fireOf firing.key, mem_takeDue.mpr ⟨armed, found, due⟩, ?_⟩
    rw [firingOf, fireOf_key, found, same]
    rfl

theorem firings_distinct (system : System around) (now : Int) (reads : Bool) :
    (system.firings now reads).Pairwise fun a b => a.key ≠ b.key := by
  rw [System.firings, List.pairwise_filterMap]
  have distinct := takeDue_nodup (system.refreshed now reads).book now
  rw [List.Nodup, List.pairwise_map] at distinct
  refine distinct.imp ?_
  intro fire other differ firing is_firing another is_another
  obtain ⟨armed, -, rfl⟩ := Option.map_eq_some_iff.mp is_firing
  obtain ⟨armed, -, rfl⟩ := Option.map_eq_some_iff.mp is_another
  exact differ

theorem lookup_polled (system : System around) (now : Int) (reads : Bool) (key : Key) :
    (system.polled now reads).armed.lookup key =
      ((system.refreshed now reads).book.armed.lookup key).bind (rearm now) :=
  lookup_takeDue _ now key

/-- What a poll finds armed was armed before or is armed from now. -/
theorem refreshed_armed {system : System around} {now : Int} {reads : Bool} {key : Key}
    {armed : Armed around}
    (found : (system.refreshed now reads).book.armed.lookup key = some armed) :
    system.armed.lookup key = some armed ∨ nextFire around armed.config now = some armed.next := by
  unfold System.refreshed Scheduler.refresh at found
  split at found
  · cases read : system.read reads with
    | none =>
      rw [read] at found
      exact .inl found
    | some wanted =>
      rw [read] at found
      exact (apply_armed found).2
  · exact .inl found

theorem refreshed_keeps {system : System around} {now : Int} {reads : Bool} {key : Key}
    {armed : Armed around} (found : system.armed.lookup key = some armed)
    (same : (wanted around system.store).lookup key = some armed.config) :
    (system.refreshed now reads).book.armed.lookup key = some armed := by
  unfold System.refreshed Scheduler.refresh
  split
  · cases reads with
    | false => exact found
    | true => exact apply_keeps found same
  · exact found

/-- The key is not armed with the settings, or a mark says that the next poll has to look. -/
def Settled (system : System around) (key : Key) (config : ScheduleConfig) : Prop :=
  system.scheduler.dirty = false →
    ∀ armed, system.armed.lookup key = some armed → armed.config ≠ config

theorem refreshed_settled {system : System around} {now : Int} {reads : Bool} {key : Key}
    {config : ScheduleConfig} (settled : Settled system key config)
    (reads_mark : MarkRead system (.poll now reads))
    (gone : (wanted around system.store).lookup key ≠ some config) (armed : Armed around)
    (found : (system.refreshed now reads).book.armed.lookup key = some armed) :
    armed.config ≠ config := by
  -- Either the saved workflows are read, or the book stays and no mark was found.
  unfold System.refreshed Scheduler.refresh at found
  cases marked : system.scheduler.dirty with
  | true =>
    rw [marked, Bool.true_or, if_pos rfl, System.read, reads_mark marked] at found
    intro same
    exact gone (same ▸ (apply_armed found).1)
  | false =>
    have kept := settled marked
    split at found
    · cases reads with
      | true =>
        intro same
        exact gone (same ▸ (apply_armed found).1)
      | false => exact kept armed found
    · exact kept armed found

end Steps

section Paced

variable {around : Surroundings Zone Signature}

/-- Two fires of one schedule: strictly apart, and by its interval if it has one. -/
def Apart (earlier later : Firing) : Prop :=
  earlier.key = later.key →
    earlier.moment < later.moment ∧ earlier.moment + interval later.config ≤ later.moment

/-- What holds of the history and of what is armed next at any time. -/
structure Paced (system : System around) : Prop where
  due : ∀ firing ∈ system.fired, firing.armedFor ≤ firing.moment
  past : ∀ firing ∈ system.fired, firing.moment ≤ system.clock
  apart : system.fired.Pairwise Apart
  ahead : ∀ key armed, system.armed.lookup key = some armed →
    ∀ firing ∈ system.fired, firing.key = key →
      firing.moment < armed.next ∧ firing.moment + interval armed.config ≤ armed.next

theorem paced_fresh (store : WorkflowStore) (dirty : Bool) (clock : Int) :
    Paced (System.fresh store dirty clock : System around) where
  due := by
    intro firing member
    cases member
  past := by
    intro firing member
    cases member
  apart := List.Pairwise.nil
  ahead := by
    intro key armed _ firing member
    cases member

variable [DecidableEq Signature]

/-- What a poll finds armed lies ahead of everything that fired. -/
theorem Paced.refreshed_ahead {system : System around} (paced : Paced system) {now : Int}
    (later : system.clock ≤ now) {reads : Bool} {key : Key} {armed : Armed around}
    (found : (system.refreshed now reads).book.armed.lookup key = some armed)
    {firing : Firing} (member : firing ∈ system.fired) (same : firing.key = key) :
    firing.moment < armed.next ∧ firing.moment + interval armed.config ≤ armed.next := by
  rcases refreshed_armed found with kept | new
  · exact paced.ahead key armed kept firing member same
  · have past := paced.past firing member
    have next := nextFire_spec new
    omega

theorem Paced.polled {system : System around} (paced : Paced system) {now : Int}
    (later : system.clock ≤ now) (reads : Bool) : Paced (system.polled now reads) where
  due := by
    intro firing member
    rcases List.mem_append.mp member with old | new
    · exact paced.due firing old
    · obtain ⟨armed, -, due, same⟩ := mem_firings.mp new
      rw [same]
      exact due
  past := by
    intro firing member
    rcases List.mem_append.mp member with old | new
    · exact (paced.past firing old).trans later
    · obtain ⟨armed, -, -, same⟩ := mem_firings.mp new
      rw [same]
      exact le_refl now
  apart := by
    refine List.pairwise_append.mpr ⟨paced.apart, ?_, ?_⟩
    · refine (firings_distinct system now reads).imp ?_
      intro first second differ same
      exact absurd same differ
    · intro old was_fired new fires same
      obtain ⟨armed, found, due, is_new⟩ := mem_firings.mp fires
      have ahead := paced.refreshed_ahead later found was_fired same
      rw [is_new]
      constructor
      · exact ahead.1.trans_le due
      · exact ahead.2.trans due
  ahead := by
    intro key armed found firing member same
    rw [lookup_polled] at found
    obtain ⟨before, was_armed, rearmed⟩ := Option.bind_eq_some_iff.mp found
    rw [rearm] at rearmed
    split at rearmed
    · -- Not due yet: nothing of this key fires in this poll.
      rename_i waits
      cases rearmed
      rcases List.mem_append.mp member with old | new
      · exact paced.refreshed_ahead later was_armed old same
      · obtain ⟨other, other_armed, due, -⟩ := mem_firings.mp new
        rw [same, was_armed] at other_armed
        cases other_armed
        omega
    · obtain ⟨next, fires, rfl⟩ := Option.map_eq_some_iff.mp rearmed
      have spec := nextFire_spec fires
      have moment : firing.moment ≤ now := by
        rcases List.mem_append.mp member with old | new
        · exact (paced.past firing old).trans later
        · obtain ⟨other, -, -, is_new⟩ := mem_firings.mp new
          rw [is_new]
      constructor
      · exact moment.trans_lt spec.1
      · exact (Int.add_le_add_right moment _).trans spec.2

theorem Paced.step {system next : System around} (paced : Paced system) {action : Action}
    (stepped : step system action = some next) : Paced next := by
  cases action with
  | edit store =>
    cases stepped
    exact ⟨paced.due, paced.past, paced.apart, paced.ahead⟩
  | markDirty =>
    cases stepped
    exact ⟨paced.due, paced.past, paced.apart, paced.ahead⟩
  | poll now reads =>
    obtain ⟨later, rfl⟩ := poll_step stepped
    exact paced.polled later reads

end Paced

section Runs

variable {around : Surroundings Zone Signature} [DecidableEq Signature]

theorem Edits.rest {property : WorkflowStore → Prop} {action : Action} {rest : List Action}
    (edits : Edits property (action :: rest)) : Edits property rest :=
  fun store member => edits store (List.mem_cons_of_mem _ member)

/-- A property of the saved workflows that every edit has is kept. -/
theorem Edits.step {property : WorkflowStore → Prop} {action : Action} {rest : List Action}
    (edits : Edits property (action :: rest)) {system next : System around}
    (holds : property system.store) (stepped : step system action = some next) :
    property next.store := by
  cases action with
  | edit store =>
    cases stepped
    exact edits store (List.mem_cons_self ..)
  | markDirty =>
    cases stepped
    exact holds
  | poll now reads =>
    obtain ⟨-, rfl⟩ := poll_step stepped
    exact holds

theorem step_fired {system next : System around} {action : Action}
    (stepped : step system action = some next) : system.fired <+: next.fired := by
  cases action with
  | edit store =>
    cases stepped
    exact List.prefix_refl _
  | markDirty =>
    cases stepped
    exact List.prefix_refl _
  | poll now reads =>
    obtain ⟨-, rfl⟩ := poll_step stepped
    exact List.prefix_append _ _

theorem run_fired {system reached : System around} {actions : List Action}
    (reaches : run step system actions = some reached) : system.fired <+: reached.fired := by
  have kept : ∀ (state : System around) (action : Action) (next : System around),
      system.fired <+: state.fired → step state action = some next →
        system.fired <+: next.fired := fun _ _ _ earlier stepped => earlier.trans (step_fired stepped)
  have begins : system.fired <+: system.fired := List.prefix_refl _
  have ends := run_keeps kept begins reaches
  exact ends

/-- A schedule that is wanted as it is armed stays armed for its time, or fires. -/
theorem step_keeps_timer {key : Key} {armed : Armed around} {system next : System around}
    {action : Action} (found : system.armed.lookup key = some armed)
    (same : (wanted around system.store).lookup key = some armed.config)
    (stepped : step system action = some next) :
    next.armed.lookup key = some armed ∨
      ∃ added, next.fired = system.fired ++ added ∧ ∃ firing ∈ added,
        firing.key = key ∧ firing.config = armed.config ∧ firing.armedFor = armed.next := by
  cases action with
  | edit store =>
    cases stepped
    exact .inl found
  | markDirty =>
    cases stepped
    exact .inl found
  | poll now reads =>
    obtain ⟨-, rfl⟩ := poll_step stepped
    have kept : (system.refreshed now reads).book.armed.lookup key = some armed :=
      refreshed_keeps found same
    by_cases waits : now < armed.next
    · left
      rw [lookup_polled, kept, Option.bind_some, rearm, if_pos waits]
    · right
      refine ⟨system.firings now reads, rfl, ⟨key, armed.config, armed.next, now⟩, ?_, rfl, rfl, rfl⟩
      exact mem_firings.mpr ⟨armed, kept, not_lt.mp waits, rfl⟩

/-- A schedule that stays wanted as it is armed keeps its next fire until it fires. -/
theorem run_keeps_timer {key : Key} {armed : Armed around} {system reached : System around}
    {actions : List Action} (found : system.armed.lookup key = some armed)
    (same : (wanted around system.store).lookup key = some armed.config)
    (edits : Edits (fun store => (wanted around store).lookup key = some armed.config) actions)
    (reaches : run step system actions = some reached) :
    reached.armed.lookup key = some armed ∨
      ∃ added, reached.fired = system.fired ++ added ∧ ∃ firing ∈ added,
        firing.key = key ∧ firing.config = armed.config ∧ firing.armedFor = armed.next := by
  induction actions generalizing system with
  | nil =>
    cases reaches
    exact .inl found
  | cons action rest hypothesis =>
    rw [run_cons] at reaches
    obtain ⟨next, stepped, reaches⟩ := Option.bind_eq_some_iff.mp reaches
    have still := edits.step same stepped
    rcases step_keeps_timer found same stepped with kept | ⟨added, grown, fires⟩
    · rcases hypothesis kept still edits.rest reaches with at_end | ⟨added, grown, fires⟩
      · exact .inl at_end
      · obtain ⟨before, first⟩ := step_fired stepped
        obtain ⟨firing, member, fields⟩ := fires
        refine .inr ⟨before ++ added, ?_, firing, List.mem_append_right _ member, fields⟩
        rw [grown, ← first, List.append_assoc]
    · obtain ⟨after, last⟩ := run_fired reaches
      obtain ⟨firing, member, fields⟩ := fires
      refine .inr ⟨added ++ after, ?_, firing, List.mem_append_left _ member, fields⟩
      rw [← last, grown, List.append_assoc]

theorem Settled.step {key : Key} {config : ScheduleConfig} {system next : System around}
    {action : Action} (settled : Settled system key config)
    (gone : (wanted around system.store).lookup key ≠ some config)
    (read : MarkRead system action) (stepped : step system action = some next) :
    Settled next key config ∧ ∃ added, next.fired = system.fired ++ added ∧
      ∀ firing ∈ added, firing.key = key → firing.config ≠ config := by
  cases action with
  | edit store =>
    cases stepped
    refine ⟨settled, [], (List.append_nil _).symm, ?_⟩
    intro firing member
    cases member
  | markDirty =>
    cases stepped
    refine ⟨?_, [], (List.append_nil _).symm, ?_⟩
    · intro clean
      cases clean
    · intro firing member
      cases member
  | poll now reads =>
    obtain ⟨-, rfl⟩ := poll_step stepped
    have forgotten := refreshed_settled settled read gone
    refine ⟨?_, system.firings now reads, rfl, ?_⟩
    · intro _ armed found
      rw [lookup_polled] at found
      obtain ⟨before, was_armed, rearmed⟩ := Option.bind_eq_some_iff.mp found
      have differs := forgotten before was_armed
      rw [rearm] at rearmed
      split at rearmed
      · cases rearmed
        exact differs
      · obtain ⟨next, -, rfl⟩ := Option.map_eq_some_iff.mp rearmed
        exact differs
    · intro firing member same
      obtain ⟨armed, was_armed, -, is_new⟩ := mem_firings.mp member
      rw [same] at was_armed
      rw [is_new]
      exact forgotten armed was_armed

/-- Settings that are gone do not fire again, if polls that find a mark can read. -/
theorem Settled.run {key : Key} {config : ScheduleConfig} {system reached : System around}
    {actions : List Action} (settled : Settled system key config)
    (gone : (wanted around system.store).lookup key ≠ some config)
    (edits : Edits (fun store => (wanted around store).lookup key ≠ some config) actions)
    (reads : Along Schedule.step MarkRead system actions)
    (reaches : Machine.run Schedule.step system actions = some reached) :
    ∃ added, reached.fired = system.fired ++ added ∧
      ∀ firing ∈ added, firing.key = key → firing.config ≠ config := by
  induction actions generalizing system with
  | nil =>
    cases reaches
    refine ⟨[], (List.append_nil _).symm, ?_⟩
    intro firing member
    cases member
  | cons action rest hypothesis =>
    rw [run_cons] at reaches
    obtain ⟨next, stepped, reaches⟩ := Option.bind_eq_some_iff.mp reaches
    obtain ⟨read, reads⟩ := reads next stepped
    have still := edits.step gone stepped
    obtain ⟨settled, first, grown, none_first⟩ := settled.step gone read stepped
    obtain ⟨later, grown_later, none_later⟩ := hypothesis settled still edits.rest reads reaches
    refine ⟨first ++ later, by rw [grown_later, grown, List.append_assoc], ?_⟩
    intro firing member
    rcases List.mem_append.mp member with early | late
    · exact none_first firing early
    · exact none_later firing late

/-- A schedule that is armed as it is wanted, and that no edit changes, is armed for the same
time until it fires. -/
def KeepsTimers (system reached : System around) (actions : List Action) : Prop :=
  ∀ key armed, system.armed.lookup key = some armed →
    (wanted around system.store).lookup key = some armed.config →
    Edits (fun store => (wanted around store).lookup key = some armed.config) actions →
    reached.armed.lookup key = some armed ∨
      ∃ added, reached.fired = system.fired ++ added ∧ ∃ firing ∈ added,
        firing.key = key ∧ firing.config = armed.config ∧ firing.armedFor = armed.next

/-- Settings that are not wanted, and that no edit brings back, do not fire. -/
def Forgets (system reached : System around) (actions : List Action) : Prop :=
  ∀ key config, (wanted around system.store).lookup key ≠ some config →
    Edits (fun store => (wanted around store).lookup key ≠ some config) actions →
    ∃ added, reached.fired = system.fired ++ added ∧
      ∀ firing ∈ added, firing.key = key → firing.config ≠ config

/-- The discipline of the scheduler, over every run: no fire before its time, the fires of a
schedule apart by its interval, timers moved by no edit that leaves their schedule alone, and,
where each poll that finds a mark can read the saved workflows, nothing fires from settings that
were gone when `mark_dirty` was called. -/
theorem scheduler_disciplined (around : Surroundings Zone Signature) (store : WorkflowStore)
    (dirty : Bool) (clock : Int) (before : List Action) (system : System around)
    (reaches : run step (System.fresh store dirty clock) before = some system) :
    (∀ firing ∈ system.fired, firing.armedFor ≤ firing.moment) ∧
    system.fired.Pairwise Apart ∧
    (∀ actions reached, run step system actions = some reached →
      KeepsTimers system reached actions) ∧
    (∀ actions reached, run step system (.markDirty :: actions) = some reached →
      Along step MarkRead system (.markDirty :: actions) → Forgets system reached actions) := by
  have paced : Paced system :=
    run_keeps (fun _ _ _ paced stepped => paced.step stepped) (paced_fresh store dirty clock)
      reaches
  refine ⟨paced.due, paced.apart, ?_, ?_⟩
  · intro actions reached later key armed found same edits
    exact run_keeps_timer found same edits later
  · intro actions reached later reads key config gone edits
    have marked : Settled { system with scheduler := system.scheduler.markDirty } key config := by
      intro clean
      cases clean
    exact marked.run gone edits (reads _ rfl).2 later

end Runs

section Unread

/-- A machine whose clock is that of UTC, up to the end of the year 262142. -/
def utc : Surroundings Unit ScheduleConfig where
  latest := 8210266876800 * second - 1
  lastDay := 95026236
  machineZone := ()
  zoneNamed name := if name = "UTC".toList then some () else none
  localDay _ instant := instant / (86400 * second)
  fromLocal _ wall := .single (wall * 60 * second)
  signature := id
  signature_injective := Function.injective_id

def everyTenSeconds : ScheduleConfig where
  mode := .interval
  intervalAmount := 10
  intervalUnit := .seconds
  time := "09:00".toList
  days := []
  timezone := []

/-- A workflow with one schedule, active or paused. -/
def clockwork (active : Bool) : WorkflowStore where
  docs := [⟨"w".toList, by decide, [],
    some ⟨[], [⟨"n".toList, [], false, .schedule everyTenSeconds⟩], [], active⟩⟩]
  distinct := List.nodup_singleton _

/-- Armed at 0 s and saved paused at 1 s. -/
def pausedAt : List Action := [.poll 0 true, .edit (clockwork false)]

/-- Polls at 1 s and at 10 s; the first one may not be able to read. -/
def pollsLater (reads : Bool) : List Action := [.poll second reads, .poll (10 * second) true]

theorem paused_read_quiet :
    ∃ system reached : System utc,
      run step (System.fresh (clockwork true) true 0) pausedAt = some system ∧
      system.armed.lookup ("w".toList, "n".toList) ≠ none ∧
      (wanted utc system.store).lookup ("w".toList, "n".toList) ≠ some everyTenSeconds ∧
      run step system (.markDirty :: pollsLater true) = some reached ∧
      Forgets system reached (pollsLater true) := by
  have runs : (run step (@System.fresh _ _ utc (clockwork true) true 0) pausedAt).any
      (fun system => (system.armed.lookup ("w".toList, "n".toList)).isSome &&
        decide ((wanted utc system.store).lookup ("w".toList, "n".toList) ≠ some everyTenSeconds) &&
        (run step system (.markDirty :: pollsLater true)).isSome &&
        decide (Along step MarkRead system (.markDirty :: pollsLater true))) = true := by
    decide +kernel
  obtain ⟨system, reaches, runs⟩ := (Option.any_eq_true _ _).mp runs
  simp only [Bool.and_eq_true, decide_eq_true_eq] at runs
  obtain ⟨⟨⟨armed, gone⟩, later⟩, reads⟩ := runs
  obtain ⟨reached, later⟩ := Option.isSome_iff_exists.mp later
  exact ⟨system, reached, reaches, Option.isSome_iff_ne_none.mp armed, gone, later,
    (scheduler_disciplined utc (clockwork true) true 0 pausedAt system reaches).2.2.2
      (pollsLater true) reached later reads⟩

/-- A read that fails uses up the mark: the schedule of the paused workflow fires all the same. -/
theorem paused_unread_fires :
    ¬∀ (system reached : System utc) (before actions : List Action),
      run step (System.fresh (clockwork true) true 0) before = some system →
      run step system (.markDirty :: actions) = some reached →
      Forgets system reached actions := by
  intro forgets
  have runs : (run step (@System.fresh _ _ utc (clockwork true) true 0) pausedAt).any
      (fun system => system.fired = [] &&
        decide ((wanted utc system.store).lookup ("w".toList, "n".toList) ≠ some everyTenSeconds) &&
        (run step system (.markDirty :: pollsLater false)).any fun reached =>
          reached.fired = [⟨("w".toList, "n".toList), everyTenSeconds, 10 * second, 10 * second⟩]) =
      true := by
    decide +kernel
  obtain ⟨system, reaches, runs⟩ := (Option.any_eq_true _ _).mp runs
  simp only [Bool.and_eq_true, decide_eq_true_eq] at runs
  obtain ⟨⟨none_before, gone⟩, runs⟩ := runs
  obtain ⟨reached, later, fires⟩ := (Option.any_eq_true _ _).mp runs
  have no_edit : Edits (fun store => (wanted utc store).lookup ("w".toList, "n".toList) ≠
      some everyTenSeconds) (pollsLater false) := by
    intro store member
    simp only [pollsLater, List.mem_cons, List.not_mem_nil, or_false] at member
    rcases member with edit | edit <;> cases edit
  obtain ⟨added, grown, quiet⟩ := forgets system reached pausedAt (pollsLater false) reaches later
    ("w".toList, "n".toList) everyTenSeconds gone no_edit
  have all := of_decide_eq_true fires
  rw [none_before, List.nil_append] at grown
  rw [grown] at all
  rw [all] at quiet
  exact quiet _ (List.mem_singleton_self _) rfl rfl

end Unread

end DbFree.Workflows.Schedule
