import DbFree.SlotOwners

/- Each operation on the table of sessions, for the thread that performs it: what the thread
knows before and after, as long as the order of retirement is kept. -/
namespace DbFree.Pooling

open Interleaving

namespace Pins

/-- A removed slot is locked to be closed only when no run is still on its way to it, and a
run opens a connection on a removed slot only while the tab has none in the table. -/
def InOrder (_ : Nat) (pins : Pins) (op : PinOp) (answers : Answers) : Prop :=
  match op with
  | .lockRemoved slot | .lockInTime slot => ∀ runner, pins.waiting runner ≠ some slot
  | .openConn slot => answers.openFails = none → (pins.slots slot).standing ≠ .mapped →
    ∀ other, (pins.slots other).standing = .mapped →
      (pins.slots other).key = (pins.slots slot).key → (pins.slots other).state.conn = none
  | _ => True

/-- The thread has nothing. -/
abbrev Idle (thread : Nat) : Pins → Prop := Local thread none none []

/-- The thread has taken the slot from the table and not yet locked it. -/
abbrev Waits (thread slot : Nat) : Pins → Prop := Local thread (some slot) none []

/-- The thread sweeps the session of the slot. -/
abbrev Sweeps (thread slot : Nat) : Pins → Prop := Local thread none (some slot) []

/-- The thread runs on the session of the slot. -/
def RunsOn (thread slot : Nat) (pins : Pins) : Prop :=
  Local thread none (some slot) [] pins ∧ (pins.slots slot).standing ≠ .retired

/-- The thread sees to slots it has taken out of the table. -/
def Removes (thread : Nat) (slots : List Nat) (pins : Pins) : Prop :=
  Local thread none none slots pins ∧ slots.Nodup

/-- The thread closes the first of the slots it sees to. -/
def Closes (thread slot : Nat) (rest : List Nat) (pins : Pins) : Prop :=
  Local thread none (some slot) (slot :: rest) pins ∧ (slot :: rest).Nodup ∧
    ∀ runner, pins.waiting runner ≠ some slot

theorem local_leaves {thread : Nat} {waits holds : Option Nat} {hand : List Nat}
    {pins next : Pins} (known : Local thread waits holds hand pins)
    (leaves : Leaves thread pins next) : Local thread waits holds hand next where
  waits := by rw [leaves.waiting, known.waits]
  holds slot := by rw [leaves.holders, known.holds]
  hand slot := by rw [leaves.standings, known.hand]

theorem local_stable (thread : Nat) (waits holds : Option Nat) (hand : List Nat) :
    Stable exec Inv InOrder thread (Local thread waits holds hand) := by
  intro other different pins op answers answer next inv known _ performed
  exact local_leaves known (exec_leaves inv different performed)

theorem runsOn_stable (thread slot : Nat) :
    Stable exec Inv InOrder thread (RunsOn thread slot) := by
  intro other different pins op answers answer next inv known _ performed
  have leaves : Leaves thread pins next := exec_leaves inv different performed
  refine ⟨local_leaves known.1 leaves, ?_⟩
  exact leaves.live slot ((known.1.holds slot).mpr rfl) known.2

theorem removes_stable (thread : Nat) (slots : List Nat) :
    Stable exec Inv InOrder thread (Removes thread slots) := by
  intro other different pins op answers answer next inv known _ performed
  exact ⟨local_leaves known.1 (exec_leaves inv different performed), known.2⟩

theorem closes_stable (thread slot : Nat) (rest : List Nat) :
    Stable exec Inv InOrder thread (Closes thread slot rest) := by
  intro other different pins op answers answer next inv known _ performed
  have leaves : Leaves thread pins next := exec_leaves inv different performed
  refine ⟨local_leaves known.1 leaves, known.2.1, ?_⟩
  exact leaves.alone slot ((known.1.hand slot).mpr List.mem_cons_self) known.2.2

theorem Local.of_sameShape {thread slot : Nat} {waits holds : Option Nat} {hand : List Nat}
    {pins next : Pins} (known : Local thread waits holds hand pins)
    (same : SameShape slot pins next)
    (holder : (next.slots slot).holder = (pins.slots slot).holder) :
    Local thread waits holds hand next where
  waits := by rw [same.waiting, known.waits]
  holds other := by
    rw [← known.holds other]
    by_cases here : other = slot
    · rw [here, holder]
    · rw [same.others other here]
  hand other := by rw [same.standings, known.hand]

/-- What a thread knows of a slot whose lock it has, and keeps while it works on the session. -/
structure Working (thread slot : Nat) (known : Pins → Prop) : Prop where
  holds : ∀ pins, known pins → (pins.slots slot).holder = some thread
  stable : Stable exec Inv InOrder thread known
  keeps : ∀ pins next, known pins → SameShape slot pins next →
    (next.slots slot).holder = (pins.slots slot).holder → known next

theorem sweeps_working (thread slot : Nat) : Working thread slot (Sweeps thread slot) where
  holds _ known := (known.holds slot).mpr rfl
  stable := local_stable thread none (some slot) []
  keeps _ _ known same holder := known.of_sameShape same holder

theorem runsOn_working (thread slot : Nat) : Working thread slot (RunsOn thread slot) where
  holds _ known := (known.1.holds slot).mpr rfl
  stable := runsOn_stable thread slot
  keeps _ _ known same holder := by
    refine ⟨known.1.of_sameShape same holder, ?_⟩
    rw [same.standing]
    exact known.2

theorem closes_working (thread slot : Nat) (rest : List Nat) :
    Working thread slot (Closes thread slot rest) where
  holds _ known := (known.1.holds slot).mpr rfl
  stable := closes_stable thread slot rest
  keeps _ _ known same holder := by
    refine ⟨known.1.of_sameShape same holder, known.2.1, ?_⟩
    rw [same.waiting]
    exact known.2.2

theorem Inv.work {pins next : Pins} (inv : pins.Inv) {slot thread : Nat}
    (held : (pins.slots slot).holder = some thread) (same : SameShape slot pins next)
    (misused : next.misused = pins.misused) (opened : next.opened = pins.opened)
    (conns : ∀ conn, (next.slots slot).state.conn = some conn →
      (pins.slots slot).state.conn = some conn) :
    next.Inv := by
  apply inv.of_sameShape same
  · rw [misused]
    exact inv.well_used
  · exact Nat.le_of_eq opened.symm
  · intro unmade
    rw [inv.blank slot unmade] at held
    cases held
  · exact fun conn has => .inl (conns conn has)

variable {thread slot : Nat} {known : Pins → Prop}

/-- An operation of a thread on a session whose lock it has. -/
theorem performs_guarded (working : Working thread slot known) {op : PinOp}
    (effect : ∀ pins answers answer next, pins.Inv → known pins →
      exec thread pins op answers = some (answer, next) →
      SameShape slot pins next ∧ (next.slots slot).holder = (pins.slots slot).holder ∧
        next.Inv) :
    Performs exec Inv InOrder thread known op fun _ => known := by
  intro pins answers answer next inv known_here _ performed
  obtain ⟨same, holder, kept⟩ := effect pins answers answer next inv known_here performed
  exact ⟨kept, working.keeps pins next known_here same holder⟩

theorem does_state (working : Working thread slot known) :
    Verified exec Inv InOrder thread (state slot) known fun session pins =>
      known pins ∧ (pins.slots slot).state = session := by
  apply Verified.ask working.stable
  intro pins answers session next inv known_here _ performed
  obtain ⟨-, done⟩ := guarded_eq performed
  cases done
  exact ⟨inv, known_here, rfl⟩

theorem does_probeDue (working : Working thread slot known) :
    Verified exec Inv InOrder thread (probeDue slot) known fun _ => known := by
  apply Verified.ask working.stable
  apply performs_guarded working
  intro pins answers due next inv _ performed
  obtain ⟨-, done⟩ := guarded_eq performed
  cases done
  exact ⟨.refl slot pins, rfl, inv⟩

theorem does_idle (working : Working thread slot known) :
    Verified exec Inv InOrder thread (idle slot) known fun _ => known := by
  apply Verified.ask working.stable
  apply performs_guarded working
  intro pins answers tooLong next inv _ performed
  obtain ⟨-, done⟩ := guarded_eq performed
  cases done
  exact ⟨.refl slot pins, rfl, inv⟩

theorem does_closeConn (working : Working thread slot known) :
    Verified exec Inv InOrder thread (closeConn slot) known fun _ pins =>
      known pins ∧ (pins.slots slot).state.conn = none := by
  apply Verified.ask working.stable
  intro pins answers _ next inv known_here _ performed
  obtain ⟨held, done⟩ := guarded_eq performed
  cases done
  have same : SameShape slot pins (pins.setState slot fun s => { s with conn := none }) :=
    sameShape_modify pins rfl rfl
  have closed : ((pins.setState slot fun s => { s with conn := none }).slots slot).state.conn =
      none := by
    rw [setState, modify_self]
  refine ⟨inv.work held same rfl rfl (fun conn has => ?_), ?_, closed⟩
  · rw [closed] at has
    cases has
  · apply working.keeps pins _ known_here same
    rw [setState, modify_self]

/-- An operation that sets flags or times of the session. -/
theorem performs_setting (working : Working thread slot known) {op : PinOp}
    (effect : ∀ pins answers answer next, pins.Inv → known pins →
      exec thread pins op answers = some (answer, next) →
      ∃ change : Slot → Slot, next.slots = (pins.modify slot change).slots ∧
        next.table = pins.table ∧ next.made = pins.made ∧ next.waiting = pins.waiting ∧
        next.spawned = pins.spawned ∧ next.misused = pins.misused ∧ next.opened = pins.opened ∧
        ∀ s, (change s).key = s.key ∧ (change s).standing = s.standing ∧
          (change s).holder = s.holder ∧ (change s).state.conn = s.state.conn) :
    Performs exec Inv InOrder thread known op fun _ => known := by
  apply performs_guarded working
  intro pins answers answer next inv known_here performed
  obtain ⟨change, slots, table, made, waiting, spawned, misused, opened, keeps⟩ :=
    effect pins answers answer next inv known_here performed
  have here : next.slots slot = change (pins.slots slot) := by rw [slots, modify_self]
  have same : SameShape slot pins next := by
    refine ⟨table, made, waiting, spawned, fun other different => ?_, ?_, ?_⟩
    · rw [slots, modify_of_ne pins different]
    · rw [here, (keeps _).1]
    · rw [here, (keeps _).2.1]
  have held := working.holds pins known_here
  refine ⟨same, by rw [here, (keeps _).2.2.1], inv.work held same misused opened ?_⟩
  rw [here, (keeps _).2.2.2]
  exact fun _ has => has

theorem does_setLoss (working : Working thread slot known) :
    Verified exec Inv InOrder thread (setLoss slot) known fun _ => known := by
  apply Verified.ask working.stable
  apply performs_setting working
  intro pins answers _ next _ _ performed
  obtain ⟨-, done⟩ := guarded_eq performed
  cases done
  exact ⟨_, rfl, rfl, rfl, rfl, rfl, rfl, rfl, fun _ => ⟨rfl, rfl, rfl, rfl⟩⟩

theorem does_clearFlags (working : Working thread slot known) (telling : Telling) :
    Verified exec Inv InOrder thread (Pooling.clearFlags slot telling)
      known fun _ => known := by
  apply Verified.ask working.stable
  apply performs_setting working
  intro pins answers _ next _ _ performed
  obtain ⟨-, done⟩ := guarded_eq performed
  cases done
  let clear : Slot → Slot := fun s =>
    { s with state := { s.state with unannouncedLoss := false, stateful := false } }
  cases telling with
  | nothing => exact ⟨clear, rfl, rfl, rfl, rfl, rfl, rfl, rfl, fun _ => ⟨rfl, rfl, rfl, rfl⟩⟩
  | expired => exact ⟨clear, rfl, rfl, rfl, rfl, rfl, rfl, rfl, fun _ => ⟨rfl, rfl, rfl, rfl⟩⟩
  | lost => exact ⟨clear, rfl, rfl, rfl, rfl, rfl, rfl, rfl, fun _ => ⟨rfl, rfl, rfl, rfl⟩⟩

theorem does_setStateful (working : Working thread slot known) :
    Verified exec Inv InOrder thread (setStateful slot) known fun _ => known := by
  apply Verified.ask working.stable
  apply performs_setting working
  intro pins answers _ next _ _ performed
  obtain ⟨-, done⟩ := guarded_eq performed
  cases done
  exact ⟨_, rfl, rfl, rfl, rfl, rfl, rfl, rfl, fun _ => ⟨rfl, rfl, rfl, rfl⟩⟩

theorem does_used (working : Working thread slot known) :
    Verified exec Inv InOrder thread (used slot) known fun _ => known := by
  apply Verified.ask working.stable
  apply performs_setting working
  intro pins answers _ next _ _ performed
  obtain ⟨-, done⟩ := guarded_eq performed
  cases done
  exact ⟨_, rfl, rfl, rfl, rfl, rfl, rfl, rfl, fun _ => ⟨rfl, rfl, rfl, rfl⟩⟩

theorem runsOn_live {pins : Pins} (inv : pins.Inv) (running : RunsOn thread slot pins) :
    (pins.slots slot).standing ≠ .retired ∧ (pins.slots slot).standing ≠ .unmade := by
  refine ⟨running.2, fun unmade => ?_⟩
  have held := (running.1.holds slot).mpr rfl
  rw [inv.blank slot unmade] at held
  cases held

/-- A run uses the connection of a slot that is not retired. -/
theorem touchConn_misused {pins : Pins} (inv : pins.Inv) (running : RunsOn thread slot pins) :
    (pins.touchConn slot).misused = false := by
  show (pins.misused || decide ((pins.slots slot).standing = .retired)) = false
  rw [inv.well_used, decide_eq_false running.2]
  rfl

theorem Inv.touchConn {pins : Pins} (inv : pins.Inv) (running : RunsOn thread slot pins) :
    (pins.touchConn slot).Inv :=
  { inv with well_used := touchConn_misused inv running }

theorem does_alive : Verified exec Inv InOrder thread (alive slot) (RunsOn thread slot)
    fun _ => RunsOn thread slot := by
  apply Verified.ask (runsOn_stable thread slot)
  apply performs_guarded (runsOn_working thread slot)
  intro pins answers _ next inv running performed
  obtain ⟨-, done⟩ := guarded_eq performed
  cases done
  exact ⟨⟨rfl, rfl, rfl, rfl, fun _ _ => rfl, rfl, rfl⟩, rfl, inv.touchConn running⟩

theorem does_openConn :
    Verified exec Inv InOrder thread (openConn slot) (RunsOn thread slot)
      fun _ => RunsOn thread slot := by
  apply Verified.ask (runsOn_stable thread slot)
  intro pins answers _ next inv running in_order performed
  rw [exec] at performed
  split at performed
  · obtain ⟨-, done⟩ := guarded_eq performed
    cases done
    exact ⟨inv, running⟩
  · rename_i opens
    obtain ⟨held, done⟩ := guarded_eq performed
    cases done
    have here : (pins.openOn slot).slots slot = { pins.slots slot with
        state := { (pins.slots slot).state with conn := some pins.opened } } := by
      exact Function.update_self ..
    have same : SameShape slot pins (pins.openOn slot) := by
      refine ⟨rfl, rfl, rfl, rfl, fun other different => ?_, ?_, ?_⟩
      · exact Function.update_of_ne different ..
      · rw [here]
      · rw [here]
    constructor
    · apply inv.of_sameShape same (touchConn_misused inv running) (Nat.le_succ _)
      · exact fun unmade => absurd unmade (runsOn_live inv running).2
      · intro conn has
        rw [here] at has
        cases has
        exact .inr ⟨Nat.le_refl _, Nat.lt_succ_self _, runsOn_live inv running, in_order opens⟩
    · apply (runsOn_working thread slot).keeps pins _ running same
      rw [here]

theorem does_send (sql : Text) (maxRows : Nat) :
    Verified exec Inv InOrder thread (send slot sql maxRows) (RunsOn thread slot)
      fun _ => RunsOn thread slot := by
  apply Verified.ask (runsOn_stable thread slot)
  apply performs_guarded (runsOn_working thread slot)
  intro pins answers _ next inv running performed
  obtain ⟨-, done⟩ := guarded_eq performed
  cases done
  unfold sendOn
  cases (pins.slots slot).state.conn with
  | none => exact ⟨.refl slot pins, rfl, inv⟩
  | some conn =>
    refine ⟨⟨rfl, rfl, rfl, rfl, fun _ _ => rfl, rfl, rfl⟩, rfl, ?_⟩
    exact { inv with well_used := touchConn_misused inv running }

theorem Inv.locked {pins next : Pins} (inv : pins.Inv) (gets : pins.locked thread slot = some next) :
    next.Inv := by
  obtain ⟨free, made, rfl⟩ := locked_eq gets
  apply inv.of_sameShape (sameShape_modify pins rfl rfl) inv.well_used (Nat.le_refl _)
  · exact fun unmade => absurd unmade made
  · rw [modify_self]
    exact fun _ has => .inl has

theorem Local.locked {waits : Option Nat} {hand : List Nat} {pins next : Pins}
    (known : Local thread waits none hand pins) (gets : pins.locked thread slot = some next) :
    Local thread waits (some slot) hand next := by
  obtain ⟨free, made, rfl⟩ := locked_eq gets
  refine ⟨known.waits, fun other => ?_, fun other => ?_⟩
  · by_cases here : other = slot
    · rw [here, modify_self]
      simp
    · rw [modify_of_ne pins here, known.holds]
      simp [Ne.symm here]
  · rw [← known.hand other]
    by_cases here : other = slot
    · rw [here, modify_self]
    · rw [modify_of_ne pins here]

/-- The thread gives the lock back. -/
theorem Local.unlocked {waits : Option Nat} {hand : List Nat} {pins : Pins}
    (known : Local thread waits (some slot) hand pins) :
    Local thread waits none hand (pins.modify slot fun s => { s with holder := none }) := by
  refine ⟨known.waits, fun other => ?_, fun other => ?_⟩
  · by_cases here : other = slot
    · rw [here, modify_self]
      simp
    · rw [modify_of_ne pins here, known.holds]
      simp [Ne.symm here]
  · rw [← known.hand other]
    by_cases here : other = slot
    · rw [here, modify_self]
    · rw [modify_of_ne pins here]

theorem Inv.unlocked {pins : Pins} (inv : pins.Inv) (slot : Nat) :
    (pins.modify slot fun s => { s with holder := none }).Inv := by
  apply inv.of_sameShape (sameShape_modify pins rfl rfl) inv.well_used (Nat.le_refl _)
  · rw [modify_self]
    exact fun _ => rfl
  · rw [modify_self]
    exact fun _ has => .inl has

theorem does_unlock (working : Working thread slot known)
    (sweeps : ∀ pins, known pins → Sweeps thread slot pins) :
    Verified exec Inv InOrder thread (unlock slot) known fun _ => Idle thread := by
  apply Verified.ask working.stable
  intro pins answers _ next inv known_here _ performed
  obtain ⟨-, done⟩ := guarded_eq performed
  cases done
  exact ⟨inv.unlocked slot, (sweeps pins known_here).unlocked⟩

theorem does_lock : Verified exec Inv InOrder thread (lock slot) (Waits thread slot)
    fun _ => RunsOn thread slot := by
  apply Verified.ask (local_stable thread (some slot) none [])
  intro pins answers _ next inv waits _ performed
  obtain ⟨locked, gets, done⟩ := Option.map_eq_some_iff.mp performed
  cases done
  have live := inv.waiting_live thread slot waits.waits
  have holds := waits.locked gets
  refine ⟨(inv.locked gets).stops_waiting thread, ⟨?_, holds.holds, holds.hand⟩, ?_⟩
  · exact Function.update_self ..
  · obtain ⟨-, -, rfl⟩ := locked_eq gets
    show ((pins.modify slot fun s => { s with holder := some thread }).slots slot).standing ≠ _
    rw [modify_self]
    exact live.1

theorem does_tryLock : Verified exec Inv InOrder thread (tryLock slot) (Idle thread)
    fun got => if got then Sweeps thread slot else Idle thread := by
  apply Verified.ask (local_stable thread none none [])
  intro pins answers got next inv idle _ performed
  rw [exec] at performed
  split at performed
  · rename_i locked gets
    cases performed
    exact ⟨inv.locked gets, idle.locked gets⟩
  · cases performed
    exact ⟨inv, idle⟩

theorem does_snapshot : Verified exec Inv InOrder thread snapshot (Idle thread)
    fun _ => Idle thread := by
  apply Verified.ask (local_stable thread none none [])
  intro pins answers _ next inv idle _ performed
  cases performed
  exact ⟨inv, idle⟩

theorem Idle.takes {pins : Pins} (idle : Idle thread pins) :
    Waits thread slot
      { pins with waiting := Function.update pins.waiting thread (some slot) } where
  waits := Function.update_self ..
  holds := idle.holds
  hand := idle.hand

/-- A slot changes where it stands, and does not come to the thread. -/
theorem Local.restand {waits holds : Option Nat} {pins : Pins} {standing : Standing}
    {hand rest : List Nat} (known : Local thread waits holds hand pins)
    (here : standing = .leaving thread ↔ slot ∈ rest)
    (others : ∀ other, other ≠ slot → (other ∈ rest ↔ other ∈ hand)) :
    Local thread waits holds rest (pins.setStanding slot standing) where
  waits := known.waits
  holds other := by
    rw [← known.holds other]
    by_cases same : other = slot
    · rw [same, setStanding_self]
    · rw [setStanding_of_ne pins same]
  hand other := by
    by_cases same : other = slot
    · rw [same, setStanding_self]
      exact here
    · rw [setStanding_of_ne pins same, known.hand other, others other same]

theorem Inv.insertSlot_idle {pins : Pins} (inv : pins.Inv) (idle : Idle thread pins) (key : Text)
    (now : Nat) : Waits thread pins.made (pins.insertSlot thread key now) := by
  have unmade : (pins.slots pins.made).standing = .unmade :=
    (inv.unmade pins.made).mpr (Nat.le_refl _)
  refine ⟨Function.update_self .., fun slot => ?_, fun slot => ?_⟩
  · rw [← idle.holds slot]
    by_cases new : slot = pins.made
    · rw [new, insertSlot_self, inv.blank pins.made unmade]
      simp [Slot.new]
    · rw [insertSlot_of_ne pins thread key now new]
  · rw [← idle.hand slot]
    by_cases new : slot = pins.made
    · rw [new, insertSlot_self, unmade]
      simp [Slot.new]
    · rw [insertSlot_of_ne pins thread key now new]

/-- The oldest idle session is handed to a retire task to make room. -/
theorem Inv.evict {pins : Pins} (inv : pins.Inv) {key : Text} {old : Nat}
    (mem : (key, old) ∈ pins.table) : ((pins.removeEntry key).spawnRetire old).Inv :=
  inv.takeOut mem (by simp) ⟨by simp, by simp⟩ (tasks_update (by simp))

theorem Idle.evict {pins : Pins} (inv : pins.Inv) (idle : Idle thread pins) {key : Text}
    {old : Nat} (mem : (key, old) ∈ pins.table) :
    Idle thread ((pins.removeEntry key).spawnRetire old) := by
  have standing := (inv.keyed (key, old) mem).2
  have retires : Idle thread ((pins.removeEntry key).setStanding old .retiring) := by
    have removed : Idle thread (pins.removeEntry key) := ⟨idle.waits, idle.holds, idle.hand⟩
    exact removed.restand (by simp) fun _ _ => Iff.rfl
  exact ⟨retires.waits, retires.holds, retires.hand⟩

theorem does_takeSlot (key : Text) :
    Verified exec Inv InOrder thread (Pooling.takeSlot key) (Idle thread) fun taken =>
      match taken with
      | .ok slot => Waits thread slot
      | .error _ => Idle thread := by
  apply Verified.ask (local_stable thread none none [])
  intro pins answers taken next inv idle _ performed
  change pins.takeSlot thread key answers = _ at performed
  unfold takeSlot at performed
  split at performed
  · rename_i slot found
    cases performed
    have mapped := (inv.keyed (key, slot) (find_mem found)).2
    have same : SameShape slot pins (pins.modify slot fun s => { s with touched := answers.now }) :=
      sameShape_modify pins rfl rfl
    have touched : Inv (pins.modify slot fun s => { s with touched := answers.now }) := by
      apply inv.of_sameShape same inv.well_used (Nat.le_refl _)
      · exact fun unmade => absurd (mapped.symm.trans unmade) (by simp)
      · rw [modify_self]
        exact fun _ has => .inl has
    refine ⟨touched.waits ?_, Idle.takes (idle.of_sameShape same ?_)⟩
    · rw [modify_self]
      exact ⟨by simp [mapped], by simp [mapped]⟩
    · rw [modify_self]
  · rename_i missing
    split at performed
    · split at performed
      · cases performed
        exact ⟨inv, idle⟩
      · split at performed
        · rename_i old found
          split at performed
          · cases performed
            have mem := find_mem found
            have absent : ∀ slot, (key, slot) ∉ (pins.removeEntry answers.victim).table :=
              fun slot here => not_mem_of_find missing slot (List.mem_filter.mp here).1
            have evicted := inv.evict mem
            exact ⟨evicted.insertSlot thread answers.now absent,
              evicted.insertSlot_idle (Idle.evict inv idle mem) key answers.now⟩
          · cases performed
        · cases performed
    · cases performed
      have absent := not_mem_of_find missing
      exact ⟨inv.insertSlot thread answers.now absent, inv.insertSlot_idle idle key answers.now⟩

theorem Inv.remove {pins : Pins} (inv : pins.Inv) {key : Text} (mem : (key, slot) ∈ pins.table)
    (thread : Nat) : ((pins.removeEntry key).setStanding slot (.leaving thread)).Inv := by
  have mapped := (inv.keyed (key, slot) mem).2
  exact inv.takeOut mem (by simp) ⟨by simp, by simp⟩
    (tasks_same (inv.no_task (by simp [mapped])) (by simp))

theorem does_remove (key : Text) :
    Verified exec Inv InOrder thread (Pooling.remove key) (Idle thread) fun removed =>
      match removed with
      | some slot => Removes thread [slot]
      | none => Idle thread := by
  apply Verified.ask (local_stable thread none none [])
  intro pins answers removed next inv idle _ performed
  rw [exec] at performed
  split at performed
  · rename_i slot found
    cases performed
    have removes : Local thread none none [slot]
        ((pins.removeEntry key).setStanding slot (.leaving thread)) := by
      have removed : Idle thread (pins.removeEntry key) := ⟨idle.waits, idle.holds, idle.hand⟩
      exact removed.restand (by simp) (by simp)
    have kept := inv.remove (find_mem found) thread
    exact ⟨{ kept with }, ⟨removes.waits, removes.holds, removes.hand⟩, List.nodup_singleton slot⟩
  · cases performed
    exact ⟨inv, idle⟩

theorem Inv.slots_nodup {pins : Pins} (inv : pins.Inv) : (pins.table.map Prod.snd).Nodup := by
  have entries : pins.table.Nodup := List.Nodup.of_map Prod.fst inv.distinct
  apply List.Nodup.map_on _ entries
  intro first first_mem second second_mem same
  have keys : first.1 = second.1 := by
    rw [← (inv.keyed first first_mem).1, same, (inv.keyed second second_mem).1]
  exact Prod.ext keys same

theorem does_drain : Verified exec Inv InOrder thread drain (Idle thread)
    fun slots => Removes thread slots := by
  apply Verified.ask (local_stable thread none none [])
  intro pins answers slots next inv idle _ performed
  cases performed
  have drained : ∀ slot, (pins.drained thread).slots slot =
      if (pins.slots slot).standing = .mapped then
        { pins.slots slot with standing := .leaving thread } else pins.slots slot := fun _ => rfl
  refine ⟨inv.drained thread, ⟨idle.waits, fun slot => ?_, fun slot => ?_⟩, inv.slots_nodup⟩
  · rw [← idle.holds slot, drained]
    split <;> rfl
  · rw [drained, List.mem_map]
    split
    · rename_i mapped
      exact ⟨fun _ => ⟨_, inv.listed slot mapped, rfl⟩, fun _ => rfl⟩
    · rename_i unmapped
      constructor
      · exact fun leaving => absurd ((idle.hand slot).mp leaving) List.not_mem_nil
      · rintro ⟨entry, mem, rfl⟩
        exact absurd (inv.keyed entry mem).2 unmapped

/-- The thread is done with the first of its slots. -/
theorem mem_rest (rest : List Nat) :
    ∀ other, other ≠ slot → (other ∈ rest ↔ other ∈ slot :: rest) := by
  intro other different
  simp [different]

theorem does_retire (rest : List Nat) :
    Verified exec Inv InOrder thread (retire slot) (Removes thread (slot :: rest))
      fun _ => Removes thread rest := by
  apply Verified.ask (removes_stable thread (slot :: rest))
  intro pins answers _ next inv removes _ performed
  obtain ⟨own, done⟩ := inHand_eq performed
  cases done
  obtain ⟨fresh, nodup⟩ := List.nodup_cons.mp removes.2
  refine ⟨?_, ?_, nodup⟩
  · exact inv.restand rfl rfl ⟨by simp [own], by simp [own]⟩ ⟨by simp, by simp⟩ (by simp)
      (tasks_update (by simp))
  · have retires : Local thread none none rest (pins.setStanding slot .retiring) :=
      removes.1.restand (by simp [fresh]) (mem_rest rest)
    exact ⟨retires.waits, retires.holds, retires.hand⟩

theorem does_board : Verified exec Inv InOrder thread board (Idle thread)
    fun slot => Removes thread [slot] := by
  apply Verified.ask (local_stable thread none none [])
  intro pins answers slot next inv idle _ performed
  rw [exec] at performed
  split at performed
  · rename_i spawned
    cases performed
    have retiring := (inv.tasks _).mp spawned
    refine ⟨?_, ?_, List.nodup_singleton _⟩
    · exact inv.restand rfl rfl ⟨by simp [retiring], by simp [retiring]⟩ ⟨by simp, by simp⟩
        (by simp) (tasks_update (by simp))
    · have boards : Local thread none none [answers.task]
          (pins.setStanding answers.task (.leaving thread)) :=
        Local.restand idle (by simp) (by simp)
      exact ⟨boards.waits, boards.holds, boards.hand⟩
  · cases performed

/-- The thread locks the first of the slots it sees to. -/
theorem Removes.locked {pins next : Pins} {rest : List Nat}
    (removes : Removes thread (slot :: rest) pins)
    (nobody : ∀ runner, pins.waiting runner ≠ some slot)
    (gets : pins.locked thread slot = some next) : Closes thread slot rest next := by
  refine ⟨removes.1.locked gets, removes.2, ?_⟩
  obtain ⟨-, -, rfl⟩ := locked_eq gets
  exact nobody

theorem does_lockRemoved (rest : List Nat) :
    Verified exec Inv InOrder thread (lockRemoved slot) (Removes thread (slot :: rest))
      fun _ => Closes thread slot rest := by
  apply Verified.ask (removes_stable thread (slot :: rest))
  intro pins answers _ next inv removes nobody performed
  obtain ⟨result, gets, taken⟩ := Option.bind_eq_some_iff.mp performed
  obtain ⟨locked, gets_lock, rfl⟩ := Option.map_eq_some_iff.mp gets
  obtain ⟨-, done⟩ := inHand_eq taken
  cases done
  exact ⟨inv.locked gets_lock, removes.locked nobody gets_lock⟩

theorem does_lockInTime (rest : List Nat) :
    Verified exec Inv InOrder thread (lockInTime slot) (Removes thread (slot :: rest))
      fun got => if got then Closes thread slot rest else Removes thread (slot :: rest) := by
  apply Verified.ask (removes_stable thread (slot :: rest))
  intro pins answers got next inv removes nobody performed
  rw [exec] at performed
  split at performed
  · obtain ⟨result, gets, taken⟩ := Option.bind_eq_some_iff.mp performed
    obtain ⟨locked, gets_lock, rfl⟩ := Option.map_eq_some_iff.mp gets
    obtain ⟨-, done⟩ := inHand_eq taken
    cases done
    exact ⟨inv.locked gets_lock, removes.locked nobody gets_lock⟩
  · cases performed
    exact ⟨inv, removes⟩

/-- The slot is done with, its connection closed. -/
theorem does_release (rest : List Nat) :
    Verified exec Inv InOrder thread (release slot)
      (fun pins => Closes thread slot rest pins ∧ (pins.slots slot).state.conn = none)
      fun _ => Removes thread rest := by
  have stable : Stable exec Inv InOrder thread fun pins =>
      Closes thread slot rest pins ∧ (pins.slots slot).state.conn = none := by
    intro other different pins op answers answer next inv known met performed
    have leaves : Leaves thread pins next := exec_leaves inv different performed
    have working := closes_working thread slot rest
    constructor
    · exact working.stable other different pins op answers answer next inv known.1 met performed
    · rw [leaves.session slot (working.holds pins known.1)]
      exact known.2
  apply Verified.ask stable
  intro pins answers _ next inv known _ performed
  obtain ⟨⟨_, _⟩, released, taken⟩ := Option.bind_eq_some_iff.mp performed
  obtain ⟨held, result_eq⟩ := guarded_eq released
  obtain ⟨own, done⟩ := inHand_eq taken
  cases result_eq
  cases done
  obtain ⟨⟨closes, nodup, nobody⟩, closed⟩ := known
  obtain ⟨fresh, rest_nodup⟩ := List.nodup_cons.mp nodup
  have no_task : pins.spawned slot = false := inv.no_task (by simp [own])
  refine ⟨?_, ?_, rest_nodup⟩
  · have kept : Inv { (pins.modify slot fun s => { s with
        holder := none
        standing := .retired }) with spawned := pins.spawned } :=
      inv.restand rfl rfl ⟨by simp [own], by simp [own]⟩ ⟨by simp, by simp⟩
        (fun _ => ⟨closed, nobody⟩) (tasks_same no_task (by simp))
    exact kept
  · have retired : Local thread none none rest
        ((pins.modify slot fun s => { s with holder := none }).setStanding slot .retired) :=
      closes.unlocked.restand (by simp [fresh]) (mem_rest rest)
    have same : (pins.modify slot fun s => { s with holder := none }).setStanding slot .retired =
        pins.modify slot fun s => { s with
          holder := none
          standing := .retired } := by
      simp [modify, setStanding]
    rw [same] at retired
    exact retired

end Pins

end DbFree.Pooling
